import Mathlib.Data.Finset.Card
import Mathlib.Data.List.Induction
import ServiceTypes.Proofs.Table

namespace ServiceTypes

inductive Edit where
  | insert (type : SchemaType)
  | setRoots (roots : Roots)
  deriving DecidableEq

namespace Edit

def type? : Edit → Option SchemaType
  | insert type => some type
  | setRoots _ => none

def roots? : Edit → Option Roots
  | insert _ => none
  | setRoots roots => some roots

def apply (schema : Schema) : Edit → Schema
  | insert type => schema.insert type
  | setRoots roots => schema.withRoots roots

end Edit

abbrev History := List Edit

namespace History

def schema (history : History) : Schema := history.foldl Edit.apply .empty

def inserted (history : History) : List SchemaType := history.filterMap Edit.type?

def names (history : History) : List String := history.inserted.map SchemaType.name

def last? (history : History) (name : String) : Option SchemaType :=
  history.inserted.findRev? (·.name = name)

def roots (history : History) : Roots := (history.filterMap Edit.roots?).getLast?.getD {}

variable {history : History} {name : String}

theorem inserted_insert (history : History) (type : SchemaType) :
    History.inserted (history ++ [.insert type]) = history.inserted ++ [type] :=
  List.filterMap_append

theorem inserted_setRoots (history : History) (roots : Roots) :
    History.inserted (history ++ [.setRoots roots]) = history.inserted := by
  simp [inserted, Edit.type?]

theorem last?_insert (history : History) (type : SchemaType) (name : String) :
    History.last? (history ++ [.insert type]) name =
      if type.name = name then some type else history.last? name := by
  rw [last?, last?, inserted_insert, List.findRev?_eq_find?_reverse,
    List.findRev?_eq_find?_reverse, List.reverse_append, List.reverse_singleton,
    List.singleton_append, List.find?_cons]
  by_cases same : type.name = name <;> simp [same]

theorem roots_insert (history : History) (type : SchemaType) :
    History.roots (history ++ [.insert type]) = history.roots := by
  simp [History.roots, Edit.roots?]

theorem roots_setRoots (history : History) (roots : Roots) :
    History.roots (history ++ [.setRoots roots]) = roots := by
  simp [History.roots, Edit.roots?]

theorem last?_eq_none : history.last? name = none ↔ name ∉ history.names := by
  simp [last?, names, List.findRev?_eq_find?_reverse]

end History

namespace Schema

variable {schema : Schema} {history : History}

-- What stays true of a schema and its history from call to call. The names and their last
-- insertions settle the whole table.
structure Follows (schema : Schema) (history : History) : Prop where
  names : schema.types.map SchemaType.name = history.names.eraseDups
  found : ∀ name, schema.get? name = history.last? name
  roots : schema.roots = history.roots

theorem Follows.insert (follows : schema.Follows history) (type : SchemaType) :
    (schema.insert type).Follows (history ++ [.insert type]) := by
  constructor
  · rw [insert_names follows.names, History.names, History.names, History.inserted_insert,
      List.map_append]
    rfl
  · intro name
    rw [History.last?_insert]
    split
    · rename_i same
      rw [← same, get?_insert_self]
    · rename_i differs
      rw [get?_insert_of_ne (Ne.symm differs), follows.found]
  · rw [History.roots_insert]
    exact follows.roots

theorem Follows.setRoots (follows : schema.Follows history) (roots : Roots) :
    (schema.withRoots roots).Follows (history ++ [.setRoots roots]) := by
  constructor
  · rw [History.names, History.inserted_setRoots]
    exact follows.names
  · intro name
    rw [History.last?, History.inserted_setRoots]
    exact follows.found name
  · exact (History.roots_setRoots history roots).symm

theorem Follows.apply (follows : schema.Follows history) (edit : Edit) :
    (edit.apply schema).Follows (history ++ [edit]) := by
  cases edit with
  | insert type => exact follows.insert type
  | setRoots roots => exact follows.setRoots roots

theorem follows_history (history : History) : history.schema.Follows history := by
  induction history using List.reverseRecOn with
  | nil => exact ⟨rfl, fun _ => rfl, rfl⟩
  | append_singleton history edit ih =>
    rw [History.schema, List.foldl_append]
    exact ih.apply edit

theorem Follows.size_eq (follows : schema.Follows history) :
    schema.size = history.names.toFinset.card := by
  have same : (schema.types.map SchemaType.name).toFinset = history.names.toFinset := by
    ext name
    rw [follows.names, List.mem_toFinset, List.mem_toFinset, List.mem_eraseDups]
  rw [← same, List.toFinset_card_of_nodup schema.names_nodup, List.length_map, size]

theorem Follows.isEmpty_iff (follows : schema.Follows history) :
    schema.isEmpty = true ↔ history.names = [] := by
  rw [← List.toFinset_eq_empty_iff, ← Finset.card_eq_zero, ← follows.size_eq, size, isEmpty,
    List.isEmpty_iff_length_eq_zero]

-- Every history is also what stands before one more call, so this says what each insertion answers.
theorem table_follows_calls (history : History) :
    ((history.schema.types.map SchemaType.name).Nodup ∧
      history.schema.types.map SchemaType.name = history.names.eraseDups ∧
      ∀ type ∈ history.schema.types, history.last? type.name = some type) ∧
    (∀ name, history.schema.get? name = history.last? name ∧
      (history.schema.get? name = none ↔ name ∉ history.names) ∧
      (∀ type, history.schema.get? name = some type ↔
        type ∈ history.schema.types ∧ type.name = name) ∧
      (∀ kind, history.schema.kind? name = some kind ↔
        ∃ type ∈ history.schema.types, type.name = name ∧ type.kind = kind) ∧
      (∀ members, history.schema.object? name = some members ↔
        ⟨name, .object members⟩ ∈ history.schema.types) ∧
      (∀ members, history.schema.interface? name = some members ↔
        ⟨name, .interface members⟩ ∈ history.schema.types)) ∧
    (∀ type, (history.schema.exchange type).1 = history.schema.get? type.name) ∧
    history.schema.size = history.names.toFinset.card ∧
    (history.schema.isEmpty = true ↔ history.names = []) ∧
    (∀ roots, (history.schema.withRoots roots).types = history.schema.types) ∧
    (∀ type, (history.schema.insert type).roots = history.schema.roots) ∧
    (∀ members,
      (history.schema.query? = some members ↔
        ∃ name, history.roots.query = some name ∧
          ⟨name, .object members⟩ ∈ history.schema.types) ∧
      (history.schema.mutation? = some members ↔
        ∃ name, history.roots.mutation = some name ∧
          ⟨name, .object members⟩ ∈ history.schema.types) ∧
      (history.schema.subscription? = some members ↔
        ∃ name, history.roots.subscription = some name ∧
          ⟨name, .object members⟩ ∈ history.schema.types)) := by
  have follows := follows_history history
  refine ⟨⟨history.schema.names_nodup, follows.names, ?_⟩, ?_, history.schema.exchange_displaced,
    follows.size_eq, follows.isEmpty_iff, fun _ => rfl, fun _ => rfl, ?_⟩
  · intro type member
    rw [← follows.found]
    exact get?_eq_some.mpr ⟨member, rfl⟩
  · intro name
    have absent : history.schema.get? name = none ↔ name ∉ history.names := by
      rw [follows.found, History.last?_eq_none]
    exact ⟨follows.found name, absent, fun _ => get?_eq_some, fun _ => kind?_eq_some,
      fun _ => object?_eq_some, fun _ => interface?_eq_some⟩
  · intro members
    rw [← follows.roots]
    exact ⟨root?_eq_some, root?_eq_some, root?_eq_some⟩

example :
    let history : History := [.insert ⟨"Query", .object {}⟩, .insert ⟨"Node", .interface {}⟩,
      .setRoots { query := some "Node" }, .insert ⟨"Node", .object {}⟩, .insert ⟨"Query", .scalar⟩]
    history.schema.types.map SchemaType.kind = [.scalar, .object] ∧
      history.schema.query? = some {} ∧ (History.schema (history.take 3)).query? = none := by
  decide

end Schema

end ServiceTypes
