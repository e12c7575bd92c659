import Mathlib.Logic.Relation
import Mathlib.Order.WellFoundedSet
import ServiceTypes.Proofs.Table
import ServiceTypes.Schema

namespace ServiceTypes

-- Striking out in rounds is striking out at once.
theorem foldl_filter {α β : Type} (keep : β → α → Bool) (rounds : List β) (start : List α) :
    rounds.foldl (fun kept round => kept.filter (keep round)) start =
      start.filter fun item => rounds.all (keep · item) := by
  induction rounds generalizing start with
  | nil => simp
  | cons round rest ih =>
    rw [List.foldl_cons, ih, List.filter_filter]
    refine List.filter_congr fun item _ => ?_
    rw [List.all_cons, Bool.and_comm]

namespace Schema

variable {schema : Schema} {name upper lower : String} {members : Members}
  {declared interfaces : List String} {field : Field} {fields : List Field}

def Lists (schema : Schema) (name other : String) : Prop :=
  ∃ members, schema.interface? name = some members ∧ other ∈ members.interfaces

theorem mem_impliedBy :
    lower ∈ schema.impliedBy upper ↔ schema.Lists upper lower ∧ lower ≠ upper := by
  cases found : schema.interface? upper <;> simp [impliedBy, Lists, found]

theorem unimplied_eq_filter (schema : Schema) (declared : List String) :
    schema.unimplied declared =
      declared.filter fun name => declared.all (name ∉ schema.impliedBy ·) :=
  foldl_filter (fun round name => decide (name ∉ schema.impliedBy round)) declared declared

theorem uncovered_eq_filter (schema : Schema) (fields : List Field) (interfaces : List String) :
    schema.uncovered fields interfaces =
      fields.filter fun field => interfaces.all (field.name ∉ schema.definedBy ·) :=
  foldl_filter (fun round (field : Field) => decide (field.name ∉ schema.definedBy round))
    interfaces fields

theorem mem_unimplied : name ∈ schema.unimplied declared ↔
    name ∈ declared ∧ ∀ other ∈ declared, other ≠ name → ¬ schema.Lists other name := by
  rw [unimplied_eq_filter, List.mem_filter]
  simp only [List.all_eq_true, decide_eq_true_eq, mem_impliedBy, not_and']
  refine and_congr_right fun _ => forall₂_congr fun other _ => ?_
  rw [ne_comm]

theorem mem_of_mem_unimplied (kept : name ∈ schema.unimplied declared) : name ∈ declared :=
  (mem_unimplied.mp kept).1

theorem mem_uncovered : field ∈ schema.uncovered fields interfaces ↔
    field ∈ fields ∧ ∀ name ∈ interfaces, field.name ∉ schema.definedBy name := by
  simp [uncovered_eq_filter]

theorem definedBy_eq (found : schema.interface? name = some members) :
    schema.definedBy name = members.fields.map Field.name := by
  simp [definedBy, found]

theorem wellFoundedOn_names {relation : String → String → Prop}
    (acyclic : ∀ name, ¬ Relation.TransGen relation name name) (schema : Schema) :
    {name | name ∈ schema.types.map SchemaType.name}.WellFoundedOn
      fun lower upper => Relation.TransGen relation upper lower := by
  have : IsStrictOrder String fun lower upper => Relation.TransGen relation upper lower :=
    { irrefl := acyclic
      trans := fun _ _ _ upper lower => lower.trans upper }
  exact (List.finite_toSet _).wellFoundedOn

end Schema

end ServiceTypes
