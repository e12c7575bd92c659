import Mathlib.Data.List.Nodup
import ServiceTypes.Declaration.Basic
import ServiceTypes.Schema

namespace ServiceTypes

namespace Schema

variable {schema : Schema} {type other : SchemaType} {name : String} {members : Members}

theorem eq_of_name_eq (member : type ∈ schema.types) (present : other ∈ schema.types)
    (same : type.name = other.name) : type = other :=
  List.inj_on_of_nodup_map schema.names_nodup member present same

theorem get?_eq_some : schema.get? name = some type ↔ type ∈ schema.types ∧ type.name = name := by
  constructor
  · intro found
    exact ⟨List.mem_of_find?_eq_some found, by simpa using List.find?_some found⟩
  · intro placed
    obtain ⟨member, rfl⟩ := placed
    cases found : schema.get? type.name with
    | none => simpa using List.find?_eq_none.mp found type member
    | some other =>
      have present : other ∈ schema.types := List.mem_of_find?_eq_some found
      have same : other.name = type.name := by simpa using List.find?_some found
      rw [eq_of_name_eq present member same]

theorem get?_eq_some_mk {shape : Shape} :
    schema.get? name = some ⟨name, shape⟩ ↔ ⟨name, shape⟩ ∈ schema.types := by
  rw [get?_eq_some]
  exact and_iff_left rfl

theorem kind?_eq_some {kind : Kind} :
    schema.kind? name = some kind ↔ ∃ type ∈ schema.types, type.name = name ∧ type.kind = kind := by
  rw [kind?, Option.map_eq_some_iff]
  constructor
  · intro found
    obtain ⟨type, got, same⟩ := found
    obtain ⟨member, named⟩ := get?_eq_some.mp got
    exact ⟨type, member, named, same⟩
  · intro placed
    obtain ⟨type, member, named, same⟩ := placed
    exact ⟨type, get?_eq_some.mpr ⟨member, named⟩, same⟩

theorem interface?_eq_some :
    schema.interface? name = some members ↔ ⟨name, .interface members⟩ ∈ schema.types := by
  rw [← get?_eq_some_mk, interface?]
  cases got : schema.get? name with
  | none => simp
  | some type =>
    obtain ⟨-, rfl⟩ := get?_eq_some.mp got
    obtain ⟨name, shape⟩ := type
    cases shape <;> simp

theorem object?_eq_some :
    schema.object? name = some members ↔ ⟨name, .object members⟩ ∈ schema.types := by
  rw [← get?_eq_some_mk, object?]
  cases got : schema.get? name with
  | none => simp
  | some type =>
    obtain ⟨-, rfl⟩ := get?_eq_some.mp got
    obtain ⟨name, shape⟩ := type
    cases shape <;> simp

theorem root?_eq_some {root : Option String} :
    root.bind schema.object? = some members ↔
      ∃ name, root = some name ∧ ⟨name, .object members⟩ ∈ schema.types := by
  simp only [Option.bind_eq_some_iff, object?_eq_some]

theorem get?_eq_none : schema.get? name = none ↔ ∀ type ∈ schema.types, type.name ≠ name := by
  simp [get?, List.find?_eq_none]

theorem mem_place {types : List SchemaType} (present : other ∈ (place type types).2) :
    other = type ∨ other ∈ types := by
  induction types with
  | nil => exact .inl (List.mem_singleton.mp present)
  | cons head rest ih =>
    rw [place] at present
    split at present
    · exact (List.mem_cons.mp present).imp_right (List.mem_cons_of_mem head)
    · rcases List.mem_cons.mp present with rfl | behind
      · exact .inr (List.mem_cons_self ..)
      · exact (ih behind).imp_right (List.mem_cons_of_mem head)

-- Only the entry of that name is touched. All others stay, and in their order.
theorem place_others (type : SchemaType) (types : List SchemaType) :
    (place type types).2.filter (·.name ≠ type.name) = types.filter (·.name ≠ type.name) := by
  induction types with
  | nil => simp [place]
  | cons head rest ih =>
    rw [place]
    split
    · rename_i same
      simp [same]
    · rename_i differs
      simp only [List.filter_cons, ih]

theorem place_of_absent {types : List SchemaType}
    (absent : ∀ other ∈ types, other.name ≠ type.name) :
    (place type types).2 = types ++ [type] := by
  induction types with
  | nil => rfl
  | cons head rest ih =>
    have behind := ih fun other present => absent other (List.mem_cons_of_mem head present)
    rw [place, if_neg (absent head (List.mem_cons_self ..)), List.cons_append, ← behind]

theorem mem_place_self (type : SchemaType) (types : List SchemaType) :
    type ∈ (place type types).2 := by
  induction types with
  | nil => exact List.mem_singleton_self type
  | cons head rest ih =>
    rw [place]
    split
    · exact List.mem_cons_self ..
    · exact List.mem_cons_of_mem _ ih

theorem get?_insert_self : (schema.insert type).get? type.name = some type :=
  get?_eq_some.mpr ⟨mem_place_self type schema.types, rfl⟩

theorem eraseDups_concat (names : List String) (name : String) :
    (names ++ [name]).eraseDups =
      if name ∈ names then names.eraseDups else names.eraseDups ++ [name] := by
  rw [List.eraseDups_append]
  by_cases known : name ∈ names <;> simp [List.removeAll, known, List.eraseDups_cons]

-- A name keeps the place where it first came in.
theorem insert_names {names : List String} (sofar : schema.types.map SchemaType.name = names.eraseDups)
    (type : SchemaType) :
    (schema.insert type).types.map SchemaType.name = (names ++ [type.name]).eraseDups := by
  change (place type schema.types).2.map SchemaType.name = _
  rw [place_names, sofar, eraseDups_concat]
  simp only [List.mem_eraseDups]

theorem place_displaced (type : SchemaType) (types : List SchemaType) :
    (place type types).1 = types.find? (·.name = type.name) := by
  induction types with
  | nil => rfl
  | cons head rest ih =>
    rw [place, List.find?_cons]
    by_cases same : head.name = type.name
    · simp [same]
    · simp [same, ih]

theorem exchange_displaced (schema : Schema) (type : SchemaType) :
    (schema.exchange type).1 = schema.get? type.name :=
  place_displaced type schema.types

theorem insert_others (schema : Schema) (type : SchemaType) :
    (schema.insert type).types.filter (·.name ≠ type.name) =
      schema.types.filter (·.name ≠ type.name) :=
  place_others type schema.types

theorem mem_insert_of_ne (differs : other.name ≠ type.name) :
    other ∈ (schema.insert type).types ↔ other ∈ schema.types := by
  have kept : other ∈ (schema.insert type).types.filter (·.name ≠ type.name) ↔
      other ∈ schema.types.filter (·.name ≠ type.name) := by rw [insert_others]
  simpa [differs] using kept

theorem get?_insert_of_ne (differs : name ≠ type.name) :
    (schema.insert type).get? name = schema.get? name := by
  refine Option.ext fun found => ?_
  rw [get?_eq_some, get?_eq_some]
  refine and_congr_left fun named => mem_insert_of_ne ?_
  rwa [named]

end Schema

-- The one name inside a written type. There is none where it is primitive at heart.
def Descriptor.target? : Descriptor → Option String
  | primitive _ => none
  | named name => some name
  | array inner | optional inner | stream inner => inner.target?

@[simp] theorem Descriptor.target?_nullableUnless (nonNull : Bool) (descriptor : Descriptor) :
    (descriptor.nullableUnless nonNull).target? = descriptor.target? := by
  cases nonNull <;> rfl

namespace Schema

variable {schema : Schema} {type : SchemaType} {reference : TypeRef} {name other : String}

def IsReferable (schema : Schema) (name : String) : Prop :=
  ∃ type ∈ schema.types, type.name = name ∧ type.kind ≠ .scalar

theorem isReferable_iff :
    schema.IsReferable name ↔ ∃ kind, schema.kind? name = some kind ∧ kind ≠ .scalar := by
  constructor
  · intro referable
    obtain ⟨type, member, named, written⟩ := referable
    exact ⟨type.kind, kind?_eq_some.mpr ⟨type, member, named, rfl⟩, written⟩
  · intro found
    obtain ⟨kind, got, written⟩ := found
    obtain ⟨type, member, named, rfl⟩ := kind?_eq_some.mp got
    exact ⟨type, member, named, written⟩

theorem targetDescriptor_target? :
    (schema.targetDescriptor name).target? = some other ↔ name = other ∧ schema.IsReferable name := by
  rw [isReferable_iff, targetDescriptor]
  cases found : schema.kind? name with
  | none => simp [Descriptor.target?]
  | some kind => cases kind <;> simp [Descriptor.target?]

theorem targetDescriptor_of_referable (referable : schema.IsReferable name) :
    schema.targetDescriptor name = .named name := by
  obtain ⟨kind, found, written⟩ := isReferable_iff.mp referable
  rw [targetDescriptor, found]
  cases kind with
  | scalar => exact absurd rfl written
  | _ => rfl

theorem targetDescriptor_of_not_referable (unknown : ¬ schema.IsReferable name) :
    schema.targetDescriptor name = .primitive (.ofScalar name) := by
  rw [isReferable_iff] at unknown
  unfold targetDescriptor
  cases found : schema.kind? name with
  | none => rfl
  | some kind =>
    by_cases scalar : kind = .scalar
    · rw [scalar]
    · exact absurd ⟨kind, found, scalar⟩ unknown

theorem descriptor_target? (schema : Schema) (nonNull : Bool) (reference : TypeRef) :
    (schema.descriptor nonNull reference).target? =
      (schema.targetDescriptor reference.target).target? := by
  induction reference generalizing nonNull with
  | named name => simp [descriptor, TypeRef.target]
  | list element ih => simp [descriptor, TypeRef.target, Descriptor.target?, ih]
  | nonNull inner ih => exact ih true

theorem describe_target? : (schema.describe reference).target? = some name ↔
    reference.target = name ∧ schema.IsReferable reference.target := by
  rw [describe, descriptor_target?, targetDescriptor_target?]

end Schema

end ServiceTypes
