import Mathlib.Data.List.Forall2
import ServiceTypes.Proofs.Alternatives
import ServiceTypes.Proofs.Sections
import ServiceTypes.Source

namespace ServiceTypes.Schema

variable {schema : Schema} {recordsForced : Bool} {type : SchemaType} {name : String}
  {members : Members}

theorem declaration_names (schema : Schema) (recordsForced : Bool) (types : List SchemaType) :
    (types.filterMap (schema.declaration? recordsForced)).map Declaration.name =
      (types.filter schema.declares).map SchemaType.name := by
  simp only [List.map_filterMap, declaration?_name]
  induction types with
  | nil => rfl
  | cons type rest ih => cases declares : schema.declares type <;> simp [declares, ih]

theorem mem_declared_names : name ∈ (schema.declarations recordsForced).map Declaration.name ↔
    ∃ type ∈ schema.types, schema.declares type = true ∧ type.name = name := by
  constructor
  · intro present
    obtain ⟨declaration, inside, rfl⟩ := List.mem_map.mp present
    obtain ⟨type, member, rule⟩ := mem_declarations.mp inside
    refine ⟨type, member, ?_, rule.name_eq.symm⟩
    rw [← schema.declaration?_isSome recordsForced, declaration?_exact.mpr rule]
    rfl
  · intro needed
    obtain ⟨type, member, declares, rfl⟩ := needed
    rw [← schema.declaration?_isSome recordsForced] at declares
    obtain ⟨declaration, found⟩ := Option.isSome_iff_exists.mp declares
    have rule := declaration?_exact.mp found
    rw [← rule.name_eq]
    exact List.mem_map_of_mem (mem_declarations.mpr ⟨type, member, rule⟩)

theorem declared_names_nodup (schema : Schema) (recordsForced : Bool) :
    ((schema.declarations recordsForced).map Declaration.name).Nodup := by
  rw [declarations_eq_flatMap, List.map_flatMap, List.nodup_flatMap]
  simp only [declaration_names]
  constructor
  · intro kind _
    have within := (List.filter_sublist (p := schema.declares)).trans
      (List.filter_sublist (l := schema.types) (p := fun type => type.kind = kind))
    exact (within.map SchemaType.name).nodup schema.names_nodup
  · have apart : Kind.inWritingOrder.Nodup := by decide
    refine apart.imp fun {kind other} differs => ?_
    intro name inside within
    obtain ⟨type, kept, rfl⟩ := List.mem_map.mp inside
    obtain ⟨twin, held, same⟩ := List.mem_map.mp within
    simp only [List.mem_filter, decide_eq_true_eq] at kept held
    obtain rfl := eq_of_name_eq held.1.1 kept.1.1 same
    exact differs (kept.1.2.symm.trans held.1.2)

theorem filter_name_declarations (member : type ∈ schema.types) (recordsForced : Bool) :
    (schema.declarations recordsForced).filter (·.name = type.name) =
      (schema.declaration? recordsForced type).toList := by
  have only : ∀ declaration ∈ schema.declarations recordsForced, declaration.name = type.name →
      schema.declaration? recordsForced type = some declaration := by
    intro declaration inside named
    obtain ⟨twin, present, rule⟩ := mem_declarations.mp inside
    obtain rfl := eq_of_name_eq present member (rule.name_eq.symm.trans named)
    exact declaration?_exact.mpr rule
  cases found : schema.declaration? recordsForced type with
  | none =>
    refine List.filter_eq_nil_iff.mpr fun declaration inside named => ?_
    have placed := only declaration inside (by simpa using named)
    rw [found] at placed
    cases placed
  | some declaration =>
    have rule := declaration?_exact.mp found
    have inside : declaration ∈ schema.declarations recordsForced :=
      mem_declarations.mpr ⟨type, member, rule⟩
    have same : ∀ other ∈ schema.declarations recordsForced,
        decide (other.name = type.name) = decide (other = declaration) := by
      intro other present
      refine decide_eq_decide.mpr ⟨fun named => ?_, fun equal => equal ▸ rule.name_eq⟩
      have placed := only other present named
      rw [found] at placed
      exact (Option.some.inj placed).symm
    -- No declaration comes twice, so the filter leaves the one that is there.
    have once : (schema.declarations recordsForced).Nodup :=
      (declared_names_nodup schema recordsForced).of_map _
    rw [List.filter_congr same, List.filter_eq, List.count_eq_one_of_mem once inside]
    rfl

def isRootObject (schema : Schema) (type : SchemaType) : Bool :=
  (schema.roots.query = some type.name && schema.query?.isSome)
    || (schema.roots.mutation = some type.name && schema.mutation?.isSome)
    || (schema.roots.subscription = some type.name && schema.subscription?.isSome)

theorem isRootObject_of_object (member : type ∈ schema.types)
    (shape : type.shape = .object members) :
    schema.isRootObject type = schema.isRoot type.name := by
  have found : schema.object? type.name = some members := object?_eq_some.mpr (shape ▸ member)
  have answers : ∀ root : Option String, (decide (root = some type.name)
      && (root.bind schema.object?).isSome) = decide (root = some type.name) := by
    intro root
    by_cases same : root = some type.name <;> simp [same, found]
  simp only [isRootObject, isRoot, query?, mutation?, subscription?, answers]

-- Types that are never declared, for what they are called or for having nothing to be declared.
def isPassedOver (schema : Schema) (type : SchemaType) : Bool :=
  schema.isRoot type.name || isIntrospective type.name || type.shape = .union []

theorem declares_eq_not_passedOver (schema : Schema) (written : type.kind ≠ .scalar) :
    schema.declares type = !schema.isPassedOver type := by
  have needed : type.shape.needsDeclaration = !decide (type.shape = .union []) := by
    cases shape : type.shape with
    | scalar => exact absurd (congrArg Shape.kind shape) written
    | union names => cases names <;> simp [Shape.needsDeclaration]
    | _ => simp [Shape.needsDeclaration]
  simp only [declares, isDeclared, isPassedOver, needed, Bool.not_or]
  rw [Bool.and_comm (!isIntrospective type.name)]

theorem declares_eq (schema : Schema) (written : type.kind ≠ .scalar)
    (visible : isIntrospective type.name = false) (inhabited : type.shape ≠ .union []) :
    schema.declares type = !schema.isRoot type.name := by
  simp [declares_eq_not_passedOver schema written, isPassedOver, visible, inhabited]

-- Roots are passed over by name, while the contract asks for objects. So exactly those types are in
-- neither that bear the name of a root operation and are no objects.
theorem declared_iff_not_root (schema : Schema) (name : String) (recordsForced : Bool)
    (type : SchemaType) (member : type ∈ schema.types) (written : type.kind ≠ .scalar)
    (visible : isIntrospective type.name = false) (inhabited : type.shape ≠ .union [])
    (uncalled : schema.isRootObject type = false) :
    ((∃ declaration ∈ (schema.toModule name recordsForced).declarations.tail,
      declaration.name = type.name) ↔ schema.isRoot type.name = false) ∧
    (schema.isRoot type.name = true → type.kind ≠ .object) := by
  have declares := declares_eq schema written visible inhabited
  constructor
  · change (∃ declaration ∈ schema.declarations recordsForced, declaration.name = type.name) ↔ _
    rw [← List.mem_map, mem_declared_names]
    constructor
    · intro inside
      obtain ⟨twin, present, declared, same⟩ := inside
      obtain rfl := eq_of_name_eq present member same
      simpa [declares] using declared
    · intro unrooted
      exact ⟨type, member, by rw [declares, unrooted]; rfl, rfl⟩
  · intro root isObject
    cases shape : type.shape with
    | object members =>
      rw [isRootObject_of_object member shape, root] at uncalled
      cases uncalled
    | _ => simp [SchemaType.kind, Shape.kind, shape] at isObject

def alertSchema : Schema :=
  (Schema.empty.insert ⟨"Subscription", .interface ⟨[⟨"id", .named "ID", []⟩], []⟩⟩).insert
    ⟨"Alert", .object ⟨[⟨"source", .named "Subscription", []⟩], []⟩⟩

theorem alert_declared :
    (∃ declaration ∈ (alertSchema.toModule "Alerts" false).declarations.tail,
      declaration.name = "Alert") ∧
    ¬ (∃ declaration ∈ (alertSchema.toModule "Alerts" false).declarations.tail,
      declaration.name = "Subscription") := by
  have alert := declared_iff_not_root alertSchema "Alerts" false
    ⟨"Alert", .object ⟨[⟨"source", .named "Subscription", []⟩], []⟩⟩
    (by decide) (by decide) (by decide) (by decide) (by decide)
  have source := declared_iff_not_root alertSchema "Alerts" false
    ⟨"Subscription", .interface ⟨[⟨"id", .named "ID", []⟩], []⟩⟩
    (by decide) (by decide) (by decide) (by decide) (by decide)
  refine ⟨alert.1.mpr (by decide), ?_⟩
  intro present
  exact absurd (source.1.mp present) (by decide)

theorem interface_called_like_root_lost :
    ¬ ∀ (schema : Schema) (name : String) (recordsForced : Bool), ∀ type ∈ schema.types,
      type.kind ≠ .scalar → isIntrospective type.name = false → type.shape ≠ .union [] →
      schema.isRootObject type = false →
      ∃ declaration ∈ (schema.toModule name recordsForced).declarations.tail,
        declaration.name = type.name := by
  intro kept
  obtain ⟨declaration, present, named⟩ := kept alertSchema "Alerts" false
    ⟨"Subscription", .interface ⟨[⟨"id", .named "ID", []⟩], []⟩⟩
    (by decide) (by decide) (by decide) (by decide) (by decide)
  have others : ∀ declaration ∈ (alertSchema.toModule "Alerts" false).declarations.tail,
      declaration.name ≠ "Subscription" := by decide
  exact others declaration present named

variable {declaration other : Declaration}

end ServiceTypes.Schema
