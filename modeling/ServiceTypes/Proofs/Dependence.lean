import ServiceTypes.Proofs.Classification
import ServiceTypes.Proofs.References

namespace ServiceTypes

def Shape.interfaces : Shape → List String
  | .object members | .interface members => members.interfaces
  | .inputObject _ | .enum _ | .union _ | .scalar => []

def Shape.unionMembers : Shape → List String
  | .union members => members
  | .object _ | .interface _ | .inputObject _ | .enum _ | .scalar => []

namespace Schema

variable {first second : Schema} {recordsForced : Bool} {type : SchemaType} {members : Members}
  {name : String} {declaration : Declaration}

-- All that the declaration of a type depends on besides the type itself. Interfaces of interfaces
-- are not among it, for flattening looks one level deep.
structure AgreeOn (first second : Schema) (type : SchemaType) : Prop where
  declared : first.isDeclared type.name = second.isDeclared type.name
  references : ∀ reference ∈ type.shape.typeRefs,
    first.describe reference = second.describe reference
  interfaces : ∀ name ∈ type.shape.interfaces, first.interface? name = second.interface? name
  unions : type.name ∈ first.unionMembers ↔ type.name ∈ second.unionMembers

theorem descriptor_congr {reference : TypeRef}
    (same : first.targetDescriptor reference.target = second.targetDescriptor reference.target)
    (nonNull : Bool) :
    first.descriptor nonNull reference = second.descriptor nonNull reference := by
  induction reference generalizing nonNull with
  | named name => exact congrArg _ same
  | list element ih => rw [descriptor, descriptor, ih same]
  | nonNull inner ih => exact ih same true

theorem describe_congr {reference : TypeRef}
    (same : first.targetDescriptor reference.target = second.targetDescriptor reference.target) :
    first.describe reference = second.describe reference :=
  descriptor_congr same false

theorem typedNames_congr {arguments : List Argument}
    (same : ∀ reference ∈ arguments.map Argument.type,
      first.describe reference = second.describe reference) :
    arguments.map first.typedName = arguments.map second.typedName := by
  refine List.map_congr_left fun argument listed => ?_
  rw [typedName, typedName, same argument.type (List.mem_map_of_mem listed)]

theorem method_congr {field : Field}
    (same : ∀ reference ∈ field.typeRefs, first.describe reference = second.describe reference)
    (kind : MethodKind) : first.method kind field = second.method kind field := by
  have params := typedNames_congr fun reference listed =>
    same reference (List.mem_append_left _ listed)
  have returns := same field.type (List.mem_append_right _ (List.mem_singleton_self _))
  rw [method, method, params, returns]

theorem rootMethod_congr {field : Field}
    (same : ∀ reference ∈ field.typeRefs, first.describe reference = second.describe reference)
    (kind : MethodKind) : first.rootMethod kind field = second.rootMethod kind field := by
  cases kind with
  | get | remote => exact method_congr same _
  | subscribe => exact congrArg Method.streamed (method_congr same .subscribe)

theorem includes_congr
    (interfaces : ∀ name ∈ members.interfaces, first.interface? name = second.interface? name) :
    first.includes members = second.includes members := by
  refine List.foldl_ext _ _ _ fun kept round listed => ?_
  rw [impliedBy, impliedBy, interfaces round listed]

theorem uncovered_congr {interfaces : List String} (fields : List Field)
    (same : ∀ name ∈ interfaces, first.interface? name = second.interface? name) :
    first.uncovered fields interfaces = second.uncovered fields interfaces := by
  refine List.foldl_ext _ _ _ fun kept round listed => ?_
  rw [definedBy, definedBy, same round listed]

theorem openRecord_congr
    (references : ∀ reference ∈ members.fields.flatMap Field.typeRefs,
      first.describe reference = second.describe reference) (name : String) :
    first.openRecord name members = second.openRecord name members := by
  unfold openRecord
  rw [Record.mk.injEq]
  refine ⟨rfl, rfl, List.map_congr_left fun field listed => ?_⟩
  rw [references field.type (List.mem_flatMap.mpr ⟨field, listed, by simp [Field.typeRefs]⟩)]

section Methods

variable (references : ∀ reference ∈ members.fields.flatMap Field.typeRefs,
    first.describe reference = second.describe reference)
  (interfaces : ∀ name ∈ members.interfaces, first.interface? name = second.interface? name)

include references interfaces

theorem ownMethods_congr : first.ownMethods members = second.ownMethods members := by
  have included : ∀ name ∈ first.includes members,
      first.interface? name = second.interface? name :=
    fun name listed => interfaces name (mem_of_mem_unimplied listed)
  rw [ownMethods, ownMethods, ← includes_congr interfaces, uncovered_congr members.fields included]
  refine List.map_congr_left fun field kept => ?_
  have inside := (mem_uncovered.mp kept).1
  refine method_congr (fun reference within => ?_) .get
  exact references reference (List.mem_flatMap.mpr ⟨field, inside, within⟩)

theorem serviceClass_congr (name : String) :
    first.serviceClass name members = second.serviceClass name members := by
  unfold serviceClass
  rw [includes_congr interfaces, ownMethods_congr references interfaces]

theorem serviceContract_congr (name : String) :
    first.serviceContract name members = second.serviceContract name members := by
  unfold serviceContract
  rw [includes_congr interfaces, ownMethods_congr references interfaces]

end Methods

theorem mem_unionMembers_of_kept
    (kept : ∀ union ∈ first.types, name ∈ union.shape.unionMembers → union ∈ second.types)
    (listed : name ∈ first.unionMembers) : name ∈ second.unionMembers := by
  obtain ⟨union, member, names, shape, visible, within⟩ := mem_unionMembers.mp listed
  have has : name ∈ union.shape.unionMembers := by
    rw [shape]
    exact within
  exact mem_unionMembers.mpr ⟨union, kept union member has, names, shape, visible, within⟩

theorem choose_congr (same : name ∈ first.unionMembers ↔ name ∈ second.unionMembers)
    (members : Members) :
    Representation.choose recordsForced first.unionMembers name members =
      Representation.choose recordsForced second.unionMembers name members := by
  have contained : first.unionMembers.contains name = second.unionMembers.contains name := by
    rw [Bool.eq_iff_iff, List.contains_iff_mem, List.contains_iff_mem, same]
  unfold Representation.choose fitsRecord
  rw [contained]

theorem closedRecord_congr {fields : List Argument}
    (same : ∀ reference ∈ fields.map Argument.type,
      first.describe reference = second.describe reference) (name : String) :
    first.closedRecord name fields = second.closedRecord name fields := by
  unfold closedRecord
  rw [typedNames_congr same]

theorem AgreeOn.symm (agree : AgreeOn first second type) : AgreeOn second first type where
  declared := agree.declared.symm
  references := fun reference within => (agree.references reference within).symm
  interfaces := fun name listed => (agree.interfaces name listed).symm
  unions := agree.unions.symm

-- What is not asked for has no influence, whatever else the two tables hold.
theorem AgreeOn.declaredAs (agree : AgreeOn first second type)
    (rule : first.DeclaredAs recordsForced type declaration) :
    second.DeclaredAs recordsForced type declaration := by
  have still : second.isDeclared type.name = true := by
    rw [← agree.declared]
    exact rule.isDeclared
  cases rule with
  | inputObject =>
    rw [closedRecord_congr agree.references]
    exact .inputObject still
  | interface =>
    rw [serviceContract_congr agree.references agree.interfaces]
    exact .interface still
  | enum => exact .enum still
  | union _ made => exact .union still made
  | record _ chosen =>
    rw [openRecord_congr agree.references]
    rw [choose_congr agree.unions] at chosen
    exact .record still chosen
  | service _ chosen =>
    rw [serviceClass_congr agree.references agree.interfaces]
    rw [choose_congr agree.unions] at chosen
    exact .service still chosen

theorem AgreeOn.declaration?_eq (agree : AgreeOn first second type) (recordsForced : Bool) :
    first.declaration? recordsForced type = second.declaration? recordsForced type := by
  refine Option.ext fun declaration => ?_
  rw [declaration?_exact, declaration?_exact]
  exact ⟨agree.declaredAs, agree.symm.declaredAs⟩

theorem rootMethods_congr {operation : Option Members}
    (same : ∀ members, operation = some members →
      ∀ reference ∈ members.fields.flatMap Field.typeRefs,
        first.describe reference = second.describe reference) (kind : MethodKind) :
    first.rootMethods kind operation = second.rootMethods kind operation := by
  cases operation with
  | none => rfl
  | some members =>
    refine List.map_congr_left fun field listed => rootMethod_congr ?_ kind
    intro reference within
    exact same members rfl reference (List.mem_flatMap.mpr ⟨field, listed, within⟩)

-- It includes nothing, so the interfaces of the objects that the roots name do not matter.
theorem rootContract_congr (roots : first.roots = second.roots)
    (objects : ∀ name, first.isRoot name = true → first.object? name = second.object? name)
    (references : ∀ name, first.isRoot name = true → ∀ members, first.object? name = some members →
      ∀ reference ∈ members.fields.flatMap Field.typeRefs,
        first.describe reference = second.describe reference) (contract : String) :
    first.rootContract contract = second.rootContract contract := by
  have calls : ∀ (root : Option String), (∀ name, root = some name → first.isRoot name = true) →
      ∀ kind, first.rootMethods kind (root.bind first.object?) =
        second.rootMethods kind (root.bind second.object?) := by
    intro root named kind
    cases root with
    | none => rfl
    | some name =>
      change first.rootMethods kind (first.object? name) =
        second.rootMethods kind (second.object? name)
      rw [← objects name (named name rfl)]
      exact rootMethods_congr (references name (named name rfl)) kind
  unfold rootContract query? mutation? subscription?
  rw [← roots, calls first.roots.query (by simp +contextual [isRoot]),
    calls first.roots.mutation (by simp +contextual [isRoot]),
    calls first.roots.subscription (by simp +contextual [isRoot])]

end Schema

end ServiceTypes
