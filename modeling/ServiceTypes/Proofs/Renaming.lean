import Mathlib.Data.List.Basic
import Mathlib.Logic.Equiv.Basic
import ServiceTypes.Proofs.Cover
import ServiceTypes.Proofs.References

namespace ServiceTypes

-- Other names for types. The scalars that are no strings keep theirs, and no name crosses the line
-- to introspection.
structure Renaming where
  rename : String → String
  injective : Function.Injective rename
  scalars : ∀ name ∈ ["Int", "Float", "Boolean"], rename name = name
  introspective : ∀ name, isIntrospective (rename name) = isIntrospective name

instance : CoeFun Renaming fun _ => String → String := ⟨Renaming.rename⟩

variable (new : Renaming)

-- Names of types change wherever they stand; fields, arguments and values of enums keep theirs.
def TypeRef.renamed : TypeRef → TypeRef
  | named name => named (new name)
  | list element => list (element.renamed)
  | nonNull inner => nonNull inner.renamed

def Argument.renamed (argument : Argument) : Argument :=
  { argument with type := argument.type.renamed new }

def Field.renamed (field : Field) : Field where
  name := field.name
  type := field.type.renamed new
  arguments := field.arguments.map (Argument.renamed new)

def Members.renamed (members : Members) : Members where
  fields := members.fields.map (Field.renamed new)
  interfaces := members.interfaces.map new

def Shape.renamed : Shape → Shape
  | object members => object (members.renamed new)
  | interface members => interface (members.renamed new)
  | inputObject fields => inputObject (fields.map (Argument.renamed new))
  | enum values => enum values
  | union members => union (members.map new)
  | scalar => scalar

def SchemaType.renamed (type : SchemaType) : SchemaType :=
  ⟨new type.name, type.shape.renamed new⟩

def Roots.renamed (roots : Roots) : Roots where
  query := roots.query.map new
  mutation := roots.mutation.map new
  subscription := roots.subscription.map new

def Schema.renamed (schema : Schema) : Schema where
  types := schema.types.map (SchemaType.renamed new)
  roots := schema.roots.renamed new
  names_nodup := by
    have distinct := schema.names_nodup.map new.injective
    rw [List.map_map] at distinct ⊢
    exact distinct

def Descriptor.renamed : Descriptor → Descriptor
  | primitive scalar => primitive scalar
  | named name => named (new name)
  | array element => array element.renamed
  | optional inner => optional inner.renamed
  | stream element => stream element.renamed

def TypedName.renamed (typed : TypedName) : TypedName :=
  { typed with type := typed.type.renamed new }

def Method.renamed (method : Method) : Method where
  kind := method.kind
  name := method.name
  params := method.params.map (TypedName.renamed new)
  returns := method.returns.renamed new

def Alternatives.renamed : Alternatives → Alternatives
  | member name => member (new name)
  | either left right => either left.renamed right.renamed

def Declaration.renamed : Declaration → Declaration
  | record r => .record ⟨new r.name, r.closed, r.fields.map (TypedName.renamed new)⟩
  | service s => .service ⟨new s.name, s.distinct, s.includes.map new,
      s.methods.map (Method.renamed new)⟩
  | interface c => .interface ⟨new c.name, c.includes.map new,
      c.methods.map (Method.renamed new)⟩
  | enum e => .enum ⟨new e.name, e.members⟩
  | union u => .union ⟨new u.name, u.alternatives.renamed new⟩
  | root c => .root ⟨c.name, c.base, c.methods.map (Method.renamed new)⟩

def SourceModule.renamed (module : SourceModule) : SourceModule :=
  { module with declarations := module.declarations.map (Declaration.renamed new) }

namespace Renaming

variable {name other : String} {names : List String}

theorem eq_iff : new name = new other ↔ name = other := new.injective.eq_iff

theorem eq_scalar_iff {scalar : String} (fixed : scalar ∈ ["Int", "Float", "Boolean"]) :
    new name = scalar ↔ name = scalar := by
  calc new name = scalar ↔ new name = new scalar := by rw [new.scalars scalar fixed]
    _ ↔ name = scalar := new.eq_iff

theorem mem_iff : new name ∈ names.map new ↔ name ∈ names :=
  List.mem_map_of_injective new.injective

theorem ofScalar_eq (name : String) : Primitive.ofScalar (new name) = .ofScalar name := by
  have int : new name = "Int" ↔ name = "Int" := new.eq_scalar_iff (by simp)
  have float : new name = "Float" ↔ name = "Float" := new.eq_scalar_iff (by simp)
  have boolean : new name = "Boolean" ↔ name = "Boolean" := new.eq_scalar_iff (by simp)
  simp only [Primitive.ofScalar, int, float, boolean]

def swap (first second : String)
    (others : ∀ name ∈ ["Int", "Float", "Boolean"], name ≠ first ∧ name ≠ second)
    (alike : isIntrospective first = isIntrospective second) : Renaming where
  rename := Equiv.swap first second
  injective := (Equiv.swap first second).injective
  scalars name listed :=
    Equiv.swap_apply_of_ne_of_ne (others name listed).1 (others name listed).2
  introspective name := by
    rw [Equiv.swap_apply_def]
    split
    · rename_i same
      rw [same, alike]
    · split
      · rename_i same
        rw [same, alike]
      · rfl

end Renaming

@[simp] theorem Shape.renamed_kind (shape : Shape) : (shape.renamed new).kind = shape.kind := by
  cases shape <;> rfl

@[simp] theorem SchemaType.renamed_kind (type : SchemaType) :
    (type.renamed new).kind = type.kind :=
  type.shape.renamed_kind new

theorem Members.renamed_alone (members : Members) :
    (members.renamed new).interfaces.isEmpty = members.interfaces.isEmpty :=
  List.isEmpty_map

theorem map_map_comm {α β γ δ : Type} {inner : α → β} {outer : β → δ} {first : α → γ}
    {second : γ → δ} (same : ∀ item, outer (inner item) = second (first item)) (items : List α) :
    (items.map inner).map outer = (items.map first).map second := by
  rw [List.map_map, List.map_map]
  exact List.map_congr_left fun item _ => same item

theorem filter_all_renamed {α β : Type} {change : α → β} {keep : String → α → Bool}
    {keepOther : String → β → Bool}
    (same : ∀ name item, keepOther (new name) (change item) = keep name item) (items : List α)
    (names : List String) :
    (items.map change).filter (fun item => (names.map new).all (keepOther · item)) =
      (items.filter fun item => names.all (keep · item)).map change := by
  rw [List.filter_map]
  refine congrArg (List.map change) (List.filter_congr fun item _ => ?_)
  simp only [Function.comp_apply, List.all_map]
  exact congrArg names.all (funext fun name => same name item)

namespace Schema

variable (schema : Schema)

theorem get?_renamed (name : String) :
    (schema.renamed new).get? (new name) =
      (schema.get? name).map (SchemaType.renamed new) := by
  unfold get? renamed
  rw [List.find?_map]
  congr 2
  funext type
  simp [SchemaType.renamed, new.eq_iff]

theorem kind?_renamed (name : String) :
    (schema.renamed new).kind? (new name) = schema.kind? name := by
  rw [kind?, kind?, get?_renamed, Option.map_map]
  congr 1
  funext type
  exact type.renamed_kind new

theorem object?_renamed (name : String) :
    (schema.renamed new).object? (new name) =
      (schema.object? name).map (Members.renamed new) := by
  rw [object?, object?, get?_renamed]
  cases schema.get? name with
  | none => rfl
  | some type =>
    obtain ⟨name, shape⟩ := type
    cases shape <;> rfl

theorem interface?_renamed (name : String) :
    (schema.renamed new).interface? (new name) =
      (schema.interface? name).map (Members.renamed new) := by
  rw [interface?, interface?, get?_renamed]
  cases schema.get? name with
  | none => rfl
  | some type =>
    obtain ⟨name, shape⟩ := type
    cases shape <;> rfl

theorem rootObject_renamed (root : Option String) :
    (root.map new).bind (schema.renamed new).object? =
      (root.bind schema.object?).map (Members.renamed new) := by
  cases root with
  | none => rfl
  | some name => exact schema.object?_renamed new name

theorem isRoot_renamed (name : String) :
    (schema.renamed new).isRoot (new name) = schema.isRoot name := by
  have asked : ∀ root : Option String,
      root.map new = some (new name) ↔ root = some name := by
    intro root
    rw [← Option.map_some, (Option.map_injective new.injective).eq_iff]
  simp only [isRoot, renamed, Roots.renamed, asked]

theorem isDeclared_renamed (name : String) :
    (schema.renamed new).isDeclared (new name) = schema.isDeclared name := by
  rw [isDeclared, isDeclared, new.introspective, isRoot_renamed]

theorem targetDescriptor_renamed (name : String) :
    (schema.renamed new).targetDescriptor (new name) =
      (schema.targetDescriptor name).renamed new := by
  rw [targetDescriptor, targetDescriptor, kind?_renamed, new.ofScalar_eq]
  split <;> rfl

theorem nullableUnless_renamed (nonNull : Bool) (descriptor : Descriptor) :
    (descriptor.renamed new).nullableUnless nonNull =
      (descriptor.nullableUnless nonNull).renamed new := by
  cases nonNull <;> rfl

theorem descriptor_renamed (nonNull : Bool) (reference : TypeRef) :
    (schema.renamed new).descriptor nonNull (reference.renamed new) =
      (schema.descriptor nonNull reference).renamed new := by
  induction reference generalizing nonNull with
  | named name =>
    rw [TypeRef.renamed, descriptor, descriptor, targetDescriptor_renamed, nullableUnless_renamed]
  | list element ih =>
    rw [TypeRef.renamed, descriptor, descriptor, ih, ← nullableUnless_renamed]
    rfl
  | nonNull inner ih => exact ih true

theorem describe_renamed (reference : TypeRef) :
    (schema.renamed new).describe (reference.renamed new) =
      (schema.describe reference).renamed new :=
  schema.descriptor_renamed new false reference

theorem typedNames_renamed (arguments : List Argument) :
    (arguments.map (Argument.renamed new)).map (schema.renamed new).typedName =
      (arguments.map schema.typedName).map (TypedName.renamed new) := by
  refine map_map_comm (fun argument => ?_) arguments
  exact congrArg (TypedName.mk argument.name) (schema.describe_renamed new argument.type)

theorem method_renamed (kind : MethodKind) (field : Field) :
    (schema.renamed new).method kind (field.renamed new) =
      (schema.method kind field).renamed new := by
  unfold method Method.renamed
  rw [← typedNames_renamed, ← describe_renamed]
  rfl

theorem rootMethod_renamed (kind : MethodKind) (field : Field) :
    (schema.renamed new).rootMethod kind (field.renamed new) =
      (schema.rootMethod kind field).renamed new := by
  cases kind with
  | get | remote => exact schema.method_renamed new _ field
  | subscribe => exact congrArg Method.streamed (schema.method_renamed new .subscribe field)

theorem rootMethods_renamed (kind : MethodKind) (operation : Option Members) :
    (schema.renamed new).rootMethods kind (operation.map (Members.renamed new)) =
      (schema.rootMethods kind operation).map (Method.renamed new) := by
  cases operation with
  | none => rfl
  | some members => exact map_map_comm (schema.rootMethod_renamed new kind) members.fields

theorem rootContract_renamed (root : String) :
    Declaration.root ((schema.renamed new).rootContract root) =
      (Declaration.root (schema.rootContract root)).renamed new := by
  unfold rootContract query? mutation? subscription? Declaration.renamed
  simp only [List.map_append, ← rootMethods_renamed, ← rootObject_renamed]
  rfl

-- An interface leaves itself alone under either name.
theorem impliedBy_renamed (name : String) :
    (schema.renamed new).impliedBy (new name) = (schema.impliedBy name).map new := by
  rw [impliedBy, impliedBy, interface?_renamed]
  cases schema.interface? name with
  | none => rfl
  | some members =>
    change (members.interfaces.map new).filter _ = _
    rw [List.filter_map]
    congr 2
    funext implied
    simp [new.eq_iff]

theorem definedBy_renamed (name : String) :
    (schema.renamed new).definedBy (new name) = schema.definedBy name := by
  rw [definedBy, definedBy, interface?_renamed]
  cases schema.interface? name with
  | none => rfl
  | some members =>
    change (members.fields.map _).map _ = _
    rw [List.map_map]
    rfl

theorem unimplied_renamed (declared : List String) :
    (schema.renamed new).unimplied (declared.map new) =
      (schema.unimplied declared).map new := by
  rw [unimplied_eq_filter, unimplied_eq_filter]
  refine filter_all_renamed new (fun implying name => ?_) declared declared
  simp only [impliedBy_renamed, new.mem_iff]

theorem uncovered_renamed (fields : List Field) (interfaces : List String) :
    (schema.renamed new).uncovered (fields.map (Field.renamed new))
        (interfaces.map new) =
      (schema.uncovered fields interfaces).map (Field.renamed new) := by
  rw [uncovered_eq_filter, uncovered_eq_filter]
  refine filter_all_renamed new (fun covering field => ?_) fields interfaces
  simp only [definedBy_renamed, Field.renamed]

theorem includes_renamed (members : Members) :
    (schema.renamed new).includes (members.renamed new) =
      (schema.includes members).map new :=
  schema.unimplied_renamed new members.interfaces

theorem ownMethods_renamed (members : Members) :
    (schema.renamed new).ownMethods (members.renamed new) =
      (schema.ownMethods members).map (Method.renamed new) := by
  unfold ownMethods
  rw [includes_renamed, Members.renamed, uncovered_renamed]
  exact map_map_comm (schema.method_renamed new .get) _

theorem unionMembers_renamed :
    (schema.renamed new).unionMembers = schema.unionMembers.map new := by
  unfold unionMembers renamed
  rw [List.flatMap_map, List.map_flatMap]
  refine List.flatMap_congr fun type _ => ?_
  obtain ⟨name, shape⟩ := type
  cases shape with
  | union members =>
    simp only [SchemaType.renamed, Shape.renamed, new.introspective]
    split <;> rfl
  | _ => rfl

theorem fitsRecord_renamed (unionMembers : List String) (name : String) (members : Members) :
    fitsRecord (unionMembers.map new) (new name) (members.renamed new) =
      fitsRecord unionMembers name members := by
  have arguments : (members.renamed new).takesArguments = members.takesArguments := by
    unfold Members.takesArguments Members.renamed
    rw [List.any_map]
    congr 1
    funext field
    simp [Field.takesArguments, Field.renamed]
  have united : (unionMembers.map new).contains (new name) = unionMembers.contains name := by
    rw [Bool.eq_iff_iff, List.contains_iff_mem, List.contains_iff_mem, new.mem_iff]
  rw [fitsRecord, fitsRecord, arguments, Members.renamed_alone, united]

theorem choose_renamed (recordsForced : Bool) (name : String) (members : Members) :
    Representation.choose recordsForced (schema.renamed new).unionMembers (new name)
        (members.renamed new) =
      .choose recordsForced schema.unionMembers name members := by
  rw [Representation.choose, Representation.choose, unionMembers_renamed, fitsRecord_renamed]

theorem ofMembers?_renamed (members : List String) :
    Alternatives.ofMembers? (members.map new) =
      (Alternatives.ofMembers? members).map (Alternatives.renamed new) := by
  have folded (rest : List String) (left : Alternatives) :
      (rest.map new).foldl (fun left name => .either left (.member name)) (left.renamed new) =
        (rest.foldl (fun left name => .either left (.member name)) left).renamed new := by
    induction rest generalizing left with
    | nil => rfl
    | cons name rest ih => exact ih (.either left (.member name))
  cases members with
  | nil => rfl
  | cons first rest => exact congrArg some (folded rest (.member first))

theorem closedRecord_renamed (name : String) (fields : List Argument) :
    Declaration.record ((schema.renamed new).closedRecord (new name)
        (fields.map (Argument.renamed new))) =
      (Declaration.record (schema.closedRecord name fields)).renamed new := by
  unfold closedRecord Declaration.renamed
  rw [typedNames_renamed]

theorem openRecord_renamed (name : String) (members : Members) :
    Declaration.record ((schema.renamed new).openRecord (new name) (members.renamed new)) =
      (Declaration.record (schema.openRecord name members)).renamed new := by
  have fields : (members.renamed new).fields.map (fun field =>
      TypedName.mk field.name ((schema.renamed new).describe field.type)) =
      (members.fields.map fun field => ⟨field.name, schema.describe field.type⟩).map
        (TypedName.renamed new) := by
    refine map_map_comm (fun field => ?_) members.fields
    exact congrArg (TypedName.mk field.name) (schema.describe_renamed new field.type)
  unfold openRecord Declaration.renamed
  rw [fields]

theorem serviceContract_renamed (name : String) (members : Members) :
    Declaration.interface ((schema.renamed new).serviceContract (new name) (members.renamed new)) =
      (Declaration.interface (schema.serviceContract name members)).renamed new := by
  unfold serviceContract Declaration.renamed
  rw [includes_renamed, ownMethods_renamed]

theorem serviceClass_renamed (name : String) (members : Members) :
    Declaration.service ((schema.renamed new).serviceClass (new name) (members.renamed new)) =
      (Declaration.service (schema.serviceClass name members)).renamed new := by
  unfold serviceClass Declaration.renamed
  rw [includes_renamed, ownMethods_renamed, Members.renamed_alone]

theorem declaration?_renamed (recordsForced : Bool) (type : SchemaType) :
    (schema.renamed new).declaration? recordsForced (type.renamed new) =
      (schema.declaration? recordsForced type).map (Declaration.renamed new) := by
  obtain ⟨name, shape⟩ := type
  simp only [declaration?, SchemaType.renamed, isDeclared_renamed]
  split
  · cases shape with
    | scalar => rfl
    | inputObject fields => exact congrArg some (schema.closedRecord_renamed new name fields)
    | interface members => exact congrArg some (schema.serviceContract_renamed new name members)
    | enum values => rfl
    | union members =>
      simp only [Shape.renamed, UnionDefinition.ofMembers?, ofMembers?_renamed, Option.map_map]
      rfl
    | object members =>
      simp only [Shape.renamed, choose_renamed, Option.map_some]
      cases Representation.choose recordsForced schema.unionMembers name members with
      | record => exact congrArg some (schema.openRecord_renamed new name members)
      | service => exact congrArg some (schema.serviceClass_renamed new name members)
  · rfl

theorem declarations_renamed (recordsForced : Bool) :
    (schema.renamed new).declarations recordsForced =
      (schema.declarations recordsForced).map (Declaration.renamed new) := by
  rw [declarations_eq_flatMap, declarations_eq_flatMap, List.map_flatMap]
  refine List.flatMap_congr fun kind _ => ?_
  have types : (schema.renamed new).types.filter (·.kind = kind) =
      (schema.types.filter (·.kind = kind)).map (SchemaType.renamed new) := by
    rw [renamed, List.filter_map]
    simp only [Function.comp_def, SchemaType.renamed_kind]
  rw [types, List.filterMap_map, List.map_filterMap]
  exact List.filterMap_congr fun type _ => schema.declaration?_renamed new recordsForced type

-- No name of a type is special: modules under other names differ in the names alone.
theorem toModule_renamed (new : Renaming) (schema : Schema) (root : String)
    (recordsForced : Bool) :
    (schema.renamed new).toModule root recordsForced =
      (schema.toModule root recordsForced).renamed new := by
  unfold toModule SourceModule.renamed
  rw [List.map_cons, ← rootContract_renamed, declarations_renamed]

-- `ID` is taken for a string only while no type has that name.
def nodeForID : Renaming := .swap "Node" "ID" (by decide) (by decide)

theorem shelf_renamed :
    (shelfSchema.renamed nodeForID).toModule "Library" true =
      (shelfSchema.toModule "Library" true).renamed nodeForID ∧
    (shelfSchema.renamed nodeForID).get? "Node" = none ∧
    .service { bookClass with includes := ["ID"] } ∈
      ((shelfSchema.renamed nodeForID).toModule "Library" true).declarations :=
  ⟨toModule_renamed nodeForID shelfSchema "Library" true, by decide, by decide⟩

end Schema

end ServiceTypes
