import ServiceTypes.Proofs.Alternatives
import ServiceTypes.Proofs.DeclaredNames
import ServiceTypes.Proofs.Flattening
import ServiceTypes.Proofs.Sections
import ServiceTypes.Proofs.Table

namespace ServiceTypes

def Field.typeRefs (field : Field) : List TypeRef :=
  field.arguments.map Argument.type ++ [field.type]

def Shape.typeRefs : Shape → List TypeRef
  | .object members | .interface members => members.fields.flatMap Field.typeRefs
  | .inputObject fields => fields.map Argument.type
  | .enum _ | .union _ | .scalar => []

def Method.descriptors (method : Method) : List Descriptor :=
  method.params.map TypedName.type ++ [method.returns]

def Declaration.descriptors : Declaration → List Descriptor
  | record r => r.fields.map TypedName.type
  | service s => s.methods.flatMap Method.descriptors
  | interface c => c.methods.flatMap Method.descriptors
  | root c => c.methods.flatMap Method.descriptors
  | enum _ | union _ => []

def Declaration.references (declaration : Declaration) : List String :=
  declaration.descriptors.filterMap Descriptor.target?

def Declaration.links : Declaration → List String
  | service s => s.includes
  | interface c => c.includes
  | union u => u.alternatives.members
  | record _ | enum _ | root _ => []

namespace Schema

variable {schema : Schema} {recordsForced : Bool} {type : SchemaType} {declaration : Declaration}
  {descriptor : Descriptor} {name root : String} {members : Members}

-- The name is that of a type that is no scalar. Behind the root contract just one declaration bears
-- it, and that one is of the type's kind; a type that is passed over has none.
def Resolves (schema : Schema) (module : SourceModule) (name : String) : Prop :=
  ∃ type ∈ schema.types, type.name = name ∧ type.kind ≠ .scalar ∧
    if schema.isPassedOver type then module.declarations.tail.filter (·.name = name) = []
    else ∃ declaration, module.declarations.tail.filter (·.name = name) = [declaration] ∧
      declaration.kind? = some type.kind

theorem IsReferable.resolves (referable : schema.IsReferable name) :
    schema.Resolves (schema.toModule root recordsForced) name := by
  obtain ⟨type, member, rfl, written⟩ := referable
  refine ⟨type, member, rfl, written, ?_⟩
  have behind : (schema.toModule root recordsForced).declarations.tail =
      schema.declarations recordsForced := rfl
  rw [behind, filter_name_declarations member]
  have answered := schema.declaration?_isSome recordsForced type
  rw [declares_eq_not_passedOver schema written] at answered
  cases found : schema.declaration? recordsForced type with
  | none =>
    rw [found] at answered
    have passed : schema.isPassedOver type = true := by simpa using answered
    rw [if_pos passed]
    rfl
  | some declaration =>
    rw [found] at answered
    have kept : schema.isPassedOver type = false := by simpa using answered
    rw [if_neg (by simp [kept])]
    exact ⟨declaration, rfl, (declaration?_exact.mp found).kind?_eq⟩

theorem method_descriptors (schema : Schema) (kind : MethodKind) (field : Field) :
    (schema.method kind field).descriptors = field.typeRefs.map schema.describe := by
  simp [Method.descriptors, Field.typeRefs, method, typedName]

theorem ownMethods_descriptors (own : descriptor ∈
      (schema.ownMethods members).flatMap Method.descriptors) :
    ∃ reference ∈ members.fields.flatMap Field.typeRefs, descriptor = schema.describe reference := by
  obtain ⟨method, listed, present⟩ := List.mem_flatMap.mp own
  obtain ⟨field, inside, rfl⟩ := getter_of_mem_ownMethods listed
  rw [getter, method_descriptors] at present
  obtain ⟨reference, within, rfl⟩ := List.mem_map.mp present
  exact ⟨reference, List.mem_flatMap.mpr ⟨field, inside, within⟩, rfl⟩

-- What is written in a declaration is written in its type: nothing comes from anywhere else.
theorem DeclaredAs.described (rule : schema.DeclaredAs recordsForced type declaration)
    (present : descriptor ∈ declaration.descriptors) :
    ∃ reference ∈ type.shape.typeRefs, descriptor = schema.describe reference := by
  cases rule with
  | inputObject declared =>
    obtain ⟨typed, inside, rfl⟩ := List.mem_map.mp present
    obtain ⟨argument, listed, rfl⟩ := List.mem_map.mp inside
    exact ⟨argument.type, List.mem_map_of_mem listed, rfl⟩
  | record declared chosen =>
    obtain ⟨typed, inside, rfl⟩ := List.mem_map.mp present
    obtain ⟨field, listed, rfl⟩ := List.mem_map.mp inside
    exact ⟨field.type, List.mem_flatMap.mpr ⟨field, listed, by simp [Field.typeRefs]⟩, rfl⟩
  | interface declared | service declared chosen => exact ownMethods_descriptors present
  | enum declared | union declared made => cases present

theorem rootMethod_descriptors {kind : MethodKind} {field : Field}
    (present : descriptor ∈ (schema.rootMethod kind field).descriptors) :
    ∃ reference ∈ field.typeRefs,
      descriptor = schema.describe reference ∨ descriptor = .stream (schema.describe reference) := by
  cases kind with
  | get | remote =>
    change descriptor ∈ (schema.method _ field).descriptors at present
    rw [method_descriptors] at present
    obtain ⟨reference, within, rfl⟩ := List.mem_map.mp present
    exact ⟨reference, within, .inl rfl⟩
  | subscribe =>
    rcases List.mem_append.mp present with param | returned
    · have unstreamed : descriptor ∈ (schema.method .subscribe field).descriptors :=
        List.mem_append_left _ param
      rw [method_descriptors] at unstreamed
      obtain ⟨reference, within, rfl⟩ := List.mem_map.mp unstreamed
      exact ⟨reference, within, .inl rfl⟩
    · obtain rfl := List.mem_singleton.mp returned
      exact ⟨field.type, by simp [Field.typeRefs], .inr rfl⟩

theorem mem_toModule_references
    (present : declaration ∈ (schema.toModule root recordsForced).declarations)
    (mentioned : name ∈ declaration.references) : schema.IsReferable name := by
  obtain ⟨descriptor, written, targeted⟩ := List.mem_filterMap.mp mentioned
  have referable : ∀ reference, (schema.describe reference).target? = some name →
      schema.IsReferable name := by
    intro reference found
    obtain ⟨rfl, known⟩ := describe_target?.mp found
    exact known
  rcases List.mem_cons.mp present with rfl | inside
  · obtain ⟨method, listed, within⟩ := List.mem_flatMap.mp written
    obtain ⟨_, _, _, _, field, _, kind, rfl⟩ := mem_rootContract_methods listed
    obtain ⟨reference, _, rfl | rfl⟩ := rootMethod_descriptors within
    · exact referable reference targeted
    · exact referable reference targeted
  · obtain ⟨type, member, rule⟩ := mem_declarations.mp inside
    obtain ⟨reference, _, rfl⟩ := rule.described written
    exact referable reference targeted

-- What a validated schema promises of the names in its lists, as far as it matters here.
structure FitLists (schema : Schema) : Prop where
  interfaces : ∀ type ∈ schema.types, ∀ members, type.shape.members? = some members →
    ∀ name ∈ members.interfaces, (schema.interface? name).isSome = true
  unions : ∀ type ∈ schema.types, ∀ names, type.shape = .union names →
    ∀ name ∈ names, (schema.object? name).isSome = true

theorem referable_of_interface? (found : (schema.interface? name).isSome = true) :
    schema.IsReferable name := by
  obtain ⟨members, got⟩ := Option.isSome_iff_exists.mp found
  exact ⟨_, interface?_eq_some.mp got, rfl, nofun⟩

theorem referable_of_object? (found : (schema.object? name).isSome = true) :
    schema.IsReferable name := by
  obtain ⟨members, got⟩ := Option.isSome_iff_exists.mp found
  exact ⟨_, object?_eq_some.mp got, rfl, nofun⟩

theorem FitLists.referable (fit : schema.FitLists)
    (present : declaration ∈ (schema.toModule root recordsForced).declarations)
    (linked : name ∈ declaration.links) : schema.IsReferable name := by
  rcases List.mem_cons.mp present with rfl | inside
  · cases linked
  · obtain ⟨type, member, rule⟩ := mem_declarations.mp inside
    cases rule with
    | interface declared | service declared chosen =>
      have listed := mem_of_mem_unimplied linked
      exact referable_of_interface? (fit.interfaces _ member _ rfl name listed)
    | union declared made =>
      rw [Declaration.links, (UnionDefinition.members_of_ofMembers? made).2] at linked
      exact referable_of_object? (fit.unions _ member _ rfl name linked)
    | inputObject declared | enum declared | record declared chosen => cases linked

theorem references_resolve (schema : Schema) (root : String) (recordsForced : Bool) :
    (∀ declaration ∈ (schema.toModule root recordsForced).declarations,
      ∀ name ∈ declaration.references,
        schema.Resolves (schema.toModule root recordsForced) name) ∧
    (schema.FitLists → ∀ declaration ∈ (schema.toModule root recordsForced).declarations,
      ∀ name ∈ declaration.links,
        schema.Resolves (schema.toModule root recordsForced) name) := by
  constructor
  · intro declaration present name mentioned
    exact (mem_toModule_references present mentioned).resolves
  · intro fit declaration present name linked
    exact (fit.referable present linked).resolves

def shelfSchema : Schema where
  types := [
    ⟨"Query", .object ⟨[⟨"books", .list (.named "Book"), []⟩], []⟩⟩,
    ⟨"Node", .interface ⟨[⟨"id", .named "ID", []⟩], []⟩⟩,
    ⟨"Nothing", .union []⟩,
    ⟨"__Meta", .enum ["A"]⟩,
    ⟨"Media", .union ["Book"]⟩,
    ⟨"Book", .object ⟨[⟨"id", .named "ID", []⟩, ⟨"media", .nonNull (.list (.named "Media")), []⟩,
      ⟨"none", .named "Nothing", [⟨"meta", .named "__Meta"⟩]⟩, ⟨"up", .named "Query", []⟩],
      ["Node"]⟩⟩]
  names_nodup := by decide

def bookClass : ServiceClass where
  name := "Book"
  distinct := true
  includes := ["Node"]
  methods := [
    ⟨.get, "media", [], .array (.optional (.named "Media"))⟩,
    ⟨.get, "none", [⟨"meta", .optional (.named "__Meta")⟩], .optional (.named "Nothing")⟩,
    ⟨.get, "up", [], .optional (.named "Query")⟩]

theorem shelfSchema_fit : shelfSchema.FitLists := by
  constructor <;> intro type member parts shape <;>
    simp only [shelfSchema, List.mem_cons, List.not_mem_nil, or_false] at member <;>
    rcases member with rfl | rfl | rfl | rfl | rfl | rfl <;> cases shape <;> decide

theorem book_references_resolve :
    (∀ name ∈ ["Media", "__Meta", "Nothing", "Query"],
      shelfSchema.Resolves (shelfSchema.toModule "Library" true) name) ∧
    shelfSchema.FitLists ∧ shelfSchema.Resolves (shelfSchema.toModule "Library" true) "Node" ∧
    shelfSchema.Resolves (shelfSchema.toModule "Library" true) "Book" := by
  obtain ⟨references, links⟩ := references_resolve shelfSchema "Library" true
  have book : .service bookClass ∈ (shelfSchema.toModule "Library" true).declarations := by decide
  have media : .union ⟨"Media", .member "Book"⟩ ∈
      (shelfSchema.toModule "Library" true).declarations := by decide
  refine ⟨fun name mentioned => references _ book name mentioned, shelfSchema_fit, ?_, ?_⟩
  · exact links shelfSchema_fit _ book "Node" (by decide)
  · exact links shelfSchema_fit _ media "Book" (by decide)

end Schema

end ServiceTypes
