import ServiceTypes.Proofs.Alternatives
import ServiceTypes.Proofs.Flattening
import ServiceTypes.Proofs.Sections
import ServiceTypes.Proofs.Source.Checks
import ServiceTypes.Sdl.Reader
import ServiceTypes.Source

namespace ServiceTypes

def Argument.names (argument : Argument) : List String := [argument.type.target, argument.name]

def Field.names (field : Field) : List String :=
  field.name :: field.type.target :: field.arguments.flatMap Argument.names

def Members.names (members : Members) : List String :=
  members.interfaces ++ members.fields.flatMap Field.names

def Shape.names : Shape → List String
  | .object members | .interface members => members.names
  | .inputObject fields => fields.flatMap Argument.names
  | .enum values => values
  | .union members => members
  | .scalar => []

def SchemaType.names (type : SchemaType) : List String := type.name :: type.shape.names

@[simp] theorem Method.streamed_checkedNames (method : Method) :
    method.streamed.checkedNames = method.checkedNames := rfl

namespace Schema

variable {schema : Schema} {recordsForced : Bool} {type : SchemaType} {declaration : Declaration}
  {members : Members} {name root : String}

-- Roots are left out: a root that is missing from the table is never written.
def WellNamed (schema : Schema) : Prop :=
  ∀ type ∈ schema.types, ∀ name ∈ type.names, isIdentifier name = true

theorem target_of_described {reference : TypeRef}
    (present : name ∈ (schema.describe reference).target?.toList) : name = reference.target := by
  rw [Option.mem_toList, describe_target?] at present
  exact present.1.symm

theorem typedName_checkedNames (schema : Schema) (argument : Argument) :
    (schema.typedName argument).checkedNames ⊆ argument.names := by
  intro name present
  rcases List.mem_append.mp present with target | own
  · rw [target_of_described target]
    exact List.mem_cons_self ..
  · exact List.mem_cons_of_mem _ own

theorem typedNames_checkedNames (schema : Schema) (arguments : List Argument) :
    (arguments.map schema.typedName).flatMap TypedName.checkedNames ⊆
      arguments.flatMap Argument.names := by
  intro name present
  rw [List.flatMap_map] at present
  obtain ⟨argument, listed, within⟩ := List.mem_flatMap.mp present
  exact List.mem_flatMap.mpr ⟨argument, listed, schema.typedName_checkedNames argument within⟩

theorem method_checkedNames (schema : Schema) (kind : MethodKind) (field : Field) :
    (schema.method kind field).checkedNames ⊆ field.names := by
  intro name present
  rcases List.mem_cons.mp present with rfl | present
  · exact List.mem_cons_self ..
  · rcases List.mem_append.mp present with params | target
    · refine List.mem_cons_of_mem _ (List.mem_cons_of_mem _ ?_)
      exact schema.typedNames_checkedNames field.arguments params
    · rw [target_of_described target]
      simp [Field.names]

theorem rootMethod_checkedNames (schema : Schema) (kind : MethodKind) (field : Field) :
    (schema.rootMethod kind field).checkedNames ⊆ field.names := by
  cases kind with
  | get | remote => exact schema.method_checkedNames _ field
  | subscribe =>
    rw [rootMethod, Method.streamed_checkedNames]
    exact schema.method_checkedNames .subscribe field

theorem inherited_checkedNames (schema : Schema) (members : Members) :
    schema.includes members ++ (schema.ownMethods members).flatMap Method.checkedNames ⊆
      members.names := by
  intro name present
  rcases List.mem_append.mp present with included | own
  · exact List.mem_append_left _ (mem_of_mem_unimplied included)
  · obtain ⟨method, listed, within⟩ := List.mem_flatMap.mp own
    obtain ⟨field, inside, rfl⟩ := getter_of_mem_ownMethods listed
    refine List.mem_append_right _ (List.mem_flatMap.mpr ⟨field, inside, ?_⟩)
    exact schema.method_checkedNames .get field within

theorem openRecord_checkedNames (schema : Schema) (type : String) (members : Members) :
    (schema.openRecord type members).fields.flatMap TypedName.checkedNames ⊆ members.names := by
  intro name present
  obtain ⟨typed, inside, within⟩ := List.mem_flatMap.mp present
  obtain ⟨field, listed, rfl⟩ := List.mem_map.mp inside
  refine List.mem_append_right _ (List.mem_flatMap.mpr ⟨field, listed, ?_⟩)
  rcases List.mem_append.mp within with target | own
  · rw [target_of_described target]
    simp [Field.names]
  · rw [List.mem_singleton.mp own]
    exact List.mem_cons_self ..

theorem DeclaredAs.checkedNames_subset (rule : schema.DeclaredAs recordsForced type declaration) :
    declaration.checkedNames ⊆ type.names := by
  cases rule with
  | inputObject declared => exact List.cons_subset_cons _ (schema.typedNames_checkedNames _)
  | interface declared | service declared chosen =>
    exact List.cons_subset_cons _ (schema.inherited_checkedNames _)
  | record declared chosen => exact List.cons_subset_cons _ (schema.openRecord_checkedNames _ _)
  | enum declared => exact List.Subset.refl _
  | union declared made =>
    obtain ⟨named, listed⟩ := UnionDefinition.members_of_ofMembers? made
    rw [Declaration.checkedNames, named, listed]
    intro name present
    rcases List.mem_append.mp present with member | own
    · exact List.mem_cons_of_mem _ member
    · rw [List.mem_singleton.mp own]
      exact List.mem_cons_self ..

theorem WellNamed.declarations (valid : schema.WellNamed) :
    ∀ name ∈ (schema.declarations recordsForced).flatMap Declaration.checkedNames,
      isIdentifier name = true := by
  intro name present
  obtain ⟨declaration, inside, within⟩ := List.mem_flatMap.mp present
  obtain ⟨type, member, rule⟩ := mem_declarations.mp inside
  exact valid type member name (rule.checkedNames_subset within)

theorem WellNamed.rootMethods (valid : schema.WellNamed) :
    ∀ name ∈ (schema.rootContract root).methods.flatMap Method.checkedNames,
      isIdentifier name = true := by
  intro name present
  obtain ⟨method, listed, within⟩ := List.mem_flatMap.mp present
  obtain ⟨type, member, members, shape, field, inside, kind, rfl⟩ := mem_rootContract_methods listed
  refine valid type member name (List.mem_cons_of_mem _ ?_)
  rw [shape]
  refine List.mem_append_right _ (List.mem_flatMap.mpr ⟨field, inside, ?_⟩)
  exact schema.rootMethod_checkedNames kind field within

-- The import is checked first and the root contract's name next, before any name of the table.
theorem toModule_checkedNames (schema : Schema) (root : String) (recordsForced : Bool) :
    (schema.toModule root recordsForced).checkedNames = ["ballerina", "graphql"] ++ root ::
      ((schema.rootContract root).methods.flatMap Method.checkedNames ++
        (schema.declarations recordsForced).flatMap Declaration.checkedNames) := by
  simp [SourceModule.checkedNames, toModule, Import.graphql, Declaration.checkedNames, rootContract]

theorem imports_valid : ∀ name ∈ ["ballerina", "graphql"], isIdentifier name = true := by decide

-- With a table whose names are all identifiers, nothing but the root contract's name can be wrong.
theorem WellNamed.source_made_iff (valid : schema.WellNamed) (settings : Settings) :
    (∃ text, schema.source root settings = .ok text) ↔ isIdentifier root = true := by
  have checks := (schema.toModule root settings.recordsForced).source_checks
    (.ofEnabled settings.colored)
  have answers : (∃ text, schema.source root settings = .ok text) ↔
      ∃ text, (schema.toModule root settings.recordsForced).source (.ofEnabled settings.colored)
        = .ok text := by
    rw [source]
    cases (schema.toModule root settings.recordsForced).source (.ofEnabled settings.colored) <;>
      simp [Except.mapError]
  rw [answers, checks.made_iff, toModule_checkedNames]
  constructor
  · intro all
    exact all root (by simp)
  · intro named
    refine List.forall_mem_append.mpr ⟨imports_valid, List.forall_mem_cons.mpr ⟨named, ?_⟩⟩
    exact List.forall_mem_append.mpr ⟨valid.rootMethods, valid.declarations⟩

theorem source_of_bad_root (schema : Schema) (settings : Settings)
    (bad : isIdentifier root = false) :
    schema.source root settings = .error (.unwritable ⟨root⟩) := by
  have checks := (schema.toModule root settings.recordsForced).source_checks
    (.ofEnabled settings.colored)
  rw [toModule_checkedNames] at checks
  rw [source, checks.eq_error imports_valid bad]
  rfl

end Schema

variable {schema : Schema} {type : SchemaType} {name : String}

@[simp] theorem TypeRef.required_target (reference : TypeRef) :
    reference.required.target = reference.target := by
  cases reference <;> rfl

theorem Schema.WellNamed.insert (valid : schema.WellNamed)
    (named : ∀ name ∈ type.names, isIdentifier name = true) : (schema.insert type).WellNamed := by
  intro other present
  rcases mem_place present with rfl | before
  · exact named
  · exact valid other before

namespace Sdl

-- The reader makes names out of name tokens only. What remains to be seen is that loading puts
-- nothing else into the table.
theorem texts_valid (identifiers : List Identifier) :
    ∀ name ∈ identifiers.map Identifier.text, isIdentifier name = true := by
  intro name present
  obtain ⟨identifier, -, rfl⟩ := List.mem_map.mp present
  exact identifier.valid

theorem TypeExpr.target_valid (expression : TypeExpr) :
    isIdentifier expression.typeRef.target = true := by
  induction expression with
  | named name => exact name.valid
  | list element ih => exact ih
  | nonNull inner ih => rwa [typeRef, TypeRef.required_target]

theorem ArgumentDefinition.names_valid (definition : ArgumentDefinition) :
    ∀ name ∈ definition.argument.names, isIdentifier name = true := by
  intro name present
  rcases List.mem_cons.mp present with rfl | present
  · exact definition.type.target_valid
  · rw [List.mem_singleton.mp present]
    exact definition.name.valid

theorem arguments_valid (definitions : List ArgumentDefinition) :
    ∀ name ∈ (definitions.map ArgumentDefinition.argument).flatMap Argument.names,
      isIdentifier name = true := by
  intro name present
  obtain ⟨argument, listed, within⟩ := List.mem_flatMap.mp present
  obtain ⟨definition, -, rfl⟩ := List.mem_map.mp listed
  exact definition.names_valid name within

theorem FieldDefinition.names_valid (definition : FieldDefinition) :
    ∀ name ∈ definition.field.names, isIdentifier name = true := by
  intro name present
  rcases List.mem_cons.mp present with rfl | present
  · exact definition.name.valid
  · rcases List.mem_cons.mp present with rfl | present
    · exact definition.type.target_valid
    · exact arguments_valid definition.arguments name present

theorem members_valid (interfaces : List Identifier) (fields : List FieldDefinition) :
    ∀ name ∈ (Members.mk (fields.map FieldDefinition.field)
      (interfaces.map Identifier.text)).names, isIdentifier name = true := by
  intro name present
  rcases List.mem_append.mp present with interface | field
  · exact texts_valid interfaces name interface
  · obtain ⟨field, listed, within⟩ := List.mem_flatMap.mp field
    obtain ⟨definition, -, rfl⟩ := List.mem_map.mp listed
    exact definition.names_valid name within

theorem DefinitionBody.names_valid (body : DefinitionBody) :
    ∀ name ∈ body.shape.names, isIdentifier name = true := by
  cases body with
  | object interfaces fields | interface interfaces fields => exact members_valid interfaces fields
  | inputObject fields => exact arguments_valid fields
  | enum values => exact texts_valid values
  | union members => exact texts_valid members
  | scalar => exact nofun

theorem TypeDefinition.names_valid (definition : TypeDefinition) :
    ∀ name ∈ definition.schemaType.names, isIdentifier name = true :=
  List.forall_mem_cons.mpr ⟨definition.name.valid, definition.body.names_valid⟩

theorem Definition.apply_wellNamed (definition : Definition) (valid : schema.WellNamed) :
    (definition.apply schema).WellNamed := by
  cases definition with
  | type definition => exact valid.insert definition.names_valid
  | roots definition => exact valid
  | extension definition | directive name arguments => exact valid

theorem withScalar_wellNamed (valid : schema.WellNamed) (named : isIdentifier name = true) :
    (withScalar schema name).WellNamed := by
  unfold withScalar
  split
  · exact valid
  · exact valid.insert (List.forall_mem_singleton.mpr named)

theorem builtinScalars_valid : ∀ name ∈ builtinScalars, isIdentifier name = true := by decide

theorem Document.schema_wellNamed (document : Document) : document.schema.WellNamed := by
  have defined : (document.foldl Definition.apply .empty).WellNamed :=
    List.foldlRecOn document _ nofun fun _ valid definition _ => definition.apply_wellNamed valid
  exact List.foldlRecOn builtinScalars _ defined fun _ valid name builtin =>
    withScalar_wellNamed valid (builtinScalars_valid name builtin)

end Sdl

namespace Schema

theorem ofText_wellNamed {text : String} (loaded : Schema.ofText text = .ok schema) :
    schema.WellNamed := by
  unfold Schema.ofText at loaded
  cases read : Sdl.Document.ofText text with
  | error error => rw [read] at loaded; cases loaded
  | ok document =>
    rw [read] at loaded
    cases loaded
    exact Sdl.Document.schema_wellNamed document

-- The names of a text are checked when it is read. Only the contract's name comes from elsewhere.
theorem loaded_source_fails_iff_root (text : String) (schema : Schema)
    (loaded : Schema.ofText text = .ok schema) (root : String) (settings : Settings) :
    ((∃ source, schema.source root settings = .ok source) ↔ isIdentifier root = true) ∧
    (isIdentifier root = false → schema.source root settings = .error (.unwritable ⟨root⟩)) :=
  ⟨(ofText_wellNamed loaded).source_made_iff settings, schema.source_of_bad_root settings⟩

def ticketText : String :=
  "schema \x7b query: Desk \x7d type Ticket \x7b type(in: [Range!]! = []): [__Kind] \x7d "
    ++ "input Range \x7b _: Any \x7d union Found = Ticket | Lost"

theorem ticket_source_fails :
    ∃ schema, Schema.ofText ticketText = .ok schema ∧
      (∃ source, schema.source "Tickets" {} = .ok source) ∧
      schema.source "Ticket-Service" {} = .error (.unwritable ⟨"Ticket-Service"⟩) := by
  have readable : (Schema.ofText ticketText).isOk = true := by decide +kernel
  cases loaded : Schema.ofText ticketText with
  | error error => rw [loaded] at readable; cases readable
  | ok schema =>
    refine ⟨schema, rfl, ?_, ?_⟩
    · exact (loaded_source_fails_iff_root ticketText schema loaded "Tickets" {}).1.mpr (by decide)
    · exact (loaded_source_fails_iff_root ticketText schema loaded "Ticket-Service" {}).2 (by decide)

end Schema

end ServiceTypes
