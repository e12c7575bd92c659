import Mathlib.Data.List.Forall2
import Mathlib.Data.List.Induction
import ServiceTypes.Proofs.Sdl.Reader
import ServiceTypes.Proofs.TableOrder

namespace ServiceTypes.Sdl

-- What becomes of a written type: the same lists and marks around the same name.
inductive TypeExpr.KeptIn : TypeExpr → TypeRef → Prop where
  | named : KeptIn (.named name) (.named name.text)
  | list (inside : element.KeptIn reference) : KeptIn (.list element) (.list reference)
  | nonNull (inside : marked.KeptIn reference) : KeptIn (.nonNull marked) (.nonNull reference)

structure ArgumentDefinition.KeptIn (definition : ArgumentDefinition) (argument : Argument) :
    Prop where
  name : argument.name = definition.name.text
  type : definition.type.KeptIn argument.type

structure FieldDefinition.KeptIn (definition : FieldDefinition) (field : Field) : Prop where
  name : field.name = definition.name.text
  type : definition.type.KeptIn field.type
  arguments : List.Forall₂ ArgumentDefinition.KeptIn definition.arguments field.arguments

inductive DefinitionBody.KeptIn : DefinitionBody → Shape → Prop where
  | object (fields : List.Forall₂ FieldDefinition.KeptIn definitions members.fields)
      (interfaces : members.interfaces = names.map Identifier.text) :
      KeptIn (.object names definitions) (.object members)
  | interface (fields : List.Forall₂ FieldDefinition.KeptIn definitions members.fields)
      (interfaces : members.interfaces = names.map Identifier.text) :
      KeptIn (.interface names definitions) (.interface members)
  | inputObject (fields : List.Forall₂ ArgumentDefinition.KeptIn definitions arguments) :
      KeptIn (.inputObject definitions) (.inputObject arguments)
  | enum : KeptIn (.enum values) (.enum (values.map Identifier.text))
  | union : KeptIn (.union members) (.union (members.map Identifier.text))
  | scalar : KeptIn .scalar .scalar

def Definition.typeName? : Definition → Option String
  | type definition => some definition.name.text
  | roots _ | extension _ | directive _ _ => none

def Definition.counts : Definition → Bool
  | roots _ | type _ => true
  | extension _ | directive _ _ => false

namespace Document

def typeNames (document : Document) : List String := document.filterMap Definition.typeName?

-- No definition behind this one is of the same name.
def LastDefines (document : Document) (definition : TypeDefinition) : Prop :=
  ∃ before after, document = before ++ .type definition :: after ∧
    definition.name.text ∉ typeNames after

def LastRoots (document : Document) (definition : RootDefinition) : Prop :=
  ∃ before after, document = before ++ .roots definition :: after ∧
    ∀ other, .roots other ∉ after

def defined (document : Document) : Schema := document.foldl Definition.apply .empty

end Document

theorem TypeExpr.Grammatical.keptIn {expression : TypeExpr} (written : expression.Grammatical) :
    expression.KeptIn expression.typeRef := by
  induction written with
  | named => exact .named
  | list _ ih => exact .list ih
  | namedMarked => exact .nonNull .named
  | listMarked _ ih => exact .nonNull (.list ih)

theorem ArgumentDefinition.Grammatical.keptIn {definition : ArgumentDefinition}
    (written : definition.Grammatical) : definition.KeptIn definition.argument :=
  ⟨rfl, TypeExpr.Grammatical.keptIn written⟩

theorem arguments_keptIn {definitions : List ArgumentDefinition}
    (written : ∀ definition ∈ definitions, definition.Grammatical) :
    List.Forall₂ ArgumentDefinition.KeptIn definitions
      (definitions.map ArgumentDefinition.argument) :=
  List.forall₂_map_right_iff.mpr
    (List.forall₂_same.mpr fun definition listed => (written definition listed).keptIn)

theorem FieldDefinition.Grammatical.keptIn {definition : FieldDefinition}
    (written : definition.Grammatical) : definition.KeptIn definition.field :=
  ⟨rfl, written.type.keptIn, arguments_keptIn written.arguments⟩

theorem fields_keptIn {definitions : List FieldDefinition}
    (written : ∀ definition ∈ definitions, definition.Grammatical) :
    List.Forall₂ FieldDefinition.KeptIn definitions (definitions.map FieldDefinition.field) :=
  List.forall₂_map_right_iff.mpr
    (List.forall₂_same.mpr fun definition listed => (written definition listed).keptIn)

theorem DefinitionBody.Grammatical.keptIn {body : DefinitionBody} (written : body.Grammatical) :
    body.KeptIn body.shape := by
  cases body with
  | object names definitions => exact .object (fields_keptIn written) rfl
  | interface names definitions => exact .interface (fields_keptIn written) rfl
  | inputObject definitions => exact .inputObject (arguments_keptIn written)
  | enum values => exact .enum
  | union members => exact .union
  | scalar => exact .scalar

namespace Document

variable {document after : Document} {definition : TypeDefinition} {schema : Schema}
  {name : String}

theorem typeNames_append (before after : Document) :
    typeNames (before ++ after) = typeNames before ++ typeNames after :=
  List.filterMap_append

theorem typeNames_type (definition : TypeDefinition) (after : Document) :
    typeNames (.type definition :: after) = definition.name.text :: typeNames after := rfl

theorem defined_names (document : Document) :
    document.defined.types.map SchemaType.name = document.typeNames.eraseDups := by
  -- From one definition to the next an old name stays where it is, and a new one goes to the end.
  induction document using List.reverseRecOn with
  | nil => rfl
  | append_singleton document definition ih =>
    rw [defined, List.foldl_append, typeNames_append]
    cases definition with
    | type definition => exact Schema.insert_names ih definition.schemaType
    | roots _ | extension _ | directive _ _ =>
      change (Document.defined document).types.map SchemaType.name = _
      rw [ih]
      exact congrArg List.eraseDups (List.append_nil _).symm

theorem get?_foldl_of_undefined (undefined : name ∉ typeNames after) (schema : Schema) :
    (after.foldl Definition.apply schema).get? name = schema.get? name := by
  induction after generalizing schema with
  | nil => rfl
  | cons definition after ih =>
    cases definition with
    | type definition =>
      rw [typeNames_type, List.mem_cons, not_or] at undefined
      rw [List.foldl_cons, ih undefined.2]
      exact Schema.get?_insert_of_ne undefined.1
    | roots _ | extension _ | directive _ _ => exact ih undefined _

theorem LastDefines.get? (last : document.LastDefines definition) :
    document.defined.get? definition.name.text = some definition.schemaType := by
  obtain ⟨before, after, rfl, undefined⟩ := last
  rw [defined, List.foldl_append, List.foldl_cons, get?_foldl_of_undefined undefined]
  exact Schema.get?_insert_self

theorem exists_lastDefines (named : name ∈ document.typeNames) :
    ∃ definition, document.LastDefines definition ∧ definition.name.text = name := by
  induction document with
  | nil => cases named
  | cons first rest ih =>
    by_cases later : name ∈ typeNames rest
    · obtain ⟨definition, ⟨before, after, split, undefined⟩, same⟩ := ih later
      exact ⟨definition, ⟨first :: before, after, congrArg _ split, undefined⟩, same⟩
    · cases first with
      | type definition =>
        rw [typeNames_type, List.mem_cons] at named
        have same := named.resolve_right later
        exact ⟨definition, ⟨[], rest, rfl, same ▸ later⟩, same.symm⟩
      | roots _ | extension _ | directive _ _ => exact absurd named later

theorem mem_defined {type : SchemaType} (member : type ∈ document.defined.types) :
    ∃ definition, document.LastDefines definition ∧ type = definition.schemaType := by
  have named : type.name ∈ document.typeNames := by
    rw [← List.mem_eraseDups, ← defined_names]
    exact List.mem_map_of_mem member
  obtain ⟨definition, last, same⟩ := exists_lastDefines named
  have found := last.get?
  rw [same, Schema.get?_eq_some.mpr ⟨member, rfl⟩] at found
  exact ⟨definition, last, Option.some.inj found⟩

theorem LastDefines.mem (last : document.LastDefines definition) :
    .type definition ∈ document := by
  obtain ⟨before, after, rfl, -⟩ := last
  simp

theorem foldl_roots (silent : ∀ other, .roots other ∉ after) (schema : Schema) :
    (after.foldl Definition.apply schema).roots = schema.roots := by
  induction after generalizing schema with
  | nil => rfl
  | cons definition after ih =>
    have behind : ∀ other, .roots other ∉ after :=
      fun other present => silent other (List.mem_cons_of_mem _ present)
    cases definition with
    | roots other => exact absurd (List.mem_cons_self ..) (silent other)
    | type _ | extension _ | directive _ _ => exact ih behind _

theorem LastRoots.roots_eq {definition : RootDefinition} (last : document.LastRoots definition) :
    document.defined.roots = definition.roots := by
  obtain ⟨before, after, rfl, silent⟩ := last
  rw [defined, List.foldl_append, List.foldl_cons, foldl_roots silent]
  rfl

theorem defined_filter (document : Document) :
    Document.defined (document.filter Definition.counts) = document.defined := by
  rw [defined, defined, List.foldl_filter]
  refine List.foldl_ext _ _ _ fun schema definition _ => ?_
  cases definition <;> rfl

end Document

theorem withScalar_of_known {schema : Schema} {name : String}
    (known : name ∈ schema.types.map SchemaType.name) : withScalar schema name = schema := by
  obtain ⟨type, member, same⟩ := List.mem_map.mp known
  rw [withScalar, Schema.get?_eq_some.mpr ⟨member, same⟩]
  rfl

theorem withScalar_types_of_unknown {schema : Schema} {name : String}
    (unknown : name ∉ schema.types.map SchemaType.name) :
    (withScalar schema name).types = schema.types ++ [⟨name, .scalar⟩] := by
  have absent : ∀ type ∈ schema.types, type.name ≠ name :=
    fun type member same => unknown (List.mem_map.mpr ⟨type, member, same⟩)
  rw [withScalar, Schema.get?_eq_none.mpr absent]
  exact Schema.place_of_absent absent

theorem withScalars_types {names : List String} (distinct : names.Nodup) (schema : Schema) :
    (names.foldl withScalar schema).types = schema.types ++
      (names.filter (· ∉ schema.types.map SchemaType.name)).map fun name => ⟨name, .scalar⟩ := by
  induction names generalizing schema with
  | nil => simp
  | cons name rest ih =>
    obtain ⟨apart, distinct⟩ := List.nodup_cons.mp distinct
    rw [List.foldl_cons, ih distinct]
    by_cases known : name ∈ schema.types.map SchemaType.name
    · rw [withScalar_of_known known, List.filter_cons_of_neg (by simpa using known)]
    · have behind := withScalar_types_of_unknown known
      have others : rest.filter (· ∉ (withScalar schema name).types.map SchemaType.name) =
          rest.filter (· ∉ schema.types.map SchemaType.name) := by
        refine List.filter_congr fun other listed => ?_
        have differs : other ≠ name := fun same => apart (same ▸ listed)
        simp [behind, differs]
      rw [others, behind, List.filter_cons_of_pos (by simpa using known), List.map_cons,
        List.append_assoc, List.singleton_append]

-- The table of a document: what it defines, in the order in which the names first come up, and
-- behind it the scalars that it leaves to be understood.
theorem Document.schema_types (document : Document) :
    document.schema.types = (Document.defined document).types ++
      (builtinScalars.filter (· ∉ Document.typeNames document)).map fun name => ⟨name, .scalar⟩ := by
  have completed := withScalars_types (by decide : builtinScalars.Nodup) (Document.defined document)
  rw [Document.defined_names] at completed
  simp only [List.mem_eraseDups] at completed
  exact completed

theorem Document.schema_roots (document : Document) :
    document.schema.roots = (Document.defined document).roots :=
  (withScalars_written builtinScalars _).2

theorem last_definition_holds :
    (∀ text document, Document.ofText text = .ok document →
      document.Grammatical ∧ Schema.ofText text = .ok document.schema) ∧
    ∀ document : Document, document.Grammatical →
      (∃ defined,
        document.schema.types = defined ++
          (["String", "Int", "Float", "Boolean", "ID"].filter (· ∉ document.typeNames)).map
            (⟨·, .scalar⟩) ∧
        defined.map SchemaType.name = document.typeNames.eraseDups ∧
        ∀ type ∈ defined, ∃ definition, document.LastDefines definition ∧
          definition.name.text = type.name ∧ definition.body.KeptIn type.shape) ∧
      (∀ definition, document.LastRoots definition → document.schema.roots =
        ⟨definition.query.map Identifier.text, definition.mutation.map Identifier.text,
          definition.subscription.map Identifier.text⟩) ∧
      ((∀ definition, .roots definition ∉ document) → document.schema.roots =
        ⟨some "Query", some "Mutation", some "Subscription"⟩) ∧
      ∀ other : Document, other.filter Definition.counts = document.filter Definition.counts →
        other.schema = document.schema := by
  constructor
  · intro text document read
    refine ⟨Document.ofText_grammatical read, ?_⟩
    rw [Schema.ofText, read]
    rfl
  · intro document written
    refine ⟨⟨_, document.schema_types, document.defined_names, ?_⟩, ?_, ?_, ?_⟩
    · intro type member
      obtain ⟨definition, last, rfl⟩ := Document.mem_defined member
      have body : definition.body.Grammatical := written _ last.mem
      exact ⟨definition, last, rfl, body.keptIn⟩
    · intro definition last
      rw [document.schema_roots, last.roots_eq]
      rfl
    · intro silent
      rw [document.schema_roots, Document.defined, Document.foldl_roots silent]
      rfl
    · intro other same
      -- What does not count changes nothing before the table is completed, so nothing after
      -- it.
      change builtinScalars.foldl withScalar other.defined =
        builtinScalars.foldl withScalar document.defined
      rw [← other.defined_filter, same, document.defined_filter]

-- Two definitions of one type, a builtin scalar that is an enum, and two schema blocks.
def stallText : String :=
  "schema \x7b query: Item \x7d type Item \x7b id: ID \x7d enum ID \x7b ONE \x7d "
    ++ "type Item \x7b tags(of: [Int!]): [ID!]! \x7d extend type Item \x7b id: Int \x7d "
    ++ "schema \x7b mutation: Stall \x7d directive @dated on OBJECT"

def stallDocument : Document :=
  let item : Identifier := ⟨"Item", by decide⟩
  let id : Identifier := ⟨"id", by decide⟩
  let builtin : Identifier := ⟨"ID", by decide⟩
  let int : Identifier := ⟨"Int", by decide⟩
  [.roots { query := some item },
    .type ⟨item, [], .object [] [⟨id, [], .named builtin⟩]⟩,
    .type ⟨builtin, [], .enum [⟨"ONE", by decide⟩]⟩,
    .type ⟨item, [], .object [] [⟨⟨"tags", by decide⟩,
      [⟨⟨"of", by decide⟩, .list (.nonNull (.named int))⟩],
      .nonNull (.list (.nonNull (.named builtin)))⟩]⟩,
    .extension ⟨item, [], .object [] [⟨id, [], .named int⟩]⟩,
    .roots { mutation := some ⟨"Stall", by decide⟩ },
    .directive ⟨"dated", by decide⟩ []]

theorem stall_last_definitions :
    Document.ofText stallText = .ok stallDocument ∧
    Schema.ofText stallText = .ok stallDocument.schema ∧
    (∃ defined,
      stallDocument.schema.types =
        defined ++ ["String", "Int", "Float", "Boolean"].map (⟨·, .scalar⟩) ∧
      defined.map SchemaType.name = ["Item", "ID"] ∧
      ∀ type ∈ defined, ∃ definition, stallDocument.LastDefines definition ∧
        definition.name.text = type.name ∧ definition.body.KeptIn type.shape) ∧
    stallDocument.schema.roots = ⟨none, some "Stall", none⟩ ∧
    Document.schema (stallDocument.filter Definition.counts) = stallDocument.schema := by
  obtain ⟨texts, documents⟩ := last_definition_holds
  have read : Document.ofText stallText = .ok stallDocument := by decide +kernel
  obtain ⟨written, loaded⟩ := texts stallText stallDocument read
  obtain ⟨defined, roots, -, skipped⟩ := documents stallDocument written
  refine ⟨read, loaded, defined, ?_, skipped _ (by decide)⟩
  exact roots { mutation := some ⟨"Stall", by decide⟩ } ⟨stallDocument.take 5, _, rfl, by simp⟩

end ServiceTypes.Sdl
