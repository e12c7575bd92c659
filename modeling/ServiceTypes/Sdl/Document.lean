import ServiceTypes.Name
import ServiceTypes.Schema

namespace ServiceTypes.Sdl

-- The definitions of a text as far as they bear on a schema. Descriptions, default values and the
-- arguments of applied directives are left out.
inductive TypeExpr where
  | named (name : Identifier)
  | list (element : TypeExpr)
  | nonNull (inner : TypeExpr)
  deriving DecidableEq

structure ArgumentDefinition where
  name : Identifier
  type : TypeExpr
  deriving DecidableEq

structure FieldDefinition where
  name : Identifier
  arguments : List ArgumentDefinition
  type : TypeExpr
  deriving DecidableEq

inductive DefinitionBody where
  | object (interfaces : List Identifier) (fields : List FieldDefinition)
  | interface (interfaces : List Identifier) (fields : List FieldDefinition)
  | inputObject (fields : List ArgumentDefinition)
  | enum (values : List Identifier)
  | union (members : List Identifier)
  | scalar
  deriving DecidableEq

structure TypeDefinition where
  name : Identifier
  directives : List Identifier
  body : DefinitionBody
  deriving DecidableEq

structure RootDefinition where
  query : Option Identifier := none
  mutation : Option Identifier := none
  subscription : Option Identifier := none
  deriving DecidableEq

inductive Definition where
  | roots (roots : RootDefinition)
  | type (type : TypeDefinition)
  | extension (type : TypeDefinition)
  | directive (name : Identifier) (arguments : List ArgumentDefinition)
  deriving DecidableEq

abbrev Document := List Definition

-- The interfaces of an extended object count for something, those of an extended interface do not.
def TypeDefinition.addsNothing (type : TypeDefinition) : Bool :=
  type.directives.isEmpty && match type.body with
    | .object interfaces fields => interfaces.isEmpty && fields.isEmpty
    | .interface _ fields => fields.isEmpty
    | .inputObject fields => fields.isEmpty
    | .enum values => values.isEmpty
    | .union members => members.isEmpty
    | .scalar => true

def RootDefinition.assign? (roots : RootDefinition) (operation type : Identifier) :
    Option RootDefinition :=
  if operation.text = "query" then
    if roots.query.isNone then some { roots with query := some type } else none
  else if operation.text = "mutation" then
    if roots.mutation.isNone then some { roots with mutation := some type } else none
  else if operation.text = "subscription" then
    if roots.subscription.isNone then some { roots with subscription := some type } else none
  else none

def TypeExpr.typeRef : TypeExpr → TypeRef
  | named name => .named name.text
  | list element => .list element.typeRef
  | nonNull inner => inner.typeRef.required

def ArgumentDefinition.argument (definition : ArgumentDefinition) : Argument :=
  ⟨definition.name.text, definition.type.typeRef⟩

def FieldDefinition.field (definition : FieldDefinition) : Field where
  name := definition.name.text
  type := definition.type.typeRef
  arguments := definition.arguments.map ArgumentDefinition.argument

def DefinitionBody.shape : DefinitionBody → Shape
  | object interfaces fields =>
    .object ⟨fields.map FieldDefinition.field, interfaces.map Identifier.text⟩
  | interface interfaces fields =>
    .interface ⟨fields.map FieldDefinition.field, interfaces.map Identifier.text⟩
  | inputObject fields => .inputObject (fields.map ArgumentDefinition.argument)
  | enum values => .enum (values.map Identifier.text)
  | union members => .union (members.map Identifier.text)
  | scalar => .scalar

def TypeDefinition.schemaType (definition : TypeDefinition) : SchemaType :=
  ⟨definition.name.text, definition.body.shape⟩

def RootDefinition.roots (definition : RootDefinition) : Roots where
  query := definition.query.map Identifier.text
  mutation := definition.mutation.map Identifier.text
  subscription := definition.subscription.map Identifier.text

-- Later definitions replace earlier ones. Nothing is checked against anything else.
def Definition.apply (schema : Schema) : Definition → Schema
  | roots definition => schema.withRoots definition.roots
  | type definition => schema.insert definition.schemaType
  | extension _ => schema
  | directive _ _ => schema

def withScalar (schema : Schema) (name : String) : Schema :=
  if (schema.get? name).isSome then schema else schema.insert ⟨name, .scalar⟩

def Document.schema (document : Document) : Schema :=
  builtinScalars.foldl withScalar (document.foldl Definition.apply .empty)

end ServiceTypes.Sdl
