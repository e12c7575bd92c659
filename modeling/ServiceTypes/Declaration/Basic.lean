import ServiceTypes.Schema

namespace ServiceTypes

inductive Primitive where
  | string | int | float | boolean
  deriving DecidableEq

namespace Primitive

-- IDs and scalars of unknown meaning travel as strings.
def ofScalar (name : String) : Primitive :=
  if name = "Int" then int
  else if name = "Float" then float
  else if name = "Boolean" then boolean
  else string

def keyword : Primitive → String
  | string => "string"
  | int => "int"
  | float => "float"
  | boolean => "boolean"

end Primitive

inductive Descriptor where
  | primitive (primitive : Primitive)
  | named (name : String)
  | array (element : Descriptor)
  | optional (inner : Descriptor)
  | stream (element : Descriptor)
  deriving DecidableEq

namespace Descriptor

def nullableUnless (nonNull : Bool) (descriptor : Descriptor) : Descriptor :=
  if nonNull then descriptor else optional descriptor

def isOptional : Descriptor → Bool
  | optional _ => true
  | _ => false

end Descriptor

namespace Schema

def targetDescriptor (schema : Schema) (name : String) : Descriptor :=
  match schema.kind? name with
  | none | some .scalar => .primitive (.ofScalar name)
  | some _ => .named name

-- Null is tracked level by level, so `[T]`, `[T]!`, `[T!]` and `[T!]!` stay apart. The flag says
-- that `nonNull` stands directly around the reference; it does not reach into a list.
def descriptor (schema : Schema) (nonNull : Bool) : TypeRef → Descriptor
  | .named name => (schema.targetDescriptor name).nullableUnless nonNull
  | .list element => (Descriptor.array (schema.descriptor false element)).nullableUnless nonNull
  | .nonNull inner => schema.descriptor true inner

def describe (schema : Schema) (type : TypeRef) : Descriptor := schema.descriptor false type

end Schema

-- The members of a union, paired off. Any nesting may be written down, and all nestings of the
-- same members say the same; `ofMembers?` builds the one with a single member on every right.
inductive Alternatives where
  | member (name : String)
  | either (left right : Alternatives)
  deriving DecidableEq

namespace Alternatives

def ofMembers? : List String → Option Alternatives
  | [] => none
  | first :: rest => some (rest.foldl (fun left name => either left (member name)) (member first))

def members : Alternatives → List String
  | member name => [name]
  | either left right => left.members ++ right.members

end Alternatives

structure TypedName where
  name : String
  type : Descriptor
  deriving DecidableEq

inductive MethodKind where
  | get | remote | subscribe
  deriving DecidableEq

structure Method where
  kind : MethodKind
  name : String
  params : List TypedName
  returns : Descriptor
  deriving DecidableEq

structure Record where
  name : String
  closed : Bool
  fields : List TypedName
  deriving DecidableEq

structure ServiceClass where
  name : String
  distinct : Bool
  includes : List String
  methods : List Method
  deriving DecidableEq

structure ServiceContract where
  name : String
  includes : List String
  methods : List Method
  deriving DecidableEq

structure EnumDefinition where
  name : String
  members : List String
  deriving DecidableEq

structure UnionDefinition where
  name : String
  alternatives : Alternatives
  deriving DecidableEq

-- Its base is a qualified name, and is never checked to be an identifier.
structure RootContract where
  name : String
  base : String
  methods : List Method
  deriving DecidableEq

inductive Declaration where
  | record (record : Record)
  | service (service : ServiceClass)
  | interface (contract : ServiceContract)
  | enum (enum : EnumDefinition)
  | union (union : UnionDefinition)
  | root (contract : RootContract)
  deriving DecidableEq

def Declaration.name : Declaration → String
  | record r => r.name
  | service s => s.name
  | interface c => c.name
  | enum e => e.name
  | union u => u.name
  | root c => c.name

structure Import where
  org : String
  module : String
  deriving DecidableEq

def Import.graphql : Import := ⟨"ballerina", "graphql"⟩

structure SourceModule where
  imports : Import := .graphql
  declarations : List Declaration
  deriving DecidableEq

end ServiceTypes
