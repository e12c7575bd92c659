namespace ServiceTypes

-- A position is nullable unless `nonNull` stands directly around it.
inductive TypeRef where
  | named (name : String)
  | list (element : TypeRef)
  | nonNull (inner : TypeRef)
  deriving DecidableEq

namespace TypeRef

def required : TypeRef → TypeRef
  | nonNull inner => nonNull inner
  | other => nonNull other

def target : TypeRef → String
  | named name => name
  | list element => element.target
  | nonNull inner => inner.target

end TypeRef

structure Argument where
  name : String
  type : TypeRef
  deriving DecidableEq

structure Field where
  name : String
  type : TypeRef
  arguments : List Argument := []
  deriving DecidableEq

def Field.takesArguments (field : Field) : Bool := !field.arguments.isEmpty

structure Members where
  fields : List Field := []
  interfaces : List String := []
  deriving DecidableEq

def Members.takesArguments (members : Members) : Bool := members.fields.any Field.takesArguments

inductive Kind where
  | object | interface | inputObject | enum | union | scalar
  deriving DecidableEq

inductive Shape where
  | object (members : Members)
  | interface (members : Members)
  | inputObject (fields : List Argument)
  | enum (values : List String)
  | union (members : List String)
  | scalar
  deriving DecidableEq

def Shape.kind : Shape → Kind
  | object _ => .object
  | interface _ => .interface
  | inputObject _ => .inputObject
  | enum _ => .enum
  | union _ => .union
  | scalar => .scalar

structure SchemaType where
  name : String
  shape : Shape
  deriving DecidableEq

def SchemaType.kind (type : SchemaType) : Kind := type.shape.kind

-- A name given here counts as a root also when the table has no type of that name.
structure Roots where
  query : Option String := some "Query"
  mutation : Option String := some "Mutation"
  subscription : Option String := some "Subscription"
  deriving DecidableEq

namespace Schema

-- A new type takes the place of the one with its name and goes to the end otherwise.
def place (type : SchemaType) : List SchemaType → Option SchemaType × List SchemaType
  | [] => (none, [type])
  | other :: rest =>
    if other.name = type.name then (some other, type :: rest)
    else match place type rest with
      | (displaced, rest) => (displaced, other :: rest)

theorem place_names (type : SchemaType) (types : List SchemaType) :
    (place type types).2.map SchemaType.name =
      if type.name ∈ types.map SchemaType.name then types.map SchemaType.name
      else types.map SchemaType.name ++ [type.name] := by
  induction types with
  | nil => simp [place]
  | cons other rest ih =>
    by_cases same : other.name = type.name
    · simp [place, same]
    · have differs : type.name ≠ other.name := fun equal => same equal.symm
      simp only [place, same, if_false, List.map_cons, List.mem_cons, differs, false_or, ih]
      split <;> rfl

theorem place_nodup (type : SchemaType) {types : List SchemaType}
    (nodup : (types.map SchemaType.name).Nodup) :
    ((place type types).2.map SchemaType.name).Nodup := by
  rw [place_names]
  split
  · exact nodup
  · rename_i absent
    refine List.nodup_append.2 ⟨nodup, by simp, ?_⟩
    intro name member last isLast same
    rw [List.mem_singleton] at isLast
    exact absent (isLast ▸ same ▸ member)

end Schema

structure Schema where
  types : List SchemaType := []
  roots : Roots := {}
  names_nodup : (types.map SchemaType.name).Nodup := by exact List.nodup_nil

namespace Schema

def empty : Schema := {}

def exchange (schema : Schema) (type : SchemaType) : Option SchemaType × Schema :=
  ((place type schema.types).1,
    { schema with
      types := (place type schema.types).2
      names_nodup := place_nodup type schema.names_nodup })

def insert (schema : Schema) (type : SchemaType) : Schema := (schema.exchange type).2

def withRoots (schema : Schema) (roots : Roots) : Schema := { schema with roots }

def size (schema : Schema) : Nat := schema.types.length

def isEmpty (schema : Schema) : Bool := schema.types.isEmpty

def get? (schema : Schema) (name : String) : Option SchemaType :=
  schema.types.find? (·.name = name)

def kind? (schema : Schema) (name : String) : Option Kind :=
  (schema.get? name).map SchemaType.kind

def object? (schema : Schema) (name : String) : Option Members :=
  match schema.get? name with
  | some ⟨_, .object members⟩ => some members
  | _ => none

def interface? (schema : Schema) (name : String) : Option Members :=
  match schema.get? name with
  | some ⟨_, .interface members⟩ => some members
  | _ => none

def query? (schema : Schema) : Option Members := schema.roots.query.bind schema.object?

def mutation? (schema : Schema) : Option Members := schema.roots.mutation.bind schema.object?

def subscription? (schema : Schema) : Option Members :=
  schema.roots.subscription.bind schema.object?

def isRoot (schema : Schema) (name : String) : Bool :=
  schema.roots.query = some name || schema.roots.mutation = some name
    || schema.roots.subscription = some name

end Schema

def builtinScalars : List String := ["String", "Int", "Float", "Boolean", "ID"]

namespace Schema

-- One level only: where `A` lists `B` and `B` lists `C`, nothing is said of `C` by `A`. No
-- interface speaks for itself.
def impliedBy (schema : Schema) (name : String) : List String :=
  match schema.interface? name with
  | some members => members.interfaces.filter (· ≠ name)
  | none => []

def definedBy (schema : Schema) (name : String) : List String :=
  match schema.interface? name with
  | some members => members.fields.map Field.name
  | none => []

-- Every declared name strikes what it implies, also one that has been struck before its turn.
def unimplied (schema : Schema) (declared : List String) : List String :=
  declared.foldl (fun kept name => kept.filter (· ∉ schema.impliedBy name)) declared

def uncovered (schema : Schema) (fields : List Field) (interfaces : List String) : List Field :=
  interfaces.foldl (fun kept name => kept.filter (·.name ∉ schema.definedBy name)) fields

end Schema

end ServiceTypes
