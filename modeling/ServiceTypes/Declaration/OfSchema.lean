import ServiceTypes.Declaration.Basic
import ServiceTypes.Representation

namespace ServiceTypes

namespace Schema

def typedName (schema : Schema) (argument : Argument) : TypedName :=
  ⟨argument.name, schema.describe argument.type⟩

def method (schema : Schema) (kind : MethodKind) (field : Field) : Method where
  kind
  name := field.name
  params := field.arguments.map schema.typedName
  returns := schema.describe field.type

def getter (schema : Schema) (field : Field) : Method := schema.method .get field

def closedRecord (schema : Schema) (name : String) (fields : List Argument) : Record where
  name
  closed := true
  fields := fields.map schema.typedName

def openRecord (schema : Schema) (name : String) (members : Members) : Record where
  name
  closed := false
  fields := members.fields.map fun field => ⟨field.name, schema.describe field.type⟩

def includes (schema : Schema) (members : Members) : List String :=
  schema.unimplied members.interfaces

def ownMethods (schema : Schema) (members : Members) : List Method :=
  (schema.uncovered members.fields (schema.includes members)).map schema.getter

def serviceContract (schema : Schema) (name : String) (members : Members) : ServiceContract where
  name
  includes := schema.includes members
  methods := schema.ownMethods members

-- Any listed interface makes a class distinct, also one that is not included for being implied.
def serviceClass (schema : Schema) (name : String) (members : Members) : ServiceClass where
  name
  distinct := !members.interfaces.isEmpty
  includes := schema.includes members
  methods := schema.ownMethods members

def objectDeclaration (schema : Schema) (representation : Representation) (name : String)
    (members : Members) : Declaration :=
  match representation with
  | .record => .record (schema.openRecord name members)
  | .service => .service (schema.serviceClass name members)

end Schema

def UnionDefinition.ofMembers? (name : String) (members : List String) : Option UnionDefinition :=
  (Alternatives.ofMembers? members).map fun alternatives => ⟨name, alternatives⟩

structure Sections where
  inputObjects : List Declaration := []
  interfaces : List Declaration := []
  enums : List Declaration := []
  unions : List Declaration := []
  objects : List Declaration := []

def Sections.declarations (sections : Sections) : List Declaration :=
  sections.inputObjects ++ sections.interfaces ++ sections.enums ++ sections.unions
    ++ sections.objects

namespace Schema

-- An object for which no representation was chosen is declared as a service class.
def addTo (schema : Schema) (representations : List (String × Representation)) (type : SchemaType)
    (sections : Sections) : Sections :=
  match type.shape with
  | .scalar => sections
  | .inputObject fields =>
    { sections with
      inputObjects := .record (schema.closedRecord type.name fields) :: sections.inputObjects }
  | .interface members =>
    { sections with
      interfaces := .interface (schema.serviceContract type.name members) :: sections.interfaces }
  | .enum values => { sections with enums := .enum ⟨type.name, values⟩ :: sections.enums }
  | .union members => match UnionDefinition.ofMembers? type.name members with
    | some definition => { sections with unions := .union definition :: sections.unions }
    | none => sections
  | .object members =>
    let representation := (representations.lookup type.name).getD .service
    { sections with
      objects := schema.objectDeclaration representation type.name members :: sections.objects }

-- One pass over the table, from its end so that each declaration goes in front of later ones.
def sections (schema : Schema) (recordsForced : Bool) : Sections :=
  let representations := schema.representations recordsForced
  schema.types.foldr
    (fun type sections =>
      if schema.isDeclared type.name then schema.addTo representations type sections else sections)
    {}

def declarations (schema : Schema) (recordsForced : Bool) : List Declaration :=
  (schema.sections recordsForced).declarations

end Schema

def rootBase : String := "graphql:Service"

def Method.streamed (method : Method) : Method := { method with returns := .stream method.returns }

namespace Schema

def rootMethod (schema : Schema) : MethodKind → Field → Method
  | .subscribe, field => (schema.method .subscribe field).streamed
  | kind, field => schema.method kind field

def rootMethods (schema : Schema) (kind : MethodKind) : Option Members → List Method
  | some members => members.fields.map (schema.rootMethod kind)
  | none => []

def rootContract (schema : Schema) (name : String) : RootContract where
  name
  base := rootBase
  methods := schema.rootMethods .get schema.query? ++ schema.rootMethods .remote schema.mutation?
    ++ schema.rootMethods .subscribe schema.subscription?

def toModule (schema : Schema) (name : String) (recordsForced : Bool) : SourceModule where
  declarations := .root (schema.rootContract name) :: schema.declarations recordsForced

end Schema

end ServiceTypes
