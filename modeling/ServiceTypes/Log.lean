import ServiceTypes.Declaration.OfSchema
import ServiceTypes.QuotedText
import ServiceTypes.Sdl.Document

namespace ServiceTypes

inductive Level where
  | warn | info | debug | trace
  deriving DecidableEq

namespace Level

def threshold : Level → Nat
  | warn => 0
  | info => 1
  | debug => 2
  | trace => 3

def label : Level → String
  | warn => " WARN"
  | info => " INFO"
  | debug => "DEBUG"
  | trace => "TRACE"

end Level

def Kind.word : Kind → String
  | object => "Object"
  | interface => "Interface"
  | inputObject => "InputObject"
  | enum => "Enum"
  | union => "Union"
  | scalar => "Scalar"

def Representation.word : Representation → String
  | record => "Record"
  | service => "Behavior"

inductive Event where
  | loaded (source : String) (bytes : Nat)
  | passedExtension
  | passedDirective (name : String)
  | builtRoot (name : String) (methods : Nat)
  | classified (name : String) (representation : Representation)
  | passedType (name : String)
  | passedScalar (name : String)
  | routed (name : String) (kind : Kind)
  | emptyUnion (name : String)
  | walked (declarations : Nat)
  | wrote (path : String)
  deriving DecidableEq

namespace Event

def level : Event → Level
  | loaded .. | wrote .. => .info
  | emptyUnion .. => .warn
  | passedType .. | passedScalar .. => .trace
  | passedExtension | passedDirective .. | builtRoot .. | classified .. | routed .. | walked .. =>
    .debug

def message : Event → String
  | loaded .. => "loaded schema"
  | passedExtension => "skipping type extension"
  | passedDirective .. => "skipping directive definition"
  | builtRoot .. => "built root contract"
  | classified .. => "classified object type"
  | passedType .. => "skipped"
  | passedScalar .. => "skipped scalar"
  | routed .. => "routing type"
  | emptyUnion .. => "union has no members, skipped"
  | walked .. => "walked schema"
  | wrote .. => "wrote declarations"

def fields : Event → List (String × String)
  | loaded source bytes => [("source", source), ("bytes", toString bytes)]
  | passedExtension => []
  | passedDirective name => [("directive", name)]
  | builtRoot name methods => [("name", quotedText name), ("methods", toString methods)]
  | classified name representation => [("name", name), ("decision", representation.word)]
  | passedType name | passedScalar name | emptyUnion name => [("name", quotedText name)]
  | routed name kind => [("name", quotedText name), ("kind", kind.word)]
  | walked declarations => [("count", toString declarations)]
  | wrote path => [("path", path)]

def line (event : Event) : String :=
  event.level.label ++ " " ++ event.message
    ++ String.join (event.fields.map fun (name, value) => " " ++ name ++ "=" ++ value) ++ "\n"

def log (verbosity : Nat) (events : List Event) : String :=
  String.join ((events.filter (·.level.threshold ≤ verbosity)).map line)

end Event

-- The events of a stage are a function of what it works on; nothing is recorded on the way.
def Sdl.Definition.events : Sdl.Definition → List Event
  | .roots _ | .type _ => []
  | .extension _ => [.passedExtension]
  | .directive name _ => [.passedDirective name.text]

namespace Schema

def representationEvents (schema : Schema) (recordsForced : Bool) : List Event :=
  (schema.representations recordsForced).map fun (name, representation) =>
    .classified name representation

def typeEvents (schema : Schema) (type : SchemaType) : List Event :=
  if schema.isDeclared type.name then match type.shape with
    | .scalar => [.passedScalar type.name]
    | .union [] => [.routed type.name .union, .emptyUnion type.name]
    | shape => [.routed type.name shape.kind]
  else [.passedType type.name]

def moduleEvents (schema : Schema) (name : String) (recordsForced : Bool) : List Event :=
  .builtRoot name (schema.rootContract name).methods.length
    :: schema.representationEvents recordsForced
    ++ schema.types.flatMap schema.typeEvents
    ++ [.walked (schema.declarations recordsForced).length]

end Schema

end ServiceTypes
