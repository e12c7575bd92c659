import ServiceTypes.Declaration.OfSchema
import ServiceTypes.Json

namespace ServiceTypes

inductive Role where
  | plain | keyword | name | builtin
  deriving DecidableEq

structure Span where
  role : Role
  text : String
  deriving DecidableEq

namespace Span

def plain (text : String) : Span := ⟨.plain, text⟩

def keyword (text : String) : Span := ⟨.keyword, text⟩

def name (text : String) : Span := ⟨.name, text⟩

def builtin (text : String) : Span := ⟨.builtin, text⟩

end Span

structure Palette where
  name : String
  keyword : String
  builtin : String
  reset : String
  deriving DecidableEq

namespace Palette

def on : Palette := ⟨"\x1b[34m", "\x1b[2m", "\x1b[32m", "\x1b[0m"⟩

def off : Palette := ⟨"", "", "", ""⟩

def ofEnabled (enabled : Bool) : Palette := if enabled then on else off

def isEnabled (palette : Palette) : Bool := palette.reset != ""

-- Plain text is left alone, so no reset code follows it either.
def wrap (palette : Palette) (role : Role) (text : String) : String :=
  match role with
  | .plain => text
  | .keyword => palette.keyword ++ text ++ palette.reset
  | .name => palette.name ++ text ++ palette.reset
  | .builtin => palette.builtin ++ text ++ palette.reset

def paint (palette : Palette) (spans : List Span) : String :=
  String.join (spans.map fun span => palette.wrap span.role span.text)

variable (palette : Palette)

@[simp] theorem paint_nil : palette.paint [] = "" := rfl

@[simp] theorem paint_cons (span : Span) (spans : List Span) :
    palette.paint (span :: spans) = palette.wrap span.role span.text ++ palette.paint spans := by
  rw [paint, List.map_cons, String.join_cons, paint]

@[simp] theorem paint_append (first second : List Span) :
    palette.paint (first ++ second) = palette.paint first ++ palette.paint second := by
  rw [paint, List.map_append, String.join_append, paint, paint]

@[simp] theorem wrap_plain (text : String) :
    palette.wrap (Span.plain text).role text = text := rfl

end Palette

def reservedWords : List String := [
  "abstract", "any", "anydata", "boolean", "break", "byte", "check", "checkpanic", "class",
  "client", "configurable", "const", "continue", "decimal", "default", "distinct", "do", "else",
  "enum", "error", "fail", "false", "final", "float", "foreach", "fork", "from", "function",
  "future", "handle", "if", "import", "in", "int", "is", "isolated", "join", "json", "let",
  "listener", "lock", "map", "match", "never", "new", "null", "object", "on", "panic", "private",
  "public", "readonly", "record", "remote", "resource", "retry", "return", "returns", "select",
  "service", "start", "stream", "string", "table", "transaction", "trap", "true", "typedesc",
  "type", "typeof", "var", "wait", "where", "while", "worker", "xml", "xmlns"]

structure InvalidIdentifier where
  name : String
  deriving DecidableEq

def InvalidIdentifier.message (error : InvalidIdentifier) : String :=
  "`" ++ error.name ++ "` is not a valid identifier"

def writtenName (name : String) : Except InvalidIdentifier String :=
  if isIdentifier name then .ok (if reservedWords.contains name then "'" ++ name else name)
  else .error ⟨name⟩

-- Each declaration is a block of whole lines. Names are checked in the order in which they are
-- written, and the first that cannot be written is the one reported.
abbrev Rendered := Except InvalidIdentifier (List Span)

def innerLine (spans : List Span) : List Span := .plain "    " :: spans ++ [.plain "\n"]

def Descriptor.spans : Descriptor → Rendered
  | primitive p => .ok [.builtin p.keyword]
  | named name => do
    let name ← writtenName name
    return [.name name]
  | array element => do
    let element ← element.spans
    return element ++ [.plain "[]"]
  | optional inner => do
    let inner ← inner.spans
    return inner ++ [.plain "?"]
  | stream element => do
    let element ← element.spans
    return .builtin "stream" :: .plain "<" :: element ++ [.plain ">"]

def Alternatives.spans : Alternatives → Rendered
  | member name => do
    let name ← writtenName name
    return [.name name]
  | either left right => do
    let left ← left.spans
    let right ← right.spans
    return left ++ .plain "|" :: right

def TypedName.spans (typed : TypedName) : Rendered := do
  let type ← typed.type.spans
  let name ← writtenName typed.name
  return type ++ [.plain (" " ++ name)]

def MethodKind.qualifiers : MethodKind → String
  | get => "resource function get"
  | remote => "remote function"
  | subscribe => "resource function subscribe"

def Method.signature (method : Method) : Rendered := do
  let name ← writtenName method.name
  let params ← method.params.mapM TypedName.spans
  let returns ← method.returns.spans
  return .keyword method.kind.qualifiers :: .plain (" " ++ name ++ "(")
    :: [.plain ", "].intercalate params
    ++ .plain ") " :: .keyword "returns" :: .plain " " :: returns

def Method.promise (method : Method) : Rendered := do
  let signature ← method.signature
  return innerLine (signature ++ [.plain ";"])

def Method.stub (method : Method) : Rendered := do
  let signature ← method.signature
  return innerLine (signature ++ [.plain " \x7b"]) ++ innerLine [.plain "\x7d"]

def includeLine (name : String) : Rendered := do
  let name ← writtenName name
  return innerLine [.plain "*", .name name, .plain ";"]

def typeHeader (name : String) (rest : List Span) : Rendered := do
  let name ← writtenName name
  return .keyword "type" :: .plain " " :: .name name :: .plain " " :: rest ++ [.plain "\n"]

def TypedName.fieldLine (field : TypedName) : Rendered := do
  let field ← field.spans
  return innerLine (field ++ [.plain ";"])

def Record.spans (record : Record) : Rendered := do
  let header ← typeHeader record.name
    [.plain (if record.closed then "record \x7b|" else "record \x7b")]
  let fields ← record.fields.mapM TypedName.fieldLine
  return header ++ fields.flatten ++ [.plain (if record.closed then "|\x7d;\n" else "\x7d;\n")]

def ServiceContract.spans (contract : ServiceContract) : Rendered := do
  let header ← typeHeader contract.name [.plain "distinct service object \x7b"]
  let includes ← contract.includes.mapM includeLine
  let methods ← contract.methods.mapM Method.promise
  return header ++ includes.flatten ++ methods.flatten ++ [.plain "\x7d;\n"]

def EnumDefinition.spans (enum : EnumDefinition) : Rendered := do
  let name ← writtenName enum.name
  let members ← enum.members.mapM writtenName
  return .keyword "enum" :: .plain " " :: .name name :: .plain " \x7b\n"
    :: [.plain ",\n"].intercalate (members.map fun member => [.plain ("    " ++ member)])
    ++ (if members.isEmpty then [] else [.plain "\n"]) ++ [.plain "\x7d\n"]

-- Here the members are checked before the name, although the name is written first.
def UnionDefinition.spans (union : UnionDefinition) : Rendered := do
  let alternatives ← union.alternatives.spans
  typeHeader union.name (alternatives ++ [.plain ";"])

def ServiceClass.spans (service : ServiceClass) : Rendered := do
  let name ← writtenName service.name
  let includes ← service.includes.mapM includeLine
  let methods ← service.methods.mapM Method.stub
  return (if service.distinct then [.keyword "distinct", .plain " "] else [])
    ++ .keyword "service class" :: .plain " " :: .name name :: .plain " \x7b\n"
    :: includes.flatten ++ methods.flatten ++ [.plain "\x7d\n"]

def RootContract.spans (contract : RootContract) : Rendered := do
  let header ← typeHeader contract.name [.plain "service object \x7b"]
  let methods ← contract.methods.mapM Method.promise
  return header ++ innerLine [.plain "*", .builtin contract.base, .plain ";"]
    ++ methods.flatten ++ [.plain "\x7d;\n"]

def Declaration.spans : Declaration → Rendered
  | record r => r.spans
  | service s => s.spans
  | interface c => c.spans
  | enum e => e.spans
  | union u => u.spans
  | root c => c.spans

def Import.spans (imports : Import) : Rendered := do
  let org ← writtenName imports.org
  let module ← writtenName imports.module
  return [.keyword "import", .plain (" " ++ org ++ "/" ++ module ++ ";\n")]

def SourceModule.spans (module : SourceModule) : Rendered := do
  let imports ← module.imports.spans
  let blocks ← module.declarations.mapM Declaration.spans
  return imports ++ blocks.flatMap fun block => .plain "\n" :: block

def SourceModule.source (palette : Palette) (module : SourceModule) :
    Except InvalidIdentifier String :=
  module.spans.map palette.paint

inductive Format where
  | ballerina | json
  deriving DecidableEq

structure Settings where
  recordsForced : Bool := false
  colored : Bool := false
  deriving DecidableEq

inductive GenerationError where
  | unwritable (error : InvalidIdentifier)
  deriving DecidableEq

def GenerationError.message : GenerationError → String
  | unwritable error => "service types generation failed: " ++ error.message

namespace Schema

def source (schema : Schema) (name : String) (settings : Settings) :
    Except GenerationError String :=
  ((schema.toModule name settings.recordsForced).source (.ofEnabled settings.colored)).mapError
    .unwritable

def output (schema : Schema) (name : String) (settings : Settings) :
    Format → Except GenerationError String
  | .ballerina => schema.source name settings
  | .json => .ok (schema.toModule name settings.recordsForced).jsonText

end Schema

end ServiceTypes
