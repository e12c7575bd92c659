import ServiceTypes.Declaration.Basic

namespace ServiceTypes

-- JSON without numbers and null. The members of an object keep their order.
inductive Json where
  | bool (value : Bool)
  | string (text : String)
  | array (items : List Json)
  | object (members : List (String × Json))

namespace Json

def hexDigit (value : Nat) : Char :=
  if value < 10 then Char.ofNat (value + '0'.toNat) else Char.ofNat (value - 10 + 'a'.toNat)

def escape (c : Char) : List Char :=
  match c with
  | '"' => ['\\', '"']
  | '\\' => ['\\', '\\']
  | '\x08' => ['\\', 'b']
  | '\x0c' => ['\\', 'f']
  | '\n' => ['\\', 'n']
  | '\r' => ['\\', 'r']
  | '\t' => ['\\', 't']
  | c =>
    if c.toNat < 0x20 then
      ['\\', 'u', '0', '0', hexDigit (c.toNat / 16), hexDigit (c.toNat % 16)]
    else [c]

def quoted (text : String) : List Char := '"' :: text.toList.flatMap escape ++ ['"']

def lineBreak (depth : Nat) : List Char := '\n' :: List.replicate (2 * depth) ' '

-- Items and members stand on lines of their own; empty brackets are closed at once.
mutual
def write (depth : Nat) : Json → List Char
  | bool true => ['t', 'r', 'u', 'e']
  | bool false => ['f', 'a', 'l', 's', 'e']
  | string text => quoted text
  | array [] => ['[', ']']
  | array (item :: items) =>
    '[' :: lineBreak (depth + 1) ++ item.write (depth + 1) ++ writeItems (depth + 1) items
      ++ lineBreak depth ++ [']']
  | object [] => ['{', '}']
  | object ((key, value) :: members) =>
    '{' :: lineBreak (depth + 1) ++ quoted key ++ ':' :: ' ' :: value.write (depth + 1)
      ++ writeMembers (depth + 1) members ++ lineBreak depth ++ ['}']
def writeItems (depth : Nat) : List Json → List Char
  | [] => []
  | item :: items => ',' :: lineBreak depth ++ item.write depth ++ writeItems depth items
def writeMembers (depth : Nat) : List (String × Json) → List Char
  | [] => []
  | (key, value) :: members =>
    ',' :: lineBreak depth ++ quoted key ++ ':' :: ' ' :: value.write depth
      ++ writeMembers depth members
end

def text (value : Json) : String := String.ofList (value.write 0)

end Json

-- Declarations as trees. A structure is an object with its fields in order. A choice is an object
-- whose one member says what was chosen; only declarations carry their kind beside their fields.
def Json.names (names : List String) : Json := .array (names.map .string)

def Descriptor.json : Descriptor → Json
  | primitive p => .object [("primitive", .string p.keyword)]
  | named name => .object [("named", .string name)]
  | array element => .object [("array", element.json)]
  | optional inner => .object [("optional", inner.json)]
  | stream element => .object [("stream", element.json)]

def Alternatives.json : Alternatives → Json
  | member name => .object [("member", .string name)]
  | either left right => .object [("either", .array [left.json, right.json])]

def TypedName.json (typed : TypedName) : Json :=
  .object [("name", .string typed.name), ("ty", typed.type.json)]

def MethodKind.word : MethodKind → String
  | get => "get"
  | remote => "remote"
  | subscribe => "subscribe"

def Method.json (method : Method) : Json :=
  .object [
    ("kind", .string method.kind.word),
    ("name", .string method.name),
    ("params", .array (method.params.map TypedName.json)),
    ("returns", method.returns.json)]

def Json.methods (methods : List Method) : Json := .array (methods.map Method.json)

def Record.jsonMembers (record : Record) : List (String × Json) := [
  ("name", .string record.name),
  ("closed", .bool record.closed),
  ("fields", .array (record.fields.map TypedName.json))]

def ServiceClass.jsonMembers (service : ServiceClass) : List (String × Json) := [
  ("name", .string service.name),
  ("distinct", .bool service.distinct),
  ("includes", .names service.includes),
  ("methods", .methods service.methods)]

def ServiceContract.jsonMembers (contract : ServiceContract) : List (String × Json) := [
  ("name", .string contract.name),
  ("includes", .names contract.includes),
  ("methods", .methods contract.methods)]

def EnumDefinition.jsonMembers (enum : EnumDefinition) : List (String × Json) := [
  ("name", .string enum.name),
  ("members", .names enum.members)]

def UnionDefinition.jsonMembers (union : UnionDefinition) : List (String × Json) := [
  ("name", .string union.name),
  ("alternatives", union.alternatives.json)]

def RootContract.jsonMembers (contract : RootContract) : List (String × Json) := [
  ("name", .string contract.name),
  ("base", .string contract.base),
  ("methods", .methods contract.methods)]

def Declaration.word : Declaration → String
  | record _ => "record"
  | service _ => "behavior"
  | interface _ => "interface"
  | enum _ => "enum"
  | union _ => "union"
  | root _ => "root"

def Declaration.jsonMembers : Declaration → List (String × Json)
  | record r => r.jsonMembers
  | service s => s.jsonMembers
  | interface c => c.jsonMembers
  | enum e => e.jsonMembers
  | union u => u.jsonMembers
  | root c => c.jsonMembers

def Declaration.json (declaration : Declaration) : Json :=
  .object (("kind", .string declaration.word) :: declaration.jsonMembers)

def Import.json (imports : Import) : Json :=
  .object [("org", .string imports.org), ("module", .string imports.module)]

def SourceModule.json (module : SourceModule) : Json :=
  .object [
    ("import", module.imports.json),
    ("declarations", .array (module.declarations.map Declaration.json))]

def SourceModule.jsonText (module : SourceModule) : String := module.json.text ++ "\n"

end ServiceTypes
