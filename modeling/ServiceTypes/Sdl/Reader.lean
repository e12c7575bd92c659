import ServiceTypes.Sdl.Document
import ServiceTypes.Sdl.Token

namespace ServiceTypes.Sdl

-- A reader takes tokens from the front or fails at a position. One token decides how to go on, so
-- reading fails at the first token that cannot continue. Readers of bracketed text are told how
-- many more brackets may be opened: that bounds the depth, and recursion goes by it.
abbrev Reader := StateT Lexemes (Except Position)

namespace Reader

def next? : Reader (Option Token) := do
  return (← get).pending.head?.map Lexeme.token

def position : Reader Position := do
  let lexemes ← get
  return (lexemes.pending.head?.map Lexeme.position).getD lexemes.stop

def fail {α : Type} : Reader α := do
  throw (← position)

def skip : Reader Unit :=
  modify fun lexemes => { lexemes with pending := lexemes.pending.tail }

def token (expected : Token) : Reader Unit := do
  if (← next?) = some expected then skip else fail

def symbol (c : Char) : Reader Unit := token (.symbol c)

def accept (optional : Token) : Reader Bool := do
  if (← next?) = some optional then
    skip
    return true
  else return false

def name : Reader Identifier := do
  match ← next? with
  | some (.name name) =>
    skip
    return name
  | _ => fail

def nextIsWord (word : String) : Reader Bool := do
  match ← next? with
  | some (.name name) => return name.text = word
  | _ => return false

def word (expected : String) : Reader Unit := do
  if ← nextIsWord expected then skip else fail

-- Items as long as the next token may start one. Every item takes a token; the test for that keeps
-- the recursion total, and an item without tokens would be the last.
def many {α : Type} (starts : Token → Bool) (item : Reader α) (lexemes : Lexemes) :
    Except Position (List α × Lexemes) :=
  match lexemes.pending.head? with
  | none => .ok ([], lexemes)
  | some lexeme =>
    if starts lexeme.token then match item lexemes with
      | .error position => .error position
      | .ok (first, behind) =>
        if behind.pending.length < lexemes.pending.length then match many starts item behind with
          | .error position => .error position
          | .ok (items, behind) => .ok (first :: items, behind)
        else .ok ([first], behind)
    else .ok ([], lexemes)
termination_by lexemes.pending.length

def many1 {α : Type} (starts : Token → Bool) (item : Reader α) : Reader (List α) := do
  let first ← item
  let items ← many starts item
  return first :: items

def enclosed {α : Type} (opening closing : Char) (room : Nat) (inner : Nat → Reader α) :
    Reader α :=
  match room with
  | 0 => fail
  | room + 1 => do
    symbol opening
    let content ← inner room
    symbol closing
    return content

def enclosedList {α : Type} (opening closing : Char) (room : Nat)
    (inner : Nat → Reader (List α)) : Reader (List α) := do
  if (← next?) = some (.symbol opening) then enclosed opening closing room inner else return []

def separated {α : Type} (separator : Char) (item : Reader α) : Reader (List α) := do
  let _ ← accept (.symbol separator)
  let first ← item
  let items ← many (· = .symbol separator) do
    symbol separator
    item
  return first :: items

def isName : Token → Bool
  | .name _ => true
  | _ => false

def isDescribed : Token → Bool
  | .name _ | .string => true
  | _ => false

def isValue : Token → Bool
  | .name _ | .number | .string => true
  | .symbol c => c = '$' || c = '[' || c = '{'

def description : Reader Unit := do
  let _ ← accept .string

def marked (type : TypeExpr) : Reader TypeExpr := do
  if ← accept (.symbol '!') then return .nonNull type else return type

def type : Nat → Reader TypeExpr
  | 0 => do
    let name ← name
    marked (.named name)
  | room + 1 => do
    if ← accept (.symbol '[') then
      let element ← type room
      symbol ']'
      marked (.list element)
    else
      let name ← name
      marked (.named name)

def plainValue (constant : Bool) : Reader Unit := do
  match ← next? with
  | some (.name _) | some .number | some .string => skip
  | some (.symbol '$') =>
    if constant then fail
    else
      skip
      let _ ← name
  | _ => fail

def value (constant : Bool) : Nat → Reader Unit
  | 0 => plainValue constant
  | room + 1 => do
    if ← accept (.symbol '[') then
      let _ ← many isValue (value constant room)
      symbol ']'
    else if ← accept (.symbol '{') then
      let _ ← many isName do
        let _ ← name
        symbol ':'
        value constant room
      symbol '}'
    else plainValue constant

def directive (room : Nat) : Reader Identifier := do
  symbol '@'
  let directive ← name
  let _ ← enclosedList '(' ')' room fun room => many1 isName do
    let _ ← name
    symbol ':'
    value false room
  return directive

def directives (room : Nat) : Reader (List Identifier) :=
  many (· = .symbol '@') (directive room)

def argument (room : Nat) : Reader ArgumentDefinition := do
  description
  let name ← name
  symbol ':'
  let type ← type room
  if ← accept (.symbol '=') then value true room
  let _ ← directives room
  return { name, type }

def arguments (room : Nat) : Reader (List ArgumentDefinition) :=
  enclosedList '(' ')' room fun room => many1 isDescribed (argument room)

def field (room : Nat) : Reader FieldDefinition := do
  description
  let name ← name
  let arguments ← arguments room
  symbol ':'
  let type ← type room
  let _ ← directives room
  return { name, arguments, type }

def fields (room : Nat) : Reader (List FieldDefinition) :=
  enclosedList '{' '}' room fun room => many1 isDescribed (field room)

def interfaces : Reader (List Identifier) := do
  if ← nextIsWord "implements" then
    skip
    separated '&' name
  else return []

def members : Reader (List Identifier) := do
  if ← accept (.symbol '=') then separated '|' name else return []

def enumValue (room : Nat) : Reader Identifier := do
  description
  let value ← name
  let _ ← directives room
  return value

def typeDefinition (room : Nat) : Reader TypeDefinition := do
  let kind ← match ← next? with
    | some (.name kind) => pure kind.text
    | _ => fail
  match kind with
  | "type" =>
    skip
    let name ← name
    let interfaces ← interfaces
    let directives ← directives room
    let fields ← fields room
    return { name, directives, body := .object interfaces fields }
  | "interface" =>
    skip
    let name ← name
    let interfaces ← interfaces
    let directives ← directives room
    let fields ← fields room
    return { name, directives, body := .interface interfaces fields }
  | "union" =>
    skip
    let name ← name
    let directives ← directives room
    let members ← members
    return { name, directives, body := .union members }
  | "enum" =>
    skip
    let name ← name
    let directives ← directives room
    let values ← enclosedList '{' '}' room fun room => many1 isDescribed (enumValue room)
    return { name, directives, body := .enum values }
  | "input" =>
    skip
    let name ← name
    let directives ← directives room
    let fields ← enclosedList '{' '}' room fun room => many1 isDescribed (argument room)
    return { name, directives, body := .inputObject fields }
  | "scalar" =>
    skip
    let name ← name
    let directives ← directives room
    return { name, directives, body := .scalar }
  | _ => fail

-- The whole block is read before a fault in its operations counts, and shows at its start.
def schemaBlock (room : Nat) : Reader Definition := do
  let start ← position
  word "schema"
  let _ ← directives room
  let assignments ← enclosed '{' '}' room fun _ => many isName do
    let operation ← name
    symbol ':'
    let type ← name
    return (operation, type)
  match assignments.foldlM (fun roots (operation, type) => roots.assign? operation type)
      ({} : RootDefinition) with
  | some roots => return .roots roots
  | none => throw start

def extension (room : Nat) : Reader Definition := do
  word "extend"
  let start ← position
  let type ← typeDefinition room
  if type.addsNothing then throw start
  return .extension type

def locations : List String := [
  "QUERY", "MUTATION", "SUBSCRIPTION", "FIELD", "FRAGMENT_DEFINITION", "FRAGMENT_SPREAD",
  "INLINE_FRAGMENT", "VARIABLE_DEFINITION", "SCHEMA", "SCALAR", "OBJECT", "FIELD_DEFINITION",
  "ARGUMENT_DEFINITION", "INTERFACE", "UNION", "ENUM", "ENUM_VALUE", "INPUT_OBJECT",
  "INPUT_FIELD_DEFINITION"]

def location : Reader Unit := do
  match ← next? with
  | some (.name name) => if locations.contains name.text then skip else fail
  | _ => fail

def directiveDefinition (room : Nat) : Reader Definition := do
  word "directive"
  symbol '@'
  let directive ← name
  let arguments ← arguments room
  if ← nextIsWord "repeatable" then skip
  word "on"
  if (← next?).any fun token => token = .symbol '|' || isName token then
    let _ ← separated '|' location
  return .directive directive arguments

def describedDefinition (room : Nat) : Reader Definition := do
  description
  if ← nextIsWord "directive" then directiveDefinition room
  else
    let type ← typeDefinition room
    return .type type

def definition (room : Nat) : Reader Definition := do
  if ← nextIsWord "schema" then schemaBlock room
  else if ← nextIsWord "extend" then extension room
  else describedDefinition room

def maxOpenBrackets : Nat := 50

def document : Reader Document := do
  let definitions ← many1 (fun _ => true) (definition maxOpenBrackets)
  let lexemes ← get
  if lexemes.complete then return definitions else fail

end Reader

structure SyntaxError where
  position : Position
  deriving DecidableEq

def SyntaxError.message (error : SyntaxError) : String :=
  "schema parse error: Parse error at " ++ toString error.position.line ++ ":"
    ++ toString error.position.column

def Document.ofText (text : String) : Except SyntaxError Document :=
  match Reader.document.run (Lexemes.ofText text) with
  | .ok (document, _) => .ok document
  | .error position => .error ⟨position⟩

end ServiceTypes.Sdl

namespace ServiceTypes

def Schema.ofText (text : String) : Except Sdl.SyntaxError Schema :=
  (Sdl.Document.ofText text).map Sdl.Document.schema

end ServiceTypes
