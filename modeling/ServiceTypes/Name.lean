namespace ServiceTypes

def isNameStart (c : Char) : Bool := c.isAlpha || c == '_'

def isNameContinue (c : Char) : Bool := c.isAlphanum || c == '_'

def isIdentifier (text : String) : Bool :=
  match text.toList with
  | [] => false
  | c :: cs => isNameStart c && cs.all isNameContinue

def isIntrospective (text : String) : Bool :=
  match text.toList with
  | '_' :: '_' :: _ => true
  | _ => false

structure Identifier where
  text : String
  valid : isIdentifier text = true
  deriving DecidableEq

namespace Identifier

theorem ofList_valid {c : Char} {cs : List Char} (starts : isNameStart c = true)
    (follows : cs.all isNameContinue = true) : isIdentifier (String.ofList (c :: cs)) = true := by
  simp [isIdentifier, starts, follows]

def ofRun (c : Char) (cs : List Char) (starts : isNameStart c = true) : Identifier where
  text := String.ofList (c :: cs.takeWhile isNameContinue)
  valid := ofList_valid starts List.all_takeWhile

end Identifier

-- Separators part words and are dropped. Only ASCII letters change case.
def isWordSeparator (c : Char) : Bool := c == '_' || c == '-' || c == '.' || c == ' '

def joinWords (atStart : Bool) : List Char → List Char
  | [] => []
  | c :: cs =>
    if isWordSeparator c then joinWords true cs
    else (if atStart then c.toUpper else c.toLower) :: joinWords false cs

def isPascalCase (cs : List Char) : Bool :=
  cs.head?.any Char.isUpper && cs.any Char.isLower && !cs.any isWordSeparator

-- Text that already looks like PascalCase keeps its inner capitals. A text without a small letter
-- does not look so: `API` becomes `Api`.
def pascalCase (text : String) : String :=
  if isPascalCase text.toList then text else String.ofList (joinWords true text.toList)

namespace Path

def segments : List Char → List (List Char)
  | [] => [[]]
  | c :: cs =>
    match c == '/', segments cs with
    | true, pieces => [] :: pieces
    | false, piece :: pieces => (c :: piece) :: pieces
    | false, [] => [[c]]

def isStep (piece : List Char) : Bool := piece != [] && piece != ['.']

def fileName? (path : String) : Option (List Char) :=
  ((segments path.toList).filter isStep).getLast?.filter (· != ['.', '.'])

-- A name whose only dot is its first character has no extension.
def stem (name : List Char) : List Char :=
  match name.reverse.dropWhile (· != '.') with
  | _ :: before@(_ :: _) => before.reverse
  | _ => name

def fileStem? (path : String) : Option (List Char) := (fileName? path).map stem

def isStandardInput (path : String) : Bool := path == "-"

def fallbackServiceName : String := "Service"

def serviceName (path : String) : String :=
  if isStandardInput path then fallbackServiceName
  else match fileStem? path with
    | none => fallbackServiceName
    | some name => match pascalCase (String.ofList name) with
      | "" => fallbackServiceName
      | service => service

end Path

end ServiceTypes
