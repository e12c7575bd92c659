import ServiceTypes.Name

namespace ServiceTypes.Sdl

-- Columns count characters, but what lies between tokens has widths of its own.
structure Position where
  line : Nat := 1
  column : Nat := 1
  deriving DecidableEq

namespace Position

def advance (position : Position) (columns : Nat) : Position :=
  { position with column := position.column + columns }

def nextLine (position : Position) : Position := ⟨position.line + 1, 1⟩

def after (position : Position) (c : Char) : Position :=
  if c = '\n' then position.nextLine else position.advance 1

end Position

inductive Token where
  | symbol (c : Char)
  | name (name : Identifier)
  | number
  | string
  deriving DecidableEq

structure Lexeme where
  token : Token
  position : Position
  deriving DecidableEq

-- Tokens stop at the end of the text or at the first place where no token starts.
structure Lexemes where
  pending : List Lexeme
  stop : Position
  complete : Bool
  deriving DecidableEq

def symbols : List Char := ['!', '$', ':', '=', '@', '|', '&', '(', ')', '[', ']', '{', '}']

def endsNumber (c : Char) : Bool :=
  symbols.contains c || [' ', '\n', '\r', '\t', ',', '#'].contains c

def afterWhole : List Char → Option (List Char)
  | [] => none
  | c :: cs =>
    if c = '0' then some cs
    else if c.isDigit then some (cs.dropWhile Char.isDigit)
    else none

def afterFraction : List Char → Option (List Char)
  | '.' :: c :: cs => if c.isDigit then some (cs.dropWhile Char.isDigit) else none
  | '.' :: [] => none
  | cs => some cs

def isExponent : List Char → Bool
  | '+' :: c :: cs => (c :: cs).all Char.isDigit
  | '-' :: c :: cs => (c :: cs).all Char.isDigit
  | c :: cs => '1' ≤ c && c ≤ '8' && cs.all Char.isDigit
  | [] => false

def decimalValue (digits : List Char) : Nat :=
  digits.foldl (fun value c => 10 * value + (c.toNat - '0'.toNat)) 0

-- A whole number has to fit sixty-four bits with its sign; any other number will do.
def isNumber (text : List Char) : Bool :=
  let (limit, digits) := match text with
    | '-' :: digits => (Nat.pow 2 63, digits)
    | digits => (Nat.pow 2 63 - 1, digits)
  match afterWhole digits with
  | none => false
  | some [] => decimalValue digits ≤ limit
  | some rest => match afterFraction rest with
    | none => false
    | some [] => true
    | some (e :: exponent) => (e = 'e' || e = 'E') && isExponent exponent

def isHexDigit (c : Char) : Bool :=
  c.isDigit || ('a' ≤ c && c ≤ 'f') || ('A' ≤ c && c ≤ 'F')

def isCodePoint (a b c d : Char) : Bool :=
  (a = '+' || isHexDigit a) && isHexDigit b && isHexDigit c && isHexDigit d
    && !((a = 'd' || a = 'D') && !(b.isDigit && b ≤ '7'))

def areEscapes : List Char → Bool
  | [] => true
  | '\\' :: 'u' :: a :: b :: c :: d :: cs => isCodePoint a b c d && areEscapes cs
  | '\\' :: c :: cs => ['"', '\\', '/', 'b', 'f', 'n', 'r', 't'].contains c && areEscapes cs
  | '\\' :: [] => false
  | _ :: cs => areEscapes cs

def stringLength : List Char → Option Nat
  | [] => none
  | '"' :: _ => some 1
  | '\n' :: _ => none
  | '\\' :: '\n' :: _ => none
  | '\\' :: _ :: cs => (stringLength cs).map (· + 2)
  | _ :: cs => (stringLength cs).map (· + 1)

-- Three quotes behind a backslash are text, all three of them.
def blockLength : List Char → Option Nat
  | [] => none
  | '\\' :: '"' :: '"' :: '"' :: cs => (blockLength cs).map (· + 4)
  | '"' :: '"' :: '"' :: _ => some 3
  | _ :: cs => (blockLength cs).map (· + 1)

def quotedLength : List Char → Option Nat
  | '"' :: '"' :: cs => (blockLength cs).map (· + 2)
  | cs => (stringLength cs).filter fun length => areEscapes (cs.take (length - 1))

def scan (c : Char) (cs : List Char) : Option (Token × Nat) :=
  if starts : isNameStart c = true then
    some (.name (.ofRun c cs starts), (cs.takeWhile isNameContinue).length)
  else if c.isDigit || c = '-' then
    let rest := cs.takeWhile (!endsNumber ·)
    if isNumber (c :: rest) then some (.number, rest.length) else none
  else if c = '"' then (quotedLength cs).map (.string, ·)
  else if symbols.contains c then some (.symbol c, 0)
  else none

-- Carriage returns and byte order marks have no width, a tab has eight columns. A comment ends at
-- a carriage return too, which then counts as a line of its own.
def skipIgnored (inComment : Bool) (position : Position) : List Char → Position × List Char
  | [] => (position, [])
  | c :: cs =>
    if inComment then
      if c = '\n' || c = '\r' then skipIgnored false position.nextLine cs
      else skipIgnored true position cs
    else if c = '\n' then skipIgnored false position.nextLine cs
    else if c = '\uFEFF' || c = '\r' then skipIgnored false position cs
    else if c = ' ' || c = ',' then skipIgnored false (position.advance 1) cs
    else if c = '\t' then skipIgnored false (position.advance 8) cs
    else if c = '#' then skipIgnored true position cs
    else (position, c :: cs)

theorem length_skipIgnored_le (inComment : Bool) (position : Position) (cs : List Char) :
    (skipIgnored inComment position cs).2.length ≤ cs.length := by
  induction cs generalizing inComment position with
  | nil => exact Nat.le_refl _
  | cons c cs ih =>
    have shorter (inComment : Bool) (position : Position) :
        (skipIgnored inComment position cs).2.length ≤ (c :: cs).length :=
      Nat.le_succ_of_le (ih inComment position)
    grind [skipIgnored]

def lexemes (position : Position) (text : List Char) : Lexemes :=
  match _skipped : skipIgnored false position text with
  | (stop, []) => ⟨[], stop, true⟩
  | (start, c :: cs) => match scan c cs with
    | none => ⟨[], start, false⟩
    | some (token, extra) =>
      let behind := (c :: cs.take extra).foldl Position.after start
      let following := lexemes behind (cs.drop extra)
      { following with pending := ⟨token, start⟩ :: following.pending }
termination_by text.length
decreasing_by
  have shorter := length_skipIgnored_le false position text
  rw [_skipped] at shorter
  simp only [List.length_cons, List.length_drop] at shorter ⊢
  omega

def Lexemes.ofText (text : String) : Lexemes := lexemes {} text.toList

end ServiceTypes.Sdl
