import ServiceTypes.Source

namespace ServiceTypes.CommandLine

inductive UsageError where
  | helpRequested
  | nothingGiven
  | commandMissing
  | unknownCommand
  | unknownArgument
  | schemaMissing
  | invalidValue
  | givenTwice
  | valueNotTaken
  deriving DecidableEq

inductive ColorMode where
  | auto | always | never
  deriving DecidableEq

def ColorMode.ofWord? (word : String) : Option ColorMode :=
  if word = "auto" then some auto
  else if word = "always" then some always
  else if word = "never" then some never
  else none

def formatOfWord? (word : String) : Option Format :=
  if word = "ballerina" || word = "bal" then some .ballerina
  else if word = "json" then some .json
  else none

structure GenerateOptions where
  schema : String
  name : Option String := none
  recordsForced : Bool := false
  format : Format := .ballerina
  output : Option String := none
  color : ColorMode := .auto
  deriving DecidableEq

structure ClassifyOptions where
  schema : String
  recordsForced : Bool := false
  deriving DecidableEq

inductive Command where
  | generate (options : GenerateOptions)
  | classify (options : ClassifyOptions)
  deriving DecidableEq

structure Invocation where
  verbosity : Nat
  command : Command
  deriving DecidableEq

inductive Verb where
  | generate | classify
  deriving DecidableEq

def Verb.ofWord? (word : String) : Option Verb :=
  if word = "generate" then some generate
  else if word = "classify" then some classify
  else none

inductive Switch where
  | recordsForced | verbose | help
  deriving DecidableEq

inductive Setting where
  | name | format | output | color
  deriving DecidableEq

inductive Flag where
  | switch (switch : Switch)
  | setting (setting : Setting)
  deriving DecidableEq

def Verb.long? (verb : Verb) (name : String) : Option Flag :=
  if name = "help" then some (.switch .help)
  else if name = "records-forced" then some (.switch .recordsForced)
  else match verb with
    | .classify => none
    | .generate =>
      if name = "name" then some (.setting .name)
      else if name = "format" then some (.setting .format)
      else if name = "output" then some (.setting .output)
      else if name = "color" then some (.setting .color)
      else none

def Verb.short? (verb : Verb) (letter : Char) : Option Flag :=
  if letter = 'h' then some (.switch .help)
  else if letter = 'v' then some (.switch .verbose)
  else if letter = 'r' then some (.switch .recordsForced)
  else match verb with
    | .classify => none
    | .generate =>
      if letter = 'n' then some (.setting .name)
      else if letter = 'o' then some (.setting .output)
      else none

inductive Word where
  | terminator
  | long (name : String) (value : Option String)
  | short (letters : List Char)
  | operand (text : String)
  deriving DecidableEq

def Word.ofArgument (argument : String) : Word :=
  match argument.toList with
  | ['-', '-'] => .terminator
  | '-' :: '-' :: rest =>
    .long (String.ofList (rest.takeWhile (· ≠ '=')))
      ((rest.dropWhile (· ≠ '=')).tail?.map String.ofList)
  | '-' :: letter :: letters => .short (letter :: letters)
  | _ => .operand argument

structure Draft where
  schema : Option String := none
  name : Option String := none
  format : Option Format := none
  output : Option String := none
  color : Option ColorMode := none
  recordsForced : Bool := false
  verbosity : Nat := 0
  deriving DecidableEq

-- A place is filled once. A second value is refused before it is looked at.
def fill {α : Type} (place value : Option α) : Except UsageError (Option α) :=
  if place.isSome then .error .givenTwice
  else if value.isSome then .ok value
  else .error .invalidValue

def pathOfWord? (word : String) : Option String := if word = "" then none else some word

namespace Draft

def set (draft : Draft) (setting : Setting) (value : String) : Except UsageError Draft :=
  match setting with
  | .name => do return { draft with name := ← fill draft.name (some value) }
  | .format => do return { draft with format := ← fill draft.format (formatOfWord? value) }
  | .output => do return { draft with output := ← fill draft.output (pathOfWord? value) }
  | .color => do return { draft with color := ← fill draft.color (ColorMode.ofWord? value) }

def turnOn (draft : Draft) : Switch → Except UsageError Draft
  | .help => .error .helpRequested
  | .verbose => .ok { draft with verbosity := draft.verbosity + 1 }
  | .recordsForced =>
    if draft.recordsForced then .error .givenTwice else .ok { draft with recordsForced := true }

end Draft

-- The schema path, and a value that is not attached to its setting, are looked at only when the
-- next argument has been recognised or the arguments end. So an argument that is not recognised is
-- reported before a fault in what it follows. A setting may also still wait for its value.
inductive Pending where
  | schema (path : String)
  | setting (setting : Setting) (value : Option String)
  deriving DecidableEq

structure Reading where
  draft : Draft := {}
  pending : Option Pending := none
  deriving DecidableEq

namespace Reading

def settle (reading : Reading) : Except UsageError Draft :=
  match reading.pending with
  | none => .ok reading.draft
  | some (.schema path) => do
    return { reading.draft with schema := ← fill reading.draft.schema (pathOfWord? path) }
  | some (.setting _ none) => .error .invalidValue
  | some (.setting setting (some value)) => reading.draft.set setting value

def hasSchema (reading : Reading) : Bool :=
  reading.draft.schema.isSome || match reading.pending with
    | some (.schema _) => true
    | _ => false

def schema (reading : Reading) (path : String) : Except UsageError Reading :=
  if reading.hasSchema then .error .unknownArgument
  else do
    let draft ← reading.settle
    return ⟨draft, some (.schema path)⟩

def operand (reading : Reading) (text : String) : Except UsageError Reading :=
  match reading.pending with
  | some (.setting setting none) => .ok ⟨reading.draft, some (.setting setting (some text))⟩
  | _ => reading.schema text

def switch (reading : Reading) (switch : Switch) : Except UsageError Reading := do
  let draft ← reading.settle
  return ⟨← draft.turnOn switch, none⟩

def setting (reading : Reading) (setting : Setting) (value : Option String) :
    Except UsageError Reading := do
  let draft ← reading.settle
  match value with
  | none => return ⟨draft, some (.setting setting none)⟩
  | some value => return ⟨← draft.set setting value, none⟩

def long (verb : Verb) (reading : Reading) (name : String) (value : Option String) :
    Except UsageError Reading :=
  match verb.long? name with
  | none => .error .unknownArgument
  | some (.setting setting) => reading.setting setting value
  | some (.switch switch) => if value.isSome then .error .valueNotTaken else reading.switch switch

def attachedValue : List Char → Option String
  | [] => none
  | '=' :: value => some (String.ofList value)
  | value => some (String.ofList value)

-- The first letter that takes a value takes the rest of its cluster.
def short (verb : Verb) (reading : Reading) : List Char → Except UsageError Reading
  | [] => .ok reading
  | letter :: letters => match verb.short? letter with
    | none => .error .unknownArgument
    | some (.setting setting) => reading.setting setting (attachedValue letters)
    | some (.switch switch) => do short verb (← reading.switch switch) letters

def operands (reading : Reading) : List String → Except UsageError Draft
  | [] => reading.settle
  | argument :: rest => do operands (← reading.schema argument) rest

def arguments (verb : Verb) (reading : Reading) : List String → Except UsageError Draft
  | [] => reading.settle
  | argument :: rest => match Word.ofArgument argument with
    | .terminator => reading.operands rest
    | .long name value => do arguments verb (← reading.long verb name value) rest
    | .short letters => do arguments verb (← reading.short verb letters) rest
    | .operand text => do arguments verb (← reading.operand text) rest

end Reading

def Draft.command (draft : Draft) (verb : Verb) : Except UsageError Command :=
  match draft.schema, verb with
  | none, _ => .error .schemaMissing
  | some schema, .generate =>
    .ok (.generate {
      schema
      name := draft.name
      recordsForced := draft.recordsForced
      format := draft.format.getD .ballerina
      output := draft.output
      color := draft.color.getD .auto })
  | some schema, .classify => .ok (.classify { schema, recordsForced := draft.recordsForced })

def maxVerbosity : Nat := 255

-- The verbosity given behind the command, if any, replaces the one given before it.
def Invocation.ofCommand (verbosity : Nat) (verb : Verb) (arguments : List String) :
    Except UsageError Invocation := do
  let draft ← Reading.arguments verb {} arguments
  let command ← draft.command verb
  let verbosity := if draft.verbosity = 0 then verbosity else draft.verbosity
  return ⟨min maxVerbosity verbosity, command⟩

def leadingShort (verbosity : Nat) : List Char → Except UsageError Nat
  | [] => .ok verbosity
  | 'v' :: letters => leadingShort (verbosity + 1) letters
  | 'h' :: _ => .error .helpRequested
  | _ => .error .unknownArgument

def endedEarly (verbosity : Nat) : UsageError :=
  if verbosity = 0 then .nothingGiven else .commandMissing

def namesCommand (word : String) : Bool := (Verb.ofWord? word).isSome || word = "help"

def helpOn : List String → UsageError
  | [] => .helpRequested
  | [topic] => if namesCommand topic then .helpRequested else .unknownCommand
  | _ => .unknownCommand

def Invocation.leading (verbosity : Nat) : List String → Except UsageError Invocation
  | [] => .error (endedEarly verbosity)
  | argument :: rest => match Word.ofArgument argument with
    | .terminator => match rest with
      | [] => .error (endedEarly verbosity)
      | next :: _ => .error (if namesCommand next then .unknownArgument else .unknownCommand)
    | .long name value =>
      if name = "help" then .error (if value.isSome then .valueNotTaken else .helpRequested)
      else .error .unknownArgument
    | .short letters => do Invocation.leading (← leadingShort verbosity letters) rest
    | .operand text => match Verb.ofWord? text with
      | some verb => Invocation.ofCommand verbosity verb rest
      | none => .error (if text = "help" then helpOn rest else .unknownCommand)

def Invocation.ofArguments (arguments : List String) : Except UsageError Invocation :=
  Invocation.leading 0 arguments

end ServiceTypes.CommandLine
