import ServiceTypes.Name

namespace ServiceTypes.CommandLine

inductive SystemError where
  | missing
  | notADirectory
  | isADirectory
  | invalidEncoding
  | other (reason : String)
  deriving DecidableEq

def SystemError.message : SystemError → String
  | missing => "No such file or directory (os error 2)"
  | notADirectory => "Not a directory (os error 20)"
  | isADirectory => "Is a directory (os error 21)"
  | invalidEncoding => "stream did not contain valid UTF-8"
  | other reason => reason

def decodeText (bytes : ByteArray) : Except SystemError String :=
  match String.fromUTF8? bytes with
  | some text => .ok text
  | none => .error .invalidEncoding

-- Locations are seen from the working directory. Those that start with dots lie above it, those
-- that start with a slash at the top of all.
abbrev Location := List String

inductive Node where
  | file (content : ByteArray)
  | directory

structure FileTree where
  files : List (Location × ByteArray) := []

namespace FileTree

def isAbove (location : Location) : Bool := location.all fun name => name = ".." || name = "/"

def node? (tree : FileTree) (location : Location) : Option Node :=
  match tree.files.lookup location with
  | some content => some (.file content)
  | none =>
    if isAbove location || tree.files.any fun (file, _) => location.isPrefixOf file then
      some .directory
    else none

def stepFrom (location : Location) (step : String) : Location :=
  if step = "" || step = "." then location
  else if step = ".." then
    if location = ["/"] then location
    else if isAbove location then location ++ [".."]
    else location.dropLast
  else location ++ [step]

def enter (tree : FileTree) (location : Location) (step : String) :
    Except SystemError Location :=
  match tree.node? location with
  | none => .error .missing
  | some (.file _) => .error .notADirectory
  | some .directory => .ok (stepFrom location step)

def start (path : String) : Location × List String :=
  (if path.startsWith "/" then ["/"] else [],
    (Path.segments path.toList).map String.ofList)

def read (tree : FileTree) (path : String) : Except SystemError ByteArray :=
  if path = "" then .error .missing
  else do
    let (origin, steps) := start path
    let location ← steps.foldlM tree.enter origin
    match tree.node? location with
    | none => throw .missing
    | some .directory => throw .isADirectory
    | some (.file content) => return content

def put (tree : FileTree) (location : Location) (content : ByteArray) : FileTree :=
  if (tree.files.lookup location).isSome then
    ⟨tree.files.map fun file => if file.1 = location then (location, content) else file⟩
  else ⟨tree.files ++ [(location, content)]⟩

def place (tree : FileTree) (path : String) : Except SystemError Location :=
  if path = "" then .error .missing
  else do
    let (origin, steps) := start path
    match steps.reverse.dropWhile (· = "") with
    | [] => throw .isADirectory
    | last :: before =>
      let parent ← before.reverse.foldlM tree.enter origin
      let target ← tree.enter parent last
      if path.endsWith "/" || last = "." || last = ".." then throw .isADirectory
      match tree.node? target with
      | some .directory => throw .isADirectory
      | _ => return target

end FileTree

-- So many bytes are taken. More of them fail, though not before the room is used up.
structure Limit where
  room : Nat
  cause : SystemError

def arriving (limit : Option Limit) (bytes : ByteArray) : ByteArray × Option SystemError :=
  match limit with
  | none => (bytes, none)
  | some limit =>
    if bytes.size ≤ limit.room then (bytes, none)
    else (bytes.extract 0 limit.room, some limit.cause)

-- Where a run can write to. The system may refuse to open a file that the tree would let it open,
-- and some paths are names of standard output.
structure Sinks where
  screen : Option Limit := none
  disk : Option Limit := none
  refusal : Option SystemError := none
  isScreen : String → Bool := fun _ => false

structure Written where
  stdout : ByteArray
  files : FileTree
  failure : Option SystemError

namespace Sinks

def print (sinks : Sinks) (files : FileTree) (bytes : ByteArray) : Written :=
  let (stdout, failure) := arriving sinks.screen bytes
  ⟨stdout, files, failure⟩

-- Opening a file empties it or makes it, so that it is another one also when nothing arrives.
def save (sinks : Sinks) (files : FileTree) (path : String) (bytes : ByteArray) : Written :=
  match sinks.refusal with
  | some cause => ⟨.empty, files, some cause⟩
  | none =>
    if sinks.isScreen path then sinks.print files bytes
    else match files.place path with
      | .error cause => ⟨.empty, files, some cause⟩
      | .ok place =>
        let (content, failure) := arriving sinks.disk bytes
        ⟨.empty, files.put place content, failure⟩

def deliver (sinks : Sinks) (files : FileTree) (output : Option String) (bytes : ByteArray) :
    Written :=
  match output with
  | none => sinks.print files bytes
  | some path => sinks.save files path bytes

end Sinks

end ServiceTypes.CommandLine
