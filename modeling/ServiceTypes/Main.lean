import ServiceTypes.CommandLine.Run

namespace ServiceTypes.CommandLine

def causeOf (error : IO.Error) : SystemError :=
  match error with
  | .noFileOrDirectory .. => .missing
  | .inappropriateType _ 20 _ => .notADirectory
  | .inappropriateType _ 21 _ => .isADirectory
  | error => .other (toString error)

def attempt {α : Type} (action : IO α) : IO (Except SystemError α) := do
  match ← action.toBaseIO with
  | .ok answer => return .ok answer
  | .error error => return .error (causeOf error)

partial def readStream (stream : IO.FS.Stream) (bytes : ByteArray) : IO ByteArray := do
  let chunk ← stream.read 65536
  if chunk.isEmpty then return bytes else readStream stream (bytes ++ chunk)

def readSource (command : Command) : IO (Except SystemError ByteArray) := do
  if Path.isStandardInput command.schemaPath then
    attempt (readStream (← IO.getStdin) .empty)
  else attempt (IO.FS.readBinFile command.schemaPath)

def writeText (output : Option String) (text : String) : IO Unit := do
  match output with
  | none =>
    let stdout ← IO.getStdout
    stdout.write text.toUTF8
    stdout.flush
  | some path => IO.FS.writeBinFile path text.toUTF8

def stop (failure : Failure) : IO UInt32 := do
  IO.eprint failure.line
  return failure.code.toUInt32

-- The same as a run, on the files and streams of the system.
def Invocation.execute (invocation : Invocation) : IO UInt32 := do
  let command := invocation.command
  let terminal ← (← IO.getStdout).isTty
  let response := command.respond terminal (← readSource command)
  IO.eprint (Event.log invocation.verbosity response.events)
  match response.result with
  | .error failure => stop failure
  | .ok text => match ← attempt (writeText command.outputPath? text) with
    | .error cause => stop (command.writeFailure cause)
    | .ok () =>
      IO.eprint (Event.log invocation.verbosity command.wroteEvents)
      return 0

end ServiceTypes.CommandLine

open ServiceTypes.CommandLine in
def main (arguments : List String) : IO UInt32 := do
  match Invocation.ofArguments arguments with
  | .ok invocation => invocation.execute
  | .error error =>
    if error = .helpRequested then IO.print usage else IO.eprint usage
    return error.code.toUInt32
