import ServiceTypes.CommandLine.Arguments
import ServiceTypes.CommandLine.Files
import ServiceTypes.Log
import ServiceTypes.Sdl.Reader

namespace ServiceTypes.CommandLine

inductive CommandError where
  | unreadable (path : String) (cause : SystemError)
  | unreadableInput (cause : SystemError)
  | invalidSchema (error : Sdl.SyntaxError)
  | generation (error : GenerationError)
  | unwritable (path : String) (cause : SystemError)
  | unprintable (cause : SystemError)
  deriving DecidableEq

def CommandError.message : CommandError → String
  | unreadable path cause => "failed to read '" ++ path ++ "': " ++ cause.message
  | unreadableInput cause => "failed to read stdin: " ++ cause.message
  | invalidSchema error => "invalid schema: " ++ error.message
  | generation error => error.message
  | unwritable path cause => "failed to write " ++ path ++ ": " ++ cause.message
  | unprintable cause => "failed to write to stdout: " ++ cause.message

-- What no command expects. The program stops where it is.
inductive Breakdown where
  | unformatted (error : WidthError)
  | unprinted (cause : SystemError)
  deriving DecidableEq

def Breakdown.message : Breakdown → String
  | unformatted error => error.message
  | unprinted cause => "failed printing to stdout: " ++ cause.message

inductive Failure where
  | error (reason : CommandError)
  | breakdown (reason : Breakdown)
  deriving DecidableEq

namespace Failure

def code : Failure → Nat
  | error _ => 1
  | breakdown _ => 101

def line : Failure → String
  | error reason => "error: " ++ reason.message ++ "\n"
  | breakdown reason => reason.message ++ "\n"

end Failure

-- What a command comes to once its schema has been read, and what has happened till then. Neither
-- printing nor writing has begun.
structure Response where
  events : List Event
  result : Except Failure String

def respondTo (path text : String) (make : Schema → Response) : Response :=
  let loaded := Event.loaded path text.utf8ByteSize
  match Sdl.Document.ofText text with
  | .error error => ⟨[loaded], .error (.error (.invalidSchema error))⟩
  | .ok document =>
    let response := make document.schema
    { response with events := loaded :: document.flatMap Sdl.Definition.events ++ response.events }

namespace GenerateOptions

def colored (options : GenerateOptions) (terminal : Bool) : Bool :=
  options.output.isNone && match options.color with
    | .always => true
    | .never => false
    | .auto => terminal

def serviceName (options : GenerateOptions) : String :=
  options.name.getD (Path.serviceName options.schema)

def make (options : GenerateOptions) (terminal : Bool) (schema : Schema) : Response where
  events := schema.moduleEvents options.serviceName options.recordsForced
  result :=
    (schema.output options.serviceName ⟨options.recordsForced, options.colored terminal⟩
      options.format).mapError fun error => .error (.generation error)

end GenerateOptions

def ClassifyOptions.make (options : ClassifyOptions) (schema : Schema) : Response where
  events := schema.representationEvents options.recordsForced
  result := (schema.report options.recordsForced).mapError fun error =>
    .breakdown (.unformatted error)

namespace Command

def schemaPath : Command → String
  | generate options => options.schema
  | classify options => options.schema

def outputPath? : Command → Option String
  | generate options => options.output
  | classify _ => none

def make (terminal : Bool) : Command → Schema → Response
  | generate options => options.make terminal
  | classify options => options.make

def readError (command : Command) (cause : SystemError) : CommandError :=
  if Path.isStandardInput command.schemaPath then .unreadableInput cause
  else .unreadable command.schemaPath cause

def writeFailure : Command → SystemError → Failure
  | generate options, cause => match options.output with
    | none => .error (.unprintable cause)
    | some path => .error (.unwritable path cause)
  | classify _, cause => .breakdown (.unprinted cause)

def respond (command : Command) (terminal : Bool) (source : Except SystemError ByteArray) :
    Response :=
  match source >>= decodeText with
  | .error cause => ⟨[], .error (.error (command.readError cause))⟩
  | .ok text => respondTo command.schemaPath text (command.make terminal)

end Command

structure Outcome where
  code : Nat
  stdout : ByteArray
  stderr : String
  files : FileTree

def usage : String :=
  "Usage: generate <SCHEMA> [-n NAME] [-r] [--format FORMAT] [-o FILE] [--color WHEN] [-v]\n"
    ++ "       classify <SCHEMA> [-r] [-v]\n"

def UsageError.code : UsageError → Nat
  | helpRequested => 0
  | _ => 2

def Command.source (command : Command) (stdin : ByteArray) (files : FileTree) :
    Except SystemError ByteArray :=
  if Path.isStandardInput command.schemaPath then .ok stdin else files.read command.schemaPath

def Command.wroteEvents (command : Command) : List Event :=
  command.outputPath?.toList.map .wrote

def Invocation.run (invocation : Invocation) (terminal : Bool) (stdin : ByteArray)
    (files : FileTree) (sinks : Sinks) : Outcome :=
  let command := invocation.command
  let response := command.respond terminal (command.source stdin files)
  let log := Event.log invocation.verbosity response.events
  match response.result with
  | .error failure => ⟨failure.code, .empty, log ++ failure.line, files⟩
  | .ok text =>
    let written := sinks.deliver files command.outputPath? text.toUTF8
    match written.failure with
    | some cause =>
      let failure := command.writeFailure cause
      ⟨failure.code, written.stdout, log ++ failure.line, written.files⟩
    | none =>
      ⟨0, written.stdout, log ++ Event.log invocation.verbosity command.wroteEvents, written.files⟩

-- The flag says whether standard output is a terminal.
def run (arguments : List String) (terminal : Bool) (stdin : ByteArray) (files : FileTree)
    (sinks : Sinks) : Outcome :=
  match Invocation.ofArguments arguments with
  | .error .helpRequested => ⟨0, (sinks.print files usage.toUTF8).stdout, "", files⟩
  | .error error => ⟨error.code, .empty, usage, files⟩
  | .ok invocation => invocation.run terminal stdin files sinks

end ServiceTypes.CommandLine
