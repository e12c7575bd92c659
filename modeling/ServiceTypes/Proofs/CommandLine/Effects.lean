import ServiceTypes.CommandLine.Run
import ServiceTypes.Proofs.CommandLine.Files

namespace ServiceTypes.CommandLine

def Limit.Takes (limit : Option Limit) (bytes : ByteArray) : Prop :=
  ∀ bound ∈ limit, bytes.size ≤ bound.room

theorem arriving_of_takes {limit : Option Limit} {bytes : ByteArray}
    (takes : Limit.Takes limit bytes) : arriving limit bytes = (bytes, none) := by
  cases limit with
  | none => rfl
  | some bound => exact if_pos (takes bound rfl)

theorem arriving_whole {limit : Option Limit} {bytes : ByteArray}
    (whole : (arriving limit bytes).2 = none) : (arriving limit bytes).1 = bytes := by
  cases limit with
  | none => rfl
  | some bound =>
    by_cases fits : bytes.size ≤ bound.room
    · simp [arriving, fits]
    · simp [arriving, fits] at whole

namespace Sinks

def onScreen (sinks : Sinks) (output : Option String) : Bool := output.all sinks.isScreen

def limit (sinks : Sinks) (output : Option String) : Option Limit :=
  if sinks.onScreen output then sinks.screen else sinks.disk

variable {sinks : Sinks} {files : FileTree} {bytes : ByteArray} {output : Option String}

-- The ways in which a delivery can end. What has arrived is there, whether or not more should have.
inductive Delivers (sinks : Sinks) (files : FileTree) (bytes : ByteArray) :
    Option String → Written → Prop where
  | printed {output : Option String} (shown : sinks.onScreen output = true) :
      Delivers sinks files bytes output
        ⟨(arriving (sinks.limit output) bytes).1, files, (arriving (sinks.limit output) bytes).2⟩
  | refused {path : String} {cause : SystemError} :
      Delivers sinks files bytes (some path) ⟨.empty, files, some cause⟩
  | saved {path : String} {place : Location} (hidden : sinks.onScreen (some path) = false)
      (placed : files.place path = .ok place) :
      Delivers sinks files bytes (some path)
        ⟨.empty, files.put place (arriving (sinks.limit (some path)) bytes).1,
          (arriving (sinks.limit (some path)) bytes).2⟩

theorem print_delivers (shown : sinks.onScreen output = true) :
    Delivers sinks files bytes output (sinks.print files bytes) := by
  have same : sinks.limit output = sinks.screen := by rw [limit, if_pos shown]
  rw [print, ← same]
  exact .printed shown

theorem deliver_delivers (sinks : Sinks) (files : FileTree) (output : Option String)
    (bytes : ByteArray) : Delivers sinks files bytes output (sinks.deliver files output bytes) := by
  cases output with
  | none => exact print_delivers rfl
  | some path =>
    rw [deliver, save]
    split
    · exact .refused
    · split
      · rename_i shown
        exact print_delivers shown
      · rename_i hidden
        split
        · exact .refused
        · rename_i place placed
          have other : sinks.onScreen (some path) = false := by simpa [onScreen] using hidden
          have same : sinks.limit (some path) = sinks.disk := by rw [limit, other]; rfl
          rw [← same]
          exact .saved other placed

namespace Delivers

variable {written : Written} (delivers : sinks.Delivers files bytes output written)
include delivers

theorem saved_whole {path : String} (redirected : output = some path)
    (hidden : sinks.isScreen path = false) (whole : written.failure = none) :
    written.stdout = .empty ∧ ∃ place, files.locate path = .ok place ∧
      files.AgreeBut place written.files ∧ written.files.read path = .ok bytes := by
  subst redirected
  cases delivers with
  | printed shown => cases shown.symm.trans hidden
  | refused => cases whole
  | saved _ placed =>
    rw [arriving_whole whole]
    exact ⟨rfl, _, FileTree.put_agreeBut placed bytes⟩

theorem printed_whole (shown : sinks.onScreen output = true) (whole : written.failure = none) :
    written.stdout = bytes ∧ written.files = files := by
  cases delivers with
  | printed => exact ⟨arriving_whole whole, rfl⟩
  | refused => cases whole
  | saved hidden _ => cases hidden.symm.trans shown

end Delivers

theorem Delivers.printed_taken {written : Written}
    (delivers : sinks.Delivers files bytes none written) (takes : Limit.Takes sinks.screen bytes) :
    written = ⟨bytes, files, none⟩ := by
  have arrived : arriving (sinks.limit none) bytes = (bytes, none) := arriving_of_takes takes
  cases delivers with
  | printed => rw [arrived]

end Sinks

def Command.result (command : Command) (terminal : Bool) (stdin : ByteArray) (files : FileTree) :
    Except Failure String :=
  (command.respond terminal (command.source stdin files)).result

inductive Ends (command : Command) (files : FileTree) (sinks : Sinks) :
    Except Failure String → Outcome → Prop where
  | failed {failure : Failure} {log : String} :
      Ends command files sinks (.error failure) ⟨failure.code, .empty, log, files⟩
  | stopped {text log : String} {written : Written} {cause : SystemError}
      (delivers : sinks.Delivers files text.toUTF8 command.outputPath? written)
      (broken : written.failure = some cause) :
      Ends command files sinks (.ok text)
        ⟨(command.writeFailure cause).code, written.stdout, log, written.files⟩
  | done {text log : String} {written : Written}
      (delivers : sinks.Delivers files text.toUTF8 command.outputPath? written)
      (whole : written.failure = none) :
      Ends command files sinks (.ok text) ⟨0, written.stdout, log, written.files⟩

theorem Invocation.run_ends (invocation : Invocation) (terminal : Bool) (stdin : ByteArray)
    (files : FileTree) (sinks : Sinks) :
    Ends invocation.command files sinks (invocation.command.result terminal stdin files)
      (invocation.run terminal stdin files sinks) := by
  simp only [Invocation.run, Command.result]
  cases (invocation.command.respond terminal (invocation.command.source stdin files)).result with
  | error failure => exact .failed
  | ok text =>
    have delivers := sinks.deliver_delivers files invocation.command.outputPath? text.toUTF8
    simp only
    split
    · rename_i broken
      exact .stopped delivers broken
    · rename_i whole
      exact .done delivers whole

theorem run_accepted {arguments : List String} {invocation : Invocation}
    (accepted : Invocation.ofArguments arguments = .ok invocation) (terminal : Bool)
    (stdin : ByteArray) (files : FileTree) (sinks : Sinks) :
    run arguments terminal stdin files sinks = invocation.run terminal stdin files sinks := by
  rw [run, accepted]

theorem run_printed {arguments : List String} {invocation : Invocation} {terminal : Bool}
    {stdin : ByteArray} {files : FileTree} {sinks : Sinks} {text : String}
    (accepted : Invocation.ofArguments arguments = .ok invocation)
    (unsaved : invocation.command.outputPath? = none)
    (made : invocation.command.result terminal stdin files = .ok text)
    (takes : Limit.Takes sinks.screen text.toUTF8) :
    (run arguments terminal stdin files sinks).code = 0 ∧
      (run arguments terminal stdin files sinks).stdout = text.toUTF8 := by
  have ends := invocation.run_ends terminal stdin files sinks
  rw [← run_accepted accepted, made] at ends
  generalize run arguments terminal stdin files sinks = outcome at ends ⊢
  cases ends with
  | stopped delivers broken =>
    rw [unsaved] at delivers
    rw [delivers.printed_taken takes] at broken
    cases broken
  | done delivers =>
    rw [unsaved] at delivers
    rw [delivers.printed_taken takes]
    exact ⟨rfl, rfl⟩

theorem Failure.code_ne_zero (failure : Failure) : failure.code ≠ 0 := by
  cases failure <;> exact nofun

-- The disk is full behind the sixth byte, or the path is a name of standard output.
def openQuery : ByteArray := "type Query \x7b open: Int \x7d".toUTF8

end ServiceTypes.CommandLine
