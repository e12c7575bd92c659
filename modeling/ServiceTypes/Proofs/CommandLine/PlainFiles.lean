import ServiceTypes.Proofs.CommandLine.Effects
import ServiceTypes.Proofs.CommandLine.PlainLine
import ServiceTypes.Proofs.Json.Written
import ServiceTypes.Proofs.Source.Colour

namespace ServiceTypes

-- Below 0x80 a byte is a character of its own, never a part of another one.
theorem eq_escape_of_byte {c : Char} (member : 0x1b ∈ String.utf8EncodeChar c) : c = '\x1b' := by
  have byte : ∀ value : Nat, 0x1b = UInt8.ofNat value ↔ value % 256 = 0x1b := by
    intro value
    rw [← UInt8.toNat_inj, UInt8.toNat_ofNat', eq_comm]
    rfl
  have value : c.val.toNat = 0x1b := by
    simp only [String.utf8EncodeChar] at member
    split at member
    · simp only [List.mem_singleton, byte] at member
      omega
    · split at member
      · simp only [List.mem_cons, List.not_mem_nil, or_false, byte] at member
        omega
      · split at member <;>
        · simp only [List.mem_cons, List.not_mem_nil, or_false, byte] at member
          omega
  exact Char.ext (UInt32.toNat_inj.mp value)

theorem isClean_bytes {text : String} (clean : IsClean text.toList) : 0x1b ∉ text.toUTF8.data := by
  intro inside
  rw [String.toUTF8_eq_toByteArray, ← String.utf8Encode_toList, List.utf8Encode,
    List.data_toByteArray, List.mem_toArray] at inside
  obtain ⟨c, member, within⟩ := List.mem_flatMap.mp inside
  exact clean (eq_escape_of_byte within ▸ member)

theorem Json.isClean_write (value : Json) (depth : Nat) : IsClean (value.write depth) := by
  intro escape
  exact absurd (value.write_visible depth _ escape) (by decide)

namespace Schema

-- Names can bring an escape neither into a source, where they are identifiers, nor into JSON, where
-- it is written out.
theorem isClean_output {schema : Schema} {name text : String} {settings : Settings}
    {format : Format} (plain : settings.colored = false)
    (written : schema.output name settings format = .ok text) : IsClean text.toList := by
  cases format with
  | ballerina =>
    have source := mapError_eq_ok.mp written
    rw [plain] at source
    exact SourceModule.isClean_source (schema.toModule_hasCleanBases name _) source
  | json =>
    have same : (schema.toModule name settings.recordsForced).jsonText = text :=
      Except.ok.inj written
    rw [← same]
    simp [SourceModule.jsonText, Json.text, Json.isClean_write]

end Schema

namespace CommandLine

theorem Command.result_eq_ok {command : Command} {terminal : Bool} {stdin : ByteArray}
    {files : FileTree} {text : String} (made : command.result terminal stdin files = .ok text) :
    ∃ schema, (command.make terminal schema).result = .ok text := by
  unfold Command.result Command.respond at made
  split at made
  · cases made
  · unfold respondTo at made
    simp only at made
    split at made
    · cases made
    · exact ⟨_, made⟩

section Generate

variable {options : GenerateOptions} {path : String} (redirected : options.output = some path)
include redirected

theorem GenerateOptions.not_colored (terminal : Bool) : options.colored terminal = false := by
  rw [GenerateOptions.colored, redirected]
  rfl

theorem GenerateOptions.make_plain (terminal screen : Bool) (schema : Schema) :
    GenerateOptions.make { options with output := none, color := .never } screen schema =
      options.make terminal schema := by
  rw [GenerateOptions.make, GenerateOptions.make, not_colored redirected]
  rfl

theorem Command.result_plain (terminal screen : Bool) (stdin : ByteArray) (files : FileTree) :
    (generate { options with output := none, color := .never }).result screen stdin files =
      (generate options).result terminal stdin files := by
  have same : (generate { options with output := none, color := .never }).make screen =
      (generate options).make terminal :=
    funext (GenerateOptions.make_plain redirected terminal screen)
  rw [Command.result, Command.result, Command.respond, Command.respond, same]
  rfl

theorem Command.isClean_result {terminal : Bool} {stdin : ByteArray} {files : FileTree}
    {text : String} (made : (generate options).result terminal stdin files = .ok text) :
    IsClean text.toList := by
  obtain ⟨schema, output⟩ := Command.result_eq_ok made
  exact Schema.isClean_output (GenerateOptions.not_colored redirected terminal)
    (mapError_eq_ok.mp output)

end Generate

def Outcome.leftAt (outcome : Outcome) (sinks : Sinks) (path : String) :
    Except SystemError ByteArray :=
  if sinks.isScreen path then .ok outcome.stdout else outcome.files.read path

theorem Sinks.Delivers.leftAt {sinks : Sinks} {files : FileTree} {bytes : ByteArray}
    {output : Option String} {path log : String} {written : Written}
    (delivers : sinks.Delivers files bytes output written) (redirected : output = some path)
    (whole : written.failure = none) :
    Outcome.leftAt ⟨0, written.stdout, log, written.files⟩ sinks path = .ok bytes := by
  rw [Outcome.leftAt]
  split
  · rename_i shown
    have toScreen : sinks.onScreen output = true := by
      rw [redirected]
      exact shown
    rw [(delivers.printed_whole toScreen whole).1]
  · rename_i hidden
    obtain ⟨-, -, -, -, held⟩ :=
      delivers.saved_whole redirected (Bool.eq_false_iff.mpr hidden) whole
    exact held

-- What a command line leaves at its output path, it would have printed without the path and in no
-- colour, to whatever takes as much.
theorem written_file_is_plain (arguments : List String) (verbosity : Nat)
    (options : GenerateOptions) (path : String)
    (accepted : Invocation.ofArguments arguments = .ok ⟨verbosity, .generate options⟩)
    (redirected : options.output = some path) (terminal screen : Bool) (stdin : ByteArray)
    (files : FileTree) (sinks : Sinks)
    (done : (run arguments terminal stdin files sinks).code = 0) :
    ∃ content, (run arguments terminal stdin files sinks).leftAt sinks path = .ok content ∧
      0x1b ∉ content.data ∧
      Invocation.ofArguments (plainLine arguments) =
        .ok ⟨verbosity, .generate { options with output := none, color := .never }⟩ ∧
      ∀ others : Sinks, Limit.Takes others.screen content →
        (run (plainLine arguments) screen stdin files others).code = 0 ∧
        (run (plainLine arguments) screen stdin files others).stdout = content := by
  have plainly := Invocation.ofArguments_plain accepted
  have wrote := Invocation.run_ends ⟨verbosity, .generate options⟩ terminal stdin files sinks
  rw [← run_accepted accepted] at wrote
  generalize made : (Command.generate options).result terminal stdin files = result at wrote
  generalize run arguments terminal stdin files sinks = outcome at wrote done ⊢
  cases wrote with
  | failed | stopped => exact absurd done (Failure.code_ne_zero _)
  | @done text _ _ delivers whole =>
    refine ⟨text.toUTF8, delivers.leftAt redirected whole,
      isClean_bytes (Command.isClean_result redirected made), plainly, fun others takes => ?_⟩
    -- The other run generates the same text, as there was no colour to leave out.
    rw [← Command.result_plain redirected terminal screen] at made
    exact run_printed plainly rfl made takes

def boldLine : List String :=
  ["-v", "generate", "-", "--color", "always", "--name=\x1b[1m", "--format", "json", "-ro", "api"]

theorem bold_name_written_plain :
    plainLine boldLine =
      ["-v", "generate", "--color", "never", "-", "--name=\x1b[1m", "--format", "json", "-r"] ∧
    (run boldLine true openQuery {} {}).code = 0 ∧
    ∃ content, (run boldLine true openQuery {} {}).files.read "api" = .ok content ∧
      0x1b ∉ content.data ∧ (run (plainLine boldLine) true openQuery {} {}).stdout = content := by
  have accepted : Invocation.ofArguments boldLine = .ok ⟨1, .generate {
      schema := "-", name := some "\x1b[1m", recordsForced := true, format := .json,
      output := some "api", color := .always }⟩ := by decide +kernel
  have done : (run boldLine true openQuery {} {}).code = 0 := by decide +kernel
  obtain ⟨content, held, clean, -, printed⟩ :=
    written_file_is_plain boldLine 1 _ "api" accepted rfl true true openQuery {} {} done
  exact ⟨by decide +kernel, done, content, held, clean, (printed {} nofun).2⟩

end CommandLine

end ServiceTypes
