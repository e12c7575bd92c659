import Mathlib.Data.List.TakeWhile
import ServiceTypes.Proofs.Basic
import ServiceTypes.Proofs.CommandLine.PlainLine

namespace ServiceTypes.CommandLine

-- Two of the words ask for the same format.
inductive FormatWord where
  | ballerina | bal | json
  deriving DecidableEq

def FormatWord.word : FormatWord → String
  | ballerina => "ballerina"
  | bal => "bal"
  | json => "json"

def FormatWord.format : FormatWord → Format
  | ballerina | bal => .ballerina
  | json => .json

def ColorMode.word : ColorMode → String
  | auto => "auto"
  | always => "always"
  | never => "never"

def Setting.longName : Setting → String
  | name => "name"
  | format => "format"
  | output => "output"
  | color => "color"

def Setting.letter? : Setting → Option Char
  | name => some 'n'
  | output => some 'o'
  | format | color => none

-- Such a word cannot be taken for an option, and neither can a single hyphen.
def StandsAlone (word : String) : Prop := word.toList.head? = some '-' → word = "-"

instance (word : String) : Decidable (StandsAlone word) :=
  inferInstanceAs (Decidable (_ → _))

theorem formatOfWord?_word (word : FormatWord) : formatOfWord? word.word = some word.format := by
  cases word <;> rfl

theorem ColorMode.ofWord?_word (mode : ColorMode) : ofWord? mode.word = some mode := by
  cases mode <;> rfl

theorem pathOfWord?_of_full {path : String} (full : path ≠ "") : pathOfWord? path = some path :=
  if_neg full

theorem Setting.long?_longName (setting : Setting) :
    Verb.generate.long? setting.longName = some (.setting setting) := by
  cases setting <;> rfl

theorem Setting.short?_letter {setting : Setting} {letter : Char}
    (lettered : setting.letter? = some letter) :
    Verb.generate.short? letter = some (.setting setting) ∧ letter ≠ '-' := by
  cases setting <;> cases lettered <;> decide

theorem Setting.longName_full (setting : Setting) : setting.longName.toList ≠ [] := by
  cases setting <;> decide

theorem Setting.longName_whole (setting : Setting) : '=' ∉ setting.longName.toList := by
  cases setting <;> decide

namespace Word

variable {name value word : String}

theorem ofArgument_operand (alone : StandsAlone word) : ofArgument word = .operand word := by
  by_cases hyphen : word = "-"
  · subst hyphen
    rfl
  · have head : word.toList.head? ≠ some '-' := fun starts => hyphen (alone starts)
    unfold ofArgument
    split <;> simp_all

theorem ofArgument_dashes {rest : List Char} (full : rest ≠ []) :
    ofArgument (String.ofList ('-' :: '-' :: rest)) =
      .long (String.ofList (rest.takeWhile (· ≠ '=')))
        ((rest.dropWhile (· ≠ '=')).tail?.map String.ofList) := by
  rw [ofArgument, String.toList_ofList]
  split
  case h_1 same => exact absurd (List.cons.inj (List.cons.inj same).2).2 full
  case h_2 same => rw [(List.cons.inj (List.cons.inj same).2).2]
  case h_3 noLong same => exact absurd (List.cons.inj (List.cons.inj same).2).1.symm noLong
  case h_4 _ noLong _ => exact absurd rfl (noLong rest)

theorem ofArgument_long (full : name.toList ≠ []) (whole : '=' ∉ name.toList) :
    ofArgument ("--" ++ name) = .long name none := by
  have letters := all_ne_of_not_mem whole
  have text : "--" ++ name = String.ofList ('-' :: '-' :: name.toList) := by
    rw [← String.toList_inj, String.toList_ofList]
    simp
  rw [text, ofArgument_dashes full, List.takeWhile_eq_self_iff.mpr letters,
    List.dropWhile_eq_nil_iff.mpr letters, String.ofList_toList]
  rfl

theorem ofArgument_attached (whole : '=' ∉ name.toList) (value : String) :
    ofArgument ("--" ++ name ++ "=" ++ value) = .long name (some value) := by
  have text : "--" ++ name ++ "=" ++ value =
      String.ofList ('-' :: '-' :: (name.toList ++ '=' :: value.toList)) := by
    rw [← String.toList_inj, String.toList_ofList]
    simp
  obtain ⟨before, behind⟩ := cut_at_first whole value.toList
  rw [text, ofArgument_dashes (by simp), before, behind]
  simp

end Word

namespace Reading

variable {verb : Verb} {reading next : Reading} {draft set : Draft} {setting : Setting}
  {value : String}

theorem arguments_operand {text : String} (alone : StandsAlone text)
    (step : reading.operand text = .ok next) (rest : List String) :
    reading.arguments verb (text :: rest) = next.arguments verb rest := by
  rw [Reading.arguments, Word.ofArgument_operand alone]
  simp only [step]
  rfl

theorem arguments_long {argument name : String} {value : Option String}
    (word : Word.ofArgument argument = .long name value)
    (step : reading.long verb name value = .ok next) (rest : List String) :
    reading.arguments verb (argument :: rest) = next.arguments verb rest := by
  rw [Reading.arguments, word]
  simp only [step]
  rfl

theorem arguments_short {argument : String} {letters : List Char}
    (word : Word.ofArgument argument = .short letters)
    (step : reading.short verb letters = .ok next) (rest : List String) :
    reading.arguments verb (argument :: rest) = next.arguments verb rest := by
  rw [Reading.arguments, word]
  simp only [step]
  rfl

theorem arguments_attached (filled : draft.set setting value = .ok set) (rest : List String) :
    Reading.arguments .generate ⟨draft, none⟩
        (("--" ++ setting.longName ++ "=" ++ value) :: rest) =
      Reading.arguments .generate ⟨set, none⟩ rest := by
  refine arguments_long (Word.ofArgument_attached setting.longName_whole value) ?_ rest
  rw [long, setting.long?_longName]
  exact bind_eq_ok.mpr ⟨draft, rfl, bind_eq_ok.mpr ⟨set, filled, rfl⟩⟩

theorem arguments_awaited (alone : StandsAlone value) (filled : draft.set setting value = .ok set)
    (rest : List String) :
    Reading.arguments .generate ⟨draft, some (.setting setting none)⟩ (value :: rest) =
      Reading.arguments .generate ⟨set, none⟩ rest := by
  have step : operand ⟨draft, some (.setting setting none)⟩ value =
      .ok ⟨draft, some (.setting setting (some value))⟩ := rfl
  have settled : settle ⟨draft, some (.setting setting (some value))⟩ = .ok set := filled
  rw [arguments_operand alone step, arguments_settled settled]

theorem arguments_separate_long (alone : StandsAlone value)
    (filled : draft.set setting value = .ok set) (rest : List String) :
    Reading.arguments .generate ⟨draft, none⟩ (("--" ++ setting.longName) :: value :: rest) =
      Reading.arguments .generate ⟨set, none⟩ rest := by
  have word := Word.ofArgument_long setting.longName_full setting.longName_whole
  have step : long .generate ⟨draft, none⟩ setting.longName none =
      .ok ⟨draft, some (.setting setting none)⟩ := by
    rw [long, setting.long?_longName]
    rfl
  rw [arguments_long word step, arguments_awaited alone filled]

theorem arguments_separate_short {letter : Char} (lettered : setting.letter? = some letter)
    (alone : StandsAlone value) (filled : draft.set setting value = .ok set) (rest : List String) :
    Reading.arguments .generate ⟨draft, none⟩ (String.ofList ['-', letter] :: value :: rest) =
      Reading.arguments .generate ⟨set, none⟩ rest := by
  obtain ⟨known, named⟩ := Setting.short?_letter lettered
  have step : short .generate ⟨draft, none⟩ [letter] =
      .ok ⟨draft, some (.setting setting none)⟩ := by
    rw [short, known]
    rfl
  rw [arguments_short (Word.ofArgument_cluster named []) step, arguments_awaited alone filled]

theorem arguments_forced (turned : draft.turnOn .recordsForced = .ok set) {argument : String}
    (spelled : argument = "--records-forced" ∨ argument = "-r") (rest : List String) :
    Reading.arguments .generate ⟨draft, none⟩ (argument :: rest) =
      Reading.arguments .generate ⟨set, none⟩ rest := by
  have step : Reading.switch ⟨draft, none⟩ .recordsForced = .ok ⟨set, none⟩ :=
    switch_eq_ok.mpr ⟨draft, rfl, set, turned, rfl⟩
  rcases spelled with rfl | rfl
  · have word : Word.ofArgument "--records-forced" = .long "records-forced" none := by decide
    exact arguments_long word step rest
  · have word : Word.ofArgument "-r" = .short ['r'] := by decide
    exact arguments_short word (bind_eq_ok.mpr ⟨_, step, rfl⟩) rest

theorem schema_of_missing {path : String} (missing : draft.schema = none) :
    Reading.schema ⟨draft, none⟩ path = .ok ⟨draft, some (.schema path)⟩ := by
  refine schema_eq_ok.mpr ⟨?_, draft, rfl, rfl⟩
  rw [hasSchema_settle rfl, missing]
  rfl

theorem settle_schema {path : String} (full : path ≠ "") (missing : draft.schema = none) :
    settle ⟨draft, some (.schema path)⟩ = .ok { draft with schema := some path } :=
  bind_eq_ok.mpr ⟨some path, fill_eq_ok.mpr ⟨missing, pathOfWord?_of_full full, rfl⟩, rfl⟩

theorem arguments_schema {path : String} (alone : StandsAlone path) (full : path ≠ "")
    (missing : draft.schema = none) (rest : List String) :
    Reading.arguments .generate ⟨draft, none⟩ (path :: rest) =
      Reading.arguments .generate ⟨{ draft with schema := some path }, none⟩ rest := by
  have step : operand ⟨draft, none⟩ path = .ok ⟨draft, some (.schema path)⟩ :=
    schema_of_missing missing
  rw [arguments_operand alone step, arguments_settled (settle_schema full missing)]

theorem arguments_terminated {path : String} (full : path ≠ "") (missing : draft.schema = none) :
    Reading.arguments .generate ⟨draft, none⟩ ["--", path] =
      .ok { draft with schema := some path } := by
  have word : Word.ofArgument "--" = .terminator := by decide
  rw [Reading.arguments, word]
  exact bind_eq_ok.mpr ⟨_, schema_of_missing missing, settle_schema full missing⟩

end Reading

end ServiceTypes.CommandLine
