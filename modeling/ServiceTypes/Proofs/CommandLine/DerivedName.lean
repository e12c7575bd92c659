import ServiceTypes.CommandLine.Run
import ServiceTypes.Proofs.Basic
import ServiceTypes.Proofs.Names
import ServiceTypes.Proofs.PascalCase

namespace ServiceTypes

theorem not_isDigit_of_isAlpha {c : Char} (letter : c.isAlpha = true) : c.isDigit = false := by
  simp only [isAlpha_eq, Bool.or_eq_true, isUpper_iff, isLower_iff] at letter
  simp only [Char.isDigit, Bool.and_eq_false_iff, decide_eq_false_iff_not]
  grind

-- An underscore separates words, so that none is left in what is kept.
theorem Recased.isNameStart_eq {c d : Char} (recased : Recased c d)
    (stays : isWordSeparator c = false) : isNameStart d = c.isAlpha := by
  rcases recased with rfl | ⟨letter, recased⟩
  · simp only [isWordSeparator, Bool.or_eq_false_iff] at stays
    rw [isNameStart, stays.1.1.1, Bool.or_false]
  · rw [isNameStart, letter, recased, Bool.true_or]

theorem Recased.isNameContinue_eq {c d : Char} (recased : Recased c d)
    (stays : isWordSeparator c = false) : isNameContinue d = c.isAlphanum := by
  rcases recased with rfl | ⟨letter, recased⟩
  · simp only [isWordSeparator, Bool.or_eq_false_iff] at stays
    rw [isNameContinue, stays.1.1.1, Bool.or_false]
  · rw [isNameContinue, Char.isAlphanum, Char.isAlphanum, letter, recased]
    rfl

theorem all_isNameContinue_of_recased {kept letters : List Char}
    (recased : List.Forall₂ Recased kept letters) (whole : IsOneWord kept) :
    letters.all isNameContinue = kept.all Char.isAlphanum := by
  induction recased with
  | nil => rfl
  | cons first _ ih =>
    obtain ⟨head, rest⟩ := List.forall_mem_cons.mp whole
    rw [List.all_cons, List.all_cons, first.isNameContinue_eq head, ih rest]

def SpellsName (stem : List Char) : Prop :=
  (∀ c ∈ keptOf stem, c.isAlphanum = true) ∧ ∀ c ∈ (keptOf stem).head?, c.isDigit = false

theorem pascalCase_eq_empty {text : String} : pascalCase text = "" ↔ keptOf text.toList = [] := by
  have recased := pascalCase_recased text
  rw [← String.toList_eq_nil_iff]
  constructor
  · intro empty
    rwa [empty, List.forall₂_nil_right_iff] at recased
  · intro empty
    rwa [empty, List.forall₂_nil_left_iff] at recased

theorem isIdentifier_pascalCase {text : String} (full : keptOf text.toList ≠ []) :
    isIdentifier (pascalCase text) = true ↔ SpellsName text.toList := by
  have recased := pascalCase_recased text
  have whole := keptOf_isOneWord text.toList
  rw [isIdentifier, SpellsName]
  generalize keptOf text.toList = kept at *
  generalize (pascalCase text).toList = letters at *
  cases recased with
  | nil => exact absurd rfl full
  | @cons c d cs ds first later =>
    obtain ⟨head, rest⟩ := List.forall_mem_cons.mp whole
    change (isNameStart d && ds.all isNameContinue) = true ↔ _
    rw [first.isNameStart_eq head, all_isNameContinue_of_recased later rest, List.forall_mem_cons]
    cases letter : c.isAlpha with
    | true => simp [Char.isAlphanum, letter, not_isDigit_of_isAlpha letter]
    | false => cases digit : c.isDigit <;> simp [Char.isAlphanum, letter, digit]

namespace Path

def NamesService (path : String) : Prop :=
  path = "-" ∨ fileStem? path = none ∨ ∃ stem, fileStem? path = some stem ∧ SpellsName stem

theorem fallbackServiceName_valid : isIdentifier fallbackServiceName = true := by decide

theorem spellsName_of_empty {stem : List Char} (empty : keptOf stem = []) : SpellsName stem := by
  simp [SpellsName, empty]

theorem serviceName_of_stem {path : String} {stem : List Char} (file : isStandardInput path = false)
    (named : fileStem? path = some stem) :
    serviceName path = if keptOf stem = [] then fallbackServiceName
      else pascalCase (String.ofList stem) := by
  have empty : pascalCase (String.ofList stem) = "" ↔ keptOf stem = [] := by
    rw [pascalCase_eq_empty, String.toList_ofList]
  simp only [serviceName, file, named, ← empty]
  rw [if_neg Bool.false_ne_true]
  generalize pascalCase (String.ofList stem) = service
  split
  · rfl
  · rename_i full
    rw [if_neg full]

theorem serviceName_of_no_stem {path : String}
    (unnamed : isStandardInput path = true ∨ fileStem? path = none) :
    serviceName path = fallbackServiceName := by
  rw [serviceName]
  split
  · rfl
  · rename_i file
    rw [unnamed.resolve_left file]

theorem isIdentifier_serviceName (path : String) :
    isIdentifier (serviceName path) = true ↔ NamesService path := by
  have standard : isStandardInput path = true ↔ path = "-" := by simp [isStandardInput]
  rw [NamesService, ← standard]
  by_cases unnamed : isStandardInput path = true ∨ fileStem? path = none
  · rw [serviceName_of_no_stem unnamed]
    exact iff_of_true fallbackServiceName_valid (unnamed.imp_right .inl)
  · rw [not_or, Bool.not_eq_true] at unnamed
    obtain ⟨file, named⟩ := unnamed
    obtain ⟨stem, named⟩ := Option.ne_none_iff_exists'.mp named
    rw [serviceName_of_stem file named]
    split
    · rename_i empty
      exact iff_of_true fallbackServiceName_valid
        (.inr (.inr ⟨stem, named, spellsName_of_empty empty⟩))
    · rename_i full
      rw [isIdentifier_pascalCase (by rwa [String.toList_ofList]), String.toList_ofList]
      simp [file, named]

end Path

namespace CommandLine

theorem GenerateOptions.make_answers_iff {options : GenerateOptions} {terminal : Bool}
    {schema : Schema} (valid : schema.WellNamed) :
    (∃ text, (options.make terminal schema).result = .ok text) ↔
      options.format = .json ∨ isIdentifier options.serviceName = true := by
  simp only [make, mapError_eq_ok]
  cases options.format with
  | ballerina => simpa [Schema.output] using valid.source_made_iff _
  | json => simp [Schema.output]

-- A path whose derived name is no identifier is the one reason for which generation without a name
-- can fail, once a schema has been read.
theorem derived_name_usable_iff (path : String) :
    (isIdentifier (Path.serviceName path) = true ↔ Path.NamesService path) ∧
    ∀ (document : Sdl.Document) (options : GenerateOptions) (terminal : Bool),
      let unnamed := { options with schema := path, name := none }
      (∃ text, (unnamed.make terminal document.schema).result = .ok text) ↔
        options.format = .json ∨ Path.NamesService path := by
  refine ⟨Path.isIdentifier_serviceName path, ?_⟩
  intro document options terminal unnamed
  rw [GenerateOptions.make_answers_iff document.schema_wellNamed, ← Path.isIdentifier_serviceName]
  rfl

example :
    Path.serviceName "api/my-shop.v2.graphql" = "MyShopV2" ∧
    Path.serviceName "api/2024-orders.graphql" = "2024Orders" ∧
    Path.serviceName "api/-_-.graphql" = "Service" := by decide

end CommandLine

end ServiceTypes
