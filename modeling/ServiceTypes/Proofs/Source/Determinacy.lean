import ServiceTypes.Declaration.OfSchema
import ServiceTypes.Proofs.Source.Blocks
import ServiceTypes.Proofs.Source.Colour
import ServiceTypes.Proofs.Source.Grammar
import ServiceTypes.Proofs.Source.Separation

namespace ServiceTypes

inductive Form where
  | record | service | interface | enum | union | root
  deriving DecidableEq

def Declaration.form : Declaration → Form
  | record _ => .record
  | service _ => .service
  | interface _ => .interface
  | enum _ => .enum
  | union _ => .union
  | root _ => .root

-- Behind the name of a type, the first word says what the type is. A union begins with a name,
-- which is none of the words of the language.
def Form.ofWord (word : List Char) : Form :=
  if word = "record".toList then .record
  else if word = "distinct".toList then .interface
  else if word = "service".toList then .root
  else .union

def Form.ofText : List Char → Form
  | 'e' :: _ => .enum
  | 't' :: rest =>
    ofWord (((rest.drop "ype ".length).dropWhile isWordStart).tail.takeWhile isNameContinue)
  | _ => .service

theorem WritesName.letters {name : String} {text : List Char} (written : WritesName name text) :
    ∀ c ∈ text, isWordStart c = true := by
  obtain ⟨valid, spelled⟩ := written.cases
  have all : ∀ c ∈ name.toList, isWordStart c = true := by
    intro c member
    simp [isWordStart, (isIdentifier_letters valid).2 c member]
  rcases spelled with ⟨-, rfl⟩ | ⟨-, rfl⟩
  · exact all
  · exact List.forall_mem_cons.mpr ⟨by decide, all⟩

theorem ofText_type {name : String} {text : List Char} (written : WritesName name text)
    (rest : List Char) :
    Form.ofText ("type ".toList ++ (text ++ ' ' :: rest)) =
      .ofWord (rest.takeWhile isNameContinue) := by
  have behind : (text ++ ' ' :: rest).dropWhile isWordStart = ' ' :: rest := by
    rw [List.dropWhile_append_of_pos written.letters]
    simp [isWordStart, isNameContinue]
  change Form.ofWord
    (((text ++ ' ' :: rest).dropWhile isWordStart).tail.takeWhile isNameContinue) = _
  rw [behind, List.tail_cons]

theorem ofWord_name {name : String} {text rest : List Char} (written : WritesName name text)
    (stop : Stops isNameContinue rest) :
    Form.ofWord ((text ++ rest).takeWhile isNameContinue) = .union := by
  obtain ⟨valid, spelled⟩ := written.cases
  rcases spelled with ⟨free, rfl⟩ | ⟨-, rfl⟩
  · rw [takeWhile_run (isIdentifier_letters valid).2 stop]
    have differs : ∀ word ∈ reservedWords, name.toList ≠ word.toList := by
      intro word reserved same
      rw [String.toList_inj.mp same] at free
      exact free reserved
    unfold Form.ofWord
    rw [if_neg (differs _ (by decide)), if_neg (differs _ (by decide)),
      if_neg (differs _ (by decide))]
  · simp [isNameContinue, Form.ofWord]

theorem ofText_declaration {declaration : Declaration} {text : List Char}
    (written : Writes Declaration.spans declaration text) (rest : List Char) :
    Form.ofText (text ++ rest) = declaration.form := by
  cases declaration with
  | record record =>
    obtain ⟨word, lines, named, -, rfl⟩ := writes_record written
    simp only [List.append_assoc]
    change Form.ofText ("type ".toList ++ (word ++ ' ' :: ("record \x7b".toList ++ _))) = _
    rw [ofText_type named]
    rfl
  | service service =>
    obtain ⟨word, first, second, -, -, -, rfl⟩ := writes_class written
    cases service.distinct <;> simp [Form.ofText, Declaration.form]
  | interface contract =>
    obtain ⟨word, first, second, named, -, -, rfl⟩ := writes_contract written
    simp only [List.append_assoc]
    change Form.ofText ("type ".toList ++ (word ++ ' ' :: ("distinct service ".toList ++ _))) = _
    rw [ofText_type named]
    rfl
  | enum enum =>
    obtain ⟨word, words, -, -, rfl⟩ := writes_enum written
    simp [Form.ofText, Declaration.form]
  | union union =>
    obtain ⟨word, words, named, listed, rfl⟩ := writes_union written
    simp only [List.append_assoc, List.cons_append]
    rw [ofText_type named]
    -- What follows the name is a member, and no word of the language is taken for one.
    cases members : union.alternatives.members with
    | nil => exact absurd members union.alternatives.members_ne_nil
    | cons name names =>
      rw [members] at listed
      cases listed with
      | cons first later =>
        rw [joined, List.append_assoc]
        refine ofWord_name first ?_
        cases later <;> simp [isNameContinue]
  | root contract =>
    obtain ⟨word, lines, named, -, rfl⟩ := writes_root written
    simp only [List.append_assoc]
    change Form.ofText ("type ".toList ++ (word ++ ' ' :: ("service object ".toList ++ _))) = _
    rw [ofText_type named]
    rfl

def WritesBased (base : String) (declaration : Declaration) (text : List Char) : Prop :=
  declaration.HasBase base ∧ Writes Declaration.spans declaration text

theorem declarations_separate {base : String} :
    Separates Anything (WritesBased base) Declaration.Alike := by
  intro declaration another _ _ rest remaining first second _ _ equal
  obtain ⟨based, written⟩ := first
  obtain ⟨based', rewritten⟩ := second
  -- The kind is read off the text first, so that only declarations of one kind are left to
  -- compare.
  have forms : declaration.form = another.form := by
    rw [← ofText_declaration written rest, equal, ofText_declaration rewritten]
  cases declaration with
  | record record =>
    cases another with
    | record =>
      obtain ⟨rfl, ends⟩ := records_separate written rewritten trivial trivial equal
      exact ⟨.refl, ends⟩
    | _ => cases forms
  | service service =>
    cases another with
    | service =>
      obtain ⟨rfl, ends⟩ := classes_separate written rewritten trivial trivial equal
      exact ⟨.refl, ends⟩
    | _ => cases forms
  | interface contract =>
    cases another with
    | interface =>
      obtain ⟨rfl, ends⟩ := contracts_separate written rewritten trivial trivial equal
      exact ⟨.refl, ends⟩
    | _ => cases forms
  | enum enum =>
    cases another with
    | enum =>
      obtain ⟨rfl, ends⟩ := enums_separate written rewritten trivial trivial equal
      exact ⟨.refl, ends⟩
    | _ => cases forms
  | union union =>
    cases another with
    | union other =>
      obtain ⟨⟨names, members⟩, ends⟩ := unions_separate written rewritten trivial trivial equal
      cases union
      cases other
      cases names
      exact ⟨.union members, ends⟩
    | _ => cases forms
  | root contract =>
    cases another with
    | root =>
      obtain ⟨rfl, ends⟩ := roots_separate ⟨based, written⟩ ⟨based', rewritten⟩ trivial trivial
        equal
      exact ⟨.refl, ends⟩
    | _ => cases forms

theorem blocks_separate {base : String} {declarations others : List Declaration}
    {blocks further : List (List Char)}
    (based : ∀ declaration ∈ declarations, declaration.HasBase base)
    (based' : ∀ declaration ∈ others, declaration.HasBase base)
    (written : List.Forall₂ (Writes Declaration.spans) declarations blocks)
    (rewritten : List.Forall₂ (Writes Declaration.spans) others further)
    (equal : (blocks.map ('\n' :: ·)).flatten = (further.map ('\n' :: ·)).flatten) :
    List.Forall₂ Declaration.Alike declarations others := by
  have spaced : ∀ {declarations : List Declaration} {blocks : List (List Char)},
      (∀ declaration ∈ declarations, declaration.HasBase base) →
      List.Forall₂ (Writes Declaration.spans) declarations blocks →
      WritesEach (WritesAfter ['\n'] (WritesBased base)) declarations
        (blocks.map ('\n' :: ·)).flatten := by
    intro declarations blocks based written
    refine ⟨_, List.forall₂_map_right_iff.mpr ?_, rfl⟩
    exact ((List.forall₂_and_left _ _).mpr ⟨based, written⟩).imp fun _ text once =>
      ⟨text, once, rfl⟩
  have led : ∀ {declaration text}, WritesAfter ['\n'] (WritesBased base) declaration text →
      ['\n'] <+: text := by
    intro declaration _ spaced
    obtain ⟨inner, -, rfl⟩ := spaced
    exact List.prefix_append _ _
  have last : Anything [] ∧ ¬ ['\n'] <+: [] := ⟨trivial, by simp⟩
  exact ((declarations_separate.after ['\n']).each led (fun _ => trivial) (spaced based written)
    (spaced based' rewritten) last last (by rw [equal])).1

theorem modules_separate {base : String} {module another : SourceModule} {text : List Char}
    (based : ∀ declaration ∈ module.declarations, declaration.HasBase base)
    (based' : ∀ declaration ∈ another.declarations, declaration.HasBase base)
    (written : Writes SourceModule.spans module text)
    (rewritten : Writes SourceModule.spans another text) :
    module.imports = another.imports ∧
      List.Forall₂ Declaration.Alike module.declarations another.declarations := by
  obtain ⟨⟨org, name⟩, declarations⟩ := module
  obtain ⟨⟨org', name'⟩, declarations'⟩ := another
  obtain ⟨first, second, blocks, orgNamed, named, listed, rfl⟩ := writes_module written
  obtain ⟨first', second', blocks', orgNamed', named', listed', equal⟩ := writes_module rewritten
  simp only [List.append_assoc, List.cons_append] at equal
  obtain ⟨rfl, behind⟩ := names_separate orgNamed orgNamed' (by simp [isNameContinue])
    (by simp [isNameContinue]) (List.append_cancel_left equal)
  obtain ⟨rfl, lines⟩ := names_separate named named' (by simp [isNameContinue])
    (by simp [isNameContinue]) (List.cons.inj behind).2
  exact ⟨rfl, blocks_separate based based' listed listed' (List.cons.inj (List.cons.inj lines).2).2⟩

namespace SourceModule

theorem spans_eq_of_alike {module another : SourceModule}
    (imports : module.imports = another.imports)
    (alike : List.Forall₂ Declaration.Alike module.declarations another.declarations) :
    module.spans = another.spans := by
  have blocks : ∀ {declarations others : List Declaration},
      List.Forall₂ Declaration.Alike declarations others →
      declarations.mapM Declaration.spans = others.mapM Declaration.spans := by
    intro declarations others alike
    induction alike with
    | nil => rfl
    | cons first _ ih => rw [List.mapM_cons, List.mapM_cons, first.spans_eq, ih]
  rw [spans, spans, imports, blocks alike]

-- Without its colour codes, a text is what was written.
theorem writes_of_source {module : SourceModule} {enabled : Bool} {text : String}
    (based : ∀ declaration ∈ module.declarations, declaration.HasBase rootBase)
    (written : module.source (.ofEnabled enabled) = .ok text) :
    Writes SourceModule.spans module (withoutCodes text.toList) := by
  obtain ⟨spans, done, rfl⟩ := source_eq_ok.mp written
  have plain : IsClean rootBase.toList := by simp [rootBase]
  have clean : IsClean (Span.chars spans) :=
    isClean (fun declaration member => (based declaration member).clean plain) ⟨spans, done, rfl⟩
  exact ⟨spans, done, (withoutCodes_paint enabled clean).symm⟩

theorem source_eq_iff_alike (enabled : Bool) {module another : SourceModule} {text : String}
    (based : ∀ declaration ∈ module.declarations, declaration.HasBase rootBase)
    (based' : ∀ declaration ∈ another.declarations, declaration.HasBase rootBase)
    (written : module.source (.ofEnabled enabled) = .ok text) :
    another.source (.ofEnabled enabled) = .ok text ↔
      module.imports = another.imports ∧
        List.Forall₂ Declaration.Alike module.declarations another.declarations := by
  constructor
  · intro rewritten
    exact modules_separate based based' (writes_of_source based written)
      (writes_of_source based' rewritten)
  · intro ⟨imports, alike⟩
    obtain ⟨spans, done, painted⟩ := source_eq_ok.mp written
    rw [spans_eq_of_alike imports alike] at done
    exact source_eq_ok.mpr ⟨spans, done, painted⟩

def petModule (alternatives : Alternatives) : SourceModule where
  declarations := [
    .root ⟨"Pets", rootBase,
      [⟨.get, "pet", [⟨"id", .primitive .string⟩], .optional (.named "Pet")⟩]⟩,
    .union ⟨"Pet", alternatives⟩]

def leftPets : SourceModule :=
  petModule (.either (.either (.member "Cat") (.member "map")) (.member "Dog"))

def rightPets : SourceModule :=
  petModule (.either (.member "Cat") (.either (.member "map") (.member "Dog")))

def petSource : String :=
  "import ballerina/graphql;\n\n" ++
  "type Pets service object \x7b\n" ++
  "    *graphql:Service;\n" ++
  "    resource function get pet(string id) returns Pet?;\n" ++
  "\x7d;\n\n" ++
  "type Pet Cat|'map|Dog;\n"

theorem pets_alike :
    leftPets ≠ rightPets ∧
      (∀ declaration ∈ leftPets.declarations, declaration.HasBase rootBase) ∧
      (∀ declaration ∈ rightPets.declarations, declaration.HasBase rootBase) ∧
      leftPets.source (.ofEnabled false) = .ok petSource ∧
      rightPets.source (.ofEnabled false) = .ok petSource ∧
      leftPets.imports = rightPets.imports ∧
      List.Forall₂ Declaration.Alike leftPets.declarations rightPets.declarations := by
  have based : ∀ declaration ∈ leftPets.declarations, declaration.HasBase rootBase := by
    simp [leftPets, petModule, Declaration.HasBase]
  have based' : ∀ declaration ∈ rightPets.declarations, declaration.HasBase rootBase := by
    simp [rightPets, petModule, Declaration.HasBase]
  have written : leftPets.source (.ofEnabled false) = .ok petSource := by decide +kernel
  have rewritten : rightPets.source (.ofEnabled false) = .ok petSource := by decide +kernel
  exact ⟨by decide, based, based', written, rewritten,
    (source_eq_iff_alike false based based' written).mp rewritten⟩

end SourceModule

end ServiceTypes
