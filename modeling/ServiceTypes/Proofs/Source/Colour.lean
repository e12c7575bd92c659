import ServiceTypes.Declaration.OfSchema
import ServiceTypes.Proofs.Sections
import ServiceTypes.Proofs.Source.Grammar

namespace ServiceTypes

def withoutCodes : List Char → List Char
  | '\x1b' :: '[' :: '3' :: '4' :: 'm' :: rest => withoutCodes rest
  | '\x1b' :: '[' :: '2' :: 'm' :: rest => withoutCodes rest
  | '\x1b' :: '[' :: '3' :: '2' :: 'm' :: rest => withoutCodes rest
  | '\x1b' :: '[' :: '0' :: 'm' :: rest => withoutCodes rest
  | c :: rest => c :: withoutCodes rest
  | [] => []

def Palette.codes (palette : Palette) : List String :=
  [palette.name, palette.keyword, palette.builtin, palette.reset]

theorem withoutCodes_code {code : String} (known : code ∈ Palette.on.codes) (rest : List Char) :
    withoutCodes (code.toList ++ rest) = withoutCodes rest := by
  simp only [Palette.codes, Palette.on, List.mem_cons, List.not_mem_nil, or_false] at known
  rcases known with rfl | rfl | rfl | rfl <;> simp [withoutCodes]

theorem withoutCodes_other {c : Char} {rest : List Char}
    (other : ∀ code ∈ Palette.on.codes, ¬ code.toList <+: c :: rest) :
    withoutCodes (c :: rest) = c :: withoutCodes rest := by
  simp only [Palette.codes, Palette.on, List.forall_mem_cons] at other
  obtain ⟨name, keyword, builtin, reset, -⟩ := other
  rw [withoutCodes]
  · rintro tail rfl rfl
    exact name (by simp)
  · rintro tail rfl rfl
    exact keyword (by simp)
  · rintro tail rfl rfl
    exact builtin (by simp)
  · rintro tail rfl rfl
    exact reset (by simp)

-- Every code begins with an escape, so nothing is deleted from a text that has none.
theorem withoutCodes_append {text : List Char} (clean : '\x1b' ∉ text) (rest : List Char) :
    withoutCodes (text ++ rest) = text ++ withoutCodes rest := by
  induction text with
  | nil => rfl
  | cons c cs ih =>
    obtain ⟨differs, below⟩ := List.ne_and_not_mem_of_not_mem_cons clean
    rw [List.cons_append, withoutCodes_other, ih below, List.cons_append]
    have escaped : ∀ code ∈ Palette.on.codes, code.toList.head? = some '\x1b' := by decide
    intro code known begins
    have first := escaped code known
    obtain ⟨tail, whole⟩ := begins
    cases letters : code.toList with
    | nil => simp [letters] at first
    | cons d ds =>
      rw [letters] at first whole
      exact differs (Option.some.inj (first.symm.trans (congrArg List.head? whole)))

theorem withoutCodes_wrap (enabled : Bool) (role : Role) {text : String}
    (clean : '\x1b' ∉ text.toList) (rest : List Char) :
    withoutCodes (((Palette.ofEnabled enabled).wrap role text).toList ++ rest) =
      text.toList ++ withoutCodes rest := by
  cases enabled with
  | false =>
    have same : (Palette.off.wrap role text).toList = text.toList := by
      cases role <;> simp [Palette.wrap, Palette.off]
    change withoutCodes ((Palette.off.wrap role text).toList ++ rest) = _
    rw [same, withoutCodes_append clean]
  | true =>
    change withoutCodes ((Palette.on.wrap role text).toList ++ rest) = _
    have between : ∀ code ∈ Palette.on.codes,
        withoutCodes ((code ++ text ++ Palette.on.reset).toList ++ rest) =
          text.toList ++ withoutCodes rest := by
      intro code known
      simp only [String.toList_append, List.append_assoc]
      rw [withoutCodes_code known, withoutCodes_append clean,
        withoutCodes_code (by simp [Palette.codes])]
    cases role with
    | plain => exact withoutCodes_append clean rest
    | keyword | name | builtin => exact between _ (by simp [Palette.codes])

theorem withoutCodes_paint (enabled : Bool) {spans : List Span}
    (clean : '\x1b' ∉ Span.chars spans) :
    withoutCodes ((Palette.ofEnabled enabled).paint spans).toList = Span.chars spans := by
  induction spans with
  | nil => rfl
  | cons span rest ih =>
    rw [Span.chars_cons, List.mem_append, not_or] at clean
    obtain ⟨first, later⟩ := clean
    rw [Palette.paint_cons, String.toList_append,
      withoutCodes_wrap enabled span.role first, Span.chars_cons]
    exact congrArg (span.text.toList ++ ·) (ih later)

-- What is written holds no escape of its own: names are identifiers, and the rest is fixed.
def IsClean (text : List Char) : Prop := '\x1b' ∉ text

@[simp] theorem isClean_nil : IsClean [] := List.not_mem_nil

@[simp] theorem isClean_cons {c : Char} {text : List Char} :
    IsClean (c :: text) ↔ '\x1b' ≠ c ∧ IsClean text := by
  simp [IsClean]

@[simp] theorem isClean_append {first second : List Char} :
    IsClean (first ++ second) ↔ IsClean first ∧ IsClean second := by
  simp [IsClean]

theorem isClean_flatten {texts : List (List Char)} (each : ∀ text ∈ texts, IsClean text) :
    IsClean texts.flatten := by
  intro inside
  obtain ⟨text, member, within⟩ := List.mem_flatten.mp inside
  exact each text member within

theorem isClean_joined {separator : List Char} {texts : List (List Char)}
    (between : IsClean separator) (each : ∀ text ∈ texts, IsClean text) :
    IsClean (joined separator texts) := by
  intro inside
  rcases mem_joined inside with separates | ⟨text, member, within⟩
  · exact between separates
  · exact each text member within

theorem Printable.isClean {text : List Char} (printable : Printable text) : IsClean text :=
  printable.lacks (by decide)

theorem WritesName.isClean {name : String} {text : List Char} (written : WritesName name text) :
    IsClean text :=
  written.printable.isClean

theorem TypedName.isClean_fieldLine {field : TypedName} {text : List Char}
    (written : Writes TypedName.fieldLine field text) : IsClean text := by
  obtain ⟨typed, within, rfl⟩ := writes_fieldLine written
  simp [(TypedName.printable within).isClean]

theorem Method.isClean_promise {method : Method} {text : List Char}
    (written : Writes Method.promise method text) : IsClean text := by
  obtain ⟨signature, within, rfl⟩ := writes_promise written
  simp [(Method.printable_signature within).isClean]

theorem Method.isClean_stub {method : Method} {text : List Char}
    (written : Writes Method.stub method text) : IsClean text := by
  obtain ⟨signature, within, rfl⟩ := writes_stub written
  simp [(Method.printable_signature within).isClean]

theorem isClean_includeLine {name : String} {text : List Char}
    (written : Writes includeLine name text) : IsClean text := by
  obtain ⟨word, named, rfl⟩ := writes_includeLine written
  simp [named.isClean]

def Declaration.HasBase (base : String) : Declaration → Prop
  | root contract => contract.base = base
  | _ => True

def Declaration.HasCleanBase : Declaration → Prop
  | root contract => IsClean contract.base.toList
  | _ => True

theorem Declaration.HasBase.clean {declaration : Declaration} {base : String}
    (based : declaration.HasBase base) (clean : IsClean base.toList) :
    declaration.HasCleanBase := by
  cases declaration with
  | root contract =>
    have same : contract.base = base := based
    rw [HasCleanBase, same]
    exact clean
  | _ => trivial

theorem Declaration.isClean {declaration : Declaration} {text : List Char}
    (clean : declaration.HasCleanBase) (written : Writes Declaration.spans declaration text) :
    IsClean text := by
  cases declaration with
  | record record =>
    obtain ⟨name, fields, named, listed, rfl⟩ := writes_record written
    have lines := isClean_flatten (forall_written listed fun _ _ _ => TypedName.isClean_fieldLine)
    have bar : IsClean record.bar := by
      unfold Record.bar
      split <;> simp
    simp [named.isClean, lines, bar]
  | service service =>
    obtain ⟨name, includes, methods, named, led, listed, rfl⟩ := writes_class written
    have first := isClean_flatten (forall_written led fun _ _ _ => isClean_includeLine)
    have lines := isClean_flatten (forall_written listed fun _ _ _ => Method.isClean_stub)
    cases service.distinct <;> simp [named.isClean, first, lines]
  | interface contract =>
    obtain ⟨name, includes, methods, named, led, listed, rfl⟩ := writes_contract written
    have first := isClean_flatten (forall_written led fun _ _ _ => isClean_includeLine)
    have lines := isClean_flatten (forall_written listed fun _ _ _ => Method.isClean_promise)
    simp [named.isClean, first, lines]
  | enum enum =>
    obtain ⟨name, words, named, listed, rfl⟩ := writes_enum written
    have lines : IsClean (joined [',', '\n'] (words.map ("    ".toList ++ ·))) := by
      refine isClean_joined (by simp) ?_
      intro line member
      obtain ⟨word, inside, rfl⟩ := List.mem_map.mp member
      simp [forall_written listed (fun _ _ _ => WritesName.isClean) word inside]
    have last : IsClean (if words.isEmpty then [] else ['\n']) := by split <;> simp
    simp only [isClean_append, lines, last]
    simp [named.isClean]
  | union union =>
    obtain ⟨name, words, named, listed, rfl⟩ := writes_union written
    have between : IsClean (joined ['|'] words) :=
      isClean_joined (by simp) (forall_written listed fun _ _ _ => WritesName.isClean)
    simp [named.isClean, between]
  | root contract =>
    obtain ⟨name, methods, named, listed, rfl⟩ := writes_root written
    have lines := isClean_flatten (forall_written listed fun _ _ _ => Method.isClean_promise)
    have base : IsClean contract.base.toList := clean
    simp [named.isClean, lines, base]

theorem SourceModule.isClean {module : SourceModule} {text : List Char}
    (clean : ∀ declaration ∈ module.declarations, declaration.HasCleanBase)
    (written : Writes SourceModule.spans module text) : IsClean text := by
  obtain ⟨org, name, blocks, orgNamed, named, listed, rfl⟩ := writes_module written
  have each := forall_written listed fun declaration member _ =>
    Declaration.isClean (clean declaration member)
  have lines : IsClean (blocks.map ('\n' :: ·)).flatten := by
    refine isClean_flatten ?_
    intro block member
    obtain ⟨text, inside, rfl⟩ := List.mem_map.mp member
    exact isClean_cons.mpr ⟨by decide, each text inside⟩
  simp [orgNamed.isClean, named.isClean, lines]

theorem SourceModule.source_eq_ok {module : SourceModule} {palette : Palette} {text : String} :
    module.source palette = .ok text ↔
      ∃ spans, module.spans = .ok spans ∧ palette.paint spans = text := by
  unfold source
  cases module.spans <;> simp [Except.map]

def SourceModule.HasCleanBases (module : SourceModule) : Prop :=
  ∀ declaration ∈ module.declarations, declaration.HasCleanBase

theorem Schema.DeclaredAs.hasCleanBase {schema : Schema} {recordsForced : Bool} {type : SchemaType}
    {declaration : Declaration} (rule : schema.DeclaredAs recordsForced type declaration) :
    declaration.HasCleanBase := by
  cases rule <;> trivial

theorem Schema.toModule_hasCleanBases (schema : Schema) (root : String) (recordsForced : Bool) :
    (schema.toModule root recordsForced).HasCleanBases := by
  intro declaration member
  rcases List.mem_cons.mp member with rfl | declared
  · change IsClean rootBase.toList
    simp [rootBase]
  · obtain ⟨type, -, rule⟩ := mem_declarations.mp declared
    exact rule.hasCleanBase

theorem paint_off (spans : List Span) : (Palette.off.paint spans).toList = Span.chars spans := by
  induction spans with
  | nil => rfl
  | cons span rest ih =>
    have alone : (Palette.off.wrap span.role span.text).toList = span.text.toList := by
      cases span.role <;> simp [Palette.wrap, Palette.off]
    rw [Palette.paint_cons, String.toList_append, alone, Span.chars_cons]
    exact congrArg (span.text.toList ++ ·) ih

namespace SourceModule

theorem isClean_source {module : SourceModule} {text : String} (clean : module.HasCleanBases)
    (written : module.source .off = .ok text) : IsClean text.toList := by
  obtain ⟨spans, done, rfl⟩ := source_eq_ok.mp written
  rw [paint_off]
  exact isClean clean ⟨spans, done, rfl⟩

-- Colour decides nothing: what fails without it fails with it, in the same way, and a coloured text
-- is the plain one with codes put in.
theorem colour_decorates :
    (∀ (module : SourceModule), module.HasCleanBases →
      (∃ error, module.source .on = .error error ∧ module.source .off = .error error) ∨
      ∃ coloured plain, module.source .on = .ok coloured ∧ module.source .off = .ok plain ∧
        withoutCodes coloured.toList = plain.toList ∧ IsClean plain.toList) ∧
    ∀ (schema : Schema) (root : String) (recordsForced : Bool),
      (schema.toModule root recordsForced).HasCleanBases := by
  refine ⟨?_, Schema.toModule_hasCleanBases⟩
  intro module clean
  cases done : module.spans with
  | error error =>
    refine .inl ⟨error, ?_, ?_⟩ <;> simp [source, done, Except.map]
  | ok spans =>
    have coloured : module.source .on = .ok (Palette.on.paint spans) :=
      source_eq_ok.mpr ⟨spans, done, rfl⟩
    have plain : module.source .off = .ok (Palette.off.paint spans) :=
      source_eq_ok.mpr ⟨spans, done, rfl⟩
    refine .inr ⟨_, _, coloured, plain, ?_, isClean_source clean plain⟩
    rw [paint_off]
    exact withoutCodes_paint true (isClean clean ⟨spans, done, rfl⟩)

def resetModule : SourceModule where
  declarations := [.root ⟨"Reset", "[0m", []⟩, .enum ⟨"Mode", ["type"]⟩]

def resetSource : String :=
  "import ballerina/graphql;\n\n" ++
  "type Reset service object \x7b\n    *[0m;\n\x7d;\n\n" ++
  "enum Mode \x7b\n    'type\n\x7d\n"

theorem reset_base_stays :
    resetModule.HasCleanBases ∧ resetModule.source .off = .ok resetSource ∧
      ∃ coloured, resetModule.source .on = .ok coloured ∧ coloured ≠ resetSource ∧
        withoutCodes coloured.toList = resetSource.toList := by
  have clean : resetModule.HasCleanBases := by
    simp [resetModule, HasCleanBases, Declaration.HasCleanBase]
  have written : resetModule.source .off = .ok resetSource := by decide +kernel
  have differs : resetModule.source .on ≠ .ok resetSource := by decide +kernel
  refine ⟨clean, written, ?_⟩
  rcases colour_decorates.1 resetModule clean with
    ⟨error, -, wrong⟩ | ⟨text, plain, colour, dull, erased, -⟩
  · rw [written] at wrong
    cases wrong
  · rw [written] at dull
    cases dull
    exact ⟨text, colour, fun same => differs (same ▸ colour), erased⟩

end SourceModule

end ServiceTypes
