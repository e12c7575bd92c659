import ServiceTypes.Proofs.Basic
import ServiceTypes.Proofs.Source.Grammar

namespace ServiceTypes

def IsLine (line : List Char) : Prop := line ≠ [] ∧ '\n' ∉ line

def Indented (line : List Char) : Prop := "    ".toList <+: line ∧ '\n' ∉ line

theorem Indented.isLine {line : List Char} (indented : Indented line) : IsLine line := by
  refine ⟨?_, indented.2⟩
  rintro rfl
  simp [Indented] at indented

section Painted

variable {colored : Bool} {spans : List Span}

theorem wrap_unbroken {role : Role} {text : String} (unbroken : '\n' ∉ text.toList) :
    '\n' ∉ ((Palette.ofEnabled colored).wrap role text).toList := by
  cases colored <;> cases role <;>
    simp [Palette.wrap, Palette.ofEnabled, Palette.on, Palette.off, unbroken]

theorem paint_unbroken (unbroken : '\n' ∉ Span.chars spans) :
    '\n' ∉ ((Palette.ofEnabled colored).paint spans).toList := by
  induction spans with
  | nil => simp
  | cons span rest ih =>
    rw [Span.chars_cons, List.mem_append, not_or] at unbroken
    simp [wrap_unbroken unbroken.1, ih unbroken.2]

-- Spans that come to indented lines, whole ones.
def Indents (colored : Bool) (spans : List Span) : Prop :=
  ∃ lines : List (List Char), (∀ line ∈ lines, Indented line) ∧
    ((Palette.ofEnabled colored).paint spans).toList = lines.flatMap (· ++ ['\n'])

theorem indents_nil : Indents colored [] := ⟨[], by simp, by simp⟩

theorem Indents.append {first second : List Span} (one : Indents colored first)
    (other : Indents colored second) : Indents colored (first ++ second) := by
  obtain ⟨lines, indented, painted⟩ := one
  obtain ⟨more, further, also⟩ := other
  exact ⟨lines ++ more, List.forall_mem_append.mpr ⟨indented, further⟩, by simp [painted, also]⟩

theorem indents_innerLine (unbroken : '\n' ∉ Span.chars spans) :
    Indents colored (innerLine spans) := by
  refine ⟨["    ".toList ++ ((Palette.ofEnabled colored).paint spans).toList], ?_, ?_⟩
  · rw [List.forall_mem_singleton]
    refine ⟨List.prefix_append .., ?_⟩
    simp [paint_unbroken unbroken]
  · simp [innerLine]

theorem indents_each {α : Type} {write : α → Rendered} {items : List α} {lines : List (List Span)}
    (done : items.mapM write = .ok lines)
    (each : ∀ {item spans}, write item = .ok spans → Indents colored spans) :
    Indents colored lines.flatten := by
  have written := mapM_eq_ok done
  clear done
  induction written with
  | nil => exact indents_nil
  | cons first _ ih => exact (each first).append ih

theorem text_eq_nil {role : Role} {text : String}
    (empty : ((Palette.ofEnabled colored).wrap role text).toList = []) : text.toList = [] := by
  cases colored with
  | false => cases role <;> simpa [Palette.wrap, Palette.ofEnabled, Palette.off] using empty
  | true =>
    cases role with
    | plain => exact empty
    | keyword | name | builtin => simp [Palette.wrap, Palette.ofEnabled, Palette.on] at empty

theorem isLine_paint (full : Span.chars spans ≠ []) (unbroken : '\n' ∉ Span.chars spans) :
    IsLine ((Palette.ofEnabled colored).paint spans).toList := by
  refine ⟨fun empty => full ?_, paint_unbroken unbroken⟩
  clear full unbroken
  induction spans with
  | nil => rfl
  | cons span rest ih =>
    rw [Palette.paint_cons, String.toList_append, List.append_eq_nil_iff] at empty
    rw [Span.chars_cons, text_eq_nil empty.1, ih empty.2, List.nil_append]

end Painted

-- None of its lines is empty, and those between the first one and the last one are indented.
structure IsBlock (lines : List (List Char)) : Prop where
  nonempty : lines ≠ []
  full : ∀ line ∈ lines, line ≠ []
  indented : ∀ line ∈ lines.tail.dropLast, "    ".toList <+: line

structure IsBlockText (text : String) : Prop where
  block : IsBlock (linesOf text)
  whole : ∀ line ∈ linesOf text, '\n' ∉ line
  lines : text.toList = (linesOf text).flatMap (· ++ ['\n'])

theorem IsBlock.text {lines : List (List Char)} {text : String} (block : IsBlock lines)
    (whole : ∀ line ∈ lines, '\n' ∉ line)
    (written : text.toList = lines.flatMap (· ++ ['\n'])) : IsBlockText text := by
  have same := linesOf_eq whole written
  exact ⟨same ▸ block, same ▸ whole, same ▸ written⟩

section Blocks

variable {colored : Bool} {name : String} {spans rest opening inner closing : List Span}

def OneLine (colored : Bool) (spans : List Span) : Prop :=
  ∃ line, IsLine line ∧ ((Palette.ofEnabled colored).paint spans).toList = line ++ ['\n']

theorem OneLine.block (alone : OneLine colored spans) :
    IsBlockText ((Palette.ofEnabled colored).paint spans) := by
  obtain ⟨line, one, painted⟩ := alone
  have block : IsBlock [line] := ⟨by simp, List.forall_mem_singleton.mpr one.1, by simp⟩
  exact block.text (List.forall_mem_singleton.mpr one.2) (by simp [painted])

theorem OneLine.around (opens : OneLine colored opening) (inside : Indents colored inner)
    (closes : OneLine colored closing) :
    IsBlockText ((Palette.ofEnabled colored).paint (opening ++ inner ++ closing)) := by
  obtain ⟨first, begins, above⟩ := opens
  obtain ⟨lines, indented, middle⟩ := inside
  obtain ⟨last, ends, below⟩ := closes
  have each : ∀ line ∈ first :: (lines ++ [last]), IsLine line := by
    refine List.forall_mem_cons.mpr ⟨begins, List.forall_mem_append.mpr ⟨?_, ?_⟩⟩
    · exact fun line listed => (indented line listed).isLine
    · exact List.forall_mem_singleton.mpr ends
  have block : IsBlock (first :: (lines ++ [last])) := by
    refine ⟨by simp, fun line listed => (each line listed).1, ?_⟩
    rw [List.tail_cons, List.dropLast_concat]
    exact fun line listed => (indented line listed).1
  exact block.text (fun line listed => (each line listed).2) (by simp [above, middle, below])

theorem written_unbroken {α : Type} {write : α → Rendered} {item : α}
    (printable : ∀ {text}, Writes write item text → Printable text) (done : write item = .ok spans) :
    '\n' ∉ Span.chars spans :=
  (printable ⟨spans, done, rfl⟩).lacks (by decide)

theorem writtenName_unbroken {word : String} (named : writtenName name = .ok word) :
    '\n' ∉ word.toList :=
  (WritesName.printable ⟨word, named, rfl⟩).lacks (by decide)

theorem typeHeader_line (done : typeHeader name rest = .ok spans)
    (unbroken : '\n' ∉ Span.chars rest) : OneLine colored spans := by
  simp only [typeHeader, bind_eq_ok, pure_eq_ok] at done
  obtain ⟨word, named, rfl⟩ := done
  refine ⟨((Palette.ofEnabled colored).paint
    (.keyword "type" :: .plain " " :: .name word :: .plain " " :: rest)).toList, ?_, by simp⟩
  exact isLine_paint (by simp) (by simp [writtenName_unbroken named, unbroken])

theorem brace_line (unbroken : '\n' ∉ Span.chars spans) :
    OneLine colored (spans ++ [.plain " \x7b\n"]) := by
  refine ⟨((Palette.ofEnabled colored).paint (spans ++ [.plain " \x7b"])).toList, ?_, by simp⟩
  exact isLine_paint (by simp) (by simp [unbroken])

theorem fieldLine_indents {field : TypedName} (done : field.fieldLine = .ok spans) :
    Indents colored spans := by
  simp only [TypedName.fieldLine, bind_eq_ok, pure_eq_ok] at done
  obtain ⟨typed, within, rfl⟩ := done
  exact indents_innerLine (by simp [written_unbroken TypedName.printable within])

theorem includeLine_indents (done : includeLine name = .ok spans) : Indents colored spans := by
  simp only [includeLine, bind_eq_ok, pure_eq_ok] at done
  obtain ⟨word, named, rfl⟩ := done
  exact indents_innerLine (by simp [writtenName_unbroken named])

theorem promise_indents {method : Method} (done : method.promise = .ok spans) :
    Indents colored spans := by
  simp only [Method.promise, bind_eq_ok, pure_eq_ok] at done
  obtain ⟨signature, within, rfl⟩ := done
  exact indents_innerLine (by simp [written_unbroken Method.printable_signature within])

theorem stub_indents {method : Method} (done : method.stub = .ok spans) :
    Indents colored spans := by
  simp only [Method.stub, bind_eq_ok, pure_eq_ok] at done
  obtain ⟨signature, within, rfl⟩ := done
  refine (indents_innerLine ?_).append (indents_innerLine (by simp))
  simp [written_unbroken Method.printable_signature within]

theorem enumMembers_indent {members words : List String}
    (done : members.mapM writtenName = .ok words) :
    Indents colored ([Span.plain ",\n"].intercalate (words.map fun word => [.plain ("    " ++ word)])
      ++ if words.isEmpty then [] else [.plain "\n"]) := by
  have written := mapM_eq_ok done
  clear done
  induction written with
  | nil => exact indents_nil
  | @cons name word names words named later ih =>
    cases words with
    | nil =>
      have line : Indents colored (innerLine [.plain word]) :=
        indents_innerLine (by simp [writtenName_unbroken named])
      obtain ⟨lines, indented, painted⟩ := line
      exact ⟨lines, indented, by rw [← painted]; simp [innerLine]⟩
    | cons next words =>
      have line : Indents colored (innerLine [.plain word, .plain ","]) :=
        indents_innerLine (by simp [writtenName_unbroken named])
      obtain ⟨lines, indented, painted⟩ := line.append ih
      refine ⟨lines, indented, ?_⟩
      rw [← painted]
      simp [innerLine, List.intercalate_cons_cons]

def Declaration.HasUnbrokenBase : Declaration → Prop
  | root contract => '\n' ∉ contract.base.toList
  | _ => True

-- A union is one line. Everything else is opened and closed by lines of its own.
theorem Declaration.isBlockText {declaration : Declaration}
    (unbroken : declaration.HasUnbrokenBase) (done : declaration.spans = .ok spans) :
    IsBlockText ((Palette.ofEnabled colored).paint spans) := by
  have brace : OneLine colored [.plain "\x7d\n"] := ⟨['\x7d'], by simp [IsLine], by simp⟩
  have semicolon : OneLine colored [.plain "\x7d;\n"] :=
    ⟨['\x7d', ';'], by simp [IsLine], by simp⟩
  have bar : OneLine colored [.plain "|\x7d;\n"] :=
    ⟨['|', '\x7d', ';'], by simp [IsLine], by simp⟩
  cases declaration with
  | record record =>
    simp only [Declaration.spans, Record.spans, bind_eq_ok, pure_eq_ok] at done
    obtain ⟨header, opened, fields, listed, rfl⟩ := done
    have opens : OneLine colored header := typeHeader_line opened (by split <;> simp)
    refine opens.around (indents_each listed fieldLine_indents) ?_
    split
    · exact bar
    · exact semicolon
  | service service =>
    simp only [Declaration.spans, ServiceClass.spans, bind_eq_ok, pure_eq_ok] at done
    obtain ⟨word, named, includes, led, methods, listed, rfl⟩ := done
    have start : '\n' ∉ Span.chars
        (if service.distinct then [.keyword "distinct", .plain " "] else []) := by
      split <;> simp
    have opens : OneLine colored
        ((if service.distinct then [.keyword "distinct", .plain " "] else [])
          ++ [.keyword "service class", .plain " ", .name word] ++ [.plain " \x7b\n"]) :=
      brace_line (by simp [start, writtenName_unbroken named])
    have inside : Indents colored (includes.flatten ++ methods.flatten) :=
      (indents_each led includeLine_indents).append (indents_each listed stub_indents)
    simpa using opens.around inside brace
  | interface contract =>
    simp only [Declaration.spans, ServiceContract.spans, bind_eq_ok, pure_eq_ok] at done
    obtain ⟨header, opened, includes, led, methods, listed, rfl⟩ := done
    have inside : Indents colored (includes.flatten ++ methods.flatten) :=
      (indents_each led includeLine_indents).append (indents_each listed promise_indents)
    have opens : OneLine colored header := typeHeader_line opened (by simp)
    simpa using opens.around inside semicolon
  | enum enum =>
    simp only [Declaration.spans, EnumDefinition.spans, bind_eq_ok, pure_eq_ok] at done
    obtain ⟨word, named, words, listed, rfl⟩ := done
    have opens : OneLine colored
        ([.keyword "enum", .plain " ", .name word] ++ [.plain " \x7b\n"]) :=
      brace_line (by simp [writtenName_unbroken named])
    simpa using opens.around (enumMembers_indent listed) brace
  | union union =>
    simp only [Declaration.spans, UnionDefinition.spans, bind_eq_ok] at done
    obtain ⟨alternatives, within, opened⟩ := done
    have alone : OneLine colored spans :=
      typeHeader_line opened (by simp [written_unbroken Alternatives.printable within])
    exact alone.block
  | root contract =>
    simp only [Declaration.spans, RootContract.spans, bind_eq_ok, pure_eq_ok] at done
    obtain ⟨header, opened, methods, listed, rfl⟩ := done
    have base : '\n' ∉ contract.base.toList := unbroken
    have inside : Indents colored
        (innerLine [.plain "*", .builtin contract.base, .plain ";"] ++ methods.flatten) :=
      (indents_innerLine (by simp [base])).append (indents_each listed promise_indents)
    have opens : OneLine colored header := typeHeader_line opened (by simp)
    simpa using opens.around inside semicolon

end Blocks

end ServiceTypes
