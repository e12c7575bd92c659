import ServiceTypes.Proofs.Alternatives
import ServiceTypes.Proofs.Basic
import ServiceTypes.Source

namespace ServiceTypes

@[simp] theorem Span.plain_text (text : String) : (Span.plain text).text = text := rfl

@[simp] theorem Span.keyword_text (text : String) : (Span.keyword text).text = text := rfl

@[simp] theorem Span.name_text (text : String) : (Span.name text).text = text := rfl

@[simp] theorem Span.builtin_text (text : String) : (Span.builtin text).text = text := rfl

-- What spans say, colour apart.
def Span.chars (spans : List Span) : List Char := spans.flatMap (·.text.toList)

@[simp] theorem Span.chars_nil : Span.chars [] = [] := rfl

@[simp] theorem Span.chars_cons (span : Span) (spans : List Span) :
    Span.chars (span :: spans) = span.text.toList ++ Span.chars spans := rfl

@[simp] theorem Span.chars_append (first second : List Span) :
    Span.chars (first ++ second) = Span.chars first ++ Span.chars second :=
  List.flatMap_append

theorem Span.chars_flatten (lines : List (List Span)) :
    Span.chars lines.flatten = (lines.map Span.chars).flatten := by
  induction lines with
  | nil => rfl
  | cons line rest ih => simp [ih]

def joined (separator : List Char) : List (List Char) → List Char
  | [] => []
  | first :: rest => first ++ (rest.map (separator ++ ·)).flatten

theorem mem_joined {separator : List Char} {texts : List (List Char)} {c : Char}
    (inside : c ∈ joined separator texts) : c ∈ separator ∨ ∃ text ∈ texts, c ∈ text := by
  cases texts with
  | nil => cases inside
  | cons first rest =>
    rcases List.mem_append.mp inside with head | later
    · exact .inr ⟨first, List.mem_cons_self .., head⟩
    · obtain ⟨_, listed, within⟩ := List.mem_flatten.mp later
      obtain ⟨text, member, rfl⟩ := List.mem_map.mp listed
      rcases List.mem_append.mp within with separates | own
      · exact .inl separates
      · exact .inr ⟨text, List.mem_cons_of_mem _ member, own⟩

theorem Span.chars_intercalate (separator : String) (items : List (List Span)) :
    Span.chars ([Span.plain separator].intercalate items) =
      joined separator.toList (items.map Span.chars) := by
  cases items with
  | nil => rfl
  | cons first rest =>
    induction rest generalizing first with
    | nil => simp [joined]
    | cons second rest ih =>
      have tail := ih second
      rw [List.intercalate_cons_cons]
      simp only [Span.chars_append, tail]
      simp [joined]

-- `text` is what is written for the item.
def Writes {α : Type} (write : α → Rendered) (item : α) (text : List Char) : Prop :=
  ∃ spans, write item = .ok spans ∧ Span.chars spans = text

def WritesName (name : String) (text : List Char) : Prop :=
  ∃ word, writtenName name = .ok word ∧ word.toList = text

theorem isIdentifier_letters {name : String} (valid : isIdentifier name = true) :
    name.toList ≠ [] ∧ ∀ c ∈ name.toList, isNameContinue c = true := by
  unfold isIdentifier at valid
  split at valid
  · cases valid
  · rename_i first rest letters
    rw [Bool.and_eq_true, List.all_eq_true] at valid
    obtain ⟨starts, follows⟩ := valid
    refine ⟨by simp [letters], ?_⟩
    rw [letters, List.forall_mem_cons]
    refine ⟨?_, follows⟩
    rw [isNameStart, Bool.or_eq_true] at starts
    rcases starts with letter | underscore
    · simp [isNameContinue, Char.isAlphanum, letter]
    · simp [isNameContinue, underscore]

theorem WritesName.cases {name : String} {text : List Char} (written : WritesName name text) :
    isIdentifier name = true ∧
      (name ∉ reservedWords ∧ text = name.toList ∨
        name ∈ reservedWords ∧ text = '\'' :: name.toList) := by
  obtain ⟨word, done, rfl⟩ := written
  unfold writtenName at done
  split at done
  · rename_i valid
    cases done
    refine ⟨valid, ?_⟩
    by_cases reserved : name ∈ reservedWords <;> simp [reserved]
  · cases done

theorem writes_each {α : Type} {write : α → Rendered} {items : List α} {lines : List (List Span)}
    (done : items.mapM write = .ok lines) :
    List.Forall₂ (Writes write) items (lines.map Span.chars) := by
  rw [List.forall₂_map_right_iff]
  exact (mapM_eq_ok done).imp fun _ _ written => ⟨_, written, rfl⟩

theorem writes_primitive {primitive : Primitive} {text : List Char}
    (written : Writes Descriptor.spans (.primitive primitive) text) :
    text = primitive.keyword.toList := by
  obtain ⟨_, done, rfl⟩ := written
  cases done
  simp

theorem writes_named {name : String} {text : List Char}
    (written : Writes Descriptor.spans (.named name) text) : WritesName name text := by
  obtain ⟨_, done, rfl⟩ := written
  simp only [Descriptor.spans, bind_eq_ok, pure_eq_ok] at done
  obtain ⟨word, named, rfl⟩ := done
  exact ⟨word, named, by simp⟩

theorem writes_array {element : Descriptor} {text : List Char}
    (written : Writes Descriptor.spans (.array element) text) :
    ∃ inner, Writes Descriptor.spans element inner ∧ text = inner ++ ['[', ']'] := by
  obtain ⟨_, done, rfl⟩ := written
  simp only [Descriptor.spans, bind_eq_ok, pure_eq_ok] at done
  obtain ⟨inner, within, rfl⟩ := done
  exact ⟨_, ⟨inner, within, rfl⟩, by simp⟩

theorem writes_optional {inside : Descriptor} {text : List Char}
    (written : Writes Descriptor.spans (.optional inside) text) :
    ∃ inner, Writes Descriptor.spans inside inner ∧ text = inner ++ ['?'] := by
  obtain ⟨_, done, rfl⟩ := written
  simp only [Descriptor.spans, bind_eq_ok, pure_eq_ok] at done
  obtain ⟨inner, within, rfl⟩ := done
  exact ⟨_, ⟨inner, within, rfl⟩, by simp⟩

theorem writes_stream {element : Descriptor} {text : List Char}
    (written : Writes Descriptor.spans (.stream element) text) :
    ∃ inner, Writes Descriptor.spans element inner ∧
      text = "stream".toList ++ '<' :: inner ++ ['>'] := by
  obtain ⟨_, done, rfl⟩ := written
  simp only [Descriptor.spans, bind_eq_ok, pure_eq_ok] at done
  obtain ⟨inner, within, rfl⟩ := done
  exact ⟨_, ⟨inner, within, rfl⟩, by simp⟩

theorem writes_typedName {typed : TypedName} {text : List Char}
    (written : Writes TypedName.spans typed text) :
    ∃ type name, Writes Descriptor.spans typed.type type ∧ WritesName typed.name name ∧
      text = type ++ ' ' :: name := by
  obtain ⟨_, done, rfl⟩ := written
  simp only [TypedName.spans, bind_eq_ok, pure_eq_ok] at done
  obtain ⟨type, within, word, named, rfl⟩ := done
  exact ⟨_, _, ⟨type, within, rfl⟩, ⟨word, named, rfl⟩, by simp⟩

theorem writes_fieldLine {field : TypedName} {text : List Char}
    (written : Writes TypedName.fieldLine field text) :
    ∃ typed, Writes TypedName.spans field typed ∧ text = "    ".toList ++ typed ++ [';', '\n'] := by
  obtain ⟨_, done, rfl⟩ := written
  simp only [TypedName.fieldLine, bind_eq_ok, pure_eq_ok] at done
  obtain ⟨typed, within, rfl⟩ := done
  exact ⟨_, ⟨typed, within, rfl⟩, by simp [innerLine]⟩

theorem writes_signature {method : Method} {text : List Char}
    (written : Writes Method.signature method text) :
    ∃ name params returns, WritesName method.name name ∧
      List.Forall₂ (Writes TypedName.spans) method.params params ∧
      Writes Descriptor.spans method.returns returns ∧
      text = method.kind.qualifiers.toList ++ ' ' :: name ++ '(' :: joined [',', ' '] params
        ++ ") returns ".toList ++ returns := by
  obtain ⟨_, done, rfl⟩ := written
  simp only [Method.signature, bind_eq_ok, pure_eq_ok] at done
  obtain ⟨word, named, params, listed, returns, within, rfl⟩ := done
  refine ⟨_, _, _, ⟨word, named, rfl⟩, writes_each listed, ⟨returns, within, rfl⟩, ?_⟩
  simp [Span.chars_intercalate]

theorem writes_promise {method : Method} {text : List Char}
    (written : Writes Method.promise method text) :
    ∃ signature, Writes Method.signature method signature ∧
      text = "    ".toList ++ signature ++ [';', '\n'] := by
  obtain ⟨_, done, rfl⟩ := written
  simp only [Method.promise, bind_eq_ok, pure_eq_ok] at done
  obtain ⟨signature, within, rfl⟩ := done
  exact ⟨_, ⟨signature, within, rfl⟩, by simp [innerLine]⟩

theorem writes_stub {method : Method} {text : List Char}
    (written : Writes Method.stub method text) :
    ∃ signature, Writes Method.signature method signature ∧
      text = "    ".toList ++ signature ++ " \x7b\n    \x7d\n".toList := by
  obtain ⟨_, done, rfl⟩ := written
  simp only [Method.stub, bind_eq_ok, pure_eq_ok] at done
  obtain ⟨signature, within, rfl⟩ := done
  exact ⟨_, ⟨signature, within, rfl⟩, by simp [innerLine]⟩

theorem writes_includeLine {name : String} {text : List Char}
    (written : Writes includeLine name text) :
    ∃ word, WritesName name word ∧ text = "    *".toList ++ word ++ [';', '\n'] := by
  obtain ⟨_, done, rfl⟩ := written
  simp only [includeLine, bind_eq_ok, pure_eq_ok] at done
  obtain ⟨word, named, rfl⟩ := done
  exact ⟨_, ⟨word, named, rfl⟩, by simp [innerLine]⟩

theorem joined_append (separator : List Char) {first second : List (List Char)} (left : first ≠ [])
    (right : second ≠ []) :
    joined separator (first ++ second) =
      joined separator first ++ separator ++ joined separator second := by
  cases first with
  | nil => exact absurd rfl left
  | cons head tail =>
    cases second with
    | nil => exact absurd rfl right
    | cons next rest => simp [joined]

-- The nesting is lost here: a union is written as its members, one after the other.
theorem writes_alternatives {alternatives : Alternatives} {text : List Char}
    (written : Writes Alternatives.spans alternatives text) :
    ∃ words, List.Forall₂ WritesName alternatives.members words ∧ text = joined ['|'] words := by
  induction alternatives generalizing text with
  | member name =>
    obtain ⟨_, done, rfl⟩ := written
    simp only [Alternatives.spans, bind_eq_ok, pure_eq_ok] at done
    obtain ⟨word, named, rfl⟩ := done
    exact ⟨[word.toList], .cons ⟨word, named, rfl⟩ .nil, by simp [joined]⟩
  | either left right leftIh rightIh =>
    obtain ⟨_, done, rfl⟩ := written
    simp only [Alternatives.spans, bind_eq_ok, pure_eq_ok] at done
    obtain ⟨first, leftDone, second, rightDone, rfl⟩ := done
    obtain ⟨words, leftWords, leftText⟩ := leftIh ⟨first, leftDone, rfl⟩
    obtain ⟨others, rightWords, rightText⟩ := rightIh ⟨second, rightDone, rfl⟩
    have leftFull : words ≠ [] := by
      intro empty
      subst empty
      exact left.members_ne_nil (List.forall₂_nil_right_iff.mp leftWords)
    have rightFull : others ≠ [] := by
      intro empty
      subst empty
      exact right.members_ne_nil (List.forall₂_nil_right_iff.mp rightWords)
    refine ⟨words ++ others, List.rel_append leftWords rightWords, ?_⟩
    simp [joined_append _ leftFull rightFull, leftText, rightText]

theorem typeHeader_chars {name : String} {rest spans : List Span}
    (done : typeHeader name rest = .ok spans) :
    ∃ word, WritesName name word ∧
      Span.chars spans = "type ".toList ++ word ++ ' ' :: Span.chars rest ++ ['\n'] := by
  simp only [typeHeader, bind_eq_ok, pure_eq_ok] at done
  obtain ⟨word, named, rfl⟩ := done
  exact ⟨_, ⟨word, named, rfl⟩, by simp⟩

def Record.bar (record : Record) : List Char := if record.closed then ['|'] else []

theorem writes_record {record : Record} {text : List Char}
    (written : Writes Record.spans record text) :
    ∃ name fields, WritesName record.name name ∧
      List.Forall₂ (Writes TypedName.fieldLine) record.fields fields ∧
      text = "type ".toList ++ name ++ " record \x7b".toList ++ record.bar ++ '\n' :: fields.flatten
        ++ record.bar ++ "\x7d;\n".toList := by
  obtain ⟨_, done, rfl⟩ := written
  simp only [Record.spans, bind_eq_ok, pure_eq_ok] at done
  obtain ⟨header, opened, fields, listed, rfl⟩ := done
  obtain ⟨name, named, headed⟩ := typeHeader_chars opened
  refine ⟨name, _, named, writes_each listed, ?_⟩
  cases closed : record.closed <;> simp [Record.bar, Span.chars_flatten, headed, closed]

theorem writes_contract {contract : ServiceContract} {text : List Char}
    (written : Writes ServiceContract.spans contract text) :
    ∃ name includes methods, WritesName contract.name name ∧
      List.Forall₂ (Writes includeLine) contract.includes includes ∧
      List.Forall₂ (Writes Method.promise) contract.methods methods ∧
      text = "type ".toList ++ name ++ " distinct service object \x7b\n".toList ++ includes.flatten
        ++ methods.flatten ++ "\x7d;\n".toList := by
  obtain ⟨_, done, rfl⟩ := written
  simp only [ServiceContract.spans, bind_eq_ok, pure_eq_ok] at done
  obtain ⟨header, opened, includes, led, methods, listed, rfl⟩ := done
  obtain ⟨name, named, headed⟩ := typeHeader_chars opened
  refine ⟨name, _, _, named, writes_each led, writes_each listed, ?_⟩
  simp [Span.chars_flatten, headed]

theorem writes_root {contract : RootContract} {text : List Char}
    (written : Writes RootContract.spans contract text) :
    ∃ name methods, WritesName contract.name name ∧
      List.Forall₂ (Writes Method.promise) contract.methods methods ∧
      text = "type ".toList ++ name ++ " service object \x7b\n    *".toList ++ contract.base.toList
        ++ ';' :: '\n' :: methods.flatten ++ "\x7d;\n".toList := by
  obtain ⟨_, done, rfl⟩ := written
  simp only [RootContract.spans, bind_eq_ok, pure_eq_ok] at done
  obtain ⟨header, opened, methods, listed, rfl⟩ := done
  obtain ⟨name, named, headed⟩ := typeHeader_chars opened
  refine ⟨name, _, named, writes_each listed, ?_⟩
  simp [Span.chars_flatten, headed, innerLine]

theorem writes_union {union : UnionDefinition} {text : List Char}
    (written : Writes UnionDefinition.spans union text) :
    ∃ name words, WritesName union.name name ∧
      List.Forall₂ WritesName union.alternatives.members words ∧
      text = "type ".toList ++ name ++ ' ' :: joined ['|'] words ++ [';', '\n'] := by
  obtain ⟨_, done, rfl⟩ := written
  simp only [UnionDefinition.spans, bind_eq_ok] at done
  obtain ⟨alternatives, within, opened⟩ := done
  obtain ⟨name, named, headed⟩ := typeHeader_chars opened
  obtain ⟨words, listed, text⟩ := writes_alternatives ⟨_, within, rfl⟩
  exact ⟨name, words, named, listed, by simp [headed, text]⟩

theorem writes_enum {enum : EnumDefinition} {text : List Char}
    (written : Writes EnumDefinition.spans enum text) :
    ∃ name words, WritesName enum.name name ∧ List.Forall₂ WritesName enum.members words ∧
      text = "enum ".toList ++ name ++ " \x7b\n".toList
        ++ joined [',', '\n'] (words.map ("    ".toList ++ ·))
        ++ (if words.isEmpty then [] else ['\n']) ++ "\x7d\n".toList := by
  obtain ⟨_, done, rfl⟩ := written
  simp only [EnumDefinition.spans, bind_eq_ok, pure_eq_ok] at done
  obtain ⟨name, named, members, listed, rfl⟩ := done
  refine ⟨_, members.map String.toList, ⟨name, named, rfl⟩, ?_, ?_⟩
  · rw [List.forall₂_map_right_iff]
    exact (mapM_eq_ok listed).imp fun _ _ written => ⟨_, written, rfl⟩
  · cases members <;> simp [Span.chars_intercalate, Function.comp_def, joined]

theorem writes_class {service : ServiceClass} {text : List Char}
    (written : Writes ServiceClass.spans service text) :
    ∃ name includes methods, WritesName service.name name ∧
      List.Forall₂ (Writes includeLine) service.includes includes ∧
      List.Forall₂ (Writes Method.stub) service.methods methods ∧
      text = (if service.distinct then "distinct ".toList else []) ++ "service class ".toList
        ++ name ++ " \x7b\n".toList ++ includes.flatten ++ methods.flatten ++ "\x7d\n".toList := by
  obtain ⟨_, done, rfl⟩ := written
  simp only [ServiceClass.spans, bind_eq_ok, pure_eq_ok] at done
  obtain ⟨name, named, includes, led, methods, listed, rfl⟩ := done
  refine ⟨_, _, _, ⟨name, named, rfl⟩, writes_each led, writes_each listed, ?_⟩
  cases service.distinct <;> simp [Span.chars_flatten]

theorem writes_module {module : SourceModule} {text : List Char}
    (written : Writes SourceModule.spans module text) :
    ∃ org name blocks, WritesName module.imports.org org ∧
      WritesName module.imports.module name ∧
      List.Forall₂ (Writes Declaration.spans) module.declarations blocks ∧
      text = "import ".toList ++ org ++ '/' :: name ++ ';' :: '\n' ::
        (blocks.map ('\n' :: ·)).flatten := by
  obtain ⟨_, done, rfl⟩ := written
  simp only [SourceModule.spans, Import.spans, bind_eq_ok, pure_eq_ok] at done
  obtain ⟨_, ⟨org, orgNamed, name, named, rfl⟩, blocks, listed, rfl⟩ := done
  refine ⟨_, _, _, ⟨org, orgNamed, rfl⟩, ⟨name, named, rfl⟩, writes_each listed, ?_⟩
  simp [List.flatMap_def, Span.chars_flatten, Function.comp_def]

theorem intercalate_append {α : Type} (separator : List α) {first second : List (List α)}
    (left : first ≠ []) (right : second ≠ []) :
    separator.intercalate (first ++ second) =
      separator.intercalate first ++ separator ++ separator.intercalate second := by
  induction first with
  | nil => exact absurd rfl left
  | cons item rest ih =>
    cases rest with
    | nil => simp [List.intercalate_cons_of_ne_nil right]
    | cons next others =>
      have tail := ih (List.cons_ne_nil next others)
      rw [List.cons_append] at tail
      rw [List.cons_append, List.cons_append, List.intercalate_cons_cons, tail,
        List.intercalate_cons_cons]
      simp only [List.append_assoc]

def barred (words : List String) : List Span :=
  [Span.plain "|"].intercalate (words.map fun word => [.name word])

theorem mapM_ne_nil {ε α β : Type} {act : α → Except ε β} {items : List α} {answers : List β}
    (done : items.mapM act = .ok answers) (full : items ≠ []) : answers ≠ [] := by
  intro empty
  subst empty
  exact full (List.forall₂_nil_right_iff.mp (mapM_eq_ok done))

theorem Alternatives.spans_eq (alternatives : Alternatives) :
    alternatives.spans = (alternatives.members.mapM writtenName).map barred := by
  induction alternatives with
  | member name =>
    rw [spans, members, List.mapM_cons, List.mapM_nil]
    cases writtenName name <;> rfl
  | either left right leftIh rightIh =>
    rw [spans, leftIh, rightIh, members, List.mapM_append]
    cases first : left.members.mapM writtenName with
    | error _ => rfl
    | ok words =>
      cases second : right.members.mapM writtenName with
      | error _ => rfl
      | ok others =>
        have leftFull := mapM_ne_nil first left.members_ne_nil
        have rightFull := mapM_ne_nil second right.members_ne_nil
        have both : barred (words ++ others) = barred words ++ .plain "|" :: barred others := by
          rw [barred, List.map_append, intercalate_append _ (by simpa) (by simpa)]
          simp [barred]
        exact congrArg Except.ok both.symm

-- Equal, but for the way in which the members of a union are paired off.
inductive Declaration.Alike : Declaration → Declaration → Prop where
  | refl {declaration : Declaration} : Alike declaration declaration
  | union {name : String} {left right : Alternatives} (members : left.members = right.members) :
      Alike (.union ⟨name, left⟩) (.union ⟨name, right⟩)

theorem Declaration.Alike.spans_eq {declaration another : Declaration}
    (alike : Alike declaration another) : declaration.spans = another.spans := by
  cases alike with
  | refl => rfl
  | union members =>
    simp only [Declaration.spans, UnionDefinition.spans, Alternatives.spans_eq, members]

-- What is written within a line breaks no line and has no colour codes of its own.
def Printable (text : List Char) : Prop := ∀ c ∈ text, 0x20 ≤ c.toNat

@[simp] theorem printable_nil : Printable [] := List.forall_mem_nil _

@[simp] theorem printable_cons {c : Char} {text : List Char} :
    Printable (c :: text) ↔ 0x20 ≤ c.toNat ∧ Printable text :=
  List.forall_mem_cons

@[simp] theorem printable_append {first second : List Char} :
    Printable (first ++ second) ↔ Printable first ∧ Printable second :=
  List.forall_mem_append

theorem Printable.lacks {text : List Char} (printable : Printable text) {c : Char}
    (control : c.toNat < 0x20) : c ∉ text := by
  intro member
  have least := printable c member
  omega

theorem printable_joined {separator : List Char} {texts : List (List Char)}
    (between : Printable separator) (each : ∀ text ∈ texts, Printable text) :
    Printable (joined separator texts) := by
  intro c inside
  rcases mem_joined inside with separates | ⟨text, member, within⟩
  · exact between c separates
  · exact each text member c within

theorem isNameContinue_printable {c : Char} (continues : isNameContinue c = true) :
    0x20 ≤ c.toNat := by
  have controls : ∀ value < 0x20, isNameContinue (Char.ofNat value) = false := by decide
  by_contra low
  have stops := controls c.toNat (by omega)
  rw [Char.ofNat_toNat, continues] at stops
  cases stops

theorem WritesName.printable {name : String} {text : List Char} (written : WritesName name text) :
    Printable text := by
  obtain ⟨valid, spelled⟩ := written.cases
  have letters : Printable name.toList :=
    fun c member => isNameContinue_printable ((isIdentifier_letters valid).2 c member)
  rcases spelled with ⟨-, rfl⟩ | ⟨-, rfl⟩
  · exact letters
  · exact printable_cons.mpr ⟨by decide, letters⟩

theorem Descriptor.printable {descriptor : Descriptor} {text : List Char}
    (written : Writes Descriptor.spans descriptor text) : Printable text := by
  induction descriptor generalizing text with
  | primitive primitive =>
    rw [writes_primitive written]
    cases primitive <;> simp [Primitive.keyword]
  | named name => exact (writes_named written).printable
  | array element ih =>
    obtain ⟨inner, within, rfl⟩ := writes_array written
    simp [ih within]
  | optional inside ih =>
    obtain ⟨inner, within, rfl⟩ := writes_optional written
    simp [ih within]
  | stream element ih =>
    obtain ⟨inner, within, rfl⟩ := writes_stream written
    simp [ih within]

theorem Alternatives.printable {alternatives : Alternatives} {text : List Char}
    (written : Writes Alternatives.spans alternatives text) : Printable text := by
  obtain ⟨words, listed, rfl⟩ := writes_alternatives written
  exact printable_joined (by simp) (forall_written listed fun _ _ _ => WritesName.printable)

theorem TypedName.printable {typed : TypedName} {text : List Char}
    (written : Writes TypedName.spans typed text) : Printable text := by
  obtain ⟨type, name, within, named, rfl⟩ := writes_typedName written
  simp [Descriptor.printable within, named.printable]

theorem Method.printable_signature {method : Method} {text : List Char}
    (written : Writes Method.signature method text) : Printable text := by
  obtain ⟨name, params, returns, named, listed, within, rfl⟩ := writes_signature written
  have between : Printable (joined [',', ' '] params) :=
    printable_joined (by simp) (forall_written listed fun _ _ _ => TypedName.printable)
  cases method.kind <;>
    simp [MethodKind.qualifiers, named.printable, between, Descriptor.printable within]

end ServiceTypes
