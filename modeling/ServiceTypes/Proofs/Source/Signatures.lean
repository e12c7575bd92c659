import ServiceTypes.Proofs.Source.Separation

namespace ServiceTypes

inductive Mark where
  | array | optional
  deriving DecidableEq

def Mark.text : Mark → List Char
  | array => ['[', ']']
  | optional => ['?']

def isMarkStart (c : Char) : Bool := c == '[' || c == '?'

def isTypeContinue (c : Char) : Bool := isNameContinue c || isMarkStart c

theorem Stops.weaken {strong weak : Char → Bool} {rest : List Char} (stop : Stops strong rest)
    (below : ∀ c, weak c = true → strong c = true) : Stops weak rest := by
  intro c first
  cases continues : weak c with
  | false => rfl
  | true => exact absurd (below c continues) (by simp [stop c first])

theorem Stops.name {rest : List Char} (stop : Stops isTypeContinue rest) :
    Stops isNameContinue rest :=
  stop.weaken fun _ continues => by simp [isTypeContinue, continues]

theorem Stops.mark {rest : List Char} (stop : Stops isTypeContinue rest) :
    Stops isMarkStart rest :=
  stop.weaken fun _ continues => by simp [isTypeContinue, continues]

def WritesMarks (marks : List Mark) (text : List Char) : Prop :=
  (marks.map Mark.text).flatten = text

theorem marks_separate : Separates (Stops isMarkStart) WritesMarks Eq := by
  rintro marks others _ _ rest remaining rfl rfl stop halt equal
  induction marks generalizing others with
  | nil =>
    cases others with
    | nil => exact ⟨rfl, equal⟩
    | cons mark others =>
      rw [List.map_nil, List.flatten_nil, List.nil_append] at equal
      subst equal
      cases mark <;> simp [Mark.text, isMarkStart] at stop
  | cons mark marks ih =>
    cases others with
    | nil =>
      rw [List.map_nil, List.flatten_nil, List.nil_append] at equal
      subst equal
      cases mark <;> simp [Mark.text, isMarkStart] at halt
    | cons other others =>
      have first : mark = other := by
        cases mark <;> cases other <;> first | rfl | simp [Mark.text] at equal
      subst first
      simp only [List.map_cons, List.flatten_cons, List.append_assoc] at equal
      obtain ⟨rfl, ends⟩ := ih (List.append_cancel_left equal)
      exact ⟨rfl, ends⟩

namespace Descriptor

-- A descriptor is its core, which is no array and no option, and the marks behind it.
def core : Descriptor → Descriptor
  | array element => element.core
  | optional inner => inner.core
  | descriptor => descriptor

def marks : Descriptor → List Mark
  | array element => element.marks ++ [.array]
  | optional inner => inner.marks ++ [.optional]
  | _ => []

def marked (descriptor : Descriptor) : Mark → Descriptor
  | .array => array descriptor
  | .optional => optional descriptor

theorem core_marked (descriptor : Descriptor) :
    descriptor.marks.foldl marked descriptor.core = descriptor := by
  induction descriptor with
  | array element ih | optional inner ih => simp [marks, core, ih, marked]
  | primitive _ | named _ | stream _ _ => rfl

inductive Opens : Descriptor → Word → List Char → Prop where
  | primitive {primitive : Primitive} :
      Opens (.primitive primitive) (.reserved primitive.keyword) []
  | named {name : String} : Opens (.named name) (.name name) []
  | stream {element : Descriptor} {inner : List Char} (within : Writes spans element inner) :
      Opens (.stream element) (.reserved "stream") ('<' :: inner ++ ['>'])

theorem writes_cases {descriptor : Descriptor} {text : List Char}
    (written : Writes spans descriptor text) :
    ∃ word letters behind, WritesWord word letters ∧ Opens descriptor.core word behind ∧
      text = letters ++ behind ++ (descriptor.marks.map Mark.text).flatten := by
  induction descriptor generalizing text with
  | primitive primitive =>
    have known : primitive.keyword ∈ reservedWords := by cases primitive <;> decide
    exact ⟨_, _, _, .reserved known, .primitive, by simp [writes_primitive written, marks]⟩
  | named name => exact ⟨_, _, _, .name (writes_named written), .named, by simp [marks]⟩
  | stream element _ =>
    obtain ⟨inner, within, rfl⟩ := writes_stream written
    exact ⟨_, _, _, .reserved (by decide), .stream within, by simp [marks]⟩
  | array element ih =>
    obtain ⟨inner, within, rfl⟩ := writes_array written
    obtain ⟨word, letters, behind, first, opens, rfl⟩ := ih within
    exact ⟨word, letters, behind, first, opens, by simp [marks, Mark.text]⟩
  | optional inside ih =>
    obtain ⟨inner, within, rfl⟩ := writes_optional written
    obtain ⟨word, letters, behind, first, opens, rfl⟩ := ih within
    exact ⟨word, letters, behind, first, opens, by simp [marks, Mark.text]⟩

theorem Opens.stops {core : Descriptor} {word : Word} {behind rest : List Char}
    (opens : Opens core word behind) (stop : Stops isNameContinue rest) :
    Stops isNameContinue (behind ++ rest) := by
  cases opens with
  | primitive | named => exact stop
  | stream _ => exact stops_cons.mpr (by decide)

theorem marks_stop (marks : List Mark) {rest : List Char} (stop : Stops isNameContinue rest) :
    Stops isNameContinue ((marks.map Mark.text).flatten ++ rest) := by
  cases marks with
  | nil => exact stop
  | cons mark _ => cases mark <;> simp [Mark.text, isNameContinue, Char.isAlphanum]

theorem keyword_injective {one other : Primitive} (same : one.keyword = other.keyword) :
    one = other := by
  cases one <;> cases other <;> simp [Primitive.keyword] at same ⊢

-- Behind the same first word, a core is read back from what follows.
def CoreSeparates (descriptor : Descriptor) : Prop :=
  ∀ ⦃core word behind other rest remaining⦄, Opens descriptor.core word behind →
    Opens core word other → behind ++ rest = other ++ remaining →
    descriptor.core = core ∧ rest = remaining

theorem CoreSeparates.full {descriptor another : Descriptor} (inside : CoreSeparates descriptor)
    {text other rest remaining : List Char} (written : Writes spans descriptor text)
    (rewritten : Writes spans another other) (stop : Stops isTypeContinue rest)
    (halt : Stops isTypeContinue remaining) (equal : text ++ rest = other ++ remaining) :
    descriptor = another ∧ rest = remaining := by
  obtain ⟨word, letters, behind, first, opens, rfl⟩ := writes_cases written
  obtain ⟨word', letters', behind', first', opens', rfl⟩ := writes_cases rewritten
  simp only [List.append_assoc] at equal
  obtain ⟨rfl, behinds⟩ := words_separate first first' (opens.stops (marks_stop _ stop.name))
    (opens'.stops (marks_stop _ halt.name)) equal
  obtain ⟨cores, tails⟩ := inside opens opens' behinds
  obtain ⟨marks, ends⟩ := marks_separate rfl rfl stop.mark halt.mark tails
  refine ⟨?_, ends⟩
  rw [← core_marked descriptor, ← core_marked another, cores, marks]

theorem coreSeparates (descriptor : Descriptor) : CoreSeparates descriptor := by
  induction descriptor with
  | array element ih | optional inner ih => exact ih
  -- The word in front tells the three kinds of core apart: no name is reserved, no primitive a
  -- stream.
  | primitive primitive =>
    intro core word behind other rest remaining opens reopens equal
    cases opens
    generalize named : Word.reserved primitive.keyword = word at reopens
    cases reopens with
    | primitive => exact ⟨congrArg _ (keyword_injective (Word.reserved.inj named)), equal⟩
    | named => cases named
    | stream _ => cases primitive <;> simp [Primitive.keyword] at named
  | named name =>
    intro core word behind other rest remaining opens reopens equal
    cases opens
    cases reopens
    exact ⟨rfl, equal⟩
  | stream element ih =>
    intro core word behind other rest remaining opens reopens equal
    cases opens with
    | @stream _ inner within =>
      generalize named : Word.reserved "stream" = word at reopens
      cases reopens with
      | @primitive primitive => cases primitive <;> simp [Primitive.keyword] at named
      | named => cases named
      | stream within' =>
        simp only [List.cons_append, List.append_assoc] at equal
        obtain ⟨rfl, closed⟩ := ih.full within within' (stops_cons.mpr (by decide))
          (stops_cons.mpr (by decide)) (List.cons.inj equal).2
        exact ⟨rfl, (List.cons.inj closed).2⟩

end Descriptor

theorem descriptors_separate : Separates (Stops isTypeContinue) (Writes Descriptor.spans) Eq :=
  fun descriptor _ _ _ _ _ => (Descriptor.coreSeparates descriptor).full

theorem Descriptor.begins {descriptor : Descriptor} {text : List Char}
    (written : Writes Descriptor.spans descriptor text) :
    ∃ c rest, text = c :: rest ∧ isWordStart c = true := by
  obtain ⟨word, letters, behind, first, -, rfl⟩ := writes_cases written
  obtain ⟨c, rest, rfl, begin⟩ := first.begins
  exact ⟨c, _, rfl, begin⟩

theorem typedNames_separate : Separates (Stops isNameContinue) (Writes TypedName.spans) Eq := by
  intro typed another _ _ rest remaining written rewritten stop halt equal
  obtain ⟨name, type⟩ := typed
  obtain ⟨name', type'⟩ := another
  obtain ⟨letters, word, within, named, rfl⟩ := writes_typedName written
  obtain ⟨letters', word', within', named', rfl⟩ := writes_typedName rewritten
  simp only [List.append_assoc, List.cons_append] at equal
  obtain ⟨rfl, behind⟩ := descriptors_separate within within' (stops_cons.mpr (by decide))
    (stops_cons.mpr (by decide)) equal
  obtain ⟨rfl, ends⟩ := names_separate named named' stop halt (List.cons.inj behind).2
  exact ⟨rfl, ends⟩

theorem TypedName.begins {typed : TypedName} {text : List Char}
    (written : Writes TypedName.spans typed text) :
    ∃ c rest, text = c :: rest ∧ isWordStart c = true := by
  obtain ⟨type, name, within, -, rfl⟩ := writes_typedName written
  obtain ⟨c, rest, rfl, begin⟩ := Descriptor.begins within
  exact ⟨c, _, rfl, begin⟩

theorem qualifiers_separate {one other : MethodKind} {rest remaining : List Char}
    (equal : one.qualifiers.toList ++ ' ' :: rest = other.qualifiers.toList ++ ' ' :: remaining) :
    one = other ∧ rest = remaining := by
  have kinds : one = other := by
    cases one <;> cases other <;> first | rfl | simp [MethodKind.qualifiers] at equal
  subst kinds
  exact ⟨rfl, (List.cons.inj (List.append_cancel_left equal)).2⟩

theorem signatures_separate : Separates (Stops isTypeContinue) (Writes Method.signature) Eq := by
  intro method another _ _ rest remaining written rewritten stop halt equal
  obtain ⟨kind, name, params, returns⟩ := method
  obtain ⟨kind', name', params', returns'⟩ := another
  obtain ⟨word, listed, type, named, each, within, rfl⟩ := writes_signature written
  obtain ⟨word', listed', type', named', each', within', rfl⟩ := writes_signature rewritten
  simp only [List.append_assoc, List.cons_append] at equal
  obtain ⟨rfl, names⟩ := qualifiers_separate equal
  obtain ⟨rfl, lists⟩ := names_separate named named' (stops_cons.mpr (by decide))
    (stops_cons.mpr (by decide)) names
  have between : ∀ rest, Stops isNameContinue ([',', ' '] ++ rest) :=
    fun _ => stops_cons.mpr (by decide)
  have closes : ∀ rest, Stops isNameContinue (") returns ".toList ++ rest) ∧
      ¬ [',', ' '] <+: ") returns ".toList ++ rest ∧
      Stops isWordStart (") returns ".toList ++ rest) :=
    fun _ => ⟨stops_cons.mpr (by decide), by simp, stops_cons.mpr (by decide)⟩
  obtain ⟨same, types⟩ := typedNames_separate.joined TypedName.begins between ⟨_, each, rfl⟩
    ⟨_, each', rfl⟩ (closes _) (closes _) (List.cons.inj lists).2
  obtain ⟨rfl, ends⟩ := descriptors_separate within within' stop halt
    (List.append_cancel_left types)
  obtain rfl : params = params' := List.forall₂_eq_eq_eq ▸ same
  exact ⟨rfl, ends⟩

theorem fieldLines_separate : Separates Anything (Writes TypedName.fieldLine) Eq :=
  (typedNames_separate.line fun _ => stops_cons.mpr (by decide)).imp fun _ _ => writes_fieldLine

theorem promises_separate : Separates Anything (Writes Method.promise) Eq :=
  (signatures_separate.line fun _ => stops_cons.mpr (by decide)).imp fun _ _ => writes_promise

theorem stubs_separate : Separates Anything (Writes Method.stub) Eq :=
  (signatures_separate.line fun _ => stops_cons.mpr (by decide)).imp fun _ _ => writes_stub

theorem includeLines_separate : Separates Anything (Writes includeLine) Eq :=
  (names_separate.line fun _ => stops_cons.mpr (by decide)).imp fun _ _ => writes_includeLine

end ServiceTypes
