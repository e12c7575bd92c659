import ServiceTypes.Proofs.Source.Signatures

namespace ServiceTypes

theorem WritesLine.led {α : Type} {lead ending : List Char} {writes : α → List Char → Prop}
    {item : α} {text : List Char} (written : WritesLine lead ending writes item text) :
    lead <+: text := by
  obtain ⟨inner, -, rfl⟩ := written
  exact ⟨inner ++ ending, by rw [List.append_assoc]⟩

theorem Method.signature_led {method : Method} {text : List Char}
    (written : Writes Method.signature method text) : ['r'] <+: text := by
  obtain ⟨name, params, returns, -, -, -, rfl⟩ := writes_signature written
  cases method.kind <;> simp [MethodKind.qualifiers]

theorem fieldLine_led {field : TypedName} {text : List Char}
    (written : Writes TypedName.fieldLine field text) : "    ".toList <+: text :=
  WritesLine.led (writes_fieldLine written)

theorem includeLine_led {name : String} {text : List Char}
    (written : Writes includeLine name text) : "    *".toList <+: text :=
  WritesLine.led (writes_includeLine written)

theorem promise_led {method : Method} {text : List Char}
    (written : Writes Method.promise method text) : "    r".toList <+: text := by
  obtain ⟨signature, within, rfl⟩ := writes_promise written
  obtain ⟨tail, rfl⟩ := Method.signature_led within
  simp

theorem stub_led {method : Method} {text : List Char}
    (written : Writes Method.stub method text) : "    r".toList <+: text := by
  obtain ⟨signature, within, rfl⟩ := writes_stub written
  obtain ⟨tail, rfl⟩ := Method.signature_led within
  simp

theorem bars_separate {record another : Record} {rest remaining : List Char}
    (equal : record.bar ++ '\n' :: rest = another.bar ++ '\n' :: remaining) :
    record.closed = another.closed ∧ rest = remaining := by
  unfold Record.bar at equal
  cases closed : record.closed <;> cases also : another.closed <;>
    simp [closed, also] at equal ⊢ <;> exact equal

theorem bar_stops (record : Record) (rest : List Char) :
    Anything (record.bar ++ ("\x7d;\n".toList ++ rest)) ∧
      ¬ "    ".toList <+: record.bar ++ ("\x7d;\n".toList ++ rest) := by
  unfold Record.bar
  cases record.closed <;> simp [Anything]

theorem records_separate : Separates Anything (Writes Record.spans) Eq := by
  intro record another _ _ rest remaining written rewritten _ _ equal
  obtain ⟨name, closed, fields⟩ := record
  obtain ⟨name', closed', fields'⟩ := another
  obtain ⟨word, lines, named, listed, rfl⟩ := writes_record written
  obtain ⟨word', lines', named', listed', rfl⟩ := writes_record rewritten
  simp only [List.append_assoc, List.cons_append] at equal
  obtain ⟨rfl, bodies⟩ := names_separate named named' (by simp [isNameContinue])
    (by simp [isNameContinue]) (List.append_cancel_left equal)
  obtain ⟨rfl, inner⟩ := bars_separate (List.append_cancel_left bodies)
  obtain ⟨same, tails⟩ := fieldLines_separate.each fieldLine_led (fun _ => trivial)
    ⟨_, listed, rfl⟩ ⟨_, listed', rfl⟩ (bar_stops _ _) (bar_stops _ _) inner
  obtain rfl : fields = fields' := List.forall₂_eq_eq_eq ▸ same
  exact ⟨rfl, List.append_cancel_left (List.append_cancel_left tails)⟩

def LastInclude (rest : List Char) : Prop := ¬ "    *".toList <+: rest

-- The lines between the braces of a contract or of a class. No method is taken for an include:
-- its line goes on with a letter.
theorem bodies_separate {writes : Method → List Char → Prop} (one : Separates Anything writes Eq)
    (led : ∀ {method text}, writes method text → "    r".toList <+: text) {ending : List Char}
    (closing : ['\x7d'] <+: ending) {includes includes' : List String}
    {methods methods' : List Method} {first first' second second' : List (List Char)}
    {rest remaining : List Char} (included : List.Forall₂ (Writes includeLine) includes first)
    (included' : List.Forall₂ (Writes includeLine) includes' first')
    (listed : List.Forall₂ writes methods second) (listed' : List.Forall₂ writes methods' second')
    (equal : first.flatten ++ (second.flatten ++ (ending ++ rest)) =
      first'.flatten ++ (second'.flatten ++ (ending ++ remaining))) :
    includes = includes' ∧ methods = methods' ∧ rest = remaining := by
  obtain ⟨tail, rfl⟩ := closing
  have closed : ∀ rest, ¬ "    r".toList <+: ['\x7d'] ++ tail ++ rest := by simp
  have follow : ∀ {methods texts rest}, List.Forall₂ writes methods texts →
      Anything (texts.flatten ++ (['\x7d'] ++ tail ++ rest)) ∧
        LastInclude (texts.flatten ++ (['\x7d'] ++ tail ++ rest)) := by
    intro methods texts rest lines
    refine ⟨trivial, mayFollow_each led ?_ lines ?_⟩ <;> simp [LastInclude]
  obtain ⟨same, behind⟩ := includeLines_separate.each includeLine_led (fun _ => trivial)
    ⟨_, included, rfl⟩ ⟨_, included', rfl⟩ (follow listed) (follow listed') equal
  obtain ⟨alike, ends⟩ := one.each led (fun _ => trivial) ⟨_, listed, rfl⟩ ⟨_, listed', rfl⟩
    ⟨trivial, closed rest⟩ ⟨trivial, closed remaining⟩ behind
  exact ⟨List.forall₂_eq_eq_eq ▸ same, List.forall₂_eq_eq_eq ▸ alike, List.append_cancel_left ends⟩

theorem contracts_separate : Separates Anything (Writes ServiceContract.spans) Eq := by
  intro contract another _ _ rest remaining written rewritten _ _ equal
  obtain ⟨name, includes, methods⟩ := contract
  obtain ⟨name', includes', methods'⟩ := another
  obtain ⟨word, first, second, named, led, listed, rfl⟩ := writes_contract written
  obtain ⟨word', first', second', named', led', listed', rfl⟩ := writes_contract rewritten
  simp only [List.append_assoc] at equal
  obtain ⟨rfl, behind⟩ := names_separate named named' (by simp [isNameContinue])
    (by simp [isNameContinue]) (List.append_cancel_left equal)
  obtain ⟨rfl, rfl, ends⟩ := bodies_separate promises_separate promise_led (by simp) led led'
    listed listed' (List.append_cancel_left behind)
  exact ⟨rfl, ends⟩

theorem distinct_separates {one other : Bool} {rest remaining : List Char}
    (equal : (if one then "distinct ".toList else []) ++ ("service class ".toList ++ rest) =
      (if other then "distinct ".toList else []) ++ ("service class ".toList ++ remaining)) :
    one = other ∧ rest = remaining := by
  cases one <;> cases other <;> simp at equal ⊢ <;> exact equal

theorem classes_separate : Separates Anything (Writes ServiceClass.spans) Eq := by
  intro service another _ _ rest remaining written rewritten _ _ equal
  obtain ⟨name, distinct, includes, methods⟩ := service
  obtain ⟨name', distinct', includes', methods'⟩ := another
  obtain ⟨word, first, second, named, led, listed, rfl⟩ := writes_class written
  obtain ⟨word', first', second', named', led', listed', rfl⟩ := writes_class rewritten
  simp only [List.append_assoc] at equal
  obtain ⟨rfl, headers⟩ := distinct_separates equal
  obtain ⟨rfl, behind⟩ := names_separate named named' (by simp [isNameContinue])
    (by simp [isNameContinue]) headers
  obtain ⟨rfl, rfl, ends⟩ := bodies_separate stubs_separate stub_led (by simp) led led' listed
    listed' (List.append_cancel_left behind)
  exact ⟨rfl, ends⟩

-- Any two bases could be taken one for the other; the same base tells nothing.
theorem roots_separate {base : String} :
    Separates Anything (fun contract text => contract.base = base ∧
      Writes RootContract.spans contract text) Eq := by
  intro contract another _ _ rest remaining first second _ _ equal
  obtain ⟨name, base, methods⟩ := contract
  obtain ⟨name', base', methods'⟩ := another
  obtain ⟨based, written⟩ := first
  obtain ⟨rfl, rewritten⟩ := second
  obtain rfl : base = base' := based
  obtain ⟨word, lines, named, listed, rfl⟩ := writes_root written
  obtain ⟨word', lines', named', listed', rfl⟩ := writes_root rewritten
  simp only [List.append_assoc, List.cons_append] at equal
  obtain ⟨rfl, behind⟩ := names_separate named named' (by simp [isNameContinue])
    (by simp [isNameContinue]) (List.append_cancel_left equal)
  have inner := List.append_cancel_left (List.append_cancel_left behind)
  have lines := (List.cons.inj (List.cons.inj inner).2).2
  obtain ⟨same, ends⟩ := promises_separate.each promise_led (fun _ => trivial) ⟨_, listed, rfl⟩
    ⟨_, listed', rfl⟩ ⟨trivial, by simp⟩ ⟨trivial, by simp⟩ lines
  obtain rfl : methods = methods' := List.forall₂_eq_eq_eq ▸ same
  exact ⟨rfl, List.append_cancel_left ends⟩

theorem unions_separate :
    Separates Anything (Writes UnionDefinition.spans) fun union other =>
      union.name = other.name ∧ union.alternatives.members = other.alternatives.members := by
  intro union another _ _ rest remaining written rewritten _ _ equal
  obtain ⟨name, alternatives⟩ := union
  obtain ⟨name', alternatives'⟩ := another
  obtain ⟨word, words, named, listed, rfl⟩ := writes_union written
  obtain ⟨word', words', named', listed', rfl⟩ := writes_union rewritten
  simp only [List.append_assoc, List.cons_append] at equal
  obtain ⟨rfl, behind⟩ := names_separate named named' (by simp [isNameContinue])
    (by simp [isNameContinue]) (List.append_cancel_left equal)
  have begun : ∀ {name text}, WritesName name text →
      ∃ c rest, text = c :: rest ∧ isWordStart c = true :=
    fun written => (WritesWord.name written).begins
  have ends : ∀ rest : List Char, Stops isNameContinue ([';', '\n'] ++ rest) ∧
      ¬ ['|'] <+: [';', '\n'] ++ rest ∧ Stops isWordStart ([';', '\n'] ++ rest) := by
    simp [isNameContinue, isWordStart]
  obtain ⟨same, tails⟩ := names_separate.joined begun (by simp [isNameContinue]) ⟨_, listed, rfl⟩
    ⟨_, listed', rfl⟩ (ends rest) (ends remaining) (List.cons.inj behind).2
  exact ⟨⟨rfl, List.forall₂_eq_eq_eq ▸ same⟩, List.append_cancel_left tails⟩

def lineEnd (words : List (List Char)) : List Char := if words.isEmpty then [] else ['\n']

theorem lineEnd_ends (words : List (List Char)) (rest : List Char) :
    Stops isNameContinue (lineEnd words ++ ("\x7d\n".toList ++ rest)) ∧
      ¬ [',', '\n'] <+: lineEnd words ++ ("\x7d\n".toList ++ rest) ∧
      Stops (· == ' ') (lineEnd words ++ ("\x7d\n".toList ++ rest)) := by
  cases words <;> simp [lineEnd, isNameContinue]

theorem lineEnd_eq {names : List String} {words words' : List (List Char)}
    (listed : List.Forall₂ WritesName names words)
    (listed' : List.Forall₂ WritesName names words') : lineEnd words = lineEnd words' := by
  cases listed with
  | nil => cases listed'; rfl
  | cons _ _ => cases listed'; rfl

theorem enums_separate : Separates Anything (Writes EnumDefinition.spans) Eq := by
  intro enum another _ _ rest remaining written rewritten _ _ equal
  obtain ⟨name, members⟩ := enum
  obtain ⟨name', members'⟩ := another
  obtain ⟨word, words, named, listed, rfl⟩ := writes_enum written
  obtain ⟨word', words', named', listed', rfl⟩ := writes_enum rewritten
  simp only [List.append_assoc] at equal
  obtain ⟨rfl, behind⟩ := names_separate named named' (by simp [isNameContinue])
    (by simp [isNameContinue]) (List.append_cancel_left equal)
  have indented : ∀ {names words}, List.Forall₂ WritesName names words →
      List.Forall₂ (WritesAfter "    ".toList WritesName) names
        (words.map ("    ".toList ++ ·)) := by
    intro names words listed
    exact List.forall₂_map_right_iff.mpr (listed.imp fun _ text written => ⟨text, written, rfl⟩)
  have begun : ∀ {name text}, WritesAfter "    ".toList WritesName name text →
      ∃ c rest, text = c :: rest ∧ (c == ' ') = true := by
    intro name _ written
    obtain ⟨inner, -, rfl⟩ := written
    exact ⟨' ', _, rfl, rfl⟩
  obtain ⟨same, tails⟩ := (names_separate.after "    ".toList).joined begun
    (by simp [isNameContinue]) ⟨_, indented listed, rfl⟩ ⟨_, indented listed', rfl⟩
    (lineEnd_ends words rest) (lineEnd_ends words' remaining) (List.append_cancel_left behind)
  obtain rfl : members = members' := List.forall₂_eq_eq_eq ▸ same
  rw [lineEnd_eq listed listed'] at tails
  exact ⟨rfl, List.append_cancel_left (List.append_cancel_left tails)⟩

end ServiceTypes
