import ServiceTypes.Proofs.Source.Grammar

namespace ServiceTypes

-- What follows does not go on with the run that stands before it.
def Stops (continues : Char → Bool) (rest : List Char) : Prop :=
  ∀ c ∈ rest.head?, continues c = false

@[simp] theorem stops_nil {continues : Char → Bool} : Stops continues [] := by simp [Stops]

@[simp] theorem stops_cons {continues : Char → Bool} {c : Char} {rest : List Char} :
    Stops continues (c :: rest) ↔ continues c = false := by
  simp [Stops]

-- Texts say what they were written for and where they end, as long as the following text may
-- stand there. `same` is what they say: equality, except where a union is involved.
def Separates {α : Type} (mayFollow : List Char → Prop) (writes : α → List Char → Prop)
    (same : α → α → Prop) : Prop :=
  ∀ ⦃x y text other rest remaining⦄, writes x text → writes y other → mayFollow rest →
    mayFollow remaining → text ++ rest = other ++ remaining → same x y ∧ rest = remaining

theorem Separates.imp {α : Type} {mayFollow : List Char → Prop}
    {strong weak : α → List Char → Prop} {same : α → α → Prop}
    (one : Separates mayFollow weak same)
    (given : ∀ ⦃item text⦄, strong item text → weak item text) :
    Separates mayFollow strong same :=
  fun _ _ _ _ _ _ written rewritten => one (given written) (given rewritten)

theorem takeWhile_run {continues : Char → Bool} {run rest : List Char}
    (all : ∀ c ∈ run, continues c = true) (stop : Stops continues rest) :
    (run ++ rest).takeWhile continues = run := by
  rw [List.takeWhile_append_of_pos all]
  cases rest with
  | nil => simp
  | cons c cs => simp [stops_cons.mp stop]

theorem run_separates {continues : Char → Bool} :
    Separates (Stops continues)
      (fun run text => (∀ c ∈ run, continues c = true) ∧ run = text) Eq := by
  intro run other _ _ rest remaining written rewritten stop halt equal
  obtain ⟨all, rfl⟩ := written
  obtain ⟨every, rfl⟩ := rewritten
  have runs : run = other := by
    rw [← takeWhile_run all stop, equal, takeWhile_run every halt]
  subst runs
  exact ⟨rfl, List.append_cancel_left equal⟩

def WritesAfter {α : Type} (lead : List Char) (writes : α → List Char → Prop) (item : α)
    (text : List Char) : Prop :=
  ∃ inner, writes item inner ∧ lead ++ inner = text

def WritesLine {α : Type} (lead ending : List Char) (writes : α → List Char → Prop) (item : α)
    (text : List Char) : Prop :=
  ∃ inner, writes item inner ∧ text = lead ++ inner ++ ending

def Anything (_ : List Char) : Prop := True

def WritesEach {α : Type} (writes : α → List Char → Prop) (items : List α) (text : List Char) :
    Prop :=
  ∃ texts, List.Forall₂ writes items texts ∧ texts.flatten = text

def WritesJoined {α : Type} (separator : List Char) (writes : α → List Char → Prop)
    (items : List α) (text : List Char) : Prop :=
  ∃ texts, List.Forall₂ writes items texts ∧ joined separator texts = text

section Lists

variable {α : Type} {mayFollow : List Char → Prop} {writes : α → List Char → Prop}
  {same : α → α → Prop} {lead : List Char}

theorem mayFollow_each (led : ∀ {item text}, writes item text → lead <+: text)
    (between : ∀ rest, mayFollow (lead ++ rest)) {items : List α} {texts : List (List Char)}
    {rest : List Char} (written : List.Forall₂ writes items texts) (last : mayFollow rest) :
    mayFollow (texts.flatten ++ rest) := by
  cases written with
  | nil => exact last
  | cons first _ =>
    obtain ⟨tail, rfl⟩ := led first
    rw [List.flatten_cons, List.append_assoc, List.append_assoc]
    exact between _

theorem Separates.each (one : Separates mayFollow writes same)
    (led : ∀ {item text}, writes item text → lead <+: text)
    (between : ∀ rest, mayFollow (lead ++ rest)) :
    Separates (fun rest => mayFollow rest ∧ ¬ lead <+: rest) (WritesEach writes)
      (List.Forall₂ same) := by
  intro items others _ _ rest remaining list relist ends finishes equal
  obtain ⟨texts, written, rfl⟩ := list
  obtain ⟨further, rewritten, rfl⟩ := relist
  obtain ⟨last, noMore⟩ := ends
  obtain ⟨final, noneLeft⟩ := finishes
  -- The lead tells one more item from the end of the list.
  induction written generalizing others further with
  | nil =>
    cases rewritten with
    | nil => exact ⟨.nil, equal⟩
    | cons first _ =>
      rw [List.flatten_nil, List.nil_append, List.flatten_cons, List.append_assoc] at equal
      exact absurd (equal ▸ (led first).trans (List.prefix_append _ _)) noMore
  | cons first later ih =>
    rw [List.flatten_cons, List.append_assoc] at equal
    cases rewritten with
    | nil =>
      rw [List.flatten_nil, List.nil_append] at equal
      exact absurd (equal ▸ (led first).trans (List.prefix_append _ _)) noneLeft
    | cons second further =>
      rw [List.flatten_cons, List.append_assoc] at equal
      obtain ⟨heads, tails⟩ := one first second (mayFollow_each led between later last)
        (mayFollow_each led between further final) equal
      obtain ⟨below, ends⟩ := ih _ further tails
      exact ⟨.cons heads below, ends⟩

theorem Separates.after (one : Separates mayFollow writes same) (lead : List Char) :
    Separates mayFollow (WritesAfter lead writes) same := by
  intro x y _ _ rest remaining led reled last final equal
  obtain ⟨text, written, rfl⟩ := led
  obtain ⟨other, rewritten, rfl⟩ := reled
  rw [List.append_assoc, List.append_assoc] at equal
  exact one written rewritten last final (List.append_cancel_left equal)

theorem Separates.line (one : Separates mayFollow writes same) {ending : List Char}
    (closes : ∀ rest, mayFollow (ending ++ rest)) :
    Separates Anything (WritesLine lead ending writes) same := by
  intro x y _ _ rest remaining line reline _ _ equal
  obtain ⟨text, written, rfl⟩ := line
  obtain ⟨other, rewritten, rfl⟩ := reline
  simp only [List.append_assoc] at equal
  obtain ⟨items, ends⟩ := one written rewritten (closes rest) (closes remaining)
    (List.append_cancel_left equal)
  exact ⟨items, List.append_cancel_left ends⟩

theorem Separates.joined (one : Separates mayFollow writes same) {begins : Char → Bool}
    (begun : ∀ {item text}, writes item text → ∃ c rest, text = c :: rest ∧ begins c = true)
    (between : ∀ rest, mayFollow (lead ++ rest)) :
    Separates (fun rest => mayFollow rest ∧ ¬ lead <+: rest ∧ Stops begins rest)
      (WritesJoined lead writes) (List.Forall₂ same) := by
  -- An item begins as no following text does, so an empty list is told from the others.
  have led : ∀ {item text}, WritesAfter lead writes item text → lead <+: text := by
    intro item _ written
    obtain ⟨inner, -, rfl⟩ := written
    exact List.prefix_append _ _
  have separated : ∀ {items texts}, List.Forall₂ writes items texts →
      List.Forall₂ (WritesAfter lead writes) items (texts.map (lead ++ ·)) := by
    intro items texts written
    exact List.forall₂_map_right_iff.mpr (written.imp fun _ text once => ⟨text, once, rfl⟩)
  intro items others _ _ rest remaining list relist ends finishes equal
  obtain ⟨texts, written, rfl⟩ := list
  obtain ⟨further, rewritten, rfl⟩ := relist
  obtain ⟨last, noMore, ended⟩ := ends
  obtain ⟨final, noneLeft, finished⟩ := finishes
  cases written with
  | nil =>
    cases rewritten with
    | nil => exact ⟨.nil, equal⟩
    | cons first _ =>
      obtain ⟨c, tail, rfl, begin⟩ := begun first
      subst equal
      exact absurd (stops_cons.mp ended) (by simp [begin])
  | cons first later =>
    cases rewritten with
    | nil =>
      obtain ⟨c, tail, rfl, begin⟩ := begun first
      subst equal
      exact absurd (stops_cons.mp finished) (by simp [begin])
    | cons second others =>
      rw [ServiceTypes.joined, ServiceTypes.joined, List.append_assoc, List.append_assoc] at equal
      obtain ⟨heads, tails⟩ := one first second
        (mayFollow_each led between (separated later) last)
        (mayFollow_each led between (separated others) final) equal
      obtain ⟨below, ends⟩ := (one.after lead).each led between ⟨_, separated later, rfl⟩
        ⟨_, separated others, rfl⟩ ⟨last, noMore⟩ ⟨final, noneLeft⟩ tails
      exact ⟨.cons heads below, ends⟩

end Lists

-- A word of the language, or a name. Written bare, one is never taken for the other.
inductive Word where
  | reserved (letters : String)
  | name (letters : String)
  deriving DecidableEq

inductive WritesWord : Word → List Char → Prop where
  | reserved {letters : String} (known : letters ∈ reservedWords) :
      WritesWord (.reserved letters) letters.toList
  | name {letters : String} {text : List Char} (written : WritesName letters text) :
      WritesWord (.name letters) text

def Word.bare (letters : String) : Word :=
  if letters ∈ reservedWords then .reserved letters else .name letters

theorem reserved_valid : ∀ word ∈ reservedWords, isIdentifier word = true := by
  decide +kernel

theorem WritesWord.cases {word : Word} {text : List Char} (written : WritesWord word text) :
    ∃ letters : String, letters.toList ≠ [] ∧ (∀ c ∈ letters.toList, isNameContinue c = true) ∧
      (word = Word.bare letters ∧ text = letters.toList ∨
        word = .name letters ∧ text = '\'' :: letters.toList) := by
  cases written with
  | @reserved letters known =>
    obtain ⟨full, all⟩ := isIdentifier_letters (reserved_valid letters known)
    exact ⟨letters, full, all, .inl ⟨by simp [Word.bare, known], rfl⟩⟩
  | @name letters _ written =>
    obtain ⟨valid, spelled⟩ := written.cases
    obtain ⟨full, all⟩ := isIdentifier_letters valid
    refine ⟨letters, full, all, spelled.imp ?_ ?_⟩
    · exact fun ⟨free, text⟩ => ⟨by simp [Word.bare, free], text⟩
    · exact fun ⟨_, text⟩ => ⟨rfl, text⟩

def isWordStart (c : Char) : Bool := isNameContinue c || c == '\''

theorem WritesWord.begins {word : Word} {text : List Char} (written : WritesWord word text) :
    ∃ c rest, text = c :: rest ∧ isWordStart c = true := by
  obtain ⟨letters, full, all, spelled⟩ := written.cases
  rcases spelled with ⟨-, rfl⟩ | ⟨-, rfl⟩
  · obtain ⟨c, cs, spelled⟩ := List.exists_cons_of_ne_nil full
    exact ⟨c, cs, spelled, by simp [isWordStart, all c (by simp [spelled])]⟩
  · exact ⟨_, _, rfl, by decide⟩

theorem bare_ne_quoted {letters other : String} (full : letters.toList ≠ [])
    (all : ∀ c ∈ letters.toList, isNameContinue c = true) (rest remaining : List Char) :
    letters.toList ++ rest ≠ '\'' :: other.toList ++ remaining := by
  intro equal
  obtain ⟨c, cs, spelled⟩ := List.exists_cons_of_ne_nil full
  rw [spelled, List.cons_append, List.cons_append] at equal
  have first := all c (by simp [spelled])
  rw [(List.cons.inj equal).1] at first
  exact absurd first (by decide)

theorem words_separate : Separates (Stops isNameContinue) WritesWord Eq := by
  intro word another text other rest remaining written rewritten stop halt equal
  obtain ⟨letters, full, all, spelled⟩ := written.cases
  obtain ⟨others, filled, every, respelled⟩ := rewritten.cases
  rcases spelled with ⟨rfl, rfl⟩ | ⟨rfl, rfl⟩
  · rcases respelled with ⟨rfl, rfl⟩ | ⟨rfl, rfl⟩
    · obtain ⟨same, ends⟩ := run_separates ⟨all, rfl⟩ ⟨every, rfl⟩ stop halt equal
      exact ⟨congrArg Word.bare (String.toList_inj.mp same), ends⟩
    · exact absurd equal (bare_ne_quoted full all rest remaining)
  · rcases respelled with ⟨rfl, rfl⟩ | ⟨rfl, rfl⟩
    · exact absurd equal.symm (bare_ne_quoted filled every remaining rest)
    · obtain ⟨same, ends⟩ := run_separates ⟨all, rfl⟩ ⟨every, rfl⟩ stop halt
        (List.cons.inj equal).2
      exact ⟨congrArg Word.name (String.toList_inj.mp same), ends⟩

theorem names_separate : Separates (Stops isNameContinue) WritesName Eq := by
  intro name another text other rest remaining written rewritten stop halt equal
  obtain ⟨same, ends⟩ := words_separate (.name written) (.name rewritten) stop halt equal
  exact ⟨Word.name.inj same, ends⟩

end ServiceTypes
