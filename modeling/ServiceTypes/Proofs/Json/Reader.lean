import ServiceTypes.Proofs.Json.Written

namespace ServiceTypes.Json

-- A reader takes text from the front and says what is left of it. It knows all escapes, not just
-- those that are written, and allows blanks wherever they may stand.
abbrev Reading (α : Type) := List Char → Option (α × List Char)

def isBlank (c : Char) : Bool := c == ' ' || c == '\n' || c == '\r' || c == '\t'

def skip (text : List Char) : List Char := text.dropWhile isBlank

def hexValue? (digit : Char) : Option Nat :=
  if '0' ≤ digit && digit ≤ '9' then some (digit.toNat - '0'.toNat)
  else if 'a' ≤ digit && digit ≤ 'f' then some (digit.toNat - 'a'.toNat + 10)
  else if 'A' ≤ digit && digit ≤ 'F' then some (digit.toNat - 'A'.toNat + 10)
  else none

def character? (digits : List Char) : Option Char := do
  let values ← digits.mapM hexValue?
  let number := values.foldl (fun number value => 16 * number + value) 0
  if number.isValidChar then return Char.ofNat number else none

def escaped? : Char → Option Char
  | '"' => some '"'
  | '\\' => some '\\'
  | '/' => some '/'
  | 'b' => some '\x08'
  | 'f' => some '\x0c'
  | 'n' => some '\n'
  | 'r' => some '\r'
  | 't' => some '\t'
  | _ => none

def readText : Reading (List Char)
  | [] => none
  | '"' :: rest => some ([], rest)
  | '\\' :: 'u' :: first :: second :: third :: fourth :: rest => do
    let letter ← character? [first, second, third, fourth]
    let (letters, rest) ← readText rest
    return (letter :: letters, rest)
  | '\\' :: c :: rest => do
    let letter ← escaped? c
    let (letters, rest) ← readText rest
    return (letter :: letters, rest)
  | c :: rest => do
    if c.toNat < 0x20 then none
    let (letters, rest) ← readText rest
    return (c :: letters, rest)

section Lists

variable {α : Type} (closing : Char) (item : Reading α)

def readMore : Nat → Reading (List α)
  | 0, _ => none
  | room + 1, text => match skip text with
    | [] => none
    | c :: rest =>
      if c = closing then some ([], rest)
      else if c = ',' then do
        let (first, rest) ← item rest
        let (items, rest) ← readMore room rest
        return (first :: items, rest)
      else none

-- No item begins with a closing bracket, so one behind the opening bracket means that there is none.
def readList (text : List Char) : Option (List α × List Char) :=
  match skip text with
  | [] => none
  | c :: rest =>
    if c = closing then some ([], rest)
    else do
      let (first, rest) ← item text
      let (items, rest) ← readMore closing item rest.length rest
      return (first :: items, rest)

end Lists

def readString (text : List Char) : Option (String × List Char) :=
  match skip text with
  | '"' :: rest => do
    let (letters, rest) ← readText rest
    return (String.ofList letters, rest)
  | _ => none

def readMember (value : Reading Json) (text : List Char) : Option ((String × Json) × List Char) := do
  let (key, rest) ← readString text
  match skip rest with
  | ':' :: rest => do
    let (value, rest) ← value rest
    return ((key, value), rest)
  | _ => none

def read : Nat → Reading Json
  | 0, _ => none
  | room + 1, text => match skip text with
    | 't' :: 'r' :: 'u' :: 'e' :: rest => some (.bool true, rest)
    | 'f' :: 'a' :: 'l' :: 's' :: 'e' :: rest => some (.bool false, rest)
    | '[' :: rest => do
      let (items, rest) ← readList ']' (read room) rest
      return (.array items, rest)
    | '{' :: rest => do
      let (members, rest) ← readList '}' (readMember (read room)) rest
      return (.object members, rest)
    | '"' :: rest => do
      let (letters, rest) ← readText rest
      return (.string (String.ofList letters), rest)
    | _ => none

-- The whole text has to be one value. No value nests deeper than its text is long.
def ofText? (text : String) : Option Json := do
  let (value, rest) ← read text.toList.length text.toList
  if (skip rest).isEmpty then return value else none

theorem skip_lineBreak (depth : Nat) (rest : List Char) : skip (lineBreak depth ++ rest) = skip rest := by
  rw [skip, lineBreak, List.cons_append, List.dropWhile_cons_of_pos (by decide)]
  rw [List.dropWhile_append_of_pos]
  · rfl
  · intro c blank
    rw [List.eq_of_mem_replicate blank]
    decide

theorem skip_space (rest : List Char) : skip (' ' :: rest) = skip rest :=
  List.dropWhile_cons_of_pos (by decide)

theorem skip_cons {c : Char} (solid : isBlank c = false) (rest : List Char) :
    skip (c :: rest) = c :: rest :=
  List.dropWhile_cons_of_neg (by simp [solid])

theorem hexValue?_hexDigit : ∀ value < 16, hexValue? (hexDigit value) = some value := by decide

theorem readText_escaped {c letter : Char} (known : escaped? c = some letter) (rest : List Char) :
    readText ('\\' :: c :: rest) =
      (readText rest).map fun (letters, rest) => (letter :: letters, rest) := by
  rw [readText, known]
  · cases readText rest <;> rfl
  · rintro _ _ _ _ _ rfl
    simp [escaped?] at known

theorem readText_escape (c : Char) (rest : List Char) :
    readText (escape c ++ rest) = (readText rest).map fun (letters, rest) => (c :: letters, rest) := by
  unfold escape
  split
  case h_8 notQuote notBackslash _ _ _ _ _ =>
    split
    · rename_i low
      have high := hexValue?_hexDigit (c.toNat / 16) (by omega)
      have last := hexValue?_hexDigit (c.toNat % 16) (by omega)
      have zero : hexValue? '0' = some 0 := by decide
      have number : 16 * (c.toNat / 16) + c.toNat % 16 = c.toNat := by omega
      have letter : character? ['0', '0', hexDigit (c.toNat / 16), hexDigit (c.toNat % 16)]
          = some c := by
        have small : c.toNat.isValidChar := .inl (by omega)
        simp [character?, zero, high, last, number, small, Char.ofNat_toNat]
      simp only [List.cons_append, List.nil_append, readText, letter]
      cases readText rest <;> rfl
    · rename_i plain
      rw [List.singleton_append, readText]
      · simp only [plain]
        cases readText rest <;> rfl
      all_goals simp_all
  all_goals exact readText_escaped rfl rest

theorem readText_written (letters rest : List Char) :
    readText (letters.flatMap escape ++ '"' :: rest) = some (letters, rest) := by
  induction letters with
  | nil => rfl
  | cons c letters ih => rw [List.flatMap_cons, List.append_assoc, readText_escape, ih]; rfl

theorem readString_quoted (text : String) (rest : List Char) :
    readString (quoted text ++ rest) = some (text, rest) := by
  have letters := readText_written text.toList rest
  simp only [readString, quoted, List.cons_append, List.append_assoc, List.nil_append,
    skip_cons (c := '"') (by decide)]
  simp [letters, String.ofList_toList]

section Lists

variable {α : Type} {opening closing : Char} {item : Reading α} {write : α → List Char}
  {depth : Nat}

theorem readMore_following {inner : Nat} (solid : isBlank closing = false) (marked : closing ≠ ',')
    {items : List α}
    (each : ∀ x ∈ items, ∀ rest, item (lineBreak inner ++ write x ++ rest) = some (x, rest))
    (room : Nat) (fits : items.length < room) (rest : List Char) :
    readMore closing item room
      (following inner write items ++ (lineBreak depth ++ closing :: rest)) = some (items, rest) := by
  induction items generalizing room with
  | nil =>
    cases room with
    | zero => cases fits
    | succ room =>
      simp [readMore, following, skip_lineBreak, skip_cons solid]
  | cons x later ih =>
    cases room with
    | zero => cases fits
    | succ room =>
      obtain ⟨first, others⟩ := List.forall_mem_cons.mp each
      have behind := ih others room (Nat.lt_of_succ_lt_succ fits)
      have head := first (following inner write later ++ (lineBreak depth ++ closing :: rest))
      simp only [List.append_assoc] at head
      simp only [following, List.flatMap_cons, List.cons_append, List.append_assoc] at head behind ⊢
      rw [readMore, skip_cons (c := ',') (by decide)]
      simp [marked.symm, head, behind]

-- What is written for an item is told from the closing bracket by how it begins.
def Begins (closing : Char) (text : List Char) : Prop :=
  ∃ c rest, text = c :: rest ∧ isBlank c = false ∧ c ≠ closing

theorem readList_bracketed (solid : isBlank closing = false) (marked : closing ≠ ',')
    {items : List α} (begins : ∀ x ∈ items, Begins closing (write x))
    (each : ∀ x ∈ items, ∀ rest,
      item (lineBreak (depth + 1) ++ write x ++ rest) = some (x, rest)) (rest : List Char) :
    ∃ body, bracketed opening closing depth write items ++ rest = opening :: body ∧
      readList closing item body = some (items, rest) := by
  cases items with
  | nil => exact ⟨closing :: rest, rfl, by simp [readList, skip_cons solid]⟩
  | cons first later =>
    obtain ⟨c, tail, spelled, visible, differs⟩ := begins first (List.mem_cons_self ..)
    obtain ⟨head, others⟩ := List.forall_mem_cons.mp each
    let behind := following (depth + 1) write later ++ (lineBreak depth ++ closing :: rest)
    have taken := head behind
    have room : later.length < behind.length := by
      have commas : later.length ≤ (following (depth + 1) write later).length :=
        length_le_following
      simp only [behind, List.length_append, List.length_cons]
      omega
    have more : readMore closing item behind.length behind = some (later, rest) :=
      readMore_following solid marked others behind.length room rest
    refine ⟨lineBreak (depth + 1) ++ write first ++ behind, by simp [bracketed, behind], ?_⟩
    have opened : skip (lineBreak (depth + 1) ++ write first ++ behind) = c :: (tail ++ behind) := by
      rw [List.append_assoc, skip_lineBreak, spelled, List.cons_append, skip_cons visible]
    simp only [readList, opened, if_neg differs, taken, Option.bind_eq_bind, Option.bind_some, more]
    rfl

end Lists

theorem write_begins (value : Json) (depth : Nat) : Begins ']' (value.write depth) := by
  cases value with
  | bool value => cases value <;> exact ⟨_, _, rfl, by decide, by decide⟩
  | string text => exact ⟨_, _, rfl, by decide, by decide⟩
  | array items =>
    rw [write_array]
    cases items <;> exact ⟨_, _, rfl, by decide, by decide⟩
  | object members =>
    rw [write_object]
    cases members <;> exact ⟨_, _, rfl, by decide, by decide⟩

theorem read_lineBreak (room depth : Nat) (text : List Char) :
    read room (lineBreak depth ++ text) = read room text := by
  cases room with
  | zero => rfl
  | succ room => rw [read, read, skip_lineBreak]

theorem read_space (room : Nat) (text : List Char) : read room (' ' :: text) = read room text := by
  cases room with
  | zero => rfl
  | succ room => rw [read, read, skip_space]

theorem readString_lineBreak (depth : Nat) (text : List Char) :
    readString (lineBreak depth ++ text) = readString text := by
  rw [readString, readString, skip_lineBreak]

theorem read_write (value : Json) : ∀ (depth room : Nat) (rest : List Char),
    (value.write depth).length ≤ room → read room (value.write depth ++ rest) = some (value, rest) := by
  -- The room that a text needs is its own length: what stands between brackets is shorter.
  induction value using induction with
  | bool value =>
    intro depth room rest fits
    cases room with
    | zero => cases value <;> simp [write] at fits
    | succ room => cases value <;> simp [write, read, skip_cons, isBlank]
  | string text =>
    intro depth room rest fits
    cases room with
    | zero => simp [write, quoted] at fits
    | succ room =>
      have letters := readText_written text.toList rest
      simp [write, quoted, read, skip_cons, isBlank, letters]
  | array items each =>
    intro depth room rest fits
    rw [write_array] at fits ⊢
    cases room with
    | zero => cases items <;> simp [bracketed] at fits
    | succ room =>
      have begins : ∀ item ∈ items, Begins ']' (item.write (depth + 1)) := fun item _ =>
        item.write_begins (depth + 1)
      have inside : ∀ item ∈ items, ∀ rest,
          read room (lineBreak (depth + 1) ++ item.write (depth + 1) ++ rest) = some (item, rest) := by
        intro item member rest
        have shorter : (item.write (depth + 1)).length <
            (bracketed '[' ']' depth (write (depth + 1)) items).length :=
          length_lt_bracketed member
        rw [List.append_assoc, read_lineBreak]
        exact each item member _ _ _ (by omega)
      obtain ⟨body, opened, listed⟩ :
          ∃ body, bracketed '[' ']' depth (write (depth + 1)) items ++ rest = '[' :: body ∧
            readList ']' (read room) body = some (items, rest) :=
        readList_bracketed (by decide) (by decide) begins inside rest
      rw [opened, read, skip_cons (by decide)]
      simp [listed]
  | object members each =>
    intro depth room rest fits
    rw [write_object] at fits ⊢
    cases room with
    | zero => cases members <;> simp [bracketed] at fits
    | succ room =>
      have begins : ∀ member ∈ members, Begins '}' (writeMember (depth + 1) member) := fun _ _ =>
        ⟨_, _, rfl, by decide, by decide⟩
      have inside : ∀ member ∈ members, ∀ rest,
          readMember (read room)
            (lineBreak (depth + 1) ++ writeMember (depth + 1) member ++ rest) = some (member, rest) := by
        intro member listed rest
        have shorter : (writeMember (depth + 1) member).length <
            (bracketed '{' '}' depth (writeMember (depth + 1)) members).length :=
          length_lt_bracketed listed
        have value := each member listed (depth + 1) room rest (by
          simp only [writeMember, List.length_append, List.length_cons] at shorter
          omega)
        simp only [writeMember, List.append_assoc, List.cons_append]
        rw [readMember, readString_lineBreak, readString_quoted]
        simp [skip_cons (c := ':') (by decide), read_space, value]
      obtain ⟨body, opened, listed⟩ :
          ∃ body, bracketed '{' '}' depth (writeMember (depth + 1)) members ++ rest = '{' :: body ∧
            readList '}' (readMember (read room)) body = some (members, rest) :=
        readList_bracketed (by decide) (by decide) begins inside rest
      rw [opened, read, skip_cons (by decide)]
      simp [listed]

theorem ofText?_written (value : Json) {rest : String} (blank : skip rest.toList = []) :
    ofText? (value.text ++ rest) = some value := by
  have written := value.read_write 0 (value.write 0 ++ rest.toList).length rest.toList
    (by simp only [List.length_append]; omega)
  have letters : (value.text ++ rest).toList = value.write 0 ++ rest.toList := by simp [text]
  rw [ofText?, letters, written]
  simp [blank]

end ServiceTypes.Json
