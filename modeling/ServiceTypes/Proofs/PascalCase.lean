import ServiceTypes.Name
import ServiceTypes.Proofs.Basic

namespace ServiceTypes

theorem isAlpha_eq (c : Char) : c.isAlpha = (c.isUpper || c.isLower) := rfl

theorem isUpper_iff {c : Char} : c.isUpper = true ↔ 'A'.val ≤ c.val ∧ c.val ≤ 'Z'.val :=
  decide_eq_true_iff

theorem isLower_iff {c : Char} : c.isLower = true ↔ 'a'.val ≤ c.val ∧ c.val ≤ 'z'.val := by
  change (decide _ && decide _) = true ↔ _
  rw [Bool.and_eq_true, decide_eq_true_iff, decide_eq_true_iff]

theorem isLower_eq_false_of_isUpper {c : Char} (great : c.isUpper = true) : c.isLower = false := by
  rw [Bool.eq_false_iff, ne_eq, isLower_iff]
  have bounds := isUpper_iff.mp great
  grind

theorem isUpper_eq_false_of_isLower {c : Char} (small : c.isLower = true) : c.isUpper = false := by
  cases great : c.isUpper with
  | false => rfl
  | true => rw [isLower_eq_false_of_isUpper great] at small; cases small

theorem toUpper_of_isLower {c : Char} (small : c.isLower = true) : c.toUpper.isUpper = true := by
  have bounds := isLower_iff.mp small
  have raised : c.toUpper = _ := dif_pos bounds
  rw [isUpper_iff, raised]
  grind [UInt32.toNat_add, UInt32.le_iff_toNat_le]

theorem toLower_of_isUpper {c : Char} (great : c.isUpper = true) : c.toLower.isLower = true := by
  have bounds := isUpper_iff.mp great
  have lowered : c.toLower = _ := dif_pos bounds
  rw [isLower_iff, lowered]
  grind [UInt32.toNat_add, UInt32.le_iff_toNat_le]

theorem toUpper_eq_self {c : Char} (other : c.isLower = false) : c.toUpper = c :=
  dif_neg (isLower_iff.not.mp (Bool.eq_false_iff.mp other))

@[simp] theorem isLower_toUpper (c : Char) : c.toUpper.isLower = false := by
  cases small : c.isLower with
  | true => exact isLower_eq_false_of_isUpper (toUpper_of_isLower small)
  | false => rw [toUpper_eq_self small, small]

@[simp] theorem toUpper_toUpper (c : Char) : c.toUpper.toUpper = c.toUpper :=
  toUpper_eq_self (isLower_toUpper c)

theorem toLower_eq_self {c : Char} : c.toLower = c ↔ c.isUpper = false := by
  constructor
  · intro same
    cases great : c.isUpper with
    | false => rfl
    | true => rw [← great, ← same, isUpper_eq_false_of_isLower (toLower_of_isUpper great)]
  · intro other
    exact dif_neg (isUpper_iff.not.mp (Bool.eq_false_iff.mp other))

@[simp] theorem isUpper_toLower (c : Char) : c.toLower.isUpper = false := by
  cases great : c.isUpper with
  | true => exact isUpper_eq_false_of_isLower (toLower_of_isUpper great)
  | false => rw [toLower_eq_self.mpr great, great]

@[simp] theorem isUpper_toUpper (c : Char) : c.toUpper.isUpper = c.isAlpha := by
  rw [isAlpha_eq]
  cases small : c.isLower with
  | true => rw [toUpper_of_isLower small, Bool.or_true]
  | false => rw [toUpper_eq_self small, Bool.or_false]

@[simp] theorem isLower_toLower (c : Char) : c.toLower.isLower = c.isAlpha := by
  rw [isAlpha_eq]
  cases great : c.isUpper with
  | true => rw [toLower_of_isUpper great, Bool.true_or]
  | false => rw [toLower_eq_self.mpr great, Bool.false_or]

-- Case is all in which the characters differ, if they differ at all.
def Recased (c d : Char) : Prop := d = c ∨ c.isAlpha = true ∧ d.isAlpha = true

theorem recased_toUpper (c : Char) : Recased c c.toUpper := by
  cases small : c.isLower with
  | true =>
    refine .inr ⟨by rw [isAlpha_eq, small, Bool.or_true], ?_⟩
    rw [isAlpha_eq, toUpper_of_isLower small, Bool.true_or]
  | false => exact .inl (toUpper_eq_self small)

theorem recased_toLower (c : Char) : Recased c c.toLower := by
  cases great : c.isUpper with
  | true =>
    refine .inr ⟨by rw [isAlpha_eq, great, Bool.true_or], ?_⟩
    rw [isAlpha_eq, toLower_of_isUpper great, Bool.or_true]
  | false => exact .inl (toLower_eq_self.mpr great)

def IsOneWord (cs : List Char) : Prop := ∀ c ∈ cs, isWordSeparator c = false

theorem not_isWordSeparator_of_isAlpha {c : Char} (letter : c.isAlpha = true) :
    isWordSeparator c = false := by
  rw [Bool.eq_false_iff]
  intro separates
  simp only [isWordSeparator, Bool.or_eq_true, beq_iff_eq] at separates
  rcases separates with ((rfl | rfl) | rfl) | rfl <;> cases letter

theorem Recased.isWordSeparator_eq {c d : Char} (recased : Recased c d) :
    isWordSeparator d = isWordSeparator c := by
  rcases recased with rfl | ⟨letter, recased⟩
  · rfl
  · rw [not_isWordSeparator_of_isAlpha letter, not_isWordSeparator_of_isAlpha recased]

theorem isOneWord_of_recased {before letters : List Char}
    (recased : List.Forall₂ Recased before letters) (whole : IsOneWord before) :
    IsOneWord letters :=
  forall_written recased fun c inside _ changed =>
    changed.isWordSeparator_eq.trans (whole c inside)

def keptOf (cs : List Char) : List Char := cs.filter (!isWordSeparator ·)

theorem keptOf_isOneWord (cs : List Char) : IsOneWord (keptOf cs) := by
  intro c inside
  simpa using (List.mem_filter.mp inside).2

theorem IsOneWord.keptOf_eq {cs : List Char} (whole : IsOneWord cs) : keptOf cs = cs := by
  rw [keptOf, List.filter_eq_self]
  intro c inside
  rw [whole c inside, Bool.not_false]

theorem isPascalCase_isOneWord {cs : List Char} (pascal : isPascalCase cs = true) :
    IsOneWord cs := by
  simp only [isPascalCase, Bool.and_eq_true, Bool.not_eq_true', List.any_eq_false] at pascal
  intro c inside
  simpa using pascal.2 c inside

theorem joinWords_recased (atStart : Bool) (cs : List Char) :
    List.Forall₂ Recased (keptOf cs) (joinWords atStart cs) := by
  induction cs generalizing atStart with
  | nil => exact .nil
  | cons c cs ih =>
    rw [joinWords]
    split
    · rename_i separates
      rw [keptOf, List.filter_cons_of_neg (by simp [separates])]
      exact ih true
    · rename_i stays
      rw [keptOf, List.filter_cons_of_pos (by simp [stays])]
      refine .cons ?_ (ih false)
      cases atStart
      · exact recased_toLower c
      · exact recased_toUpper c

theorem pascalCase_toList (text : String) :
    (pascalCase text).toList =
      if isPascalCase text.toList then text.toList else joinWords true text.toList := by
  rw [pascalCase]
  split <;> simp

theorem pascalCase_recased (text : String) :
    List.Forall₂ Recased (keptOf text.toList) (pascalCase text).toList := by
  rw [pascalCase_toList]
  split
  · rename_i pascal
    rw [(isPascalCase_isOneWord pascal).keptOf_eq, List.forall₂_same]
    exact fun c _ => .inl rfl
  · exact joinWords_recased true text.toList

theorem pascalCase_isOneWord (text : String) : IsOneWord (pascalCase text).toList :=
  isOneWord_of_recased (pascalCase_recased text) (keptOf_isOneWord text.toList)

-- What stands between separators, where anything does.
def wordsOf (cs : List Char) : List (List Char) := (cs.splitOnP isWordSeparator).filter (· ≠ [])

theorem wordsOf_cases (cs : List Char) :
    wordsOf cs = [] ∨ ∃ c inner rest, wordsOf cs = (c :: inner) :: rest := by
  cases words : wordsOf cs with
  | nil => exact .inl rfl
  | cons word rest =>
    have full : word ≠ [] := by
      simpa using (List.mem_filter.mp (words ▸ List.mem_cons_self .. : word ∈ wordsOf cs)).2
    obtain ⟨c, inner, rfl⟩ := List.exists_cons_of_ne_nil full
    exact .inr ⟨c, inner, rest, rfl⟩

def capitalized : List Char → List Char
  | [] => []
  | c :: cs => c.toUpper :: cs.map Char.toLower

@[simp] theorem capitalized_nil : capitalized [] = [] := rfl

@[simp] theorem capitalized_cons (c : Char) (cs : List Char) :
    capitalized (c :: cs) = c.toUpper :: cs.map Char.toLower := rfl

-- Within a word the rest of it comes first, and only then further words.
theorem joinWords_pieces (cs : List Char) :
    let pieces := cs.splitOnP isWordSeparator
    joinWords true cs = pieces.flatMap capitalized ∧
      joinWords false cs =
        (pieces.headD []).map Char.toLower ++ pieces.tail.flatMap capitalized := by
  induction cs with
  | nil => exact ⟨rfl, rfl⟩
  | cons c cs ih =>
    obtain ⟨atStart, within⟩ := ih
    rw [List.splitOnP_cons_eq_if_modifyHead, joinWords, joinWords]
    split
    · exact ⟨atStart, atStart⟩
    · obtain ⟨piece, pieces, split⟩ :=
        List.exists_cons_of_ne_nil (List.splitOnP_ne_nil isWordSeparator cs)
      rw [split] at within ⊢
      simp [within]

theorem joinWords_eq_capitalized (cs : List Char) :
    joinWords true cs = (wordsOf cs).flatMap capitalized := by
  rw [(joinWords_pieces cs).1, wordsOf]
  induction cs.splitOnP isWordSeparator with
  | nil => rfl
  | cons piece pieces ih => cases piece <;> simp [ih]

theorem IsOneWord.joinWords_eq {cs : List Char} (whole : IsOneWord cs) :
    joinWords true cs = capitalized cs := by
  rw [(joinWords_pieces cs).1, List.splitOnP_eq_singleton whole, List.flatMap_singleton]

theorem pascalCase_again (text : String) :
    (pascalCase (pascalCase text)).toList =
      if isPascalCase (pascalCase text).toList then (pascalCase text).toList
      else capitalized (pascalCase text).toList := by
  rw [pascalCase_toList, (pascalCase_isOneWord text).joinWords_eq]

theorem joinWords_head (cs : List Char) : ∀ c ∈ (joinWords true cs).head?, c.toUpper = c := by
  rw [joinWords_eq_capitalized]
  rcases wordsOf_cases cs with none | ⟨c, inner, rest, words⟩
  · simp [none]
  · simp [words]

theorem pascalCase_head (text : String) :
    ∀ c ∈ (pascalCase text).toList.head?, c.toUpper = c := by
  rw [pascalCase_toList]
  split
  · rename_i pascal
    simp only [isPascalCase, Bool.and_eq_true] at pascal
    intro c first
    have upper := pascal.1.1
    rw [Option.mem_def.mp first] at upper
    exact toUpper_eq_self (isLower_eq_false_of_isUpper upper)
  · exact joinWords_head text.toList

theorem capitalized_eq_self {cs : List Char} (head : ∀ c ∈ cs.head?, c.toUpper = c) :
    capitalized cs = cs ↔ cs.tail.any Char.isUpper = false := by
  cases cs with
  | nil => simp
  | cons c cs =>
    have same : cs.map Char.toLower = cs ↔ ∀ d ∈ cs, d.toLower = d := by
      simpa using List.map_inj_left (l := cs) (f := Char.toLower) (g := id)
    simp [head c rfl, same, toLower_eq_self]

theorem pascalCase_again_eq_iff (text : String) :
    pascalCase (pascalCase text) = pascalCase text ↔
      isPascalCase (pascalCase text).toList = true ∨
        (pascalCase text).toList.tail.any Char.isUpper = false := by
  rw [← String.toList_inj, pascalCase_again]
  split
  · rename_i pascal
    exact iff_of_true rfl (.inl pascal)
  · rename_i other
    rw [capitalized_eq_self (pascalCase_head text), or_iff_right other]

def startsWithLetter (word : List Char) : Bool := word.head?.any Char.isAlpha

def hasInnerLetter (word : List Char) : Bool := word.tail.any Char.isAlpha

theorem capitalized_isUpper (word : List Char) :
    (capitalized word).any Char.isUpper = startsWithLetter word := by
  cases word <;> simp [startsWithLetter]

theorem capitalized_isLower (word : List Char) :
    (capitalized word).any Char.isLower = hasInnerLetter word := by
  cases word <;> simp [hasInnerLetter, Function.comp_def]

theorem isPascalCase_joinWords (cs : List Char) :
    isPascalCase (joinWords true cs) =
      ((wordsOf cs).head?.any startsWithLetter && (wordsOf cs).any hasInnerLetter) := by
  have whole : (joinWords true cs).any isWordSeparator = false := by
    rw [List.any_eq_false]
    intro c inside
    rw [isOneWord_of_recased (joinWords_recased true cs) (keptOf_isOneWord cs) c inside]
    exact Bool.false_ne_true
  rw [isPascalCase, whole, joinWords_eq_capitalized, List.any_flatMap]
  simp only [capitalized_isLower]
  rcases wordsOf_cases cs with none | ⟨c, inner, rest, words⟩
  · simp [none]
  · simp [words, startsWithLetter]

theorem joinWords_inner_isUpper (cs : List Char) :
    (joinWords true cs).tail.any Char.isUpper = (wordsOf cs).tail.any startsWithLetter := by
  rw [joinWords_eq_capitalized]
  rcases wordsOf_cases cs with none | ⟨c, inner, rest, words⟩
  · simp [none]
  · simp [words, List.any_flatMap, capitalized_isUpper]

-- To be recognised, a result needs a letter at its front and one inside a word. One that lacks
-- these is changed the second time if a letter begins a later word.
theorem pascalCase_settles (text : String) :
    (pascalCase (pascalCase text) = pascalCase text ↔
      isPascalCase text.toList = true ∨
      (wordsOf text.toList).tail.any startsWithLetter = false ∨
      (wordsOf text.toList).head?.any startsWithLetter = true ∧
        (wordsOf text.toList).any hasInnerLetter = true) ∧
    pascalCase (pascalCase (pascalCase text)) = pascalCase (pascalCase text) := by
  constructor
  · rw [pascalCase_again_eq_iff, pascalCase_toList]
    split
    · rename_i pascal
      exact iff_of_true (.inl pascal) (.inl pascal)
    · rename_i other
      rw [isPascalCase_joinWords, joinWords_inner_isUpper, or_iff_right other, or_comm,
        Bool.and_eq_true]
  · rw [pascalCase_again_eq_iff, pascalCase_again]
    split
    · rename_i pascal
      exact .inl pascal
    · right
      cases (pascalCase text).toList <;> simp

theorem digit_first_not_kept :
    pascalCase "2fa_app" = "2faApp" ∧ pascalCase (pascalCase "2fa_app") ≠ pascalCase "2fa_app" := by
  decide

end ServiceTypes
