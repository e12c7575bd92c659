import Mathlib.Data.List.Basic
import Mathlib.Data.List.Forall2

namespace ServiceTypes

theorem bind_eq_ok {ε α β : Type} {first : Except ε α} {next : α → Except ε β} {answer : β} :
    first >>= next = .ok answer ↔ ∃ value, first = .ok value ∧ next value = .ok answer := by
  cases first <;> simp [bind, Except.bind]

theorem pure_eq_ok {ε α : Type} {value answer : α} :
    (pure value : Except ε α) = .ok answer ↔ value = answer := by
  simp [pure, Except.pure]

@[simp] theorem throw_ne_ok {ε α : Type} {error : ε} {answer : α} :
    (throw error : Except ε α) ≠ .ok answer := by
  simp [throw, throwThe, MonadExceptOf.throw]

theorem mapError_eq_ok {ε η α : Type} {first : Except ε α} {rename : ε → η} {answer : α} :
    first.mapError rename = .ok answer ↔ first = .ok answer := by
  cases first <;> simp [Except.mapError]

theorem mapM_eq_ok {ε α β : Type} {act : α → Except ε β} {items : List α} {answers : List β}
    (done : items.mapM act = .ok answers) :
    List.Forall₂ (fun item answer => act item = .ok answer) items answers := by
  induction items generalizing answers with
  | nil => cases done; exact .nil
  | cons item rest ih =>
    simp only [List.mapM_cons, bind_eq_ok] at done
    obtain ⟨answer, first, others, further, same⟩ := done
    cases same
    exact .cons first (ih further)

theorem forall_written {α β : Type} {writes : α → β → Prop} {property : β → Prop} {items : List α}
    {texts : List β} (all : List.Forall₂ writes items texts)
    (each : ∀ item ∈ items, ∀ text, writes item text → property text) :
    ∀ text ∈ texts, property text := by
  induction all with
  | nil => simp
  | cons written _ ih =>
    obtain ⟨head, later⟩ := List.forall_mem_cons.mp each
    exact List.forall_mem_cons.mpr ⟨head _ written, ih later⟩

theorem splitOn_lines {lines : List (List Char)} (whole : ∀ line ∈ lines, '\n' ∉ line) :
    (lines.flatMap (· ++ ['\n'])).splitOn '\n' = lines ++ [[]] := by
  have separated : lines.flatMap (· ++ ['\n']) = ['\n'].intercalate (lines ++ [[]]) := by
    clear whole
    induction lines with
    | nil => rfl
    | cons line rest ih =>
      rw [List.flatMap_cons, ih, List.cons_append, List.intercalate_cons_of_ne_nil (by simp)]
  rw [separated]
  refine List.splitOn_intercalate '\n' ?_ (by simp)
  intro line listed
  rcases List.mem_append.mp listed with inside | last
  · exact whole line inside
  · rw [List.mem_singleton.mp last]
    exact nofun

theorem all_ne_of_not_mem {c : Char} {letters : List Char} (absent : c ∉ letters) :
    ∀ letter ∈ letters, decide (letter ≠ c) = true := by
  intro letter member
  exact decide_eq_true fun same => absent (same ▸ member)

theorem cut_at_first {c : Char} {front : List Char} (absent : c ∉ front) (rest : List Char) :
    (front ++ c :: rest).takeWhile (· ≠ c) = front ∧
      (front ++ c :: rest).dropWhile (· ≠ c) = c :: rest := by
  have others := all_ne_of_not_mem absent
  rw [List.takeWhile_append_of_pos others, List.dropWhile_append_of_pos others]
  simp

-- What stands in front of each line feed. What follows the last one is no line of this kind.
def linesOf (text : String) : List (List Char) := (text.toList.splitOn '\n').dropLast

def EndsOnce (text : String) : Prop := ['\n'] <:+ text.toList ∧ ¬ ['\n', '\n'] <:+ text.toList

variable {text : String} {lines before : List (List Char)} {last : List Char}

theorem linesOf_eq (whole : ∀ line ∈ lines, '\n' ∉ line)
    (written : text.toList = lines.flatMap (· ++ ['\n'])) : linesOf text = lines := by
  rw [linesOf, written, splitOn_lines whole, List.dropLast_concat]

theorem endsOnce (full : last ≠ []) (whole : '\n' ∉ last)
    (written : text.toList = (before ++ [last]).flatMap (· ++ ['\n'])) : EndsOnce text := by
  obtain ⟨start, c, rfl⟩ : ∃ start c, last = start ++ [c] :=
    ⟨_, _, (List.dropLast_append_getLast full).symm⟩
  have differs : '\n' ≠ c := fun same => whole (same ▸ List.mem_append_right _ (by simp))
  have parts : text.toList = (before.flatMap (· ++ ['\n']) ++ start) ++ [c, '\n'] := by
    simp [written]
  rw [EndsOnce, parts]
  refine ⟨⟨before.flatMap (· ++ ['\n']) ++ start ++ [c], by simp⟩, ?_⟩
  rintro ⟨rest, twice⟩
  exact differs (List.cons.inj (List.append_inj_right' twice rfl)).1

end ServiceTypes
