import ServiceTypes.Json

namespace ServiceTypes.Json

theorem induction {motive : Json → Prop} (bool : ∀ value, motive (.bool value))
    (string : ∀ text, motive (.string text))
    (array : ∀ items, (∀ item ∈ items, motive item) → motive (.array items))
    (object : ∀ members, (∀ member ∈ members, motive member.2) → motive (.object members)) :
    ∀ value, motive value := by
  intro value
  refine @Json.rec motive (fun items => ∀ item ∈ items, motive item)
    (fun members => ∀ member ∈ members, motive member.2) (fun member => motive member.2)
    bool string array object ?_ ?_ ?_ ?_ ?_ value
  · exact List.forall_mem_nil _
  · intro item items first rest
    exact List.forall_mem_cons.mpr ⟨first, rest⟩
  · exact List.forall_mem_nil _
  · intro member members first rest
    exact List.forall_mem_cons.mpr ⟨first, rest⟩
  · intro key value holds
    exact holds

def writeMember (depth : Nat) (member : String × Json) : List Char :=
  quoted member.1 ++ ':' :: ' ' :: member.2.write depth

def following {α : Type} (depth : Nat) (write : α → List Char) (items : List α) : List Char :=
  items.flatMap fun item => ',' :: lineBreak depth ++ write item

theorem writeItems_eq (depth : Nat) (items : List Json) :
    writeItems depth items = following depth (write depth) items := by
  induction items with
  | nil => rfl
  | cons item rest ih => rw [writeItems, ih]; rfl

theorem writeMembers_eq (depth : Nat) (members : List (String × Json)) :
    writeMembers depth members = following depth (writeMember depth) members := by
  induction members with
  | nil => rfl
  | cons member rest ih =>
    rw [writeMembers, ih]
    simp [following, writeMember]

-- Arrays and objects differ in their brackets and in what one of their items is.
def bracketed {α : Type} (opening closing : Char) (depth : Nat) (write : α → List Char) :
    List α → List Char
  | [] => [opening, closing]
  | first :: rest =>
    opening :: lineBreak (depth + 1) ++ write first ++ following (depth + 1) write rest
      ++ lineBreak depth ++ [closing]

section Lengths

variable {α : Type} {opening closing : Char} {depth : Nat} {write : α → List Char}
  {items : List α} {item : α}

theorem length_le_following : items.length ≤ (following depth write items).length := by
  induction items with
  | nil => exact Nat.le_refl 0
  | cons first rest ih =>
    simp only [following, List.flatMap_cons, List.length_append, List.length_cons] at ih ⊢
    omega

theorem length_lt_bracketed (member : item ∈ items) :
    (write item).length < (bracketed opening closing depth write items).length := by
  have inFollowing : ∀ rest : List α, item ∈ rest →
      (write item).length ≤ (following (depth + 1) write rest).length := by
    intro rest later
    obtain ⟨before, after, rfl⟩ := List.append_of_mem later
    simp only [following, List.flatMap_append, List.flatMap_cons, List.length_append]
    omega
  cases items with
  | nil => cases member
  | cons first rest =>
    simp only [bracketed, List.length_append, List.length_cons]
    rcases List.mem_cons.mp member with rfl | later
    · omega
    · have bound := inFollowing rest later
      omega

end Lengths

theorem write_array (depth : Nat) (items : List Json) :
    (array items).write depth = bracketed '[' ']' depth (write (depth + 1)) items := by
  cases items with
  | nil => rfl
  | cons first rest => rw [write, writeItems_eq]; rfl

theorem write_object (depth : Nat) (members : List (String × Json)) :
    (object members).write depth = bracketed '{' '}' depth (writeMember (depth + 1)) members := by
  cases members with
  | nil => rfl
  | cons first rest =>
    rw [write, writeMembers_eq]
    simp [bracketed, writeMember]

-- The only control characters of a text are its line feeds: those inside strings are escaped.
def IsVisible (c : Char) : Prop := c = '\n' ∨ 0x20 ≤ c.toNat

instance (c : Char) : Decidable (IsVisible c) := inferInstanceAs (Decidable (_ ∨ _))

theorem hexDigit_visible : ∀ value < 16, IsVisible (hexDigit value) := by decide

theorem escape_visible (c : Char) : ∀ d ∈ escape c, IsVisible d := by
  unfold escape
  split
  case h_8 =>
    split
    · rename_i low
      have high := hexDigit_visible (c.toNat / 16) (by omega)
      have rest := hexDigit_visible (c.toNat % 16) (by omega)
      simp only [List.forall_mem_cons, high, rest]
      simp [IsVisible]
    · rename_i plain
      simp [IsVisible]
      omega
  all_goals simp [IsVisible]

theorem quoted_visible (text : String) : ∀ c ∈ quoted text, IsVisible c := by
  simp only [quoted, List.cons_append, List.forall_mem_cons, List.forall_mem_append]
  refine ⟨by decide, ?_, by simp [IsVisible]⟩
  intro c member
  obtain ⟨letter, -, inside⟩ := List.mem_flatMap.mp member
  exact escape_visible letter c inside

theorem lineBreak_visible (depth : Nat) : ∀ c ∈ lineBreak depth, IsVisible c := by
  refine List.forall_mem_cons.mpr ⟨by decide, ?_⟩
  intro c blank
  rw [List.eq_of_mem_replicate blank]
  decide

theorem bracketed_visible {α : Type} {opening closing : Char} {depth : Nat}
    {write : α → List Char} {items : List α} (opens : IsVisible opening)
    (closes : IsVisible closing) (each : ∀ item ∈ items, ∀ c ∈ write item, IsVisible c) :
    ∀ c ∈ bracketed opening closing depth write items, IsVisible c := by
  cases items with
  | nil => simp [bracketed, opens, closes]
  | cons first rest =>
    obtain ⟨head, later⟩ := List.forall_mem_cons.mp each
    have behind : ∀ c ∈ following (depth + 1) write rest, IsVisible c := by
      intro c member
      obtain ⟨item, inside, within⟩ := List.mem_flatMap.mp member
      rcases List.mem_append.mp within with led | own
      · rcases List.mem_cons.mp led with rfl | broken
        · decide
        · exact lineBreak_visible _ c broken
      · exact later item inside c own
    simp only [bracketed, List.cons_append, List.forall_mem_cons, List.forall_mem_append]
    exact ⟨opens, ⟨⟨⟨lineBreak_visible _, head⟩, behind⟩, lineBreak_visible _⟩, closes,
      List.forall_mem_nil _⟩

theorem write_visible (value : Json) : ∀ depth, ∀ c ∈ value.write depth, IsVisible c := by
  induction value using induction with
  | bool value =>
    intro depth
    cases value <;> simp [write, IsVisible]
  | string text =>
    intro depth
    rw [write]
    exact quoted_visible text
  | array items each =>
    intro depth
    rw [write_array]
    exact bracketed_visible (by decide) (by decide) fun item member => each item member _
  | object members each =>
    intro depth
    rw [write_object]
    refine bracketed_visible (by decide) (by decide) fun member inside => ?_
    simp only [writeMember, List.forall_mem_append, List.forall_mem_cons]
    exact ⟨quoted_visible member.1, by decide, by decide, each member inside _⟩

end ServiceTypes.Json
