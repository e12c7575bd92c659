import ServiceTypes.Declaration.OfSchema

namespace ServiceTypes

namespace Alternatives

variable {alternatives left right : Alternatives} {names : List String}

theorem members_ne_nil (alternatives : Alternatives) : alternatives.members ≠ [] := by
  cases alternatives with
  | member name => simp [members]
  | either left right => simp [members, left.members_ne_nil]

theorem members_foldl (rest : List String) (left : Alternatives) :
    (rest.foldl (fun left name => either left (member name)) left).members =
      left.members ++ rest := by
  induction rest generalizing left with
  | nil => simp
  | cons name rest ih =>
    rw [List.foldl_cons, ih]
    simp [members]

theorem members_of_ofMembers? (made : ofMembers? names = some alternatives) :
    alternatives.members = names := by
  cases names with
  | nil => cases made
  | cons first rest =>
    cases made
    simp [members_foldl, members]

theorem ofMembers?_eq_none : ofMembers? names = none ↔ names = [] := by
  cases names <;> simp [ofMembers?]

theorem ofMembers?_concat (name : String) (full : names ≠ []) :
    ofMembers? (names ++ [name]) = (ofMembers? names).map (either · (member name)) := by
  cases names with
  | nil => exact absurd rfl full
  | cons first rest => simp [ofMembers?, List.foldl_append]

def pairs : Alternatives → List (Alternatives × Alternatives)
  | member _ => []
  | either left right => (left, right) :: (left.pairs ++ right.pairs)

def isMember : Alternatives → Bool
  | member _ => true
  | either .. => false

-- No pair has another pair on its right.
def IsLeftComb (alternatives : Alternatives) : Prop :=
  ∀ pair ∈ alternatives.pairs, pair.2.isMember = true

instance (alternatives : Alternatives) : Decidable alternatives.IsLeftComb :=
  inferInstanceAs (Decidable (∀ pair ∈ alternatives.pairs, pair.2.isMember = true))

theorem isLeftComb_member (name : String) : (member name).IsLeftComb := nofun

theorem isLeftComb_either :
    (either left right).IsLeftComb ↔ left.IsLeftComb ∧ ∃ name, right = member name := by
  rw [IsLeftComb, pairs, List.forall_mem_cons, List.forall_mem_append]
  cases right with
  | member name => simp [IsLeftComb, isMember, pairs]
  | either => simp [isMember]

theorem isLeftComb_foldl (rest : List String) (comb : left.IsLeftComb) :
    (rest.foldl (fun left name => either left (member name)) left).IsLeftComb := by
  induction rest generalizing left with
  | nil => exact comb
  | cons name rest ih => exact ih (isLeftComb_either.mpr ⟨comb, name, rfl⟩)

theorem isLeftComb_of_ofMembers? (made : ofMembers? names = some alternatives) :
    alternatives.IsLeftComb := by
  cases names with
  | nil => cases made
  | cons first rest =>
    cases made
    exact isLeftComb_foldl rest (isLeftComb_member first)

theorem IsLeftComb.ofMembers?_members (comb : alternatives.IsLeftComb) :
    ofMembers? alternatives.members = some alternatives := by
  induction alternatives with
  | member name => rfl
  | either left right leftIh _ =>
    -- The last member of a left comb stands alone on the right, which is where the fold puts
    -- it.
    obtain ⟨inner, name, rfl⟩ := isLeftComb_either.mp comb
    rw [members, members, ofMembers?_concat name left.members_ne_nil, leftIh inner,
      Option.map_some]

theorem ofMembers?_eq_some :
    ofMembers? names = some alternatives ↔
      alternatives.members = names ∧ alternatives.IsLeftComb := by
  constructor
  · intro made
    exact ⟨members_of_ofMembers? made, isLeftComb_of_ofMembers? made⟩
  · rintro ⟨rfl, comb⟩
    exact comb.ofMembers?_members

-- Of all nestings of the same members exactly one is a left comb, and that one is made. The empty
-- list has no nesting at all.
theorem left_combs_are_lists :
    (∀ names, (ofMembers? names).map members = if names = [] then none else some names) ∧
    (∀ alternatives, ofMembers? alternatives.members = some alternatives ↔
      alternatives.IsLeftComb) ∧
    ∀ names alternatives, ofMembers? names = some alternatives ↔
      alternatives.members = names ∧ alternatives.IsLeftComb := by
  refine ⟨?_, ?_, fun _ _ => ofMembers?_eq_some⟩
  · intro names
    split
    · rename_i empty
      rw [ofMembers?_eq_none.mpr empty, Option.map_none]
    · rename_i full
      obtain ⟨alternatives, made⟩ := Option.ne_none_iff_exists'.mp (mt ofMembers?_eq_none.mp full)
      rw [made, Option.map_some, members_of_ofMembers? made]
  · intro alternatives
    rw [ofMembers?_eq_some]
    exact and_iff_right rfl

example :
    let nested := either (member "Cat") (either (member "Dog") (member "Cat"))
    ¬ nested.IsLeftComb ∧ ofMembers? nested.members =
      some (either (either (member "Cat") (member "Dog")) (member "Cat")) := by decide

end Alternatives

theorem UnionDefinition.members_of_ofMembers? {name : String} {names : List String}
    {definition : UnionDefinition} (made : ofMembers? name names = some definition) :
    definition.name = name ∧ definition.alternatives.members = names := by
  obtain ⟨alternatives, folded, rfl⟩ := Option.map_eq_some_iff.mp made
  exact ⟨rfl, Alternatives.members_of_ofMembers? folded⟩

end ServiceTypes
