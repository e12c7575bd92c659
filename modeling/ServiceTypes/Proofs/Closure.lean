import Mathlib.Order.CompletePartialOrder
import ServiceTypes.Proofs.Cover

namespace ServiceTypes.Schema

variable {schema : Schema} {name other upper lower : String} {declared names others : List String}
  {fields : List Field}

def Reaches (schema : Schema) : String → String → Prop := Relation.ReflTransGen schema.Lists

def closure (schema : Schema) (names : List String) : Set String :=
  {name | ∃ start ∈ names, schema.Reaches start name}

-- No way leads from one name to another and back. An interface may still list itself.
def Layered (schema : Schema) : Prop :=
  ∀ name other, schema.Reaches name other → schema.Reaches other name → name = other

-- Who lists an interface lists all that this one lists, as valid GraphQL has it.
def SpelledOut (schema : Schema) : Prop :=
  ∀ upper middle, schema.Lists upper middle → ∀ lower, schema.Lists middle lower →
    schema.Lists upper lower

-- An interface has a field of each name that those it lists define.
def Fulfilled (schema : Schema) : Prop :=
  ∀ upper lower, schema.Lists upper lower → ∀ field ∈ schema.definedBy lower,
    field ∈ schema.definedBy upper

def listedBy (schema : Schema) (name : String) : List String :=
  match schema.interface? name with
  | some members => members.interfaces
  | none => []

theorem lists_iff : schema.Lists upper lower ↔ lower ∈ schema.listedBy upper := by
  cases found : schema.interface? upper <;> simp [listedBy, Lists, found]

theorem Lists.placed (lists : schema.Lists upper lower) :
    ∃ type ∈ schema.types, type.name = upper := by
  obtain ⟨members, found, -⟩ := lists
  exact ⟨_, interface?_eq_some.mp found, rfl⟩

theorem forall_lists {property : String → String → Prop} :
    (∀ type ∈ schema.types, ∀ lower ∈ schema.listedBy type.name, property type.name lower) ↔
      ∀ upper lower, schema.Lists upper lower → property upper lower := by
  constructor
  · intro entries upper lower lists
    obtain ⟨type, member, rfl⟩ := lists.placed
    exact entries type member lower (lists_iff.mp lists)
  · intro all type _ lower listed
    exact all type.name lower (lists_iff.mpr listed)

instance (schema : Schema) (upper lower : String) : Decidable (schema.Lists upper lower) :=
  decidable_of_iff _ lists_iff.symm

instance (schema : Schema) : Decidable schema.Fulfilled :=
  decidable_of_iff _ forall_lists

instance (schema : Schema) (upper middle : String) :
    Decidable (∀ lower, schema.Lists middle lower → schema.Lists upper lower) :=
  decidable_of_iff (∀ lower ∈ schema.listedBy middle, schema.Lists upper lower)
    (by simp only [lists_iff])

instance (schema : Schema) : Decidable schema.SpelledOut :=
  decidable_of_iff _ forall_lists

theorem exists_lister (listed : name ∈ declared) (struck : name ∉ schema.unimplied declared) :
    ∃ other ∈ declared, other ≠ name ∧ schema.Lists other name := by
  simpa [mem_unimplied, listed] using struck

theorem closure_mono (within : ∀ name ∈ names, name ∈ schema.closure others) :
    schema.closure names ⊆ schema.closure others := by
  intro name reached
  obtain ⟨start, listed, further⟩ := reached
  obtain ⟨first, present, way⟩ := within start listed
  exact ⟨first, present, way.trans further⟩

theorem mem_closure_of_mem (listed : name ∈ names) : name ∈ schema.closure names :=
  ⟨name, listed, .refl⟩

-- Without ways back, to reach another name is a strict order on finitely many names.
theorem Layered.wellFoundedOn (layered : schema.Layered) (names : List String) :
    {name | name ∈ names}.WellFoundedOn
      fun upper lower => schema.Reaches upper lower ∧ upper ≠ lower := by
  have : IsStrictOrder String fun upper lower => schema.Reaches upper lower ∧ upper ≠ lower :=
    { irrefl := fun _ above => above.2 rfl
      trans := by
        intro upper middle lower first second
        refine ⟨first.1.trans second.1, ?_⟩
        rintro rfl
        exact first.2 (layered _ _ first.1 second.1) }
  exact (List.finite_toSet names).wellFoundedOn

theorem Layered.exists_unimplied (layered : schema.Layered) (listed : name ∈ declared) :
    ∃ survivor ∈ schema.unimplied declared, schema.Reaches survivor name := by
  refine (layered.wellFoundedOn declared).induction
    (P := fun name => ∃ survivor ∈ schema.unimplied declared, schema.Reaches survivor name) listed ?_
  intro name listed above
  by_cases kept : name ∈ schema.unimplied declared
  · exact ⟨name, kept, .refl⟩
  · obtain ⟨other, present, differs, lists⟩ := exists_lister listed kept
    obtain ⟨survivor, kept, way⟩ := above other present ⟨.single lists, differs⟩
    exact ⟨survivor, kept, way.tail lists⟩

theorem Layered.closure_unimplied (layered : schema.Layered) (declared : List String) :
    schema.closure (schema.unimplied declared) = schema.closure declared := by
  refine Set.Subset.antisymm (closure_mono ?_) (closure_mono ?_)
  · intro name kept
    exact mem_closure_of_mem (mem_of_mem_unimplied kept)
  · intro name listed
    exact layered.exists_unimplied listed

theorem Reaches.last_step (reaches : schema.Reaches upper lower) (differs : upper ≠ lower) :
    ∃ middle, schema.Reaches upper middle ∧ schema.Lists middle lower ∧ middle ≠ lower := by
  induction reaches with
  | refl => exact absurd rfl differs
  | @tail middle lower way step ih =>
    by_cases same : middle = lower
    · subst same
      exact ih differs
    · exact ⟨middle, way, step, same⟩

open scoped Classical in
noncomputable def circle (schema : Schema) (name : String) : List String :=
  (schema.types.map SchemaType.name).filter fun other =>
    schema.Reaches name other ∧ schema.Reaches other name

theorem mem_circle : other ∈ schema.circle name ↔
    (∃ type ∈ schema.types, type.name = other) ∧
      schema.Reaches name other ∧ schema.Reaches other name := by
  simp [circle]

theorem exists_before_in_circle (differs : name ≠ other) (forth : schema.Reaches name other)
    (back : schema.Reaches other name) (below : schema.Reaches name lower)
    (above : schema.Reaches lower name) :
    ∃ middle ∈ schema.circle name, middle ≠ lower ∧ schema.Lists middle lower := by
  obtain ⟨upper, reached, returns, apart⟩ :
      ∃ upper, schema.Reaches name upper ∧ schema.Reaches upper lower ∧ upper ≠ lower := by
    by_cases same : name = lower
    · subst same
      exact ⟨other, forth, back, differs.symm⟩
    · exact ⟨name, .refl, below, same⟩
  obtain ⟨middle, way, lists, apart⟩ := returns.last_step apart
  exact ⟨middle, mem_circle.mpr ⟨lists.placed, reached.trans way, above.head lists⟩, apart, lists⟩

theorem layered_of_kept (kept : ∀ declared, schema.unimplied declared = [] → declared = []) :
    schema.Layered := by
  intro name other forth back
  by_contra differs
  -- Declared together, the names of such a circle strike each other out, every one of them.
  have empty : schema.unimplied (schema.circle name) = [] := by
    refine List.eq_nil_iff_forall_not_mem.mpr fun lower survives => ?_
    obtain ⟨listed, free⟩ := mem_unimplied.mp survives
    obtain ⟨-, below, above⟩ := mem_circle.mp listed
    obtain ⟨middle, present, apart, lists⟩ :=
      exists_before_in_circle differs forth back below above
    exact free middle present apart lists
  obtain ⟨middle, present, -⟩ := exists_before_in_circle differs forth back .refl .refl
  rw [kept _ empty] at present
  cases present

-- The interfaces that are left lead to all that was declared, whatever was declared. That is so for
-- just the tables in which no way leads back.
theorem closure_kept_iff_layered (schema : Schema) :
    schema.Layered ↔ ∀ declared,
      schema.closure (schema.unimplied declared) = schema.closure declared ∧
      (schema.unimplied declared = [] ↔ declared = []) := by
  constructor
  · intro layered declared
    refine ⟨layered.closure_unimplied declared, ?_, ?_⟩
    · intro empty
      refine List.eq_nil_iff_forall_not_mem.mpr fun name listed => ?_
      obtain ⟨survivor, kept, -⟩ := layered.exists_unimplied listed
      rw [empty] at kept
      cases kept
    · rintro rfl
      rfl
  · intro kept
    exact layered_of_kept fun declared => (kept declared).2.mp

example :
    let schema := (Schema.empty.insert ⟨"Parent", .interface ⟨[], ["Child"]⟩⟩).insert
      ⟨"Child", .interface ⟨[], ["Parent"]⟩⟩
    schema.unimplied ["Child", "Parent", "Child"] = [] := by
  decide

theorem layered_of_rank (rank : String → Nat)
    (falls : ∀ upper lower, schema.Lists upper lower → lower ≠ upper → rank lower < rank upper) :
    schema.Layered := by
  have below : ∀ upper lower, schema.Reaches upper lower →
      upper = lower ∨ rank lower < rank upper := by
    intro upper lower reaches
    induction reaches with
    | refl => exact .inl rfl
    | @tail middle lower way step ih =>
      by_cases same : lower = middle
      · exact same ▸ ih
      · have fallen := falls middle lower step same
        rcases ih with rfl | further
        · exact .inr fallen
        · exact .inr (fallen.trans further)
  intro name other forth back
  rcases below name other forth with same | fallen
  · exact same
  · rcases below other name back with same | risen
    · exact same.symm
    · omega

def documentSchema (more : List String) : Schema where
  types := [
    ⟨"Node", .interface ⟨[⟨"id", .named "ID", []⟩], ["Node"]⟩⟩,
    ⟨"Entity", .interface
      ⟨[⟨"id", .named "ID", []⟩, ⟨"createdAt", .named "String", []⟩], ["Node"]⟩⟩,
    ⟨"Document", .interface
      ⟨[⟨"id", .named "ID", []⟩, ⟨"createdAt", .named "String", []⟩,
        ⟨"body", .named "String", []⟩], "Entity" :: more⟩⟩]
  names_nodup := (by decide : ["Node", "Entity", "Document"].Nodup)

theorem SpelledOut.lists (spelledOut : schema.SpelledOut) (reaches : schema.Reaches upper lower)
    (differs : upper ≠ lower) : schema.Lists upper lower := by
  induction reaches with
  | refl => exact absurd rfl differs
  | @tail middle lower way step ih =>
    by_cases same : upper = middle
    · exact same ▸ step
    · exact spelledOut upper middle (ih same) lower step

open scoped Classical in
noncomputable def topmost (schema : Schema) (declared : List String) : List String :=
  declared.filter fun name => ∀ other ∈ declared, other ≠ name → ¬ schema.Reaches other name

theorem mem_topmost : name ∈ schema.topmost declared ↔
    name ∈ declared ∧ ∀ other ∈ declared, other ≠ name → ¬ schema.Reaches other name := by
  simp only [topmost, List.mem_filter, decide_eq_true_eq]

theorem SpelledOut.mem_impliedBy (spelledOut : schema.SpelledOut) :
    lower ∈ schema.impliedBy upper ↔ schema.Reaches upper lower ∧ lower ≠ upper := by
  rw [Schema.mem_impliedBy]
  refine and_congr_left fun differs => ⟨.single, fun reaches => ?_⟩
  exact spelledOut.lists reaches differs.symm

theorem SpelledOut.unimplied_eq_topmost (spelledOut : schema.SpelledOut) (declared : List String) :
    schema.unimplied declared = schema.topmost declared := by
  rw [unimplied_eq_filter, topmost]
  refine List.filter_congr fun name _ => Bool.eq_iff_iff.mpr ?_
  simp only [List.all_eq_true, decide_eq_true_eq, spelledOut.mem_impliedBy]
  refine forall₂_congr fun other _ => ?_
  rw [not_and', ne_comm]

theorem closure_without (listed : name ∈ names)
    (unreached : ∀ other ∈ names, other ≠ name → ¬ schema.Reaches other name) :
    schema.closure (names.filter (· ≠ name)) ⊂ schema.closure names := by
  have within : schema.closure (names.filter (· ≠ name)) ⊆ schema.closure names :=
    closure_mono fun other kept => mem_closure_of_mem (List.mem_filter.mp kept).1
  refine (Set.ssubset_iff_of_subset within).mpr ⟨name, mem_closure_of_mem listed, ?_⟩
  intro covered
  obtain ⟨start, kept, reaches⟩ := covered
  obtain ⟨present, differs⟩ := List.mem_filter.mp kept
  exact unreached start present (by simpa using differs) reaches

-- One level is all levels if the lists are spelled out. Ways back do no harm to that.
theorem one_level_complete (schema : Schema) (spelledOut : schema.SpelledOut)
    (declared : List String) :
    schema.unimplied declared = schema.topmost declared ∧
    ∀ name ∈ schema.unimplied declared,
      schema.closure ((schema.unimplied declared).filter (· ≠ name)) ⊂
        schema.closure (schema.unimplied declared) ∧
      schema.closure (declared.filter (· ≠ name)) ⊂ schema.closure declared := by
  have topmost := spelledOut.unimplied_eq_topmost declared
  refine ⟨topmost, ?_⟩
  intro name kept
  obtain ⟨listed, unreached⟩ := mem_topmost.mp (topmost ▸ kept)
  refine ⟨closure_without kept ?_, closure_without listed unreached⟩
  exact fun other present => unreached other (mem_of_mem_unimplied present)

theorem document_one_level :
    let declared := ["Node", "Ghost", "Document", "Ghost", "Entity"]
    (documentSchema ["Node"]).SpelledOut ∧
    (documentSchema ["Node"]).unimplied declared = ["Ghost", "Document", "Ghost"] ∧
    (∀ other ∈ declared, other ≠ "Document" →
      ¬ (documentSchema ["Node"]).Reaches other "Document") ∧
    (documentSchema ["Node"]).closure ["Document"] ⊂
      (documentSchema ["Node"]).closure ["Ghost", "Document", "Ghost"] := by
  intro declared
  have kept : (documentSchema ["Node"]).unimplied declared = ["Ghost", "Document", "Ghost"] := by
    decide
  have spelledOut : (documentSchema ["Node"]).SpelledOut := by decide
  obtain ⟨topmost, smaller⟩ := one_level_complete (documentSchema ["Node"]) spelledOut declared
  rw [kept] at topmost smaller
  have unreached : "Document" ∈ (documentSchema ["Node"]).topmost declared := topmost ▸ by decide
  exact ⟨spelledOut, kept, (mem_topmost.mp unreached).2, (smaller "Ghost" (by decide)).1⟩

theorem Fulfilled.definedBy (fulfilled : schema.Fulfilled) (reaches : schema.Reaches upper lower) :
    ∀ field ∈ schema.definedBy lower, field ∈ schema.definedBy upper := by
  induction reaches with
  | refl => exact fun _ defined => defined
  | tail way step ih => exact fun field defined => ih field (fulfilled _ _ step field defined)

theorem Fulfilled.covered_iff (fulfilled : schema.Fulfilled) (names : List String) (field : String) :
    (∃ name ∈ names, field ∈ schema.definedBy name) ↔
      ∃ name ∈ schema.closure names, field ∈ schema.definedBy name := by
  constructor
  · intro covered
    obtain ⟨name, listed, defined⟩ := covered
    exact ⟨name, mem_closure_of_mem listed, defined⟩
  · intro covered
    obtain ⟨name, ⟨start, listed, reaches⟩, defined⟩ := covered
    exact ⟨start, listed, fulfilled.definedBy reaches field defined⟩

theorem uncovered_eq_of_covered
    (same : ∀ field ∈ fields.map Field.name, (∃ name ∈ names, field ∈ schema.definedBy name) ↔
      ∃ name ∈ others, field ∈ schema.definedBy name) :
    schema.uncovered fields names = schema.uncovered fields others := by
  rw [uncovered_eq_filter, uncovered_eq_filter]
  refine List.filter_congr fun field listed => ?_
  have covered := not_congr (same field.name (List.mem_map_of_mem listed))
  rw [Bool.eq_iff_iff]
  simpa using covered

theorem uncovered_sublist (schema : Schema) (fields : List Field)
    (within : ∀ name ∈ names, name ∈ others) :
    (schema.uncovered fields others).Sublist (schema.uncovered fields names) := by
  rw [uncovered_eq_filter, uncovered_eq_filter]
  refine List.monotone_filter_right fields fun field free => ?_
  rw [List.all_eq_true] at free ⊢
  exact fun name listed => free name (within name listed)

-- Without `Fulfilled`, leaving implied interfaces out can only bring fields back.
theorem uncovered_unimplied (schema : Schema) (declared : List String) (fields : List Field) :
    (schema.uncovered fields declared).Sublist
      (schema.uncovered fields (schema.unimplied declared)) ∧
    (schema.Layered → schema.Fulfilled →
      schema.uncovered fields (schema.unimplied declared) = schema.uncovered fields declared) := by
  refine ⟨uncovered_sublist schema fields fun _ => mem_of_mem_unimplied, ?_⟩
  intro layered fulfilled
  refine uncovered_eq_of_covered fun field _ => ?_
  rw [fulfilled.covered_iff, fulfilled.covered_iff, layered.closure_unimplied]

theorem document_stays_covered :
    let declared := ["Node", "Entity", "Ghost", "Document"]
    let fields : List Field := [⟨"id", .named "ID", []⟩, ⟨"title", .named "String", []⟩,
      ⟨"createdAt", .named "Date", []⟩, ⟨"title", .named "Title", []⟩]
    (documentSchema []).Layered ∧ (documentSchema []).Fulfilled ∧
    (documentSchema []).unimplied declared = ["Ghost", "Document"] ∧
    (documentSchema []).uncovered fields ["Ghost", "Document"] =
      (documentSchema []).uncovered fields declared := by
  intro declared fields
  have layered : (documentSchema []).Layered :=
    layered_of_rank String.length (forall_lists.mp (by decide))
  have fulfilled : (documentSchema []).Fulfilled := by decide
  have kept : (documentSchema []).unimplied declared = ["Ghost", "Document"] := by decide
  refine ⟨layered, fulfilled, kept, ?_⟩
  rw [← kept]
  exact (uncovered_unimplied (documentSchema []) declared fields).2 layered fulfilled

end ServiceTypes.Schema
