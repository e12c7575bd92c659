import ServiceTypes.Proofs.Closure

namespace ServiceTypes.Schema

variable {schema : Schema} {name field : String} {declared kept interfaces others : List String}
  {fields : List Field}

def Defines (schema : Schema) (name field : String) : Prop :=
  ∃ members, schema.interface? name = some members ∧ field ∈ members.fields.map Field.name

theorem mem_definedBy : field ∈ schema.definedBy name ↔ schema.Defines name field := by
  cases found : schema.interface? name <;> simp [definedBy, Defines, found]

instance (schema : Schema) (name field : String) : Decidable (schema.Defines name field) :=
  decidable_of_iff _ mem_definedBy

theorem unimplied_eq_unlisted (schema : Schema) (declared : List String) :
    schema.unimplied declared =
      declared.filter fun name => ∀ other ∈ declared, other ≠ name → ¬ schema.Lists other name := by
  rw [unimplied_eq_filter]
  refine List.filter_congr fun name _ => ?_
  rw [Bool.eq_iff_iff, List.all_eq_true, decide_eq_true_eq]
  refine forall₂_congr fun other _ => ?_
  rw [decide_eq_true_eq, mem_impliedBy, not_and', ne_comm]

theorem unimplied_eq_self
    (unlisted : ∀ name ∈ kept, ∀ other ∈ kept, other ≠ name → ¬ schema.Lists other name) :
    schema.unimplied kept = kept := by
  rw [unimplied_eq_unlisted, List.filter_eq_self]
  exact fun name listed => decide_eq_true (unlisted name listed)

theorem unimplied_unimplied (schema : Schema) (declared : List String) :
    schema.unimplied (schema.unimplied declared) = schema.unimplied declared := by
  refine unimplied_eq_self fun name survives other present => ?_
  exact (mem_unimplied.mp survives).2 other (mem_of_mem_unimplied present)

theorem unimplied_congr (same : ∀ name, name ∈ others ↔ name ∈ declared) :
    schema.unimplied others = others.filter (· ∈ schema.unimplied declared) := by
  rw [unimplied_eq_unlisted]
  refine List.filter_congr fun name listed => ?_
  simp only [mem_unimplied, same, (same name).mp listed, true_and]

-- What strikes is what was declared, also what has been struck itself, so neither order nor
-- repetition is of account.
theorem unimplied_set_determined (schema : Schema) (declared : List String) :
    (schema.unimplied declared =
      declared.filter fun name => ∀ other ∈ declared, other ≠ name → ¬ schema.Lists other name) ∧
    schema.unimplied (schema.unimplied declared) = schema.unimplied declared ∧
    ∀ others, (∀ name, name ∈ others ↔ name ∈ declared) →
      schema.unimplied others = others.filter (· ∈ schema.unimplied declared) :=
  ⟨schema.unimplied_eq_unlisted declared, schema.unimplied_unimplied declared,
    fun _ => unimplied_congr⟩

def circleSchema : Schema where
  types := [
    ⟨"Parent", .interface ⟨[], ["Child"]⟩⟩,
    ⟨"Child", .interface ⟨[], ["Parent", "Node"]⟩⟩,
    ⟨"Node", .interface ⟨[], ["Node"]⟩⟩,
    ⟨"Root", .interface ⟨[], ["Root", "Ghost"]⟩⟩]
  names_nodup := (by decide : ["Parent", "Child", "Node", "Root"].Nodup)

theorem circle_set_determined :
    let declared := ["Parent", "Root", "Child", "Void", "Root", "Node"]
    let others := ["Node", "Void", "Child", "Root", "Void", "Parent"]
    (∀ name, name ∈ others ↔ name ∈ declared) ∧
    circleSchema.unimplied declared = ["Root", "Void", "Root"] ∧
    circleSchema.unimplied others = ["Void", "Root", "Void"] := by
  intro declared others
  have same : ∀ name, name ∈ others ↔ name ∈ declared := by
    intro name
    simp only [declared, others, List.mem_cons, List.not_mem_nil, or_false]
    tauto
  obtain ⟨-, -, determined⟩ := unimplied_set_determined circleSchema declared
  exact ⟨same, by decide, (determined others same).trans (by decide)⟩

theorem uncovered_eq_undefined (schema : Schema) (fields : List Field) (interfaces : List String) :
    schema.uncovered fields interfaces =
      fields.filter fun field => ∀ name ∈ interfaces, ¬ schema.Defines name field.name := by
  rw [uncovered_eq_filter]
  refine List.filter_congr fun field _ => ?_
  rw [Bool.eq_iff_iff, List.all_eq_true, decide_eq_true_eq]
  refine forall₂_congr fun name _ => ?_
  rw [decide_eq_true_eq, mem_definedBy]

theorem uncovered_append (schema : Schema) (fields : List Field) (first second : List String) :
    schema.uncovered (schema.uncovered fields first) second =
      schema.uncovered fields (first ++ second) :=
  List.foldl_append.symm

-- Names that are no interfaces of the table cover nothing.
theorem uncovered_congr_resolved
    (same : ∀ name, (schema.interface? name).isSome → (name ∈ others ↔ name ∈ interfaces)) :
    schema.uncovered fields others = schema.uncovered fields interfaces := by
  refine uncovered_eq_of_covered fun field _ => exists_congr fun name => and_congr_left fun defined => ?_
  obtain ⟨members, found, -⟩ := mem_definedBy.mp defined
  exact same name (by rw [found]; rfl)

theorem uncovered_composes (schema : Schema) (fields : List Field) (interfaces : List String) :
    (schema.uncovered fields interfaces =
      fields.filter fun field => ∀ name ∈ interfaces, ¬ schema.Defines name field.name) ∧
    (∀ more, schema.uncovered (schema.uncovered fields interfaces) more =
      schema.uncovered fields (interfaces ++ more)) ∧
    (∀ others,
      (∀ name, (schema.interface? name).isSome → (name ∈ others ↔ name ∈ interfaces)) →
        schema.uncovered fields others = schema.uncovered fields interfaces) ∧
    ∀ larger, (∀ name ∈ interfaces, name ∈ larger) →
      (schema.uncovered fields larger).Sublist (schema.uncovered fields interfaces) :=
  ⟨schema.uncovered_eq_undefined fields interfaces,
    schema.uncovered_append fields interfaces,
    fun _ => uncovered_congr_resolved,
    fun _ => uncovered_sublist schema fields⟩

theorem document_composes :
    let title : Field := ⟨"title", .named "String", []⟩
    let body : Field := ⟨"body", .named "Text", [⟨"format", .named "Format"⟩]⟩
    let fields := [⟨"id", .named "ID", []⟩, title, ⟨"createdAt", .named "Date", []⟩, body, title]
    let interfaces := ["Node", "Entity"]
    let others := ["Entity", "Ghost", "Node", "Entity"]
    let larger := ["Document", "Entity", "Node"]
    (∀ name, ((documentSchema []).interface? name).isSome →
      (name ∈ others ↔ name ∈ interfaces)) ∧
    (∀ name ∈ interfaces, name ∈ larger) ∧
    (documentSchema []).uncovered fields others = [title, body, title] ∧
    ((documentSchema []).uncovered fields larger).Sublist [title, body, title] := by
  intro title body fields interfaces others larger
  have same : ∀ name, ((documentSchema []).interface? name).isSome →
      (name ∈ others ↔ name ∈ interfaces) := by
    intro name found
    have known : name ≠ "Ghost" := by
      rintro rfl
      exact absurd found (by decide)
    simp only [others, interfaces, List.mem_cons, List.not_mem_nil, or_false, known, false_or]
    tauto
  have within : ∀ name ∈ interfaces, name ∈ larger := by decide
  have left : (documentSchema []).uncovered fields interfaces = [title, body, title] := by decide
  obtain ⟨-, -, congr, mono⟩ := uncovered_composes (documentSchema []) fields interfaces
  exact ⟨same, within, (congr others same).trans left, left ▸ mono larger within⟩

end ServiceTypes.Schema
