import ServiceTypes.Proofs.Dependence
import ServiceTypes.Sdl.Reader

namespace ServiceTypes

theorem filter_name_eq_of_perm {declarations others : List Declaration}
    (distinct : (declarations.map Declaration.name).Nodup) (same : declarations.Perm others)
    (name : String) : declarations.filter (·.name = name) = others.filter (·.name = name) := by
  have kept := same.filter (·.name = name)
  cases found : declarations.filter (·.name = name) with
  | nil =>
    rw [found] at kept
    exact kept.nil_eq
  | cons declaration rest =>
    cases rest with
    | nil =>
      rw [found] at kept
      exact (List.perm_singleton.mp kept.symm).symm
    | cons other rest =>
      have named : ∀ one ∈ declaration :: other :: rest, one.name = name := by
        intro one listed
        rw [← found] at listed
        simpa using (List.mem_filter.mp listed).2
      have apart : ((declaration :: other :: rest).map Declaration.name).Nodup := by
        rw [← found]
        exact (List.filter_sublist.map _).nodup distinct
      simp [named declaration, named other] at apart

namespace Schema

variable {schema first second : Schema} {type : SchemaType} {name : String}

def written (schema : Schema) : List SchemaType := schema.types.filter (·.kind ≠ .scalar)

theorem filter_kind_written {kind : Kind} (other : kind ≠ .scalar) :
    schema.written.filter (·.kind = kind) = schema.types.filter (·.kind = kind) := by
  rw [written, List.filter_filter]
  refine List.filter_congr fun type _ => ?_
  by_cases same : type.kind = kind <;> simp [same, other]

-- The same types in whatever order, and the same roots. Scalars do not count.
structure SameTypes (first second : Schema) : Prop where
  types : first.written.Perm second.written
  roots : first.roots = second.roots

namespace SameTypes

theorem symm (same : SameTypes first second) : SameTypes second first :=
  ⟨same.types.symm, same.roots.symm⟩

theorem mem_iff (same : SameTypes first second) (other : type.kind ≠ .scalar) :
    type ∈ first.types ↔ type ∈ second.types := by
  have member : type ∈ first.written ↔ type ∈ second.written := same.types.mem_iff
  simpa [Schema.written, other] using member

theorem isRoot_eq (same : SameTypes first second) (name : String) :
    first.isRoot name = second.isRoot name := by
  unfold isRoot
  rw [same.roots]

theorem interface?_eq (same : SameTypes first second) (name : String) :
    first.interface? name = second.interface? name := by
  refine Option.ext fun members => ?_
  rw [interface?_eq_some, interface?_eq_some]
  exact same.mem_iff nofun

theorem object?_eq (same : SameTypes first second) (name : String) :
    first.object? name = second.object? name := by
  refine Option.ext fun members => ?_
  rw [object?_eq_some, object?_eq_some]
  exact same.mem_iff nofun

theorem referable (same : SameTypes first second) (known : first.IsReferable name) :
    second.IsReferable name := by
  obtain ⟨type, member, named, other⟩ := known
  exact ⟨type, (same.mem_iff other).mp member, named, other⟩

theorem targetDescriptor_eq (same : SameTypes first second) (name : String) :
    first.targetDescriptor name = second.targetDescriptor name := by
  by_cases known : first.IsReferable name
  · rw [targetDescriptor_of_referable known, targetDescriptor_of_referable (same.referable known)]
  · have unknown : ¬ second.IsReferable name :=
      fun elsewhere => known (same.symm.referable elsewhere)
    rw [targetDescriptor_of_not_referable known, targetDescriptor_of_not_referable unknown]

theorem unionMember (same : SameTypes first second) (listed : name ∈ first.unionMembers) :
    name ∈ second.unionMembers := by
  refine mem_unionMembers_of_kept (fun union member has => (same.mem_iff ?_).mp member) listed
  intro scalar
  cases shape : union.shape with
  | scalar => simp [Shape.unionMembers, shape] at has
  | _ => simp [SchemaType.kind, Shape.kind, shape] at scalar

-- The order of a table is never asked for, so all declarations agree.
theorem agreeOn (same : SameTypes first second) (type : SchemaType) :
    AgreeOn first second type where
  declared := by rw [isDeclared, isDeclared, same.isRoot_eq]
  references := fun reference _ => describe_congr (same.targetDescriptor_eq reference.target)
  interfaces := fun name _ => same.interface?_eq name
  unions := ⟨same.unionMember, same.symm.unionMember⟩

theorem declaration?_eq (same : SameTypes first second) (recordsForced : Bool) :
    first.declaration? recordsForced = second.declaration? recordsForced :=
  funext fun type => (same.agreeOn type).declaration?_eq recordsForced

theorem rootContract_eq (same : SameTypes first second) (contract : String) :
    first.rootContract contract = second.rootContract contract :=
  rootContract_congr same.roots (fun name _ => same.object?_eq name)
    (fun _ _ _ _ reference _ => describe_congr (same.targetDescriptor_eq reference.target)) contract

theorem ofKind_perm (same : SameTypes first second) (recordsForced : Bool) (kind : Kind) :
    ((first.sections recordsForced).ofKind kind).Perm
      ((second.sections recordsForced).ofKind kind) := by
  by_cases scalar : kind = .scalar
  · rw [scalar]
    exact List.Perm.refl []
  · rw [sections_ofKind, sections_ofKind, same.declaration?_eq, ← filter_kind_written scalar,
      ← filter_kind_written scalar]
    exact (same.types.filter _).filterMap _

theorem declarations_perm (same : SameTypes first second) (recordsForced : Bool) :
    (first.declarations recordsForced).Perm (second.declarations recordsForced) := by
  rw [declarations, declarations, Sections.declarations_eq_flatMap,
    Sections.declarations_eq_flatMap]
  exact List.Perm.flatMap_left _ fun kind _ => same.ofKind_perm recordsForced kind

end SameTypes

-- Order shows inside the sections and nowhere else. The module is its root contract and then the
-- sections, kind by kind.
theorem order_shows_within_sections (first second : Schema) (types : first.types.Perm second.types)
    (roots : first.roots = second.roots) (root : String) (recordsForced : Bool) :
    (∀ schema ∈ [first, second], (schema.toModule root recordsForced).declarations =
      .root (schema.rootContract root) ::
        Kind.inWritingOrder.flatMap (schema.sections recordsForced).ofKind) ∧
    first.rootContract root = second.rootContract root ∧
    (∀ name, (first.toModule root recordsForced).declarations.tail.filter (·.name = name) =
      (second.toModule root recordsForced).declarations.tail.filter (·.name = name)) ∧
    ∀ kind, ((first.sections recordsForced).ofKind kind).length =
        ((second.sections recordsForced).ofKind kind).length ∧
      ((first.sections recordsForced).ofKind kind).Perm
        ((second.sections recordsForced).ofKind kind) := by
  have same : SameTypes first second := ⟨types.filter _, roots⟩
  refine ⟨?_, same.rootContract_eq root, ?_, ?_⟩
  · intro schema _
    rw [toModule, declarations, Sections.declarations_eq_flatMap]
  · intro name
    exact filter_name_eq_of_perm (first.declared_names_nodup recordsForced)
      (same.declarations_perm recordsForced) name
  · intro kind
    have moved := same.ofKind_perm recordsForced kind
    exact ⟨moved.length_eq, moved⟩

def turnedPress : Schema where
  types := pressSchema.types.reverse
  names_nodup := by decide

theorem turnedPress_order :
    pressSchema.types.Perm turnedPress.types ∧ pressSchema.roots = turnedPress.roots ∧
    pressSchema.rootContract "Press" = turnedPress.rootContract "Press" ∧
    ((pressSchema.sections true).ofKind .object).Perm ((turnedPress.sections true).ofKind .object) ∧
    (pressSchema.sections true).ofKind .object ≠ (turnedPress.sections true).ofKind .object := by
  have turned : pressSchema.types.Perm turnedPress.types := (List.reverse_perm _).symm
  obtain ⟨-, contract, -, moved⟩ :=
    order_shows_within_sections pressSchema turnedPress turned rfl "Press" true
  exact ⟨turned, rfl, contract, (moved .object).2, by decide⟩

variable {keep : SchemaType → Bool}

def keeping (schema : Schema) (keep : SchemaType → Bool) : Schema where
  types := schema.types.filter keep
  roots := schema.roots
  names_nodup := (List.filter_sublist.map SchemaType.name).nodup schema.names_nodup

theorem toModule_of_written_eq (written : first.written = second.written)
    (roots : first.roots = second.roots) (root : String) (recordsForced : Bool) :
    first.toModule root recordsForced = second.toModule root recordsForced := by
  have same : SameTypes first second := ⟨.of_eq written, roots⟩
  have declarations : first.declarations recordsForced = second.declarations recordsForced := by
    rw [declarations_eq_flatMap, declarations_eq_flatMap, same.declaration?_eq]
    refine List.flatMap_congr fun kind listed => ?_
    have other : kind ≠ .scalar := by
      rintro rfl
      simp [Kind.inWritingOrder] at listed
    rw [← filter_kind_written other, ← filter_kind_written other, written]
  rw [toModule, toModule, same.rootContract_eq, declarations]

theorem keeping_written
    (scalars : ∀ type ∈ schema.types, keep type = false → type.kind = .scalar) :
    (schema.keeping keep).written = schema.written := by
  unfold written keeping
  rw [List.filter_filter]
  refine List.filter_congr fun type member => ?_
  cases kept : keep type with
  | true => simp
  | false => simp [scalars type member kept]

theorem insert_scalar_written (absent : schema.get? name = none) :
    (schema.insert ⟨name, .scalar⟩).written = schema.written := by
  have behind : (schema.insert ⟨name, .scalar⟩).types = schema.types ++ [⟨name, .scalar⟩] :=
    place_of_absent (get?_eq_none.mp absent)
  rw [written, behind, List.filter_append, written]
  simp [SchemaType.kind, Shape.kind]

end Schema

namespace Sdl

theorem withScalar_written (schema : Schema) (name : String) :
    (withScalar schema name).written = schema.written ∧
      (withScalar schema name).roots = schema.roots := by
  unfold withScalar
  split
  · exact ⟨rfl, rfl⟩
  · rename_i absent
    exact ⟨Schema.insert_scalar_written (by simpa using absent), rfl⟩

theorem withScalars_written (names : List String) (schema : Schema) :
    (names.foldl withScalar schema).written = schema.written ∧
      (names.foldl withScalar schema).roots = schema.roots := by
  induction names generalizing schema with
  | nil => exact ⟨rfl, rfl⟩
  | cons name rest ih =>
    obtain ⟨written, roots⟩ := ih (withScalar schema name)
    obtain ⟨before, rooted⟩ := withScalar_written schema name
    exact ⟨written.trans before, roots.trans rooted⟩

end Sdl

namespace Schema

-- To leave scalars out, to put one in under a free name and to complete a table by the builtin ones
-- as loading does: none of it shows.
theorem scalars_transparent (schema : Schema) (root : String) (recordsForced : Bool) :
    (∀ keep : SchemaType → Bool,
      (∀ type ∈ schema.types, keep type = false → type.kind = .scalar) →
      (schema.keeping keep).toModule root recordsForced = schema.toModule root recordsForced) ∧
    (∀ name, schema.get? name = none →
      (schema.insert ⟨name, .scalar⟩).toModule root recordsForced =
        schema.toModule root recordsForced) ∧
    (builtinScalars.foldl Sdl.withScalar schema).toModule root recordsForced =
      schema.toModule root recordsForced ∧
    ∀ text document, Sdl.Document.ofText text = .ok document →
      ∃ loaded, Schema.ofText text = .ok loaded ∧ loaded.toModule root recordsForced =
        (document.foldl Sdl.Definition.apply .empty).toModule root recordsForced := by
  have completed (schema : Schema) :
      (builtinScalars.foldl Sdl.withScalar schema).toModule root recordsForced =
        schema.toModule root recordsForced := by
    obtain ⟨written, roots⟩ := Sdl.withScalars_written builtinScalars schema
    exact toModule_of_written_eq written roots root recordsForced
  refine ⟨?_, ?_, completed schema, ?_⟩
  · intro keep scalars
    exact toModule_of_written_eq (keeping_written scalars) rfl root recordsForced
  · intro name absent
    exact toModule_of_written_eq (insert_scalar_written absent) rfl root recordsForced
  · intro text document read
    refine ⟨document.schema, ?_, completed _⟩
    rw [ofText, read]
    rfl

-- `Date` is mentioned, listed as an interface and named as a root.
def calendarSchema : Schema where
  types := [
    ⟨"Date", .scalar⟩,
    ⟨"Meeting", .object ⟨[⟨"on", .nonNull (.named "Date"), [⟨"zone", .list (.named "Zone")⟩]⟩,
      ⟨"room", .named "Room", []⟩], ["Date", "Room"]⟩⟩,
    ⟨"Room", .interface ⟨[⟨"name", .named "String", []⟩], []⟩⟩]
  roots := { query := some "Date" }
  names_nodup := by decide

def calendarText : String := "scalar Date type Meeting \x7b on: Date!, title: String \x7d"

theorem calendar_scalars_transparent :
    (calendarSchema.keeping (·.name ≠ "Date")).toModule "Calendar" true =
      calendarSchema.toModule "Calendar" true ∧
    (calendarSchema.insert ⟨"Zone", .scalar⟩).toModule "Calendar" true =
      calendarSchema.toModule "Calendar" true ∧
    ∃ document loaded, Sdl.Document.ofText calendarText = .ok document ∧
      Schema.ofText calendarText = .ok loaded ∧ loaded.toModule "Calendar" true =
        (document.foldl Sdl.Definition.apply .empty).toModule "Calendar" true := by
  obtain ⟨kept, inserted, -, texts⟩ := scalars_transparent calendarSchema "Calendar" true
  refine ⟨kept _ (by decide), inserted "Zone" (by decide), ?_⟩
  have readable : (Sdl.Document.ofText calendarText).isOk = true := by decide +kernel
  cases read : Sdl.Document.ofText calendarText with
  | error error => rw [read] at readable; cases readable
  | ok document =>
    obtain ⟨loaded, made, same⟩ := texts calendarText document read
    exact ⟨document, loaded, rfl, made, same⟩

end Schema

end ServiceTypes
