import ServiceTypes.Proofs.Table
import ServiceTypes.Source

namespace ServiceTypes

-- Names are checked one after the other. Something is made if all of them pass; otherwise the first
-- that does not is reported, and those behind it are of no account.
inductive Checks {α : Type} : Except InvalidIdentifier α → List String → Prop where
  | passed (valid : ∀ name ∈ names, isIdentifier name = true) : Checks (.ok answer) names
  | refused (valid : ∀ name ∈ before, isIdentifier name = true)
      (bad : isIdentifier name = false) : Checks (.error ⟨name⟩) (before ++ name :: after)

namespace Checks

variable {α β : Type} {made : Except InvalidIdentifier α} {names more before after : List String}
  {name : String} {act : α → Except InvalidIdentifier β}

theorem made_iff (checks : Checks made names) :
    (∃ answer, made = .ok answer) ↔ ∀ name ∈ names, isIdentifier name = true := by
  cases checks with
  | passed valid => exact ⟨fun _ => valid, fun _ => ⟨_, rfl⟩⟩
  | refused valid bad =>
    constructor
    · intro wrong
      obtain ⟨_, wrong⟩ := wrong
      cases wrong
    · intro all
      rw [all _ (by simp)] at bad
      cases bad

theorem find?_invalid (valid : ∀ name ∈ before, isIdentifier name = true)
    (bad : isIdentifier name = false) :
    (before ++ name :: after).find? (!isIdentifier ·) = some name := by
  have none : before.find? (!isIdentifier ·) = none := by
    simpa [List.find?_eq_none] using valid
  rw [List.find?_append, none, Option.none_or]
  exact List.find?_cons_of_pos (by simp [bad])

theorem error_iff {error : InvalidIdentifier} (checks : Checks made names) :
    made = .error error ↔ names.find? (!isIdentifier ·) = some error.name := by
  cases checks with
  | passed valid =>
    constructor
    · intro wrong
      cases wrong
    · intro found
      have bad := List.find?_some found
      rw [valid error.name (List.mem_of_find?_eq_some found)] at bad
      cases bad
  | refused valid bad =>
    rw [find?_invalid valid bad]
    constructor
    · rintro ⟨⟩
      rfl
    · intro same
      rw [Option.some.inj same]

theorem eq_error (checks : Checks made (before ++ name :: after))
    (valid : ∀ name ∈ before, isIdentifier name = true) (bad : isIdentifier name = false) :
    made = .error ⟨name⟩ :=
  checks.error_iff.mpr (find?_invalid valid bad)

theorem map (first : Checks made names) (make : α → β) : Checks (made.map make) names := by
  cases first with
  | passed valid => exact passed valid
  | refused valid bad => exact refused valid bad

theorem pure (answer : α) : Checks (pure answer) [] := passed nofun

theorem bind (first : Checks made names) (next : ∀ answer, Checks (act answer) more) :
    Checks (made >>= act) (names ++ more) := by
  cases first with
  | refused valid bad =>
    rw [List.append_assoc]
    exact refused valid bad
  | passed valid =>
    rename_i answer
    change Checks (act answer) (names ++ more)
    have further := next answer
    generalize act answer = result at further ⊢
    cases further with
    | passed rest => exact passed (List.forall_mem_append.mpr ⟨valid, rest⟩)
    | refused rest bad =>
      rw [← List.append_assoc]
      exact refused (List.forall_mem_append.mpr ⟨valid, rest⟩) bad

theorem andThen (first : Checks made names) (make : α → β) :
    Checks (made >>= fun answer => Pure.pure (make answer)) names := by
  have whole := first.bind fun answer => Checks.pure (make answer)
  rwa [List.append_nil] at whole

theorem mapM {mentioned : α → List String} (each : ∀ item, Checks (act item) (mentioned item))
    (items : List α) : Checks (items.mapM act) (items.flatMap mentioned) := by
  induction items with
  | nil => exact pure []
  | cons item rest ih =>
    rw [List.mapM_cons, List.flatMap_cons]
    exact (each item).bind fun answer => ih.andThen (answer :: ·)

end Checks

theorem writtenName_checks (name : String) : Checks (writtenName name) [name] := by
  unfold writtenName
  split
  · rename_i valid
    exact .passed (by simpa using valid)
  · rename_i bad
    change Checks _ ([] ++ [name])
    exact .refused nofun (by simpa using bad)

def TypedName.checkedNames (typed : TypedName) : List String :=
  typed.type.target?.toList ++ [typed.name]

def Method.checkedNames (method : Method) : List String :=
  method.name :: (method.params.flatMap TypedName.checkedNames ++ method.returns.target?.toList)

-- The base of a root contract is not among them, and a union's own name comes last.
def Declaration.checkedNames : Declaration → List String
  | record r => r.name :: r.fields.flatMap TypedName.checkedNames
  | service s => s.name :: (s.includes ++ s.methods.flatMap Method.checkedNames)
  | interface c => c.name :: (c.includes ++ c.methods.flatMap Method.checkedNames)
  | enum e => e.name :: e.members
  | union u => u.alternatives.members ++ [u.name]
  | root c => c.name :: c.methods.flatMap Method.checkedNames

def SourceModule.checkedNames (module : SourceModule) : List String :=
  module.imports.org :: module.imports.module
    :: module.declarations.flatMap Declaration.checkedNames

theorem Descriptor.spans_checks (descriptor : Descriptor) :
    Checks descriptor.spans descriptor.target?.toList := by
  induction descriptor with
  | primitive => exact .pure _
  | named name => exact (writtenName_checks name).andThen _
  | array _ ih | optional _ ih | stream _ ih => exact ih.andThen _

theorem Alternatives.spans_checks (alternatives : Alternatives) :
    Checks alternatives.spans alternatives.members := by
  induction alternatives with
  | member name => exact (writtenName_checks name).andThen _
  | either left right leftIh rightIh => exact leftIh.bind fun _ => rightIh.andThen _

theorem TypedName.spans_checks (typed : TypedName) : Checks typed.spans typed.checkedNames :=
  typed.type.spans_checks.bind fun _ => (writtenName_checks typed.name).andThen _

theorem TypedName.fieldLine_checks (field : TypedName) : Checks field.fieldLine field.checkedNames :=
  field.spans_checks.andThen _

theorem Method.signature_checks (method : Method) :
    Checks method.signature method.checkedNames := by
  refine (writtenName_checks method.name).bind fun _ => ?_
  refine (Checks.mapM TypedName.spans_checks method.params).bind fun _ => ?_
  exact method.returns.spans_checks.andThen _

theorem Method.promise_checks (method : Method) : Checks method.promise method.checkedNames :=
  method.signature_checks.andThen _

theorem Method.stub_checks (method : Method) : Checks method.stub method.checkedNames :=
  method.signature_checks.andThen _

theorem includeLines_check (includes : List String) : Checks (includes.mapM includeLine) includes := by
  have lines := Checks.mapM (fun name => (writtenName_checks name).andThen fun name =>
    innerLine [.plain "*", .name name, .plain ";"]) includes
  rwa [List.flatMap_singleton'] at lines

theorem typeHeader_checks (name : String) (rest : List Span) :
    Checks (typeHeader name rest) [name] :=
  (writtenName_checks name).andThen _

theorem Declaration.spans_checks (declaration : Declaration) :
    Checks declaration.spans declaration.checkedNames := by
  cases declaration with
  | record r =>
    refine (typeHeader_checks r.name _).bind fun _ => ?_
    exact (Checks.mapM TypedName.fieldLine_checks r.fields).andThen _
  | service s =>
    refine (writtenName_checks s.name).bind fun _ => ?_
    refine (includeLines_check s.includes).bind fun _ => ?_
    exact (Checks.mapM Method.stub_checks s.methods).andThen _
  | interface c =>
    refine (typeHeader_checks c.name _).bind fun _ => ?_
    refine (includeLines_check c.includes).bind fun _ => ?_
    exact (Checks.mapM Method.promise_checks c.methods).andThen _
  | enum e =>
    refine (writtenName_checks e.name).bind fun _ => ?_
    have members := Checks.mapM writtenName_checks e.members
    rw [List.flatMap_singleton'] at members
    exact members.andThen _
  | union u => exact u.alternatives.spans_checks.bind fun _ => typeHeader_checks u.name _
  | root c =>
    refine (typeHeader_checks c.name _).bind fun _ => ?_
    exact (Checks.mapM Method.promise_checks c.methods).andThen _

theorem SourceModule.spans_checks (module : SourceModule) :
    Checks module.spans module.checkedNames := by
  have imports : Checks module.imports.spans [module.imports.org, module.imports.module] :=
    (writtenName_checks module.imports.org).bind fun _ =>
      (writtenName_checks module.imports.module).andThen _
  exact imports.bind fun _ =>
    (Checks.mapM Declaration.spans_checks module.declarations).andThen _

theorem SourceModule.source_checks (palette : Palette) (module : SourceModule) :
    Checks (module.source palette) module.checkedNames :=
  module.spans_checks.map palette.paint

def Declaration.rebased (base : RootContract → String) : Declaration → Declaration
  | record r => .record r
  | service s => .service s
  | interface c => .interface c
  | enum e => .enum e
  | union u => .union u
  | root c => .root { c with base := base c }

def SourceModule.rebased (base : RootContract → String) (module : SourceModule) : SourceModule :=
  { module with declarations := module.declarations.map (Declaration.rebased base) }

theorem SourceModule.rebased_checkedNames (base : RootContract → String) (module : SourceModule) :
    (module.rebased base).checkedNames = module.checkedNames := by
  have each : ∀ declaration : Declaration,
      (declaration.rebased base).checkedNames = declaration.checkedNames := by
    intro declaration
    cases declaration <;> rfl
  simp [checkedNames, rebased, List.flatMap_map, each]

-- A module is written if all of its names are identifiers. Otherwise the first that is none is
-- reported, in the order of `checkedNames`, and what the bases are makes no difference to it.
theorem SourceModule.source_reports_first (module : SourceModule) (palette : Palette) :
    ((∃ text, module.source palette = .ok text) ↔
      ∀ name ∈ module.checkedNames, isIdentifier name = true) ∧
    (∀ error, module.source palette = .error error ↔
      module.checkedNames.find? (!isIdentifier ·) = some error.name) ∧
    ∀ base error, (module.rebased base).source palette = .error error ↔
      module.source palette = .error error := by
  have checks := module.source_checks palette
  refine ⟨checks.made_iff, fun error => checks.error_iff, ?_⟩
  intro base error
  have rebased := (module.rebased base).source_checks palette
  rw [rebased_checkedNames] at rebased
  rw [rebased.error_iff, checks.error_iff]

example : (SourceModule.mk .graphql
    [.union ⟨"my union", .either (.member "Page") (.member "e-mail")⟩]).source .off =
      .error ⟨"e-mail"⟩ := by decide

end ServiceTypes
