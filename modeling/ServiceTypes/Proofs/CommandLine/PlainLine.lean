import ServiceTypes.CommandLine.Arguments
import ServiceTypes.Proofs.Basic

namespace ServiceTypes.CommandLine

def Setting.isOutward : Setting → Bool
  | output | color => true
  | name | format => false

def Flag.isOutward : Flag → Bool
  | .switch _ => false
  | .setting which => which.isOutward

-- What is left of a cluster, and whether the value of what was taken out of it comes with the next
-- argument.
def plainLetters : List Char → List Char × Bool
  | [] => ([], false)
  | letter :: letters => match Verb.generate.short? letter with
    | some (.setting setting) =>
      if setting.isOutward then ([], letters.isEmpty) else (letter :: letters, false)
    | _ => (letter :: (plainLetters letters).1, (plainLetters letters).2)

def cluster : List Char → List String
  | [] => []
  | letters => [String.ofList ('-' :: letters)]

-- What is left of the arguments behind the command. The first one may be the value of an option
-- that was taken out.
def plainArguments (awaited : Bool) : List String → List String
  | [] => []
  | argument :: rest => match Word.ofArgument argument with
    | .terminator => argument :: rest
    | .long name value =>
      if (Verb.generate.long? name).any Flag.isOutward then plainArguments value.isNone rest
      else argument :: plainArguments false rest
    | .short letters =>
      cluster (plainLetters letters).1 ++ plainArguments (plainLetters letters).2 rest
    | .operand _ =>
      if awaited then plainArguments false rest else argument :: plainArguments false rest

def plainLine : List String → List String
  | [] => []
  | argument :: rest => match Word.ofArgument argument with
    | .operand _ => argument :: "--color" :: "never" :: plainArguments false rest
    | _ => argument :: plainLine rest

theorem fill_eq_ok {α : Type} {place value filled : Option α} :
    fill place value = .ok filled ↔ place = none ∧ value = filled ∧ filled.isSome := by
  unfold fill
  cases place with
  | some held => simp
  | none => cases value <;> cases filled <;> simp

namespace Draft

variable {draft next : Draft} {setting : Setting} {value : String}

def plain (draft : Draft) : Draft := { draft with output := none, color := some .never }

theorem set_schema (done : draft.set setting value = .ok next) : next.schema = draft.schema := by
  cases setting <;>
  · simp only [set, bind_eq_ok, pure_eq_ok] at done
    obtain ⟨filled, -, rfl⟩ := done
    rfl

theorem set_outward (outward : setting.isOutward = true)
    (done : draft.set setting value = .ok next) : next.plain = draft.plain := by
  cases setting with
  | name | format => cases outward
  | output | color =>
    simp only [set, bind_eq_ok, pure_eq_ok] at done
    obtain ⟨filled, -, rfl⟩ := done
    rfl

theorem set_plain (inward : setting.isOutward = false)
    (done : draft.set setting value = .ok next) :
    draft.plain.set setting value = .ok next.plain := by
  cases setting with
  | output | color => cases inward
  | name | format =>
    simp only [set, bind_eq_ok, pure_eq_ok] at done ⊢
    obtain ⟨filled, room, rfl⟩ := done
    exact ⟨filled, room, rfl⟩

theorem turnOn_plain {switch : Switch} (done : draft.turnOn switch = .ok next) :
    draft.plain.turnOn switch = .ok next.plain := by
  cases switch with
  | help => cases done
  | verbose =>
    cases done
    rfl
  | recordsForced =>
    simp only [turnOn] at done ⊢
    by_cases on : draft.recordsForced = true
    · rw [if_pos on] at done
      cases done
    · rw [if_neg on] at done
      cases done
      exact if_neg on

end Draft

def Pending.isOutward : Pending → Bool
  | .schema _ => false
  | .setting which _ => which.isOutward

namespace Reading

inductive Settles : Reading → Draft → Prop where
  | nothing {draft : Draft} : Settles ⟨draft, none⟩ draft
  | schema {draft : Draft} {path : String} {filled : Option String}
      (room : fill draft.schema (pathOfWord? path) = .ok filled) :
      Settles ⟨draft, some (.schema path)⟩ { draft with schema := filled }
  | setting {draft next : Draft} {setting : Setting} {value : String}
      (set : draft.set setting value = .ok next) :
      Settles ⟨draft, some (.setting setting (some value))⟩ next

variable {verb : Verb} {reading next : Reading} {draft : Draft} {setting : Setting}

def plain (reading : Reading) : Reading :=
  ⟨reading.draft.plain, reading.pending.filter fun pending => !pending.isOutward⟩

-- The next argument, if it is an operand, belongs to a setting that has been taken out.
def awaits (reading : Reading) : Bool := match reading.pending with
  | some (.setting setting none) => setting.isOutward
  | _ => false

theorem plain_schema (path : String) :
    (⟨draft, some (.schema path)⟩ : Reading).plain = ⟨draft.plain, some (.schema path)⟩ := rfl

theorem plain_inward (inward : setting.isOutward = false) (value : Option String) :
    (⟨draft, some (.setting setting value)⟩ : Reading).plain =
      ⟨draft.plain, some (.setting setting value)⟩ := by
  simp [plain, Pending.isOutward, inward]

theorem plain_outward (outward : setting.isOutward = true) (value : Option String) :
    (⟨draft, some (.setting setting value)⟩ : Reading).plain = ⟨draft.plain, none⟩ := by
  simp [plain, Pending.isOutward, outward]

theorem settles_of_settle (settled : reading.settle = .ok draft) : Settles reading draft := by
  obtain ⟨held, pending⟩ := reading
  match pending with
  | none =>
    cases settled
    exact .nothing
  | some (.schema path) =>
    simp only [settle, bind_eq_ok, pure_eq_ok] at settled
    obtain ⟨filled, room, rfl⟩ := settled
    exact .schema room
  | some (.setting setting none) => cases settled
  | some (.setting setting (some value)) => exact .setting settled

theorem settle_plain (settled : reading.settle = .ok draft) :
    reading.plain.settle = .ok draft.plain := by
  cases settles_of_settle settled with
  | nothing => rfl
  | schema room =>
    simp only [plain_schema, settle, bind_eq_ok, pure_eq_ok]
    exact ⟨_, room, rfl⟩
  | @setting held _ setting value set =>
    by_cases outward : setting.isOutward = true
    · rw [plain_outward outward, Draft.set_outward outward set]
      rfl
    · rw [Bool.not_eq_true] at outward
      rw [plain_inward outward]
      exact Draft.set_plain outward set

theorem hasSchema_settle (settled : reading.settle = .ok draft) :
    reading.hasSchema = draft.schema.isSome := by
  cases settles_of_settle settled with
  | nothing => exact Bool.or_false _
  | schema room =>
    rw [(fill_eq_ok.mp room).2.2]
    exact Bool.or_true _
  | setting set =>
    rw [Draft.set_schema set]
    exact Bool.or_false _

-- Nothing depends on whether what is pending has been looked at, unless there is a fault in it.
section Settled

variable (settled : reading.settle = .ok draft)
include settled

theorem schema_settled (path : String) :
    reading.schema path = schema ⟨draft, none⟩ path := by
  simp only [schema, hasSchema_settle settled, settled]
  have held : hasSchema ⟨draft, none⟩ = draft.schema.isSome := hasSchema_settle rfl
  rw [held]
  rfl

theorem operand_settled (text : String) :
    reading.operand text = operand ⟨draft, none⟩ text := by
  have same := schema_settled settled text
  cases settles_of_settle settled <;> exact same

theorem setting_settled (setting : Setting) (value : Option String) :
    reading.setting setting value = Reading.setting ⟨draft, none⟩ setting value := by
  rw [Reading.setting, settled]
  rfl

theorem switch_settled (switch : Switch) :
    reading.switch switch = Reading.switch ⟨draft, none⟩ switch := by
  rw [Reading.switch, settled]
  rfl

theorem operands_settled (arguments : List String) :
    reading.operands arguments = operands ⟨draft, none⟩ arguments := by
  cases arguments with
  | nil => exact settled
  | cons argument rest => rw [operands, operands, schema_settled settled]

theorem long_settled (name : String) (value : Option String) :
    reading.long verb name value = long verb ⟨draft, none⟩ name value := by
  simp only [long, setting_settled settled, switch_settled settled]

theorem short_settled (letter : Char) (letters : List Char) :
    reading.short verb (letter :: letters) = short verb ⟨draft, none⟩ (letter :: letters) := by
  simp only [short, setting_settled settled, switch_settled settled]

theorem arguments_settled (arguments : List String) :
    reading.arguments verb arguments = Reading.arguments verb ⟨draft, none⟩ arguments := by
  induction arguments with
  | nil => exact settled
  | cons argument rest ih =>
    rw [Reading.arguments, Reading.arguments]
    cases Word.ofArgument argument with
    | terminator => exact operands_settled settled rest
    | long name value => simp only [long_settled settled]
    | operand text => simp only [operand_settled settled]
    | short letters =>
      cases letters with
      | nil => exact ih
      | cons letter letters => simp only [short_settled settled]

end Settled

theorem schema_eq_ok {path : String} :
    reading.schema path = .ok next ↔ reading.hasSchema = false ∧
      ∃ draft, reading.settle = .ok draft ∧ ⟨draft, some (.schema path)⟩ = next := by
  unfold schema
  by_cases held : reading.hasSchema = true
  · simp [held]
  · rw [if_neg held, bind_eq_ok]
    simp only [pure_eq_ok, held, true_and]

theorem schema_plain {path : String} (done : reading.schema path = .ok next) :
    reading.plain.schema path = .ok next.plain := by
  obtain ⟨missing, draft, settled, rfl⟩ := schema_eq_ok.mp done
  refine schema_eq_ok.mpr ⟨?_, draft.plain, settle_plain settled, rfl⟩
  rw [hasSchema_settle settled] at missing
  rw [hasSchema_settle (settle_plain settled)]
  exact missing

theorem operands_plain {arguments : List String} (done : reading.operands arguments = .ok draft) :
    reading.plain.operands arguments = .ok draft.plain := by
  induction arguments generalizing reading with
  | nil => exact settle_plain done
  | cons argument rest ih =>
    obtain ⟨next, step, further⟩ := bind_eq_ok.mp done
    exact bind_eq_ok.mpr ⟨_, schema_plain step, ih further⟩

theorem switch_eq_ok {switch : Switch} :
    reading.switch switch = .ok next ↔ ∃ draft, reading.settle = .ok draft ∧
      ∃ turned, draft.turnOn switch = .ok turned ∧ ⟨turned, none⟩ = next := by
  simp only [Reading.switch, bind_eq_ok, pure_eq_ok]

theorem switch_plain {switch : Switch} (done : reading.switch switch = .ok next) :
    reading.plain.switch switch = .ok next.plain ∧ next.awaits = false := by
  obtain ⟨draft, settled, turned, turning, rfl⟩ := switch_eq_ok.mp done
  exact ⟨switch_eq_ok.mpr ⟨_, settle_plain settled, _, Draft.turnOn_plain turning, rfl⟩, rfl⟩

theorem setting_inward {value : Option String} (inward : setting.isOutward = false)
    (done : reading.setting setting value = .ok next) :
    reading.plain.setting setting value = .ok next.plain ∧ next.awaits = false := by
  simp only [Reading.setting, bind_eq_ok] at done ⊢
  obtain ⟨draft, settled, reached⟩ := done
  cases value with
  | none =>
    cases reached
    rw [plain_inward inward]
    exact ⟨⟨_, settle_plain settled, rfl⟩, inward⟩
  | some value =>
    simp only [bind_eq_ok, pure_eq_ok] at reached ⊢
    obtain ⟨filled, setting, rfl⟩ := reached
    exact ⟨⟨_, settle_plain settled, _, Draft.set_plain inward setting, rfl⟩, rfl⟩

-- Where a setting is taken out, the reading without it stays as it is, and has yet to settle.
theorem setting_outward {value : Option String} (outward : setting.isOutward = true)
    (done : reading.setting setting value = .ok next) :
    next.awaits = value.isNone ∧ ∀ arguments,
      reading.plain.arguments .generate arguments = next.plain.arguments .generate arguments := by
  simp only [Reading.setting, bind_eq_ok] at done
  obtain ⟨draft, settled, reached⟩ := done
  have same : next.awaits = value.isNone ∧ next.plain = ⟨draft.plain, none⟩ := by
    cases value with
    | none =>
      cases reached
      exact ⟨outward, plain_outward outward none⟩
    | some value =>
      simp only [bind_eq_ok, pure_eq_ok] at reached
      obtain ⟨filled, set, rfl⟩ := reached
      exact ⟨rfl, congrArg (Reading.mk · none) (Draft.set_outward outward set)⟩
  refine ⟨same.1, fun arguments => ?_⟩
  rw [same.2]
  exact arguments_settled (settle_plain settled) arguments

theorem operand_plain {text : String} (done : reading.operand text = .ok next) :
    next.awaits = false ∧ (reading.awaits = true → next.plain = reading.plain) ∧
      (reading.awaits = false → reading.plain.operand text = .ok next.plain) := by
  obtain ⟨held, pending⟩ := reading
  match pending with
  | some (.setting setting none) =>
    cases done
    refine ⟨rfl, fun outward => ?_, fun inward => ?_⟩
    · rw [plain_outward outward, plain_outward outward]
    · rw [plain_inward inward, plain_inward inward]
      rfl
  | none | some (.schema _) | some (.setting _ (some _)) =>
    obtain ⟨-, draft, settled, rfl⟩ := schema_eq_ok.mp done
    refine ⟨rfl, nofun, fun _ => ?_⟩
    rw [operand_settled (settle_plain settled), operand,
      ← schema_settled (settle_plain settled)]
    exact schema_plain done

theorem long_plain {name : String} {value : Option String}
    (done : reading.long .generate name value = .ok next) :
    if (Verb.generate.long? name).any Flag.isOutward then
      next.awaits = value.isNone ∧ ∀ arguments,
        reading.plain.arguments .generate arguments = next.plain.arguments .generate arguments
    else next.awaits = false ∧ reading.plain.long .generate name value = .ok next.plain := by
  unfold long at done ⊢
  cases known : Verb.generate.long? name with
  | none =>
    rw [known] at done
    cases done
  | some flag =>
    simp only [known] at done ⊢
    cases flag with
    | setting setting =>
      by_cases outward : setting.isOutward = true
      · rw [if_pos (by simpa [Flag.isOutward] using outward)]
        exact setting_outward outward done
      · rw [if_neg (by simpa [Flag.isOutward] using outward)]
        exact (setting_inward (by simpa using outward) done).symm
    | switch switch =>
      rw [if_neg (by simp [Flag.isOutward])]
      cases value with
      | some value => cases done
      | none => exact (switch_plain done).symm

theorem attachedValue_isNone (letters : List Char) :
    (attachedValue letters).isNone = letters.isEmpty := by
  cases letters with
  | nil => rfl
  | cons letter letters =>
    unfold attachedValue
    split <;> simp_all

theorem short_plain {letters : List Char} (calm : letters = [] → reading.awaits = false)
    (done : reading.short .generate letters = .ok next) :
    next.awaits = (plainLetters letters).2 ∧
      ∃ last, reading.plain.short .generate (plainLetters letters).1 = .ok last ∧
        ∀ arguments, last.arguments .generate arguments = next.plain.arguments .generate arguments := by
  induction letters generalizing reading with
  | nil =>
    cases done
    exact ⟨calm rfl, _, rfl, fun _ => rfl⟩
  | cons letter letters ih =>
    rw [short] at done
    rw [plainLetters]
    cases known : Verb.generate.short? letter with
    | none =>
      rw [known] at done
      cases done
    | some flag =>
      simp only [known] at done
      cases flag with
      | setting setting =>
        -- Behind a letter that is taken out nothing is left of the cluster.
        by_cases outward : setting.isOutward = true
        · simp only [if_pos outward]
          obtain ⟨awaited, same⟩ := setting_outward outward done
          exact ⟨awaited.trans (attachedValue_isNone letters), _, rfl, same⟩
        · simp only [if_neg outward]
          obtain ⟨kept, calm⟩ := setting_inward (by simpa using outward) done
          refine ⟨calm, _, ?_, fun _ => rfl⟩
          rw [short, known]
          exact kept
      | switch switch =>
        obtain ⟨between, turned, further⟩ := bind_eq_ok.mp done
        obtain ⟨kept, calm⟩ := switch_plain turned
        obtain ⟨awaited, last, rest, same⟩ := ih (fun _ => calm) further
        refine ⟨awaited, last, ?_, same⟩
        rw [short, known]
        exact bind_eq_ok.mpr ⟨_, kept, rest⟩

end Reading

theorem Word.ofArgument_short {argument : String} {letters : List Char}
    (word : Word.ofArgument argument = .short letters) :
    ∃ letter rest, letters = letter :: rest ∧ letter ≠ '-' := by
  unfold ofArgument at word
  split at word
  case h_3 letter rest _ noLong _ =>
    cases word
    exact ⟨letter, rest, rfl, noLong⟩
  all_goals cases word

theorem Word.ofArgument_cluster {letter : Char} (named : letter ≠ '-') (letters : List Char) :
    Word.ofArgument (String.ofList ('-' :: letter :: letters)) = .short (letter :: letters) := by
  rw [ofArgument, String.toList_ofList]
  split <;> simp_all

theorem plainLetters_cons (letter : Char) (letters : List Char) :
    (plainLetters (letter :: letters)).1 = [] ∨
      ∃ kept, (plainLetters (letter :: letters)).1 = letter :: kept := by
  rw [plainLetters]
  split
  · split <;> simp
  · simp

theorem Reading.cluster_plain {reading next : Reading} {letter : Char} {letters : List Char}
    (named : letter ≠ '-') (done : reading.short .generate (letter :: letters) = .ok next)
    (arguments : List String) :
    next.awaits = (plainLetters (letter :: letters)).2 ∧
      reading.plain.arguments .generate
          (cluster (plainLetters (letter :: letters)).1 ++ arguments) =
        next.plain.arguments .generate arguments := by
  have calm : letter :: letters = [] → reading.awaits = false := nofun
  obtain ⟨awaited, last, kept, same⟩ := short_plain calm done
  refine ⟨awaited, ?_⟩
  rw [← same]
  rcases plainLetters_cons letter letters with nothing | ⟨left, some⟩
  · rw [nothing] at kept ⊢
    cases kept
    rfl
  · rw [some] at kept ⊢
    simp only [cluster, List.singleton_append]
    rw [Reading.arguments, Word.ofArgument_cluster named]
    simp only [kept]
    rfl

theorem Reading.arguments_plain {reading : Reading} {draft : Draft} {arguments : List String}
    (done : reading.arguments .generate arguments = .ok draft) :
    reading.plain.arguments .generate (plainArguments reading.awaits arguments) =
      .ok draft.plain := by
  -- What has been read so far is kept but for what is taken out, and the next argument goes with
  -- it if it is the value of that.
  induction arguments generalizing reading with
  | nil => exact settle_plain done
  | cons argument rest ih =>
    rw [Reading.arguments] at done
    rw [plainArguments]
    cases word : Word.ofArgument argument with
    | terminator =>
      rw [word] at done
      simp only [Reading.arguments, word]
      exact operands_plain done
    | long name value =>
      simp only [word, bind_eq_ok] at done
      obtain ⟨next, step, further⟩ := done
      have kept := long_plain step
      by_cases outward : (Verb.generate.long? name).any Flag.isOutward = true
      · rw [if_pos outward] at kept
        simp only [if_pos outward]
        rw [kept.2, ← kept.1]
        exact ih further
      · rw [if_neg outward] at kept
        simp only [if_neg outward]
        rw [Reading.arguments, word, ← kept.1]
        exact bind_eq_ok.mpr ⟨_, kept.2, ih further⟩
    | short letters =>
      simp only [word, bind_eq_ok] at done
      obtain ⟨next, step, further⟩ := done
      obtain ⟨letter, behind, rfl, named⟩ := Word.ofArgument_short word
      obtain ⟨awaited, same⟩ :=
        Reading.cluster_plain named step (plainArguments next.awaits rest)
      simp only
      rw [← awaited, same]
      exact ih further
    | operand text =>
      simp only [word, bind_eq_ok] at done
      obtain ⟨next, step, further⟩ := done
      obtain ⟨calm, dropped, kept⟩ := Reading.operand_plain step
      have rest := ih further
      rw [calm] at rest
      cases awaited : reading.awaits with
      | true =>
        simp only [if_true]
        rw [← dropped awaited]
        exact rest
      | false =>
        simp only [Bool.false_eq_true, if_false]
        rw [Reading.arguments, word]
        exact bind_eq_ok.mpr ⟨_, kept awaited, rest⟩

theorem Draft.command_plain {draft : Draft} {options : GenerateOptions}
    (complete : draft.command .generate = .ok (.generate options)) :
    draft.plain.command .generate =
      .ok (.generate { options with output := none, color := .never }) := by
  obtain ⟨schema, name, format, output, color, recordsForced, verbosity⟩ := draft
  cases schema with
  | none => cases complete
  | some schema =>
    cases complete
    rfl

namespace Invocation

variable {verbosity shown : Nat} {arguments : List String} {options : GenerateOptions}

theorem verb_of_generate {verb : Verb}
    (accepted : ofCommand verbosity verb arguments = .ok ⟨shown, .generate options⟩) :
    verb = .generate := by
  simp only [ofCommand, bind_eq_ok, pure_eq_ok] at accepted
  obtain ⟨draft, -, command, complete, same⟩ := accepted
  cases same
  unfold Draft.command at complete
  split at complete
  · cases complete
  · rfl
  · cases complete

theorem ofCommand_plain
    (accepted : ofCommand verbosity .generate arguments = .ok ⟨shown, .generate options⟩) :
    ofCommand verbosity .generate ("--color" :: "never" :: plainArguments false arguments) =
      .ok ⟨shown, .generate { options with output := none, color := .never }⟩ := by
  simp only [ofCommand, bind_eq_ok, pure_eq_ok] at accepted ⊢
  obtain ⟨draft, read, command, complete, same⟩ := accepted
  cases same
  have settled : (⟨{}, some (.setting .color (some "never"))⟩ : Reading).settle =
      .ok ({ color := some .never } : Draft) := by rfl
  refine ⟨draft.plain, ?_, _, Draft.command_plain complete, rfl⟩
  change Reading.arguments .generate ⟨{}, some (.setting .color (some "never"))⟩ _ = _
  rw [Reading.arguments_settled settled]
  exact Reading.arguments_plain read

theorem leading_plain
    (accepted : leading verbosity arguments = .ok ⟨shown, .generate options⟩) :
    leading verbosity (plainLine arguments) =
      .ok ⟨shown, .generate { options with output := none, color := .never }⟩ := by
  induction arguments generalizing verbosity with
  | nil => cases accepted
  | cons argument rest ih =>
    unfold leading at accepted
    rw [plainLine]
    cases word : Word.ofArgument argument with
    | terminator =>
      simp only [word] at accepted
      cases rest <;> cases accepted
    | long name value =>
      simp only [word] at accepted
      split at accepted <;> cases accepted
    | short letters =>
      simp only [word, bind_eq_ok] at accepted
      obtain ⟨raised, read, further⟩ := accepted
      unfold leading
      simp only [word]
      exact bind_eq_ok.mpr ⟨raised, read, ih further⟩
    | operand text =>
      unfold leading
      simp only [word] at accepted ⊢
      cases named : Verb.ofWord? text with
      | none => simp [named] at accepted
      | some verb =>
        simp only [named] at accepted ⊢
        cases verb with
        | generate => exact ofCommand_plain accepted
        | classify => cases verb_of_generate accepted

theorem ofArguments_plain
    (accepted : ofArguments arguments = .ok ⟨shown, .generate options⟩) :
    ofArguments (plainLine arguments) =
      .ok ⟨shown, .generate { options with output := none, color := .never }⟩ :=
  leading_plain accepted

end Invocation

end ServiceTypes.CommandLine
