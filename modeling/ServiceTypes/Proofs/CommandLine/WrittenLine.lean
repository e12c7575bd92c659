import Mathlib.Data.List.Nodup
import ServiceTypes.Proofs.CommandLine.Spelling

namespace ServiceTypes.CommandLine

inductive Item where
  | schema | recordsForced
  | setting (setting : Setting)
  deriving DecidableEq

structure Request where
  schema : String
  name : Option String := none
  recordsForced : Bool := false
  format : Option FormatWord := none
  output : Option String := none
  color : Option ColorMode := none
  schema_full : schema ≠ ""
  output_full : ∀ path ∈ output, path ≠ ""

namespace Request

def value? (request : Request) : Setting → Option String
  | .name => request.name
  | .format => request.format.map FormatWord.word
  | .output => request.output
  | .color => request.color.map ColorMode.word

def gives (request : Request) : Item → Bool
  | .schema => true
  | .recordsForced => request.recordsForced
  | .setting setting => (request.value? setting).isSome

def chosen (request : Request) : List Item :=
  [.recordsForced, .setting .name, .setting .format, .setting .output, .setting .color].filter
    request.gives

def options (request : Request) : GenerateOptions where
  schema := request.schema
  name := request.name
  recordsForced := request.recordsForced
  format := (request.format.map FormatWord.format).getD .ballerina
  output := request.output
  color := request.color.getD .auto

-- A value follows its setting as a word of its own only if it can be taken for nothing else.
inductive Spells (request : Request) : Item → List String → Prop where
  | schema (alone : StandsAlone request.schema) : Spells request .schema [request.schema]
  | forcedLong (forced : request.recordsForced = true) :
      Spells request .recordsForced ["--records-forced"]
  | forcedShort (forced : request.recordsForced = true) : Spells request .recordsForced ["-r"]
  | attached {setting : Setting} {value : String} (given : request.value? setting = some value) :
      Spells request (.setting setting) ["--" ++ setting.longName ++ "=" ++ value]
  | long {setting : Setting} {value : String} (given : request.value? setting = some value)
      (alone : StandsAlone value) :
      Spells request (.setting setting) ["--" ++ setting.longName, value]
  | short {setting : Setting} {value : String} {letter : Char}
      (given : request.value? setting = some value) (lettered : setting.letter? = some letter)
      (alone : StandsAlone value) :
      Spells request (.setting setting) [String.ofList ['-', letter], value]

-- Each item once, in any order. The path is one of them, or it comes last, behind the terminator,
-- where it may look like an option.
inductive WrittenAs (request : Request) : List String → Prop where
  | among {order : List Item} {parts : List (List String)}
      (once : order.Perm (.schema :: request.chosen))
      (spelled : List.Forall₂ request.Spells order parts) :
      WrittenAs request ("generate" :: parts.flatten)
  | behind {order : List Item} {parts : List (List String)}
      (once : order.Perm request.chosen) (spelled : List.Forall₂ request.Spells order parts) :
      WrittenAs request ("generate" :: (parts.flatten ++ ["--", request.schema]))

-- What has been noted when the given items have been read.
def draft (request : Request) (told : List Item) : Draft where
  schema := if Item.schema ∈ told then some request.schema else none
  name := if Item.setting .name ∈ told then request.name else none
  format := if Item.setting .format ∈ told then request.format.map FormatWord.format else none
  output := if Item.setting .output ∈ told then request.output else none
  color := if Item.setting .color ∈ told then request.color else none
  recordsForced := request.recordsForced && decide (Item.recordsForced ∈ told)

variable {request : Request} {told : List Item}

theorem set_given {setting : Setting} {value : String}
    (given : request.value? setting = some value) (fresh : Item.setting setting ∉ told) :
    (request.draft told).set setting value = .ok (request.draft (.setting setting :: told)) := by
  cases setting with
  | name =>
    have same : request.name = some value := given
    simp only [Draft.set, bind_eq_ok, pure_eq_ok, fill_eq_ok]
    exact ⟨_, ⟨if_neg fresh, rfl, rfl⟩, by simp [draft, same]⟩
  | format =>
    obtain ⟨word, same, rfl⟩ := Option.map_eq_some_iff.mp given
    simp only [Draft.set, bind_eq_ok, pure_eq_ok, fill_eq_ok, formatOfWord?_word]
    exact ⟨_, ⟨if_neg fresh, rfl, rfl⟩, by simp [draft, same]⟩
  | output =>
    have same : request.output = some value := given
    have full : value ≠ "" := request.output_full value same
    simp only [Draft.set, bind_eq_ok, pure_eq_ok, fill_eq_ok, pathOfWord?_of_full full]
    exact ⟨_, ⟨if_neg fresh, rfl, rfl⟩, by simp [draft, same]⟩
  | color =>
    obtain ⟨mode, same, rfl⟩ := Option.map_eq_some_iff.mp given
    simp only [Draft.set, bind_eq_ok, pure_eq_ok, fill_eq_ok, ColorMode.ofWord?_word]
    exact ⟨_, ⟨if_neg fresh, rfl, rfl⟩, by simp [draft, same]⟩

theorem turnOn_forced (forced : request.recordsForced = true)
    (fresh : Item.recordsForced ∉ told) :
    (request.draft told).turnOn .recordsForced = .ok (request.draft (.recordsForced :: told)) := by
  simp [Draft.turnOn, draft, forced, fresh]

theorem schema_noted (request : Request) (told : List Item) :
    { request.draft told with schema := some request.schema } =
      request.draft (.schema :: told) := by
  simp [draft]

theorem arguments_item {item : Item} {words : List String} (spelled : request.Spells item words)
    (fresh : item ∉ told) (rest : List String) :
    Reading.arguments .generate ⟨request.draft told, none⟩ (words ++ rest) =
      Reading.arguments .generate ⟨request.draft (item :: told), none⟩ rest := by
  cases spelled with
  | schema alone =>
    rw [← schema_noted]
    exact Reading.arguments_schema alone request.schema_full (if_neg fresh) rest
  | forcedLong forced =>
    exact Reading.arguments_forced (turnOn_forced forced fresh) (.inl rfl) rest
  | forcedShort forced =>
    exact Reading.arguments_forced (turnOn_forced forced fresh) (.inr rfl) rest
  | attached given => exact Reading.arguments_attached (set_given given fresh) rest
  | long given alone => exact Reading.arguments_separate_long alone (set_given given fresh) rest
  | short given lettered alone =>
    exact Reading.arguments_separate_short lettered alone (set_given given fresh) rest

theorem arguments_items {order : List Item} {parts : List (List String)}
    (spelled : List.Forall₂ request.Spells order parts) (once : (order.reverse ++ told).Nodup)
    (rest : List String) :
    Reading.arguments .generate ⟨request.draft told, none⟩ (parts.flatten ++ rest) =
      Reading.arguments .generate ⟨request.draft (order.reverse ++ told), none⟩ rest := by
  -- None of the items still to be read has been noted yet.
  induction spelled generalizing told with
  | nil => rfl
  | @cons item words order parts first _ ih =>
    rw [List.reverse_cons, List.append_assoc, List.singleton_append] at once ⊢
    have fresh : item ∉ told := (List.nodup_cons.mp (List.nodup_append.mp once).2.1).1
    rw [List.flatten_cons, List.append_assoc, arguments_item first fresh, ih once]

theorem chosen_nodup (request : Request) : (Item.schema :: request.chosen).Nodup := by
  refine List.nodup_cons.mpr ⟨?_, List.Nodup.filter _ (by decide)⟩
  intro member
  exact absurd (List.mem_of_mem_filter member) (by decide)

theorem mem_chosen {item : Item} (given : request.gives item = true) :
    item ∈ Item.schema :: request.chosen := by
  cases item with
  | schema => exact List.mem_cons_self
  | recordsForced => simp [chosen, given]
  | setting setting => cases setting <;> simp [chosen, given]

section Covered

variable (covered : ∀ item, request.gives item = true → item ∈ told)
include covered

theorem noted_eq {α : Type} (item : Item) (value : Option α)
    (given : value.isSome = true → request.gives item = true) :
    (if item ∈ told then value else none) = value := by
  split
  · rfl
  · rename_i missing
    cases value with
    | none => rfl
    | some value => exact absurd (covered item (given rfl)) missing

theorem draft_of_covered :
    request.draft told = {
      schema := some request.schema
      name := request.name
      format := request.format.map FormatWord.format
      output := request.output
      color := request.color
      recordsForced := request.recordsForced } := by
  have schema : Item.schema ∈ told := covered .schema rfl
  have name := noted_eq covered (.setting .name) request.name id
  have format := noted_eq covered (.setting .format) (request.format.map FormatWord.format)
    (by simp [gives, value?])
  have output := noted_eq covered (.setting .output) request.output id
  have color := noted_eq covered (.setting .color) request.color (by simp [gives, value?])
  have forced : (request.recordsForced && decide (Item.recordsForced ∈ told)) =
      request.recordsForced := by
    cases asked : request.recordsForced with
    | false => rfl
    | true => exact decide_eq_true (covered .recordsForced asked)
  rw [draft, if_pos schema, name, format, output, color, forced]

end Covered

theorem arguments_from_start {order : List Item} {parts : List (List String)}
    (spelled : List.Forall₂ request.Spells order parts) (once : order.Nodup) (rest : List String) :
    Reading.arguments .generate {} (parts.flatten ++ rest) =
      Reading.arguments .generate ⟨request.draft order.reverse, none⟩ rest := by
  have start : request.draft [] = {} := by simp [draft]
  have fresh : (order.reverse ++ []).Nodup := by
    rwa [List.append_nil, List.nodup_reverse]
  have read := arguments_items spelled fresh rest
  rwa [start, List.append_nil] at read

-- Both ways to write a line end with everything noted.
theorem WrittenAs.arguments {line : List String} (written : request.WrittenAs line) :
    ∃ words told, line = "generate" :: words ∧
      (∀ item, request.gives item = true → item ∈ told) ∧
      Reading.arguments .generate {} words = .ok (request.draft told) := by
  cases written with
  | @among order parts once spelled =>
    refine ⟨_, order.reverse, rfl, fun item given => ?_, ?_⟩
    · rw [List.mem_reverse, once.mem_iff]
      exact mem_chosen given
    · have read := arguments_from_start spelled (once.nodup_iff.mpr request.chosen_nodup) []
      rw [List.append_nil] at read
      exact read
  | @behind order parts once spelled =>
    obtain ⟨absent, distinct⟩ := List.nodup_cons.mp request.chosen_nodup
    have missing : Item.schema ∉ order.reverse := by
      rwa [List.mem_reverse, once.mem_iff]
    refine ⟨_, .schema :: order.reverse, rfl, fun item given => ?_, ?_⟩
    · rw [List.mem_cons, List.mem_reverse, once.mem_iff, ← List.mem_cons]
      exact mem_chosen given
    · rw [arguments_from_start spelled (once.nodup_iff.mpr distinct), ← schema_noted]
      exact Reading.arguments_terminated request.schema_full (if_neg missing)

theorem exists_parts {order : List Item}
    (each : ∀ item ∈ order, ∃ words, request.Spells item words) :
    ∃ parts, List.Forall₂ request.Spells order parts := by
  induction order with
  | nil => exact ⟨[], .nil⟩
  | cons item rest ih =>
    obtain ⟨head, later⟩ := List.forall_mem_cons.mp each
    obtain ⟨words, first⟩ := head
    obtain ⟨parts, others⟩ := ih later
    exact ⟨words :: parts, .cons first others⟩

theorem exists_written (request : Request) : ∃ line, request.WrittenAs line := by
  have each : ∀ item ∈ request.chosen, ∃ words, request.Spells item words := by
    intro item member
    obtain ⟨listed, given⟩ := List.mem_filter.mp member
    cases item with
    | schema => exact absurd listed (by decide)
    | recordsForced => exact ⟨_, .forcedLong given⟩
    | setting setting =>
      obtain ⟨value, given⟩ := Option.isSome_iff_exists.mp given
      exact ⟨_, .attached given⟩
  obtain ⟨parts, spelled⟩ := exists_parts each
  exact ⟨_, .behind (.refl _) spelled⟩

end Request

theorem written_line_decodes (request : Request) (line : List String)
    (written : request.WrittenAs line) :
    Invocation.ofArguments line = .ok ⟨0, .generate request.options⟩ := by
  obtain ⟨words, told, rfl, covered, read⟩ := written.arguments
  have word : Word.ofArgument "generate" = .operand "generate" := by decide
  have verb : Verb.ofWord? "generate" = some .generate := by decide
  unfold Invocation.ofArguments Invocation.leading
  simp only [word, verb]
  rw [Invocation.ofCommand, read, Request.draft_of_covered covered]
  rfl

def depotRequest : Request where
  schema := "-depot.graphql"
  name := some "-a=b"
  recordsForced := true
  format := some .bal
  output := some "-"
  color := some .never
  schema_full := by decide
  output_full := by decide

def depotLine : List String :=
  ["generate", "-o", "-", "--color=never", "-r", "--format", "bal", "--name=-a=b", "--",
    "-depot.graphql"]

theorem depot_line_decodes :
    depotRequest.WrittenAs depotLine ∧
    Invocation.ofArguments depotLine = .ok ⟨0, .generate {
      schema := "-depot.graphql", name := some "-a=b", recordsForced := true,
      format := .ballerina, output := some "-", color := .never }⟩ := by
  have output : depotRequest.Spells (.setting .output) ["-o", "-"] := .short rfl rfl (by decide)
  have uncolored : depotRequest.value? .color = some "never" := rfl
  have color : depotRequest.Spells (.setting .color) ["--color=never"] := .attached uncolored
  have forced : depotRequest.Spells .recordsForced ["-r"] := .forcedShort rfl
  have format : depotRequest.Spells (.setting .format) ["--format", "bal"] := .long rfl (by decide)
  have named : depotRequest.value? .name = some "-a=b" := rfl
  have name : depotRequest.Spells (.setting .name) ["--name=-a=b"] := .attached named
  have written : depotRequest.WrittenAs depotLine :=
    .behind (by decide) (.cons output (.cons color (.cons forced (.cons format (.cons name .nil)))))
  exact ⟨written, written_line_decodes depotRequest depotLine written⟩

end ServiceTypes.CommandLine
