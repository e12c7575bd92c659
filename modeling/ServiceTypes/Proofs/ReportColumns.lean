import ServiceTypes.Proofs.Basic
import ServiceTypes.Representation

namespace ServiceTypes

theorem length_le_utf8ByteSize (text : String) : text.length ≤ text.utf8ByteSize := by
  induction text using String.push_induction with
  | empty => exact Nat.le_refl 0
  | push text c ih =>
    have size := c.utf8Size_pos
    rw [String.length_push, String.utf8ByteSize_push]
    omega

def Representation.ofLabel? (label : List Char) : Option Representation :=
  if label = record.label.toList then some record
  else if label = service.label.toList then some service
  else none

-- A line is cut at its first space. Its label is what the spaces leave of the rest.
def entryOfLine? (line : List Char) : Option (String × Representation) :=
  (Representation.ofLabel? ((line.dropWhile (· ≠ ' ')).dropWhile (· = ' '))).map
    (String.ofList (line.takeWhile (· ≠ ' ')), ·)

def readReport? (text : String) : Option (List (String × Representation)) :=
  (linesOf text).mapM entryOfLine?

-- The name comes first and the label, from the given column on, last. Nothing but spaces stands
-- between them, and at least two of these.
structure LabelledAt (column : Nat) (entry : String × Representation) (line : List Char) :
    Prop where
  front : line.take column = entry.1.toList ++ List.replicate (column - entry.1.length) ' '
  apart : entry.1.length + 2 ≤ column
  label : line.drop column = entry.2.label.toList

def entryLine (width : Nat) (entry : String × Representation) : List Char :=
  entry.1.toList ++ List.replicate (width + 2 - entry.1.length) ' ' ++ entry.2.label.toList

theorem Representation.ofLabel?_label (representation : Representation) :
    ofLabel? representation.label.toList = some representation := by
  cases representation <;> decide

theorem Representation.label_dropWhile (representation : Representation) :
    representation.label.toList.dropWhile (· = ' ') = representation.label.toList := by
  cases representation <;> decide

theorem Representation.label_unbroken (representation : Representation) :
    '\n' ∉ representation.label.toList := by
  cases representation <;> decide

variable {entries : List (String × Representation)} {entry : String × Representation}
  {width column : Nat} {line : List Char}

theorem foldl_max_le {sizes : List Nat} {start bound : Nat} :
    sizes.foldl max start ≤ bound ↔ start ≤ bound ∧ ∀ size ∈ sizes, size ≤ bound := by
  induction sizes generalizing start with
  | nil => simp
  | cons size rest ih => rw [List.foldl_cons, ih, Nat.max_le, List.forall_mem_cons, and_assoc]

theorem nameWidth_le {bound : Nat} :
    nameWidth entries ≤ bound ↔ ∀ entry ∈ entries, entry.1.utf8ByteSize ≤ bound := by
  have widest : nameWidth entries = (entries.map (·.1.utf8ByteSize)).foldl max 0 := by
    rw [nameWidth, List.foldl_map]
  rw [widest, foldl_max_le, List.forall_mem_map]
  exact and_iff_right (Nat.zero_le bound)

theorem le_nameWidth (listed : entry ∈ entries) : entry.1.utf8ByteSize ≤ nameWidth entries :=
  nameWidth_le.mp (Nat.le_refl _) entry listed

theorem length_le_nameWidth (listed : entry ∈ entries) : entry.1.length ≤ nameWidth entries :=
  Nat.le_trans (length_le_utf8ByteSize entry.1) (le_nameWidth listed)

theorem reportLine_toList (fits : entry.1.length ≤ width) :
    (reportLine width entry).toList = entryLine width entry ++ ['\n'] := by
  have gap : width + 2 - entry.1.length = width - entry.1.length + 2 := by omega
  have spaces : List.replicate (width - entry.1.length) ' ' ++ "  ".toList =
      List.replicate (width + 2 - entry.1.length) ' ' := by
    rw [gap, List.replicate_add]
    rfl
  rw [entryLine, ← spaces]
  simp [reportLine, padded]

theorem entryLine_labelledAt (fits : entry.1.length ≤ width) :
    LabelledAt (width + 2) entry (entryLine width entry) := by
  have ends : (entry.1.toList ++ List.replicate (width + 2 - entry.1.length) ' ').length =
      width + 2 := by
    rw [List.length_append, List.length_replicate, String.length_toList]
    omega
  exact ⟨List.take_left' ends, by omega, List.drop_left' ends⟩

namespace LabelledAt

variable (labelled : LabelledAt column entry line)
include labelled

theorem eq_append : line = entry.1.toList ++
    (List.replicate (column - entry.1.length) ' ' ++ entry.2.label.toList) := by
  rw [← List.append_assoc, ← labelled.front, ← labelled.label, List.take_append_drop]

theorem unbroken (whole : '\n' ∉ entry.1.toList) : '\n' ∉ line := by
  have label := entry.2.label_unbroken
  rw [labelled.eq_append]
  simp [whole, label]

theorem entryOfLine?_eq (whole : ' ' ∉ entry.1.toList) : entryOfLine? line = some entry := by
  have apart := labelled.apart
  -- The cut falls on the first of the spaces, as no name has one, and no label begins with one.
  obtain ⟨gap, room⟩ : ∃ gap, column - entry.1.length = gap + 1 :=
    ⟨column - entry.1.length - 1, by omega⟩
  have text : line = entry.1.toList ++ ' ' :: (List.replicate gap ' ' ++ entry.2.label.toList) := by
    rw [labelled.eq_append, room, List.replicate_succ, List.cons_append]
  obtain ⟨name, rest⟩ := cut_at_first whole (List.replicate gap ' ' ++ entry.2.label.toList)
  have label : (' ' :: (List.replicate gap ' ' ++ entry.2.label.toList)).dropWhile (· = ' ') =
      entry.2.label.toList := by
    rw [← List.cons_append, ← List.replicate_succ, List.dropWhile_append_of_pos (by simp),
      entry.2.label_dropWhile]
  rw [entryOfLine?, text, name, rest, label, Representation.ofLabel?_label, String.ofList_toList]
  rfl

end LabelledAt

theorem mapM_entryOfLine? {lines : List (List Char)}
    (labelled : List.Forall₂ (LabelledAt column) entries lines)
    (whole : ∀ entry ∈ entries, ' ' ∉ entry.1.toList) : lines.mapM entryOfLine? = some entries := by
  induction labelled with
  | nil => rfl
  | cons first _ ih =>
    obtain ⟨head, later⟩ := List.forall_mem_cons.mp whole
    rw [List.mapM_cons, first.entryOfLine?_eq head, ih later]
    rfl

namespace Schema

variable {schema : Schema} {recordsForced : Bool} {text : String}

theorem report_eq_ok : schema.report recordsForced = .ok text ↔
    (∀ entry ∈ schema.representations recordsForced, entry.1.utf8ByteSize ≤ maxWidth) ∧
      String.join ((schema.representations recordsForced).map
        (reportLine (nameWidth (schema.representations recordsForced)))) = text := by
  rw [← nameWidth_le, ← Nat.not_lt, report]
  split <;> simp_all

theorem report_eq_error {error : WidthError} : schema.report recordsForced = .error error ↔
    ∃ entry ∈ schema.representations recordsForced, maxWidth < entry.1.utf8ByteSize := by
  have wide : maxWidth < nameWidth (schema.representations recordsForced) ↔
      ∃ entry ∈ schema.representations recordsForced, maxWidth < entry.1.utf8ByteSize := by
    rw [← Nat.not_le, nameWidth_le]
    simp
  rw [← wide, report]
  cases error
  split <;> simp_all

theorem report_toList (reported : schema.report recordsForced = .ok text) :
    let entries := schema.representations recordsForced
    text.toList = (entries.map (entryLine (nameWidth entries))).flatMap (· ++ ['\n']) := by
  intro entries
  obtain ⟨-, rfl⟩ := report_eq_ok.mp reported
  rw [String.toList_join, List.flatMap_map, List.flatMap_map]
  exact List.flatMap_congr fun entry listed => reportLine_toList (length_le_nameWidth listed)

-- Of all white space in a name only what cuts a line or ends it does harm.
theorem report_aligned_and_read (schema : Schema) (recordsForced : Bool)
    (whole : ∀ entry ∈ schema.representations recordsForced,
      ' ' ∉ entry.1.toList ∧ '\n' ∉ entry.1.toList) :
    let entries := schema.representations recordsForced
    ((∃ text, schema.report recordsForced = .ok text) ↔
      ∀ entry ∈ entries, entry.1.utf8ByteSize ≤ 65535) ∧
    ∀ text, schema.report recordsForced = .ok text →
      text.toList = (linesOf text).flatMap (· ++ ['\n']) ∧
      List.Forall₂ (LabelledAt (nameWidth entries + 2)) entries (linesOf text) ∧
      readReport? text = some entries := by
  intro entries
  refine ⟨by simp [report_eq_ok, entries, maxWidth], fun text reported => ?_⟩
  have labelled : List.Forall₂ (LabelledAt (nameWidth entries + 2)) entries
      (entries.map (entryLine (nameWidth entries))) :=
    List.forall₂_map_right_iff.mpr <| List.forall₂_same.mpr fun entry listed =>
      entryLine_labelledAt (length_le_nameWidth listed)
  have unbroken : ∀ line ∈ entries.map (entryLine (nameWidth entries)), '\n' ∉ line :=
    forall_written labelled fun entry listed line placed => placed.unbroken (whole entry listed).2
  have written := report_toList reported
  have same : linesOf text = entries.map (entryLine (nameWidth entries)) :=
    linesOf_eq unbroken written
  rw [readReport?, same]
  exact ⟨written, labelled, mapM_entryOfLine? labelled fun entry listed => (whole entry listed).1⟩

-- The longest name in bytes is not the longest in characters.
def gallerySchema : Schema where
  types := [
    ⟨"Query", .object ⟨[⟨"shown", .named "展示室", []⟩], []⟩⟩,
    ⟨"Zoë", .object ⟨[⟨"age", .named "Int", []⟩], []⟩⟩,
    ⟨"展示室", .object ⟨[⟨"room", .named "Int", [⟨"floor", .named "Int"⟩]⟩], []⟩⟩,
    ⟨"Painter", .object ⟨[⟨"name", .named "String", []⟩], []⟩⟩]
  names_nodup := by decide

theorem gallery_aligned_and_read :
    ∃ text, gallerySchema.report true = .ok text ∧
      linesOf text =
        ["Zoë        record".toList, "展示室        service".toList, "Painter    record".toList] ∧
      List.Forall₂ (LabelledAt 11)
        [("Zoë", .record), ("展示室", .service), ("Painter", .record)] (linesOf text) ∧
      readReport? text = some [("Zoë", .record), ("展示室", .service), ("Painter", .record)] := by
  have entries : gallerySchema.representations true =
      [("Zoë", .record), ("展示室", .service), ("Painter", .record)] := by decide
  have column : nameWidth (gallerySchema.representations true) + 2 = 11 := by decide +kernel
  have whole : ∀ entry ∈ gallerySchema.representations true,
      ' ' ∉ entry.1.toList ∧ '\n' ∉ entry.1.toList := by decide
  have lines : (gallerySchema.report true).map linesOf = .ok
      ["Zoë        record".toList, "展示室        service".toList, "Painter    record".toList] := by
    decide +kernel
  obtain ⟨made, columns⟩ := report_aligned_and_read gallerySchema true whole
  obtain ⟨text, reported⟩ := made.mpr (by decide +kernel)
  obtain ⟨-, aligned, read⟩ := columns text reported
  rw [column, entries] at aligned
  rw [entries] at read
  rw [reported] at lines
  exact ⟨text, reported, Except.ok.inj lines, aligned, read⟩

def nameOf (count : Nat) : String := String.ofList (List.replicate count 'a')

def oneObject (count : Nat) : Schema where
  types := [⟨nameOf count, .object ⟨[], []⟩⟩]
  names_nodup := by simp

theorem nameOf_size (count : Nat) : (nameOf count).utf8ByteSize = count := by
  induction count with
  | zero => rfl
  | succ count ih =>
    rw [nameOf, List.replicate_succ', String.ofList_append, String.utf8ByteSize_append]
    exact congrArg (· + 1) ih

theorem nameOf_ne {count : Nat} {name : String} (short : name.utf8ByteSize < count) :
    nameOf count ≠ name := by
  intro same
  rw [← same, nameOf_size] at short
  exact Nat.lt_irrefl count short

theorem nameOf_unbroken (count : Nat) :
    ' ' ∉ (nameOf count).toList ∧ '\n' ∉ (nameOf count).toList := by
  simp [nameOf]

theorem nameOf_visible (count : Nat) : isIntrospective (nameOf count) = false := by
  rw [isIntrospective, nameOf, String.toList_ofList]
  cases count <;> rfl

theorem oneObject_isDeclared {count : Nat} (long : 12 < count) :
    (oneObject count).isDeclared (nameOf count) = true := by
  have notQuery : nameOf count ≠ "Query" := nameOf_ne (Nat.lt_trans (by decide) long)
  have notMutation : nameOf count ≠ "Mutation" := nameOf_ne (Nat.lt_trans (by decide) long)
  have notSubscription : nameOf count ≠ "Subscription" := nameOf_ne long
  simp [isDeclared, isRoot, nameOf_visible, oneObject, Ne.symm notQuery, Ne.symm notMutation,
    Ne.symm notSubscription]

theorem oneObject_representations {count : Nat} (long : 12 < count) :
    (oneObject count).representations false = [(nameOf count, .service)] := by
  have declared := oneObject_isDeclared long
  have only : (oneObject count).types = [⟨nameOf count, .object ⟨[], []⟩⟩] := rfl
  simp [representations, only, declared, Representation.choose]

theorem oneObject_report {count : Nat} (wide : maxWidth < count) :
    (oneObject count).report false = .error .outOfRange := by
  refine report_eq_error.mpr ⟨(nameOf count, .service), ?_, ?_⟩
  · rw [oneObject_representations (Nat.lt_trans (by decide) wide)]
    exact List.mem_singleton_self _
  · rwa [nameOf_size]

theorem long_name_unreported :
    ¬ ∀ (schema : Schema) (recordsForced : Bool),
      (∀ entry ∈ schema.representations recordsForced,
        ' ' ∉ entry.1.toList ∧ '\n' ∉ entry.1.toList) →
      ∃ text, schema.report recordsForced = .ok text ∧
        (linesOf text).length = (schema.representations recordsForced).length := by
  intro reports
  have entries : (oneObject 65536).representations false = _ :=
    oneObject_representations (by decide)
  have whole : ∀ entry ∈ (oneObject 65536).representations false,
      ' ' ∉ entry.1.toList ∧ '\n' ∉ entry.1.toList := by
    intro entry listed
    rw [entries, List.mem_singleton] at listed
    rw [listed]
    exact nameOf_unbroken 65536
  obtain ⟨text, reported, -⟩ := reports _ _ whole
  rw [oneObject_report (by decide)] at reported
  cases reported

end Schema

end ServiceTypes
