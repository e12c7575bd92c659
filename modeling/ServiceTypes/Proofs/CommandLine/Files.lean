import ServiceTypes.CommandLine.Files
import ServiceTypes.Proofs.Basic

namespace ServiceTypes

namespace Path

theorem segments_slash (letters : List Char) : segments ('/' :: letters) = [] :: segments letters := by
  simp [segments]

theorem segments_ne_nil (letters : List Char) : segments letters ≠ [] := by
  cases letters with
  | nil => simp [segments]
  | cons c cs =>
    rw [segments]
    split <;> simp

theorem segments_letter {c : Char} (letter : c ≠ '/') (letters : List Char) :
    ∃ piece pieces, segments letters = piece :: pieces ∧
      segments (c :: letters) = (c :: piece) :: pieces := by
  obtain ⟨piece, pieces, parted⟩ := List.exists_cons_of_ne_nil (segments_ne_nil letters)
  have mark : (c == '/') = false := by simp [letter]
  exact ⟨piece, pieces, parted, by rw [segments, mark, parted]⟩

-- Only what ends in a slash has an empty last piece.
theorem slash_of_empty_last {letters : List Char} (full : letters ≠ [])
    (empty : (segments letters).getLast? = some []) : ['/'] <:+ letters := by
  induction letters with
  | nil => exact absurd rfl full
  | cons c cs ih =>
    by_cases slash : c = '/'
    · subst slash
      by_cases only : cs = []
      · subst only
        exact List.suffix_refl _
      · rw [segments_slash, List.getLast?_cons_of_ne_nil (segments_ne_nil cs)] at empty
        exact (ih only empty).trans (List.suffix_cons _ cs)
    · obtain ⟨piece, pieces, parted, whole⟩ := segments_letter slash cs
      rw [whole] at empty
      cases pieces with
      | nil => simp at empty
      | cons second rest =>
        have only : cs ≠ [] := by
          rintro rfl
          simp [segments] at parted
        rw [parted] at ih
        exact (ih only empty).trans (List.suffix_cons _ cs)

end Path

namespace CommandLine.FileTree

variable {tree after : FileTree} {location other place parent next : Location}
  {path step name : String} {content : ByteArray}

-- Where a path leads. Its last step need not find anything there.
def locate (tree : FileTree) (path : String) : Except SystemError Location :=
  (start path).2.foldlM tree.enter (start path).1

theorem enter_eq_ok :
    tree.enter location step = .ok next ↔
      tree.node? location = some .directory ∧ stepFrom location step = next := by
  unfold enter
  split <;> simp_all

theorem read_eq_ok :
    tree.read path = .ok content ↔
      path ≠ "" ∧ ∃ place, tree.locate path = .ok place ∧ tree.node? place = some (.file content) := by
  unfold read
  split
  · rename_i empty
    simp [empty]
  · rename_i full
    change (tree.locate path >>= _) = _ ↔ _
    simp only [bind_eq_ok, ne_eq, full, not_false_eq_true, true_and]
    refine exists_congr fun place => and_congr_right fun _ => ?_
    split <;> simp_all [pure_eq_ok]

theorem endsWith_slash : path.endsWith "/" = true ↔ ['/'] <:+ path.toList := by
  rw [String.endsWith_eq_endsWith_toSlice, String.Slice.endsWith_string_iff]
  simp

theorem start_last (full : path ≠ "") (closed : path.endsWith "/" = false) :
    ∃ before last, (start path).2 = before ++ [last] ∧ last ≠ "" := by
  have some := Path.segments_ne_nil path.toList
  refine ⟨((Path.segments path.toList).dropLast).map String.ofList,
    String.ofList ((Path.segments path.toList).getLast some), ?_, ?_⟩
  · rw [← List.map_singleton, ← List.map_append, List.dropLast_append_getLast]
    rfl
  · intro empty
    have last : (Path.segments path.toList).getLast? = .some [] := by
      rw [List.getLast?_eq_some_getLast some]
      exact congrArg _ (by simpa using congrArg String.toList empty)
    have letters : path.toList ≠ [] := by simpa using full
    rw [endsWith_slash.mpr (Path.slash_of_empty_last letters last)] at closed
    cases closed

theorem place_eq_ok (placed : tree.place path = .ok place) :
    path ≠ "" ∧ tree.locate path = .ok place ∧ ∃ parent name, place = parent ++ [name] ∧
      tree.node? parent = some .directory ∧ tree.node? place ≠ some .directory := by
  unfold FileTree.place at placed
  split at placed
  · cases placed
  · rename_i full
    refine ⟨full, ?_⟩
    simp only at placed
    split at placed
    · simp at placed
    · rename_i last before kept
      simp only [bind_eq_ok] at placed
      obtain ⟨parent, reached, target, entered, rest⟩ := placed
      split at rest
      · simp [bind_eq_ok] at rest
      · rename_i named
        simp only [Bool.or_eq_true, not_or, Bool.not_eq_true, decide_eq_true_eq] at named
        obtain ⟨⟨closed, notHere⟩, notUp⟩ := named
        obtain ⟨steps, step, parted, proper⟩ := start_last full closed
        rw [parted, List.reverse_append, List.reverse_singleton, List.singleton_append,
          List.dropWhile_cons_of_neg (by simpa using proper)] at kept
        cases kept
        rw [List.reverse_reverse] at reached
        obtain ⟨isDirectory, moved⟩ := enter_eq_ok.mp entered
        rw [stepFrom, if_neg (by simp [proper, notHere]), if_neg notUp] at moved
        subst moved
        have found : tree.locate path = .ok (parent ++ [last]) := by
          rw [locate, parted, List.foldlM_append, bind_eq_ok]
          exact ⟨parent, reached, by simp [entered]⟩
        split at rest
        · simp at rest
        · rename_i noDirectory
          cases pure_eq_ok.mp rest
          exact ⟨found, parent, last, rfl, isDirectory, fun there => noDirectory there⟩

def locations (tree : FileTree) : List Location := tree.files.map Prod.fst

theorem node?_eq_file : tree.node? location = some (.file content) ↔
    tree.files.lookup location = some content := by
  unfold node?
  cases tree.files.lookup location with
  | some held => simp
  | none =>
    simp only [reduceCtorEq, iff_false]
    split <;> simp

theorem node?_eq_directory : tree.node? location = some .directory ↔
    tree.files.lookup location = none ∧
      (isAbove location = true ∨ ∃ file ∈ tree.locations, location <+: file) := by
  unfold node?
  cases tree.files.lookup location with
  | some held => simp
  | none => by_cases above : isAbove location = true <;> simp [locations, above]

theorem lookup_cons_of_ne {held : ByteArray} {rest : List (Location × ByteArray)}
    (differs : other ≠ location) : ((location, held) :: rest).lookup other = rest.lookup other := by
  rw [List.lookup_cons, beq_eq_false_iff_ne.mpr differs]

theorem lookup_replaced_self {files : List (Location × ByteArray)}
    (known : (files.lookup place).isSome = true) :
    (files.map fun file => if file.1 = place then (place, content) else file).lookup place =
      some content := by
  induction files with
  | nil => cases known
  | cons file rest ih =>
    obtain ⟨location, held⟩ := file
    rw [List.map_cons]
    by_cases here : location = place
    · rw [if_pos here, List.lookup_cons_self]
    · rw [if_neg here, lookup_cons_of_ne (Ne.symm here)]
      rw [lookup_cons_of_ne (Ne.symm here)] at known
      exact ih known

theorem lookup_replaced_of_ne (files : List (Location × ByteArray)) (differs : other ≠ place) :
    (files.map fun file => if file.1 = place then (place, content) else file).lookup other =
      files.lookup other := by
  induction files with
  | nil => rfl
  | cons file rest ih =>
    obtain ⟨location, held⟩ := file
    rw [List.map_cons]
    by_cases here : location = place
    · subst here
      rw [if_pos rfl, lookup_cons_of_ne differs, lookup_cons_of_ne differs, ih]
    · rw [if_neg here, List.lookup_cons, List.lookup_cons, ih]

theorem lookup_put_self : (tree.put place content).files.lookup place = some content := by
  unfold put
  split
  · rename_i known
    exact lookup_replaced_self known
  · rename_i unknown
    have absent := Option.not_isSome_iff_eq_none.mp unknown
    rw [List.lookup_append, absent, Option.none_or, List.lookup_cons_self]

theorem lookup_put_of_ne (differs : other ≠ place) :
    (tree.put place content).files.lookup other = tree.files.lookup other := by
  unfold put
  split
  · exact lookup_replaced_of_ne tree.files differs
  · rw [List.lookup_append, lookup_cons_of_ne differs, List.lookup_nil, Option.or_none]

theorem mem_locations_put :
    other ∈ (tree.put place content).locations ↔ other = place ∨ other ∈ tree.locations := by
  unfold put
  split
  · rename_i known
    obtain ⟨held, found⟩ := Option.isSome_iff_exists.mp known
    obtain ⟨before, behind, parted, -⟩ := List.lookup_eq_some_iff.mp found
    have present : place ∈ tree.locations := by simp [locations, parted]
    have same : (tree.files.map fun file =>
        if file.1 = place then (place, content) else file).map Prod.fst = tree.locations := by
      rw [List.map_map]
      refine List.map_congr_left fun file _ => ?_
      by_cases here : file.1 = place <;> simp [here]
    rw [locations, same]
    constructor
    · exact .inr
    · rintro (rfl | old)
      · exact present
      · exact old
  · simp [locations, or_comm]

theorem directory_put (there : tree.node? parent = some .directory)
    (differs : other ≠ parent ++ [name]) :
    (tree.put (parent ++ [name]) content).node? other = some .directory ↔
      tree.node? other = some .directory := by
  rw [node?_eq_directory, node?_eq_directory, lookup_put_of_ne differs]
  refine and_congr_right fun _ => ?_
  obtain ⟨-, held⟩ := node?_eq_directory.mp there
  constructor
  · rintro (above | ⟨file, known, led⟩)
    · exact .inl above
    · rcases mem_locations_put.mp known with rfl | old
      -- A new file makes no new directories, as its own was there.
      · have inside : other <+: parent := by
          rcases List.prefix_concat_iff.mp led with same | inside
          · exact absurd same differs
          · exact inside
        rcases held with above | ⟨file, known, below⟩
        · refine .inl (List.all_eq_true.mpr fun name member => ?_)
          exact List.all_eq_true.mp above name (inside.subset member)
        · exact .inr ⟨file, known, inside.trans below⟩
      · exact .inr ⟨file, old, led⟩
  · rintro (above | ⟨file, known, led⟩)
    · exact .inl above
    · exact .inr ⟨file, mem_locations_put.mpr (.inr known), led⟩

theorem node?_put_self :
    (tree.put place content).node? place = some (.file content) :=
  node?_eq_file.mpr lookup_put_self

theorem node?_put_of_ne (there : tree.node? parent = some .directory)
    (differs : other ≠ parent ++ [name]) :
    (tree.put (parent ++ [name]) content).node? other = tree.node? other := by
  refine Option.ext fun node => ?_
  cases node with
  | file held => rw [node?_eq_file, node?_eq_file, lookup_put_of_ne differs]
  | directory => exact directory_put there differs

theorem locate_congr (same : ∀ location,
      after.node? location = some .directory ↔ tree.node? location = some .directory) :
    after.locate path = .ok place ↔ tree.locate path = .ok place := by
  have walk : ∀ (steps : List String) (origin : Location),
      steps.foldlM after.enter origin = .ok place ↔ steps.foldlM tree.enter origin = .ok place := by
    intro steps
    induction steps with
    | nil => exact fun _ => Iff.rfl
    | cons step rest ih =>
      intro origin
      simp only [List.foldlM_cons, bind_eq_ok, enter_eq_ok, same, ih]
  exact walk _ _

-- The trees agree everywhere but at the place: on files, on directories, on what is nowhere, and on
-- what is read at any path that does not lead there.
structure AgreeBut (place : Location) (before after : FileTree) : Prop where
  nodes : ∀ location, location ≠ place → after.node? location = before.node? location
  reads : ∀ path, before.locate path ≠ .ok place → ∀ content,
    after.read path = .ok content ↔ before.read path = .ok content

theorem put_agreeBut (placed : tree.place path = .ok place) (content : ByteArray) :
    tree.locate path = .ok place ∧ tree.AgreeBut place (tree.put place content) ∧
      (tree.put place content).read path = .ok content := by
  obtain ⟨full, found, parent, name, rfl, there, noDirectory⟩ := place_eq_ok placed
  -- Files come and go, directories stay; so all paths lead where they led before.
  have directories : ∀ location,
      (tree.put (parent ++ [name]) content).node? location = some .directory ↔
        tree.node? location = some .directory := by
    intro location
    by_cases here : location = parent ++ [name]
    · subst here
      rw [node?_put_self]
      exact ⟨nofun, fun wrong => absurd wrong noDirectory⟩
    · exact directory_put there here
  refine ⟨found, ⟨fun location elsewhere => node?_put_of_ne there elsewhere, ?_⟩, ?_⟩
  · intro other elsewhere bytes
    rw [read_eq_ok, read_eq_ok]
    refine and_congr_right fun _ => exists_congr fun place => ?_
    rw [locate_congr directories]
    refine and_congr_right fun leads => ?_
    have apart : place ≠ parent ++ [name] := by
      rintro rfl
      exact elsewhere leads
    rw [node?_put_of_ne there apart]
  · exact read_eq_ok.mpr ⟨full, _, (locate_congr directories).mpr found, node?_put_self⟩

end CommandLine.FileTree

end ServiceTypes
