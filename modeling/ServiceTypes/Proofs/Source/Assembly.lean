import ServiceTypes.Proofs.Source.Checks
import ServiceTypes.Proofs.Source.Colour
import ServiceTypes.Proofs.Source.Grammar
import ServiceTypes.Proofs.Source.Layout

namespace ServiceTypes

def spelled (name : String) : String :=
  if reservedWords.contains name then "'" ++ name else name

def Import.line (palette : Palette) (imports : Import) : String :=
  palette.wrap .keyword "import" ++ " " ++ spelled imports.org ++ "/" ++ spelled imports.module
    ++ ";\n"

section Modules

variable {palette : Palette} {imports : Import} {declarations : List Declaration}
  {declaration : Declaration} {text : String}

theorem writtenName_eq_spelled {name : String} (valid : isIdentifier name = true) :
    writtenName name = .ok (spelled name) := by
  rw [writtenName, if_pos valid, spelled]

theorem imports_spans (palette : Palette) (org : isIdentifier imports.org = true)
    (module : isIdentifier imports.module = true) :
    ∃ spans, imports.spans = .ok spans ∧ palette.paint spans = imports.line palette := by
  refine ⟨_, by rw [Import.spans, writtenName_eq_spelled org, writtenName_eq_spelled module]; rfl, ?_⟩
  simp [Import.line, String.append_assoc, Span.keyword]

theorem importLine_isLine (colored : Bool) (org : isIdentifier imports.org = true)
    (module : isIdentifier imports.module = true) :
    ∃ line, IsLine line ∧ (imports.line (.ofEnabled colored)).toList = line ++ ['\n'] := by
  have names : '\n' ∉ (spelled imports.org).toList ∧ '\n' ∉ (spelled imports.module).toList :=
    ⟨writtenName_unbroken (writtenName_eq_spelled org),
      writtenName_unbroken (writtenName_eq_spelled module)⟩
  refine ⟨((Palette.ofEnabled colored).paint [.keyword "import",
    .plain (" " ++ spelled imports.org ++ "/" ++ spelled imports.module ++ ";")]).toList, ?_, ?_⟩
  · exact isLine_paint (by simp) (by simp [names])
  · simp [Import.line, Span.keyword]

theorem source_eq_blocks (org : isIdentifier imports.org = true)
    (module : isIdentifier imports.module = true) :
    (SourceModule.mk imports declarations).source palette = .ok text ↔
      ∃ blocks, declarations.mapM Declaration.spans = .ok blocks ∧
        text = imports.line palette ++ String.join (blocks.map ("\n" ++ palette.paint ·)) := by
  obtain ⟨header, done, painted⟩ := imports_spans palette org module
  have assembled (blocks : List (List Span)) :
      palette.paint (header ++ blocks.flatMap fun block => .plain "\n" :: block) =
        imports.line palette ++ String.join (blocks.map ("\n" ++ palette.paint ·)) := by
    rw [Palette.paint_append, painted]
    congr 1
    induction blocks with
    | nil => rfl
    | cons block rest ih => simp [ih, String.append_assoc]
  simp only [SourceModule.source_eq_ok, SourceModule.spans, bind_eq_ok, pure_eq_ok, done,
    Except.ok.injEq, exists_eq_left']
  constructor
  · rintro ⟨_, ⟨blocks, listed, rfl⟩, rfl⟩
    exact ⟨blocks, listed, assembled blocks⟩
  · rintro ⟨blocks, listed, rfl⟩
    exact ⟨_, ⟨blocks, listed, rfl⟩, assembled blocks⟩

theorem source_alone (org : isIdentifier imports.org = true)
    (module : isIdentifier imports.module = true) :
    (SourceModule.mk imports [declaration]).source palette = .ok text ↔
      ∃ block, declaration.spans = .ok block ∧
        text = imports.line palette ++ "\n" ++ palette.paint block := by
  rw [source_eq_blocks org module]
  simp only [List.mapM_cons, List.mapM_nil, bind_eq_ok, pure_eq_ok]
  constructor
  · rintro ⟨_, ⟨block, done, _, rfl, rfl⟩, rfl⟩
    exact ⟨block, done, by simp [String.append_assoc]⟩
  · rintro ⟨block, done, rfl⟩
    exact ⟨_, ⟨block, done, _, rfl, rfl⟩, by simp [String.append_assoc]⟩

theorem source_made_iff_alone (org : isIdentifier imports.org = true)
    (module : isIdentifier imports.module = true) :
    (∃ text, (SourceModule.mk imports declarations).source palette = .ok text) ↔
      ∀ declaration ∈ declarations,
        ∃ text, (SourceModule.mk imports [declaration]).source palette = .ok text := by
  have made (declarations : List Declaration) :
      (∃ text, (SourceModule.mk imports declarations).source palette = .ok text) ↔
        ∀ declaration ∈ declarations, ∀ name ∈ declaration.checkedNames,
          isIdentifier name = true := by
    rw [(SourceModule.source_checks palette _).made_iff]
    simp only [SourceModule.checkedNames, List.forall_mem_cons, org, module, true_and,
      List.mem_flatMap]
    constructor
    · intro all declaration member name listed
      exact all name ⟨declaration, member, listed⟩
    · rintro each name ⟨declaration, member, listed⟩
      exact each declaration member name listed
  rw [made declarations]
  refine forall₂_congr fun declaration _ => ?_
  rw [made [declaration], List.forall_mem_singleton]

theorem source_append (org : isIdentifier imports.org = true)
    (module : isIdentifier imports.module = true) (first second : List Declaration) :
    (SourceModule.mk imports (first ++ second)).source palette = .ok text ↔ ∃ one other,
      (SourceModule.mk imports first).source palette = .ok (imports.line palette ++ one) ∧
      (SourceModule.mk imports second).source palette = .ok (imports.line palette ++ other) ∧
      text = imports.line palette ++ one ++ other := by
  simp only [source_eq_blocks org module, List.mapM_append, bind_eq_ok, pure_eq_ok]
  constructor
  · rintro ⟨_, ⟨blocks, done, others, further, rfl⟩, rfl⟩
    refine ⟨_, _, ⟨blocks, done, rfl⟩, ⟨others, further, rfl⟩, ?_⟩
    simp [String.append_assoc]
  · rintro ⟨one, other, ⟨blocks, done, here⟩, ⟨others, further, there⟩, rfl⟩
    refine ⟨_, ⟨blocks, done, others, further, rfl⟩, ?_⟩
    rw [String.append_right_inj] at here there
    simp [here, there, String.append_assoc]

end Modules

-- Blocks behind a line of their own, with an empty line in front of each.
structure LaidOut (header : String) (blocks : List String) (text : String) : Prop where
  parts : text = header ++ String.join (blocks.map ("\n" ++ ·))
  ends : EndsOnce text
  lines : ∃ line, line ≠ [] ∧ header.toList = line ++ ['\n'] ∧
    linesOf text = line :: blocks.flatMap fun block => [] :: linesOf block
  blocks : ∀ block ∈ blocks, IsBlock (linesOf block)

theorem IsBlock.last {lines : List (List Char)} (block : IsBlock lines) :
    ∃ before last, lines = before ++ [last] ∧ last ≠ [] := by
  have split := List.dropLast_append_getLast block.nonempty
  exact ⟨_, _, split.symm, block.full _ (List.getLast_mem block.nonempty)⟩

theorem last_line {line : List Char} {blocks : List String} (full : line ≠ [])
    (each : ∀ block ∈ blocks, IsBlock (linesOf block)) :
    ∃ before last, last ≠ [] ∧
      line :: blocks.flatMap (fun block => [] :: linesOf block) = before ++ [last] := by
  -- The last line of all is the first one if no block follows, and else the last one of the last
  -- block.
  rcases List.eq_nil_or_concat blocks with rfl | ⟨others, block, rfl⟩
  · exact ⟨[], line, full, rfl⟩
  · obtain ⟨before, last, split, filled⟩ := (each block (by simp)).last
    refine ⟨line :: (others.flatMap fun block => [] :: linesOf block) ++ [] :: before, last,
      filled, ?_⟩
    simp [split]

theorem laidOut {header : String} {line : List Char} {blocks : List String} (one : IsLine line)
    (begun : header.toList = line ++ ['\n']) (each : ∀ block ∈ blocks, IsBlockText block) :
    LaidOut header blocks (header ++ String.join (blocks.map ("\n" ++ ·))) := by
  have written : (header ++ String.join (blocks.map ("\n" ++ ·))).toList =
      (line :: blocks.flatMap fun block => [] :: linesOf block).flatMap (· ++ ['\n']) := by
    rw [String.toList_append, begun, String.toList_join, List.flatMap_cons, List.flatMap_map,
      List.flatMap_assoc]
    congr 1
    refine List.flatMap_congr fun block listed => ?_
    rw [String.toList_append, (each block listed).lines]
    rfl
  have whole : ∀ other ∈ line :: blocks.flatMap fun block => [] :: linesOf block,
      '\n' ∉ other := by
    refine List.forall_mem_cons.mpr ⟨one.2, fun other listed => ?_⟩
    obtain ⟨block, member, inside⟩ := List.mem_flatMap.mp listed
    rcases List.mem_cons.mp inside with rfl | own
    · exact List.not_mem_nil
    · exact (each block member).whole other own
  have blocked : ∀ block ∈ blocks, IsBlock (linesOf block) :=
    fun block listed => (each block listed).block
  obtain ⟨before, last, filled, split⟩ := last_line one.1 blocked
  refine ⟨rfl, ?_, ⟨line, one.1, begun, linesOf_eq whole written⟩, blocked⟩
  rw [split] at written whole
  exact endsOnce filled (whole last (by simp)) written

-- Every declaration is written as it would be alone, into a block of its own. One empty line stands
-- in front of each block, and there are no others.
theorem declarations_render_apart (colored : Bool) (imports : Import)
    (declarations : List Declaration) (org : isIdentifier imports.org = true)
    (module : isIdentifier imports.module = true)
    (unbroken : ∀ declaration ∈ declarations, declaration.HasUnbrokenBase) :
    let palette := Palette.ofEnabled colored
    let header := imports.line palette
    let render (declarations : List Declaration) :=
      (SourceModule.mk imports declarations).source palette
    ((∃ text, render declarations = .ok text) ↔
      ∀ declaration ∈ declarations, ∃ text, render [declaration] = .ok text) ∧
    (∀ text, render declarations = .ok text → ∃ blocks,
      List.Forall₂ (fun declaration block => render [declaration] = .ok (header ++ "\n" ++ block))
        declarations blocks ∧ LaidOut header blocks text) ∧
    ∀ more text, render (declarations ++ more) = .ok text ↔ ∃ one other,
      render declarations = .ok (header ++ one) ∧ render more = .ok (header ++ other) ∧
        text = header ++ one ++ other := by
  intro palette header render
  refine ⟨source_made_iff_alone org module, ?_, fun more _ => source_append org module _ more⟩
  intro text made
  obtain ⟨blocks, done, rfl⟩ := (source_eq_blocks org module).mp made
  have written := mapM_eq_ok done
  refine ⟨blocks.map palette.paint, ?_, ?_⟩
  · rw [List.forall₂_map_right_iff]
    exact written.imp fun _ block made => (source_alone org module).mpr ⟨block, made, rfl⟩
  · obtain ⟨line, one, begun⟩ := importLine_isLine colored org module
    have each : ∀ block ∈ blocks.map palette.paint, IsBlockText block := by
      rw [List.forall_mem_map]
      exact forall_written written fun declaration member block made =>
        declaration.isBlockText (unbroken declaration member) made
    have laid := laidOut one begun each
    rwa [List.map_map] at laid

def noticeDeclarations : List Declaration := [
  .root ⟨"Board", "graphql:Service", []⟩,
  .enum ⟨"Level", []⟩,
  .service ⟨"Notice", true, ["Node"],
    [⟨.get, "text", [⟨"limit", .optional (.primitive .int)⟩], .primitive .string⟩]⟩,
  .union ⟨"Entry", .either (.member "Notice") (.member "map")⟩]

def noticeSource : String :=
  "import ballerina/graphql;\n\n" ++
  "type Board service object \x7b\n    *graphql:Service;\n\x7d;\n\n" ++
  "enum Level \x7b\n\x7d\n\n" ++
  "distinct service class Notice \x7b\n    *Node;\n" ++
  "    resource function get text(int? limit) returns string \x7b\n    \x7d\n\x7d\n\n" ++
  "type Entry Notice|'map;\n"

theorem notices_render_apart :
    isIdentifier Import.graphql.org = true ∧ isIdentifier Import.graphql.module = true ∧
    (∀ declaration ∈ noticeDeclarations, declaration.HasUnbrokenBase) ∧
    ∃ blocks, List.Forall₂ (fun declaration block =>
        (SourceModule.mk .graphql [declaration]).source (.ofEnabled false) =
          .ok (Import.graphql.line (.ofEnabled false) ++ "\n" ++ block)) noticeDeclarations blocks ∧
      LaidOut (Import.graphql.line (.ofEnabled false)) blocks noticeSource := by
  have org : isIdentifier Import.graphql.org = true := by decide
  have module : isIdentifier Import.graphql.module = true := by decide
  have unbroken : ∀ declaration ∈ noticeDeclarations, declaration.HasUnbrokenBase := by
    simp [noticeDeclarations, Declaration.HasUnbrokenBase]
  have written : (SourceModule.mk .graphql noticeDeclarations).source (.ofEnabled false) =
      .ok noticeSource := by decide +kernel
  obtain ⟨-, laid, -⟩ :=
    declarations_render_apart false .graphql noticeDeclarations org module unbroken
  exact ⟨org, module, unbroken, laid noticeSource written⟩

-- What is written for a union, said without its nesting.
def unionLine (palette : Palette) (name : String) (members : List String) :
    Except InvalidIdentifier String :=
  match (members ++ [name]).find? (!isIdentifier ·) with
  | some bad => .error ⟨bad⟩
  | none => .ok (palette.wrap .keyword "type" ++ " " ++ palette.wrap .name (spelled name) ++ " "
      ++ "|".intercalate (members.map fun member => palette.wrap .name (spelled member)) ++ ";\n")

variable {palette : Palette} {name : String}

theorem writtenName_of_invalid (bad : isIdentifier name = false) :
    writtenName name = .error ⟨name⟩ := by
  simp [writtenName, bad]

theorem mapM_writtenName (names : List String) :
    names.mapM writtenName = match names.find? (!isIdentifier ·) with
      | some bad => .error ⟨bad⟩
      | none => .ok (names.map spelled) := by
  induction names with
  | nil => rfl
  | cons name rest ih =>
    rw [List.mapM_cons, ih]
    cases valid : isIdentifier name with
    | false => rw [writtenName_of_invalid valid, List.find?_cons_of_pos (by simp [valid])]; rfl
    | true =>
      rw [writtenName_eq_spelled valid, List.find?_cons_of_neg (by simp [valid])]
      cases rest.find? (!isIdentifier ·) <;> rfl

theorem paint_barred (palette : Palette) (words : List String) :
    palette.paint (barred words) = "|".intercalate (words.map (palette.wrap .name)) := by
  induction words with
  | nil => rfl
  | cons word rest ih =>
    cases rest with
    | nil => simp [barred, Span.name]
    | cons next others =>
      rw [barred, List.map_cons, List.map_cons] at ih
      rw [barred, List.map_cons, List.map_cons, List.intercalate_cons_cons, Palette.paint_append,
        Palette.paint_append, ih]
      simp [Span.name, String.append_assoc]

theorem typeHeader_painted (palette : Palette) (name : String) (rest : List Span) :
    (typeHeader name rest).map palette.paint =
      if isIdentifier name then .ok (palette.wrap .keyword "type" ++ " "
        ++ palette.wrap .name (spelled name) ++ " " ++ palette.paint rest ++ "\n")
      else .error ⟨name⟩ := by
  rw [typeHeader]
  cases valid : isIdentifier name with
  | false =>
    rw [writtenName_of_invalid valid]
    rfl
  | true =>
    rw [writtenName_eq_spelled valid]
    change Except.ok (palette.paint _) = Except.ok _
    simp [Span.keyword, Span.name, String.append_assoc]

theorem UnionDefinition.painted (palette : Palette) (union : UnionDefinition) :
    union.spans.map palette.paint = unionLine palette union.name union.alternatives.members := by
  rw [spans, Alternatives.spans_eq, mapM_writtenName, unionLine, List.find?_append]
  cases union.alternatives.members.find? (!isIdentifier ·) with
  | some bad => rfl
  | none =>
    change (typeHeader union.name _).map palette.paint = _
    rw [typeHeader_painted, Option.none_or]
    cases valid : isIdentifier union.name with
    | false => simp [valid]
    | true => simp [valid, paint_barred, String.append_assoc, Function.comp_def]

namespace SourceModule

theorem source_concat (palette : Palette) (imports : Import) (declarations : List Declaration)
    (declaration : Declaration) :
    (mk imports (declarations ++ [declaration])).source palette = do
      let text ← (mk imports declarations).source palette
      let block ← declaration.spans.map palette.paint
      return text ++ "\n" ++ block := by
  simp only [source, spans, List.mapM_append, List.mapM_cons, List.mapM_nil]
  cases imports.spans with
  | error _ => rfl
  | ok header =>
    cases declarations.mapM Declaration.spans with
    | error _ => rfl
    | ok blocks =>
      cases declaration.spans with
      | error _ => rfl
      | ok block =>
        change Except.ok (palette.paint _) =
          Except.ok (palette.paint _ ++ "\n" ++ palette.paint block)
        simp [String.append_assoc]

-- Unions that have their name and members in common are written alike wherever they stand, and as
-- one line that knows the members alone.
theorem nesting_never_shows (palette : Palette) (first second : UnionDefinition)
    (named : first.name = second.name)
    (listed : first.alternatives.members = second.alternatives.members) :
    (∀ imports before after,
      (mk imports (before ++ .union first :: after)).source palette =
        (mk imports (before ++ .union second :: after)).source palette) ∧
    ∀ imports before, (mk imports (before ++ [.union first])).source palette = do
      let text ← (mk imports before).source palette
      let line ← unionLine palette first.name first.alternatives.members
      return text ++ "\n" ++ line := by
  constructor
  · intro imports before after
    obtain ⟨name, left⟩ := first
    obtain ⟨_, right⟩ := second
    cases named
    have alike : (Declaration.union ⟨name, left⟩).spans = (Declaration.union ⟨name, right⟩).spans :=
      (Declaration.Alike.union listed).spans_eq
    simp only [source, spans, List.mapM_append, List.mapM_cons, alike]
  · intro imports before
    rw [source_concat, Declaration.spans, UnionDefinition.painted]

def pairedRoute : UnionDefinition where
  name := "Route"
  alternatives := .either (.either (.member "Rail") (.member "map"))
    (.either (.member "Road") (.member "Rail"))

def combedRoute : UnionDefinition where
  name := "Route"
  alternatives := .either (.either (.either (.member "Rail") (.member "map")) (.member "Road"))
    (.member "Rail")

theorem routes_written_alike :
    pairedRoute.alternatives ≠ combedRoute.alternatives ∧ pairedRoute.name = combedRoute.name ∧
    pairedRoute.alternatives.members = combedRoute.alternatives.members ∧
    (∀ after, (mk .graphql (.union pairedRoute :: after)).source .on =
      (mk .graphql (.union combedRoute :: after)).source .on) ∧
    (mk .graphql [.union pairedRoute]).source .off =
      .ok "import ballerina/graphql;\n\ntype Route Rail|'map|Road|Rail;\n" := by
  have named : pairedRoute.name = combedRoute.name := rfl
  have listed : pairedRoute.alternatives.members = combedRoute.alternatives.members := by decide
  obtain ⟨everywhere, -⟩ := nesting_never_shows .on pairedRoute combedRoute named listed
  obtain ⟨-, lastly⟩ := nesting_never_shows .off pairedRoute combedRoute named listed
  refine ⟨by decide, named, listed, everywhere .graphql [], ?_⟩
  exact (lastly .graphql []).trans (by decide +kernel)

end SourceModule

end ServiceTypes
