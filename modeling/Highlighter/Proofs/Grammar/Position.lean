import Highlighter.Proofs.Grammar.Places
import Highlighter.Proofs.Json.Plain

/-!
# The same patterns in two places

Patterns can stand at the top of a grammar document, and they can be assigned to a capture group
somewhere in one. The two places do not accept the same: below a capture, the patterns must be flat,
and all that is skipped in them must stand for a value too. What is accepted in both places is the
same patterns (`Grammar.ofJson?_captured_eq_some_iff`).

What else is in the two documents does not matter, as long as it is accepted itself.
-/

namespace Highlighter

open JsonTree (Place maxNesting)

variable {ts : List JsonTree}

/-- The same trees are decoded to the same patterns, if at all. -/
theorem capturedPatterns?_eq_some_iff {r : Nat} {ps ps' : List Pattern}
    (hps : patternsOfTrees? false r ts = some ps) (hr : JsonTree.itemsDepth ts ≤ r)
    (hmax : JsonTree.itemsDepth ts ≤ maxNesting) :
    capturedPatterns? ts = some ps' ↔
      (JsonTree.areValues maxNesting ts ∧ ∀ p ∈ ps, p.IsFlat) ∧ ps' = ps := by
  have hcaptured := restricts_patternsOfTrees? true ts hmax hr ps'
  rw [hps, Option.some_inj] at hcaptured
  rw [capturedPatterns?, Option.ite_none_right_eq_some, hcaptured]
  constructor
  · rintro ⟨hvalues, rfl, hflat⟩
    exact ⟨⟨hvalues, fun p hp ↦ hflat p hp rfl⟩, rfl⟩
  · rintro ⟨⟨hvalues, hflat⟩, rfl⟩
    exact ⟨hvalues, rfl, fun p hp _ ↦ hflat p hp⟩

/-- The patterns at the top of a document. -/
theorem Grammar.patternsOfTrees?_of_fill {fields : Place} {g : Grammar}
    (hfields : fields.IsOf fieldKeys some "patterns")
    (hg : ofTree? (fields.fill (.array ts)) = some g) :
    patternsOfTrees? false (maxNesting - 2) ts = some g.patterns := by
  have hset := isSetBy_patterns.ofTree?_fill (by decide) hfields hg (.array ts)
  obtain ⟨ps, hps, heq⟩ := Option.map_eq_some_iff.1 (hset.symm.trans hg)
  rw [← heq]
  exact hps

theorem Grammar.CapturesAt.length_pos {places : List Place} {fill : List Pattern → Grammar}
    (h : CapturesAt places fill) : 0 < places.length := by
  cases h <;> exact Nat.succ_pos _

/-- **The same patterns below a capture.** Patterns that are decoded at the top of a document are
decoded below a capture too if they are flat and stand for values with all that is skipped in them,
and then they are the same patterns; otherwise the document is rejected. -/
theorem Grammar.ofJson?_captured_eq_some_iff {fields : Place} {places : List Place}
    {fill : List Pattern → Grammar} {text text' : String} {g g' : Grammar}
    (hfields : fields.IsOf fieldKeys some "patterns")
    (htext : JsonTree.ofString? text = some (fields.fill (.array ts)))
    (htop : Grammar.ofJson? text = some g) (hplaces : CapturesAt places fill)
    (htext' : JsonTree.ofString? text' = some (Place.fillAll places (.array ts)))
    (hdepth : (Place.fillAll places (.array ts)).depth ≤ maxNesting) :
    Grammar.ofJson? text' = some g' ↔
      (JsonTree.areValues maxNesting ts ∧ ∀ p ∈ g.patterns, p.IsFlat) ∧
        g' = fill g.patterns := by
  rw [ofJson?, htext, Option.bind_some] at htop
  -- There are at most as many arrays and objects around the patterns at the top.
  have hts : JsonTree.itemsDepth ts ≤ maxNesting - 2 := by
    have hlength := hplaces.length_pos
    have hle := Nat.le_trans (Place.length_add_depth_le places (.array ts)) hdepth
    rw [JsonTree.depth] at hle
    omega
  rw [ofJson?, htext', Option.bind_some, hplaces.ofTree?_fillAll hdepth, Option.map_eq_some_iff]
  simp only [capturedPatterns?_eq_some_iff (patternsOfTrees?_of_fill hfields htop) hts
    (Nat.le_trans hts (by decide))]
  constructor
  · rintro ⟨ps, ⟨h, rfl⟩, rfl⟩
    exact ⟨h, rfl⟩
  · rintro ⟨h, rfl⟩
    exact ⟨g.patterns, ⟨h, rfl⟩, rfl⟩

/-- A disabled pattern with another one below it. -/
def outerPattern : Pattern :=
  (((Pattern.single "m").named "n").withPatterns [.including "#r"]).disabled

theorem isFlat_outerPattern : outerPattern.IsFlat :=
  ⟨rfl, rfl, rfl, List.forall_mem_singleton.2 ⟨rfl, rfl, rfl, List.forall_mem_nil _⟩⟩

/-- The tree of the pattern. -/
def outerTree : JsonTree :=
  .object [("name".toList, .string "n".toList), ("match".toList, .string "m".toList),
    ("disabled".toList, .number (.natural 1)),
    ("patterns".toList, .array [.object [("include".toList, .string "#r".toList)]])]

/-- The patterns at the top of a document that says more. -/
def topPlace : Place :=
  .member [("scopeName".toList, .string "s".toList)] "patterns".toList
    [("version".toList, .number (.natural 2))]

/-- The patterns of a capture group of a block, which stands below a rule of the repository. -/
def groupPlaces : List Place :=
  [.member [("name".toList, .string "g".toList)] "repository".toList
      [("fileTypes".toList, .array [.string "f".toList])],
    .member [] "r".toList [("q".toList, .object [])],
    .member [] "patterns".toList [],
    .item [.object []] [],
    .member [("begin".toList, .string "b".toList)] "beginCaptures".toList
      [("end".toList, .string "e".toList)],
    .member [("0".toList, .string "x".toList)] "1".toList [],
    .member [("name".toList, .string "y".toList)] "patterns".toList [("note".toList, .null)]]

/-- The grammar with given patterns there. -/
def groupGrammar (ps : List Pattern) : Grammar where
  displayName := some "g"
  fileTypes := ["f"]
  repository := .ofList [("r", .group [{}, ((Pattern.block "b" "e").withBeginCapture 0
    (.scope "x")).withBeginCapture 1 ⟨some "y", ps⟩]), ("q", {})]

theorem capturesAt_groupPlaces : Grammar.CapturesAt groupPlaces groupGrammar := by
  have hblock : Pattern.CapturesAt (groupPlaces.drop 4) _ :=
    .table (List.mem_cons_of_mem _ List.mem_cons_self) rfl rfl rfl rfl rfl rfl rfl
  have hrule : Pattern.CapturesAt (groupPlaces.drop 2) _ := .nested rfl rfl rfl rfl hblock
  have hgrammar : Grammar.CapturesAt groupPlaces _ := .repository rfl rfl rfl rfl rfl hrule
  exact hgrammar

/-- A flat pattern is accepted in both places. -/
theorem Grammar.ofJson?_captured_outerPattern :
    Grammar.ofJson? (topPlace.fill (.array [outerTree])).text =
        some { scopeName := "s", patterns := [outerPattern] } ∧
      Grammar.ofJson? (Place.fillAll groupPlaces (.array [outerTree])).text =
        some (groupGrammar [outerPattern]) := by
  have htext := (JsonTree.isPlain_of_isUnescaped (topPlace.fill (.array [outerTree]))
    (by decide)).isText_text.ofString?_eq_some
  have htop : Grammar.ofJson? (topPlace.fill (.array [outerTree])).text =
      some { scopeName := "s", patterns := [outerPattern] } := by
    rw [Grammar.ofJson?, htext]
    rfl
  have htext' := (JsonTree.isPlain_of_isUnescaped (Place.fillAll groupPlaces (.array [outerTree]))
    (by decide)).isText_text.ofString?_eq_some
  have hfields : topPlace.IsOf fieldKeys some "patterns" := rfl
  refine ⟨htop, (Grammar.ofJson?_captured_eq_some_iff hfields htext htop capturesAt_groupPlaces
    htext' (by decide)).2 ⟨⟨by decide, ?_⟩, rfl⟩⟩
  exact List.forall_mem_singleton.2 isFlat_outerPattern

/-! ## Patterns that are accepted in one place only -/

/-- An object with patterns and nothing else: a grammar, or what is assigned to a capture group. -/
def JsonTree.patternsObject (ts : List JsonTree) : JsonTree :=
  .object [("patterns".toList, .array ts)]

/-- An object with a table and nothing else, which assigns to one group: a pattern. -/
def JsonTree.tableObject (table : String) (group : List Char) (t : JsonTree) : JsonTree :=
  .object [(table.toList, .object [(group, t)])]

open JsonTree (patternsObject tableObject)

/-- A pattern with what is assigned to the first group of a match. -/
def firstCapture (t : JsonTree) : JsonTree := tableObject "captures" ['1'] t

/-- The patterns of a document, with one that assigns a scope to a group. -/
def scopedPatterns : JsonTree := patternsObject [firstCapture (.string ['x'])]

/-- The document in which some patterns are assigned to a group. -/
def captured (t : JsonTree) : JsonTree := patternsObject [firstCapture t]

/-- A pattern that assigns a scope to a group is accepted at the top only. -/
theorem Grammar.ofJson?_captured_scopedPatterns :
    Grammar.ofJson? scopedPatterns.text =
        some { patterns := [Pattern.withCapture {} 1 (.scope "x")] } ∧
      (captured scopedPatterns).depth ≤ JsonTree.maxNesting ∧
      Grammar.ofJson? (captured scopedPatterns).text = none := by
  have htop := (JsonTree.isPlain_of_isUnescaped scopedPatterns
    (by decide)).isText_text.ofString?_eq_some
  have hcaptured := (JsonTree.isPlain_of_isUnescaped (captured scopedPatterns)
    (by decide)).isText_text.ofString?_eq_some
  refine ⟨?_, by decide, ?_⟩
  · rw [ofJson?, htop]
    rfl
  · rw [ofJson?, hcaptured]
    rfl

end Highlighter
