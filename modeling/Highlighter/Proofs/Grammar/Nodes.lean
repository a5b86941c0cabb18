import Highlighter.Proofs.Grammar.Compile
import Mathlib.Data.List.Basic

/-!
# Where the rules of a grammar are

An enabled pattern of a grammar has an address: it is below one of the patterns of the grammar or of
its repository, and a path of branches leads down to it. Addresses are ordered. What is at the top
comes before the repository, entries of the repository come in the order of their names, and a
pattern comes before what is below it. Of what is below it, the patterns assigned to capture groups
come first, table by table and group by group.

The walk that compiles a grammar visits each address once and in this order
(`Grammar.IsSorted.pairwise_nodes`). That capture tables are in ascending order of group is an
assumption here, because the type of patterns does not say so. It holds of whatever is built or
read.
-/

namespace Highlighter

/-! ## Addresses -/

/-- A way down from a pattern: to one of the patterns that a table assigns to a group, or to one of
the patterns below. -/
inductive Branch where
  | captures (group index : Nat)
  | beginCaptures (group index : Nat)
  | endCaptures (group index : Nat)
  | patterns (index : Nat)
deriving DecidableEq

/-- What branches are ordered by. -/
def Branch.key : Branch → List Nat
  | captures group index => [0, group, index]
  | beginCaptures group index => [1, group, index]
  | endCaptures group index => [2, group, index]
  | patterns index => [3, index]

instance : LT Branch := ⟨fun b b' ↦ b.key < b'.key⟩

/-- A pattern of a grammar that is not below another one. -/
inductive Root where
  | pattern (index : Nat)
  /-- An entry of the repository. -/
  | rule (name : String)
deriving DecidableEq

/-- Whether one root comes before another. -/
def Root.Precedes : Root → Root → Prop
  | pattern index, pattern index' => index < index'
  | pattern _, rule _ => True
  | rule _, pattern _ => False
  | rule name, rule name' => name < name'

instance : LT Root := ⟨Root.Precedes⟩

/-- A root and the way down from it. -/
structure Address where
  root : Root
  path : List Branch
deriving DecidableEq

/-- A path comes before the paths that go on from it. -/
instance : LT Address := ⟨fun a a' ↦ a.root < a'.root ∨ a.root = a'.root ∧ a.path < a'.path⟩

instance : Std.Asymm (α := Branch) (· < ·) :=
  ⟨fun b b' ↦ Std.Asymm.asymm (r := (· < ·)) b.key b'.key⟩

instance : Std.Asymm (α := Root) (· < ·) where
  asymm
    | .pattern _, .pattern _ => Nat.lt_asymm
    | .pattern _, .rule _ => fun _ h ↦ h
    | .rule _, .pattern _ => fun h _ ↦ h
    | .rule name, .rule name' => Std.Asymm.asymm (r := (· < ·)) name name'

instance : Std.Asymm (α := Address) (· < ·) where
  asymm a a' := by
    rintro (hroot | ⟨hroot, hpath⟩) (hroot' | ⟨hroot', hpath'⟩)
    · exact Std.Asymm.asymm _ _ hroot hroot'
    · exact Std.Irrefl.irrefl (r := (· < ·)) _ (hroot' ▸ hroot)
    · exact Std.Irrefl.irrefl (r := (· < ·)) _ (hroot ▸ hroot')
    · exact Std.Asymm.asymm _ _ hpath hpath'

namespace Pattern

/-- The pattern that a branch leads to. -/
inductive HasBranch (p : Pattern) : Branch → Pattern → Prop
  | captures {group index : Nat} {c : Capture Pattern} {q : Pattern}
      (hc : (group, c) ∈ p.captures) (hq : c.patterns[index]? = some q) :
      HasBranch p (.captures group index) q
  | beginCaptures {group index : Nat} {c : Capture Pattern} {q : Pattern}
      (hc : (group, c) ∈ p.beginCaptures) (hq : c.patterns[index]? = some q) :
      HasBranch p (.beginCaptures group index) q
  | endCaptures {group index : Nat} {c : Capture Pattern} {q : Pattern}
      (hc : (group, c) ∈ p.endCaptures) (hq : c.patterns[index]? = some q) :
      HasBranch p (.endCaptures group index) q
  | patterns {index : Nat} {q : Pattern} (hq : p.patterns[index]? = some q) :
      HasBranch p (.patterns index) q

/-- The pattern that a path leads to. Nothing on the path is disabled, its end included. -/
inductive HasNode : Pattern → List Branch → Pattern → Prop
  | here {p : Pattern} (hp : p.isDisabled = false) : HasNode p [] p
  | branch {p q q' : Pattern} {b : Branch} {path : List Branch} (hp : p.isDisabled = false)
      (hb : p.HasBranch b q) (h : HasNode q path q') : HasNode p (b :: path) q'

/-- The capture tables here and anywhere below are in ascending order of group. -/
inductive IsSorted : Pattern → Prop
  | mk {p : Pattern} (hcaptures : p.captures.Pairwise (·.1 < ·.1))
      (hbegin : p.beginCaptures.Pairwise (·.1 < ·.1)) (hend : p.endCaptures.Pairwise (·.1 < ·.1))
      (hchildren : ∀ q ∈ p.children, q.IsSorted) : IsSorted p

end Pattern

namespace Grammar

/-- The enabled pattern at an address. -/
inductive HasNode (g : Grammar) : Address → Pattern → Prop
  | pattern {index : Nat} {path : List Branch} {p q : Pattern} (hp : g.patterns[index]? = some p)
      (h : p.HasNode path q) : HasNode g ⟨.pattern index, path⟩ q
  | rule {name : String} {path : List Branch} {p q : Pattern}
      (hp : (name, p) ∈ g.repository.entries) (h : p.HasNode path q) :
      HasNode g ⟨.rule name, path⟩ q

/-- All capture tables are in ascending order of group. -/
def IsSorted (g : Grammar) : Prop :=
  ∀ p ∈ g.patterns ++ g.repository.entries.map (·.2), p.IsSorted

end Grammar

/-! ## The branches of a pattern -/

/-- The branches into a capture table, in the order of the table. -/
def tableBranches (branch : Nat → Nat → Branch) (captures : List (Nat × Capture Pattern)) :
    List (Branch × Pattern) :=
  captures.flatMap fun c ↦ c.2.patterns.zipIdx.map fun q ↦ (branch c.1 q.2, q.1)

theorem mem_tableBranches {branch : Nat → Nat → Branch} {captures : List (Nat × Capture Pattern)}
    {b : Branch} {q : Pattern} : (b, q) ∈ tableBranches branch captures ↔
      ∃ c ∈ captures, ∃ index, c.2.patterns[index]? = some q ∧ b = branch c.1 index := by
  simp only [tableBranches, List.mem_flatMap, List.mem_map, Prod.mk.injEq, Prod.exists,
    List.mem_zipIdx_iff_getElem?]
  constructor
  · rintro ⟨group, c, hc, q, index, hq, rfl, rfl⟩
    exact ⟨group, c, hc, index, hq, rfl⟩
  · rintro ⟨group, c, hc, index, hq, rfl⟩
    exact ⟨group, c, hc, q, index, hq, rfl, rfl⟩

theorem map_tableBranches (branch : Nat → Nat → Branch)
    (captures : List (Nat × Capture Pattern)) :
    (tableBranches branch captures).map (·.2) = captures.flatMap (·.2.patterns) := by
  simp [tableBranches, List.map_flatMap, Function.comp_def]

namespace Pattern

/-- The branches of a pattern in order, and where they lead to. -/
def branches (p : Pattern) : List (Branch × Pattern) :=
  tableBranches .captures p.captures ++ tableBranches .beginCaptures p.beginCaptures ++
    tableBranches .endCaptures p.endCaptures ++ p.patterns.zipIdx.map fun q ↦ (.patterns q.2, q.1)

variable {p q : Pattern} {b : Branch} {path : List Branch}

theorem mem_branches : (b, q) ∈ p.branches ↔ p.HasBranch b q := by
  simp only [branches, List.mem_append, mem_tableBranches, List.mem_map, Prod.mk.injEq,
    Prod.exists, List.mem_zipIdx_iff_getElem?]
  constructor
  · rintro (((⟨group, c, hc, index, hq, rfl⟩ | ⟨group, c, hc, index, hq, rfl⟩) |
      ⟨group, c, hc, index, hq, rfl⟩) | ⟨q, index, hq, rfl, rfl⟩)
    · exact .captures hc hq
    · exact .beginCaptures hc hq
    · exact .endCaptures hc hq
    · exact .patterns hq
  · rintro (⟨hc, hq⟩ | ⟨hc, hq⟩ | ⟨hc, hq⟩ | hq)
    · exact .inl (.inl (.inl ⟨_, _, hc, _, hq, rfl⟩))
    · exact .inl (.inl (.inr ⟨_, _, hc, _, hq, rfl⟩))
    · exact .inl (.inr ⟨_, _, hc, _, hq, rfl⟩)
    · exact .inr ⟨q, _, hq, rfl, rfl⟩

theorem HasBranch.mem_children (h : p.HasBranch b q) : q ∈ p.children := by
  cases h with
  | @captures group _ c _ hc hq | @beginCaptures group _ c _ hc hq
  | @endCaptures group _ c _ hc hq =>
    refine List.mem_append_right _ (List.mem_flatMap.mpr ⟨(group, c), ?_, List.mem_of_getElem? hq⟩)
    simp [hc]
  | patterns hq => exact List.mem_append_left _ (List.mem_of_getElem? hq)

theorem mem_children_of_mem_branches {e : Branch × Pattern} (he : e ∈ p.branches) :
    e.2 ∈ p.children :=
  (mem_branches.mp he).mem_children

/-! ## The walk -/

/-- The enabled patterns at a pattern and below it, in the order of a walk, with their paths. -/
def nodes (p : Pattern) : List (List Branch × Pattern) :=
  if p.isDisabled then []
  else ([], p) :: p.branches.attach.flatMap fun ⟨e, _⟩ ↦ e.2.nodes.map fun n ↦ (e.1 :: n.1, n.2)
termination_by sizeOf p
decreasing_by exact sizeOf_lt_of_mem_children (mem_children_of_mem_branches ‹_›)

theorem nodes_of_isDisabled (hp : p.isDisabled = true) : p.nodes = [] := by
  rw [nodes, if_pos hp]

theorem nodes_eq (hp : p.isDisabled = false) : p.nodes =
    ([], p) :: p.branches.flatMap fun e ↦ e.2.nodes.map fun n ↦ (e.1 :: n.1, n.2) := by
  rw [nodes, if_neg (by simp [hp])]
  conv_rhs => rw [← List.attach_map_subtype_val p.branches, List.flatMap_map]

theorem mem_nodes_cons (hp : p.isDisabled = false) :
    (b :: path, q) ∈ p.nodes ↔ ∃ q', p.HasBranch b q' ∧ (path, q) ∈ q'.nodes := by
  simp only [nodes_eq hp, List.mem_cons, Prod.mk.injEq, reduceCtorEq, false_and, false_or,
    List.mem_flatMap, List.mem_map, Prod.exists, mem_branches, List.cons.injEq]
  constructor
  · rintro ⟨b', q', hb, path', q'', hq, ⟨rfl, rfl⟩, rfl⟩
    exact ⟨q', hb, hq⟩
  · rintro ⟨q', hb, hq⟩
    exact ⟨b, q', hb, path, q, hq, ⟨rfl, rfl⟩, rfl⟩

/-- The walk visits what paths lead to. -/
theorem mem_nodes : (path, q) ∈ p.nodes ↔ p.HasNode path q := by
  constructor
  · intro h
    induction path generalizing p with
    | nil =>
      by_cases hp : p.isDisabled
      · simp [nodes_of_isDisabled hp] at h
      · rw [Bool.not_eq_true] at hp
        obtain rfl : q = p := by simpa [nodes_eq hp] using h
        exact .here hp
    | cons b path ih =>
      by_cases hp : p.isDisabled
      · simp [nodes_of_isDisabled hp] at h
      · rw [Bool.not_eq_true] at hp
        obtain ⟨q', hb, hq⟩ := (mem_nodes_cons hp).mp h
        exact .branch hp hb (ih hq)
  · intro h
    induction h with
    | here hp =>
      rw [nodes_eq hp]
      exact List.mem_cons_self
    | branch hp hb _ ih => exact (mem_nodes_cons hp).mpr ⟨_, hb, ih⟩

end Pattern

/-- The enabled rules of some patterns are those of each of them. -/
theorem enabledRules_eq_flatMap (ps : List Pattern) :
    enabledRules ps = ps.flatMap Pattern.enabledRules := by
  induction ps with
  | nil => rfl
  | cons p ps ih => rw [enabledRules, ih, List.flatMap_cons]

theorem captureRules_eq_flatMap (captures : List (Nat × Capture Pattern)) :
    captureRules captures = (captures.flatMap (·.2.patterns)).flatMap Pattern.enabledRules := by
  induction captures with
  | nil => rfl
  | cons c captures ih =>
    rw [captureRules, enabledRules_eq_flatMap, ih, List.flatMap_cons, List.flatMap_append]

namespace Pattern

variable {p : Pattern}

theorem enabledRules_eq (hp : p.isDisabled = false) :
    p.enabledRules = p.toRule :: (p.branches.map (·.2)).flatMap enabledRules := by
  obtain ⟨rule, patterns, captures, beginCaptures, endCaptures⟩ := p
  rw [enabledRules, if_neg (by simpa using hp)]
  simp only [branches, List.map_append, map_tableBranches, List.flatMap_append,
    captureRules_eq_flatMap, enabledRules_eq_flatMap, List.map_map, Function.comp_def,
    List.zipIdx_map_fst]

theorem enabledRules_of_isDisabled (hp : p.isDisabled = true) : p.enabledRules = [] := by
  obtain ⟨rule, patterns, captures, beginCaptures, endCaptures⟩ := p
  rw [enabledRules, if_pos hp]

/-- The rules that are checked are those of the walk. -/
theorem map_nodes (p : Pattern) : p.nodes.map (·.2.toRule) = p.enabledRules := by
  induction p using nodes.induct with
  | case1 p hp =>
    rw [nodes_of_isDisabled hp, enabledRules_of_isDisabled hp]
    rfl
  | case2 p hp ih =>
    rw [Bool.not_eq_true] at hp
    rw [nodes_eq hp, enabledRules_eq hp, List.map_cons, List.map_flatMap, List.flatMap_map]
    congr 1
    refine List.flatMap_congr fun e he ↦ ?_
    rw [List.map_map]
    exact ih e he

end Pattern

/-! ## The order of the walk -/

namespace Branch

/-- Which of the tables a branch leads into, where the patterns below count as the last one. -/
def part : Branch → Nat
  | captures _ _ => 0
  | beginCaptures _ _ => 1
  | endCaptures _ _ => 2
  | patterns _ => 3

variable {b b' : Branch}

theorem lt_of_part_lt (h : b.part < b'.part) : b < b' := by
  have hkey (b : Branch) : ∃ rest, b.key = b.part :: rest := by cases b <;> exact ⟨_, rfl⟩
  obtain ⟨rest, hrest⟩ := hkey b
  obtain ⟨rest', hrest'⟩ := hkey b'
  change b.key < b'.key
  rw [hrest, hrest', List.cons_lt_cons_iff]
  exact .inl h

end Branch

/-- Branches in order, none of them into a table behind some others. -/
structure AreOrdered (parts : Nat) (l : List (Branch × Pattern)) : Prop where
  ordered : l.Pairwise (·.1 < ·.1)
  part_lt : ∀ e ∈ l, e.1.part < parts

theorem AreOrdered.append {parts : Nat} {l l' : List (Branch × Pattern)} (h : AreOrdered parts l)
    (h' : l'.Pairwise (·.1 < ·.1)) (hpart : ∀ e ∈ l', e.1.part = parts) :
    AreOrdered (parts + 1) (l ++ l') where
  ordered := List.pairwise_append.mpr ⟨h.ordered, h', fun e he e' he' ↦
    Branch.lt_of_part_lt (hpart e' he' ▸ h.part_lt e he)⟩
  part_lt := by
    intro e he
    rcases List.mem_append.mp he with he | he
    · exact Nat.lt_succ_of_lt (h.part_lt e he)
    · exact hpart e he ▸ Nat.lt_succ_self _

theorem pairwise_zipIdx {α : Type} (l : List α) : l.zipIdx.Pairwise (·.2 < ·.2) := by
  have h := List.pairwise_lt_range' (s := 0) (n := l.length)
  rw [← List.zipIdx_map_snd, List.pairwise_map] at h
  exact h

/-- Branches into one table are in order if the table is. -/
theorem AreOrdered.append_tableBranches {parts : Nat} {l : List (Branch × Pattern)}
    {captures : List (Nat × Capture Pattern)} (h : AreOrdered parts l)
    (hcaptures : captures.Pairwise (·.1 < ·.1)) (branch : Nat → Nat → Branch)
    (hkey : ∀ group index, (branch group index).key = [parts, group, index])
    (hpart : ∀ group index, (branch group index).part = parts) :
    AreOrdered (parts + 1) (l ++ tableBranches branch captures) := by
  have hlt {group index group' index' : Nat}
      (h : group < group' ∨ group = group' ∧ index < index') :
      branch group index < branch group' index' := by
    change (branch group index).key < (branch group' index').key
    simpa [hkey, List.cons_lt_cons_iff] using h
  refine h.append (List.pairwise_flatMap.mpr ⟨fun c _ ↦ ?_, hcaptures.imp fun hgroup ↦ ?_⟩) ?_
  · exact List.pairwise_map.mpr ((pairwise_zipIdx _).imp fun hindex ↦ hlt (.inr ⟨rfl, hindex⟩))
  · intro e he e' he'
    obtain ⟨q, -, rfl⟩ := List.mem_map.mp he
    obtain ⟨q', -, rfl⟩ := List.mem_map.mp he'
    exact hlt (.inl hgroup)
  · intro e he
    obtain ⟨c, -, index, -, hb⟩ := mem_tableBranches.mp he
    rw [hb, hpart]

namespace Pattern

variable {p : Pattern}

/-- The branches of a pattern with sorted capture tables are in order. -/
theorem pairwise_branches (hcaptures : p.captures.Pairwise (·.1 < ·.1))
    (hbegin : p.beginCaptures.Pairwise (·.1 < ·.1)) (hend : p.endCaptures.Pairwise (·.1 < ·.1)) :
    p.branches.Pairwise (·.1 < ·.1) := by
  have hnil : AreOrdered 0 [] := ⟨.nil, List.forall_mem_nil _⟩
  have htable := hnil.append_tableBranches hcaptures .captures (fun _ _ ↦ rfl) fun _ _ ↦ rfl
  have htables := (htable.append_tableBranches hbegin .beginCaptures (fun _ _ ↦ rfl)
    fun _ _ ↦ rfl).append_tableBranches hend .endCaptures (fun _ _ ↦ rfl) fun _ _ ↦ rfl
  refine (htables.append ?_ ?_).ordered
  · refine List.pairwise_map.mpr ((pairwise_zipIdx _).imp fun hindex ↦ ?_)
    exact List.cons_lt_cons_iff.mpr (.inr ⟨rfl, List.cons_lt_cons_iff.mpr (.inl hindex)⟩)
  · intro e he
    obtain ⟨q, -, rfl⟩ := List.mem_map.mp he
    rfl

/-- **The walk visits paths in order.** -/
theorem IsSorted.pairwise_nodes (h : p.IsSorted) : p.nodes.Pairwise (·.1 < ·.1) := by
  induction h with
  | @mk p hcaptures hbegin hend _ ih =>
    by_cases hp : p.isDisabled
    · rw [nodes_of_isDisabled hp]
      exact .nil
    rw [Bool.not_eq_true] at hp
    rw [nodes_eq hp]
    refine List.pairwise_cons.mpr ⟨fun n hn ↦ ?_, List.pairwise_flatMap.mpr ⟨fun e he ↦ ?_, ?_⟩⟩
    · obtain ⟨e, -, hn⟩ := List.mem_flatMap.mp hn
      obtain ⟨n, -, rfl⟩ := List.mem_map.mp hn
      exact List.nil_lt_cons _ _
    · refine List.pairwise_map.mpr ((ih e.2 (mem_children_of_mem_branches he)).imp fun hlt ↦ ?_)
      exact List.cons_lt_cons_iff.mpr (.inr ⟨rfl, hlt⟩)
    · refine (pairwise_branches hcaptures hbegin hend).imp fun hlt n hn n' hn' ↦ ?_
      obtain ⟨n, -, rfl⟩ := List.mem_map.mp hn
      obtain ⟨n', -, rfl⟩ := List.mem_map.mp hn'
      exact List.cons_lt_cons_iff.mpr (.inl hlt)

end Pattern

/-! ## The walk over a grammar -/

namespace Grammar

variable {g : Grammar} {a : Address} {p q : Pattern}

/-- The patterns that the walk over a grammar begins with. -/
def roots (g : Grammar) : List (Root × Pattern) :=
  g.patterns.zipIdx.map (fun p ↦ (.pattern p.2, p.1)) ++
    g.repository.entries.map fun e ↦ (.rule e.1, e.2)

/-- The enabled patterns of a grammar with their addresses, in the order of the walk. -/
def nodes (g : Grammar) : List (Address × Pattern) :=
  g.roots.flatMap fun e ↦ e.2.nodes.map fun n ↦ (⟨e.1, n.1⟩, n.2)

theorem map_roots (g : Grammar) :
    g.roots.map (·.2) = g.patterns ++ g.repository.entries.map (·.2) := by
  simp [roots, Function.comp_def]

/-- The walk visits what addresses lead to. -/
theorem mem_nodes : (a, q) ∈ g.nodes ↔ g.HasNode a q := by
  obtain ⟨root, path⟩ := a
  simp only [nodes, roots, List.mem_flatMap, List.mem_append, List.mem_map, Prod.exists,
    Prod.mk.injEq, Address.mk.injEq, List.mem_zipIdx_iff_getElem?]
  constructor
  · rintro ⟨root', p, ⟨p, index, hp, rfl, rfl⟩ | ⟨name, p, hp, rfl, rfl⟩, path', q', hq, ⟨rfl, rfl⟩,
      rfl⟩
    · exact .pattern hp (Pattern.mem_nodes.mp hq)
    · exact .rule hp (Pattern.mem_nodes.mp hq)
  · intro h
    cases h with
    | @pattern index _ p _ hp h =>
      exact ⟨_, p, .inl ⟨p, index, hp, rfl, rfl⟩, path, q, Pattern.mem_nodes.mpr h, ⟨rfl, rfl⟩, rfl⟩
    | @rule name _ p _ hp h =>
      exact ⟨_, p, .inr ⟨name, p, hp, rfl, rfl⟩, path, q, Pattern.mem_nodes.mpr h, ⟨rfl, rfl⟩, rfl⟩

/-- The rules that are checked are those of the walk. -/
theorem map_nodes (g : Grammar) : g.nodes.map (·.2.toRule) = g.enabledRules := by
  rw [enabledRules, enabledRules_eq_flatMap, ← map_roots, nodes, List.map_flatMap, List.flatMap_map]
  refine List.flatMap_congr fun e _ ↦ ?_
  rw [List.map_map]
  exact e.2.map_nodes

theorem pairwise_roots (g : Grammar) : g.roots.Pairwise (·.1 < ·.1) := by
  refine List.pairwise_append.mpr ⟨?_, ?_, ?_⟩
  · exact List.pairwise_map.mpr (pairwise_zipIdx g.patterns)
  · exact List.pairwise_map.mpr g.repository.ascending
  · intro e he e' he'
    obtain ⟨p, -, rfl⟩ := List.mem_map.mp he
    obtain ⟨p', -, rfl⟩ := List.mem_map.mp he'
    exact trivial

/-- **The walk over a grammar visits addresses in order.** -/
theorem IsSorted.pairwise_nodes (h : g.IsSorted) : g.nodes.Pairwise (·.1 < ·.1) := by
  refine List.pairwise_flatMap.mpr ⟨fun e he ↦ ?_, ?_⟩
  · have hsorted : e.2.IsSorted := h e.2 (g.map_roots ▸ List.mem_map_of_mem he)
    exact List.pairwise_map.mpr (hsorted.pairwise_nodes.imp fun hlt ↦ .inr ⟨rfl, hlt⟩)
  · refine g.pairwise_roots.imp fun hlt n hn n' hn' ↦ ?_
    obtain ⟨n, -, rfl⟩ := List.mem_map.mp hn
    obtain ⟨n', -, rfl⟩ := List.mem_map.mp hn'
    exact .inl hlt

end Grammar

end Highlighter
