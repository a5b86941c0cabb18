import Highlighter.Config
import Highlighter.Proofs.Path.Components
import Mathlib.Data.List.DropRight

/-!
# The home directory in paths

A path whose first component is a `~` is taken from the home directory. What follows the `~` may
begin with further slashes and dots. They are left out, so what is put behind the home directory
begins with a piece that counts (`leading_ofPieces_trimVoid`). It is not absolute then, and the home
directory stays in front of it: for the text of the path as well as for its components.

A path that lies under the home directory begins with the first component of the home directory, if
this has any. So if that is not a `~` itself, nothing is left to expand, neither in a single path
nor in those of the settings.
-/

namespace Highlighter

namespace Path

variable {path home : String} {first : List Char} {more ps : List (List Char)}

/-! ## What is left behind a `~` -/

theorem filterMap_ofPiece?_dropWhile (ps : List (List Char)) :
    (ps.dropWhile isVoid).filterMap Component.ofPiece? = ps.filterMap Component.ofPiece? := by
  induction ps with
  | nil => rfl
  | cons p ps ih =>
    cases hp : isVoid p with
    | true =>
      rw [List.dropWhile_cons_of_pos hp, ih,
        List.filterMap_cons_none (Component.ofPiece?_eq_none_iff.mpr hp)]
    | false => rw [List.dropWhile_cons_of_neg (Bool.not_eq_true _ ▸ hp)]

theorem filterMap_ofPiece?_trimVoid (ps : List (List Char)) :
    (trimVoid ps).filterMap Component.ofPiece? = ps.filterMap Component.ofPiece? := by
  rw [trimVoid, List.filterMap_reverse, filterMap_ofPiece?_dropWhile, List.filterMap_reverse,
    filterMap_ofPiece?_dropWhile, List.reverse_reverse]

theorem trimVoid_prefix_dropWhile (ps : List (List Char)) : trimVoid ps <+: ps.dropWhile isVoid :=
  List.rdropWhile_prefix isVoid (ps.dropWhile isVoid)

theorem isVoid_eq_false_of_trimVoid_eq_cons (h : trimVoid ps = first :: more) :
    isVoid first = false := by
  obtain ⟨after, hafter⟩ := trimVoid_prefix_dropWhile ps
  have hhead := List.head?_dropWhile_not isVoid ps
  rwa [← hafter, h] at hhead

theorem pieces_ofPieces_trimVoid (hps : ∀ p ∈ ps, '/' ∉ p) (hne : trimVoid ps ≠ []) :
    pieces (ofPieces (trimVoid ps)) = trimVoid ps :=
  pieces_ofPieces hne fun p hp ↦
    hps p ((List.dropWhile_sublist isVoid).mem ((trimVoid_prefix_dropWhile ps).mem hp))

/-- What is left begins with a piece that counts, however many slashes there were. -/
theorem leading_ofPieces_trimVoid (hps : ∀ p ∈ ps, '/' ∉ p) :
    leading (ofPieces (trimVoid ps)) = [] := by
  cases h : trimVoid ps with
  | nil => rfl
  | cons first more =>
    have hpieces := pieces_ofPieces_trimVoid hps (h ▸ List.cons_ne_nil first more)
    rw [h] at hpieces
    exact leading_eq_nil hpieces (isVoid_eq_false_of_trimVoid_eq_cons h)

theorem components_ofPieces_trimVoid (hps : ∀ p ∈ ps, '/' ∉ p) :
    components (ofPieces (trimVoid ps)) = ps.filterMap Component.ofPiece? := by
  rw [components_eq_filterMap (leading_ofPieces_trimVoid hps), ← filterMap_ofPiece?_trimVoid ps]
  -- If nothing is left, there is still one piece, which is empty.
  cases h : trimVoid ps with
  | nil => rfl
  | cons first more => rw [← h, pieces_ofPieces_trimVoid hps (h ▸ List.cons_ne_nil first more)]

/-! ## Paths that begin with a `~` -/

/-- Whether the first component of a path is a `~`. -/
def BeginsWithTilde (path : String) : Prop :=
  (components path.toList).head? = some (.name ['~'])

instance (path : String) : Decidable (BeginsWithTilde path) :=
  inferInstanceAs (Decidable (_ = _))

theorem beginsWithTilde_iff :
    BeginsWithTilde path ↔ ∃ more, pieces path.toList = ['~'] :: more := by
  rw [BeginsWithTilde, ← List.head?_eq_some_iff]
  obtain hpath | ⟨-, first, more, h, hcomponents⟩ := components_cases path.toList
  · rw [hpath]
    decide
  · rw [hcomponents, h, List.head?_cons, List.head?_cons, Option.some_inj, Option.some_inj,
      Component.ofFirst_eq_tilde_iff]

theorem exists_afterTilde?_eq_some (h : BeginsWithTilde path) :
    ∃ rest, afterTilde? path.toList = some rest ∧ leading rest = [] ∧
      components rest = (components path.toList).tail := by
  obtain ⟨more, hpieces⟩ := beginsWithTilde_iff.mp h
  have hmore : ∀ p ∈ more, '/' ∉ p := fun p hp ↦
    slash_notMem_of_mem_pieces (hpieces ▸ List.mem_cons_of_mem _ hp)
  have hpath : path.toList ≠ [] := by
    intro hnil
    rw [BeginsWithTilde, hnil] at h
    exact absurd h (by decide)
  refine ⟨ofPieces (trimVoid more), ?_, leading_ofPieces_trimVoid hmore, ?_⟩
  · simp only [afterTilde?, hpieces]
  · rw [components_ofPieces_trimVoid hmore, components_eq_cons hpath hpieces, List.tail_cons]

theorem expandHome_eq_self (h : ¬BeginsWithTilde path) (home : Option String) :
    expandHome path home = path := by
  have hafter : afterTilde? path.toList = none := by
    rw [afterTilde?]
    split
    · next more hpieces => exact absurd (beginsWithTilde_iff.mpr ⟨more, hpieces⟩) h
    · rfl
  simp only [expandHome, hafter]

theorem exists_expandHome_eq_join (h : BeginsWithTilde path) (home : String) :
    ∃ rest, (expandHome path (some home)).toList = join home.toList rest ∧ leading rest = [] ∧
      components rest = (components path.toList).tail := by
  obtain ⟨rest, hafter, hrest⟩ := exists_afterTilde?_eq_some h
  refine ⟨rest, ?_, hrest⟩
  simp only [expandHome, hafter, String.toList_ofList]

theorem components_expandHome (h : BeginsWithTilde path) (home : String) :
    components (expandHome path (some home)).toList =
      components home.toList ++ (components path.toList).tail := by
  obtain ⟨rest, hjoin, hleading, hrest⟩ := exists_expandHome_eq_join h home
  rw [hjoin, components_join hleading, hrest]

/-- A home directory that has a first component of its own leaves no `~` to expand. -/
theorem not_beginsWithTilde_expandHome (hhome : home ≠ "") (htilde : ¬BeginsWithTilde home)
    (path : String) : ¬BeginsWithTilde (expandHome path (some home)) := by
  by_cases hpath : BeginsWithTilde path
  · have hne : components home.toList ≠ [] := components_ne_nil (by simpa using hhome)
    rwa [BeginsWithTilde, components_expandHome hpath, List.head?_append_of_ne_nil _ hne]
  · rwa [expandHome_eq_self hpath]

/-- Whether a path lies under a directory: its components begin with those of the directory. -/
def LiesUnder (path directory : String) : Prop :=
  components directory.toList <+: components path.toList

/-- **Paths and the home directory.** Only a path whose first component is a `~` is changed. It then
has the components of the home directory and behind them its own, but for the `~`. It lies under the
home directory, whose text is still in front, and so it is absolute only if the home directory is,
whatever comes behind the `~`. If the home directory is not empty and does not begin with a `~`
itself, expanding once is enough. -/
theorem expandHome_stays_under_home (path home : String) :
    (¬BeginsWithTilde path → expandHome path (some home) = path) ∧
    (BeginsWithTilde path →
      components (expandHome path (some home)).toList =
        components home.toList ++ (components path.toList).tail ∧
      LiesUnder (expandHome path (some home)) home ∧
      home.toList <+: (expandHome path (some home)).toList ∧
      isAbsolute (expandHome path (some home)).toList = isAbsolute home.toList) ∧
    (home ≠ "" → ¬BeginsWithTilde home →
      expandHome (expandHome path (some home)) (some home) = expandHome path (some home)) := by
  refine ⟨fun h ↦ expandHome_eq_self h _, fun h ↦ ?_, fun hhome htilde ↦ ?_⟩
  · have hcomponents := components_expandHome h home
    refine ⟨hcomponents, ?_, ?_, ?_⟩
    · rw [LiesUnder, hcomponents]
      exact List.prefix_append _ _
    · obtain ⟨rest, hjoin, hleading, -⟩ := exists_expandHome_eq_join h home
      rw [hjoin]
      exact prefix_join (isAbsolute_eq_false hleading) _
    · rw [Bool.eq_iff_iff, ← root_mem_components_iff, ← root_mem_components_iff, hcomponents,
        List.mem_append, or_iff_left (root_notMem_tail_components _)]
  · exact expandHome_eq_self (not_beginsWithTilde_expandHome hhome htilde path) _

theorem expandHome_behindSlashes :
    (¬BeginsWithTilde "./~/x" ∧ expandHome "./~/x" (some "/home/user") = "./~/x") ∧
    (BeginsWithTilde "~//etc/x" ∧
      components (expandHome "~//etc/x" (some "/home/user")).toList =
        [.root, .name "home".toList, .name "user".toList, .name "etc".toList, .name "x".toList] ∧
      LiesUnder (expandHome "~//etc/x" (some "/home/user")) "/home/user" ∧
      "/home/user".toList <+: (expandHome "~//etc/x" (some "/home/user")).toList ∧
      isAbsolute (expandHome "~//etc/x" (some "/home/user")).toList = true) ∧
    "/home/user" ≠ "" ∧ ¬BeginsWithTilde "/home/user" ∧
    expandHome (expandHome "~//etc/x" (some "/home/user")) (some "/home/user") =
      expandHome "~//etc/x" (some "/home/user") := by
  have hother : ¬BeginsWithTilde "./~/x" := by decide
  have hpath : BeginsWithTilde "~//etc/x" := by decide
  have hhome : "/home/user" ≠ "" := by decide
  have htilde : ¬BeginsWithTilde "/home/user" := by decide
  obtain ⟨hsame, -, -⟩ := expandHome_stays_under_home "./~/x" "/home/user"
  obtain ⟨-, hunder, htwice⟩ := expandHome_stays_under_home "~//etc/x" "/home/user"
  exact ⟨⟨hother, hsame hother⟩, ⟨hpath, hunder hpath⟩, hhome, htilde, htwice hhome htilde⟩

end Path

/-! ## The paths of the settings -/

namespace Config

variable {text : String} {c : Config}

theorem exists_expandHome_eq_of_mem {home : Option String} (h : ofToml? home text = some c)
    {path : String} (hpath : path ∈ c.grammarPaths ++ c.themePaths) :
    ∃ written, Path.expandHome written home = path := by
  obtain ⟨es, -, hes⟩ := Option.bind_eq_some_iff.mp h
  simp only [ofEntries?, Option.bind_eq_bind, Option.bind_eq_some_iff, Option.pure_def,
    Option.some_inj] at hes
  obtain ⟨_, -, _, -, _, -, _, -, grammarPaths, -, themePaths, -, rfl⟩ := hes
  rcases List.mem_append.mp hpath with hpath | hpath
  · obtain ⟨written, -, hwritten⟩ := List.mem_map.mp hpath
    exact ⟨written, hwritten⟩
  · obtain ⟨written, -, hwritten⟩ := List.mem_map.mp hpath
    exact ⟨written, hwritten⟩

/-- **The paths of the settings** are expanded already, where there is a home directory that does
not begin with a `~` itself. -/
theorem not_beginsWithTilde_of_mem {home : String} (h : ofToml? (some home) text = some c)
    (hhome : home ≠ "") (htilde : ¬Path.BeginsWithTilde home) :
    ∀ path ∈ c.grammarPaths ++ c.themePaths, ¬Path.BeginsWithTilde path := by
  intro path hpath
  obtain ⟨written, rfl⟩ := exists_expandHome_eq_of_mem h hpath
  exact Path.not_beginsWithTilde_expandHome hhome htilde written

end Config

end Highlighter
