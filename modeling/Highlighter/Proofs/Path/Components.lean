import Highlighter.Path
import Highlighter.Proofs.Text.Words

/-!
# The components of a path

A path is cut at its slashes, and what is cut can be put together again (`ofPieces_pieces`). Of the
pieces, those that are empty or a single dot count for nothing, but for the first one: a path that
is not empty has a component for its first piece, whatever this is, and one for each further piece
that counts (`components_eq_cons`).

So a path that begins with a piece that counts can be put behind any directory and a slash, and its
components are then those that come after the components of the directory (`components_join`).
-/

namespace Highlighter.Path

variable {path directory rest first : List Char} {more ps : List (List Char)}

/-! ## Pieces -/

theorem pieces_eq_splitOn (path : List Char) : pieces path = path.splitOn '/' :=
  Words.piecesChars_eq_splitOnP (· == '/') path

theorem exists_pieces_eq_cons (path : List Char) : ∃ first more, pieces path = first :: more := by
  rw [pieces_eq_splitOn]
  exact List.exists_cons_of_ne_nil (List.splitOnP_ne_nil _ path)

theorem pieces_append_slash (front back : List Char) :
    pieces (front ++ '/' :: back) = pieces front ++ pieces back :=
  Words.piecesChars_append_cons rfl front back

theorem ofPieces_pieces (path : List Char) : ofPieces (pieces path) = path := by
  rw [pieces_eq_splitOn]
  exact List.intercalate_splitOn '/'

theorem pieces_ofPieces (hne : ps ≠ []) (hps : ∀ p ∈ ps, '/' ∉ p) : pieces (ofPieces ps) = ps := by
  rw [pieces_eq_splitOn]
  exact List.splitOn_intercalate '/' hps hne

theorem slash_notMem_of_mem_pieces {p : List Char} (hp : p ∈ pieces path) : '/' ∉ p :=
  fun hmem ↦ absurd (Words.eq_false_of_mem_piecesChars hp '/' hmem) (by decide)

/-- The first piece of a path is empty if the path begins with a slash, and only then. -/
theorem eq_nil_iff_isAbsolute (hpath : path ≠ []) (h : pieces path = first :: more) :
    first = [] ↔ isAbsolute path = true := by
  cases path with
  | nil => exact absurd rfl hpath
  | cons c cs =>
    rw [pieces, Words.piecesChars] at h
    by_cases hc : c = '/'
    · rw [hc] at h ⊢
      exact iff_of_true (List.head_eq_of_cons_eq h).symm rfl
    · rw [if_neg (by simpa using hc)] at h
      refine iff_of_false ?_ (by simpa [isAbsolute] using hc)
      rintro rfl
      split at h <;> exact List.cons_ne_nil _ _ (List.head_eq_of_cons_eq h)

/-! ## Components -/

namespace Component

/-- The component of a piece that a path begins with. -/
def ofFirst (piece : List Char) : Component :=
  if piece = [] then .root
  else if piece = ['.'] then .current
  else if piece = ['.', '.'] then .parent
  else .name piece

theorem ofFirst_eq_root_iff : ofFirst first = .root ↔ first = [] := by
  grind [ofFirst]

theorem ofFirst_eq_tilde_iff : ofFirst first = .name ['~'] ↔ first = ['~'] := by
  grind [ofFirst]

theorem ofPiece?_eq_none_iff {p : List Char} : ofPiece? p = none ↔ isVoid p = true := by
  grind [ofPiece?]

/-- A piece that counts has the same component wherever it is. -/
theorem ofPiece?_eq_some_ofFirst {p : List Char} (hp : isVoid p = false) :
    ofPiece? p = some (ofFirst p) := by
  grind [ofPiece?, ofFirst, isVoid]

theorem root_notMem_filterMap_ofPiece? (ps : List (List Char)) :
    .root ∉ ps.filterMap ofPiece? := by
  intro hmem
  obtain ⟨p, -, hp⟩ := List.mem_filterMap.mp hmem
  grind [ofPiece?]

end Component

theorem leading_eq_nil (h : pieces path = first :: more) (hvoid : isVoid first = false) :
    leading path = [] := by
  rw [leading, h]
  split
  · next heq =>
    rw [List.head_eq_of_cons_eq heq] at hvoid
    exact absurd hvoid (by decide)
  · next heq =>
    rw [List.head_eq_of_cons_eq heq] at hvoid
    exact absurd hvoid (by decide)
  · rfl

theorem components_eq_filterMap (h : leading path = []) :
    components path = (pieces path).filterMap Component.ofPiece? := by
  rw [components, h, List.nil_append]

/-- **The components of a path** that is not empty: one for the first piece, whatever this is, and
one for each further piece that counts. -/
theorem components_eq_cons (hpath : path ≠ []) (h : pieces path = first :: more) :
    components path = .ofFirst first :: more.filterMap Component.ofPiece? := by
  cases hvoid : isVoid first with
  | true =>
    rw [components, leading, h]
    obtain rfl | rfl : first = [] ∨ first = ['.'] := by simpa [isVoid] using hvoid
    · cases more with
      | nil =>
        rw [← ofPieces_pieces path, h] at hpath
        exact absurd rfl hpath
      | cons p ps => rfl
    · rfl
  | false =>
    rw [components_eq_filterMap (leading_eq_nil h hvoid), h,
      List.filterMap_cons_some (Component.ofPiece?_eq_some_ofFirst hvoid)]

theorem components_cases (path : List Char) : path = [] ∨ path ≠ [] ∧ ∃ first more,
    pieces path = first :: more ∧
      components path = .ofFirst first :: more.filterMap Component.ofPiece? := by
  by_cases hpath : path = []
  · exact .inl hpath
  · obtain ⟨first, more, h⟩ := exists_pieces_eq_cons path
    exact .inr ⟨hpath, first, more, h, components_eq_cons hpath h⟩

theorem components_ne_nil (hpath : path ≠ []) : components path ≠ [] := by
  obtain rfl | ⟨-, first, more, -, hcomponents⟩ := components_cases path
  · exact absurd rfl hpath
  · rw [hcomponents]
    exact List.cons_ne_nil _ _

/-- Only the first component can be the root. -/
theorem root_notMem_tail_components (path : List Char) : .root ∉ (components path).tail := by
  obtain rfl | ⟨-, first, more, -, hcomponents⟩ := components_cases path
  · decide
  · rw [hcomponents, List.tail_cons]
    exact Component.root_notMem_filterMap_ofPiece? more

/-- A path is absolute if the root is among its components, and only then. -/
theorem root_mem_components_iff : .root ∈ components path ↔ isAbsolute path = true := by
  obtain rfl | ⟨hpath, first, more, h, hcomponents⟩ := components_cases path
  · decide
  · rw [hcomponents, List.mem_cons, eq_comm, Component.ofFirst_eq_root_iff,
      or_iff_left (Component.root_notMem_filterMap_ofPiece? more), eq_nil_iff_isAbsolute hpath h]

theorem isAbsolute_eq_false (h : leading path = []) : isAbsolute path = false := by
  rw [← Bool.not_eq_true, ← root_mem_components_iff, components_eq_filterMap h]
  exact Component.root_notMem_filterMap_ofPiece? _

theorem components_append_slash (h : pieces path = first :: more) (back : List Char) :
    components (path ++ '/' :: back) = .ofFirst first ::
      (more.filterMap Component.ofPiece? ++ (pieces back).filterMap Component.ofPiece?) := by
  have happend : pieces (path ++ '/' :: back) = first :: (more ++ pieces back) := by
    rw [pieces_append_slash, h, List.cons_append]
  rw [components_eq_cons (List.append_ne_nil_of_right_ne_nil path (List.cons_ne_nil _ _)) happend,
    List.filterMap_append]

/-! ## Paths that are taken from a directory -/

/-- A path that is taken from a directory stands behind one slash, which the directory may bring
with it. -/
theorem exists_join_eq (h : isAbsolute rest = false) (hdirectory : directory ≠ []) :
    ∃ front, join directory rest = front ++ '/' :: rest ∧
      (directory = front ∨ directory = front ++ ['/']) := by
  rw [join, h, Bool.false_or, if_neg (by rwa [List.isEmpty_iff])]
  split
  · next hlast =>
    obtain ⟨front, rfl⟩ := List.getLast?_eq_some_iff.mp hlast
    exact ⟨front, List.append_assoc front ['/'] rest, .inr rfl⟩
  · exact ⟨directory, rfl, .inl rfl⟩

theorem join_nil (rest : List Char) : join [] rest = rest := by
  rw [join, List.isEmpty_nil, Bool.or_true, if_pos rfl]

/-- The text of a directory stays in front of what is taken from it. -/
theorem prefix_join (h : isAbsolute rest = false) (directory : List Char) :
    directory <+: join directory rest := by
  by_cases hdirectory : directory = []
  · rw [hdirectory]
    exact List.nil_prefix
  · obtain ⟨front, hjoin, rfl | rfl⟩ := exists_join_eq h hdirectory
    · rw [hjoin]
      exact List.prefix_append _ _
    · rw [hjoin, List.append_cons front '/' rest]
      exact List.prefix_append _ _

/-- **What is taken from a directory** adds its components to those of the directory. -/
theorem components_join (h : leading rest = []) (directory : List Char) :
    components (join directory rest) = components directory ++ components rest := by
  by_cases hdirectory : directory = []
  · rw [hdirectory, join_nil]
    rfl
  · obtain ⟨front, hjoin, hfront⟩ := exists_join_eq (isAbsolute_eq_false h) hdirectory
    obtain ⟨first, more, hpieces⟩ := exists_pieces_eq_cons front
    have hcomponents : components directory =
        .ofFirst first :: more.filterMap Component.ofPiece? := by
      rcases hfront with rfl | rfl
      · exact components_eq_cons hdirectory hpieces
      · rw [components_append_slash hpieces]
        exact congrArg _ (List.append_nil _)
    rw [hjoin, components_append_slash hpieces, hcomponents, components_eq_filterMap h,
      List.cons_append]

end Highlighter.Path
