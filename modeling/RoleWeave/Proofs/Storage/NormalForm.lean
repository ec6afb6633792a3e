import RoleWeave.Storage.Path
import RoleWeave.Proofs.Text.Splitting

/-!
# Paths in normal form

A path is in normal form if it is empty, or a sequence of names between slashes: no name is empty, a
single dot or two dots, and none holds a backslash or a colon. What `Path.normalize` admits it brings
into normal form, and a path in normal form it leaves as it is.
-/

namespace RoleWeave

namespace Path

/-- A segment that leads to something below: it moves, does not climb and names no drive. -/
structure IsName (segment : Text) : Prop where
  moves : moves segment = true
  below : segment ≠ parent
  plain : ∀ c ∈ segment, isSlash c = false ∧ c ≠ ':'

/-- A path in normal form. -/
structure Proper (path : Text) : Prop where
  named : path = [] ∨
    ∀ segment ∈ path.splitOn '/', segment ≠ [] ∧ segment ≠ here ∧ segment ≠ parent
  backslash : '\\' ∉ path
  colon : ':' ∉ path
  relative : path.head? ≠ some '/'

/-- A slash of either kind is the one or the other. -/
theorem isSlash_eq_false_iff {c : Char} : isSlash c = false ↔ c ≠ '/' ∧ c ≠ '\\' := by
  simp [isSlash]

/-- A segment moves exactly if it is neither empty nor a single dot. -/
theorem moves_iff {segment : Text} : moves segment = true ↔ segment ≠ [] ∧ segment ≠ here := by
  simp [moves]

/-- A path that is admitted begins with no slash and holds no colon. -/
theorem isAbsolute_eq_false_iff {path : Text} :
    isAbsolute path = false ↔
      (∀ c, path.head? = some c → c ≠ '/' ∧ c ≠ '\\') ∧ ':' ∉ path := by
  cases path with
  | nil => simp [isAbsolute]
  | cons first rest => simp [isAbsolute, isSlash, and_assoc]

/-- Normalizing admits a path exactly if it neither begins with a slash of either kind nor holds a
    colon or a segment of two dots. What is left of it are the segments that move. -/
theorem normalize_eq_ok_iff {path result : Text} :
    normalize path = .ok result ↔
      isAbsolute path = false ∧ parent ∉ segments path ∧
        result = Text.join ['/'] ((segments path).filter moves) := by
  unfold normalize
  split
  · rename_i absolute
    simp [absolute]
  · rename_i relative
    split
    · rename_i climbs
      simp only [List.contains_iff_mem] at climbs
      simp [climbs]
    · rename_i stays
      simp only [List.contains_iff_mem] at stays
      simp only [Bool.not_eq_true] at relative
      simp only [relative, stays, not_false_eq_true, true_and, Except.ok.injEq]
      exact eq_comm

/-- A path of names is in normal form.

    Proof: each of its characters is a slash between two names or stands in a name, so none is a
    backslash or a colon. Cut at the slashes, the path falls into the names again, because none of
    them holds a slash; and a name is not empty, a single dot or two dots. Its first character is
    that of a name, so the path does not begin with a slash. -/
theorem proper_join {names : List Text} (each : ∀ name ∈ names, IsName name) :
    Proper (Text.join ['/'] names) := by
  have plain : ∀ c ∈ Text.join ['/'] names, c = '/' ∨ isSlash c = false ∧ c ≠ ':' := by
    intro c inside
    rcases Text.of_mem_join inside with between | ⟨name, member, deeper⟩
    · exact .inl (List.mem_singleton.mp between)
    · exact .inr ((each name member).plain c deeper)
  constructor
  · cases names with
    | nil => exact .inl rfl
    | cons name later =>
      right
      have slashless : ∀ found ∈ name :: later, '/' ∉ found := by
        intro found member inside
        exact absurd ((each found member).plain '/' inside).1 (by decide)
      rw [Text.join, List.splitOn_intercalate '/' slashless (List.cons_ne_nil name later)]
      intro segment member
      obtain ⟨moving, below, _⟩ := each segment member
      obtain ⟨nonempty, elsewhere⟩ := moves_iff.mp moving
      exact ⟨nonempty, elsewhere, below⟩
  · intro inside
    rcases plain _ inside with same | ⟨slashless, _⟩
    · exact absurd same (by decide)
    · exact absurd slashless (by decide)
  · intro inside
    rcases plain _ inside with same | ⟨_, other⟩
    · exact absurd same (by decide)
    · exact other rfl
  · cases names with
    | nil => simp [Text.join]
    | cons name later =>
      have named := each name List.mem_cons_self
      cases shape : name with
      | nil => exact absurd shape (moves_iff.mp named.moves).1
      | cons c rest =>
        have first : c ≠ '/' :=
          (isSlash_eq_false_iff.mp (named.plain c (shape ▸ List.mem_cons_self)).1).1
        cases later <;> simpa [Text.join] using first

/-- What normalizing leaves is in normal form. Each segment that is left moves and does not climb,
    and it holds neither a slash of either kind nor a colon. -/
theorem proper_of_normalize {path result : Text} (admitted : normalize path = .ok result) :
    Proper result := by
  obtain ⟨relative, stays, rfl⟩ := normalize_eq_ok_iff.mp admitted
  apply proper_join
  intro segment member
  obtain ⟨inside, moving⟩ := List.mem_filter.mp member
  constructor
  · exact moving
  · rintro rfl
    exact stays inside
  · intro c deeper
    obtain ⟨within, slashless⟩ := Text.of_mem_split inside deeper
    refine ⟨slashless, ?_⟩
    rintro rfl
    exact (isAbsolute_eq_false_iff.mp relative).2 within

/-- A path in normal form is left as it is.

    Proof: it has no backslash, so it is cut at its slashes only. All segments move, so none is left
    out, and joining them gives the path. The segment of the empty path does not move and leaves
    nothing. -/
theorem Proper.normalize_eq {path : Text} (proper : Proper path) : normalize path = .ok path := by
  obtain ⟨each, unslashed, colonless, relative⟩ := proper
  have cuts : segments path = path.splitOn '/' := by
    rw [segments, List.splitOn_eq_splitOnP, ← Text.split_eq_splitOnP]
    apply Text.split_congr
    intro c inside
    have other : c ≠ '\\' := by
      rintro rfl
      exact unslashed inside
    simp [isSlash, other]
  rw [normalize_eq_ok_iff, isAbsolute_eq_false_iff, cuts]
  refine ⟨⟨?_, colonless⟩, ?_, ?_⟩
  · intro c first
    constructor
    · rintro rfl
      exact relative first
    · rintro rfl
      exact unslashed (List.mem_of_mem_head? first)
  · rcases each with rfl | each
    · decide
    · exact fun member => (each parent member).2.2 rfl
  · rcases each with rfl | each
    · rfl
    · have all : (path.splitOn '/').filter moves = path.splitOn '/' := by
        apply List.filter_eq_self.mpr
        intro segment member
        exact moves_iff.mpr ⟨(each segment member).1, (each segment member).2.1⟩
      rw [all, Text.join, List.intercalate_splitOn]

end Path

end RoleWeave
