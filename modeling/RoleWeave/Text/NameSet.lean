import RoleWeave.Text.Basic

/-!
# Sorted sets of texts

Protocol names, entry names and the ids of hoisted skills are shown in ascending order of their
code points, each once. A `NameSet` carries that order as an invariant of its type.
-/

namespace RoleWeave

/-- Insert a text into an ascending list, unless it is there already. -/
def insertAscending (name : Text) : List Text → List Text
  | [] => [name]
  | other :: rest =>
      if name < other then name :: other :: rest
      else if other < name then other :: insertAscending name rest
      else other :: rest

/-- Insertion adds its text and keeps the others. A text that is there already is not added
    again. -/
theorem mem_insertAscending {name tested : Text} {names : List Text} :
    tested ∈ insertAscending name names ↔ tested = name ∨ tested ∈ names := by
  induction names with
  | nil => simp [insertAscending]
  | cons other rest ih =>
    simp only [insertAscending]
    split
    · simp
    · split
      · simp only [List.mem_cons, ih]
        grind
      · rename_i notBefore notAfter
        have same : name = other :=
          List.le_antisymm (List.not_lt.mp notAfter) (List.not_lt.mp notBefore)
        subst same
        simp

/-- Insertion keeps a list ascending. The text is put before the first that it comes before, so it
    comes after all those in front of it. -/
theorem insertAscending_pairwise {name : Text} {names : List Text}
    (ascending : names.Pairwise (· < ·)) :
    (insertAscending name names).Pairwise (· < ·) := by
  induction names with
  | nil => simp [insertAscending]
  | cons other rest ih =>
    obtain ⟨before, tail⟩ := List.pairwise_cons.mp ascending
    simp only [insertAscending]
    split
    · rename_i smaller
      refine List.pairwise_cons.mpr ⟨?_, ascending⟩
      intro tested member
      rcases List.mem_cons.mp member with rfl | later
      · exact smaller
      · exact List.lt_trans smaller (before tested later)
    · split
      · rename_i greater
        refine List.pairwise_cons.mpr ⟨?_, ih tail⟩
        intro tested member
        rcases mem_insertAscending.mp member with rfl | later
        · exact greater
        · exact before tested later
      · exact ascending

/-- A finite set of texts, held in ascending order. -/
structure NameSet where
  names : List Text
  ascending : names.Pairwise (· < ·)

namespace NameSet

/-- The set without members. -/
def empty : NameSet := ⟨[], List.Pairwise.nil⟩

instance : Inhabited NameSet := ⟨empty⟩

instance : Membership Text NameSet := ⟨fun set name => name ∈ set.names⟩

/-- The set with one more member. -/
def insert (set : NameSet) (name : Text) : NameSet :=
  ⟨insertAscending name set.names, insertAscending_pairwise set.ascending⟩

/-- The members of a list as a set. -/
def ofList (names : List Text) : NameSet :=
  names.foldl insert empty

/-- Whether the set has no members. -/
def isEmpty (set : NameSet) : Bool :=
  set.names.isEmpty

/-- The members of a set are its names. -/
theorem mem_def {set : NameSet} {name : Text} : name ∈ set ↔ name ∈ set.names := Iff.rfl

/-- Inserting a text into a set adds it as a member and keeps the others. -/
theorem mem_insert {set : NameSet} {name tested : Text} :
    tested ∈ set.insert name ↔ tested = name ∨ tested ∈ set :=
  mem_insertAscending

/-- A set made from a list has exactly the members of the list, whatever their order. By induction
    on the list, for any set into which its names are put. -/
theorem mem_ofList {names : List Text} {tested : Text} :
    tested ∈ ofList names ↔ tested ∈ names := by
  have folded : ∀ set : NameSet,
      tested ∈ names.foldl insert set ↔ tested ∈ set ∨ tested ∈ names := by
    induction names with
    | nil => simp
    | cons name rest ih =>
      intro set
      simp only [List.foldl_cons, ih, mem_insert, List.mem_cons]
      grind
  simpa [ofList, empty, mem_def] using folded empty

end NameSet

end RoleWeave
