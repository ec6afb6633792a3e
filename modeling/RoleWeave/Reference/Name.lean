import RoleWeave.Text.Basic

/-!
# Names

Tags and protocols share one grammar of names: a letter of the basic Latin alphabet, then any
number of letters, digits, underscores and hyphens.
-/

namespace RoleWeave.Name

/-- Whether a name may begin with this character. -/
def startsWith (c : Char) : Bool :=
  c.isAlpha

/-- Whether a name may go on with this character. -/
def continuesWith (c : Char) : Bool :=
  c.isAlphanum || c == '_' || c == '-'

/-- Whether a text is a name. -/
def accepts : Text → Bool
  | [] => false
  | c :: rest => startsWith c && rest.all continuesWith

/-- Take the longest name from the beginning of a text. Answers with the name and the rest. -/
def take? : Text → Option (Text × Text)
  | [] => none
  | c :: rest =>
      if startsWith c then
        some (c :: rest.takeWhile continuesWith, rest.dropWhile continuesWith)
      else none

/-- The name that is taken and the rest make up the text. Nothing is changed in either. -/
theorem append_of_take? {text name rest : Text} (taken : take? text = some (name, rest)) :
    text = name ++ rest := by
  cases text with
  | nil => simp [take?] at taken
  | cons c tail =>
    by_cases first : startsWith c = true
    · simp only [take?, first, if_true, Option.some.injEq, Prod.mk.injEq] at taken
      rw [← taken.1, ← taken.2, List.cons_append, List.takeWhile_append_dropWhile]
    · simp [take?, first] at taken

/-- Only names are taken. The first character begins a name, and those that follow go on with it. -/
theorem accepts_of_take? {text name rest : Text} (taken : take? text = some (name, rest)) :
    accepts name = true := by
  cases text with
  | nil => simp [take?] at taken
  | cons c tail =>
    by_cases first : startsWith c = true
    · simp only [take?, first, if_true, Option.some.injEq, Prod.mk.injEq] at taken
      rw [← taken.1]
      simp [accepts, first]
    · simp [take?, first] at taken

end RoleWeave.Name
