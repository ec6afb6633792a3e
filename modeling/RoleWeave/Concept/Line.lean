import RoleWeave.Text.Character

/-!
# Lines of a text

Headings and list items are told by the beginning of their line: a marker, and a space or tab after
it. What follows that one blank is the body of the line. Lines end with a line feed and with nothing
else.
-/

namespace RoleWeave

/-- What the beginning of a line makes of it. -/
inductive LineKind where
  | plain
  /-- One to six number signs, indented by three at most. -/
  | heading
  /-- A bullet sign. -/
  | bullet
  /-- A number with a full stop or a closing bracket. -/
  | numbered
deriving DecidableEq, Repr

/-- A line without its marker. A plain line is all body. -/
structure Line where
  kind : LineKind
  body : Text
deriving DecidableEq, Repr

namespace Line

/-- The blanks that lines are indented and markers are set off with. -/
def isSpacing (c : Char) : Bool :=
  c == ' ' || c == '\t'

/-- The signs that begin an item of a list. -/
def isBullet (c : Char) : Bool :=
  c ∈ ['-', '*', '+', '•']

/-- The signs that end the number of an item. -/
def isNumberEnd (c : Char) : Bool :=
  c == '.' || c == ')'

/-- The body of a line, if what stands behind its marker begins with a blank. -/
def body? : Text → Option Text
  | [] => none
  | c :: rest => if isSpacing c then some rest else none

/-- The body of a heading, from the first number sign on. -/
def heading? (text : Text) : Option Text :=
  let signs := (text.takeWhile (· == '#')).length
  if signs = 0 || 6 < signs then none else body? (text.drop signs)

/-- The body of an item with a bullet. -/
def bullet? : Text → Option Text
  | [] => none
  | c :: rest => if isBullet c then body? rest else none

/-- The body of an item with a number. -/
def numbered? (text : Text) : Option Text :=
  if (text.takeWhile Text.isDigit).isEmpty then none
  else
    match text.dropWhile Text.isDigit with
    | [] => none
    | c :: rest => if isNumberEnd c then body? rest else none

/-- Tell a line by its beginning. -/
def read (text : Text) : Line :=
  let unindented := text.dropWhile isSpacing
  let indent := (text.takeWhile isSpacing).length
  match (if indent ≤ 3 then heading? unindented else none) with
  | some body => ⟨.heading, body⟩
  | none =>
      match bullet? unindented with
      | some body => ⟨.bullet, body⟩
      | none =>
          match numbered? unindented with
          | some body => ⟨.numbered, body⟩
          | none => ⟨.plain, text⟩

/-- The body of a line is the end of the line, behind the character that marks it. -/
theorem body?_suffix {text body : Text} (found : body? text = some body) : body <:+ text := by
  cases text with
  | nil => simp [body?] at found
  | cons c rest =>
    simp only [body?] at found
    split at found
    · cases found
      exact List.suffix_cons c body
    · simp at found

/-- A line ends with its body.

    Proof: a line is a heading, an item or a plain line. In each case the body is what is left when
    blanks and markers at its beginning are dropped, and what is left of an end of the line is an
    end of the line. -/
theorem read_body_suffix (text : Text) : (read text).body <:+ text := by
  have unindented : text.dropWhile isSpacing <:+ text := List.dropWhile_suffix _
  simp only [read]
  split
  · rename_i body found
    split at found
    · simp only [heading?] at found
      split at found
      · simp at found
      · exact ((body?_suffix found).trans (List.drop_suffix _ _)).trans unindented
    · simp at found
  · split
    · rename_i body found
      refine List.IsSuffix.trans ?_ unindented
      cases shape : text.dropWhile isSpacing with
      | nil => simp [shape, bullet?] at found
      | cons c rest =>
        simp only [shape, bullet?] at found
        split at found
        · exact (body?_suffix found).trans (List.suffix_cons c rest)
        · simp at found
    · split
      · rename_i body found
        refine List.IsSuffix.trans ?_ unindented
        simp only [numbered?] at found
        split at found
        · simp at found
        · have number := List.dropWhile_suffix (l := text.dropWhile isSpacing) Text.isDigit
          split at found
          · simp at found
          · rename_i c rest shape
            split at found
            · rw [shape] at number
              exact (body?_suffix found).trans ((List.suffix_cons c rest).trans number)
            · simp at found
      · exact List.suffix_refl text

end Line

end RoleWeave
