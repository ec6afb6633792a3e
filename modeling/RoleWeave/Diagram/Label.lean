import RoleWeave.Text.Character

/-!
# Labels in diagrams

In the text of a diagram, brackets, quotes and angle signs delimit the shapes of nodes. A label is
shown without them: each is replaced by a space, and every run of blanks is a single space. So a
label stays on one line and cannot end the shape around it.
-/

namespace RoleWeave.Diagram

/-- The characters that delimit shapes and strings in a diagram. -/
def isDelimiter (c : Char) : Bool :=
  c ∈ ['(', ')', '[', ']', '\x7b', '\x7d', '"', '\x60', '<', '>']

/-- A text as the label of a node. -/
def label (text : Text) : Text :=
  Text.join [' '] (Text.words (text.map (fun c => if isDelimiter c then ' ' else c)))

/-- A label of at most `limit` characters. The last character of a label that was cut is an
    ellipsis, which is shown also where the limit leaves no room for it. -/
def clip (limit : Nat) (text : Text) : Text :=
  if text.length ≤ limit then text else text.take (limit - 1) ++ ['…']

/-- A clipped label is no longer than the limit, or than the ellipsis. -/
theorem length_clip_le (limit : Nat) (text : Text) : (clip limit text).length ≤ max 1 limit := by
  unfold clip
  split
  · omega
  · simp only [List.length_append, List.length_take, List.length_singleton]
    omega

/-- A text that ends neither a shape nor a line: it has no delimiter, and no blank but spaces. -/
def Inert (text : Text) : Prop :=
  ∀ c ∈ text, isDelimiter c = false ∧ (c = ' ' ∨ Text.isBlank c = false)

/-- A character that is a delimiter, or a blank other than a space, does not occur in an inert
    text. -/
theorem Inert.not_mem {text : Text} (inert : Inert text) {c : Char}
    (active : isDelimiter c = true ∨ c ≠ ' ' ∧ Text.isBlank c = true) : c ∉ text := by
  intro inside
  obtain ⟨undelimiting, plain⟩ := inert c inside
  rcases active with delimits | ⟨other, blank⟩
  · rw [delimits] at undelimiting
    cases undelimiting
  · rcases plain with space | unblank
    · exact other space
    · rw [blank] at unblank
      cases unblank

/-- Texts that are put one behind the other are inert if both are. -/
theorem Inert.append {first second : Text} (inert : Inert first) (follows : Inert second) :
    Inert (first ++ second) :=
  List.forall_mem_append.mpr ⟨inert, follows⟩

/-- A part of an inert text is inert. -/
theorem Inert.subset {text part : Text} (inert : Inert text) (among : part ⊆ text) : Inert part :=
  fun c inside => inert c (among inside)

end RoleWeave.Diagram
