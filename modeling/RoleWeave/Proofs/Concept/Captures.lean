import RoleWeave.Proofs.Concept.Openings
import RoleWeave.Proofs.Concept.Phrases

/-!
# Terms in the order of the text

Terms are captured by three patterns: headings and leads line by line, `Opens`, and bold phrases by a
search through the whole text, `Bold`. Line by line, both are `found` in the order of the places at
which they stand: `captured_found`. The terms of a text are what is found, cleaned: `terms_eq`.
-/

namespace RoleWeave.Term

open Line (isSpacing)

/-- The captures are all that the three patterns capture in a text, in the order of their places.
    Headings and leads of blanks only do not count. -/
structure Captured (text : Text) (captures : List Capture) : Prop where
  /-- What is captured stands in the text where its place says. -/
  placed : ∀ capture ∈ captures, ∃ before after,
    text = before ++ capture.text ++ after ∧ capture.start = before.length
  /-- The places ascend. -/
  ascending : captures.Pairwise (fun first second => first.start < second.start)
  /-- Bold phrases are captured, and headings and leads of lines, and nothing else. -/
  exact : ∃ bold, Bold 0 text bold ∧ ∀ capture, capture ∈ captures ↔ capture ∈ bold ∨
    ∃ position line start, Text.LineAt text position line ∧ Opens line start capture.text ∧
      capture.start = position + start

/-- The bold phrases of a line that begins at `position`. -/
def phrases (position : Nat) (text : Text) : List Capture :=
  let body := (Line.read text).body
  bolds (position + (text.length - body.length)) (Text.split (· == '*') body)

/-- What the three patterns capture in a text, line by line. -/
def found (text : Text) : List Capture :=
  Text.overLines (fun position line => openings position line ++ phrases position line) 0
    (Text.lines text)

/-- A blank is no star. -/
theorem ne_star_of_isSpacing {c : Char} (blank : isSpacing c = true) : c ≠ '*' := by
  rintro rfl
  revert blank
  decide

/-- The search for bold phrases passes over the marker of a line, and over the blank behind it.

    Proof: the signs of headings and numbers are no stars, so they are passed over together with the
    blank. A bullet may be a star, but a blank follows it. No pair of stars begins there, so the
    search passes the bullet and then the blank. -/
theorem Bold.behind_marker {kind : LineKind} {mark body : Text} {c : Char} {position : Nat}
    {found : List Capture} (marker : Line.Marker kind mark) (blank : isSpacing c = true)
    (behind : Bold (position + mark.length + 1) body found) :
    Bold position (mark ++ c :: body) found := by
  have other := ne_star_of_isSpacing blank
  have starless : '*' ∉ mark → Bold position (mark ++ c :: body) found := by
    intro starless
    have both : '*' ∉ mark ++ [c] := by simp [starless, other.symm]
    have passed : Bold position (mark ++ [c] ++ body) found := by
      refine .behind_starless both ?_
      rwa [List.length_append, List.length_singleton, ← Nat.add_assoc]
    rwa [List.append_assoc] at passed
  cases marker with
  | heading signed _ _ =>
    refine starless (fun member => ?_)
    cases signed _ member
  | bullet _ =>
    have alone : '*' ∉ [c] := by simp [other.symm]
    exact .pass_of_ne other (.behind_starless alone behind)
  | @numbered digits sign counting _ ending =>
    refine starless (fun member => ?_)
    rcases List.mem_append.mp member with among | last
    · have counted := counting _ among
      revert counted
      decide
    · obtain rfl := List.mem_singleton.mp last
      cases ending

/-- The bold phrases of a line are those that a search through it captures. They are looked for in
    its body only, and nothing is missed by this, since none begins in the indent or the marker. -/
theorem bold_phrases {text : Text} (unbroken : '\n' ∉ text) (position : Nat) :
    Bold position text (phrases position text) := by
  rw [phrases]
  rcases Line.read_cases text with plain | ⟨indent, rest, whole, indented, _, opened⟩
  · rw [plain, Nat.sub_self]
    exact bold_bolds unbroken position
  · obtain ⟨mark, c, marker, blank, rfl⟩ := opened
    generalize (Line.read text).body = body at *
    have place : position + (text.length - body.length) =
        position + indent.length + mark.length + 1 := by
      simp only [whole, List.length_append, List.length_cons]
      omega
    have inBody : '\n' ∉ body := fun member => unbroken (by simp [whole, member])
    have starless : '*' ∉ indent := fun member => ne_star_of_isSpacing (indented _ member) rfl
    rw [whole]
    -- No phrase begins in the indent or in the marker, so the search may begin at the body.
    refine .behind_starless starless (.behind_marker marker blank ?_)
    rw [← whole, place]
    exact bold_bolds inBody _

/-- The bold phrases of a line stand behind the beginning of its content. A phrase comes behind two
    stars, and no blank in front of the content is a star. -/
theorem phrases_behind (position : Nat) (text : Text) : ∀ capture ∈ phrases position text,
    position + (text.length - ((Line.read text).body.dropWhile isSpacing).length) < capture.start := by
  obtain ⟨before, gap, content, whole, body, spaced, dropped, _⟩ := exists_content text
  intro capture member
  have starless : ∀ c ∈ gap, (c == '*') = false := fun c among =>
    beq_false_of_ne (ne_star_of_isSpacing (spaced c among))
  obtain ⟨first, later, parts⟩ := Text.exists_split_append starless content
  rw [phrases, body, parts] at member
  have := bolds_behind _ _ _ capture member
  rw [dropped]
  simp only [whole, List.length_append] at this ⊢
  omega

/-- What is captured of a line stands in it where its place says, counted from the beginning of the
    line. -/
theorem placed_in_line {text : Text} (unbroken : '\n' ∉ text) (position : Nat) :
    ∀ capture ∈ openings position text ++ phrases position text, ∃ before after,
      text = before ++ capture.text ++ after ∧ capture.start = position + before.length := by
  intro capture member
  rcases List.mem_append.mp member with opening | phrase
  · obtain ⟨start, opens, place⟩ := mem_openings_iff.mp opening
    obtain ⟨before, after, whole, rfl⟩ := opens.placed
    exact ⟨before, after, whole, place⟩
  · exact (bold_phrases unbroken position).placed capture phrase

/-- What is captured of a line is in the order of the places: the heading or the lead comes first.
    It stands at the beginning of the content, and a bold phrase stands behind that. -/
theorem ascending_in_line (position : Nat) (text : Text) :
    (openings position text ++ phrases position text).Pairwise
      (fun first second => first.start < second.start) := by
  refine List.pairwise_append.mpr ⟨?_, (bolds_ordered _ _).2, ?_⟩
  · refine List.Pairwise.filter _ ?_
    cases opening? (Line.read text) <;> simp
  · intro first opening second phrase
    obtain ⟨among, _⟩ := List.mem_filter.mp opening
    obtain ⟨captured, _, rfl⟩ := Option.map_eq_some_iff.mp (Option.mem_toList.mp among)
    exact phrases_behind position text second phrase

/-- What the three patterns capture is found in the order of the text.

    Proof: each part of `Captured` is shown for one line and carried over to the text. A place in a
    line lies between its beginning and its end, so the places ascend from line to line,
    `ascending_overLines`. The bold phrases of the lines are those of the text, `bold_overLines`.
    And what is collected from the lines is collected from the lines at all places, `mem_overLines`,
    where `mem_openings_iff` tells headings and leads. -/
theorem captured_found (text : Text) : Captured text (found text) := by
  have unbroken : ∀ line ∈ Text.lines text, '\n' ∉ line := fun line member feed =>
    absurd (Text.of_mem_split member feed).2 (by simp)
  refine ⟨?_, ?_, Text.overLines phrases 0 (Text.lines text), ?_, ?_⟩
  · intro capture member
    obtain ⟨position, line, ⟨whole, front, back, rfl, rfl, _⟩, among⟩ :=
      (Text.mem_overLines text 0).mp member
    obtain ⟨before, after, rfl, place⟩ := placed_in_line whole _ capture among
    exact ⟨front ++ before, after ++ back, by simp, by simp [place]⟩
  · refine (Text.ascending_overLines (fun line member position capture among => ?_)
      (fun line _ position => ascending_in_line position line) 0).2
    obtain ⟨before, after, whole, place⟩ := placed_in_line (unbroken line member) position capture among
    simp only [whole, List.length_append]
    omega
  · exact bold_overLines (fun position line whole => bold_phrases whole position) text 0
  · intro capture
    simp only [found, Text.mem_overLines, List.mem_append, mem_openings_iff, Nat.zero_add]
    constructor
    · rintro ⟨position, line, lineAt, ⟨start, opens, place⟩ | phrase⟩
      · exact .inr ⟨position, line, start, lineAt, opens, place⟩
      · exact .inl ⟨position, line, lineAt, phrase⟩
    · rintro (⟨position, line, lineAt, phrase⟩ | ⟨position, line, start, lineAt, opens, place⟩)
      · exact ⟨position, line, lineAt, .inr phrase⟩
      · exact ⟨position, line, lineAt, .inl ⟨start, opens, place⟩⟩

/-- Cleaning does not depend on the blanks at the end: spaces and tabs are cut off by it at both
    ends anyway. -/
theorem clean_trimEnd (text : Text) : clean (Text.trimEnd isSpacing text) = clean text := by
  obtain ⟨trimmed, whole, all⟩ := Text.trimEnd_append isSpacing text
  have decoration : ∀ c ∈ trimmed, isDecoration c = true := by
    intro c member
    have blank := all c member
    simp only [isSpacing, Bool.or_eq_true, beq_iff_eq] at blank
    rcases blank with rfl | rfl <;> decide
  rw [clean, clean]
  conv_rhs => rw [whole, Text.trimBoth_append decoration]

/-- The terms of a line are those of its heading or lead and of its bold phrases. What `openings`
    leaves out is no term: a heading or a lead of blanks is empty when it has been cleaned. -/
theorem terms_of_line (limit position : Nat) (text : Text) :
    ((capturesOfLine position text).map (fun capture => clean capture.text)).filter (isTerm limit) =
      ((openings position text ++ phrases position text).map
        (fun capture => clean capture.text)).filter (isTerm limit) := by
  simp only [capturesOfLine, List.map_append, List.filter_append]
  congr 1
  rw [openings]
  -- Only headings and leads of blanks are left out, and cleaning leaves nothing of them.
  cases opening? (Line.read text) with
  | none => rfl
  | some captured =>
    simp only [Option.map_some, Option.toList_some, List.map_cons, List.map_nil]
    rw [← clean_trimEnd captured]
    cases Text.trimEnd isSpacing captured with
    | nil => rfl
    | cons c rest => rfl

/-- The terms of a text are those of what is found in it, in this order. Line by line this is
    `terms_of_line`, and cleaning and choosing go through the lines one after the other. -/
theorem terms_eq (limit : Nat) (text : Text) :
    terms limit text =
      ((found text).map (fun capture => clean capture.text)).filter (isTerm limit) := by
  rw [terms, captures, found]
  generalize 0 = position
  induction Text.lines text generalizing position with
  | nil => rfl
  | cons line later ih =>
    rw [capturesOfLines, Text.overLines, List.map_append, List.filter_append, ih, terms_of_line,
      ← List.filter_append, ← List.map_append]

/-- A lead in bold is captured twice: the stars around it belong to the lead. -/
example : found "- **Naming** : be clear\n# Scope #".toList =
    [⟨2, "**Naming**".toList⟩, ⟨4, "Naming".toList⟩, ⟨26, "Scope".toList⟩] := by
  decide +kernel

end RoleWeave.Term
