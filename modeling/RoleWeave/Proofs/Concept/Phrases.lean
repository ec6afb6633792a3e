import RoleWeave.Concept.Term
import RoleWeave.Proofs.Text.Lines

/-!
# Bold phrases

A search for bold phrases goes through a text from its beginning. Where a phrase stands between two
pairs of stars it is captured, and the search goes on behind it; elsewhere it goes on with the next
character: `Bold`. The phrases of a line are found by cutting the line at its stars instead, and that
is the same: `bold_bolds`. No phrase goes over the end of a line, so the phrases of a text are those
of its lines: `bold_overLines`.
-/

namespace RoleWeave.Term

/-- The stars before a bold phrase and behind it. -/
def stars : Text := ['*', '*']

/-- What may stand in bold: something without stars on one line. -/
structure IsPhrase (phrase : Text) : Prop where
  filled : phrase ≠ []
  starless : '*' ∉ phrase
  unbroken : '\n' ∉ phrase

/-- What a search for bold phrases captures in a text that begins at `position`. -/
inductive Bold : (position : Nat) → Text → List Capture → Prop where
  | done (position : Nat) : Bold position [] []
  | take {position : Nat} {phrase rest : Text} {later : List Capture} (isPhrase : IsPhrase phrase)
      (behind : Bold (position + phrase.length + 4) rest later) :
      Bold position (stars ++ phrase ++ stars ++ rest) (⟨position + 2, phrase⟩ :: later)
  | pass {position : Nat} {c : Char} {rest : Text} {later : List Capture}
      (none : ∀ phrase after, IsPhrase phrase → c :: rest ≠ stars ++ phrase ++ stars ++ after)
      (behind : Bold (position + 1) rest later) : Bold position (c :: rest) later

namespace Bold

variable {position : Nat} {text : Text} {found : List Capture}

/-- The search passes over a character that is not followed by a star. A phrase would begin with two
    stars. -/
theorem pass_of_ne {c d : Char} (other : d ≠ '*') (behind : Bold (position + 1) (d :: text) found) :
    Bold position (c :: d :: text) found := by
  refine .pass (fun phrase after _ same => ?_) behind
  simp [stars] at same
  exact other same.2.1

/-- The search passes over characters that are no stars. So what stands in front of the first star
    of a text can be left out. -/
theorem behind_starless {before : Text} (starless : '*' ∉ before)
    (behind : Bold (position + before.length) text found) :
    Bold position (before ++ text) found := by
  induction before generalizing position with
  | nil => exact behind
  | cons c before ih =>
    have other : c ≠ '*' := fun same => starless (same ▸ List.mem_cons_self)
    have others : '*' ∉ before := fun member => starless (List.mem_cons_of_mem c member)
    have further : position + (c :: before).length = position + 1 + before.length := by
      rw [List.length_cons]
      omega
    refine .pass (fun phrase after _ same => ?_) (ih others (further ▸ behind))
    simp [stars] at same
    exact other same.1

/-- Nothing is captured where there are no stars. -/
theorem of_starless (starless : '*' ∉ text) : Bold position text [] := by
  have alone : Bold position (text ++ []) [] := behind_starless starless (.done _)
  rwa [List.append_nil] at alone

/-- A captured phrase stands where its place says: behind two stars, where it was taken. By
    induction on the search, of which every step moves the place by the characters that it
    passes. -/
theorem placed (bold : Bold position text found) : ∀ capture ∈ found,
    ∃ before after, text = before ++ capture.text ++ after ∧
      capture.start = position + before.length := by
  induction bold with
  | done position => simp
  | @take position phrase rest later isPhrase behind ih =>
    intro capture member
    rcases List.mem_cons.mp member with rfl | further
    · exact ⟨stars, stars ++ rest, by simp, rfl⟩
    · obtain ⟨before, after, rfl, place⟩ := ih capture further
      refine ⟨stars ++ phrase ++ stars ++ before, after, by simp, ?_⟩
      rw [place]
      simp only [stars, List.length_append, List.length_cons, List.length_nil]
      omega
  | @pass position c rest later none behind ih =>
    intro capture member
    obtain ⟨before, after, rfl, place⟩ := ih capture member
    refine ⟨c :: before, after, by simp, ?_⟩
    rw [place, List.length_cons]
    omega

/-- Phrases do not go over the end of a line, so the search goes on with the next line.

    Proof: by induction on the search through the line. What is taken in the line is taken in the
    longer text as well. Where the search passes a character because no phrase begins there, none
    begins in the longer text either: it would have to go over the line feed, and phrases and stars
    hold none. -/
theorem append_line {rest : Text} {later : List Capture} (bold : Bold position text found)
    (behind : Bold (position + text.length + 1) rest later) :
    Bold position (text ++ '\n' :: rest) (found ++ later) := by
  induction bold with
  | done position =>
    exact .pass (fun phrase after _ same => by simp [stars] at same) behind
  | @take position phrase within later isPhrase bold ih =>
    have further : position + (stars ++ phrase ++ stars ++ within).length + 1 =
        position + phrase.length + 4 + within.length + 1 := by
      simp only [stars, List.length_append, List.length_cons, List.length_nil]
      omega
    rw [List.append_assoc]
    exact .take isPhrase (ih (further ▸ behind))
  | @pass position c within later none bold ih =>
    have further : position + (c :: within).length + 1 = position + 1 + within.length + 1 := by
      rw [List.length_cons]
      omega
    refine .pass (fun phrase after isPhrase same => ?_) (ih (further ▸ behind))
    -- A phrase that begins here ends in this line, where the search has found none.
    have whole : '\n' ∉ stars ++ phrase ++ stars := by
      simp [stars, isPhrase.unbroken]
    have same : (c :: within) ++ '\n' :: rest = stars ++ phrase ++ stars ++ after := same
    rcases List.append_eq_append_iff.mp same with ⟨between, inside, beyond⟩ | ⟨between, inside, _⟩
    · cases between with
      | nil => exact none phrase [] isPhrase (by simpa using inside.symm)
      | cons d between =>
        obtain ⟨rfl, _⟩ := List.cons.inj beyond
        simp [inside] at whole
    · exact none phrase between isPhrase inside

end Bold

/-- A text that begins with a phrase in bold is cut at the four stars and behind them. So a phrase
    can be told from the parts: it stands between an empty part with another before it and one empty
    part. -/
theorem split_stars {phrase : Text} (isPhrase : IsPhrase phrase) (after : Text) :
    Text.split (· == '*') (stars ++ phrase ++ stars ++ after) =
      [] :: [] :: phrase :: [] :: Text.split (· == '*') after := by
  have whole : ∀ c ∈ phrase, (c == '*') = false := fun c member =>
    beq_false_of_ne (fun same => isPhrase.starless (same ▸ member))
  have shape : stars ++ phrase ++ stars ++ after = '*' :: '*' :: (phrase ++ '*' :: '*' :: after) := by
    simp [stars]
  rw [shape, Text.split, if_pos (by simp), Text.split, if_pos (by simp),
    Text.split_append whole (by simp), Text.split, if_pos (by simp)]

/-- Cutting a line at its stars finds what the search captures.

    Proof: along the recursion over the parts. Where two stars, something and two stars follow each
    other the search takes what is between; the rest behind them is cut into the remaining parts.
    Where nothing is between them, or where the parts have another shape, no phrase begins at the
    star, since `split_stars` would give the parts the shape that they do not have; so the search
    passes it. A text that was not cut has no star. -/
theorem bold_bolds {text : Text} (unbroken : '\n' ∉ text) (position : Nat) :
    Bold position text (bolds position (Text.split (· == '*') text)) := by
  generalize cut : Text.split (· == '*') text = parts
  fun_induction bolds position parts generalizing text with
  | case1 position before phrase after later empty ih =>
    obtain ⟨starless, rest, rfl, behind⟩ := Text.of_split_cons_cons cut
    have whole : '\n' ∉ rest := fun member => unbroken (by simp [member])
    refine Bold.behind_starless starless (.pass (fun other beyond isPhrase same => ?_)
      (ih whole behind))
    -- The text would be cut as at a phrase, but nothing stands between these pairs of stars.
    have parts := congrArg (Text.split (· == '*')) same
    rw [split_stars isPhrase, Text.split, if_pos (by simp), behind] at parts
    obtain ⟨rfl, _⟩ := List.cons.inj (List.cons.inj (List.cons.inj parts).2).2
    exact isPhrase.filled (List.isEmpty_iff.mp empty)
  | case2 position before phrase after later filled ih =>
    obtain ⟨starless, _, rfl, opening⟩ := Text.of_split_cons_cons cut
    obtain ⟨_, _, rfl, opened⟩ := Text.of_split_cons_cons opening
    obtain ⟨unstarred, _, rfl, closing⟩ := Text.of_split_cons_cons opened
    obtain ⟨_, rest, rfl, behind⟩ := Text.of_split_cons_cons closing
    have isPhrase : IsPhrase phrase :=
      ⟨by simpa using filled, unstarred, fun member => unbroken (by simp [member])⟩
    have whole : '\n' ∉ rest := fun member => unbroken (by simp [member])
    have shape : before ++ '*' :: ([] ++ '*' :: (phrase ++ '*' :: ([] ++ '*' :: rest))) =
        before ++ (stars ++ phrase ++ stars ++ rest) := by simp [stars]
    have further : position + before.length + 2 + phrase.length + 2 =
        position + before.length + phrase.length + 4 := by omega
    rw [shape, further]
    exact Bold.behind_starless starless (.take isPhrase (further ▸ ih whole behind))
  | case3 position before later shape ih =>
    cases later with
    | nil => exact Bold.of_starless (Text.not_mem_of_split cut)
    | cons next later =>
      obtain ⟨starless, rest, rfl, behind⟩ := Text.of_split_cons_cons cut
      have whole : '\n' ∉ rest := fun member => unbroken (by simp [member])
      refine Bold.behind_starless starless (.pass (fun phrase beyond isPhrase same => ?_)
        (ih whole behind))
      -- The text would be cut as at a phrase, and the first two cases are all cuts of this shape.
      have parts := congrArg (Text.split (· == '*')) same
      rw [split_stars isPhrase, Text.split, if_pos (by simp), behind] at parts
      obtain ⟨_, parts⟩ := List.cons.inj parts
      obtain ⟨after, others, known⟩ :=
        List.exists_cons_of_ne_nil (Text.split_ne_nil (· == '*') beyond)
      exact shape phrase after others (known ▸ parts)
  | case4 position => exact absurd cut (Text.split_ne_nil _ text)

/-- No phrase is captured before the first star of a line, and none begins before the second. The
    place of a captured phrase is that of its first character. -/
theorem bolds_behind (position : Nat) (first : Text) (later : List Text) :
    ∀ capture ∈ bolds position (first :: later), position + first.length + 2 ≤ capture.start := by
  intro capture
  generalize shape : first :: later = parts
  have behind := fun further parts => (bolds_ordered further parts).1 capture
  fun_cases bolds position parts with
  | case1 before phrase after others _ =>
    obtain ⟨rfl, _⟩ := List.cons.inj shape
    intro member
    have := behind _ _ member
    omega
  | case2 before phrase after others _ =>
    obtain ⟨rfl, _⟩ := List.cons.inj shape
    intro member
    rcases List.mem_cons.mp member with rfl | further
    · exact Nat.le_refl _
    · have := behind _ _ further
      omega
  | case3 before others _ =>
    obtain ⟨rfl, _⟩ := List.cons.inj shape
    intro member
    have := behind _ _ member
    omega
  | case4 => cases shape

/-- What a search captures in a text are the bold phrases of its lines. By induction on the lines:
    the search through a line goes on with what is behind its line feed. -/
theorem bold_overLines {each : Nat → Text → List Capture}
    (bold : ∀ position line, '\n' ∉ line → Bold position line (each position line)) (text : Text)
    (position : Nat) : Bold position text (Text.overLines each position (Text.lines text)) := by
  induction text using Text.lines_induction generalizing position with
  | last line whole =>
    rw [Text.lines, Text.split_of_not_mem whole, Text.overLines, Text.overLines, List.append_nil]
    exact bold position line whole
  | more line rest whole ih =>
    rw [Text.lines_more whole, Text.overLines]
    exact (bold position line whole).append_line (ih _)

end RoleWeave.Term
