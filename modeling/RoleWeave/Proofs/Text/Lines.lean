import Mathlib.Data.List.Basic
import RoleWeave.Proofs.Text.Splitting

/-!
# Lines and their places

A line begins where the text begins or behind a line feed, and it ends where the text ends or before
a line feed: `LineAt` says so of a part of a text, without going through the text from its beginning.
These are the lines into which a text is cut, each with its place. So what is collected from the lines
one after the other comes from the lines at all places, `mem_overLines`, and it ascends if what is
collected from one line ascends within this line: `ascending_overLines`.
-/

namespace RoleWeave.Text

/-- A line of a text, behind as many characters as `position` says. -/
def LineAt (text : Text) (position : Nat) (line : Text) : Prop :=
  '\n' ∉ line ∧ ∃ front back, text = front ++ line ++ back ∧ front.length = position ∧
    (front = [] ∨ ∃ before, front = before ++ ['\n']) ∧ (back = [] ∨ ∃ after, back = '\n' :: after)

/-- What is collected from lines one after the other. The first of them begins at `position`. -/
def overLines {α : Type} (each : Nat → Text → List α) (position : Nat) : List Text → List α
  | [] => []
  | line :: later => each position line ++ overLines each (position + line.length + 1) later

/-- A line that ends at a line feed comes before the lines of the rest. With `split_of_not_mem` this
    describes the lines of every text. -/
theorem lines_more {line : Text} (whole : '\n' ∉ line) (rest : Text) :
    lines (line ++ '\n' :: rest) = line :: lines rest := by
  rw [lines_append, lines, split_of_not_mem whole, List.singleton_append]

/-- A text is a single line, or it is a line with a line feed and a further text behind it. Whatever
    is said of all lines of a text is proved along these two cases.

    Proof: the text is cut at its first line feed, if it has one. What is behind it is shorter. -/
@[elab_as_elim] theorem lines_induction {motive : Text → Prop}
    (last : ∀ line, '\n' ∉ line → motive line)
    (more : ∀ line rest, '\n' ∉ line → motive rest → motive (line ++ '\n' :: rest)) (text : Text) :
    motive text := by
  induction size : text.length using Nat.strongRecOn generalizing text with
  | ind n ih =>
    by_cases feed : '\n' ∈ text
    · obtain ⟨line, rest, rfl, whole⟩ := List.eq_append_cons_of_mem feed
      refine more line rest whole (ih rest.length ?_ rest rfl)
      simp only [List.length_append, List.length_cons] at size
      omega
    · exact last text feed

/-- A text without line feeds has itself as a line and no other. What stands before or behind any
    other line ends with a line feed or begins with one, and the text has none. -/
theorem lineAt_single {text : Text} (whole : '\n' ∉ text) {position : Nat} {line : Text} :
    LineAt text position line ↔ position = 0 ∧ line = text := by
  constructor
  · rintro ⟨_, front, back, rfl, rfl, begins, ends⟩
    rcases begins with rfl | ⟨before, rfl⟩
    · rcases ends with rfl | ⟨after, rfl⟩
      · simp
      · simp at whole
    · simp at whole
  · rintro ⟨rfl, rfl⟩
    exact ⟨whole, [], [], by simp, rfl, .inl rfl, .inl rfl⟩

/-- A line feed is the first one of a text, or it is one of what is behind the first one. The two
    ways of writing the text are compared: the part before the one feed is a beginning of the part
    before the other, and the first feed cannot stand inside a part that has none. -/
theorem feed_cases {first rest before after : Text} (whole : '\n' ∉ first)
    (same : first ++ '\n' :: rest = before ++ '\n' :: after) :
    before = first ∧ after = rest ∨
      ∃ between, before = first ++ '\n' :: between ∧ rest = between ++ '\n' :: after := by
  rcases List.append_eq_append_iff.mp same with ⟨between, shape, behind⟩ | ⟨between, shape, behind⟩
  · cases between with
    | nil => exact .inl ⟨by simpa using shape, by simpa using behind.symm⟩
    | cons c between =>
      obtain ⟨rfl, further⟩ := List.cons.inj behind
      exact .inr ⟨between, shape, further⟩
  · cases between with
    | nil => exact .inl ⟨by simpa using shape.symm, by simpa using behind⟩
    | cons c between =>
      obtain ⟨rfl, _⟩ := List.cons.inj behind
      simp [shape] at whole

/-- The lines of a text are its first line and, further on, those behind the first line feed.

    Proof: a line that nothing stands before is the first one, since it goes on to the first line
    feed and no further. A line behind a line feed is behind the first one, by `feed_cases`: either
    the feed before it is the first, and then it begins the rest, or the feed is one of the rest.
    Conversely what stands in front of a line of the rest is prolonged by the first line and its
    feed. -/
theorem lineAt_more {first rest : Text} (whole : '\n' ∉ first) {position : Nat} {line : Text} :
    LineAt (first ++ '\n' :: rest) position line ↔
      position = 0 ∧ line = first ∨
        ∃ further, position = first.length + 1 + further ∧ LineAt rest further line := by
  constructor
  · rintro ⟨unbroken, front, back, same, rfl, rfl | ⟨before, rfl⟩, ends⟩
    · rcases ends with rfl | ⟨after, rfl⟩
      · simp only [List.nil_append, List.append_nil] at same
        simp [← same] at unbroken
      · rw [List.nil_append] at same
        rcases feed_cases whole same with ⟨rfl, _⟩ | ⟨between, rfl, _⟩
        · exact .inl ⟨rfl, rfl⟩
        · simp at unbroken
    · rw [List.append_assoc, List.append_assoc, List.singleton_append] at same
      refine .inr ?_
      rcases feed_cases whole same with ⟨rfl, rfl⟩ | ⟨between, rfl, rfl⟩
      · exact ⟨0, by simp, unbroken, [], back, rfl, rfl, .inl rfl, ends⟩
      · refine ⟨between.length + 1, ?_, unbroken, between ++ ['\n'], back, by simp, by simp,
          .inr ⟨between, rfl⟩, ends⟩
        simp only [List.length_append, List.length_cons, List.length_nil]
        omega
  · rintro (⟨rfl, rfl⟩ | ⟨further, rfl, unbroken, front, back, rfl, rfl, begins, ends⟩)
    · exact ⟨whole, [], '\n' :: rest, by simp, rfl, .inl rfl, .inr ⟨rest, rfl⟩⟩
    · refine ⟨unbroken, first ++ '\n' :: front, back, by simp, ?_, .inr ?_, ends⟩
      · simp only [List.length_append, List.length_cons]
        omega
      · rcases begins with rfl | ⟨before, rfl⟩
        · exact ⟨first, rfl⟩
        · exact ⟨first ++ '\n' :: before, by simp⟩

/-- What is collected from the lines of a text comes from a line at some place in it. So a recursion
    that counts the characters of the lines before has the places that `LineAt` gives.

    Proof: by `lines_induction`. A single line stands at place 0. Otherwise the first line stands
    there, and the places of the others are those in the rest, moved by the first line and its
    feed. -/
theorem mem_overLines {α : Type} {each : Nat → Text → List α} {item : α} (text : Text)
    (position : Nat) :
    item ∈ overLines each position (lines text) ↔
      ∃ start line, LineAt text start line ∧ item ∈ each (position + start) line := by
  induction text using lines_induction generalizing position with
  | last line whole =>
    simp only [lines, split_of_not_mem whole, overLines, List.append_nil, lineAt_single whole]
    constructor
    · exact fun member => ⟨0, line, ⟨rfl, rfl⟩, member⟩
    · rintro ⟨_, _, ⟨rfl, rfl⟩, member⟩
      exact member
  | more line rest whole ih =>
    simp only [lines_more whole, overLines, List.mem_append, ih, lineAt_more whole]
    constructor
    · rintro (here | ⟨start, later, placed, member⟩)
      · exact ⟨0, line, .inl ⟨rfl, rfl⟩, here⟩
      · refine ⟨line.length + 1 + start, later, .inr ⟨start, rfl, placed⟩, ?_⟩
        rwa [← Nat.add_assoc, ← Nat.add_assoc]
    · rintro ⟨_, later, ⟨rfl, rfl⟩ | ⟨start, rfl, placed⟩, member⟩
      · exact .inl member
      · refine .inr ⟨start, later, placed, ?_⟩
        rwa [← Nat.add_assoc, ← Nat.add_assoc] at member

/-- If what is collected from one line has places that ascend from the beginning of the line to its
    end, then so has what is collected from lines one after the other.

    Proof: by induction on the lines. Everything that is collected from the first line has a place
    up to its end, and everything further on has a place behind its line feed. -/
theorem ascending_overLines {α : Type} {each : Nat → Text → List α} {place : α → Nat}
    {parts : List Text}
    (within : ∀ line ∈ parts, ∀ position, ∀ item ∈ each position line,
      position ≤ place item ∧ place item ≤ position + line.length)
    (ascending : ∀ line ∈ parts, ∀ position,
      (each position line).Pairwise (fun first second => place first < place second))
    (position : Nat) :
    (∀ item ∈ overLines each position parts, position ≤ place item) ∧
      (overLines each position parts).Pairwise
        (fun first second => place first < place second) := by
  induction parts generalizing position with
  | nil => simp [overLines]
  | cons line later ih =>
    obtain ⟨within, withinLater⟩ := List.forall_mem_cons.mp within
    obtain ⟨ascending, ascendingLater⟩ := List.forall_mem_cons.mp ascending
    obtain ⟨behind, ordered⟩ := ih withinLater ascendingLater (position + line.length + 1)
    rw [overLines]
    constructor
    · intro item member
      rcases List.mem_append.mp member with here | further
      · exact (within position item here).1
      · have := behind item further
        omega
    · refine List.pairwise_append.mpr ⟨ascending position, ordered, ?_⟩
      intro first here second further
      have := within position first here
      have := behind second further
      omega

end RoleWeave.Text
