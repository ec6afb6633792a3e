import RoleWeave.Concept.Term
import RoleWeave.Proofs.Concept.Markers
import RoleWeave.Proofs.Text.Trimming

/-!
# Headings and leads

A heading and the lead of a list item stand behind the marker of their line. What belongs to them is
told by what is before and behind them in the line: `Opens`. Reading the line by its marker captures
them where they stand and captures nothing else, `mem_openings_iff`. Blanks at the end of a lead and
headings or leads of blanks only are left out of this, since cleaning leaves nothing of them.
-/

namespace RoleWeave.Term

open Line (isSpacing Marked)

/-- What may close a heading without belonging to it. -/
def isClosing (c : Char) : Bool :=
  isSpacing c || c == '#'

/-- A blank may close a heading. -/
theorem isClosing_of_isSpacing (c : Char) (blank : isSpacing c = true) : isClosing c = true := by
  rw [isClosing, blank, Bool.true_or]

/-- A blank is no colon. -/
theorem isColon_of_isSpacing {c : Char} (blank : isSpacing c = true) : isColon c = false := by
  simp only [isSpacing, Bool.or_eq_true, beq_iff_eq] at blank
  rcases blank with rfl | rfl <;> decide

/-- A captured text begins with something else than a blank, and what follows its first character does
    not end with the property. -/
def Kept (p : Char → Bool) (captured : Text) : Prop :=
  ∃ c rest, captured = c :: rest ∧ isSpacing c = false ∧ ∀ d, rest.getLast? = some d → p d = false

/-- A line has a heading or a lead, which begins behind `start` characters. -/
inductive Opens : (line : Text) → (start : Nat) → (captured : Text) → Prop where
  | heading {before gap captured closing : Text}
      (marked : Marked (before ++ gap ++ captured ++ closing) ⟨.heading, gap ++ captured ++ closing⟩)
      (spaced : ∀ c ∈ gap, isSpacing c = true) (kept : Kept isClosing captured)
      (closed : ∀ c ∈ closing, isClosing c = true) :
      Opens (before ++ gap ++ captured ++ closing) (before ++ gap).length captured
  | lead {kind : LineKind} {before gap captured closing later : Text} {colon : Char}
      (item : kind = .bullet ∨ kind = .numbered)
      (marked : Marked (before ++ gap ++ captured ++ closing ++ colon :: later)
        ⟨kind, gap ++ captured ++ closing ++ colon :: later⟩)
      (spaced : ∀ c ∈ gap, isSpacing c = true) (kept : Kept isSpacing captured)
      (uncolon : ∀ c ∈ captured, isColon c = false) (closed : ∀ c ∈ closing, isSpacing c = true)
      (ends : isColon colon = true) :
      Opens (before ++ gap ++ captured ++ closing ++ colon :: later) (before ++ gap).length captured

/-- The heading or lead of a line that begins at `position`, without the blanks at its end, unless
    nothing is left of it. -/
def openings (position : Nat) (text : Text) : List Capture :=
  let line := Line.read text
  let start := position + (text.length - (line.body.dropWhile isSpacing).length)
  ((opening? line).map fun captured =>
    Capture.mk start (Text.trimEnd isSpacing captured)).toList.filter
      (fun capture => !capture.text.isEmpty)

/-- A line is what stands before its content, and the content, which does not begin with a blank.
    The blanks between the marker and the content belong to the body of the line. -/
theorem exists_content (text : Text) :
    ∃ before gap content, text = before ++ gap ++ content ∧
      (Line.read text).body = gap ++ content ∧ (∀ c ∈ gap, isSpacing c = true) ∧
      (Line.read text).body.dropWhile isSpacing = content ∧
      (∀ c, content.head? = some c → isSpacing c = false) := by
  obtain ⟨before, whole⟩ := Line.read_body_suffix text
  refine ⟨before, (Line.read text).body.takeWhile isSpacing, _, ?_, ?_,
    List.all_eq_true.mp List.all_takeWhile, rfl, fun c first => Text.head_trimStart first⟩
  · rw [List.append_assoc, List.takeWhile_append_dropWhile, whole]
  · rw [List.takeWhile_append_dropWhile]

/-- Something that is kept is not shortened by trimming its end, if blanks have the property. Its
    first character stays in any case, as it is no blank. -/
theorem Kept.trimEnd_eq {p : Char → Bool} {captured : Text} (kept : Kept p captured)
    (wide : ∀ c, isSpacing c = true → p c = true) : Text.trimEnd isSpacing captured = captured := by
  obtain ⟨c, rest, rfl, solid, ends⟩ := kept
  refine Text.trimEnd_of_last (fun d last => ?_)
  cases rest with
  | nil =>
    obtain rfl : c = d := by simpa using last
    exact solid
  | cons e rest =>
    have unclosed := ends d (by simpa using last)
    refine Bool.eq_false_iff.mpr (fun blank => ?_)
    rw [wide d blank] at unclosed
    cases unclosed

/-- A lead is what stands before the first colon.

    Proof: what is found is the longest run without colons. Since there is a colon, the run ends at
    one, and what was found and the rest make up the text. Conversely the run ends at the colon that
    is given, because there is none before it. -/
theorem lead?_eq_some_iff {body captured : Text} :
    lead? body = some captured ↔ ∃ colon later, body = captured ++ colon :: later ∧
      isColon colon = true ∧ ∀ c ∈ captured, isColon c = false := by
  constructor
  · intro found
    simp only [lead?] at found
    split at found
    · rename_i any
      obtain rfl := Option.some.inj found
      have whole := List.takeWhile_append_dropWhile (p := fun c => !isColon c) (l := body)
      have uncolon : ∀ c ∈ body.takeWhile (fun c => !isColon c), isColon c = false := fun c member =>
        by simpa using List.all_eq_true.mp List.all_takeWhile c member
      have goesOn : body.dropWhile (fun c => !isColon c) ≠ [] := by
        intro none
        rw [none, List.append_nil] at whole
        obtain ⟨c, member, ends⟩ := List.any_eq_true.mp any
        rw [uncolon c (whole.symm ▸ member)] at ends
        cases ends
      obtain ⟨colon, later, shape⟩ := List.exists_cons_of_ne_nil goesOn
      have first : (Text.trimStart (fun c => !isColon c) body).head? = some colon := by
        rw [Text.trimStart, shape]
        rfl
      have ends := Text.head_trimStart first
      exact ⟨colon, later, by rw [← shape, whole], by simpa using ends, uncolon⟩
    · cases found
  · rintro ⟨colon, later, rfl, ends, uncolon⟩
    have taken : (captured ++ colon :: later).takeWhile (fun c => !isColon c) = captured := by
      rw [List.takeWhile_append_of_pos (fun c member => by simp [uncolon c member])]
      simp [ends]
    rw [lead?, if_pos (by simp [ends]), taken]

/-- What is left of a text without the blanks at its end is kept, unless it begins with a blank.
    Trimming the end changes neither the beginning nor leaves a blank at the end. -/
theorem kept_trimEnd {captured : Text} (filled : Text.trimEnd isSpacing captured ≠ [])
    (begins : ∀ c, captured.head? = some c → isSpacing c = false) :
    Kept isSpacing (Text.trimEnd isSpacing captured) := by
  obtain ⟨c, rest, shape⟩ := List.exists_cons_of_ne_nil filled
  refine ⟨c, rest, shape, begins c (Text.head_trimEnd (by rw [shape]; rfl)), fun d last => ?_⟩
  have ends : (Text.trimEnd isSpacing captured).getLast? = some d := by
    rw [shape, List.getLast?_cons, last]
    rfl
  exact Text.last_trimEnd ends

section Found

variable {before gap content captured : Text} (spaced : ∀ c ∈ gap, isSpacing c = true)
  (begins : ∀ c, content.head? = some c → isSpacing c = false)

include spaced begins

/-- What is found before the first colon of a list item is its lead. The blanks that trimming takes
    from its end are what stands between the lead and the colon. -/
theorem opens_of_lead? {kind : LineKind} (item : kind = .bullet ∨ kind = .numbered)
    (marked : Marked (before ++ gap ++ content) ⟨kind, gap ++ content⟩)
    (found : lead? content = some captured) (filled : Text.trimEnd isSpacing captured ≠ []) :
    Opens (before ++ gap ++ content) (before ++ gap).length (Text.trimEnd isSpacing captured) := by
  obtain ⟨colon, later, rfl, ends, uncolon⟩ := lead?_eq_some_iff.mp found
  obtain ⟨closing, whole, closed⟩ := Text.trimEnd_append isSpacing captured
  have kept := kept_trimEnd filled (fun c first => begins c (by simp [first]))
  generalize Text.trimEnd isSpacing captured = kernel at *
  subst whole
  have shape : before ++ gap ++ (kernel ++ closing ++ colon :: later) =
      before ++ gap ++ kernel ++ closing ++ colon :: later := by simp
  rw [shape] at marked ⊢
  refine .lead item ?_ spaced kept (fun c member => uncolon c (by simp [member])) closed ends
  rwa [← List.append_assoc, ← List.append_assoc] at marked

/-- What is found in a line with number signs is its heading. Blanks and number signs that close the
    line were cut off; the heading keeps its first character whatever it is. -/
theorem opens_of_heading (marked : Marked (before ++ gap ++ content) ⟨.heading, gap ++ content⟩)
    (filled : content ≠ []) :
    Opens (before ++ gap ++ content) (before ++ gap).length
      (Text.trimEnd isSpacing (heading content)) := by
  obtain ⟨c, rest, rfl⟩ := List.exists_cons_of_ne_nil filled
  have kept : Kept isClosing (heading (c :: rest)) :=
    ⟨c, _, rfl, begins c rfl, fun d last => Text.last_trimEnd last⟩
  obtain ⟨closing, whole, closed⟩ := Text.trimEnd_append isClosing rest
  have shape : c :: rest = heading (c :: rest) ++ closing := congrArg (c :: ·) whole
  rw [kept.trimEnd_eq isClosing_of_isSpacing]
  generalize heading (c :: rest) = captured at *
  rw [shape, ← List.append_assoc] at marked ⊢
  refine .heading ?_ spaced kept closed
  rwa [← List.append_assoc] at marked

end Found

/-- What is found at the marker of a line is its heading or its lead. The line is cut into what
    stands before its content, and the content; its kind tells which of the two was looked for. -/
theorem opens_of_opening? {text captured : Text} (found : opening? (Line.read text) = some captured)
    (filled : Text.trimEnd isSpacing captured ≠ []) :
    Opens text (text.length - ((Line.read text).body.dropWhile isSpacing).length)
      (Text.trimEnd isSpacing captured) := by
  obtain ⟨before, gap, content, rfl, body, spaced, dropped, begins⟩ := exists_content text
  have place : (before ++ gap ++ content).length - content.length = (before ++ gap).length := by
    rw [List.length_append, Nat.add_sub_cancel]
  rw [dropped, place]
  rcases Line.read_cases (before ++ gap ++ content) with plain | marked
  · rw [plain] at found
    cases found
  · generalize Line.read (before ++ gap ++ content) = line at *
    obtain ⟨kind, _⟩ := line
    simp only [opening?, dropped] at found body
    subst body
    cases kind with
    | plain => cases found
    | bullet => exact opens_of_lead? spaced begins (.inl rfl) marked found filled
    | numbered => exact opens_of_lead? spaced begins (.inr rfl) marked found filled
    | heading =>
      obtain rfl := Option.some.inj found
      refine opens_of_heading spaced begins marked (fun none => filled ?_)
      rw [none]
      rfl

/-- Blanks before what is kept are passed over, and no more, since it does not begin with one. -/
theorem dropWhile_of_kept {p : Char → Bool} {gap captured : Text}
    (spaced : ∀ c ∈ gap, isSpacing c = true) (kept : Kept p captured) (behind : Text) :
    (gap ++ (captured ++ behind)).dropWhile isSpacing = captured ++ behind := by
  obtain ⟨c, rest, rfl, solid, _⟩ := kept
  rw [List.dropWhile_append_of_pos spaced]
  simp [solid]

/-- What closes a heading does not belong to it: all of it is cut off, and nothing else, since what
    is kept does not end with such a character behind its first. -/
theorem heading_append {captured closing : Text} (kept : Kept isClosing captured)
    (closed : ∀ c ∈ closing, isClosing c = true) : heading (captured ++ closing) = captured := by
  obtain ⟨c, rest, rfl, _, ends⟩ := kept
  have trimmed : Text.trimEnd isClosing (rest ++ closing) = rest := by
    rw [Text.trimEnd_of_append, if_pos (Text.trimEnd_of_all closed), Text.trimEnd_of_last ends]
  exact congrArg (c :: ·) trimmed

/-- The heading or the lead of a line is found at its marker.

    Proof: the line is read by its marker, `Line.read_of_marked`. The blanks in front of the content
    are passed over, so that the content begins where the place says. Of a heading what closes it is
    cut off. Of an item everything before the first colon is taken, and trimming its end leaves the
    lead. -/
theorem opening?_of_opens {text captured : Text} {start : Nat} (opens : Opens text start captured) :
    start = text.length - ((Line.read text).body.dropWhile isSpacing).length ∧
      ∃ raw, opening? (Line.read text) = some raw ∧ Text.trimEnd isSpacing raw = captured := by
  have place : ∀ before gap content : Text, (before ++ gap).length =
      (before ++ gap ++ content).length - content.length := by
    intro before gap content
    rw [List.append_assoc, List.length_append, List.length_append, List.length_append]
    omega
  cases opens with
  | @heading before gap _ closing marked spaced kept closed =>
    have dropped := dropWhile_of_kept spaced kept closing
    rw [Line.read_of_marked marked, List.append_assoc (before ++ gap), List.append_assoc gap]
    simp only [opening?, dropped]
    exact ⟨place before gap _, _, rfl, by
      rw [heading_append kept closed, kept.trimEnd_eq isClosing_of_isSpacing]⟩
  | @lead kind before gap _ closing later colon item marked spaced kept uncolon closed ends =>
    have dropped := dropWhile_of_kept spaced kept (closing ++ colon :: later)
    have found : lead? (captured ++ (closing ++ colon :: later)) = some (captured ++ closing) := by
      refine lead?_eq_some_iff.mpr ⟨colon, later, by simp, ends, ?_⟩
      refine List.forall_mem_append.mpr ⟨uncolon, fun c member => ?_⟩
      exact isColon_of_isSpacing (closed c member)
    have trimmed : Text.trimEnd isSpacing (captured ++ closing) = captured := by
      rw [Text.trimEnd_of_append, if_pos (Text.trimEnd_of_all closed),
        kept.trimEnd_eq (fun _ blank => blank)]
    rw [Line.read_of_marked marked]
    simp only [List.append_assoc (before ++ gap), List.append_assoc gap, List.append_assoc captured]
    simp only [opening?, dropped]
    refine ⟨place before gap _, captured ++ closing, ?_, trimmed⟩
    rcases item with rfl | rfl
    · exact found
    · exact found

/-- A heading or a lead is not empty. What is kept of either has a first character, at which the
    trimming stopped. -/
theorem Opens.filled {text captured : Text} {start : Nat} (opens : Opens text start captured) :
    captured ≠ [] := by
  cases opens with
  | heading _ _ kept _ =>
    obtain ⟨c, rest, rfl, _⟩ := kept
    exact List.cons_ne_nil c rest
  | lead _ _ _ kept _ _ _ =>
    obtain ⟨c, rest, rfl, _⟩ := kept
    exact List.cons_ne_nil c rest

/-- A heading or a lead stands in its line where its place says. -/
theorem Opens.placed {text captured : Text} {start : Nat} (opens : Opens text start captured) :
    ∃ before after, text = before ++ captured ++ after ∧ start = before.length := by
  cases opens with
  | @heading before gap _ closing _ _ _ _ => exact ⟨before ++ gap, closing, rfl, rfl⟩
  | @lead _ before gap _ closing later colon _ _ _ _ _ _ _ =>
    exact ⟨before ++ gap, closing ++ colon :: later, by simp, rfl⟩

/-- The heading or the lead of a line is captured if it has one, and nothing else is. With this
    nothing needs to be known any more of how lines are read. -/
theorem mem_openings_iff {position : Nat} {text : Text} {capture : Capture} :
    capture ∈ openings position text ↔
      ∃ start, Opens text start capture.text ∧ capture.start = position + start := by
  simp only [openings, List.mem_filter, Option.mem_toList, Option.map_eq_some_iff]
  constructor
  · rintro ⟨⟨captured, found, rfl⟩, filled⟩
    exact ⟨_, opens_of_opening? found (by simpa using filled), rfl⟩
  · rintro ⟨start, opens, place⟩
    obtain ⟨rfl, raw, found, trimmed⟩ := opening?_of_opens opens
    refine ⟨⟨raw, found, ?_⟩, by simpa using opens.filled⟩
    rw [trimmed, ← place]

end RoleWeave.Term
