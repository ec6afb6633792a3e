import Mathlib.Data.List.Nodup
import Mathlib.Data.List.TakeWhile
import RoleWeave.Proofs.Diagram.Chains
import RoleWeave.Proofs.Diagram.Label

/-!
# The text of a flowchart

A flowchart is written line by line, three lines for each procedure. All that comes from the skills
stands in quotes: the key of an execution, which is written as it is, and the labels of its steps,
which are cleaned and clipped. Chains and steps have numbers, and no two of these are the same.

`charted_of_draw` says so for every list of skills, if the keys of the executions among them are
inert.
-/

namespace RoleWeave.Flow

/-- A label in quotes, in a rectangular shape. -/
def quoted (label : Text) : Text :=
  "[\"".toList ++ label ++ "\"]".toList

/-- The id of a step of a chain. -/
def stepId (chain : Text) (index : Nat) : Text :=
  chain ++ '_' :: Text.decimal (index + 1)

namespace Procedure

/-- The line that opens the chain of a procedure, with the key as its label. -/
def opening (procedure : Procedure) : Text :=
  "    subgraph ".toList ++ chainId procedure.number ++ quoted procedure.key.render

/-- The line of the steps of a procedure. -/
def chain (procedure : Procedure) : Text :=
  "        ".toList ++ Text.join " --> ".toList (procedure.steps.mapIdx
    (fun index step => stepId (chainId procedure.number) index ++ quoted step))

/-- The lines of a procedure. -/
def lines (procedure : Procedure) : List Text :=
  [procedure.opening, procedure.chain, "    end".toList]

/-- The ids that a procedure takes: that of its chain, and those of its steps. -/
def ids (procedure : Procedure) : List Text :=
  chainId procedure.number ::
    (List.range procedure.steps.length).map (stepId (chainId procedure.number))

end Procedure

/-- A text is the flowchart of procedures to which skills were read, and what it shows of them stays
    within quotes. -/
structure Charted (maxLabelChars : Nat) (skills : List Skill) (text : Text)
    (flows : List Procedure) : Prop where
  /-- The lines are the header and those of the procedures. -/
  lines : Text.lines text =
    "flowchart LR".toList :: (flows.flatMap Procedure.lines ++ [[]])
  /-- The procedures are some of the skills, in their order. -/
  drawn : (flows.map Procedure.key).Sublist (skills.map Skill.key)
  /-- Every procedure has steps. -/
  stepped : ∀ flow ∈ flows, flow.steps ≠ []
  /-- The label of a chain is inert. -/
  titled : ∀ flow ∈ flows, Diagram.Inert flow.key.render
  /-- The labels of steps are inert and short. -/
  labelled : ∀ flow ∈ flows, ∀ step ∈ flow.steps,
    Diagram.Inert step ∧ step.length ≤ max 1 maxLabelChars
  /-- No two chains or steps have the same id. -/
  distinct : (flows.flatMap Procedure.ids).Nodup

/-! ## Ids -/

section Ids

/-- A number in decimal consists of digits. -/
theorem isDigit_of_mem_decimal {n : Nat} {c : Char} (inside : c ∈ Text.decimal n) :
    c.isDigit = true :=
  Nat.isDigit_of_mem_toDigits (by decide) (by decide) inside

/-- Different numbers differ in decimal, since a number can be read back from its digits. -/
theorem decimal_injective {first second : Nat} (same : Text.decimal first = Text.decimal second) :
    first = second := by
  have values := congrArg (fun digits => Nat.ofDigitChars 10 digits 0) same
  simpa [Text.decimal] using values

/-- Chains with different numbers have different ids. -/
theorem chainId_injective {first second : Nat} (same : chainId first = chainId second) :
    first = second :=
  decimal_injective (List.append_cancel_left same)

/-- The id of a chain has no underscore: it is a fixed word and digits. So the underscore in the id
    of a step is where the id of its chain ends. -/
theorem not_mem_chainId (number : Nat) : '_' ∉ chainId number := by
  intro inside
  rcases List.mem_append.mp inside with word | digit
  · exact absurd word (by decide)
  · exact absurd (isDigit_of_mem_decimal digit) (by decide)

/-- The steps of a chain have different ids, because their numbers differ behind the same
    beginning. -/
theorem stepId_injective {chain : Text} {first second : Nat}
    (same : stepId chain first = stepId chain second) : first = second := by
  have numbers := List.cons.inj (List.append_cancel_left same)
  exact Nat.succ.inj (decimal_injective numbers.2)

/-- Up to the first underscore, the ids that a procedure takes are that of its chain. So an id tells
    the procedure that takes it. -/
theorem chain_of_mem_ids {procedure : Procedure} {id : Text} (member : id ∈ procedure.ids) :
    id.takeWhile (· != '_') = chainId procedure.number := by
  have solid : ∀ c ∈ chainId procedure.number, (c != '_') = true := by
    intro c inside
    exact bne_iff_ne.mpr (fun same => not_mem_chainId procedure.number (same ▸ inside))
  rcases List.mem_cons.mp member with rfl | step
  · exact List.takeWhile_eq_self_iff.mpr solid
  · obtain ⟨index, _, rfl⟩ := List.mem_map.mp step
    rw [stepId, List.takeWhile_append_of_pos solid, List.takeWhile_cons_of_neg (by decide),
      List.append_nil]

/-- A procedure takes no id twice. Those of its steps differ in their index, and that of its title
    does not have the underscore that stands before an index. -/
theorem nodup_ids (procedure : Procedure) : procedure.ids.Nodup := by
  refine List.nodup_cons.mpr ⟨?_, List.nodup_range.map (fun _ _ same => stepId_injective same)⟩
  intro inside
  obtain ⟨index, _, same⟩ := List.mem_map.mp inside
  apply not_mem_chainId procedure.number
  rw [← same, stepId]
  exact List.mem_append_right _ List.mem_cons_self

/-- Procedures with different numbers take different ids: by `chain_of_mem_ids` an id of two
    procedures would be the id of two chains. -/
theorem nodup_ids_of_numbered {flows : List Procedure}
    (numbered : (flows.map Procedure.number).Nodup) : (flows.flatMap Procedure.ids).Nodup := by
  refine List.nodup_flatMap.mpr ⟨fun flow _ => nodup_ids flow, ?_⟩
  refine (List.pairwise_map.mp numbered).imp ?_
  intro first second different id here there
  exact different (chainId_injective ((chain_of_mem_ids here).symm.trans (chain_of_mem_ids there)))

end Ids

/-! ## Lines -/

/-- A procedure is written as its lines, each closed by a line feed. The written form joins the
    lines by fixed texts with line feeds inside, which are taken apart here and nowhere else. -/
theorem render_eq_lines (procedure : Procedure) :
    procedure.render = procedure.lines.flatMap (fun line => line ++ ['\n']) := by
  have nodes : node (chainId procedure.number) =
      fun index step => stepId (chainId procedure.number) index ++ quoted step := by
    funext index step
    simp only [node, stepId, quoted, List.append_assoc, List.cons_append, List.nil_append]
  have between : "\"]\n        ".toList = "\"]".toList ++ '\n' :: "        ".toList := by decide
  have closing : "\n    end\n".toList = '\n' :: ("    end".toList ++ ['\n']) := by decide
  unfold Procedure.render Procedure.lines Procedure.opening Procedure.chain
  -- The fixed texts are taken as they are: comparing them character by character takes too long.
  generalize "    subgraph ".toList = first at *
  generalize "        ".toList = indent at *
  simp only [nodes, quoted, between, closing, List.flatMap_cons, List.flatMap_nil,
    List.append_assoc, List.cons_append, List.nil_append, List.append_nil]

/-- The lines of a procedure with inert labels have no line feed and no backtick.

    Proof: the character is foreign to everything of which the lines are made up: to inert texts, to
    numbers, since these are digits, and to the fixed texts, which are looked through one by one.
    The id of a chain, the id of a step, a quoted label and the two long lines are put together from
    these. -/
theorem not_mem_lines {procedure : Procedure} (title : Diagram.Inert procedure.key.render)
    (labels : ∀ step ∈ procedure.steps, Diagram.Inert step) {c : Char}
    (breaks : c = '\n' ∨ c = '\x60') : ∀ line ∈ procedure.lines, c ∉ line := by
  have foreign {text : Text} (inert : Diagram.Inert text) : c ∉ text := by
    rcases breaks with rfl | rfl
    · exact inert.not_mem (.inr (by decide))
    · exact inert.not_mem (.inl (by decide))
  have undecimal (n : Nat) : c ∉ Text.decimal n := by
    intro inside
    have digit := isDigit_of_mem_decimal inside
    rcases breaks with rfl | rfl <;> exact absurd digit (by decide)
  have fixed : ∀ text ∈ ["    subgraph ", "flow", "_", "[\"", "\"]", "        ", " --> ",
      "    end"], c ∉ text.toList := by
    rcases breaks with rfl | rfl <;> decide
  have unchained : c ∉ chainId procedure.number :=
    List.not_mem_append (fixed "flow" (by simp)) (undecimal _)
  have unstepped (index : Nat) : c ∉ stepId (chainId procedure.number) index := by
    refine List.not_mem_append unchained (List.not_mem_append (fixed "_" (by simp)) (undecimal _))
  have unquoted {text : Text} (inert : Diagram.Inert text) : c ∉ quoted text :=
    List.not_mem_append (List.not_mem_append (fixed "[\"" (by simp)) (foreign inert))
      (fixed "\"]" (by simp))
  have opening : c ∉ procedure.opening :=
    List.not_mem_append (List.not_mem_append (fixed "    subgraph " (by simp)) unchained)
      (unquoted title)
  have chain : c ∉ procedure.chain := by
    refine List.not_mem_append (fixed "        " (by simp)) (fun inside => ?_)
    rcases Text.of_mem_join inside with between | ⟨part, member, deeper⟩
    · exact fixed " --> " (by simp) between
    · obtain ⟨index, bound, rfl⟩ := List.mem_mapIdx.mp member
      exact List.not_mem_append (unstepped index) (unquoted (labels _ (List.getElem_mem bound)))
        deeper
  exact List.forall_mem_cons.mpr ⟨opening, List.forall_mem_cons.mpr ⟨chain,
    List.forall_mem_singleton.mpr (fixed "    end" (by simp))⟩⟩

/-- The lines of a flowchart are its header and those of the procedures that have steps. If no
    procedure has steps there is no flowchart, not even a header.

    Proof: the flowchart is the header and the lines of the procedures, each closed by a line feed,
    by `render_eq_lines`. None of them holds another line feed, so these are the lines of the
    whole. -/
theorem lines_chart {read flows : List Procedure}
    (drawn : read.filter (fun procedure => !procedure.steps.isEmpty) = flows)
    (something : chart read ≠ [])
    (titled : ∀ flow ∈ flows, Diagram.Inert flow.key.render)
    (labelled : ∀ flow ∈ flows, ∀ step ∈ flow.steps, Diagram.Inert step) :
    flows ≠ [] ∧
      Text.lines (chart read) = "flowchart LR".toList :: (flows.flatMap Procedure.lines ++ [[]]) := by
  cases flows with
  | nil => exact absurd (by rw [chart, drawn]) something
  | cons flow later =>
    have rendered : Procedure.render =
        fun procedure => procedure.lines.flatMap (fun line => line ++ ['\n']) :=
      funext render_eq_lines
    have first : header = "flowchart LR".toList ++ ['\n'] := by decide
    have written : chart read =
        ("flowchart LR".toList :: (flow :: later).flatMap Procedure.lines).flatMap
          (fun line => line ++ ['\n']) := by
      rw [chart, drawn, first, rendered, List.flatMap_cons, List.flatMap_assoc]
    refine ⟨by simp, ?_⟩
    rw [written, Text.lines_closed, List.cons_append]
    refine List.forall_mem_cons.mpr ⟨by decide, ?_⟩
    intro line member
    obtain ⟨flow, among, own⟩ := List.mem_flatMap.mp member
    exact not_mem_lines (titled flow among) (labelled flow among) (.inl rfl) line own

/-! ## What is read -/

/-- The procedures that executions are read to have ascending numbers and the keys of the
    executions, and their steps are clipped labels.

    Proof: by induction on the executions. The first procedure has the first number and the key of
    the first execution, and each of its steps was found in a line of its instructions, as a label
    that was clipped. The others are numbered on from there. -/
theorem procedures_of_read {maxLabelChars number : Nat} {skills : List Skill}
    {read : List Procedure} (ran : procedures maxLabelChars number skills = .ok read) :
    read.map Procedure.number = List.range' number read.length ∧
      read.map Procedure.key = skills.map Skill.key ∧
      ∀ procedure ∈ read, ∀ step ∈ procedure.steps,
        ∃ text, step = Diagram.clip maxLabelChars (Diagram.label text) := by
  induction skills generalizing number read with
  | nil =>
    cases ran
    exact ⟨rfl, rfl, by simp⟩
  | cons skill later ih =>
    rw [procedures_cons] at ran
    cases known : instructions skill.content with
    | error fault => simp [known] at ran
    | ok text =>
      cases others : procedures maxLabelChars (number + 1) later with
      | error fault => simp [known, others] at ran
      | ok rest =>
        simp only [known, others, Except.ok.injEq] at ran
        subst ran
        obtain ⟨numbers, keys, labels⟩ := ih others
        refine ⟨?_, ?_, List.forall_mem_cons.mpr ⟨?_, labels⟩⟩
        · rw [List.map_cons, numbers, List.length_cons, List.range'_succ]
        · rw [List.map_cons, keys, List.map_cons]
        · intro step member
          obtain ⟨line, _, shown⟩ := List.mem_filterMap.mp member
          unfold step? at shown
          split at shown
          · exact ⟨_, (Option.some.inj shown).symm⟩
          · cases shown

/-- What is drawn of executions with inert keys is a flowchart of procedures, unless it is nothing.
    The keys have to be inert because they are written as they are; the labels of the steps are
    inert since they were cleaned.

    Proof: the procedures of the flowchart are those that were read and have steps. Leaving some out
    keeps the order of the keys and keeps the numbers different, so no id is taken twice; and what
    was read has clipped labels for its steps, which are short and inert. `lines_chart` gives the
    lines. -/
theorem charted_of_draw {maxLabelChars : Nat} {skills : List Skill}
    (inert : ∀ skill ∈ executions skills, Diagram.Inert skill.key.render) {text : Text}
    (ran : draw maxLabelChars skills = .ok text) (something : text ≠ []) :
    ∃ flows, flows ≠ [] ∧ Charted maxLabelChars (executions skills) text flows := by
  unfold draw at ran
  cases known : procedures maxLabelChars 1 (executions skills) with
  | error fault =>
    rw [known] at ran
    cases ran
  | ok read =>
    rw [known] at ran
    cases ran
    obtain ⟨numbers, keys, labels⟩ := procedures_of_read known
    generalize same : read.filter (fun procedure => !procedure.steps.isEmpty) = flows
    have among : ∀ flow ∈ flows, flow ∈ read ∧ flow.steps ≠ [] := by
      intro flow member
      rw [← same] at member
      simpa using member
    have drawn : (flows.map Procedure.key).Sublist ((executions skills).map Skill.key) := by
      rw [← keys, ← same]
      exact List.filter_sublist.map Procedure.key
    have titled : ∀ flow ∈ flows, Diagram.Inert flow.key.render := by
      intro flow member
      obtain ⟨skill, executed, named⟩ :=
        List.mem_map.mp (drawn.subset (List.mem_map_of_mem member))
      exact named ▸ inert skill executed
    have labelled : ∀ flow ∈ flows, ∀ step ∈ flow.steps,
        Diagram.Inert step ∧ step.length ≤ max 1 maxLabelChars := by
      intro flow member step shown
      obtain ⟨line, rfl⟩ := labels flow (among flow member).1 step shown
      exact ⟨Diagram.inert_clip_label _ _, Diagram.length_clip_le _ _⟩
    have numbered : (flows.map Procedure.number).Nodup := by
      have all : (read.map Procedure.number).Nodup := numbers ▸ List.nodup_range'
      exact all.sublist (same ▸ List.filter_sublist.map Procedure.number)
    obtain ⟨nonempty, lines⟩ := lines_chart same something titled
      (fun flow member step shown => (labelled flow member step shown).1)
    exact ⟨flows, nonempty,
      { lines := lines
        drawn := drawn
        stepped := fun flow member => (among flow member).2
        titled := titled
        labelled := labelled
        distinct := nodup_ids_of_numbered numbered }⟩

end RoleWeave.Flow
