import RoleWeave.Concept.Outline
import RoleWeave.Proofs.Concept.Captures
import RoleWeave.Proofs.Concept.Editing
import RoleWeave.Proofs.Diagram.Label
import RoleWeave.Proofs.Text.Sequence

/-!
# Indexed terms

A term is cleaned before it is added to an outline, and adding it trims it once more. No later step
undoes an earlier one: what is cut off at an end leaves a part of the label, and what a label does not
hold is in none of its parts. So every term of an outline shows a `Clean` label, and its id is not
empty: `indexed_terms_are_clean`.
-/

namespace RoleWeave

namespace Text

/-- No text that has characters has an empty lowercase. Every character becomes one character or
    two. -/
theorem lower_ne_nil {text : Text} (filled : text ≠ []) : lower text ≠ [] := by
  obtain ⟨c, rest, rfl⟩ := List.exists_cons_of_ne_nil filled
  have small : lowerChar c ≠ [] := by
    unfold lowerChar
    repeat' split
    all_goals simp
  rw [lower, lowerAfter]
  refine List.append_ne_nil_of_left_ne_nil ?_ _
  split
  · simp
  · exact small

/-- A trimmed text is solid, unless nothing is left of it: neither of its ends is a blank. -/
theorem solid_trim {text : Text} (filled : trim text ≠ []) : Solid (trim text) := by
  constructor
  · obtain ⟨c, rest, shape⟩ := List.exists_cons_of_ne_nil filled
    exact ⟨c, rest, shape, head_trimStart (head_trimEnd (by rw [← trimBoth, ← trim, shape]; rfl))⟩
  · exact ⟨_, _, (List.dropLast_concat_getLast filled).symm,
      last_trimEnd (List.getLast?_eq_some_getLast filled)⟩

end Text

namespace Term

/-- A label as that of a term should be. -/
structure Clean (limit : Nat) (label : Text) : Prop where
  /-- It is not empty, and it neither begins nor ends with a blank. -/
  solid : Text.Solid label
  /-- It has no delimiter of a diagram, and no blank but spaces. -/
  inert : Diagram.Inert label
  /-- No two spaces stand side by side. -/
  single : ¬ [' ', ' '] <:+: label
  /-- It holds no address of a resource. -/
  unaddressed : ¬ "://".toList <:+: label
  /-- It is short enough to be shown. -/
  short : label.length ≤ limit

/-- A term is clean once the blanks at its ends are trimmed.

    Proof: a term is the label of what was captured without the punctuation at its end, and what is
    trimmed of it is a part of it. A label has no delimiter, no blank but spaces and no two spaces
    side by side, and no part of it has. The address and the length were looked at before the last
    trimming, which only makes the term shorter. Something is left of it: its first character begins
    a word. -/
theorem clean_of_mem_terms {limit : Nat} {text term : Text} (member : term ∈ terms limit text) :
    Clean limit (Text.trim term) := by
  obtain ⟨captured, isTerm⟩ := List.mem_filter.mp member
  obtain ⟨capture, _, rfl⟩ := List.mem_map.mp captured
  simp only [Term.isTerm, Bool.and_eq_true, Bool.not_eq_true', List.isEmpty_eq_false_iff,
    decide_eq_true_eq] at isTerm
  obtain ⟨⟨filled, unaddressed⟩, short⟩ := isTerm
  have trimmed : Text.trim (clean capture.text) <:+: clean capture.text := Text.trim_infix _
  have cleaned : clean capture.text <+: Diagram.label (Text.trimBoth isDecoration capture.text) := by
    obtain ⟨cut, whole, _⟩ :=
      Text.trimEnd_append isPunctuation (Diagram.label (Text.trimBoth isDecoration capture.text))
    exact ⟨cut, whole.symm⟩
  have within := trimmed.trans cleaned.isInfix
  refine ⟨Text.solid_trim ?_, ?_, ?_, ?_, ?_⟩
  -- The first character of a cleaned text begins a word, so trimming leaves it where it is.
  · obtain ⟨c, rest, shape⟩ := List.exists_cons_of_ne_nil filled
    have first : (clean capture.text).head? = some c := by rw [shape]; rfl
    refine List.ne_nil_of_mem (Text.mem_trim (List.mem_of_head? first) ?_)
    exact Diagram.head_label (Text.head_trimEnd first)
  · exact (Diagram.inert_label _).subset within.subset
  · exact fun double => Diagram.single_label _ (double.trans within)
  · intro address
    rw [Text.holds_iff.mpr (address.trans trimmed)] at unaddressed
    cases unaddressed
  · exact Nat.le_trans trimmed.length_le short

end Term

namespace Outline

open ConceptGraph (key)

/-- The terms of a graph show labels of the given kind. -/
def Indexed (labels : Text → Prop) (graph : ConceptGraph) : Prop :=
  ∀ id concept, graph.find? id = some concept → concept.kind = .term →
    ∃ label, labels label ∧ id = key label ∧ concept.id = id ∧ concept.label = Text.trim label

section Indexing

variable {labels : Text → Prop} {graph : ConceptGraph}

/-- A concept that is added is indexed, if it is no term or one of the labels. If it is known
    already then it keeps its kind and its label, so nothing is asked of the label that was
    added. -/
theorem Indexed.add (indexed : Indexed labels graph) {label : Text} {kind : ConceptKind}
    (among : kind = .term → labels label) : Indexed labels (graph.add label kind) := by
  intro id concept found term
  rw [ConceptGraph.find?_add] at found
  split at found
  · rename_i same
    subst same
    obtain rfl := Option.some.inj found
    -- A concept that is known under this id keeps its kind and its label.
    cases known : graph.find? (key label) with
    | some before =>
      rw [ConceptGraph.named_of_find? known] at term ⊢
      exact indexed _ before known term
    | none =>
      rw [ConceptGraph.named_of_fresh (by simp [ConceptGraph.holds, known])] at term ⊢
      exact ⟨label, among term, rfl, rfl, rfl⟩
  · exact indexed id concept found term

/-- Terms stay indexed when a concept is added below another. The relation that is added with it
    changes no concept, and a concept that is refused changes nothing. -/
theorem Indexed.addBelow (indexed : Indexed labels graph) {label : Text} {kind : ConceptKind}
    (among : kind = .term → labels label) (maxNodes : Nat) (parent : Text)
    (relation : RelationKind) :
    Indexed labels (addBelow maxNodes parent relation kind graph label) := by
  rw [Outline.addBelow]
  split
  · intro id concept found
    rw [ConceptGraph.find?_link] at found
    exact indexed.add among id concept found
  · exact indexed

/-- Terms stay indexed when several are added below another concept, one after the other. Each is
    one of the labels that terms may have. -/
theorem Indexed.addAllBelow (indexed : Indexed labels graph) {terms : List Text}
    (among : ∀ term ∈ terms, labels term) (maxNodes : Nat) (parent : Text)
    (relation : RelationKind) :
    Indexed labels (terms.foldl (Outline.addBelow maxNodes parent relation .term) graph) := by
  induction terms generalizing graph with
  | nil => exact indexed
  | cons term later ih =>
    obtain ⟨here, others⟩ := List.forall_mem_cons.mp among
    exact ih (indexed.addBelow (fun _ => here) maxNodes parent relation) others

/-- Terms stay indexed when a part is added with the terms that it mentions. The part itself is no
    term. -/
theorem Indexed.addPart (indexed : Indexed labels graph) (limits : ConceptLimits) (root : Text)
    {part : Part} (other : part.kind ≠ .term)
    (among : ∀ term ∈ Term.terms limits.maxLabelChars part.text, labels term) :
    Indexed labels (addPart limits root graph part) := by
  rw [Outline.addPart]
  split
  · refine Indexed.addAllBelow (indexed.addBelow ?_ _ root .contains) among _ _ .mentions
    exact fun term => absurd term other
  · exact indexed

/-- The terms of an outline are terms of the texts of its parts. The role with which the outline
    begins is no term, and every part keeps this. -/
theorem indexed_graphOf (limits : ConceptLimits) (name : Text) {parts : List Part}
    (other : ∀ part ∈ parts, part.kind ≠ .term)
    (among : ∀ part ∈ parts, ∀ term ∈ Term.terms limits.maxLabelChars part.text, labels term) :
    Indexed labels (graphOf limits name parts) := by
  have start : Indexed labels (ConceptGraph.empty.add name .role) := by
    refine Indexed.add (fun id concept found => ?_) (fun term => by cases term)
    cases found
  rw [graphOf]
  generalize ConceptGraph.empty.add name .role = graph at start
  induction parts generalizing graph with
  | nil => exact start
  | cons part later ih =>
    obtain ⟨kind, kinds⟩ := List.forall_mem_cons.mp other
    obtain ⟨here, others⟩ := List.forall_mem_cons.mp among
    exact ih kinds others _ (start.addPart limits (key name) kind here)

end Indexing

/-- The parts of a role are sections and skills, so none of them is a term. -/
theorem kind_of_mem_parts {role : ComposedRole} : ∀ part ∈ parts role, part.kind ≠ .term := by
  intro part member term
  rcases List.mem_append.mp member with among | among
  · obtain ⟨_, _, rfl⟩ := List.mem_map.mp among
    cases term
  · obtain ⟨_, _, rfl⟩ := List.mem_map.mp among
    cases term

/-- Every term of an outline has an id, and its label is clean. The terms of a text are what
    headings, bold phrases and leads capture in it, cleaned, in the order in which these stand in
    the text.

    Proof: the terms of an outline are indexed by labels that are clean when they are trimmed, by
    `indexed_graphOf` and `Term.clean_of_mem_terms`. Trimming is what the graph does to a label when
    it shows it, and its lowercase, the id, is not empty since the trimmed label is not. The second
    part is `Term.captured_found` together with `Term.terms_eq`. -/
theorem indexed_terms_are_clean :
    (∀ (limits : ConceptLimits) (role : ComposedRole) (graph : ConceptGraph),
      build limits role = .ok graph →
      ∀ id concept, graph.find? id = some concept → concept.kind = .term →
        id ≠ [] ∧ concept.id = id ∧ Term.Clean limits.maxLabelChars concept.label) ∧
    ∀ (limit : Nat) (text : Text), ∃ captures : List Term.Capture,
      Term.Captured text captures ∧
      Term.terms limit text =
        (captures.map (fun capture => Term.clean capture.text)).filter (Term.isTerm limit) := by
  constructor
  · intro limits role graph built id concept found term
    rw [build] at built
    split at built
    · cases built
    · cases built
      have indexed : Indexed (fun label => Term.Clean limits.maxLabelChars (Text.trim label))
          (graphOf limits role.info.name (parts role)) :=
        indexed_graphOf limits role.info.name kind_of_mem_parts
          (fun _ _ _ mentioned => Term.clean_of_mem_terms mentioned)
      obtain ⟨label, clean, named, same, shown⟩ := indexed id concept found term
      obtain ⟨c, rest, shape, _⟩ := clean.solid.begins
      refine ⟨?_, same, shown ▸ clean⟩
      rw [named, key, shape]
      exact Text.lower_ne_nil (List.cons_ne_nil c rest)
  · exact fun limit text => ⟨Term.found text, Term.captured_found text, Term.terms_eq limit text⟩

/-- A role whose only section has a heading with a bracket and a detached exclamation mark. -/
def calmReviewRole : ComposedRole where
  info := RoleInfo.plain "dev".toList
  text := []
  thoughts := NameSet.empty
  executions := NameSet.empty
  knowledge := []
  sections := [(.principle, "## Calm (deep)  review !\n- **Naming** : be clear".toList)]
  skills := []
  failures := []
  suppressed := []
  status := .composed

/-- The heading is a term without its bracket, its double space and its exclamation mark, and without
    the space that was before this. -/
theorem calm_review_indexed :
    ∃ graph concept, build ⟨200, 48⟩ calmReviewRole = .ok graph ∧
      graph.find? "calm deep review".toList = some concept ∧ concept.kind = .term ∧
      concept.label = "Calm deep review".toList ∧ Term.Clean 48 concept.label := by
  have built : build ⟨200, 48⟩ calmReviewRole =
      .ok (graphOf ⟨200, 48⟩ "dev".toList (parts calmReviewRole)) := by
    rw [build, if_neg (by decide)]
    rfl
  have found : (graphOf ⟨200, 48⟩ "dev".toList (parts calmReviewRole)).find?
        "calm deep review".toList =
      some ⟨"calm deep review".toList, "Calm deep review".toList, .term, 1⟩ := by
    decide +kernel
  exact ⟨_, _, built, found, rfl, rfl,
    (indexed_terms_are_clean.1 ⟨200, 48⟩ calmReviewRole _ built _ _ found rfl).2.2⟩

end Outline

end RoleWeave
