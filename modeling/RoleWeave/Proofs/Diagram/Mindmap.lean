import RoleWeave.Proofs.Diagram.Label
import RoleWeave.Proofs.Diagram.Preorder

/-!
# The lines of a mindmap

A mindmap has a line for each entry of its tree, and every line is indented by two spaces more than
the line of the entry that it was reached from. `mindmap_in_preorder` brings the text and the tree
together: the lines are those of the concepts that are reached from the root, each once, in
depth-first preorder.
-/

namespace RoleWeave.Mindmap

/-- The line of an entry. -/
def Entry.line (graph : ConceptGraph) (entry : Entry) : Text :=
  Text.repeated (entry.depth + 1) "  ".toList ++
    if entry.depth = 0 then "root((".toList ++ labelOf graph entry.id ++ "))".toList
    else labelOf graph entry.id

/-- The number of spaces that a line begins with. -/
def indentation (line : Text) : Nat :=
  (line.takeWhile (· == ' ')).length

/-- What the mindmap of a graph shows below its root: the entries that the tree consists of, and a
    line for each. -/
structure Shown (graph : ConceptGraph) (root : Concept) (entries : List Entry) : Prop where
  /-- Growing the tree without a bound on its depth comes to an end, and with these entries. -/
  grown : ∀ final, Grows graph 1 (graph.targets root.id) [⟨root.id, 0⟩] final ↔ final = entries
  /-- The text is the header and the lines of the entries. -/
  lines : Text.lines (render graph) = "mindmap".toList :: (entries.map (Entry.line graph) ++ [[]])
  /-- The entries stand in depth-first preorder, which goes no further. -/
  ordered : Preorder graph root.id entries ∧ due? graph entries = none
  /-- No concept is shown twice. -/
  once : (entries.map Entry.id).Nodup
  /-- A concept is shown exactly if relations lead to it from the root. -/
  reached : ∀ id, id ∈ entries.map Entry.id ↔
    Relation.ReflTransGen (fun source target => graph.joins source target = true) root.id id
  /-- Every entry but the root is one level below the entry before it from which the tree went on,
      and a relation leads to it from there. -/
  below : ∀ before entry after, entries = before ++ entry :: after → before ≠ [] →
    ∃ parent, parent? graph before = some parent ∧ parent ∈ before ∧
      graph.joins parent.id entry.id = true ∧
      indentation (entry.line graph) = indentation (parent.line graph) + 2
  /-- The entries show the labels of their concepts. -/
  labelled : ∀ entry ∈ entries, ∃ concept ∈ graph.concepts, concept.id = entry.id ∧
    labelOf graph entry.id = Diagram.label concept.label

/-- The spaces of an indentation: two for each level. In this form they can be counted, which is how
    a line tells the depth of its concept. -/
theorem repeated_spaces (count : Nat) :
    Text.repeated count "  ".toList = List.replicate (2 * count) ' ' := by
  induction count with
  | zero => rfl
  | succ count ih =>
    rw [Text.repeated] at ih ⊢
    rw [List.replicate_succ, List.flatten_cons, ih, Nat.mul_succ, Nat.add_comm,
      ← List.replicate_append_replicate]
    rfl

/-- The label of an id does not begin with a space, since labels do not begin with blanks. So the
    indentation of a line ends where its label begins. -/
theorem labelOf_unspaced (graph : ConceptGraph) (id : Text) :
    (labelOf graph id).takeWhile (· == ' ') = [] := by
  rw [labelOf]
  split
  · rename_i concept _
    cases shown : Diagram.label concept.label with
    | nil => rfl
    | cons c rest =>
      have visible : Text.isBlank c = false := Diagram.head_label (by rw [shown, List.head?_cons])
      have other : c ≠ ' ' := by
        rintro rfl
        exact absurd visible (by decide)
      simp [other]
  · rfl

/-- The label of an id is inert. -/
theorem inert_labelOf (graph : ConceptGraph) (id : Text) : Diagram.Inert (labelOf graph id) := by
  rw [labelOf]
  split
  · exact Diagram.inert_label _
  · exact fun _ impossible => nomatch impossible

/-- The label of an id has no line feed. -/
theorem labelOf_single (graph : ConceptGraph) (id : Text) : '\n' ∉ labelOf graph id :=
  (inert_labelOf graph id).not_mem (.inr (by decide))

/-- The line of an entry is indented by two spaces for every level, the root's included. What
    follows them does not begin with a space, be it a label or the shape of the root, so no space of
    it is counted. -/
theorem indentation_line (graph : ConceptGraph) (entry : Entry) :
    indentation (entry.line graph) = 2 * (entry.depth + 1) := by
  have spaces : ∀ c ∈ List.replicate (2 * (entry.depth + 1)) ' ', (c == ' ') = true := by
    intro c member
    simp [List.eq_of_mem_replicate member]
  have rest : (if entry.depth = 0 then "root((".toList ++ labelOf graph entry.id ++ "))".toList
      else labelOf graph entry.id).takeWhile (· == ' ') = [] := by
    split
    · rfl
    · exact labelOf_unspaced graph entry.id
  rw [indentation, Entry.line, repeated_spaces, List.takeWhile_append_of_pos spaces, rest,
    List.append_nil, List.length_replicate]

/-- The line of an entry has no line feed. -/
theorem line_single (graph : ConceptGraph) (entry : Entry) : '\n' ∉ entry.line graph := by
  have single := labelOf_single graph entry.id
  rw [Entry.line, repeated_spaces]
  split <;> simp [single]

/-- An entry is written as its line and a line feed. -/
theorem render_entry (graph : ConceptGraph) (entry : Entry) :
    entry.render graph = entry.line graph ++ ['\n'] := by
  obtain ⟨id, depth⟩ := entry
  cases depth with
  | zero => simp [Entry.render, Entry.line, Text.repeated]
  | succ depth => simp [Entry.render, Entry.line]

/-- The lines of a mindmap are the header and those of its entries. Labels have no line feed, so
    every entry is one line. -/
theorem lines_render {graph : ConceptGraph} {root : Concept} (found : graph.root? = some root) :
    Text.lines (render graph) =
      "mindmap".toList :: ((entries graph root.id).map (Entry.line graph) ++ [[]]) := by
  have text : render graph =
      ("mindmap".toList :: (entries graph root.id).map (Entry.line graph)).flatMap
        (fun line => line ++ ['\n']) := by
    have closed : header = "mindmap".toList ++ ['\n'] := by decide
    simp only [render, found, closed, List.flatMap_cons, List.flatMap_map, ← render_entry]
  rw [text, Text.lines_closed, List.cons_append]
  refine List.forall_mem_cons.mpr ⟨by decide, ?_⟩
  intro line member
  obtain ⟨entry, _, rfl⟩ := List.mem_map.mp member
  exact line_single graph entry

/-- The root is a concept of the graph. Graphs that were built by adding have nothing else as a
    root. -/
theorem holds_of_root? {graph : ConceptGraph} (consistent : graph.Consistent) {root : Concept}
    (found : graph.root? = some root) : graph.holds root.id = true := by
  rw [consistent.root?_eq] at found
  exact consistent.holds_iff.mpr ⟨root, List.mem_of_find?_eq_some found, rfl⟩

/-- What is placed below a concept of a graph is a concept of the graph, because relations lead to
    concepts of the graph only. -/
theorem Preorder.held {graph : ConceptGraph} (consistent : graph.Consistent) {root : Text}
    {placed : List Entry} (ordered : Preorder graph root placed)
    (held : graph.holds root = true) : ∀ entry ∈ placed, graph.holds entry.id = true := by
  intro entry among
  rcases (ordered.reached entry among).cases_tail with first | ⟨_, _, leads⟩
  · rwa [first]
  · rw [childIds, consistent.children, ConceptGraph.mem_targets] at leads
    exact (consistent.holds_of_joins leads).2

/-- The tree below a concept is grown as by the recursion without a bound on its depth. The bound is
    the number of all concepts, and once the root has its place fewer than these are left. -/
theorem grows_entries {graph : ConceptGraph} (consistent : graph.Consistent) {root : Text}
    (held : graph.holds root = true) :
    Grows graph 1 (childIds graph root) [⟨root, 0⟩] (entries graph root) := by
  have fewer : unplacedCount graph ([] ++ [⟨root, 0⟩]) < unplacedCount graph [] :=
    unplacedCount_lt consistent 0 held rfl
  have all : unplacedCount graph [] = graph.size := by
    simp [unplacedCount, isPlaced, consistent.length_concepts]
  rw [all] at fewer
  exact grows_within consistent graph.size 1 root [⟨root, 0⟩] fewer

/-- Below the root, the line of an entry is inert: spaces, and a label. Only the root has a shape
    around its label. -/
theorem inert_line (graph : ConceptGraph) {entry : Entry} (below : entry.depth ≠ 0) :
    Diagram.Inert (entry.line graph) := by
  rw [Entry.line, if_neg below, repeated_spaces]
  refine Diagram.Inert.append ?_ (inert_labelOf graph entry.id)
  intro c member
  rw [List.eq_of_mem_replicate member]
  decide

/-- The lines of a mindmap are the header, the root in its round shape, and inert lines. The root
    comes first because a preorder begins with it, and it has its own label because the graph holds
    it under its id. -/
theorem lines_inert {graph : ConceptGraph} (consistent : graph.Consistent) {root : Concept}
    (found : graph.root? = some root) :
    ∃ lines, Text.lines (render graph) =
        "mindmap".toList :: ("  root((".toList ++ Diagram.label root.label ++ "))".toList) ::
          (lines ++ [[]]) ∧
      ∀ line ∈ lines, Diagram.Inert line := by
  obtain ⟨ordered, _⟩ := (grows_entries consistent (holds_of_root? consistent found)).preorder
  obtain ⟨later, begins, deeper⟩ := ordered.begins
  have labelled : labelOf graph root.id = Diagram.label root.label := by
    obtain ⟨id, _, named⟩ := Option.bind_eq_some_iff.mp found
    rw [labelOf, (consistent.keyed id root named).1, named]
  refine ⟨later.map (Entry.line graph), ?_, ?_⟩
  · simp [lines_render found, begins, Entry.line, labelled, Text.repeated]
  · intro line member
    obtain ⟨entry, among, rfl⟩ := List.mem_map.mp member
    exact inert_line graph (deeper entry among)

/-- Whatever concepts and relations are added one after the other, the mindmap of the graph that
    comes of it is written to its end. Without a role it is the header only. Below a role it shows
    all that relations lead to from there and nothing else, each once and in depth-first preorder,
    and every line is indented one level deeper than that of the concept it is reached from.

    Proof: a graph that was built by adding is consistent, so the bounded recursion that writes the
    mindmap is the one without a bound, `grows_entries`, which is determined, `Grows.unique`. What
    it comes to is a preorder after which nothing is due, `Grows.preorder`. From this the parts of
    `Shown` follow one by one: a preorder places nothing twice and places what is reached, it places
    all of it because nothing is due, and each entry behind the root was due when it was placed,
    which gives the entry that it was reached from. -/
theorem mindmap_in_preorder (edits : List ConceptGraph.Edit) :
    match (ConceptGraph.edited edits).root? with
    | none => render (ConceptGraph.edited edits) = header
    | some root =>
        Shown (ConceptGraph.edited edits) root (entries (ConceptGraph.edited edits) root.id) := by
  have consistent := ConceptGraph.consistent_edited edits
  generalize ConceptGraph.edited edits = graph at consistent
  cases found : graph.root? with
  | none => simp only [render, found]
  | some root =>
    have ids : ∀ id, childIds graph id = graph.targets id := consistent.children
    have leads : (fun source target => target ∈ childIds graph source) =
        (fun source target => graph.joins source target = true) := by
      funext source target
      rw [ids, ConceptGraph.mem_targets]
    have rooted := holds_of_root? consistent found
    have grown := grows_entries consistent rooted
    obtain ⟨ordered, complete⟩ := grown.preorder
    have places : ∀ id, id ∈ (entries graph root.id).map Entry.id ↔
        isPlaced (entries graph root.id) id = true := by
      intro id
      rw [isPlaced_iff, List.mem_map]
    exact
      { grown := fun final => ⟨fun also => (ids root.id ▸ grown).unique also ▸ rfl,
          fun same => same ▸ ids root.id ▸ grown⟩
        lines := lines_render found
        ordered := ⟨ordered, complete⟩
        once := ordered.nodup
        reached := by
          intro id
          rw [places, ← leads]
          refine ⟨fun known => ?_, ordered.placed_of_reached complete⟩
          obtain ⟨entry, member, rfl⟩ := isPlaced_iff.mp known
          exact ordered.reached entry member
        below := by
          intro before entry after split behind
          obtain ⟨parent, goesOn, among, child, deeper⟩ :=
            parent_of_due (ordered.due_of_split split behind)
          refine ⟨parent, goesOn, among, ?_, ?_⟩
          · exact ConceptGraph.mem_targets.mp (ids parent.id ▸ child)
          · rw [indentation_line, indentation_line, deeper]
            omega
        labelled := by
          intro entry member
          have held := ordered.held consistent rooted entry member
          obtain ⟨concept, named⟩ := ConceptGraph.find?_of_holds held
          have same := (consistent.keyed entry.id concept named).1
          exact ⟨concept, consistent.mem_concepts.mpr (same ▸ named), same, by rw [labelOf, named]⟩ }

/-- Relations that lead in a circle, and a concept that none leads to. -/
example :
    let graph := ConceptGraph.edited
      [.add "Dev".toList .role, .add "A".toList .part, .add "B".toList .term,
        .add "C".toList .term, .add "alone".toList .term,
        .link "dev".toList "a".toList .contains, .link "dev".toList "c".toList .mentions,
        .link "a".toList "b".toList .mentions, .link "b".toList "c".toList .mentions,
        .link "c".toList "dev".toList .mentions]
    render graph = "mindmap\n  root((Dev))\n    A\n      B\n        C\n".toList := by
  decide +kernel

end RoleWeave.Mindmap
