import RoleWeave.Diagram.Mindmap
import RoleWeave.Proofs.Concept.Editing
import Mathlib.Logic.Relation

/-!
# Trees in depth-first preorder

The tree of a mindmap is grown by a recursion that goes as deep as it can and shares the list of all
places. `Grows` is that recursion without a bound on its depth; `grows_within` says that a bound by
the number of concepts that have no place yet never takes effect, so the recursion comes to an end.

What it comes to is a preorder: the entry that is `due?` after some entries is the first child
without a place of the latest of them that has such a child. A `Preorder` begins with the root and
goes on with what is due, and `Grows.preorder` says that growing does just this, until nothing is
due. A list of entries that is determined step by step has its properties step by step: no concept
is placed twice, each is reached from the root, and its parent stands before it.
-/

namespace RoleWeave.Mindmap

/-- The ids of the concepts to which relations lead from an id. -/
def childIds (graph : ConceptGraph) (id : Text) : List Text :=
  (graph.children id).map Concept.id

/-- The first child of a concept that has no place yet. -/
def unplaced? (graph : ConceptGraph) (placed : List Entry) (id : Text) : Option Text :=
  (childIds graph id).find? (fun child => !isPlaced placed child)

/-- The entry from which the tree goes on: the latest that has a child without a place. -/
def parent? (graph : ConceptGraph) (placed : List Entry) : Option Entry :=
  placed.reverse.find? (fun entry => (unplaced? graph placed entry.id).isSome)

/-- The entry that comes next in preorder: the first child without a place of the latest entry that
    has such a child, one level below that entry. -/
def due? (graph : ConceptGraph) (placed : List Entry) : Option Entry :=
  (parent? graph placed).bind (fun parent =>
    (unplaced? graph placed parent.id).map (fun child => ⟨child, parent.depth + 1⟩))

/-- The entries up to some point of the depth-first preorder below a root. -/
inductive Preorder (graph : ConceptGraph) (root : Text) : List Entry → Prop where
  | root : Preorder graph root [⟨root, 0⟩]
  | next {placed : List Entry} {entry : Entry} (before : Preorder graph root placed)
      (due : due? graph placed = some entry) : Preorder graph root (placed ++ [entry])

/-- Placing children at a depth, one after the other, each with all that is reached from it. -/
inductive Grows (graph : ConceptGraph) :
    (depth : Nat) → (children : List Text) → (placed final : List Entry) → Prop where
  | done (depth : Nat) (placed : List Entry) : Grows graph depth [] placed placed
  | again {depth : Nat} {child : Text} {later : List Text} {placed final : List Entry}
      (known : isPlaced placed child = true) (rest : Grows graph depth later placed final) :
      Grows graph depth (child :: later) placed final
  | place {depth : Nat} {child : Text} {later : List Text} {placed middle final : List Entry}
      (fresh : isPlaced placed child = false)
      (below : Grows graph (depth + 1) (childIds graph child) (placed ++ [⟨child, depth⟩]) middle)
      (rest : Grows graph depth later middle final) :
      Grows graph depth (child :: later) placed final

/-- An id has a place exactly if an entry has it. -/
theorem isPlaced_iff {placed : List Entry} {id : Text} :
    isPlaced placed id = true ↔ ∃ entry ∈ placed, entry.id = id := by
  simp [isPlaced]

/-- What has a place keeps it when more is placed. Growing only ever adds entries. -/
theorem isPlaced_of_subset {placed more : List Entry} (kept : placed ⊆ more) {id : Text}
    (known : isPlaced placed id = true) : isPlaced more id = true := by
  obtain ⟨entry, member, same⟩ := isPlaced_iff.mp known
  exact isPlaced_iff.mpr ⟨entry, kept member, same⟩

/-- All children of a concept have their places. -/
def Closed (graph : ConceptGraph) (placed : List Entry) (id : Text) : Prop :=
  ∀ child ∈ childIds graph id, isPlaced placed child = true

/-- What is closed stays so when more is placed. -/
theorem Closed.mono {graph : ConceptGraph} {placed more : List Entry} {id : Text}
    (closed : Closed graph placed id) (kept : placed ⊆ more) : Closed graph more id :=
  fun child member => isPlaced_of_subset kept (closed child member)

/-- A concept has no child without a place exactly if it is closed. -/
theorem unplaced?_eq_none_iff {graph : ConceptGraph} {placed : List Entry} {id : Text} :
    unplaced? graph placed id = none ↔ Closed graph placed id := by
  simp [unplaced?, Closed]

/-- What growing comes to is determined: at every child there is one way to go on, told by whether
    the child has a place already. So a property of the recursion may be proved of any run of it. -/
theorem Grows.unique {graph : ConceptGraph} {depth : Nat} {children : List Text}
    {placed final other : List Entry} (grows : Grows graph depth children placed final)
    (also : Grows graph depth children placed other) : final = other := by
  induction grows generalizing other with
  | done depth placed =>
    cases also
    rfl
  | again known _ ih =>
    cases also with
    | again _ rest => exact ih rest
    | place fresh _ _ =>
      rw [known] at fresh
      cases fresh
  | place fresh _ _ ihBelow ihRest =>
    cases also with
    | again known _ =>
      rw [known] at fresh
      cases fresh
    | place _ below rest =>
      cases ihBelow below
      exact ihRest rest

section Bound

/-- The number of concepts that have no place yet. -/
def unplacedCount (graph : ConceptGraph) (placed : List Entry) : Nat :=
  (graph.concepts.filter (fun concept => !isPlaced placed concept.id)).length

variable {graph : ConceptGraph}

/-- The more is placed, the fewer concepts have no place. This keeps the bound sufficient while the
    tree grows below earlier children. -/
theorem unplacedCount_mono {placed more : List Entry} (kept : placed ⊆ more) :
    unplacedCount graph more ≤ unplacedCount graph placed := by
  rw [unplacedCount, unplacedCount, ← List.countP_eq_length_filter,
    ← List.countP_eq_length_filter]
  refine List.countP_mono_left (fun concept _ free => ?_)
  have known : isPlaced more concept.id = false := by simpa using free
  simp only [Bool.not_eq_true', Bool.eq_false_iff] at known ⊢
  exact fun placedBefore => known (isPlaced_of_subset kept placedBefore)

/-- Placing a concept that had no place leaves fewer without one. It has to be a concept of the
    graph, for only these are counted: the count after it is the one before with that concept
    filtered out. -/
theorem unplacedCount_lt (consistent : graph.Consistent) {placed : List Entry} {child : Text}
    (depth : Nat) (held : graph.holds child = true) (fresh : isPlaced placed child = false) :
    unplacedCount graph (placed ++ [⟨child, depth⟩]) < unplacedCount graph placed := by
  obtain ⟨concept, member, same⟩ := consistent.holds_iff.mp held
  have narrowed : graph.concepts.filter
        (fun concept => !isPlaced (placed ++ [⟨child, depth⟩]) concept.id) =
      (graph.concepts.filter (fun concept => !isPlaced placed concept.id)).filter
        (fun concept => concept.id != child) := by
    rw [List.filter_filter]
    refine List.filter_congr (fun concept _ => ?_)
    simp [isPlaced, bne, Bool.and_comm, @BEq.comm _ _ _ child]
  rw [unplacedCount, narrowed, unplacedCount, List.length_filter_lt_length_iff_exists]
  refine ⟨concept, List.mem_filter.mpr ⟨member, ?_⟩, ?_⟩
  · simp [same, fresh]
  · simp [same]

/-- A bound above the number of concepts without a place does not show: growing within it is the
    recursion without a bound.

    Proof: by induction on the bound, and inside it along the children. A child that has a place is
    passed over in both. One that has none is placed, which by `unplacedCount_lt` leaves so few
    without a place that the next smaller bound is enough below it; and what is placed below it
    leaves no more, so the bound stays enough for the later children. -/
theorem grows_within (consistent : graph.Consistent) (allowance depth : Nat) (id : Text)
    (placed : List Entry) (enough : unplacedCount graph placed < allowance) :
    Grows graph depth (childIds graph id) placed (grow graph allowance depth id placed) := by
  induction allowance generalizing depth id placed with
  | zero => omega
  | succ allowance ih =>
    -- The children are placed one after the other, from what the ones before have placed.
    have fold : ∀ (children : List Text) (placed : List Entry),
        (∀ child ∈ children, graph.holds child = true) →
        unplacedCount graph placed ≤ allowance →
        Grows graph depth children placed
          (children.foldl
            (fun placed child =>
              if isPlaced placed child then placed
              else grow graph allowance (depth + 1) child (placed ++ [⟨child, depth⟩]))
            placed) := by
      intro children
      induction children with
      | nil => exact fun placed _ _ => .done depth placed
      | cons child later fold =>
        intro placed held room
        obtain ⟨here, others⟩ := List.forall_mem_cons.mp held
        rw [List.foldl_cons]
        cases known : isPlaced placed child with
        | true => exact .again known (fold placed others room)
        | false =>
          have fewer := unplacedCount_lt consistent depth here known
          have grown : placed ⊆
              grow graph allowance (depth + 1) child (placed ++ [⟨child, depth⟩]) :=
            List.Subset.trans (List.subset_append_left _ _) (subset_grow graph allowance _ child _)
          refine .place known (ih (depth + 1) child _ (by omega)) (fold _ others ?_)
          exact Nat.le_trans (unplacedCount_mono grown) room
    refine fold (childIds graph id) placed ?_ (by omega)
    intro child member
    rw [childIds, consistent.children, ConceptGraph.mem_targets] at member
    exact (consistent.holds_of_joins member).2

end Bound

section Order

variable {graph : ConceptGraph} {root : Text}

/-- The tree goes on from an entry exactly if it has a child without a place and none behind it has.
    The search goes through the entries from the last one back, so the two ways of cutting the list
    are turned around. -/
theorem parent?_eq_some_iff {placed : List Entry} {parent : Entry} :
    parent? graph placed = some parent ↔
      (∃ child, unplaced? graph placed parent.id = some child) ∧
        ∃ before after, placed = before ++ parent :: after ∧
          ∀ later ∈ after, Closed graph placed later.id := by
  rw [parent?, List.find?_eq_some_iff_append, Option.isSome_iff_exists]
  refine and_congr_right (fun _ => ⟨?_, ?_⟩)
  · rintro ⟨after, before, split, closed⟩
    refine ⟨before.reverse, after.reverse, ?_, ?_⟩
    · rw [← List.reverse_reverse placed, split]
      simp
    · intro later member
      exact unplaced?_eq_none_iff.mp (by simpa using closed later (List.mem_reverse.mp member))
  · rintro ⟨before, after, split, closed⟩
    refine ⟨after.reverse, before.reverse, by simp [split], ?_⟩
    intro later member
    simp [unplaced?_eq_none_iff.mpr (closed later (List.mem_reverse.mp member))]

/-- An entry is due exactly if it is the first child without a place of the entry from which the
    tree goes on, and one level below it. Concept and level together are the entry, so at most one
    is due. -/
theorem due?_eq_some_iff {placed : List Entry} {entry : Entry} :
    due? graph placed = some entry ↔
      ∃ parent, parent? graph placed = some parent ∧
        unplaced? graph placed parent.id = some entry.id ∧ entry.depth = parent.depth + 1 := by
  rw [due?, Option.bind_eq_some_iff]
  refine exists_congr (fun parent => and_congr_right (fun _ => ?_))
  rw [Option.map_eq_some_iff]
  constructor
  · rintro ⟨child, first, rfl⟩
    exact ⟨first, rfl⟩
  · rintro ⟨first, deeper⟩
    exact ⟨entry.id, first, by rw [← deeper]⟩

/-- Nothing is due exactly if every entry is closed: an entry from which the tree could go on always
    has a first child without a place. -/
theorem due?_eq_none_iff {placed : List Entry} :
    due? graph placed = none ↔ ∀ entry ∈ placed, Closed graph placed entry.id := by
  have stuck : due? graph placed = none ↔ parent? graph placed = none := by
    constructor
    · intro nothing
      apply Option.eq_none_iff_forall_ne_some.mpr
      intro parent found
      obtain ⟨⟨child, first⟩, _⟩ := parent?_eq_some_iff.mp found
      simp [due?, found, first] at nothing
    · intro nothing
      rw [due?, nothing, Option.bind_none]
  rw [stuck, parent?, List.find?_eq_none]
  simp [← unplaced?_eq_none_iff]

/-- What growing the later children of an entry comes to, if all entries behind it and its earlier
    children are done with: a longer part of the preorder, in which the entry and all behind it are
    done with.

    Proof: by induction on the growing. When no child is left, all of them have places, so the entry
    is closed as well. A child that has its place already joins the earlier ones. A child without a
    place is what is due: the entry is the latest with such a child, and the child is its first. So
    placing it continues the preorder. Growing below it starts with that child as the entry and
    nothing behind it; what comes of this has the child and everything behind it closed, so the
    later children of the first entry can be grown with the same assumptions. -/
theorem Grows.continues {depth : Nat} {children : List Text} {placed final : List Entry}
    (grows : Grows graph depth children placed final) :
    ∀ before parent after done, placed = before ++ parent :: after → depth = parent.depth + 1 →
      childIds graph parent.id = done ++ children → (∀ child ∈ done, isPlaced placed child = true) →
      (∀ entry ∈ after, Closed graph placed entry.id) → Preorder graph root placed →
      ∃ added, final = placed ++ added ∧ Preorder graph root final ∧
        ∀ entry ∈ parent :: (after ++ added), Closed graph final entry.id := by
  induction grows with
  | done depth placed =>
    rintro before parent after done split - children placedEarlier closed ordered
    refine ⟨[], by simp, ordered, ?_⟩
    rw [List.append_nil]
    refine List.forall_mem_cons.mpr ⟨?_, closed⟩
    rw [List.append_nil] at children
    exact fun child member => placedEarlier child (children ▸ member)
  | @again depth child later placed final known rest ih =>
    rintro before parent after done split deeper children placedEarlier closed ordered
    refine ih before parent after (done ++ [child]) split deeper (by simp [children]) ?_ closed
      ordered
    intro other member
    rcases List.mem_append.mp member with earlier | here
    · exact placedEarlier other earlier
    · exact List.mem_singleton.mp here ▸ known
  | @place depth child later placed middle final fresh below rest ihBelow ihRest =>
    rintro before parent after done split deeper children placedEarlier closed ordered
    have due : due? graph placed = some ⟨child, depth⟩ := by
      have skipped : done.find? (fun child => !isPlaced placed child) = none := by
        simpa [List.find?_eq_none] using placedEarlier
      have first : unplaced? graph placed parent.id = some child := by
        rw [unplaced?, children, List.find?_append, skipped, Option.none_or,
          List.find?_cons_of_pos (by simp [fresh])]
      exact due?_eq_some_iff.mpr ⟨parent,
        parent?_eq_some_iff.mpr ⟨⟨child, first⟩, before, after, split, closed⟩, first, deeper⟩
    obtain ⟨deep, rfl, orderedBelow, closedBelow⟩ :=
      ihBelow placed ⟨child, depth⟩ [] [] rfl rfl rfl (by simp) (by simp) (ordered.next due)
    have kept : placed ⊆ placed ++ [⟨child, depth⟩] ++ deep := by simp
    have placedChild : isPlaced (placed ++ [⟨child, depth⟩] ++ deep) child = true :=
      isPlaced_iff.mpr ⟨⟨child, depth⟩, by simp, rfl⟩
    obtain ⟨added, rfl, orderedRest, closedRest⟩ :=
      ihRest before parent (after ++ ⟨child, depth⟩ :: deep) (done ++ [child])
        (by simp [split]) deeper (by simp [children])
        (by
          intro other member
          rcases List.mem_append.mp member with earlier | here
          · exact isPlaced_of_subset kept (placedEarlier other earlier)
          · exact List.mem_singleton.mp here ▸ placedChild)
        (List.forall_mem_append.mpr
          ⟨fun entry member => (closed entry member).mono kept, by simpa using closedBelow⟩)
        orderedBelow
    refine ⟨⟨child, depth⟩ :: (deep ++ added), by simp, orderedRest, ?_⟩
    simpa using closedRest

/-- Growing from the root comes to the whole preorder: at the beginning only the root is placed, and
    at the end it and everything behind it is closed, so that nothing is due. -/
theorem Grows.preorder {final : List Entry}
    (grows : Grows graph 1 (childIds graph root) [⟨root, 0⟩] final) :
    Preorder graph root final ∧ due? graph final = none := by
  obtain ⟨added, rfl, ordered, closed⟩ :=
    grows.continues [] ⟨root, 0⟩ [] [] rfl rfl rfl (by simp) (by simp) .root
  exact ⟨ordered, due?_eq_none_iff.mpr (by simpa using closed)⟩

/-- What is due has no place yet, since it was found as a child without one. -/
theorem fresh_of_due {placed : List Entry} {entry : Entry} (due : due? graph placed = some entry) :
    isPlaced placed entry.id = false := by
  obtain ⟨_, _, first, _⟩ := due?_eq_some_iff.mp due
  simpa using List.find?_some first

/-- What is due is a child of an entry that is placed. -/
theorem parent_of_due {placed : List Entry} {entry : Entry} (due : due? graph placed = some entry) :
    ∃ parent, parent? graph placed = some parent ∧ parent ∈ placed ∧
      entry.id ∈ childIds graph parent.id ∧ entry.depth = parent.depth + 1 := by
  obtain ⟨parent, found, first, deeper⟩ := due?_eq_some_iff.mp due
  obtain ⟨_, before, after, split, _⟩ := parent?_eq_some_iff.mp found
  exact ⟨parent, found, by simp [split], List.mem_of_find?_eq_some first, deeper⟩

/-- No concept is placed twice. Each entry was due when it was placed, and what is due has no
    place. -/
theorem Preorder.nodup {placed : List Entry} (ordered : Preorder graph root placed) :
    (placed.map Entry.id).Nodup := by
  induction ordered with
  | root => simp
  | next _ due ih =>
    rw [List.map_append, List.map_singleton, List.nodup_append]
    refine ⟨ih, by simp, ?_⟩
    rintro id early last here rfl
    obtain ⟨entry, member, same⟩ := List.mem_map.mp early
    have known := isPlaced_iff.mpr ⟨entry, member, same.trans (List.mem_singleton.mp here)⟩
    rw [fresh_of_due due] at known
    cases known

/-- Every concept that has a place is reached from the root. Each entry behind the root is a child
    of one that is placed before it. -/
theorem Preorder.reached {placed : List Entry} (ordered : Preorder graph root placed) :
    ∀ entry ∈ placed,
      Relation.ReflTransGen (fun parent child => child ∈ childIds graph parent) root entry.id := by
  induction ordered with
  | root =>
    intro entry member
    rw [List.mem_singleton.mp member]
  | next _ due ih =>
    obtain ⟨parent, _, among, leads, _⟩ := parent_of_due due
    refine List.forall_mem_append.mpr ⟨ih, ?_⟩
    intro entry member
    rw [List.mem_singleton.mp member]
    exact (ih parent among).tail leads

/-- The root stands first and at no depth, and everything else below it: an entry is one level below
    the entry that it is due from. -/
theorem Preorder.begins {placed : List Entry} (ordered : Preorder graph root placed) :
    ∃ later, placed = ⟨root, 0⟩ :: later ∧ ∀ entry ∈ later, entry.depth ≠ 0 := by
  induction ordered with
  | root => exact ⟨[], rfl, by simp⟩
  | @next _ last _ due ih =>
    obtain ⟨later, rfl, deeper⟩ := ih
    obtain ⟨parent, _, _, _, below⟩ := parent_of_due due
    refine ⟨later ++ [last], rfl, List.forall_mem_append.mpr ⟨deeper, ?_⟩⟩
    exact List.forall_mem_singleton.mpr (by omega)

/-- If nothing is due any more, every concept that is reached from the root has a place. By
    induction along the relations that lead there: the children of what has a place have places
    too. -/
theorem Preorder.placed_of_reached {placed : List Entry} (ordered : Preorder graph root placed)
    (complete : due? graph placed = none) {id : Text}
    (reached : Relation.ReflTransGen (fun parent child => child ∈ childIds graph parent) root id) :
    isPlaced placed id = true := by
  induction reached with
  | refl =>
    obtain ⟨later, rfl, _⟩ := ordered.begins
    exact isPlaced_iff.mpr ⟨⟨root, 0⟩, List.mem_cons_self, rfl⟩
  | tail _ leads ih =>
    obtain ⟨entry, member, rfl⟩ := isPlaced_iff.mp ih
    exact due?_eq_none_iff.mp complete entry member _ leads

/-- Every entry behind the root was due when it was placed. The last one was due by the way in which
    a preorder goes on, and the others were placed in the preorder that it continues. -/
theorem Preorder.due_of_split {placed before after : List Entry} {entry : Entry}
    (ordered : Preorder graph root placed) (split : placed = before ++ entry :: after)
    (behind : before ≠ []) : due? graph before = some entry := by
  induction ordered generalizing after with
  | root =>
    rcases List.append_eq_singleton_iff.mp split.symm with ⟨none, _⟩ | ⟨_, impossible⟩
    · exact absurd none behind
    · cases impossible
  | @next placed last _ due ih =>
    rcases List.eq_nil_or_concat after with rfl | ⟨init, c, rfl⟩
    · obtain ⟨rfl, same⟩ := List.append_inj' split rfl
      cases same
      exact due
    · rw [List.concat_eq_append, ← List.cons_append, ← List.append_assoc] at split
      exact ih (List.append_inj' split rfl).1

end Order

end RoleWeave.Mindmap
