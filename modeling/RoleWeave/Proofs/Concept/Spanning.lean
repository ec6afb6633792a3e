import RoleWeave.Concept.Outline
import RoleWeave.Proofs.Diagram.Mindmap

/-!
# Outlines hang together

An outline begins with the role, and every other concept is put below one that is there already: it
is `Grown`. A relation that may not be added, because it is there or because it would lead from a
concept to itself, leaves nothing unreached. So every concept of an outline is reached from the role,
and the mindmap shows all of them: `outline_spanned`.
-/

namespace RoleWeave.Outline

open ConceptGraph (key)

/-- The graphs that grow from the name of a role: one concept after the other is added below a concept
    that is there, as long as it is admitted. -/
inductive Grown (maxNodes : Nat) (name : Text) : ConceptGraph → Prop where
  | root : Grown maxNodes name (ConceptGraph.empty.add name .role)
  | next {graph : ConceptGraph} {parent label : Text} (relation : RelationKind)
      (kind : ConceptKind) (before : Grown maxNodes name graph)
      (held : graph.holds parent = true) (admitted : admits maxNodes graph label = true) :
      Grown maxNodes name ((graph.add label kind).link parent (key label) relation)

/-- That a concept is reached from another along relations. -/
def Reaches (graph : ConceptGraph) (first last : Text) : Prop :=
  Relation.ReflTransGen (fun source target => graph.joins source target = true) first last

/-- How the outline of a name hangs together. -/
structure Spanned (maxNodes : Nat) (name : Text) (graph : ConceptGraph) : Prop where
  /-- The root is the role, under its name. -/
  root : ∃ weight, graph.root? = some ⟨key name, Text.trim name, .role, weight⟩
  /-- There are no more concepts than are admitted, apart from the role. -/
  bounded : graph.size ≤ max 1 maxNodes
  /-- Every concept is reached from the role. -/
  reached : ∀ concept ∈ graph.concepts, Reaches graph (key name) concept.id
  /-- Below its header, the mindmap has one line for every concept. -/
  lines : ∃ entries : List Mindmap.Entry,
    Text.lines (Mindmap.render graph) =
      "mindmap".toList :: (entries.map (Mindmap.Entry.line graph) ++ [[]]) ∧
    (entries.map Mindmap.Entry.id).Perm (graph.concepts.map Concept.id)

/-! ## Outlines are grown -/

section Growing

variable {maxNodes : Nat} {name : Text} {graph : ConceptGraph}

/-- A concept that is admitted is added, and a relation leads to it unless it may not be there. -/
theorem addBelow_of_admitted {label : Text} (admitted : admits maxNodes graph label = true)
    (parent : Text) (relation : RelationKind) (kind : ConceptKind) :
    addBelow maxNodes parent relation kind graph label =
      (graph.add label kind).link parent (key label) relation := by
  rw [addBelow, if_pos admitted]

/-- A concept that is refused leaves the graph as it is. -/
theorem addBelow_of_refused {label : Text} (refused : admits maxNodes graph label = false)
    (parent : Text) (relation : RelationKind) (kind : ConceptKind) :
    addBelow maxNodes parent relation kind graph label = graph := by
  rw [addBelow, refused, if_neg Bool.false_ne_true]

/-- A concept that is admitted is there when it has been added, whether it was there before or is
    new. -/
theorem holds_of_admitted {label : Text} (admitted : admits maxNodes graph label = true)
    (parent : Text) (relation : RelationKind) (kind : ConceptKind) :
    (addBelow maxNodes parent relation kind graph label).holds (key label) = true := by
  rw [addBelow_of_admitted admitted, ConceptGraph.holds_link, ConceptGraph.holds_add]
  simp

/-- What is there stays there when a concept is added below another. An addition that is refused
    changes nothing. -/
theorem holds_addBelow {id : Text} (parent label : Text) (relation : RelationKind)
    (kind : ConceptKind) (held : graph.holds id = true) :
    (addBelow maxNodes parent relation kind graph label).holds id = true := by
  cases admitted : admits maxNodes graph label with
  | true =>
    rw [addBelow_of_admitted admitted, ConceptGraph.holds_link]
    exact ConceptGraph.holds_add_of_holds label kind held
  | false => rwa [addBelow_of_refused admitted]

/-- A grown graph has grown when a concept is added below one that is there. If the concept is
    refused, the graph is the one that was grown before. -/
theorem Grown.addBelow (grown : Grown maxNodes name graph) {parent : Text}
    (held : graph.holds parent = true) (relation : RelationKind) (kind : ConceptKind)
    (label : Text) : Grown maxNodes name (addBelow maxNodes parent relation kind graph label) := by
  cases admitted : admits maxNodes graph label with
  | true =>
    rw [addBelow_of_admitted admitted]
    exact .next relation kind grown held admitted
  | false => rwa [addBelow_of_refused admitted]

/-- A grown graph has grown when concepts are added below one that is there, and what was there is
    there still. The second is needed for the first: the concept below which they are added has to
    be there each time. -/
theorem Grown.addAllBelow (grown : Grown maxNodes name graph) {parent : Text}
    (held : graph.holds parent = true) (relation : RelationKind) (kind : ConceptKind)
    (labels : List Text) :
    Grown maxNodes name (labels.foldl (Outline.addBelow maxNodes parent relation kind) graph) ∧
      ∀ id, graph.holds id = true →
        (labels.foldl (Outline.addBelow maxNodes parent relation kind) graph).holds id = true := by
  induction labels generalizing graph with
  | nil => exact ⟨grown, fun _ => id⟩
  | cons label later ih =>
    obtain ⟨grownLater, kept⟩ := ih (grown.addBelow held relation kind label)
      (holds_addBelow parent label relation kind held)
    exact ⟨grownLater, fun id known => kept id (holds_addBelow parent label relation kind known)⟩

/-- A grown graph has grown when a part is added to it, and what was there is there still. The terms
    of a part are added only if the part was, so the concept above them is there. -/
theorem Grown.addPart (limits : ConceptLimits) (grown : Grown limits.maxNodes name graph)
    {root : Text} (held : graph.holds root = true) (part : Part) :
    Grown limits.maxNodes name (addPart limits root graph part) ∧
      ∀ id, graph.holds id = true → (addPart limits root graph part).holds id = true := by
  rw [Outline.addPart]
  split
  · rename_i admitted
    obtain ⟨grownLater, kept⟩ :=
      (grown.addBelow held .contains part.kind part.label).addAllBelow
        (holds_of_admitted admitted root .contains part.kind) .mentions .term _
    exact ⟨grownLater, fun id known =>
      kept id (holds_addBelow root part.label .contains part.kind known)⟩
  · exact ⟨grown, fun _ => id⟩

/-- An outline is grown. It begins with the role, and every part is added below the role, which
    stays there. -/
theorem grown_graphOf (limits : ConceptLimits) (name : Text) (parts : List Part) :
    Grown limits.maxNodes name (graphOf limits name parts) := by
  have all : ∀ graph : ConceptGraph, Grown limits.maxNodes name graph →
      graph.holds (key name) = true →
      Grown limits.maxNodes name (parts.foldl (Outline.addPart limits (key name)) graph) := by
    induction parts with
    | nil => exact fun graph grown _ => grown
    | cons part later ih =>
      intro graph grown held
      obtain ⟨grownLater, kept⟩ := grown.addPart limits held part
      exact ih _ grownLater (kept _ held)
  exact all _ .root (by simp [ConceptGraph.holds_add])

end Growing

/-! ## What is grown hangs together -/

namespace Grown

variable {maxNodes : Nat} {name : Text} {graph : ConceptGraph}

/-- A grown graph is consistent. -/
theorem consistent (grown : Grown maxNodes name graph) : graph.Consistent := by
  induction grown with
  | root => exact ConceptGraph.consistent_empty.add name .role
  | next relation kind _ _ _ ih => exact (ih.add _ kind).link _ _ relation

/-- The role stays the root of a grown graph, with its label and its kind. Only its weight is not
    told, since a term may have the same key as the name of the role.

    Proof: by induction on the growth. A concept that is added below does not become the root, as
    there is one, and where it has the key of the root it is counted and changes neither its label
    nor its kind. -/
theorem root?_eq (grown : Grown maxNodes name graph) :
    ∃ weight, graph.root? = some ⟨key name, Text.trim name, .role, weight⟩ := by
  suffices kept : graph.root = some (key name) ∧
      ∃ weight, graph.find? (key name) = some ⟨key name, Text.trim name, .role, weight⟩ by
    obtain ⟨founded, weight, found⟩ := kept
    exact ⟨weight, by rw [ConceptGraph.root?, founded]; exact found⟩
  induction grown with
  | root =>
    refine ⟨rfl, 1, ?_⟩
    rw [ConceptGraph.find?_add, if_pos rfl, ConceptGraph.named_of_fresh (ConceptGraph.holds_empty _)]
  | @next graph parent label relation kind _ _ _ ih =>
    obtain ⟨founded, weight, found⟩ := ih
    refine ⟨?_, ?_⟩
    · rw [ConceptGraph.root_link, ConceptGraph.add]
      split <;> simp [founded]
    · rw [ConceptGraph.find?_link, ConceptGraph.find?_add]
      split
      · rename_i same
        rw [same] at found
        exact ⟨weight + 1, by rw [ConceptGraph.named_of_find? found, same]⟩
      · exact ⟨weight, found⟩

/-- A grown graph has the role at least. -/
theorem size_pos (grown : Grown maxNodes name graph) : 1 ≤ graph.size := by
  obtain ⟨_, root⟩ := grown.root?_eq
  have listed := (grown.consistent.listed _).mpr (Mindmap.holds_of_root? grown.consistent root)
  rw [grown.consistent.size_eq]
  exact List.length_pos_of_mem listed

/-- A grown graph has no more concepts than are admitted, apart from the role. A new concept is only
    admitted where there is room for it. -/
theorem size_le (grown : Grown maxNodes name graph) : graph.size ≤ max 1 maxNodes := by
  induction grown with
  | root => exact Nat.le_max_left 1 maxNodes
  | @next graph parent label relation kind before _ admitted ih =>
    have size : ((graph.add label kind).link parent (key label) relation).size =
        (graph.add label kind).size := by
      rw [ConceptGraph.size, ConceptGraph.nodes_link, ← ConceptGraph.size]
    rw [size, before.consistent.size_add]
    split
    · exact ih
    · rename_i fresh
      have room : graph.size < maxNodes := by
        simpa [admits, fresh] using admitted
      omega

/-- Every concept of a grown graph is reached from the role.

    Proof: by induction on the growth. No relation is taken away, so what was reached is reached
    still. A concept that is added is reached through the one above it, by the relation that is
    there after the attempt to add it; if it is that concept itself, it was reached before. -/
theorem reached (grown : Grown maxNodes name graph) :
    ∀ id, graph.holds id = true → Reaches graph (key name) id := by
  induction grown with
  | root =>
    intro id held
    have same : id = key name := by simpa [ConceptGraph.holds_add] using held
    rw [same]
    exact .refl
  | @next graph parent label relation kind before parentHeld _ ih =>
    have kept : ∀ id, Reaches graph (key name) id →
        Reaches ((graph.add label kind).link parent (key label) relation) (key name) id := by
      intro id reaches
      refine Relation.ReflTransGen.mono (fun source target joins => ?_) _ _ reaches
      refine ConceptGraph.joins_link_of_joins parent (key label) relation ?_
      rwa [ConceptGraph.joins_add]
    intro id held
    rw [ConceptGraph.holds_link, ConceptGraph.holds_add, Bool.or_eq_true, beq_iff_eq] at held
    rcases held with rfl | known
    · by_cases same : parent = key label
      · exact kept _ (ih _ (same ▸ parentHeld))
      · refine (kept parent (ih parent parentHeld)).tail ?_
        exact (before.consistent.add label kind).joins_link same
          (ConceptGraph.holds_add_of_holds label kind parentHeld)
          (by simp [ConceptGraph.holds_add]) relation
    · exact kept id (ih id known)

end Grown

/-- If every concept is reached from the root, the mindmap has an entry for each.

    Proof: entries and concepts both have no id twice, so it is enough that they have the same ids.
    What has an entry is a concept of the graph, and what is reached has an entry, because nothing
    is due any more when the mindmap is complete. -/
theorem entries_perm {graph : ConceptGraph} (consistent : graph.Consistent) {root : Text}
    (held : graph.holds root = true)
    (reached : ∀ id, graph.holds id = true → Reaches graph root id) :
    ((Mindmap.entries graph root).map Mindmap.Entry.id).Perm (graph.concepts.map Concept.id) := by
  obtain ⟨ordered, complete⟩ := (Mindmap.grows_entries consistent held).preorder
  have leads : (fun source target => target ∈ Mindmap.childIds graph source) =
      fun source target => graph.joins source target = true := by
    funext source target
    rw [Mindmap.childIds, consistent.children, ConceptGraph.mem_targets]
  rw [consistent.map_id_concepts]
  refine (List.perm_ext_iff_of_nodup ordered.nodup consistent.once).mpr (fun id => ?_)
  rw [consistent.listed, List.mem_map, ← Mindmap.isPlaced_iff]
  constructor
  · intro placed
    obtain ⟨entry, member, rfl⟩ := Mindmap.isPlaced_iff.mp placed
    exact ordered.held consistent held entry member
  · intro known
    refine ordered.placed_of_reached complete ?_
    rw [leads]
    exact reached id known

/-- The outline of a role with a section or a skill is that of its name and its parts. -/
theorem build_of_content (limits : ConceptLimits) {role : ComposedRole}
    (content : ¬(role.sections = [] ∧ role.skills = [])) :
    build limits role = .ok (graphOf limits role.info.name (parts role)) := by
  rw [build, if_neg (by simpa using content)]

/-- An outline cannot be built exactly for a role that has neither sections nor skills. Any other
    has the role as its root, no more concepts than are admitted, all of them reached from the role,
    and a line for each in its mindmap. The outline is `Grown`, and each part is a property of grown
    graphs. -/
theorem outline_spanned (limits : ConceptLimits) (role : ComposedRole) :
    match build limits role with
    | .error _ => role.sections = [] ∧ role.skills = []
    | .ok graph =>
        ¬(role.sections = [] ∧ role.skills = []) ∧
          Spanned limits.maxNodes role.info.name graph := by
  by_cases bare : role.sections = [] ∧ role.skills = []
  · simp [build, bare.1, bare.2]
  · rw [build_of_content limits bare]
    refine ⟨bare, ?_⟩
    have grown := grown_graphOf limits role.info.name (parts role)
    generalize graphOf limits role.info.name (parts role) = graph at grown
    have consistent := grown.consistent
    obtain ⟨weight, root⟩ := grown.root?_eq
    have held := Mindmap.holds_of_root? consistent root
    exact
      { root := ⟨weight, root⟩
        bounded := grown.size_le
        reached := fun concept member =>
          grown.reached concept.id (consistent.holds_iff.mpr ⟨concept, member, rfl⟩)
        lines := ⟨Mindmap.entries graph (key role.info.name), Mindmap.lines_render root,
          entries_perm consistent held grown.reached⟩ }

end RoleWeave.Outline
