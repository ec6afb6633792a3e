import RoleWeave.Proofs.Composition.Task

/-!
# What a composition reaches

A composition asks for the resources to which the sections of a document refer, and for those to which
the contents refer that it comes to in this way. A set of keys that has the former, and with every
content that was loaded also the latter, has the keys of all calls (`reached_of_role`). References that
stay pointers bring up nothing.
-/

namespace RoleWeave

/-- The references that a task has to inline. -/
def Task.references : Task → List Reference
  | .block shown => Composition.inlined shown.text
  | .inline _ reference => [reference]

namespace Composition

/-- A section of a document refers to a resource otherwise than by a pointer. -/
def Asks (document : Document) (key : Key) : Prop :=
  ∃ tag ∈ Tag.sections, ∃ block, document.block? tag = some block ∧
    ∃ reference ∈ inlined block.text, reference.key = key

/-- What a role shows as a skill is asked for by a section, in which the reference is listed. -/
theorem asks_of_mem_idsOf {document : Document} {protocol id : Text}
    (member : id ∈ idsOf protocol (listedReferences document)) : Asks document ⟨protocol, id⟩ := by
  rw [idsOf, NameSet.mem_ofList, List.mem_map] at member
  obtain ⟨reference, among, rfl⟩ := member
  obtain ⟨listed, same⟩ := List.mem_filter.mp among
  obtain ⟨block, bare, inside⟩ := List.mem_flatMap.mp listed
  obtain ⟨tag, known, found⟩ := List.mem_filterMap.mp (List.mem_filter.mp bare).1
  exact ⟨tag, known, block, found, reference, inside, by simpa [Reference.key] using same⟩

/-- The tasks of a section inline references of its block. A list leaves some of them out. -/
theorem inlined_of_plan {block : Block} {task : Task} (member : task ∈ (planOf block).tasks) :
    ∀ reference ∈ task.references, reference ∈ inlined block.text := by
  unfold planOf at member
  split at member
  · rw [List.mem_singleton.mp member]
    exact fun reference inside => inside
  · obtain ⟨reference, listed, rfl⟩ := List.mem_map.mp member
    rw [Task.references, List.forall_mem_singleton]
    exact (List.mem_filter.mp listed).1

/-- The tasks of sections inline what the sections ask for. By induction on the tags; one without a
    block has no tasks. -/
theorem asks_of_sectionTasks {document : Document} {tags : List Tag}
    (known : ∀ tag ∈ tags, tag ∈ Tag.sections) :
    ∀ task ∈ sectionTasks document tags, ∀ reference ∈ task.references,
      Asks document reference.key := by
  induction tags with
  | nil => simp [sectionTasks]
  | cons tag later ih =>
    obtain ⟨here, rest⟩ := List.forall_mem_cons.mp known
    rw [sectionTasks]
    cases found : document.block? tag with
    | none => exact ih rest
    | some block =>
      rw [List.forall_mem_append]
      refine ⟨?_, ih rest⟩
      intro task member reference inside
      exact ⟨tag, here, block, found, reference, inlined_of_plan member reference inside, rfl⟩

/-- The tasks of skills inline what the sections ask for. Each inlines the plain reference of an id,
    and an id is listed by some section. -/
theorem asks_of_skillTasks {document : Document} {protocol : Text} :
    ∀ task ∈ skillTasks protocol (idsOf protocol (listedReferences document)),
      ∀ reference ∈ task.references, Asks document reference.key := by
  intro task member reference inside
  obtain ⟨id, among, rfl⟩ := List.mem_map.mp member
  rw [List.mem_singleton.mp inside]
  exact asks_of_mem_idsOf (NameSet.mem_def.mpr among)

/-- The tasks of a role inline what the sections of its document ask for. -/
theorem asks_of_roleTasks {document : Document} :
    ∀ task ∈ roleTasks document, ∀ reference ∈ task.references,
      Asks document reference.key := by
  rw [roleTasks, List.forall_mem_append, List.forall_mem_append, List.forall_mem_append]
  exact ⟨asks_of_skillTasks, asks_of_sectionTasks (by decide), asks_of_skillTasks,
    asks_of_sectionTasks (by decide)⟩

/-- A set of keys has what the contents refer to that calls have loaded. -/
def Closed (Reached : Key → Prop) (calls : List Call) : Prop :=
  ∀ call ∈ calls, ∀ content, call.source = some content →
    ∀ reference ∈ inlined content, Reached reference.key

/-- A set is closed under two sequences of calls if it is under each. -/
theorem closed_append {Reached : Key → Prop} {first second : List Call} :
    Closed Reached (first ++ second) ↔ Closed Reached first ∧ Closed Reached second :=
  List.forall_mem_append

variable {σ : Type} {provider : Provider σ} {limit : Nat} {Reached : Key → Prop}

/-- The calls of pieces are for resources in a set, if those of their references are.

    Proof: by induction on the pieces. Prose and pointers make no calls. The calls of a reference
    are for such resources by assumption, and so are those of the later pieces, which are made only
    if no fault has ended the reference. -/
theorem reached_weave {inline : Reference → Step (Weaving σ) Inline}
    {calls : Reference → Weaving σ → List Call}
    (each : ∀ reference weaving, Reached reference.key → Closed Reached (calls reference weaving) →
      ∀ call ∈ calls reference weaving, Reached call.key)
    {parts : List Piece}
    (here : ∀ reference, Piece.reference reference ∈ parts → reference.loading.inlines = true →
      Reached reference.key)
    (weaving : Weaving σ) (closed : Closed Reached (weaveCalls inline calls parts weaving)) :
    ∀ call ∈ weaveCalls inline calls parts weaving, Reached call.key := by
  induction parts generalizing weaving with
  | nil => simp [weaveCalls]
  | cons piece later ih =>
    have rest := ih (fun reference member => here reference (List.mem_cons_of_mem piece member))
    cases piece with
    | prose c => exact rest weaving closed
    | reference reference =>
      by_cases inlines : reference.loading.inlines = true
      · simp only [weaveCalls, inlines, if_true] at closed ⊢
        obtain ⟨own, others⟩ := closed_append.mp closed
        rw [List.forall_mem_append]
        refine ⟨each reference weaving (here reference List.mem_cons_self inlines) own, ?_⟩
        split
        · rename_i changed ran
          rw [ran] at others
          exact rest changed others
        · simp
      · have pointer : reference.loading.inlines = false := by simpa using inlines
        simp only [weaveCalls, pointer, Bool.false_eq_true, if_false] at closed ⊢
        exact rest weaving closed

/-- The calls of a reference to a resource in a set are all for such resources.

    Proof: by induction on how deep references may still be nested. The call for the reference
    itself is for its resource. Further calls are those of a content that was loaded, which refers
    to resources in the set because the set is closed under the calls. -/
theorem reached_within (allowance : Nat) (reference : Reference) (weaving : Weaving σ)
    (here : Reached reference.key)
    (closed : Closed Reached (callsWithin provider limit allowance reference weaving)) :
    ∀ call ∈ callsWithin provider limit allowance reference weaving, Reached call.key := by
  induction allowance generalizing reference weaving with
  | zero => exact List.forall_mem_singleton.mpr here
  | succ allowance ih =>
    rw [callsWithin] at closed ⊢
    split
    · exact List.forall_mem_singleton.mpr here
    · rename_i fresh
      rw [if_neg fresh] at closed
      split
      · exact List.forall_mem_singleton.mpr here
      · rename_i content fetched loaded
        rw [loaded] at closed
        obtain ⟨own, nested⟩ := List.forall_mem_cons.mp closed
        refine List.forall_mem_cons.mpr ⟨here, ?_⟩
        apply reached_weave ih _ fetched nested
        intro other member inlines
        exact own content rfl other (mem_inlined member inlines)

/-- The calls of tasks that inline resources in a set are for such resources. By induction on the
    tasks, of which a block is pieces that are woven and the other kind is a reference. -/
theorem reached_tasks {tasks : List Task}
    (here : ∀ task ∈ tasks, ∀ reference ∈ task.references, Reached reference.key)
    (weaving : Weaving σ) (closed : Closed Reached (allCalls provider limit tasks weaving)) :
    ∀ call ∈ allCalls provider limit tasks weaving, Reached call.key := by
  induction tasks generalizing weaving with
  | nil => simp [allCalls]
  | cons task later ih =>
    obtain ⟨own, rest⟩ := List.forall_mem_cons.mp here
    rw [allCalls] at closed ⊢
    obtain ⟨first, others⟩ := closed_append.mp closed
    rw [List.forall_mem_append]
    constructor
    · cases task with
      | block block =>
        apply reached_weave (reached_within (limit - 0)) _ weaving first
        exact fun reference member inlines => own reference (mem_inlined member inlines)
      | inline depth reference =>
        exact reached_within (limit - depth) reference weaving (own reference List.mem_cons_self)
          first
    · split
      · rename_i changed ran
        rw [ran] at others
        exact ih rest changed others
      · simp

/-- The calls of a role are for resources in a set, if the set has what the sections ask for and
    what the contents refer to that are loaded. If getting ready fails, there are no calls. -/
theorem reached_of_role {info : RoleInfo} {document : Document} {world : σ}
    (asked : ∀ key, Asks document key → Reached key)
    (closed : Closed Reached (roleCalls provider limit info document world)) :
    ∀ call ∈ roleCalls provider limit info document world, Reached call.key := by
  unfold roleCalls at closed ⊢
  split
  · rename_i ready readied
    rw [readied] at closed
    apply reached_tasks _ _ closed
    exact fun task member reference inside =>
      asked reference.key (asks_of_roleTasks task member reference inside)
  · simp

end Composition

end RoleWeave
