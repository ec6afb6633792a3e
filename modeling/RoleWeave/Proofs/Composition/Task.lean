import RoleWeave.Composition.Role
import RoleWeave.Proofs.Composition.Call

/-!
# The tasks of a composition

A composer is given tasks: to compose a block, or to inline a reference outside of any text. With
one pass it can be given any number of them, and its user can mark resources as met in between; a
`session` is such a sequence of requests, which goes on after a task that ended with a fault.

A role is composed by a fixed list of tasks, `roleTasks`, up to the first fault: the thoughts, the
personality, the executions, the principle and the knowledge. `composeParts_tasks` says so, and
`tasks_of_composeRole` concludes that a composed role is assembled from what these tasks have left.
-/

namespace RoleWeave

/-- Something that a composer is asked to compose. -/
inductive Task where
  /-- Compose a block in place. -/
  | block (block : Block)
  /-- Inline a reference that stands at a depth. -/
  | inline (depth : Nat) (reference : Reference)

/-- Something that can be done with a pass. -/
inductive Request where
  /-- Count a resource as met. -/
  | visit (key : Key)
  | compose (task : Task)

namespace Composition

variable {σ : Type}

/-- Take a step for its effect only. -/
def discard {α : Type} (step : Step (Weaving σ) α) : Step (Weaving σ) Unit :=
  (fun _ => ()) <$> step

/-- Do a task. -/
def perform (provider : Provider σ) (limit : Nat) : Task → Step (Weaving σ) Unit
  | .block block => discard (composeBlock provider limit block)
  | .inline depth reference => discard (inlineAt provider limit depth reference)

/-- The calls made by a task. -/
def taskCalls (provider : Provider σ) (limit : Nat) : Task → Weaving σ → List Call
  | .block block => blockCalls provider limit block
  | .inline depth reference => callsAt provider limit depth reference

/-- Do tasks one after another, up to the first that ends with a fault. -/
def performAll (provider : Provider σ) (limit : Nat) : List Task → Step (Weaving σ) Unit
  | [] => return ()
  | task :: later => do
      perform provider limit task
      performAll provider limit later

/-- The calls made by tasks up to the first that ends with a fault. -/
def allCalls (provider : Provider σ) (limit : Nat) : List Task → Weaving σ → List Call
  | [], _ => []
  | task :: later, weaving =>
      taskCalls provider limit task weaving ++
        match (perform provider limit task).run weaving with
        | (.ok _, changed) => allCalls provider limit later changed
        | (.error _, _) => []

/-- The weaving after a request, whether or not a fault ended it. -/
def serve (provider : Provider σ) (limit : Nat) : Request → Weaving σ → Weaving σ
  | .visit key, weaving => weaving.visit key
  | .compose task, weaving => ((perform provider limit task).run weaving).2

/-- The calls made by a request. -/
def requestCalls (provider : Provider σ) (limit : Nat) : Request → Weaving σ → List Call
  | .visit _, _ => []
  | .compose task, weaving => taskCalls provider limit task weaving

/-- The weaving after any requests on its pass. -/
def session (provider : Provider σ) (limit : Nat) : List Request → Weaving σ → Weaving σ
  | [], weaving => weaving
  | request :: later, weaving =>
      session provider limit later (serve provider limit request weaving)

/-- The calls made by any requests on one pass. -/
def sessionCalls (provider : Provider σ) (limit : Nat) : List Request → Weaving σ → List Call
  | [], _ => []
  | request :: later, weaving =>
      requestCalls provider limit request weaving ++
        sessionCalls provider limit later (serve provider limit request weaving)

/-- The tasks of a section's plan. -/
def Plan.tasks : Plan → List Task
  | .inPlace block => [.block block]
  | .listed references => references.map (Task.inline 0)

/-- The tasks of the sections with these tags. -/
def sectionTasks (document : Document) : List Tag → List Task
  | [] => []
  | tag :: later =>
      match document.block? tag with
      | none => sectionTasks document later
      | some block => (planOf block).tasks ++ sectionTasks document later

/-- The task of loading a skill. -/
def skillTask (key : Key) : Task :=
  .inline 0 (Reference.plain key.protocol key.id)

/-- The tasks of loading the skills of a protocol. -/
def skillTasks (protocol : Text) (ids : NameSet) : List Task :=
  ids.names.map (fun id => skillTask ⟨protocol, id⟩)

/-- The tasks of composing a role, in their order. -/
def roleTasks (document : Document) : List Task :=
  skillTasks thoughtProtocol (idsOf thoughtProtocol (listedReferences document)) ++
    (sectionTasks document [.personality] ++
      (skillTasks executionProtocol (idsOf executionProtocol (listedReferences document)) ++
        sectionTasks document [.principle, .knowledge]))

/-- The pass with which the composition of a role begins. -/
def rolePass (info : RoleInfo) : Pass :=
  Pass.withVisited [⟨roleProtocol, info.id⟩]

/-- The calls made while a role is composed. -/
def roleCalls (provider : Provider σ) (limit : Nat) (info : RoleInfo) (document : Document)
    (world : σ) : List Call :=
  match provider.ready.run world with
  | (.ok _, changed) => allCalls provider limit (roleTasks document) ⟨changed, rolePass info⟩
  | (.error _, _) => []

/-- A reference that is to be inlined among the pieces of a text is one of its inlined references. -/
theorem mem_inlined {text : Text} {reference : Reference}
    (member : Piece.reference reference ∈ pieces text)
    (inlines : reference.loading.inlines = true) : reference ∈ inlined text := by
  refine List.mem_filter.mpr ⟨?_, inlines⟩
  exact List.mem_filterMap.mpr ⟨.reference reference, member, rfl⟩

/-- That a step is taken for its effect changes neither its fault nor what it leaves. -/
theorem run_discard {α : Type} (step : Step (Weaving σ) α) (weaving : Weaving σ) :
    Step.fault? ((discard step).run weaving).1 = Step.fault? (step.run weaving).1 ∧
      ((discard step).run weaving).2 = (step.run weaving).2 := by
  rw [discard, Step.run_map]
  rcases step.run weaving with ⟨fault | value, changed⟩ <;> exact ⟨rfl, rfl⟩

section Tasks

variable (provider : Provider σ) (limit : Nat)

/-- A task is a run, which is that of a block or that of a reference. Discarding what a step came to
    keeps the fault it ended with and all that it left. -/
theorem run_task (task : Task) (weaving : Weaving σ) :
    Run provider limit weaving (Step.fault? ((perform provider limit task).run weaving).1)
      ((perform provider limit task).run weaving).2 (taskCalls provider limit task weaving) := by
  cases task with
  | block block =>
    obtain ⟨sameFault, sameWeaving⟩ :=
      run_discard (composeBlock provider limit block) weaving
    rw [perform, sameFault, sameWeaving]
    exact run_block provider limit block weaving
  | inline depth reference =>
    obtain ⟨sameFault, sameWeaving⟩ :=
      run_discard (inlineAt provider limit depth reference) weaving
    rw [perform, sameFault, sameWeaving]
    exact run_at provider limit depth reference weaving

/-- Tasks one after another are a run. A fault ends them, and otherwise the later ones follow in a
    chain. -/
theorem run_tasks (tasks : List Task) (weaving : Weaving σ) :
    Run provider limit weaving (Step.fault? ((performAll provider limit tasks).run weaving).1)
      ((performAll provider limit tasks).run weaving).2
      (allCalls provider limit tasks weaving) := by
  induction tasks generalizing weaving with
  | nil => exact .idle weaving
  | cons task later ih =>
    have first := run_task provider limit task weaving
    simp only [performAll, Step.run_bind, allCalls]
    rcases made : (perform provider limit task).run weaving with ⟨fault | value, changed⟩
    · rw [made] at first
      simp only [List.append_nil]
      exact first
    · rw [made] at first
      exact .chain first (ih changed)

/-- Tasks in two lists are done as those of one list. -/
theorem performAll_append (first second : List Task) :
    performAll provider limit (first ++ second) =
      (do performAll provider limit first; performAll provider limit second) := by
  induction first with
  | nil => simp [performAll]
  | cons task later ih => simp [performAll, ih]

/-- Inlining references one after another is doing a task for each, as far as their effect is
    concerned. -/
theorem inlineAll_tasks (references : List Reference) :
    discard (inlineAll provider limit references) =
      performAll provider limit (references.map (Task.inline 0)) := by
  induction references with
  | nil => simp [inlineAll, performAll, discard]
  | cons reference later ih =>
    simp only [discard] at ih
    simp [inlineAll, performAll, perform, discard, ← ih]

/-- Composing a section is doing the tasks of its plan. One that is composed in place is a single
    task, and one that is listed is a task for each reference. -/
theorem composeSection_tasks (plan : Plan) :
    discard (composeSection provider limit plan) = performAll provider limit plan.tasks := by
  cases plan with
  | inPlace block => simp [composeSection, Plan.tasks, performAll, perform, discard]
  | listed references =>
    rw [Plan.tasks, ← inlineAll_tasks]
    simp [composeSection, discard]

/-- Composing sections is doing their tasks, by induction on the tags. A section without a block has
    none. -/
theorem composeSections_tasks (document : Document) (tags : List Tag) :
    discard (composeSections provider limit document tags) =
      performAll provider limit (sectionTasks document tags) := by
  induction tags with
  | nil => simp [composeSections, sectionTasks, performAll, discard]
  | cons tag later ih =>
    simp only [composeSections, sectionTasks]
    cases document.block? tag with
    | none => exact ih
    | some block =>
      simp only [performAll_append, ← ih, ← composeSection_tasks]
      simp [discard]

/-- The tasks of loading skills are to inline plain references to them. -/
theorem skillTasks_eq (protocol : Text) (ids : NameSet) :
    skillTasks protocol ids =
      (ids.names.map (Reference.plain protocol)).map (Task.inline 0) := by
  simp [skillTasks, skillTask]

/-- Loading skills is doing the tasks of loading them. -/
theorem loadSkills_tasks (protocol : Text) (ids : NameSet) :
    discard (loadSkills provider limit protocol ids) =
      performAll provider limit (skillTasks protocol ids) := by
  rw [skillTasks_eq, ← inlineAll_tasks]
  simp [loadSkills, discard]

/-- Composing the parts of a role is doing its tasks. The thoughts, the personality, the executions
    and the other sections come in this order on both sides. -/
theorem composeParts_tasks (document : Document) :
    discard (composeParts provider limit document
        (idsOf thoughtProtocol (listedReferences document))
        (idsOf executionProtocol (listedReferences document))) =
      performAll provider limit (roleTasks document) := by
  simp only [roleTasks, performAll_append, ← loadSkills_tasks, ← composeSections_tasks]
  simp [composeParts, discard]

/-- The calls of tasks in two lists are those of the first and, where they came to an end, those of
    the second. -/
theorem allCalls_append (first second : List Task) (weaving : Weaving σ) :
    allCalls provider limit (first ++ second) weaving =
      allCalls provider limit first weaving ++
        match (performAll provider limit first).run weaving with
        | (.ok _, changed) => allCalls provider limit second changed
        | (.error _, _) => [] := by
  induction first generalizing weaving with
  | nil => rfl
  | cons task later ih =>
    simp only [List.cons_append, allCalls, performAll, Step.run_bind, List.append_assoc]
    rcases (perform provider limit task).run weaving with ⟨fault | value, changed⟩
    · simp
    · simp only [ih]

/-- The calls of requests in two lists are those of the first and then those of the second. -/
theorem sessionCalls_append (first second : List Request) (weaving : Weaving σ) :
    sessionCalls provider limit (first ++ second) weaving =
      sessionCalls provider limit first weaving ++
        sessionCalls provider limit second (session provider limit first weaving) := by
  induction first generalizing weaving with
  | nil => rfl
  | cons request later ih => simp [sessionCalls, session, ih]

end Tasks

section Roles

variable {provider : Provider σ} {limit : Nat}

/-- A role that was composed is assembled from its parts and from the pass that its tasks left, all
    of which came to an end.

    Proof: composing a role is getting ready, composing the parts and assembling them. None of these
    was ended by a fault. To compose the parts is to do the tasks of the role
    (`composeParts_tasks`), which then leave what the parts have left. -/
theorem tasks_of_composeRole {info : RoleInfo} {document : Document} {world after : σ}
    {role : ComposedRole}
    (composed : (composeRole provider limit info document).run world = (.ok role, after)) :
    ∃ ready parts final, provider.ready.run world = (.ok (), ready) ∧
      (composeParts provider limit document
        (idsOf thoughtProtocol (listedReferences document))
        (idsOf executionProtocol (listedReferences document))).run ⟨ready, rolePass info⟩ =
          (.ok parts, final) ∧
      (performAll provider limit (roleTasks document)).run ⟨ready, rolePass info⟩ =
        (.ok (), final) ∧
      role = assemble info (idsOf thoughtProtocol (listedReferences document))
        (idsOf executionProtocol (listedReferences document)) parts final.pass ∧
      after = final.world := by
  rw [composeRole, Step.run_bind] at composed
  rcases readied : provider.ready.run world with ⟨fault | _, ready⟩
  · simp [readied] at composed
  · simp only [readied, Step.run_of] at composed
    rcases made : (composeParts provider limit document
        (idsOf thoughtProtocol (listedReferences document))
        (idsOf executionProtocol (listedReferences document))).run ⟨ready, rolePass info⟩ with
      ⟨fault | parts, final⟩
    · simp [rolePass] at made
      simp [made] at composed
    · have tasks : (performAll provider limit (roleTasks document)).run ⟨ready, rolePass info⟩ =
          (.ok (), final) := by
        rw [← composeParts_tasks, discard, Step.run_map, made]
      simp only [rolePass] at made
      simp only [made, Prod.mk.injEq, Except.ok.injEq] at composed
      exact ⟨ready, parts, final, rfl, made, tasks, composed.1.symm, composed.2.symm⟩

/-- An outcome that loading a skill came to, with its calls among others. -/
def Loaded (provider : Provider σ) (limit : Nat) (calls : List Call) (key : Key)
    (outcome : Inline) : Prop :=
  ∃ start final,
    (inlineAt provider limit 0 (Reference.plain key.protocol key.id)).run start =
      (.ok outcome, final) ∧
    callsAt provider limit 0 (Reference.plain key.protocol key.id) start <:+: calls

/-- Among more calls there are still those of loading the skill. -/
theorem Loaded.mono {calls more : List Call} {key : Key} {outcome : Inline}
    (loaded : Loaded provider limit calls key outcome) (among : calls <:+: more) :
    Loaded provider limit more key outcome := by
  obtain ⟨start, final, ran, inside⟩ := loaded
  exact ⟨start, final, ran, inside.trans among⟩

/-- The outcomes of inlining references one after another come of calls of their own. The calls of
    each follow those of the ones before it. -/
theorem calls_of_inlineAll {references : List Reference} {weaving final : Weaving σ}
    {outcomes : List Inline}
    (ran : (inlineAll provider limit references).run weaving = (.ok outcomes, final)) :
    ∀ pair ∈ references.zip outcomes, ∃ start ending,
      (inlineAt provider limit 0 pair.1).run start = (.ok pair.2, ending) ∧
      callsAt provider limit 0 pair.1 start <:+:
        allCalls provider limit (references.map (Task.inline 0)) weaving := by
  induction references generalizing weaving outcomes with
  | nil => simp
  | cons reference later ih =>
    obtain ⟨outcome, middle, first, rest⟩ := Step.ok_of_bind ran
    obtain ⟨others, changed, second, ended⟩ := Step.ok_of_bind rest
    cases ended
    have performed : (perform provider limit (.inline 0 reference)).run weaving =
        (.ok (), middle) := by
      rw [perform, discard, Step.run_map, first]
    intro pair member
    rw [List.map_cons, allCalls, performed]
    rcases List.mem_cons.mp member with rfl | among
    · exact ⟨weaving, middle, first, (List.prefix_append _ _).isInfix⟩
    · obtain ⟨start, ending, inlinedHere, inside⟩ := ih second pair among
      exact ⟨start, ending, inlinedHere, inside.trans (List.suffix_append _ _).isInfix⟩

/-- The skills of a protocol come of calls of their own, since loading them is inlining plain
    references. -/
theorem calls_of_loadSkills {protocol : Text} {ids : NameSet} {weaving final : Weaving σ}
    {loaded : List (Key × Inline)}
    (ran : (loadSkills provider limit protocol ids).run weaving = (.ok loaded, final)) :
    ∀ skill ∈ loaded,
      Loaded provider limit (allCalls provider limit (skillTasks protocol ids) weaving)
        skill.1 skill.2 := by
  obtain ⟨outcomes, middle, inlinedAll, ended⟩ := Step.ok_of_bind ran
  cases ended
  intro skill member
  rw [List.zip_map_left] at member
  obtain ⟨⟨id, outcome⟩, named, rfl⟩ := List.mem_map.mp member
  have paired : (Reference.plain protocol id, outcome) ∈
      (ids.names.map (Reference.plain protocol)).zip outcomes := by
    rw [List.zip_map_left]
    exact List.mem_map.mpr ⟨(id, outcome), named, rfl⟩
  rw [skillTasks_eq]
  exact calls_of_inlineAll inlinedAll _ paired

/-- The tasks that were done for the skills of a protocol. -/
theorem performed_of_loadSkills {protocol : Text} {ids : NameSet} {weaving final : Weaving σ}
    {loaded : List (Key × Inline)}
    (ran : (loadSkills provider limit protocol ids).run weaving = (.ok loaded, final)) :
    (performAll provider limit (skillTasks protocol ids)).run weaving = (.ok (), final) := by
  rw [← loadSkills_tasks, discard, Step.run_map, ran]

/-- The tasks that were done for sections. -/
theorem performed_of_composeSections {document : Document} {tags : List Tag}
    {weaving final : Weaving σ} {composed : List (Tag × Text)}
    (ran : (composeSections provider limit document tags).run weaving = (.ok composed, final)) :
    (performAll provider limit (sectionTasks document tags)).run weaving = (.ok (), final) := by
  rw [← composeSections_tasks, discard, Step.run_map, ran]

/-- The skills among the parts of a role come of calls of their own.

    Proof: the parts are composed in four steps, and the calls of the role are those of the four one
    after the other. The thoughts come of the first and the executions of the third, and calls among
    those of one step are among all. -/
theorem calls_of_composeParts {document : Document} {weaving final : Weaving σ}
    {parts : RoleParts}
    (ran : (composeParts provider limit document
        (idsOf thoughtProtocol (listedReferences document))
        (idsOf executionProtocol (listedReferences document))).run weaving =
      (.ok parts, final)) :
    ∀ skill ∈ parts.thoughts ++ parts.executions,
      Loaded provider limit (allCalls provider limit (roleTasks document) weaving)
        skill.1 skill.2 := by
  obtain ⟨thoughts, afterThoughts, loadedThoughts, rest⟩ := Step.ok_of_bind ran
  obtain ⟨personality, afterPersonality, composedPersonality, rest⟩ := Step.ok_of_bind rest
  obtain ⟨executions, afterExecutions, loadedExecutions, rest⟩ := Step.ok_of_bind rest
  obtain ⟨others, afterOthers, composedOthers, ended⟩ := Step.ok_of_bind rest
  cases ended
  rw [roleTasks, allCalls_append, performed_of_loadSkills loadedThoughts]
  dsimp only
  rw [allCalls_append, performed_of_composeSections composedPersonality]
  dsimp only
  rw [allCalls_append]
  intro skill member
  rcases List.mem_append.mp member with thought | execution
  · exact (calls_of_loadSkills loadedThoughts skill thought).mono
      (List.prefix_append _ _).isInfix
  · have inside := (List.prefix_append
        (allCalls provider limit
          (skillTasks executionProtocol (idsOf executionProtocol (listedReferences document)))
          afterPersonality)
        (match (performAll provider limit (skillTasks executionProtocol
            (idsOf executionProtocol (listedReferences document)))).run afterPersonality with
          | (.ok _, changed) =>
              allCalls provider limit (sectionTasks document [.principle, .knowledge]) changed
          | (.error _, _) => [])).isInfix
    exact (calls_of_loadSkills loadedExecutions skill execution).mono
      ((inside.trans (List.suffix_append _ _).isInfix).trans (List.suffix_append _ _).isInfix)

/-- Every skill of a composed role shows the content that a call for it came to. Only an outcome
    with content makes a skill. -/
theorem calls_of_skill {info : RoleInfo} {document : Document} {world after : σ}
    {role : ComposedRole}
    (composed : (composeRole provider limit info document).run world = (.ok role, after)) :
    ∀ skill ∈ role.skills, ∃ text, skill.content = Text.trim text ∧
      Loaded provider limit (roleCalls provider limit info document world) skill.key
        (.content text) := by
  obtain ⟨ready, parts, final, readied, made, _, rfl, _⟩ := tasks_of_composeRole composed
  have loaded := calls_of_composeParts made
  intro skill member
  obtain ⟨⟨key, outcome⟩, among, shown⟩ := List.mem_filterMap.mp member
  cases outcome with
  | content text =>
    cases shown
    refine ⟨text, rfl, ?_⟩
    rw [roleCalls, readied]
    exact loaded _ among
  | suppressed => cases shown
  | failed fault => cases shown

variable (provider limit) in
/-- Whatever comes of composing a role, the world is left as its tasks left it, or as getting ready
    left it if that failed. -/
theorem world_of_composeRole (info : RoleInfo) (document : Document) (world : σ) :
    ((composeRole provider limit info document).run world).2 =
      match provider.ready.run world with
      | (.ok _, ready) =>
          ((performAll provider limit (roleTasks document)).run ⟨ready, rolePass info⟩).2.world
      | (.error _, ready) => ready := by
  rw [composeRole, Step.run_bind]
  rcases provider.ready.run world with ⟨fault | _, ready⟩
  · rfl
  · simp only [Step.run_of, ← composeParts_tasks, discard, Step.run_map, rolePass]
    rcases (composeParts provider limit document
        (idsOf thoughtProtocol (listedReferences document))
        (idsOf executionProtocol (listedReferences document))).run
          ⟨ready, Pass.withVisited [⟨roleProtocol, info.id⟩]⟩ with ⟨fault | parts, final⟩ <;> rfl

variable (provider limit) in
/-- The fault that ends the composition of a role is that of making ready or that of its tasks.
    Assembling the parts cannot fail. -/
theorem fault_of_composeRole (info : RoleInfo) (document : Document) (world : σ) :
    Step.fault? ((composeRole provider limit info document).run world).1 =
      match provider.ready.run world with
      | (.ok _, ready) =>
          Step.fault?
            ((performAll provider limit (roleTasks document)).run ⟨ready, rolePass info⟩).1
      | (.error fault, _) => some fault := by
  rw [composeRole, Step.run_bind]
  rcases provider.ready.run world with ⟨fault | _, ready⟩
  · rfl
  · simp only [Step.run_of, ← composeParts_tasks, discard, Step.run_map, rolePass]
    rcases (composeParts provider limit document
        (idsOf thoughtProtocol (listedReferences document))
        (idsOf executionProtocol (listedReferences document))).run
          ⟨ready, Pass.withVisited [⟨roleProtocol, info.id⟩]⟩ with ⟨fault | parts, final⟩ <;> rfl

end Roles

end Composition

end RoleWeave
