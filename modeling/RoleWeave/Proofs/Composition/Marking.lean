import RoleWeave.Proofs.Composition.Carrying
import RoleWeave.Proofs.Composition.Emission
import RoleWeave.Proofs.Library.Settled
import RoleWeave.Proofs.Text.Sequence

/-!
# Failures in the composed text

Every failure that a composition records is shown in the text it comes to, by a marker of its own,
and the markers stand in the order of the record. A marker that is put in travels upwards as part of
a content, through the trimming and joining around it; none of that takes anything from it, because
it neither begins nor ends with a blank. A section that shows a failure is therefore never left out
as an empty one.

`Marked` compares the failures among calls with the text that they came to, and is carried upwards
(`carried_marked`). What the pass has recorded are the same failures (`Accounted.failures`).
-/

namespace RoleWeave

/-- What stands in the place of a recorded failure. -/
def Failure.marker (failure : Failure) : Text :=
  "[unresolved: ".toList ++ failure.fault ++ "]".toList

/-- Trimming takes nothing from a marker. -/
theorem Failure.solid_marker (failure : Failure) : Text.Solid failure.marker where
  begins := ⟨'[', "unresolved: ".toList ++ failure.fault ++ "]".toList, rfl, by decide⟩
  ends := ⟨"[unresolved: ".toList ++ failure.fault, ']', rfl, by decide⟩

namespace Composition

open Text (Shows)

/-- The markers of the calls that failed, in their order. -/
def marks (calls : List Call) : List Text :=
  (calls.filterMap Call.failure?).map Failure.marker

/-- The markers of two sequences of calls are those of the first and then those of the second. -/
@[simp] theorem marks_append (first second : List Call) :
    marks (first ++ second) = marks first ++ marks second := by
  simp [marks]

/-- A call that did not fail has no marker. -/
theorem marks_cons_of_none {call : Call} (silent : call.failure? = none) (later : List Call) :
    marks (call :: later) = marks later := by
  simp [marks, silent]

/-- The markers are solid. -/
theorem solid_of_mem_marks {calls : List Call} : ∀ part ∈ marks calls, Text.Solid part := by
  intro part member
  obtain ⟨failure, _, rfl⟩ := List.mem_map.mp member
  exact failure.solid_marker

/-- A text shows every failure among calls, in their order. -/
def Marked (calls : List Call) (text : Text) : Prop :=
  Shows (marks calls) text

/-- A text still shows the failures once it is trimmed. -/
theorem Marked.trim {calls : List Call} {text : Text} (marked : Marked calls text) :
    Marked calls (Text.trim text) :=
  Shows.trim marked solid_of_mem_marks

/-- Two texts one behind the other show the failures of the calls of both. -/
theorem Marked.append {first second : List Call} {text other : Text}
    (before : Marked first text) (after : Marked second other) :
    Marked (first ++ second) (text ++ other) := by
  unfold Marked
  rw [marks_append]
  exact Shows.append before after

variable {σ : Type} {provider : Provider σ} {limit : Nat}

variable (provider limit) in
/-- That a text shows the failures of calls is carried upwards: only a call that failed has one, and
    the marker that stands in its place is that of its failure. -/
theorem carried_marked : Carried provider limit Marked where
  nothing := .nothing
  append := Marked.append
  trim := Marked.trim
  met _ _ _ := .nothing _
  failed _ _ _ fault := Shows.self fault.marker
  composed _ marked := by
    unfold Marked
    rw [marks_cons_of_none rfl]
    exact marked

/-- A block that is composed shows the failures of its calls. -/
theorem marked_block {block : Block} {weaving final : Weaving σ} {text : Text}
    (ran : (composeBlock provider limit block).run weaving = (.ok text, final)) :
    Marked (blockCalls provider limit block weaving) text :=
  (carried_marked provider limit).block ran

/-- The parts of a role show the failures of all calls, in the order in which they are put into its
    text. This is what is carried up to the parts of any role. -/
theorem marked_parts {document : Document} {weaving final : Weaving σ} {parts : RoleParts}
    (ran : (composeParts provider limit document
        (idsOf thoughtProtocol (listedReferences document))
        (idsOf executionProtocol (listedReferences document))).run weaving =
      (.ok parts, final)) :
    Marked (allCalls provider limit (roleTasks document) weaving)
      (shownSkills "Thinking".toList parts.thoughts ++
        (shownSections parts.personality ++
          (shownSkills "Execution".toList parts.executions ++ shownSections parts.others))) :=
  (carried_marked provider limit).parts ran

/-- A pass tells of a partial failure exactly if it has recorded one. -/
theorem status_eq_partiallyFailed (pass : Pass) :
    pass.status = .partiallyFailed ↔ pass.failures ≠ [] := by
  cases recorded : pass.failures <;> simp [Pass.status, recorded]

/-- Let a role be composed. Its failures are those of the calls that failed, one for each and in
    their order, its text shows the marker of every failure in this order, and its status tells
    whether there are any. The same holds of the text of a block and of the failures that composing
    it adds to the pass.

    Proof: that the failures are those of the calls is the account of the role or of the run. The
    markers of the calls are shown by the parts of the role, and what is put around the parts takes
    nothing from them. The status is partial failure exactly if something is recorded. -/
theorem every_failure_is_shown (provider : Provider σ) (limit : Nat) :
    (∀ (info : RoleInfo) (document : Document) (world after : σ) (role : ComposedRole),
      (composeRole provider limit info document).run world = (.ok role, after) →
      role.failures = (roleCalls provider limit info document world).filterMap Call.failure? ∧
        Shows (role.failures.map Failure.marker) role.text ∧
        (role.status = .partiallyFailed ↔ role.failures ≠ [])) ∧
    ∀ (block : Block) (start final : Weaving σ) (text : Text),
      (composeBlock provider limit block).run start = (.ok text, final) →
      ∃ failures,
        failures = (blockCalls provider limit block start).filterMap Call.failure? ∧
        final.pass.failures = start.pass.failures ++ failures ∧
        Shows (failures.map Failure.marker) text ∧
        (final.pass.status = .partiallyFailed ↔ final.pass.failures ≠ []) := by
  constructor
  · intro info document world after role composed
    obtain ⟨final, account, recorded⟩ := role_accounted provider limit info document world
    obtain ⟨_, sameFailures⟩ := recorded role after composed
    have failures : role.failures =
        (roleCalls provider limit info document world).filterMap Call.failure? := by
      rw [sameFailures, account.failures]
      rfl
    obtain ⟨ready, parts, ended, readied, made, _, rfl, _⟩ := tasks_of_composeRole composed
    refine ⟨failures, ?_, status_eq_partiallyFailed ended.pass⟩
    rw [failures, roleCalls, readied]
    have marked := Shows.prepend (marked_parts made) (shownInfo info)
    have whole := Shows.extend marked (shownSummary
      (idsOf thoughtProtocol (listedReferences document))
      (idsOf executionProtocol (listedReferences document))
      (parts.personality ++ parts.others) ended.pass.status)
    simpa only [marks, assemble, List.append_assoc] using whole
  · intro block start final text ran
    have account := (run_block provider limit block start).accounted
    rw [ran] at account
    exact ⟨_, rfl, account.failures, marked_block ran, status_eq_partiallyFailed final.pass⟩

/-- The document of a role whose personality refers to an execution. -/
def referringRole : Document :=
  ⟨"<personality>Calm. @execution://a</personality>".toList, [⟨"personality".toList, 13, 33⟩]⟩

/-- An execution with nothing but two references, neither of which leads anywhere. -/
def strandedFiles : List (Text × Text) :=
  [("a".toList, "\n@ghost://x\n@execution://b\n".toList)]

/-- The composition of that role from a library with that execution. -/
def composeStranded : Except Fault ComposedRole × Library :=
  (composeRole Library.provider 8 (RoleInfo.plain "r".toList) referringRole).run
    (Library.ofFiles "execution".toList strandedFiles)

/-- Both failures of the execution are shown in the role, although the content around their markers
    is trimmed twice. They are failures of references that are nested in the content. -/
theorem stranded_shown :
    ∃ role after, composeStranded = (.ok role, after) ∧
      role.failures.map Failure.reference = ["@ghost://x".toList, "@execution://b".toList] ∧
      Shows
        ["[unresolved: Could not resolve @ghost://x: Protocol not found: ghost]".toList,
          "[unresolved: Could not resolve @execution://b: Resource not found: execution://b]".toList]
        role.text ∧
      role.status = .partiallyFailed := by
  have recorded : composeStranded.1.toOption.map (fun role => role.failures) =
      some
        [⟨"@ghost://x".toList, "Could not resolve @ghost://x: Protocol not found: ghost".toList⟩,
          ⟨"@execution://b".toList,
            "Could not resolve @execution://b: Resource not found: execution://b".toList⟩] := by
    decide +kernel
  rcases ran : composeStranded with ⟨fault | role, after⟩
  · rw [ran] at recorded
    cases recorded
  · rw [ran] at recorded
    have failures : role.failures = _ := Option.some.inj recorded
    obtain ⟨_, shows, status⟩ := (every_failure_is_shown Library.provider 8).1 _ _ _ _ _ ran
    have markers : role.failures.map Failure.marker =
        ["[unresolved: Could not resolve @ghost://x: Protocol not found: ghost]",
          "[unresolved: Could not resolve @execution://b: Resource not found: execution://b]"].map
          String.toList := by
      rw [failures]
      decide +kernel
    rw [markers] at shows
    refine ⟨role, after, rfl, ?_, shows, status.mpr ?_⟩
    · rw [failures, List.map_cons, List.map_cons, List.map_nil]
    · rw [failures]
      exact List.cons_ne_nil _ _

end Composition

end RoleWeave
