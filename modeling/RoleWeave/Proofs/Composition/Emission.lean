import RoleWeave.Proofs.Composition.Accounting

/-!
# Emission at most once

Whatever is done with one pass, each resource is emitted by at most one call and loaded at most
once. `emitted_at_most_once` says so for every session, on a pass that may have met anything
before, and for the composition of a role, which is a session of its own that begins with the role
itself as the one resource that was met.

The loads are those that a provider can observe: they are read off `Provider.noting`, which changes
nothing else.
-/

namespace RoleWeave.Composition

variable {σ : Type} (provider : Provider σ) (limit : Nat)

/-- With notes beside its world, a session makes the same calls and leaves the same pass, and it
    notes the resources of the calls that load. So what is said of the calls that load can be said
    of what the provider was asked for. -/
theorem session_noting (requests : List Request) (start : Weaving σ) :
    sessionCalls provider.noting limit requests ⟨(start.world, []), start.pass⟩ =
        sessionCalls provider limit requests start ∧
      (session provider.noting limit requests ⟨(start.world, []), start.pass⟩).pass =
        (session provider limit requests start).pass ∧
      (session provider.noting limit requests ⟨(start.world, []), start.pass⟩).world.2 =
        ((sessionCalls provider limit requests start).filter Call.loads).map Call.key := by
  have beside : Noted start ⟨(start.world, []), start.pass⟩ := ⟨rfl, rfl⟩
  obtain ⟨⟨samePass, _⟩, sameCalls⟩ :=
    agrees_session (agrees_noting provider limit)
      (fun weaving noted key related => ⟨by simp only [Weaving.visit, related.1], related.2⟩)
      requests beside
  rw [List.forall₂_eq_eq_eq] at sameCalls
  refine ⟨sameCalls.symm, samePass, ?_⟩
  rw [notes_of_session, ← sameCalls, List.nil_append]

/-- After a resource was visited, no call for it does anything but leave its reference out. The
    session behind the visit is accounted for, and the resource is met at its beginning. -/
theorem silent_after_visit (key : Key) (requests : List Request) (start : Weaving σ) :
    ∀ call ∈ sessionCalls provider limit (.visit key :: requests) start,
      call.key = key → call.emits = false := by
  have account := session_accounted provider limit requests (start.visit key)
  intro call member same
  apply Bool.eq_false_iff.mpr
  intro emits
  have unmet := account.fresh call member emits
  rw [same] at unmet
  simp [Weaving.visit] at unmet

/-- The composition of a role is accounted for, from the pass that has met the role itself. If
    getting ready fails, no call is made and no role comes of it; otherwise the calls are those of
    the tasks of the role, which are a run. -/
theorem role_accounted (info : RoleInfo) (document : Document) (world : σ) :
    ∃ final : Pass,
      Accounted (rolePass info) final (roleCalls provider limit info document world) ∧
      ∀ role after, (composeRole provider limit info document).run world = (.ok role, after) →
        role.suppressed = final.suppressed ∧ role.failures = final.failures := by
  rcases readied : provider.ready.run world with ⟨fault | _, ready⟩
  · refine ⟨rolePass info, ?_, ?_⟩
    · rw [roleCalls, readied]
      exact .idle _
    · intro role after composed
      obtain ⟨_, _, _, other, _⟩ := tasks_of_composeRole composed
      rw [readied] at other
      cases other
  · refine ⟨((performAll provider limit (roleTasks document)).run ⟨ready, rolePass info⟩).2.pass,
      ?_, ?_⟩
    · rw [roleCalls, readied]
      exact (run_tasks provider limit (roleTasks document) ⟨ready, rolePass info⟩).accounted
    · intro role after composed
      obtain ⟨other, parts, final, same, _, performed, rfl, _⟩ := tasks_of_composeRole composed
      rw [readied] at same
      cases same
      rw [performed]
      exact ⟨rfl, rfl⟩

/-- What a composed role records are the failures of its calls and the references that they left
    out, both in the order of the calls. -/
theorem records_of_role {provider : Provider σ} {limit : Nat} {info : RoleInfo}
    {document : Document} {world after : σ} {role : ComposedRole}
    (composed : (composeRole provider limit info document).run world = (.ok role, after)) :
    let calls := roleCalls provider limit info document world
    (∃ final, Accounted (rolePass info) final calls) ∧
      role.failures = calls.filterMap Call.failure? ∧
      role.suppressed = (calls.filter Call.met).map Call.key := by
  obtain ⟨final, account, recorded⟩ := role_accounted provider limit info document world
  obtain ⟨suppressed, failures⟩ := recorded role after composed
  exact ⟨⟨final, account⟩, failures.trans account.failures, suppressed.trans account.suppressed⟩

/-- With notes beside its world, the composition of a role notes the resources of the calls that
    load. Getting ready notes nothing. -/
theorem role_noting (info : RoleInfo) (document : Document) (world : σ) :
    ((composeRole provider.noting limit info document).run (world, [])).2.2 =
      ((roleCalls provider limit info document world).filter Call.loads).map Call.key := by
  rw [world_of_composeRole, roleCalls]
  simp only [Provider.noting, Step.within, Step.run_of]
  rcases provider.ready.run world with ⟨fault | _, ready⟩
  · rfl
  · have beside : Noted ⟨ready, rolePass info⟩ ⟨(ready, []), rolePass info⟩ := ⟨rfl, rfl⟩
    obtain ⟨outcome, changed, noted, _, ran, _, sameCalls⟩ :=
      agrees_tasks (agrees_noting provider limit) (roleTasks document) _ _ beside
    rw [List.forall₂_eq_eq_eq] at sameCalls
    have notes := (run_tasks provider.noting limit (roleTasks document)
      ⟨(ready, []), rolePass info⟩).notes
    rw [← sameCalls, List.nil_append] at notes
    exact notes

/-- For every key, at most one call of anything that is done with a pass ends otherwise than by
    leaving its reference out, none does if the key was met before, and the resource is loaded at
    most once. The pass accounts for it: what was met stays met, and the references left out are
    recorded in the order of their calls. The same holds of composing a role, in which the role
    itself is never loaded and every skill shows what a call of its own came to.

    Proof: a session is accounted for as a whole, and so is a role (`session_accounted`,
    `role_accounted`). The account says what is emitted, and `Accounted.nodup_loads` says it of what
    is loaded; by `session_noting` and `role_noting` these are the notes of a provider that notes
    what it is asked for. A resource that is visited in the middle of a session splits it in two, of
    which the second begins with the resource met. -/
theorem emitted_at_most_once (provider : Provider σ) (limit : Nat) :
    (∀ (requests : List Request) (start : Weaving σ),
      let calls := sessionCalls provider limit requests start
      let loaded :=
        (session provider.noting limit requests ⟨(start.world, []), start.pass⟩).world.2
      Accounted start.pass (session provider limit requests start).pass calls ∧
        (∀ earlier key later, requests = earlier ++ .visit key :: later →
          ∃ before after, calls = before ++ after ∧
            before = sessionCalls provider limit earlier start ∧
            ∀ call ∈ after, call.key = key → call.emits = false) ∧
        loaded = (calls.filter Call.loads).map Call.key ∧ loaded.Nodup ∧
        ∀ key ∈ loaded, start.pass.isVisited key = false) ∧
    ∀ (info : RoleInfo) (document : Document) (world : σ),
      let calls := roleCalls provider limit info document world
      let loaded := ((composeRole provider.noting limit info document).run (world, [])).2.2
      (∃ final : Pass, Accounted (rolePass info) final calls ∧
        ∀ role after, (composeRole provider limit info document).run world = (.ok role, after) →
          role.suppressed = final.suppressed ∧ role.failures = final.failures ∧
          ∀ skill ∈ role.skills, ∃ text, skill.content = Text.trim text ∧
            Loaded provider limit calls skill.key (.content text)) ∧
        loaded = (calls.filter Call.loads).map Call.key ∧ loaded.Nodup ∧
        (⟨roleProtocol, info.id⟩ : Key) ∉ loaded := by
  constructor
  · intro requests start calls loaded
    have account := session_accounted provider limit requests start
    obtain ⟨_, _, notes⟩ := session_noting provider limit requests start
    obtain ⟨nodup, unmet⟩ := account.nodup_loads
    refine ⟨account, ?_, notes, ?_, ?_⟩
    · rintro earlier key later rfl
      exact ⟨_, _, sessionCalls_append provider limit earlier (.visit key :: later) start, rfl,
        silent_after_visit provider limit key later _⟩
    · rw [show loaded = _ from notes]
      exact nodup
    · rw [show loaded = _ from notes]
      exact unmet
  · intro info document world calls loaded
    obtain ⟨final, account, recorded⟩ :=
      role_accounted provider limit info document world
    have notes := role_noting provider limit info document world
    obtain ⟨nodup, unmet⟩ := account.nodup_loads
    refine ⟨⟨final, account, ?_⟩, notes, ?_, ?_⟩
    · intro role after composed
      obtain ⟨suppressed, failures⟩ := recorded role after composed
      exact ⟨suppressed, failures, calls_of_skill composed⟩
    · rw [show loaded = _ from notes]
      exact nodup
    · rw [show loaded = _ from notes]
      intro member
      have fresh := unmet _ member
      simp [rolePass, Pass.withVisited, Pass.isVisited] at fresh

end RoleWeave.Composition
