import RoleWeave.Proofs.Composition.Outcome
import RoleWeave.Proofs.Composition.Task
import RoleWeave.Proofs.Diagram.Chains
import RoleWeave.Proofs.Library.Settled
import RoleWeave.Proofs.Markup.Splice
import RoleWeave.Proofs.Reference.Scanning

/-!
# Composed skills as documents

A skill is composed of texts: its own document, the documents put into it, and the markers of the
references that failed. Each document was read before it was put in, and yet the whole need not be
a document. A marker holds the wording of a fault, and with it perhaps a tag; a bracket that is
pending before a reference goes on in what is put in; and tags outside the vocabulary that are
unmatched in two texts may match each other.

Where none of this is the case, the composed skill is a document (`skills_are_documents`). The three
exceptions are real (`lost_procedures`), and a single skill that is no document keeps all procedures
of a role from being drawn.
-/

namespace RoleWeave

/-- Whether no bracket is pending at the end of pieces and where a reference among them gives way to
    its content. The first argument is the text since the last such reference. -/
def complete : (since : Text) → List Piece → Bool
  | since, [] => !pending since
  | since, .prose c :: later => complete (since ++ [c]) later
  | since, .reference reference :: later =>
      if reference.loading.inlines then !pending since && complete [] later
      else complete (since ++ reference.render) later

/-- The references of a text hold no opening bracket. -/
theorem noBracket_of_mem_pieces {text : Text} {reference : Reference}
    (member : Piece.reference reference ∈ pieces text) : '<' ∉ reference.render := by
  intro bracket
  have goesOn : endsWord '<' = false := (Reference.scanned_of_mem member).inside '<' bracket
  exact absurd goesOn (by decide)

/-- A reference that holds no opening bracket has no marks, and the text behind it keeps its own. -/
theorem shapes_reference {reference : Reference} (bracketless : '<' ∉ reference.render)
    (later : Text) : shapes (reference.render ++ later) = shapes later := by
  rw [shapes_append_of_leavesOpen (plain_of_noBracket bracketless).2,
    (plain_of_noBracket bracketless).1, List.nil_append]

namespace Call

/-- The text that a call puts in: the document that was loaded, or the marker of the failure. -/
def text? (call : Call) : Option Text :=
  match call.outcome with
  | .ok (.content _) => call.source
  | .ok (.failed fault) => some fault.marker
  | _ => none

/-- Whether the text that a call puts in leaves no bracket pending. A marker has to be a document,
    which the document that was loaded is. -/
def tidy (call : Call) : Bool :=
  match call.outcome with
  | .ok (.content _) => call.source.all (fun content => complete [] (pieces content))
  | .ok (.failed fault) => !pending fault.marker && (Document.parse fault.marker).isOk
  | _ => true

end Call

namespace Composition

/-- No text that is put in leaves a bracket pending, all markers are documents, and no two texts
    match each other's marks. -/
structure Clean (calls : List Call) : Prop where
  tidy : ∀ call ∈ calls, call.tidy = true
  separate : (calls.filterMap Call.text?).Pairwise (fun first second => apart first second = true)

/-- What holds of two sequences of calls together holds of each. -/
theorem Clean.of_append {first second : List Call} (clean : Clean (first ++ second)) :
    Clean first ∧ Clean second := by
  have separate := clean.separate
  rw [List.filterMap_append, List.pairwise_append] at separate
  exact ⟨⟨fun call member => clean.tidy call (List.mem_append_left _ member), separate.1⟩,
    ⟨fun call member => clean.tidy call (List.mem_append_right _ member), separate.2.1⟩⟩

variable {σ : Type}

/-- What is shown of a reference leaves no bracket pending, and its marks are neutral. -/
def Fit (shown : Text) (texts : List Text) : Prop :=
  pending shown = false ∧ Neutral texts (shapes shown)

/-- The marker of a failure is fit to be put in if it is a document that leaves nothing pending.
    Nothing is put into it, so it is neutral as it is. -/
theorem fit_marker {call : Call} {fault : Fault} (failed : call.outcome = .ok (.failed fault))
    (tidy : call.tidy = true) : Fit fault.marker [fault.marker] := by
  simp only [Call.tidy, failed, Bool.and_eq_true, Bool.not_eq_true'] at tidy
  obtain ⟨document, parses⟩ : ∃ document, Document.parse fault.marker = .ok document := by
    cases read : Document.parse fault.marker with
    | error other => simp [read, Except.isOk, Except.toBool] at tidy
    | ok document => exact ⟨document, rfl⟩
  refine ⟨tidy.1, ?_⟩
  simpa using neutral_spliced parses (.same _) (by simp)

/-- Pieces whose references are fit are composed to a text whose marks are their own, with those of
    the references put in.

    Proof: by induction on the composition, where the text since the last reference that gave way is
    kept in front. Prose and pointers make that text longer. Where a reference gives way, no bracket
    is pending before it, so the marks of the text before and of what is put in are found apart
    (`shapes_append`). What is put in is neutral and leaves no bracket pending, so the same can be
    said behind it. -/
theorem spliced_woven {inline : Reference → Step (Weaving σ) Inline}
    {calls : Reference → Weaving σ → List Call}
    (each : ∀ reference weaving final outcome,
      (inline reference).run weaving = (.ok outcome, final) →
      Clean (calls reference weaving) →
      Fit outcome.shown ((calls reference weaving).filterMap Call.text?))
    {parts : List Piece} {weaving final : Weaving σ} {text : Text} {made : List Call}
    (woven : Woven inline calls parts weaving text final made)
    (unbracketed : ∀ reference, Piece.reference reference ∈ parts → '<' ∉ reference.render)
    {since : Text} (clean : Clean made) (whole : complete since parts = true) :
    pending (since ++ text) = false ∧
      ∃ groups : List (List Text),
        groups.flatten = made.filterMap Call.text? ∧
        Spliced (shapes (since ++ parts.flatMap Piece.render)) groups (shapes (since ++ text)) := by
  induction woven generalizing since with
  | done weaving =>
    rw [complete, Bool.not_eq_true'] at whole
    rw [List.append_nil]
    exact ⟨whole, [], rfl, by simpa using Spliced.same _⟩
  | prose c _ ih =>
    have further := ih (fun reference member => unbracketed reference (.tail _ member)) clean whole
    rw [List.append_assoc, List.append_assoc] at further
    exact further
  | pointer pointer _ ih =>
    rw [complete, pointer, if_neg Bool.false_ne_true] at whole
    have further := ih (fun reference member => unbracketed reference (.tail _ member)) clean whole
    rw [List.append_assoc, List.append_assoc] at further
    exact further
  | @shown later weaving changed final text made reference outcome inlines ran _ ih =>
    rw [complete, if_pos inlines, Bool.and_eq_true, Bool.not_eq_true'] at whole
    obtain ⟨cleanFirst, cleanLater⟩ := clean.of_append
    obtain ⟨closed, neutral⟩ := each reference weaving changed outcome ran cleanFirst
    obtain ⟨stillClosed, groups, texts, spliced⟩ :=
      ih (fun other member => unbracketed other (.tail _ member)) cleanLater whole.2
    rw [List.nil_append] at stillClosed spliced
    have bracketless : '<' ∉ reference.render := unbracketed reference List.mem_cons_self
    refine ⟨?_, (calls reference weaving).filterMap Call.text? :: groups, ?_, ?_⟩
    · rw [pending_append whole.1, pending_append closed]
      exact stillClosed
    · rw [List.flatten_cons, texts, List.filterMap_append]
    · rw [List.flatMap_cons, Piece.render, shapes_append whole.1, shapes_append whole.1,
        shapes_append closed, shapes_reference bracketless]
      exact (Spliced.insert neutral spliced).prepend _

/-- What a document is composed to is fit to be put in, if what is shown of its references is. Its
    marks are those of the document with neutral parts put in, and trimming takes none of them
    away. -/
theorem fit_composed {inline : Reference → Step (Weaving σ) Inline}
    {calls : Reference → Weaving σ → List Call}
    (each : ∀ reference weaving final outcome,
      (inline reference).run weaving = (.ok outcome, final) →
      Clean (calls reference weaving) →
      Fit outcome.shown ((calls reference weaving).filterMap Call.text?))
    {content text : Text} {document : Document} {weaving final : Weaving σ} {made : List Call}
    (parses : Document.parse content = .ok document)
    (woven : Woven inline calls (pieces content) weaving text final made)
    (tidy : complete [] (pieces content) = true) (clean : Clean made)
    (separate : (content :: made.filterMap Call.text?).Pairwise
      (fun first second => apart first second = true)) :
    Fit (Text.trim text) (content :: made.filterMap Call.text?) := by
  obtain ⟨closed, groups, texts, spliced⟩ :=
    spliced_woven each woven (fun _ => noBracket_of_mem_pieces) clean tidy
  rw [List.nil_append] at closed
  rw [List.nil_append, List.nil_append, render_pieces] at spliced
  rw [← texts] at separate ⊢
  obtain ⟨sameMarks, stillClosed⟩ := shapes_trim closed
  refine ⟨stillClosed, ?_⟩
  rw [sameMarks]
  exact neutral_spliced parses spliced separate

variable {provider : Provider σ} {limit : Nat}

/-- What is shown of a reference is fit to be put in, if the texts of its calls are.

    Proof: by induction on how deep references may still be nested. A reference that is left out
    shows nothing. A failure shows its marker, which is the one text of its call. A content shows
    what the document is composed to, and its calls are those of the references in it, which are fit
    by induction. -/
theorem fit_within (allowance : Nat) (reference : Reference) (weaving final : Weaving σ)
    (outcome : Inline)
    (ran : (inlineWithin provider limit allowance reference).run weaving = (.ok outcome, final))
    (clean : Clean (callsWithin provider limit allowance reference weaving)) :
    Fit outcome.shown
      ((callsWithin provider limit allowance reference weaving).filterMap Call.text?) := by
  induction allowance generalizing reference weaving final outcome with
  | zero =>
    have inlined := inlined_of_within ran
    generalize callsWithin provider limit 0 reference weaving = calls at inlined clean ⊢
    cases inlined with
    | met _ => exact ⟨rfl, neutral_nil⟩
    | cut _ => exact fit_marker rfl (clean.tidy _ List.mem_cons_self)
  | succ allowance ih =>
    have inlined := inlined_of_within ran
    generalize callsWithin provider limit (allowance + 1) reference weaving = calls
      at inlined clean ⊢
    cases inlined with
    | met _ => exact ⟨rfl, neutral_nil⟩
    | refused _ _ _ => exact fit_marker rfl (clean.tidy _ List.mem_cons_self)
    | @composed _ _ _ _ _ content text nested _ loaded woven =>
      obtain ⟨_, cleanNested⟩ := @Clean.of_append [_] _ clean
      have tidy : complete [] (pieces content) = true := by
        simpa [Call.tidy] using clean.tidy _ List.mem_cons_self
      obtain ⟨document, parses⟩ := parses_of_fetch loaded
      have own : Call.text? ⟨reference, allowance + 1, weaving.pass, some content,
          .ok (.content text)⟩ = some content := rfl
      have separate := clean.separate
      rw [List.filterMap_cons_some own] at separate ⊢
      exact fit_composed ih parses woven tidy cleanNested separate

/-- Let a role be composed. Each of its skills shows what a call of its own came to, and it is a
    document if no text of that call or of the calls nested in it leaves a bracket pending, the
    markers among these texts are documents, and no two of them match each other's marks.

    The procedures of the role are drawn exactly if every execution among its skills is a document,
    and then each execution that has steps has its chain.

    Proof: a skill comes of a call of its own (`calls_of_skill`). What that call shows is fit to be
    put in (`fit_within`), so its marks are neutral and it is a document. Drawing reads the
    executions one by one and gives up at the first that is no document, so it comes to an end
    exactly if all of them are. -/
theorem skills_are_documents {provider : Provider σ} {limit : Nat} {info : RoleInfo}
    {document : Document} {world after : σ} {role : ComposedRole}
    (composed : (composeRole provider limit info document).run world = (.ok role, after)) :
    (∀ skill ∈ role.skills, ∃ start final text,
      (inlineAt provider limit 0 (Reference.plain skill.key.protocol skill.key.id)).run start =
        (.ok (.content text), final) ∧
      callsAt provider limit 0 (Reference.plain skill.key.protocol skill.key.id) start <:+:
        roleCalls provider limit info document world ∧
      skill.content = Text.trim text ∧
      (Clean (callsAt provider limit 0
          (Reference.plain skill.key.protocol skill.key.id) start) →
        ∃ read, Document.parse skill.content = .ok read)) ∧
    ∀ maxLabelChars,
      ((∃ drawn, Flow.draw maxLabelChars role.skills = .ok drawn) ↔
        ∀ skill ∈ Flow.executions role.skills, ∃ read, Document.parse skill.content = .ok read) ∧
      ∀ drawn, Flow.draw maxLabelChars role.skills = .ok drawn →
        Flow.drawOrNothing maxLabelChars role.skills = drawn ∧
        ∀ index skill, (Flow.executions role.skills)[index]? = some skill →
          ∃ text, Flow.instructions skill.content = .ok text ∧
            (Flow.stepsOf maxLabelChars text ≠ [] →
              Flow.Procedure.render
                ⟨index + 1, skill.key, Flow.stepsOf maxLabelChars text⟩ <:+: drawn) := by
  constructor
  · intro skill member
    obtain ⟨text, content, start, final, ran, among⟩ := calls_of_skill composed skill member
    refine ⟨start, final, text, ran, among, content, ?_⟩
    intro clean
    obtain ⟨_, neutral⟩ := fit_within _ _ start final _ ran clean
    rw [content]
    exact neutral.parses
  · intro maxLabelChars
    refine ⟨Flow.draw_iff_documents maxLabelChars role.skills, ?_⟩
    intro drawn ran
    refine ⟨by rw [Flow.drawOrNothing, ran], ?_⟩
    exact fun index skill found => Flow.chain_of_draw ran found

/-- The document of a role with two executions. -/
def twoExecutions : Document :=
  ⟨"<personality>@execution://a @execution://c</personality>".toList,
    [⟨"personality".toList, 13, 42⟩]⟩

/-- The composition of that role from a library with these executions. -/
def composeTwo (files : List (Text × Text)) : Except Fault ComposedRole × Library :=
  (composeRole Library.provider 8 (RoleInfo.plain "r".toList) twoExecutions).run
    (Library.ofFiles "execution".toList files)

/-- Executions the first of which holds a document with a tag outside the vocabulary. -/
def calmFiles : List (Text × Text) :=
  [("a".toList, "<process>\n1. Read @execution://b\n</process>".toList),
    ("b".toList, "the <mood>calm</mood> guide".toList), ("c".toList, "1. Do".toList)]

/-- The texts of the first of these executions are clean, both executions are documents, and both
    are drawn. The tag outside the vocabulary has its counterpart in its own document. -/
theorem calm_procedures :
    Clean (callsAt Library.provider 8 0 (Reference.plain "execution".toList "a".toList)
        ⟨Library.ofFiles "execution".toList calmFiles, rolePass (RoleInfo.plain "r".toList)⟩) ∧
      ∃ role after, composeTwo calmFiles = (.ok role, after) ∧
        ∃ drawn, Flow.draw 48 role.skills = .ok drawn ∧
          Flow.drawOrNothing 48 role.skills = drawn ∧
          Flow.Procedure.render
            ⟨2, ⟨"execution".toList, "c".toList⟩, ["Do".toList]⟩ <:+: drawn := by
  refine ⟨⟨by decide +kernel, by decide +kernel⟩, ?_⟩
  have listed : (composeTwo calmFiles).1.toOption.map (fun role => role.skills) =
      some [⟨⟨"execution".toList, "a".toList⟩,
          "<process>\n1. Read the <mood>calm</mood> guide\n</process>".toList⟩,
        ⟨⟨"execution".toList, "c".toList⟩, "1. Do".toList⟩] := by decide +kernel
  rcases ran : composeTwo calmFiles with ⟨fault | role, after⟩
  · rw [ran] at listed
    cases listed
  · rw [ran] at listed
    have skills : role.skills = _ := Option.some.inj listed
    refine ⟨role, after, rfl, ?_⟩
    obtain ⟨_, drawing⟩ := skills_are_documents ran
    obtain ⟨exact, chains⟩ := drawing 48
    have documents : ∀ skill ∈ Flow.executions role.skills,
        ∃ read, Document.parse skill.content = .ok read := by
      intro skill member
      rw [skills] at member
      have among := (List.mem_filter.mp member).1
      simp only [List.mem_cons, List.not_mem_nil, or_false] at among
      rcases among with rfl | rfl <;> exact (parse_iff_advance _).mpr (by decide +kernel)
    obtain ⟨drawn, draws⟩ := exact.mpr documents
    obtain ⟨same, chain⟩ := chains drawn draws
    have second : (Flow.executions role.skills)[1]? =
        some ⟨⟨"execution".toList, "c".toList⟩, "1. Do".toList⟩ := by
      rw [skills]
      decide +kernel
    obtain ⟨text, instructed, inside⟩ := chain 1 _ second
    have read : (Flow.instructions "1. Do".toList).toOption = some "1. Do".toList := by
      decide +kernel
    rw [instructed] at read
    cases read
    exact ⟨drawn, draws, same, inside (by decide +kernel)⟩

/-- Executions the first of which holds a reference whose marker quotes a tag. -/
def markedFiles : List (Text × Text) :=
  [("a".toList, "1. Read\n@execution://b".toList), ("b".toList, "<thought>".toList),
    ("c".toList, "1. Do".toList)]

/-- Executions the second of which closes a tag of the first that is outside the vocabulary. -/
def matchedFiles : List (Text × Text) :=
  [("a".toList, "1. Read\n<rule><foo></rule> @execution://b".toList),
    ("b".toList, "</foo>".toList), ("c".toList, "1. Do".toList)]

/-- Executions the second of which goes on after a bracket of the first. -/
def bracketedFiles : List (Text × Text) :=
  [("a".toList, "1. Read\n<@execution://b>".toList), ("b".toList, "rule".toList),
    ("c".toList, "1. Do".toList)]

/-- What is left of the procedures once the two executions are composed: which of the skills are
    documents, whether the procedures can be drawn, and what is drawn for them. -/
def remains (files : List (Text × Text)) : Option (List (Text × Bool) × Bool × Text) :=
  (composeTwo files).1.toOption.map fun role =>
    (role.skills.map (fun skill => (skill.key.id, (Document.parse skill.content).isOk)),
      (Flow.draw 48 role.skills).isOk, Flow.drawOrNothing 48 role.skills)

/-- Three ways in which an execution that loads is no document once it is composed: the marker of a
    reference holds a tag, a tag outside the vocabulary is closed by the document that is put in, or
    a bracket goes on in it. In each of them nothing is drawn of the other execution either. -/
theorem lost_procedures :
    remains markedFiles = some ([("a".toList, false), ("c".toList, true)], false, []) ∧
      remains matchedFiles = some ([("a".toList, false), ("c".toList, true)], false, []) ∧
      remains bracketedFiles = some ([("a".toList, false), ("c".toList, true)], false, []) ∧
      Flow.stepsOf 48 "1. Do".toList = ["Do".toList] := by
  refine ⟨?_, ?_, ?_, ?_⟩ <;> decide +kernel

end Composition

end RoleWeave
