import RoleWeave.Fault
import RoleWeave.Reference.Name
import RoleWeave.Text.Character

/-!
# References

A reference points at a resource: a protocol, `://`, and the resource's id or path under that
protocol. A marker in front of it says how the resource is to be loaded. The marker is not part
of the resource's identity, which is its `Key`.

`Reference.render` writes a reference and `Reference.parse` reads one that is a whole text.
-/

namespace RoleWeave

/-- How a referenced resource is to be loaded. -/
inductive Loading where
  /-- The content takes the place of the reference. -/
  | standard
  /-- As `standard`, and as early as possible. -/
  | eager
  /-- The reference stays as a pointer. -/
  | lazy
deriving DecidableEq, Repr, Inhabited

namespace Loading

/-- The written marker. -/
def marker : Loading → Text
  | standard => ['@']
  | eager => ['@', '!']
  | lazy => ['@', '?']

/-- Whether the content takes the place of the reference. -/
def inlines : Loading → Bool
  | lazy => false
  | _ => true

/-- Read what follows the sign `@`: the loading it announces and the rest. -/
def ofSign : Text → Loading × Text
  | '!' :: rest => (eager, rest)
  | '?' :: rest => (lazy, rest)
  | rest => (standard, rest)

end Loading

/-- The identity of a resource, by which it is loaded at most once. -/
structure Key where
  protocol : Text
  id : Text
deriving DecidableEq, Repr, Inhabited

/-- What stands between a protocol and what it is asked for. -/
def Key.separator : Text := "://".toList

/-- A key as text. -/
def Key.render (key : Key) : Text :=
  key.protocol ++ Key.separator ++ key.id

/-- A pointer to a resource. -/
structure Reference where
  loading : Loading
  protocol : Text
  resource : Text
deriving DecidableEq, Repr, Inhabited

namespace Reference

/-- A reference with the plain marker. -/
def plain (protocol resource : Text) : Reference :=
  ⟨.standard, protocol, resource⟩

/-- The identity of the resource that is pointed at. -/
def key (reference : Reference) : Key :=
  ⟨reference.protocol, reference.resource⟩

/-- A reference as text, always with its marker. -/
def render (reference : Reference) : Text :=
  reference.loading.marker ++ reference.key.render

/-- Read the protocol, the separator and all that follows it. -/
def body? (loading : Loading) (text : Text) : Option Reference := do
  let (protocol, rest) ← Name.take? text
  let resource ← Text.after? Key.separator rest
  if resource.isEmpty then none else some ⟨loading, protocol, resource⟩

/-- Read a text that begins with the sign `@` as a reference that runs to its end. -/
def marked? : Text → Option Reference
  | '@' :: rest => body? (Loading.ofSign rest).1 (Loading.ofSign rest).2
  | _ => none

/-- Read a whole text as a reference. The marker may be left out, blanks may not occur. -/
def read? (text : Text) : Option Reference := do
  let reference ← match text with
    | '@' :: _ => marked? text
    | _ => body? .standard text
  if reference.resource.any Text.isBlank then none else some reference

/-- Read a text as a reference, apart from the blanks around it. -/
def parse (text : Text) : Except Fault Reference :=
  let bare := Text.trim text
  match read? bare with
  | some reference => .ok reference
  | none => .error (.invalidReference bare)

/-- Only the resource part of a text is left to its form: a reference that is read has a name
    as its protocol and a resource that is not empty. -/
theorem wellFormed_of_body? {loading : Loading} {text : Text} {reference : Reference}
    (found : body? loading text = some reference) :
    reference.loading = loading ∧ Name.accepts reference.protocol = true ∧
      reference.resource ≠ [] ∧ text = reference.key.render := by
  unfold body? at found
  cases taken : Name.take? text with
  | none => simp [taken] at found
  | some parts =>
    obtain ⟨protocol, rest⟩ := parts
    cases cut : Text.after? Key.separator rest with
    | none => simp [taken, cut] at found
    | some resource =>
      simp only [taken, cut, Option.bind_eq_bind, Option.bind_some] at found
      by_cases bare : resource.isEmpty = true
      · simp [bare] at found
      · simp only [bare, Bool.false_eq_true, if_false, Option.some.injEq] at found
        subst found
        refine ⟨rfl, Name.accepts_of_take? taken, by simpa using bare, ?_⟩
        rw [Name.append_of_take? taken, Text.eq_append_of_after? cut]
        simp [key, Key.render]

end Reference

end RoleWeave
