import RoleWeave.Proofs.Library.Settled

/-!
# What a load asks

A load puts questions to the registry and to the shelves, one after another, and the answers decide
what is asked next. An `Inquiry` is the tree of these questions. The table alone makes it, so it
says what a load asks before anything is known about the registry and the storage.

No branch of it has more than one question of a kind: a reference that is found in the registry is
not looked up there again (`Table.within_inquire`). Going through it is loading
(`Library.run_inquire`).
-/

namespace RoleWeave

/-- What is asked in the course of a load, one question after another, and what is made of the
    answers. -/
inductive Inquiry where
  /-- Nothing is left to ask. -/
  | answer (outcome : Except Fault Resolved)
  /-- An id is looked up in the registry. -/
  | entry (protocol id : Text) (next : Option Descriptor → Inquiry)
  /-- A path is looked for on a shelf. -/
  | location (protocol : Text) (shelf : Shelf) (path : Text)
      (next : Except Fault Location → Inquiry)
  /-- A location is read. -/
  | content (found : Location) (next : Except Fault Text → Inquiry)

namespace Inquiry

/-- Ask a library. -/
def run (library : Library) : Inquiry → Except Fault Resolved
  | .answer outcome => outcome
  | .entry protocol id next => (next (library.registry.known.find? protocol id)).run library
  | .location protocol shelf path next =>
      (next (Library.findOnShelf library.storage protocol shelf path)).run library
  | .content found next => (next (library.storage.read found.shelf found.path)).run library

/-- Whatever the answers are, the registry is asked at most `entries` times, shelves are asked for a
    location at most `locations` times, and at most `contents` locations are read. -/
def Within : (entries locations contents : Nat) → Inquiry → Prop
  | _, _, _, .answer _ => True
  | entries, locations, contents, .entry _ _ next =>
      0 < entries ∧ ∀ found, (next found).Within (entries - 1) locations contents
  | entries, locations, contents, .location _ _ _ next =>
      0 < locations ∧ ∀ found, (next found).Within entries (locations - 1) contents
  | entries, locations, contents, .content _ next =>
      0 < contents ∧ ∀ found, (next found).Within entries locations (contents - 1)

end Inquiry

namespace Table

/-- What is asked to load a reference by way of another one that has to lead to a directory. -/
def inquireLocation (table : Table) (reference target : Reference) : Inquiry :=
  match table.resolver target.protocol with
  | .error fault => .answer (.error fault)
  | .ok (.failing fault) => .answer (.error fault)
  | .ok (.catalogue _) =>
      .answer (.error (.invalidReference
        (target.render ++ " does not point at a storage location".toList)))
  | .ok (.directory shelf) =>
      .location target.protocol shelf target.resource (fun
        | .error fault => .answer (.error fault)
        | .ok found => .content found (fun
            | .error (.io .missing _) =>
                .answer (.error (.resourceNotFound reference.protocol reference.resource))
            | .error fault => .answer (.error fault)
            | .ok content => .answer (.ok ⟨reference, found, content⟩)))

/-- What is asked to load a reference. -/
def inquire (table : Table) (reference : Reference) : Inquiry :=
  match table.resolver reference.protocol with
  | .ok (.catalogue defaultLocation) =>
      .entry reference.protocol reference.resource (fun
        | none => .answer (.error (.resourceNotFound reference.protocol reference.resource))
        | some descriptor =>
            match Library.target reference.protocol defaultLocation descriptor.reference with
            | .error fault => .answer (.error fault)
            | .ok target => table.inquireLocation reference target)
  | _ => table.inquireLocation reference reference

/-- A location is looked for at most once, and read at most once. Every branch of the questions ends
    there. -/
theorem within_inquireLocation (table : Table) (reference target : Reference) (entries : Nat) :
    (table.inquireLocation reference target).Within entries 1 1 := by
  unfold inquireLocation
  split
  · trivial
  · trivial
  · trivial
  · refine ⟨Nat.one_pos, ?_⟩
    rintro (fault | found)
    · trivial
    · refine ⟨Nat.one_pos, ?_⟩
      intro outcome
      dsimp only
      split <;> trivial

/-- Nothing is asked more than once. The registry is asked first, if at all, and what is found there
    is resolved by questions that do not ask it again. -/
theorem within_inquire (table : Table) (reference : Reference) :
    (table.inquire reference).Within 1 1 1 := by
  unfold inquire
  split
  · refine ⟨Nat.one_pos, ?_⟩
    rintro (_ | descriptor)
    · trivial
    · dsimp only
      split
      · trivial
      · exact table.within_inquireLocation reference _ _
  · exact table.within_inquireLocation reference reference 1

end Table

namespace Library

/-- What a settled library makes of a reference. -/
def outcome (library : Library) (reference : Reference) : Except Fault Resolved := do
  let location ← library.place reference
  let content ← library.readFor reference location
  return ⟨reference, location, content⟩

/-- Loading from a library that settles comes to the outcome, and it leaves the library to which it
    settles. -/
theorem load_eq_outcome {library settled : Library} (settles : Settles library settled)
    (reference : Reference) :
    (load reference).run library = (settled.outcome reference, settled) := by
  rw [resolved_of_settles settles, outcome]
  cases settled.place reference with
  | error fault => rfl
  | ok location =>
    dsimp only
    cases read : settled.readFor reference location <;>
      simp [read, bind, Except.bind, pure, Except.pure]

/-- The outcome by way of a reference that has to lead to a directory. The cases of the questions
    are those of resolving and reading, made in the same order, so that in each case both sides are
    the same. -/
theorem run_inquireLocation (library : Library) (reference target : Reference) :
    (library.table.inquireLocation reference target).run library = (do
      let location ← library.resolveLocation target
      let content ← library.readFor reference location
      return ⟨reference, location, content⟩) := by
  unfold Table.inquireLocation resolveLocation
  cases library.table.resolver target.protocol with
  | error fault => rfl
  | ok resolver =>
    cases resolver with
    | failing fault => rfl
    | catalogue defaultLocation => rfl
    | directory shelf =>
      simp only [Inquiry.run, bind, Except.bind]
      cases findOnShelf library.storage target.protocol shelf target.resource with
      | error fault => rfl
      | ok found =>
        simp only [Inquiry.run, readFor]
        cases library.storage.read found.shelf found.path with
        | ok content => rfl
        | error fault =>
          cases fault with
          | io kind reason => cases kind <;> rfl
          | _ => rfl

/-- The outcome is what comes of asking. A reference to a catalogue is looked up, and what is found
    is inquired as a reference that has to lead to a directory; any other is inquired so itself. -/
theorem run_inquire (library : Library) (reference : Reference) :
    (library.table.inquire reference).run library = library.outcome reference := by
  unfold Table.inquire outcome place
  have direct := library.run_inquireLocation reference reference
  cases known : library.table.resolver reference.protocol with
  | error fault =>
    simp only [direct, resolveLocation, known]
    rfl
  | ok resolver =>
    cases resolver with
    | directory shelf => exact direct
    | failing fault => exact direct
    | catalogue defaultLocation =>
      simp only [Inquiry.run, resolveListed, bind, Except.bind]
      cases library.registry.known.find? reference.protocol reference.resource with
      | none => rfl
      | some descriptor =>
        dsimp only
        cases target reference.protocol defaultLocation descriptor.reference with
        | error fault => rfl
        | ok target => exact library.run_inquireLocation reference target

end Library

end RoleWeave
