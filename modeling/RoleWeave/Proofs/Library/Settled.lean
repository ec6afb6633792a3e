import RoleWeave.Activation

/-!
# Settled libraries

Loading changes a library only by filling its registry. A library in which that is possible settles:
from the first load on it is one and the same library, which answers every reference, and the
answer depends on the reference's key alone. `load_of_settles` says what any load in a library that
settles comes to and leaves.
-/

namespace RoleWeave

namespace Registry

/-- A registry that was filled is filled again by doing nothing. Once there is an index the storage
    is not asked, so it may be another one. -/
theorem fill_again {registry filled : Registry} {storage other : Storage}
    (done : registry.fill storage = (.ok (), filled)) :
    filled.fill other = (.ok (), filled) := by
  unfold Registry.fill at done
  split at done
  · rename_i known
    cases done
    simp [Registry.fill, known]
  · split at done
    · cases done
    · split at done
      · cases done
        simp [Registry.fill]
      · cases done

/-- A registry that is ready can be filled. -/
theorem fill_ready {registry : Registry} (storage : Storage)
    (ready : registry.index.isSome = true) :
    registry.fill storage = (.ok (), { registry with phase := .ready }) := by
  simp [Registry.fill, ready]

end Registry

namespace Library

/-- A library whose registry can be filled, and the library that it is from then on. -/
def Settles (library settled : Library) : Prop :=
  fill.run library = (.ok (), settled)

/-- A library that has settled stays as it is. Settling is filling the registry, and that is done
    once. -/
theorem Settles.again {library settled : Library} (settles : Settles library settled) :
    Settles settled settled := by
  unfold Settles fill at *
  simp only [Step.run_of] at *
  rcases filled : library.registry.fill library.storage with ⟨fault | _, registry⟩
  · simp [filled] at settles
  · simp only [filled, Prod.mk.injEq, true_and] at settles
    subst settles
    have again : registry.fill library.storage = (.ok (), registry) := Registry.fill_again filled
    simp [again]

/-- A library with a ready registry settles, and its storage and its protocols stay the same. -/
theorem settles_of_ready {library : Library} (ready : library.registry.index.isSome = true) :
    Settles library { library with registry := { library.registry with phase := .ready } } := by
  unfold Settles fill
  simp [Registry.fill_ready library.storage ready]

/-- Where a settled library finds what a reference points at. -/
def place (library : Library) (reference : Reference) : Except Fault Location := do
  match ← library.table.resolver reference.protocol with
  | .catalogue defaultLocation =>
      library.resolveListed reference.protocol defaultLocation reference.resource
  | _ => library.resolveLocation reference

/-- What a settled library answers to a reference. -/
def answer (library : Library) (reference : Reference) : Except Fault Text := do
  library.readFor reference (← library.place reference)

/-- In a settled library, resolving a reference changes nothing, so where it comes to can be told
    without steps. -/
theorem run_resolve {library : Library} (settled : Settles library library)
    (reference : Reference) :
    (resolve reference).run library = (library.place reference, library) := by
  rw [resolve, Step.run_bind, Step.run_look, place]
  cases library.table.resolver reference.protocol with
  | error fault => rfl
  | ok resolver =>
    cases resolver with
    | directory shelf => rfl
    | failing fault => rfl
    | catalogue defaultLocation =>
      have filled : fill.run library = (.ok (), library) := settled
      simp only [Step.run_bind, filled, Step.run_look]
      rfl

/-- Loading from a library that settles answers from the library that it settles to. The registry is
    filled first, and from then on only questions are asked. -/
theorem load_of_settles {library settled : Library} (settles : Settles library settled)
    (reference : Reference) :
    (provider.load reference).run library = (settled.answer reference, settled) := by
  have filled : fill.run library = (.ok (), settled) := settles
  simp only [provider, load, Step.run_map, Step.run_bind, filled, run_resolve settles.again, answer]
  cases settled.place reference with
  | error fault => rfl
  | ok location =>
    simp only [Step.run_look]
    have read : (Except.ok location >>= fun location => settled.readFor reference location) =
        settled.readFor reference location := rfl
    rw [read]
    cases settled.readFor reference location <;> rfl

/-- Loading from a library that settles is finding a location and reading it. The cases are those of
    the two parts, each with its fault. -/
theorem resolved_of_settles {library settled : Library} (settles : Settles library settled)
    (reference : Reference) :
    (load reference).run library =
      match settled.place reference with
      | .error fault => (.error fault, settled)
      | .ok location =>
          match settled.readFor reference location with
          | .error fault => (.error fault, settled)
          | .ok content => (.ok ⟨reference, location, content⟩, settled) := by
  have filled : fill.run library = (.ok (), settled) := settles
  simp only [load, Step.run_bind, filled, run_resolve settles.again, Step.run_look]
  cases settled.place reference with
  | error fault => rfl
  | ok location =>
    dsimp only
    cases settled.readFor reference location <;> rfl

/-- Whatever a library is, loading from it is filling its registry and then, if that succeeds,
    answering. -/
theorem run_load (library : Library) (reference : Reference) :
    (provider.load reference).run library =
      match fill.run library with
      | (.ok _, settled) => (settled.answer reference, settled)
      | (.error fault, changed) => (.error fault, changed) := by
  rcases filled : fill.run library with ⟨fault | _, settled⟩
  · simp [provider, load, Step.run_bind, filled]
  · exact load_of_settles filled reference

/-- A library from which something was loaded settles. The content that was loaded is the answer of
    the library that is left. -/
theorem settles_of_load {library after : Library} {reference : Reference} {content : Text}
    (loaded : (provider.load reference).run library = (.ok content, after)) :
    Settles library after ∧ after.answer reference = .ok content := by
  rcases filled : fill.run library with ⟨fault | _, settled⟩
  · simp [provider, load, Step.run_bind, filled] at loaded
  · have settles : Settles library settled := filled
    rw [load_of_settles settles, Prod.mk.injEq] at loaded
    obtain ⟨answered, rfl⟩ := loaded
    exact ⟨settles, answered⟩

/-- The answer to a reference depends on its key alone. How the content is to be loaded is no
    question to the library. -/
theorem answer_key (library : Library) {first second : Reference} (same : first.key = second.key) :
    library.answer first = library.answer second := by
  obtain ⟨loading, protocol, resource⟩ := first
  obtain ⟨otherLoading, otherProtocol, otherResource⟩ := second
  simp only [Reference.key, Key.mk.injEq] at same
  obtain ⟨rfl, rfl⟩ := same
  have placed : library.place ⟨loading, protocol, resource⟩ =
      library.place ⟨otherLoading, protocol, resource⟩ := by
    simp only [place, resolveLocation]
    cases library.table.resolver protocol with
    | error fault => rfl
    | ok resolver => cases resolver <;> rfl
  simp only [answer, placed]
  rfl

/-- A ready library in which one protocol maps paths onto files. -/
def ofFiles (protocol : Text) (files : List (Text × Text)) : Library where
  storage := Storage.empty.setPack protocol ⟨Pack.defaultRoot, files⟩
  registry := { Registry.ofSources [] with index := some Index.empty, phase := .ready }
  table := Table.empty.register protocol (.directory (.pack protocol))

end Library

end RoleWeave
