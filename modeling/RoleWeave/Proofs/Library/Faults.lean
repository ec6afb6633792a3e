import RoleWeave.Proofs.Library.Settled
import RoleWeave.Settings.Wiring

/-!
# Faults of the library

The library answers a reference with one of four kinds of fault, all of which belong to the reference
alone: an unknown protocol, an unknown resource, a reference or path that is not well formed, or a
store that cannot be read. The one exception is a protocol that never answers and was given any
other fault to say so; a library whose protocols are all directories or catalogues is `Located`.

In particular no fault with which the library answers is about depth, unless it was given to such a
protocol; a library without such protocols is `Depthless`. While its registry cannot be filled, a
library fails with the fault of that instead, which belongs to no reference.
-/

namespace RoleWeave

/-- Whether the cause of a fault is the limit on depth. -/
def Fault.aboutDepth : Fault → Bool
  | .depthExceeded _ => true
  | .unresolved _ cause => cause.aboutDepth
  | _ => false

/-- Attaching a fault to a reference does not change what it is about. -/
theorem Fault.aboutDepth_attach (reference : Text) (fault : Fault) :
    (fault.attach reference).aboutDepth = fault.aboutDepth := by
  cases fault <;> rfl

/-- Whether a fault is attached to a reference. -/
def Fault.isAttached : Fault → Bool
  | .unresolved _ _ => true
  | _ => false

/-- Whether a fault is one with which a library answers of its own accord. -/
def Fault.isOrdinary : Fault → Bool
  | .protocolNotFound _ => true
  | .resourceNotFound _ _ => true
  | .invalidReference _ => true
  | .io _ _ => true
  | _ => false

/-- Such a fault belongs to a single reference, is not attached to one yet and is not about depth. -/
theorem Fault.of_isOrdinary {fault : Fault} (ordinary : fault.isOrdinary = true) :
    fault.isLocal = true ∧ fault.isAttached = false ∧ fault.aboutDepth = false := by
  cases fault <;> first | exact ⟨rfl, rfl, rfl⟩ | cases ordinary

/-- An outcome that fails with no fault but these. -/
def FailsWithin {α : Type} (allowed : Fault → Prop) (outcome : Except Fault α) : Prop :=
  ∀ fault, outcome = .error fault → allowed fault

namespace FailsWithin

variable {α β : Type} {allowed : Fault → Prop}

/-- An outcome that is a value does not fail. -/
theorem ok (value : α) : FailsWithin allowed (.ok value) := by
  intro fault same
  cases same

/-- An outcome that is one of the allowed faults fails with an allowed fault. -/
theorem error {fault : Fault} (inside : allowed fault) :
    FailsWithin allowed (.error fault : Except Fault α) := by
  intro found same
  cases same
  exact inside

/-- A sequence fails as its parts do. Of the second part only what follows a value of the first has
    to be looked at. -/
theorem bind {first : Except Fault α} {second : α → Except Fault β}
    (before : FailsWithin allowed first)
    (after : ∀ value, first = .ok value → FailsWithin allowed (second value)) :
    FailsWithin allowed (first >>= second) := by
  cases first with
  | error fault => exact .error (before fault rfl)
  | ok value => exact after value rfl

/-- More faults may be allowed. -/
theorem mono {outcome : Except Fault α} {more : Fault → Prop}
    (within : FailsWithin allowed outcome) (wider : ∀ fault, allowed fault → more fault) :
    FailsWithin more outcome :=
  fun fault same => wider fault (within fault same)

end FailsWithin

/-- A sequence that comes to a value is one in which both parts do. -/
theorem ok_of_bind {α β : Type} {first : Except Fault α} {second : α → Except Fault β} {value : β}
    (ended : (first >>= second) = .ok value) :
    ∃ middle, first = .ok middle ∧ second middle = .ok value := by
  cases first with
  | error fault => cases ended
  | ok middle => exact ⟨middle, rfl, ended⟩

/-- An outcome that is no fault about depth. -/
abbrev Shallow {α : Type} (outcome : Except Fault α) : Prop :=
  FailsWithin (fun fault => fault.aboutDepth = false) outcome

/-- An outcome that fails with an ordinary fault only. -/
abbrev Ordinary {α : Type} (outcome : Except Fault α) : Prop :=
  FailsWithin (fun fault => fault.isOrdinary = true) outcome

namespace Disk

/-- Following a path on the disk fails in an ordinary way: something is missing, is no folder, has
    too long a name or is no file where one is asked for. By induction on the steps that are
    left. -/
theorem ordinary_follow (disk : Disk) (place steps : List Text) :
    Ordinary (disk.follow place steps) := by
  induction steps generalizing place with
  | nil =>
    rw [follow]
    split
    · exact .ok _
    · exact .error rfl
  | cons step later ih =>
    rw [follow]
    split
    · exact .error rfl
    · exact .error rfl
    · split
      · exact ih place
      · split
        · exact ih place.dropLast
        · split
          · exact .error rfl
          · exact ih (place ++ [step])

/-- Finding a path below a root fails in an ordinary way. Paths that the system does not take at all
    are faults of the store as well. -/
theorem ordinary_find (disk : Disk) (root path : Text) : Ordinary (disk.find root path) := by
  unfold find
  dsimp only
  split
  · exact .error rfl
  · split
    · exact .error rfl
    · exact ordinary_follow disk [] _

/-- Reading a file of the disk fails in an ordinary way, also if there is a folder in its place or
    if it is not a text. -/
theorem ordinary_read (disk : Disk) (root path : Text) : Ordinary (disk.read root path) := by
  apply (ordinary_find disk root path).bind
  intro found _
  split
  · exact .error rfl
  · split
    · exact .ok _
    · exact .error rfl

/-- Asking whether the disk has something at a path fails in an ordinary way. That nothing is there
    is an answer and no fault. -/
theorem ordinary_holds (disk : Disk) (root path : Text) : Ordinary (disk.holds root path) := by
  have found := ordinary_find disk root path
  unfold holds
  split
  · exact .ok _
  · exact .ok _
  · rename_i fault _ same
    exact .error (found fault same)

end Disk

namespace Storage

/-- Reading a document of a shelf fails in an ordinary way, on the disk and in memory. A pack has
    one fault for it, which is that the document is missing. -/
theorem ordinary_read (storage : Storage) (shelf : Shelf) (path : Text) :
    Ordinary (storage.read shelf path) := by
  cases shelf with
  | pack name =>
    rw [read, Pack.read]
    split
    · exact .ok _
    · exact .error rfl
  | folder root => exact Disk.ordinary_read storage.disk root path

/-- Asking whether a shelf has something at a path fails in an ordinary way. In memory it never
    fails. -/
theorem ordinary_holds (storage : Storage) (shelf : Shelf) (path : Text) :
    Ordinary (storage.holds shelf path) := by
  cases shelf with
  | pack name => exact .ok _
  | folder root => exact Disk.ordinary_holds storage.disk root path

end Storage

/-- A path that is not admitted is refused in an ordinary way, as a reference that is not well
    formed. -/
theorem Path.ordinary_normalize (path : Text) : Ordinary (Path.normalize path) := by
  unfold Path.normalize
  split
  · exact .error rfl
  · split
    · exact .error rfl
    · exact .ok _

namespace Registry

/-- A registry that cannot be filled says so, or that another caller is filling it.

    Proof: the sources are asked one after the other, and the first that fails gives the fault,
    which is said to be one of the bootstrap whatever it was. Apart from that a registry that is not
    filled yet can only be occupied. -/
theorem fails_fill (registry : Registry) (storage : Storage) :
    FailsWithin (fun fault => (∃ reason, fault = .initialization reason) ∨ fault = occupied)
      (registry.fill storage).1 := by
  have gathered : ∀ (sources : List Source) (index : Index) (position : Nat) (calls : List Nat),
      FailsWithin (fun fault => ∃ reason, fault = .initialization reason)
        (Bootstrap.gather storage index position sources calls).1 := by
    intro sources
    induction sources with
    | nil => exact fun index position calls => .ok index
    | cons source later ih =>
      intro index position calls
      rw [Bootstrap.gather]
      split
      · exact .error (Bootstrap.sourceFault_initialization source.name _)
      · exact ih _ _ _
  unfold fill
  split
  · exact .ok ()
  · split
    · exact .error (.inr rfl)
    · have reported := gathered registry.sources Index.empty 0 registry.calls
      split
      · exact .ok ()
      · rename_i fault calls failed
        rw [failed] at reported
        exact .error (.inl (reported fault rfl))

end Registry

namespace Library

/-- No protocol of the library answers with a fault about depth whatever it is asked. -/
def Depthless (library : Library) : Prop :=
  ∀ name fault, library.table.resolver name = .ok (.failing fault) → fault.aboutDepth = false

/-- Every protocol of the library is a directory or a catalogue. -/
def Located (library : Library) : Prop :=
  ∀ name fault, library.table.resolver name ≠ .ok (.failing fault)

/-- A library from settings has directories for its roots and catalogues beside them, so it only
    fails in an ordinary way. What is said of `Located` libraries holds for every library that is
    made so. -/
theorem located_ofSettings {settings : Settings} {storage : Storage} {library : Library}
    (built : ofSettings settings storage = .ok library) : library.Located := by
  intro name fault failing
  rw [resolver_ofSettings built] at failing
  split at failing
  · cases failing
  · split at failing
    · cases failing
    · cases failing

/-- The faults with which a library may answer: the ordinary ones, and those that were given to its
    protocols. -/
def Answers (library : Library) (fault : Fault) : Prop :=
  fault.isOrdinary = true ∨ ∃ name, library.table.resolver name = .ok (.failing fault)

/-- An ordinary fault is one with which any library may answer. -/
theorem answers_of_ordinary (library : Library) {α : Type} {outcome : Except Fault α}
    (ordinary : Ordinary outcome) : FailsWithin library.Answers outcome :=
  fun fault same => .inl (ordinary fault same)

/-- Looking for a path on a shelf fails in an ordinary way: the path is not admitted, the shelf
    cannot be asked, or there is nothing. -/
theorem ordinary_findOnShelf (storage : Storage) (protocol : Text) (shelf : Shelf) (path : Text) :
    Ordinary (findOnShelf storage protocol shelf path) := by
  apply (Path.ordinary_normalize path).bind
  intro normalized _
  split
  · exact .error rfl
  · apply (Storage.ordinary_holds storage shelf normalized).bind
    intro held _
    split
    · exact .ok _
    · exact .error rfl

/-- The reference of a descriptor is refused in an ordinary way, because it is empty or cannot be
    read. -/
theorem ordinary_target (protocol defaultLocation reference : Text) :
    Ordinary (target protocol defaultLocation reference) := by
  unfold target
  dsimp only
  split
  · unfold Reference.parse
    dsimp only
    split
    · exact .ok _
    · exact .error rfl
  · split
    · exact .error rfl
    · exact .ok _

/-- That a protocol is not registered is an ordinary fault. -/
theorem ordinary_resolver (library : Library) (protocol : Text) :
    Ordinary (library.table.resolver protocol) := by
  unfold Table.resolver
  split
  · exact .ok _
  · exact .error rfl

/-- Resolving a reference to a location fails with a fault with which the library may answer. A
    protocol that never answers gives the fault that it was given. -/
theorem fails_resolveLocation (library : Library) (reference : Reference) :
    FailsWithin library.Answers (library.resolveLocation reference) := by
  apply (library.answers_of_ordinary (ordinary_resolver library reference.protocol)).bind
  intro resolver known
  cases resolver with
  | directory shelf => exact library.answers_of_ordinary (ordinary_findOnShelf _ _ _ _)
  | failing fault => exact .error (.inr ⟨reference.protocol, known⟩)
  | catalogue defaultLocation => exact .error (.inl rfl)

/-- Looking an id up and resolving what is found fails with a fault with which the library may
    answer. An id that is not listed is an unknown resource. -/
theorem fails_resolveListed (library : Library) (protocol defaultLocation id : Text) :
    FailsWithin library.Answers (library.resolveListed protocol defaultLocation id) := by
  unfold resolveListed
  split
  · exact .error (.inl rfl)
  · apply (library.answers_of_ordinary (ordinary_target _ _ _)).bind
    exact fun reference _ => fails_resolveLocation library reference

/-- A settled library answers with an ordinary fault, or with one of those given to its protocols.
    Placing the reference and reading what is placed each fail like this; that a document is missing
    is said as an unknown resource. -/
theorem fails_answer (library : Library) (reference : Reference) :
    FailsWithin library.Answers (library.answer reference) := by
  have placed : FailsWithin library.Answers (library.place reference) := by
    apply (library.answers_of_ordinary (ordinary_resolver library reference.protocol)).bind
    intro resolver _
    split
    · exact fails_resolveListed library _ _ _
    · exact fails_resolveLocation library reference
  apply placed.bind
  intro location _
  have read := Storage.ordinary_read library.storage location.shelf location.path
  unfold readFor
  split
  · exact .error (.inl rfl)
  · exact library.answers_of_ordinary read

/-- No answer of a library without such protocols is about depth: ordinary faults are not, and the
    faults that were given to its protocols are not either. -/
theorem shallow_answer {library : Library} (depthless : library.Depthless)
    (reference : Reference) : Shallow (library.answer reference) := by
  intro fault same
  obtain ordinary | ⟨name, known⟩ := fails_answer library reference fault same
  · exact (Fault.of_isOrdinary ordinary).2.2
  · exact depthless name fault known

/-- The answers of a library with directories and catalogues only fail in an ordinary way, since no
    protocol was given a fault. -/
theorem Located.ordinary_answer {library : Library} (located : library.Located)
    (reference : Reference) : Ordinary (library.answer reference) := by
  intro fault same
  obtain ordinary | ⟨name, known⟩ := fails_answer library reference fault same
  · exact ordinary
  · exact absurd known (located name fault)

/-- Filling the registry leaves the storage and the protocols as they are. -/
theorem unchanged_by_fill (library : Library) :
    (fill.run library).2.storage = library.storage ∧
      (fill.run library).2.table = library.table :=
  ⟨rfl, rfl⟩

/-- A load from a library with directories and catalogues only fails with no fault that is attached
    to a reference. Filling the registry gives a fault of the bootstrap or the one of an occupied
    registry, and leaves the protocols as they are; what comes after it fails in an ordinary way. -/
theorem Located.unattached_load {library : Library} (located : library.Located)
    (reference : Reference) :
    FailsWithin (fun fault => fault.isAttached = false)
      ((provider.load reference).run library).1 := by
  rw [run_load]
  have filled := Registry.fails_fill library.registry library.storage
  have same := (unchanged_by_fill library).2
  rcases ran : fill.run library with ⟨fault | _, changed⟩
  · have failed : (library.registry.fill library.storage).1 = .error fault :=
      congrArg Prod.fst ran
    rcases filled fault failed with ⟨reason, rfl⟩ | rfl <;> exact .error rfl
  · rw [ran] at same
    have locatedToo : changed.Located := by
      unfold Located
      rw [same]
      exact located
    exact (locatedToo.ordinary_answer reference).mono
      (fun fault ordinary => (Fault.of_isOrdinary ordinary).2.1)

end Library

end RoleWeave
