import Mathlib.Data.List.Induction
import RoleWeave.Proofs.Library.Inquiry
import RoleWeave.Proofs.Library.Rooted
import RoleWeave.Proofs.Storage.Walked

/-!
# One hop, and how it ends

A reference to a directory is looked for there. A reference to a catalogue is looked up in the
registry, and what is found there has to lead to a directory: it is not looked up again.

In a library of packs and catalogues, loading ends in one of nine ways, which `Ends` lists. The
three kinds of fault are told apart by it: a protocol is unknown, a reference or a path cannot be
used, or there is nothing there. A store that fails to find something is never shown as such.
-/

namespace RoleWeave

namespace Table

/-- The table after registrations one after another. -/
def ofRegistrations (registrations : List (Text × Resolver)) : Table :=
  registrations.foldl (fun table made => table.register made.1 made.2) empty

/-- A table holds under each name what was registered last. By induction on the registrations, the
    last one first: it concerns its own name, and under the others the table holds what it held
    before. -/
theorem lookup_ofRegistrations (registrations : List (Text × Resolver)) (protocol : Text) :
    (ofRegistrations registrations).resolvers.lookup protocol =
      registrations.reverse.lookup protocol := by
  induction registrations using List.reverseRec with
  | nil => rfl
  | append_singleton before made ih =>
    have last : ofRegistrations (before ++ [made]) =
        (ofRegistrations before).register made.1 made.2 := by
      simp [ofRegistrations]
    rw [last, lookup_register, ih, List.reverse_append, List.reverse_singleton,
      List.singleton_append, List.lookup_cons]
    by_cases same : protocol = made.1
    · simp [same]
    · have apart : (protocol == made.1) = false := by simpa using same
      simp [same, apart]

/-- A name that no resolver was registered under is not found, and that is all that can go wrong.
    The fault names the protocol that was looked up. -/
theorem resolver_eq_error_iff {table : Table} {protocol : Text} {fault : Fault} :
    table.resolver protocol = .error fault ↔
      table.holds protocol = false ∧ fault = .protocolNotFound protocol := by
  unfold resolver holds
  cases table.resolvers.lookup protocol with
  | some found => simp
  | none => simpa using eq_comm

end Table

/-- Whether a resolver looks for paths in a pack, or for ids in the registry. -/
def Resolver.KeepsToPacks : Resolver → Prop
  | .directory (.pack _) => True
  | .directory (.folder _) => False
  | .catalogue _ => True
  | .failing _ => False

namespace Path

/-- What is wrong with a path that is not admitted: it begins with a slash or a backslash, holds a
    colon, or climbs. -/
def Unsafe (path : Text) : Prop :=
  path.head? = some '/' ∨ path.head? = some '\\' ∨ ':' ∈ path ∨
    "..".toList ∈ path.splitOnP (fun c => c == '/' || c == '\\')

/-- Such a path is refused, and no other. The segments of the path are those between its slashes of
    either kind, so that a segment of two dots is what makes a relative path climb. -/
theorem normalize_cases (path : Text) :
    (Unsafe path ∧ ∃ reason, normalize path = .error (.invalidReference reason)) ∨
      ¬ Unsafe path ∧ ∃ normalized, normalize path = .ok normalized := by
  have cuts : segments path = path.splitOnP (fun c => c == '/' || c == '\\') :=
    Text.split_eq_splitOnP isSlash path
  have absolute : isAbsolute path = true ↔
      path.head? = some '/' ∨ path.head? = some '\\' ∨ ':' ∈ path := by
    cases path with
    | nil => simp [isAbsolute]
    | cons c rest => simp [isAbsolute, isSlash, or_assoc]
  have climbs : (segments path).contains parent = true ↔
      "..".toList ∈ path.splitOnP (fun c => c == '/' || c == '\\') := by
    rw [List.contains_iff_mem, cuts]
    rfl
  unfold normalize Unsafe
  rw [← or_assoc, ← or_assoc, or_assoc (a := path.head? = some '/'), ← absolute, ← climbs]
  split
  · rename_i rooted
    exact .inl ⟨.inl rooted, _, rfl⟩
  · rename_i relative
    split
    · rename_i climbing
      exact .inl ⟨.inr climbing, _, rfl⟩
    · rename_i stays
      exact .inr ⟨not_or.mpr ⟨relative, stays⟩, _, rfl⟩

/-- A path in normal form has no slash at its ends. A slash at the end would make an empty segment,
    which moves nowhere. -/
theorem Proper.trimmed {path : Text} (proper : Proper path) : Trimmed path := by
  refine ⟨proper.relative, ?_⟩
  intro last
  obtain ⟨front, rfl⟩ := List.getLast?_eq_some_iff.mp last
  have empty : [] ∈ (front ++ ['/']).splitOn '/' := by
    rw [List.splitOn_eq_splitOnP, List.splitOnP_append_cons front [] (by simp)]
    simp
  rcases proper.named with nothing | named
  · simp at nothing
  · exact (named [] empty).1 rfl

end Path

namespace Library

section Written

variable {protocol defaultLocation written : Text}

/-- Apart from the blanks around it, a text holds nothing but characters of a marker. -/
def SaysNothing (written : Text) : Prop :=
  ∀ c ∈ Text.trim written, isMarker c = true

/-- A text that names a protocol, and cannot be read as a reference. -/
def Malformed (written : Text) : Prop :=
  Key.separator <:+: Text.trim written ∧ ∀ target, Reference.parse written ≠ .ok target

/-- What the reference of a descriptor points at: the reference that is written, or without a
    protocol the path that is left without the marker, in the default location. -/
inductive Points (defaultLocation written : Text) : Reference → Prop where
  | url {target : Reference} (separated : Key.separator <:+: Text.trim written)
      (read : Reference.parse written = .ok target) : Points defaultLocation written target
  | path (bare : ¬ Key.separator <:+: Text.trim written)
      (nonempty : Text.trimStart isMarker (Text.trim written) ≠ []) :
      Points defaultLocation written
        (Reference.plain defaultLocation (Text.trimStart isMarker (Text.trim written)))

/-- A text that says nothing names no protocol. -/
theorem SaysNothing.bare (nothing : SaysNothing written) :
    ¬ Key.separator <:+: Text.trim written := by
  intro separated
  have colon : ':' ∈ Text.trim written := separated.subset (by decide)
  exact absurd (nothing ':' colon) (by decide)

/-- Nothing is left of a text without the marker exactly if it says nothing. The marker is the
    longest run of its characters, so all characters have to belong to it. -/
theorem saysNothing_iff :
    SaysNothing written ↔ Text.trimStart isMarker (Text.trim written) = [] := by
  rw [Text.trimStart, List.dropWhile_eq_nil_iff]
  rfl

/-- Reading a reference does not depend on the blanks around it. -/
theorem parse_trim (text : Text) : Reference.parse (Text.trim text) = Reference.parse text := by
  rw [Reference.parse, Reference.parse, Text.trim_trim]

/-- The reference of a descriptor points at something, or is refused because it says nothing or is
    malformed.

    Proof: a text with a separator is read as a reference, which succeeds or does not. Any other is
    a path, and it is refused only if nothing is left of it without its marker. -/
theorem target_cases (protocol defaultLocation written : Text) :
    (∃ found, target protocol defaultLocation written = .ok found ∧
      Points defaultLocation written found) ∨
    (∃ reason, target protocol defaultLocation written = .error (.invalidReference reason)) ∧
      (SaysNothing written ∨ Malformed written) := by
  by_cases separated : Key.separator <:+: Text.trim written
  · have read : target protocol defaultLocation written = Reference.parse written := by
      rw [← parse_trim written, target]
      exact if_pos (Text.holds_iff.mpr separated)
    rw [read]
    cases parsed : Reference.parse written with
    | ok found => exact .inl ⟨found, rfl, .url separated parsed⟩
    | error fault =>
      refine .inr ⟨?_, .inr ⟨separated, by simp [parsed]⟩⟩
      unfold Reference.parse at parsed
      dsimp only at parsed
      split at parsed
      · cases parsed
      · cases parsed
        exact ⟨_, rfl⟩
  · have bare : ¬ Text.holds (Text.trim written) Key.separator = true :=
      fun held => separated (Text.holds_iff.mp held)
    unfold target
    dsimp only
    rw [if_neg bare]
    by_cases nothing : Text.trimStart isMarker (Text.trim written) = []
    · refine .inr ⟨⟨_, if_pos (by simp [nothing])⟩, .inl (saysNothing_iff.mpr nothing)⟩
    · exact .inl ⟨_, if_neg (by simpa using nothing), .path separated nothing⟩

/-- A text points at one reference at most, and only if there is something wrong with it at none. So
    what it points at can be put in the place of what it leads to. -/
theorem target_of_points {found : Reference} (points : Points defaultLocation written found) :
    target protocol defaultLocation written = .ok found := by
  cases points with
  | url separated read =>
    rw [← read, ← parse_trim written, target]
    exact if_pos (Text.holds_iff.mpr separated)
  | path bare nonempty =>
    unfold target
    dsimp only
    rw [if_neg (fun held => bare (Text.holds_iff.mp held)), if_neg (by simpa using nonempty)]

/-- A text that leads to a reference points at it. It is not refused, and what it points at is
    unique. -/
theorem points_of_target {found : Reference}
    (leads : target protocol defaultLocation written = .ok found) :
    Points defaultLocation written found := by
  rcases target_cases protocol defaultLocation written with
    ⟨other, same, points⟩ | ⟨⟨reason, refused⟩, _⟩
  · rw [leads] at same
    cases same
    exact points
  · rw [leads] at refused
    cases refused

/-- A text that says nothing or is malformed is refused. It points at nothing: a text that says
    nothing has no separator and leaves no path, and a malformed one has a separator and cannot be
    read. -/
theorem target_of_unreadable (unreadable : SaysNothing written ∨ Malformed written) :
    ∃ reason, target protocol defaultLocation written = .error (.invalidReference reason) := by
  rcases target_cases protocol defaultLocation written with ⟨found, _, points⟩ | ⟨refused, _⟩
  · exfalso
    cases points with
    | url separated read =>
      rcases unreadable with nothing | malformed
      · exact nothing.bare separated
      · exact malformed.2 _ read
    | path bare nonempty =>
      rcases unreadable with nothing | malformed
      · exact nonempty (saysNothing_iff.mp nothing)
      · exact bare malformed.1
  · exact refused

end Written

section Outcome

variable {library : Library} {reference aim : Reference}

/-- A reference to a catalogue, and the entry of the registry that is found for it. -/
structure Entry (library : Library) (reference : Reference) (defaultLocation : Text)
    (descriptor : Descriptor) : Prop where
  catalogue : library.table.resolver reference.protocol = .ok (.catalogue defaultLocation)
  found : library.registry.known.find? reference.protocol reference.resource = some descriptor

/-- The entry that is found for a reference points at another one. -/
def Listed (library : Library) (reference aim : Reference) : Prop :=
  ∃ defaultLocation descriptor, Entry library reference defaultLocation descriptor ∧
    Points defaultLocation descriptor.reference aim

/-- A reference whose path is handed to a pack: the one that is loaded, or what the entry that is
    found for it points at. -/
inductive Handed (library : Library) (reference : Reference) : Reference → Text → Prop where
  | itself {name : Text}
      (directory : library.table.resolver reference.protocol = .ok (.directory (.pack name))) :
      Handed library reference reference name
  | listed {aim : Reference} {name : Text} (listed : Listed library reference aim)
      (directory : library.table.resolver aim.protocol = .ok (.directory (.pack name))) :
      Handed library reference aim name

/-- The way in which a load ends. -/
inductive Ends (library : Library) (reference : Reference) : Except Fault Resolved → Prop where
  /-- The protocol is not registered. -/
  | unknown (unregistered : library.table.holds reference.protocol = false) :
      Ends library reference (.error (.protocolNotFound reference.protocol))
  /-- The registry has no entry. -/
  | unlisted {defaultLocation : Text}
      (catalogue : library.table.resolver reference.protocol = .ok (.catalogue defaultLocation))
      (missing : library.registry.known.find? reference.protocol reference.resource = none) :
      Ends library reference (.error (.resourceNotFound reference.protocol reference.resource))
  /-- The entry says nothing, or nothing that can be read. -/
  | unreadable {defaultLocation : Text} {descriptor : Descriptor} {reason : Text}
      (entry : Entry library reference defaultLocation descriptor)
      (unreadable : SaysNothing descriptor.reference ∨ Malformed descriptor.reference) :
      Ends library reference (.error (.invalidReference reason))
  /-- The entry points at a protocol that is not registered. -/
  | astray {aim : Reference} (listed : Listed library reference aim)
      (unregistered : library.table.holds aim.protocol = false) :
      Ends library reference (.error (.protocolNotFound aim.protocol))
  /-- The entry points at a catalogue. -/
  | circular {aim : Reference} {defaultLocation reason : Text}
      (listed : Listed library reference aim)
      (catalogue : library.table.resolver aim.protocol = .ok (.catalogue defaultLocation)) :
      Ends library reference (.error (.invalidReference reason))
  /-- The path that is handed to a pack is not safe. -/
  | unsafePath {aim : Reference} {name reason : Text} (handed : Handed library reference aim name)
      (escapes : Path.Unsafe aim.resource) :
      Ends library reference (.error (.invalidReference reason))
  /-- There is nothing at the path. -/
  | absent {aim : Reference} {name path : Text} (handed : Handed library reference aim name)
      (admitted : Path.normalize aim.resource = .ok path)
      (nowhere : path = [] ∨ (library.storage.pack name).holds path = false) :
      Ends library reference (.error (.resourceNotFound aim.protocol aim.resource))
  /-- There is a folder at the path, and no document. -/
  | folder {aim : Reference} {name path : Text} (handed : Handed library reference aim name)
      (admitted : Path.normalize aim.resource = .ok path)
      (held : (library.storage.pack name).holds path = true)
      (unstored : (library.storage.pack name).files.lookup path = none) :
      Ends library reference (.error (.resourceNotFound reference.protocol reference.resource))
  /-- There is a document at the path. -/
  | stored {aim : Reference} {name path content : Text}
      (handed : Handed library reference aim name)
      (admitted : Path.normalize aim.resource = .ok path)
      (kept : (library.storage.pack name).files.lookup path = some content) :
      Ends library reference (.ok ⟨reference, ⟨aim.protocol, path, .pack name⟩, content⟩)

/-- A reference that cannot be placed fails for that reason. -/
theorem outcome_of_error {fault : Fault} (failed : library.place reference = .error fault) :
    library.outcome reference = .error fault := by
  rw [outcome, failed]
  rfl

/-- A reference to a protocol that is not registered. -/
theorem place_of_unregistered (unregistered : library.table.holds reference.protocol = false) :
    library.place reference = .error (.protocolNotFound reference.protocol) := by
  rw [place, Table.resolver_eq_error_iff.mpr ⟨unregistered, rfl⟩]
  rfl

/-- A reference for which there is an entry is placed where the entry leads. Nothing else about the
    reference matters any more. -/
theorem place_of_entry {defaultLocation : Text} {descriptor : Descriptor}
    (entry : Entry library reference defaultLocation descriptor) :
    library.place reference = (do
      library.resolveLocation
        (← target reference.protocol defaultLocation descriptor.reference)) := by
  simp only [place, entry.catalogue, bind, Except.bind, resolveListed, entry.found]

/-- That is where the reference that it points at is. -/
theorem place_of_listed (listed : Listed library reference aim) :
    library.place reference = library.resolveLocation aim := by
  obtain ⟨defaultLocation, descriptor, entry, points⟩ := listed
  rw [place_of_entry entry, target_of_points points]
  rfl

/-- A reference that has to lead to a directory, and leads to a protocol that is not registered. -/
theorem resolveLocation_of_unregistered
    (unregistered : library.table.holds aim.protocol = false) :
    library.resolveLocation aim = .error (.protocolNotFound aim.protocol) := by
  rw [resolveLocation, Table.resolver_eq_error_iff.mpr ⟨unregistered, rfl⟩]
  rfl

/-- A reference that has to lead to a directory, and leads to a catalogue. -/
theorem resolveLocation_of_catalogue {defaultLocation : Text}
    (catalogue : library.table.resolver aim.protocol = .ok (.catalogue defaultLocation)) :
    ∃ reason, library.resolveLocation aim = .error (.invalidReference reason) := by
  rw [resolveLocation, catalogue]
  exact ⟨_, rfl⟩

/-- A path that is handed to a pack is looked for there, be it the path of the reference itself or
    the one of its entry. -/
theorem place_of_handed {name : Text}
    (handed : Handed library reference aim name) :
    library.place reference =
      findOnShelf library.storage aim.protocol (.pack name) aim.resource := by
  cases handed with
  | itself directory =>
    simp only [place, resolveLocation, directory, bind, Except.bind]
  | listed listed directory =>
    rw [place_of_listed listed, resolveLocation, directory]
    rfl

/-- A path at which there is something is read for the reference that is loaded. If there is a
    folder at it and no document, the reference is said to be unknown.

    Proof: the path is found on the shelf, since it is admitted and something is at it. It is in
    normal form, so it has no slashes at its ends to be trimmed, and the pack is asked for it as it
    is. -/
theorem outcome_of_held {name path : Text} (handed : Handed library reference aim name)
    (admitted : Path.normalize aim.resource = .ok path) (nonempty : path ≠ [])
    (held : (library.storage.pack name).holds path = true) :
    library.outcome reference =
      match (library.storage.pack name).files.lookup path with
      | some content => .ok ⟨reference, ⟨aim.protocol, path, .pack name⟩, content⟩
      | none => .error (.resourceNotFound reference.protocol reference.resource) := by
  have found : library.place reference = .ok ⟨aim.protocol, path, .pack name⟩ := by
    rw [place_of_handed handed]
    exact findOnShelf_eq_ok_iff.mpr ⟨path, admitted, nonempty, congrArg Except.ok held, rfl⟩
  have key : Path.trimSlashes path = path := (Path.proper_of_normalize admitted).trimmed.eq
  rw [outcome, found]
  cases kept : (library.storage.pack name).files.lookup path with
  | none =>
    have read : library.readFor reference ⟨aim.protocol, path, .pack name⟩ =
        .error (.resourceNotFound reference.protocol reference.resource) := by
      simp [readFor, Storage.read, Pack.read, Pack.notFound, key, kept]
    simp only [bind, Except.bind, read]
  | some content =>
    have read : library.readFor reference ⟨aim.protocol, path, .pack name⟩ = .ok content := by
      simp [readFor, Storage.read, Pack.read, key, kept]
    simp only [bind, Except.bind, read]
    rfl

/-- A document that is stored at a path in normal form is loaded by every reference that leads
    there. That it is stored there is enough for something to be at the path. -/
theorem outcome_of_stored {name path content : Text} (handed : Handed library reference aim name)
    (admitted : Path.normalize aim.resource = .ok path) (nonempty : path ≠ [])
    (kept : (library.storage.pack name).files.lookup path = some content) :
    library.outcome reference =
      .ok ⟨reference, ⟨aim.protocol, path, .pack name⟩, content⟩ := by
  have key : Path.trimSlashes path = path := (Path.proper_of_normalize admitted).trimmed.eq
  have held : (library.storage.pack name).holds path = true := by
    obtain ⟨before, after, split, _⟩ := List.lookup_eq_some_iff.mp kept
    simp [Pack.holds, key, split]
  rw [outcome_of_held handed admitted nonempty held, kept]

/-- How the search in a pack ends: the path is refused, there is nothing at it, there is a folder,
    or there is a document. In the first two cases the reference cannot be placed, and in the others
    it is read. -/
theorem ends_of_handed {name : Text}
    (handed : Handed library reference aim name) :
    Ends library reference (library.outcome reference) := by
  have placed := place_of_handed handed
  rcases Path.normalize_cases aim.resource with ⟨escapes, reason, refused⟩ | ⟨_, path, admitted⟩
  · have failed : library.place reference = .error (.invalidReference reason) := by
      rw [placed, findOnShelf, refused]
      rfl
    rw [outcome_of_error failed]
    exact .unsafePath handed escapes
  · by_cases nowhere : path = [] ∨ (library.storage.pack name).holds path = false
    · have failed : library.place reference =
          .error (.resourceNotFound aim.protocol aim.resource) := by
        rw [placed, findOnShelf, admitted]
        rcases nowhere with empty | missing
        · simp [empty, bind, Except.bind]
        · simp [missing, Storage.holds, bind, Except.bind]
      rw [outcome_of_error failed]
      exact .absent handed admitted nowhere
    · obtain ⟨nonempty, missing⟩ := not_or.mp nowhere
      have held : (library.storage.pack name).holds path = true := by simpa using missing
      rw [outcome_of_held handed admitted nonempty held]
      cases kept : (library.storage.pack name).files.lookup path with
      | none => exact .folder handed admitted held kept
      | some content => exact .stored handed admitted kept

/-- Every protocol of a library is a directory of a pack or a catalogue. -/
def KeepsToPacks (library : Library) : Prop :=
  ∀ protocol resolver, library.table.resolver protocol = .ok resolver → resolver.KeepsToPacks

/-- How a load ends whose entry points at a reference. The protocol of that reference is unknown, is
    a catalogue, which is not followed, or is the directory of a pack. -/
theorem ends_of_listed (packs : library.KeepsToPacks) (listed : Listed library reference aim) :
    Ends library reference (library.outcome reference) := by
  have placed := place_of_listed listed
  cases known : library.table.resolver aim.protocol with
  | error fault =>
    obtain ⟨unregistered, _⟩ := Table.resolver_eq_error_iff.mp known
    rw [outcome_of_error (placed.trans (resolveLocation_of_unregistered unregistered))]
    exact .astray listed unregistered
  | ok resolver =>
    have family := packs _ _ known
    cases resolver with
    | failing fault => cases family
    | catalogue defaultLocation =>
      obtain ⟨reason, refused⟩ := resolveLocation_of_catalogue known
      rw [outcome_of_error (placed.trans refused)]
      exact .circular listed known
    | directory shelf =>
      cases shelf with
      | folder root => cases family
      | pack name => exact ends_of_handed (.listed listed known)

/-- How a load ends for which there is an entry. The entry points at a reference, or what it gives
    cannot be read. -/
theorem ends_of_entry (packs : library.KeepsToPacks) {defaultLocation : Text}
    {descriptor : Descriptor} (entry : Entry library reference defaultLocation descriptor) :
    Ends library reference (library.outcome reference) := by
  rcases target_cases reference.protocol defaultLocation descriptor.reference with
    ⟨aim, _, points⟩ | ⟨⟨reason, refused⟩, unreadable⟩
  · exact ends_of_listed packs ⟨_, _, entry, points⟩
  · have failed : library.place reference = .error (.invalidReference reason) := by
      rw [place_of_entry entry, refused]
      rfl
    rw [outcome_of_error failed]
    exact .unreadable entry unreadable

/-- In a library of packs and catalogues, every load ends in one of these ways. The protocol of the
    reference is unknown, is the directory of a pack, or is a catalogue with or without an entry for
    it. -/
theorem ends_outcome (packs : library.KeepsToPacks) (reference : Reference) :
    Ends library reference (library.outcome reference) := by
  cases known : library.table.resolver reference.protocol with
  | error fault =>
    obtain ⟨unregistered, _⟩ := Table.resolver_eq_error_iff.mp known
    rw [outcome_of_error (place_of_unregistered unregistered)]
    exact .unknown unregistered
  | ok resolver =>
    have family := packs _ _ known
    cases resolver with
    | failing fault => cases family
    | directory shelf =>
      cases shelf with
      | folder root => cases family
      | pack name => exact ends_of_handed (.itself known)
    | catalogue defaultLocation =>
      cases found : library.registry.known.find? reference.protocol reference.resource with
      | some descriptor => exact ends_of_entry packs ⟨known, found⟩
      | none =>
        have failed : library.place reference =
            .error (.resourceNotFound reference.protocol reference.resource) := by
          simp only [place, known, bind, Except.bind, resolveListed, found]
        rw [outcome_of_error failed]
        exact .unlisted known found

/-- The protocol of a reference that is handed to a pack is a directory of that pack. -/
theorem Handed.directory {name : Text} (handed : Handed library reference aim name) :
    library.table.resolver aim.protocol = .ok (.directory (.pack name)) := by
  cases handed with
  | itself directory => exact directory
  | listed _ directory => exact directory

/-- It is the reference that is loaded, or what the entry for it points at. -/
theorem Handed.origin {name : Text} (handed : Handed library reference aim name) :
    aim = reference ∨ Listed library reference aim := by
  cases handed with
  | itself _ => exact .inl rfl
  | listed listed _ => exact .inr listed

/-- What the outcome of a load says about the reference, the registry, the table and the packs, and
    what these say about the outcome. -/
structure Classified (library : Library) (reference : Reference)
    (ended : Except Fault Resolved) : Prop where
  /-- What is loaded is the document at a path in normal form, in the pack of a directory that is
      registered under the protocol of the location. -/
  loaded : ∀ resolved, ended = .ok resolved → resolved.reference = reference ∧
    ∃ aim name, Handed library reference aim name ∧
      resolved.location.protocol = aim.protocol ∧ resolved.location.shelf = .pack name ∧
      library.table.resolver resolved.location.protocol = .ok (.directory (.pack name)) ∧
      Path.normalize aim.resource = .ok resolved.location.path ∧
      Path.Proper resolved.location.path ∧
      (library.storage.pack name).files.lookup resolved.location.path = some resolved.content
  /-- And every such document is loaded to which the reference leads. -/
  loads : ∀ aim name path content, Handed library reference aim name →
    Path.normalize aim.resource = .ok path → path ≠ [] →
    (library.storage.pack name).files.lookup path = some content →
    ended = .ok ⟨reference, ⟨aim.protocol, path, .pack name⟩, content⟩
  /-- A protocol is unknown exactly if the reference or what its entry points at has that protocol,
      and it is not registered. -/
  unknown : ∀ protocol, ended = .error (.protocolNotFound protocol) ↔
    library.table.holds protocol = false ∧
      (reference.protocol = protocol ∨
        ∃ aim, Listed library reference aim ∧ aim.protocol = protocol)
  /-- Something cannot be used exactly if it is a path that is handed to a pack and is not safe, or
      an entry that says nothing, is malformed or points at a catalogue. -/
  invalid : (∃ reason, ended = .error (.invalidReference reason)) ↔
    (∃ aim name, Handed library reference aim name ∧ Path.Unsafe aim.resource) ∨
    (∃ defaultLocation descriptor, Entry library reference defaultLocation descriptor ∧
      (SaysNothing descriptor.reference ∨ Malformed descriptor.reference)) ∨
    (∃ aim defaultLocation, Listed library reference aim ∧
      library.table.resolver aim.protocol = .ok (.catalogue defaultLocation))
  /-- Any other fault is that there is no such resource, and names the reference or what its entry
      points at. -/
  otherwise : ∀ fault, ended = .error fault → (∀ protocol, fault ≠ .protocolNotFound protocol) →
    (∀ reason, fault ≠ .invalidReference reason) →
    ∃ aim, (aim = reference ∨ Listed library reference aim) ∧
      fault = .resourceNotFound aim.protocol aim.resource
  /-- No fault is that of a store. -/
  storeless : ∀ kind reason, ended ≠ .error (.io kind reason)

/-- What is loaded is a document of a pack, at the path in normal form to which the reference
    leads. -/
theorem Ends.loaded {resolved : Resolved} (ends : Ends library reference (.ok resolved)) :
    resolved.reference = reference ∧
    ∃ aim name, Handed library reference aim name ∧
      resolved.location.protocol = aim.protocol ∧ resolved.location.shelf = .pack name ∧
      library.table.resolver resolved.location.protocol = .ok (.directory (.pack name)) ∧
      Path.normalize aim.resource = .ok resolved.location.path ∧
      Path.Proper resolved.location.path ∧
      (library.storage.pack name).files.lookup resolved.location.path = some resolved.content := by
  cases ends with
  | stored handed admitted kept =>
    exact ⟨rfl, _, _, handed, rfl, rfl, handed.directory, admitted,
      Path.proper_of_normalize admitted, kept⟩

/-- The faults are of three kinds, each with its reason. Of the ways in which a load ends, eight
    fail, and each of them is read off here. -/
theorem Ends.failed {fault : Fault} (ends : Ends library reference (.error fault)) :
    (∃ protocol, fault = .protocolNotFound protocol ∧ library.table.holds protocol = false ∧
      (reference.protocol = protocol ∨
        ∃ aim, Listed library reference aim ∧ aim.protocol = protocol)) ∨
    (∃ reason, fault = .invalidReference reason ∧
      ((∃ aim name, Handed library reference aim name ∧ Path.Unsafe aim.resource) ∨
      (∃ defaultLocation descriptor, Entry library reference defaultLocation descriptor ∧
        (SaysNothing descriptor.reference ∨ Malformed descriptor.reference)) ∨
      (∃ aim defaultLocation, Listed library reference aim ∧
        library.table.resolver aim.protocol = .ok (.catalogue defaultLocation)))) ∨
    ∃ aim, (aim = reference ∨ Listed library reference aim) ∧
      fault = .resourceNotFound aim.protocol aim.resource := by
  cases ends with
  | unknown unregistered => exact .inl ⟨_, rfl, unregistered, .inl rfl⟩
  | astray listed unregistered => exact .inl ⟨_, rfl, unregistered, .inr ⟨_, listed, rfl⟩⟩
  | unsafePath handed escapes => exact .inr (.inl ⟨_, rfl, .inl ⟨_, _, handed, escapes⟩⟩)
  | unreadable entry unreadable =>
    exact .inr (.inl ⟨_, rfl, .inr (.inl ⟨_, _, entry, unreadable⟩)⟩)
  | circular listed catalogue =>
    exact .inr (.inl ⟨_, rfl, .inr (.inr ⟨_, _, listed, catalogue⟩)⟩)
  | unlisted _ _ => exact .inr (.inr ⟨reference, .inl rfl, rfl⟩)
  | folder _ _ _ _ => exact .inr (.inr ⟨reference, .inl rfl, rfl⟩)
  | absent handed _ _ => exact .inr (.inr ⟨_, handed.origin, rfl⟩)

/-- In a library of packs and catalogues, every outcome is classified.

    Proof: what the outcome says about the library is read off the way in which it ends. What the
    library says about the outcome goes the other way: an unknown protocol, an entry that cannot be
    read and a path that is not admitted keep the reference from being placed, and then the outcome
    is the fault of that. The kinds of fault exclude each other. -/
theorem classified_outcome (packs : library.KeepsToPacks) :
    Classified library reference (library.outcome reference) := by
  have ends := ends_outcome packs reference
  constructor
  · intro resolved same
    rw [same] at ends
    exact ends.loaded
  · intro aim name path content handed admitted nonempty kept
    exact outcome_of_stored handed admitted nonempty kept
  · intro protocol
    constructor
    · intro same
      rw [same] at ends
      rcases ends.failed with ⟨_, named, reason⟩ | ⟨_, impossible, _⟩ | ⟨_, _, impossible⟩
      · cases named
        exact reason
      · cases impossible
      · cases impossible
    · rintro ⟨unregistered, rfl | ⟨aim, listed, rfl⟩⟩
      · exact outcome_of_error (place_of_unregistered unregistered)
      · apply outcome_of_error
        rw [place_of_listed listed, resolveLocation_of_unregistered unregistered]
  · constructor
    · rintro ⟨reason, same⟩
      rw [same] at ends
      rcases ends.failed with ⟨_, impossible, _⟩ | ⟨_, _, reason⟩ | ⟨_, _, impossible⟩
      · cases impossible
      · exact reason
      · cases impossible
    · rintro (⟨aim, name, handed, escapes⟩ | ⟨_, descriptor, entry, unreadable⟩ |
        ⟨aim, _, listed, catalogue⟩)
      · rcases Path.normalize_cases aim.resource with ⟨_, reason, refused⟩ | ⟨stays, _⟩
        · refine ⟨reason, outcome_of_error ?_⟩
          rw [place_of_handed handed, findOnShelf, refused]
          rfl
        · exact absurd escapes stays
      · obtain ⟨reason, refused⟩ := target_of_unreadable unreadable
        refine ⟨reason, outcome_of_error ?_⟩
        rw [place_of_entry entry, refused]
        rfl
      · obtain ⟨reason, refused⟩ := resolveLocation_of_catalogue catalogue
        exact ⟨reason, outcome_of_error ((place_of_listed listed).trans refused)⟩
  · intro fault same known usable
    rw [same] at ends
    rcases ends.failed with ⟨protocol, rfl, _⟩ | ⟨reason, rfl, _⟩ | absent
    · exact absurd rfl (known protocol)
    · exact absurd rfl (usable reason)
    · exact absent
  · intro kind reason same
    rw [same] at ends
    rcases ends.failed with ⟨_, impossible, _⟩ | ⟨_, impossible, _⟩ | ⟨_, _, impossible⟩ <;>
      cases impossible

end Outcome

/-- A table of packs and catalogues resolves every protocol to one of these. What is found under a
    name is one of the resolvers that were registered. -/
theorem keepsToPacks_of_registrations {registrations : List (Text × Resolver)}
    (families : ∀ made ∈ registrations, made.2.KeepsToPacks) {protocol : Text}
    {resolver : Resolver}
    (known : (Table.ofRegistrations registrations).resolver protocol = .ok resolver) :
    resolver.KeepsToPacks := by
  unfold Table.resolver at known
  rw [Table.lookup_ofRegistrations] at known
  cases last : registrations.reverse.lookup protocol with
  | none => simp [last] at known
  | some found =>
    simp only [last, Except.ok.injEq] at known
    subst known
    obtain ⟨before, after, split, _⟩ := List.lookup_eq_some_iff.mp last
    apply families (protocol, found)
    rw [← List.mem_reverse, split]
    exact List.mem_append_right before List.mem_cons_self

/-- Resolution takes one hop at most, and its faults are classified. Let directories of packs and
    catalogues be registered in any order, and over each other, and let the registry be ready. Then
    a protocol has the resolver that was registered under its name last. Whatever the registry and
    the packs hold, a load looks up one entry and one location at most. It comes to a document of
    the pack of a directory, or to a fault whose kind says what was wrong, and which is never one of
    a store.

    Proof: a library with a ready registry settles, so loading from it comes to its outcome. That is
    what comes of asking the questions of `Table.inquire`, of which none is asked twice, and it is
    classified because every protocol keeps to packs. -/
theorem resolution_takes_one_hop {registrations : List (Text × Resolver)}
    (families : ∀ made ∈ registrations, made.2.KeepsToPacks) (storage : Storage)
    {registry : Registry} (ready : registry.index.isSome = true) (reference : Reference) :
    let table := Table.ofRegistrations registrations
    let library : Library := ⟨storage, registry, table⟩
    let ended := ((load reference).run library).1
    (∀ protocol, table.resolvers.lookup protocol = registrations.reverse.lookup protocol) ∧
      ended = (table.inquire reference).run library ∧ (table.inquire reference).Within 1 1 1 ∧
      Classified library reference ended := by
  intro table library ended
  have settles : Settles library { library with registry := { registry with phase := .ready } } :=
    settles_of_ready ready
  have loads : ended = library.outcome reference :=
    congrArg Prod.fst (load_eq_outcome settles reference)
  refine ⟨Table.lookup_ofRegistrations registrations, ?_, table.within_inquire reference, ?_⟩
  · rw [loads]
    exact (library.run_inquire reference).symm
  · rw [loads]
    apply classified_outcome
    intro protocol resolver known
    exact keepsToPacks_of_registrations families known

/-- A name that is first a catalogue and then a directory, and a catalogue that leads there. -/
def rebound : List (Text × Resolver) :=
  [("package".toList, .catalogue "thought".toList),
    ("thought".toList, .catalogue "package".toList),
    ("package".toList, .directory (.pack "files".toList))]

/-- A registry with an entry that leads to a note, and one that leads back to the registry. -/
def hopping : Registry :=
  { Registry.ofSources [] with
    index := some ⟨[Descriptor.plain "thought".toList "calm".toList "@!notes//calm.md".toList,
      Descriptor.plain "thought".toList "loop".toList "thought://calm".toList]⟩
    phase := .ready }

/-- The note is loaded by way of its entry. The other entry is not followed, because it
    refers to a protocol that has a catalogue itself, and neither is a path that climbs. -/
theorem rebound_resolution :
    let storage := Storage.empty.setPack "files".toList
      ⟨Pack.defaultRoot, [("notes/calm.md".toList, "Stay calm.".toList)]⟩
    let library : Library := ⟨storage, hopping, Table.ofRegistrations rebound⟩
    (∃ resolved, ((load (Reference.plain "thought".toList "calm".toList)).run library).1 =
        .ok resolved ∧ resolved.location.path = "notes/calm.md".toList ∧
      (storage.pack "files".toList).files.lookup resolved.location.path =
        some resolved.content) ∧
    (∃ reason, ((load (Reference.plain "thought".toList "loop".toList)).run library).1 =
      .error (.invalidReference reason)) ∧
    ∃ reason, ((load (Reference.plain "package".toList "../calm.md".toList)).run library).1 =
      .error (.invalidReference reason) := by
  intro storage library
  have families : ∀ made ∈ rebound, made.2.KeepsToPacks := by
    simp [rebound, Resolver.KeepsToPacks]
  have ready : hopping.index.isSome = true := rfl
  have classified (reference : Reference) :=
    (resolution_takes_one_hop families storage ready reference).2.2.2
  have directory : library.table.resolver "package".toList =
      .ok (.directory (.pack "files".toList)) := by
    decide
  have catalogue : library.table.resolver "thought".toList = .ok (.catalogue "package".toList) := by
    decide
  refine ⟨?_, ?_, ?_⟩
  · have found : ((load (Reference.plain "thought".toList "calm".toList)).run library).1 =
        .ok ⟨Reference.plain "thought".toList "calm".toList,
          ⟨"package".toList, "notes/calm.md".toList, .pack "files".toList⟩,
          "Stay calm.".toList⟩ := by
      decide +kernel
    obtain ⟨_, aim, name, _, _, shelf, _, _, _, kept⟩ := (classified _).loaded _ found
    cases shelf
    exact ⟨_, found, rfl, kept⟩
  · apply (classified _).invalid.mpr
    refine .inr (.inr ⟨Reference.plain "thought".toList "calm".toList, _, ?_, catalogue⟩)
    refine ⟨_, _, ⟨catalogue, rfl⟩, .url ?_ ?_⟩
    · exact Text.holds_iff.mp (by decide)
    · rfl
  · apply (classified _).invalid.mpr
    refine .inl ⟨_, _, .itself directory, ?_⟩
    exact .inr (.inr (.inr (by decide)))

end Library

end RoleWeave
