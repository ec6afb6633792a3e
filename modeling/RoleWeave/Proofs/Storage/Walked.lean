import Mathlib.Data.List.TakeWhile
import RoleWeave.Proofs.Text.Trimming
import RoleWeave.Storage.Shelf

/-!
# What a walk through a pack finds

A walk through a pack that comes to an end comes to keys of the pack, under which there are documents
to read. That it comes to an end matters: where a name below a folder is empty, the folder lists
itself again and again under longer paths, and a walk that meets such a `Trap` never ends. A walk
that ends has met folders without outer slashes only, and the files of such a folder are called by
their keys.
-/

namespace RoleWeave

/-- Inserting a text adds it and nothing else. -/
theorem mem_insertSorted {text tested : Text} {texts : List Text} :
    tested ∈ insertSorted text texts ↔ tested = text ∨ tested ∈ texts := by
  induction texts with
  | nil => simp [insertSorted]
  | cons other rest ih =>
    rw [insertSorted]
    split
    · simp
    · rw [List.mem_cons, ih, List.mem_cons]
      exact or_left_comm

/-- Sorting keeps the texts. The texts that were sorted before come along with those to be
    sorted. -/
theorem mem_sorted {texts : List Text} {tested : Text} :
    tested ∈ sorted texts ↔ tested ∈ texts := by
  have folded : ∀ done : List Text,
      tested ∈ texts.foldl (fun done text => insertSorted text done) done ↔
        tested ∈ done ∨ tested ∈ texts := by
    induction texts with
    | nil => simp
    | cons text rest ih =>
      intro done
      rw [List.foldl_cons, ih, mem_insertSorted, List.mem_cons, or_assoc, or_left_comm]
  rw [sorted, folded []]
  simp

/-- Folders that each contain another one of them. -/
def Trap (list : Text → Except Fault (List Entry)) (Inside : Text → Prop) : Prop :=
  ∀ folder, Inside folder → ∃ entries, list folder = .ok entries ∧
    ∃ entry ∈ entries, entry.isFolder = true ∧ Inside (entry.path folder)

/-- A walk that has such a folder before it does not come to paths.

    Proof: by induction on the listings that may still be made. A folder of the trap in front gives
    way to another one of the trap, and any other folder leaves those of the trap pending. Without a
    listing left the walk comes to no paths while folders are pending. -/
theorem Trap.unfinished {list : Text → Except Fault (List Entry)} {Inside : Text → Prop}
    (trap : Trap list Inside) {budget : Nat} {pending files paths : List Text}
    (ended : walkWithin list budget pending files = some (.ok paths)) :
    ∀ folder ∈ pending, ¬ Inside folder := by
  induction budget generalizing pending files with
  | zero =>
    cases pending with
    | nil => simp
    | cons folder pending => cases ended
  | succ budget ih =>
    cases pending with
    | nil => simp
    | cons folder pending =>
      rw [walkWithin] at ended
      cases listed : list folder with
      | error fault => simp [listed] at ended
      | ok entries =>
        simp only [listed] at ended
        have later := ih ended
        intro tested member inside
        rcases List.mem_cons.mp member with rfl | waiting
        · obtain ⟨_, same, entry, among, isFolder, deeper⟩ := trap tested inside
          rw [listed] at same
          cases same
          refine later (entry.path tested) (List.mem_append_left _ ?_) deeper
          exact List.mem_map_of_mem (List.mem_filter.mpr ⟨among, isFolder⟩)
        · exact later tested (List.mem_append_right _ waiting) inside

namespace Path

/-- A path without slashes at its ends. -/
def Trimmed (path : Text) : Prop :=
  path.head? ≠ some '/' ∧ path.getLast? ≠ some '/'

/-- Trimming a path trims it: no slash is left at either end. -/
theorem trimmed_trimSlashes (path : Text) : Trimmed (trimSlashes path) := by
  constructor
  · intro first
    have slash := Text.head_trimStart (Text.head_trimEnd first)
    exact absurd slash (by decide)
  · intro last
    have slash := Text.last_trimEnd last
    exact absurd slash (by decide)

/-- A trimmed path stays as it is when it is trimmed again. Its first and its last character are no
    slashes, so nothing is cut off at either end. -/
theorem Trimmed.eq {path : Text} (trimmed : Trimmed path) : trimSlashes path = path := by
  obtain ⟨first, last⟩ := trimmed
  rw [trimSlashes, Text.trimBoth, Text.trimStart_of_head, Text.trimEnd_of_last]
  · intro c same
    have other : c ≠ '/' := by
      rintro rfl
      exact last same
    simpa using other
  · intro c same
    have other : c ≠ '/' := by
      rintro rfl
      exact first same
    simpa using other

/-- A slash at the end of a path does not count, whatever is in front of it. -/
theorem trimSlashes_snoc (path : Text) : trimSlashes (path ++ ['/']) = trimSlashes path := by
  have none : Text.trimEnd (· == '/') ['/'] = [] := rfl
  simp only [trimSlashes, Text.trimBoth, Text.trimStart, List.dropWhile_append, List.isEmpty_iff]
  split
  · rename_i empty
    rw [empty]
    rfl
  · rw [Text.trimEnd_of_append, if_pos none]

/-- Below a trimmed path, a name leads to another one. The path begins as before and ends with the
    name. -/
theorem Trimmed.child {folder name : Text} (trimmed : Trimmed folder) (nonempty : folder ≠ [])
    (named : name ≠ []) (slashless : '/' ∉ name) : Trimmed (folder ++ '/' :: name) := by
  constructor
  · cases folder with
    | nil => exact absurd rfl nonempty
    | cons first rest => exact trimmed.1
  · have last : (folder ++ '/' :: name).getLast? = name.getLast? := by
      cases name with
      | nil => exact absurd rfl named
      | cons first rest => simp [List.getLast?_append, List.getLast?_cons]
    rw [last]
    exact fun same => slashless (List.mem_of_mem_getLast? same)

/-- A name by itself is a trimmed path. -/
theorem trimmed_name {name : Text} (slashless : '/' ∉ name) : Trimmed name :=
  ⟨fun first => slashless (List.mem_of_mem_head? first),
    fun last => slashless (List.mem_of_mem_getLast? last)⟩

end Path

namespace Pack

/-- The pack into which these documents were put, one after another. -/
def filled (root : Text) (files : List (Text × Text)) : Pack :=
  files.foldl (fun pack file => pack.put file.1 file.2) (empty root)

/-- The keys of a pack are trimmed. -/
def Tidy (pack : Pack) : Prop :=
  ∀ file ∈ pack.files, Path.Trimmed file.1

/-- To put a document into a pack leaves it tidy. -/
theorem Tidy.put {pack : Pack} (tidy : pack.Tidy) (path content : Text) :
    (pack.put path content).Tidy := by
  intro file member
  rcases List.mem_cons.mp member with rfl | among
  · exact Path.trimmed_trimSlashes path
  · exact tidy file (List.mem_filter.mp among).1

/-- A pack that was filled is tidy, because each document is put at a trimmed path. By induction on
    the documents, for any tidy pack to which they are added. -/
theorem tidy_filled (root : Text) (files : List (Text × Text)) : (filled root files).Tidy := by
  have further : ∀ pack : Pack, pack.Tidy →
      (files.foldl (fun pack file => pack.put file.1 file.2) pack).Tidy := by
    induction files with
    | nil => exact fun _ tidy => tidy
    | cons file later ih => exact fun pack tidy => ih _ (tidy.put file.1 file.2)
  apply further
  intro file member
  cases member

/-- Whether there is a document with this key. -/
def IsKey (pack : Pack) (key : Text) : Prop :=
  ∃ content, (key, content) ∈ pack.files

/-- At the key of a tidy pack there is a document to read. The key is trimmed, so it is looked up as
    it is. -/
theorem Tidy.read {pack : Pack} (tidy : pack.Tidy) {key : Text} (known : pack.IsKey key) :
    ∃ content, pack.read key = .ok content ∧ pack.holds key = true := by
  obtain ⟨content, member⟩ := known
  have trimmed : Path.trimSlashes key = key := (tidy _ member).eq
  have present : (pack.files.lookup key).isSome = true := by
    rw [List.lookup_isSome_iff]
    exact ⟨_, member, by simp⟩
  obtain ⟨found, same⟩ := Option.isSome_iff_exists.mp present
  refine ⟨found, ?_, ?_⟩
  · simp only [Pack.read, trimmed, same]
  · rw [holds, trimmed, Bool.or_eq_true, List.any_eq_true]
    exact .inr ⟨_, member, by simp⟩

/-- The path of an entry of a folder is what the paths below the folder begin with, and its name. -/
theorem path_of_entry (folder : Text) (entry : Entry) :
    entry.path folder = opening folder ++ entry.name := by
  unfold Entry.path opening isRoot
  split <;> rfl

/-- A folder that can be listed is there. It is the root, or a key begins with it and a slash. -/
theorem holds_of_list {pack : Pack} {path : Text} {entries : List Entry}
    (listed : pack.list path = .ok entries) : pack.holds path = true := by
  unfold list at listed
  unfold holds
  dsimp only at listed ⊢
  split at listed
  · cases listed
  · rename_i there
    cases root : isRoot (Path.trimSlashes path) with
    | true => rfl
    | false =>
      have outer : opening (Path.trimSlashes path) = Path.trimSlashes path ++ ['/'] := by
        simp [opening, root]
      rw [root, outer] at there
      simp only [Bool.not_false, Bool.true_and, List.isEmpty_iff] at there
      obtain ⟨entry, member⟩ := List.exists_mem_of_ne_nil _ there
      obtain ⟨file, among, child⟩ := List.mem_filterMap.mp member
      obtain ⟨rest, found, _⟩ := Option.map_eq_some_iff.mp child
      rw [Bool.false_or, List.any_eq_true]
      exact ⟨file, among, by simp [found]⟩

/-- An entry of a folder is called by a name, and a file is called by its key. What a key goes on
    with below the folder is cut at its first slash, and has none if it is a file. -/
theorem key_of_entry {pack : Pack} {folder : Text} {entries : List Entry}
    (listed : pack.list folder = .ok entries) {entry : Entry} (member : entry ∈ entries) :
    '/' ∉ entry.name ∧ (entry.isFolder = false →
      pack.IsKey (opening (Path.trimSlashes folder) ++ entry.name)) := by
  unfold list at listed
  dsimp only at listed
  split at listed
  · cases listed
  · cases listed
    obtain ⟨⟨key, content⟩, among, child⟩ := List.mem_filterMap.mp (Entry.mem_listing.mp member)
    obtain ⟨rest, cut, rfl⟩ := Option.map_eq_some_iff.mp child
    have whole : key = opening (Path.trimSlashes folder) ++ rest := Text.eq_append_of_after? cut
    constructor
    · intro inside
      have unlike := List.all_eq_true.mp List.all_takeWhile _ inside
      simp at unlike
    · intro file
      have slashless : ∀ c ∈ rest, (c != '/') = true := by
        intro c inside
        have other : c ≠ '/' := by
          rintro rfl
          simp [inside] at file
        simpa using other
      rw [List.takeWhile_eq_self_iff.mpr slashless, ← whole]
      exact ⟨content, among⟩

/-- A folder below which a name is empty contains itself, under a longer path. The path has one more
    slash at its end, which is trimmed when the folder is listed. -/
theorem trap_of_empty_name (pack : Pack) :
    Trap pack.list (fun folder => isRoot folder = false ∧
      ∃ entries, pack.list folder = .ok entries ∧ ⟨[], true⟩ ∈ entries) := by
  rintro folder ⟨deep, entries, listed, member⟩
  have nonempty : folder ≠ [] := by
    rintro rfl
    cases deep
  have longer : (Entry.mk [] true).path folder = folder ++ ['/'] := by
    simp [path_of_entry, opening, deep]
  have again : pack.list (folder ++ ['/']) = pack.list folder := by
    unfold list
    rw [Path.trimSlashes_snoc]
  refine ⟨entries, listed, _, member, rfl, ?_⟩
  rw [longer]
  refine ⟨?_, entries, again.trans listed, member⟩
  cases folder with
  | nil => exact absurd rfl nonempty
  | cons first rest => simp [isRoot, Path.here]

/-- Unless its own name is empty, a folder of a trimmed folder is trimmed.

    Proof: the name of an entry has no slash. Below the root, an empty name was ruled out, so the
    slash in front of the name is the only one that was added. At the root the path is the name
    itself; an empty name leads to the empty path, which is trimmed. -/
theorem trimmed_child {pack : Pack} {folder : Text} (trimmed : Path.Trimmed folder)
    {entries : List Entry} (listed : pack.list folder = .ok entries)
    (untrapped : isRoot folder = false → ⟨[], true⟩ ∉ entries) {entry : Entry}
    (member : entry ∈ entries) (isFolder : entry.isFolder = true) :
    Path.Trimmed (entry.path folder) := by
  have slashless : '/' ∉ entry.name := (key_of_entry listed member).1
  rw [path_of_entry]
  cases root : isRoot folder with
  | true =>
    have bare : opening folder = [] := by simp [opening, root]
    rw [bare, List.nil_append]
    exact Path.trimmed_name slashless
  | false =>
    have nonempty : folder ≠ [] := by
      rintro rfl
      cases root
    have named : entry.name ≠ [] := by
      intro nameless
      obtain ⟨name, folded⟩ := entry
      cases nameless
      cases isFolder
      exact untrapped root member
    have deeper : opening folder ++ entry.name = folder ++ '/' :: entry.name := by
      simp [opening, root]
    rw [deeper]
    exact trimmed.child nonempty named slashless

/-- A walk through a pack that comes to paths comes to keys only.

    Proof: by induction on the listings that may still be made, with trimmed folders pending and
    keys found. The files of a trimmed folder are called by their keys (`key_of_entry`). The folders
    in it are trimmed unless one has an empty name; such a folder would be a trap, and a walk that
    has a trap before it does not come to paths (`Trap.unfinished`). -/
theorem key_of_walkWithin {pack : Pack} {budget : Nat} {pending files paths : List Text}
    (ended : walkWithin pack.list budget pending files = some (.ok paths))
    (trimmed : ∀ folder ∈ pending, Path.Trimmed folder)
    (known : ∀ file ∈ files, pack.IsKey file) : ∀ path ∈ paths, pack.IsKey path := by
  induction budget generalizing pending files with
  | zero =>
    cases pending with
    | nil =>
      cases ended
      exact fun path member => known path (mem_sorted.mp member)
    | cons folder pending => cases ended
  | succ budget ih =>
    cases pending with
    | nil =>
      cases ended
      exact fun path member => known path (mem_sorted.mp member)
    | cons folder pending =>
      have untrapped := (trap_of_empty_name pack).unfinished ended folder List.mem_cons_self
      rw [walkWithin] at ended
      cases listed : pack.list folder with
      | error fault => simp [listed] at ended
      | ok entries =>
        simp only [listed] at ended
        have here : Path.Trimmed folder := trimmed folder List.mem_cons_self
        refine ih ended ?_ ?_
        · intro other member
          rcases List.mem_append.mp member with below | waiting
          · obtain ⟨entry, among, rfl⟩ := List.mem_map.mp below
            obtain ⟨inside, isFolder⟩ := List.mem_filter.mp among
            exact trimmed_child here listed
              (fun deep nameless => untrapped ⟨deep, entries, listed, nameless⟩) inside isFolder
          · exact trimmed other (List.mem_cons_of_mem folder waiting)
        · intro file member
          rcases List.mem_append.mp member with found | entryFile
          · exact known file found
          · obtain ⟨entry, among, rfl⟩ := List.mem_map.mp entryFile
            obtain ⟨inside, isFile⟩ := List.mem_filter.mp among
            rw [path_of_entry]
            have key := (key_of_entry listed inside).2 (by simpa using isFile)
            rw [here.eq] at key
            exact key

end Pack

namespace Storage

variable {storage : Storage} {name folder : Text} {paths : List Text}

/-- What a walk below a folder of a pack comes to is what its listings come to within the budget. A
    walk that came to paths did not run out of it. -/
theorem walkWithin_of_walk (walked : storage.walk (.pack name) folder = .ok paths) :
    walkWithin (storage.pack name).list (storage.pack name).folderBound
      [Path.trimSlashes folder] [] = some (.ok paths) := by
  have answered : (walkWithin (storage.pack name).list (storage.pack name).folderBound
      [Path.trimSlashes folder] []).getD (.error endlessWalk) = .ok paths := walked
  cases ended : walkWithin (storage.pack name).list (storage.pack name).folderBound
      [Path.trimSlashes folder] [] with
  | none =>
    rw [ended] at answered
    cases answered
  | some answer =>
    rw [ended] at answered
    exact congrArg some answered

/-- A walk below a folder of a pack comes to keys of the pack. -/
theorem key_of_walk (walked : storage.walk (.pack name) folder = .ok paths) :
    ∀ path ∈ paths, (storage.pack name).IsKey path :=
  Pack.key_of_walkWithin (walkWithin_of_walk walked)
    (List.forall_mem_singleton.mpr (Path.trimmed_trimSlashes folder)) (by simp)

/-- A folder that was walked is there. It was listed when the walk began, since a budget of none
    comes to no paths. -/
theorem holds_of_walk (walked : storage.walk (.pack name) folder = .ok paths) :
    storage.holds (.pack name) folder = .ok true := by
  have ended := walkWithin_of_walk walked
  cases bound : (storage.pack name).folderBound with
  | zero =>
    rw [bound] at ended
    cases ended
  | succ further =>
    rw [bound, walkWithin] at ended
    cases listed : (storage.pack name).list (Path.trimSlashes folder) with
    | error fault => simp [listed] at ended
    | ok entries =>
      have there := Pack.holds_of_list listed
      unfold Pack.holds at there
      rw [(Path.trimmed_trimSlashes folder).eq] at there
      exact congrArg Except.ok there

end Storage

end RoleWeave
