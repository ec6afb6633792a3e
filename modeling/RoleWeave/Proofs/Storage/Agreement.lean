import Mathlib.Data.Finset.Card
import Mathlib.Data.List.Induction
import RoleWeave.Proofs.Storage.Coverage

/-!
# What a pack is asked

A pack can be asked for a document, for what is in a folder, and whether there is anything at a path.
The answers agree, because all of them are about the keys that documents were put at. At a key the
document is read that was put there last (`read_filled`). A folder is listed if there is a document
below it (`list_eq_error_iff`), and its entries are the names that the keys below it go on with. There
is something at a path exactly if it can be read or listed (`holds_iff`).

Folders are told by what keys begin with, so a key may lie in a folder without a name, and a path may
be a document and a folder at once. Both are listed like any others.
-/

namespace RoleWeave

namespace Pack

/-! ## Documents -/

/-- A document was put at a key, and none after it. -/
def LastPut (files : List (Text × Text)) (key content : Text) : Prop :=
  ∃ earlier path later, files = earlier ++ (path, content) :: later ∧
    Path.trimSlashes path = key ∧ ∀ file ∈ later, Path.trimSlashes file.1 ≠ key

/-- What is put at a path is found at its key, and at any other key the same as before. What was at
    the key is taken out first. -/
theorem lookup_put (pack : Pack) (path content key : Text) :
    (pack.put path content).files.lookup key =
      if Path.trimSlashes path = key then some content else pack.files.lookup key := by
  have kept : ∀ files : List (Text × Text), Path.trimSlashes path ≠ key →
      (files.filter (fun file => file.1 != Path.trimSlashes path)).lookup key =
        files.lookup key := by
    intro files other
    induction files with
    | nil => rfl
    | cons file later ih =>
      by_cases same : file.1 = Path.trimSlashes path
      · have unlike : (key == file.1) = false := beq_false_of_ne (same ▸ other.symm)
        rw [List.filter_cons_of_neg (by simp [same]), ih, List.lookup_cons, unlike]
      · rw [List.filter_cons_of_pos (by simp [same]), List.lookup_cons, List.lookup_cons, ih]
  rw [put, List.lookup_cons]
  by_cases same : Path.trimSlashes path = key
  · simp [same]
  · have unlike : (key == Path.trimSlashes path) = false := beq_false_of_ne (Ne.symm same)
    rw [unlike, if_neg same]
    exact kept pack.files same

/-- At a key of a filled pack the document is found that was put there last. By induction on the
    documents from the last to the first. -/
theorem lookup_filled (root : Text) (files : List (Text × Text)) (key : Text) :
    (filled root files).files.lookup key =
      (files.reverse.find? (fun file => Path.trimSlashes file.1 == key)).map Prod.snd := by
  induction files using List.reverseRecOn with
  | nil => rfl
  | append_singleton earlier file ih =>
    have step : filled root (earlier ++ [file]) = (filled root earlier).put file.1 file.2 := by
      simp [filled, List.foldl_append]
    rw [step, lookup_put, ih, List.reverse_append, List.reverse_singleton, List.singleton_append]
    by_cases same : Path.trimSlashes file.1 = key
    · simp [same]
    · simp [same]

/-- What is found among documents in the reverse order is what was put at the key last. No document
    behind it was put at the same key. -/
theorem lastPut_iff {files : List (Text × Text)} {key content : Text} :
    LastPut files key content ↔
      (files.reverse.find? (fun file => Path.trimSlashes file.1 == key)).map Prod.snd =
        some content := by
  simp only [Option.map_eq_some_iff, List.find?_eq_some_iff_append, beq_iff_eq, Bool.not_eq_true',
    beq_eq_false_iff_ne]
  constructor
  · rintro ⟨earlier, path, later, rfl, here, others⟩
    exact ⟨(path, content), ⟨here, later.reverse, earlier.reverse, by simp, by simpa using others⟩,
      rfl⟩
  · rintro ⟨⟨path, _⟩, ⟨here, later, earlier, order, others⟩, rfl⟩
    refine ⟨earlier.reverse, path, later.reverse, ?_, here, by simpa using others⟩
    rw [← List.reverse_inj, order]
    simp

/-- What is read from a filled pack is what was put at the path last. Nothing can be read where
    nothing was put. The path is trimmed like those that documents were put at. -/
theorem read_filled (root : Text) (files : List (Text × Text)) (path : Text) :
    (∀ content, (filled root files).read path = .ok content ↔
      LastPut files (Path.trimSlashes path) content) ∧
    ∀ fault, (filled root files).read path = .error fault ↔
      fault = notFound (Path.trimSlashes path) ∧
        ∀ file ∈ files, Path.trimSlashes file.1 ≠ Path.trimSlashes path := by
  have found := lookup_filled root files (Path.trimSlashes path)
  have nothing : (filled root files).files.lookup (Path.trimSlashes path) = none ↔
      ∀ file ∈ files, Path.trimSlashes file.1 ≠ Path.trimSlashes path := by
    rw [found, Option.map_eq_none_iff, List.find?_eq_none]
    simp
  simp only [lastPut_iff, ← found, ← nothing, read]
  cases (filled root files).files.lookup (Path.trimSlashes path) with
  | none => simp [eq_comm]
  | some content => simp

/-- The size of a filled pack is the number of different keys that documents were put at. Its keys
    are these, and none is there twice. -/
theorem size_filled (root : Text) (files : List (Text × Text)) :
    (filled root files).size =
      (files.map (fun file => Path.trimSlashes file.1)).toFinset.card := by
  obtain ⟨distinct, known⟩ := keys_filled root files
  have same : (filled root files).keys.toFinset =
      (files.map (fun file => Path.trimSlashes file.1)).toFinset := by
    ext key
    rw [List.mem_toFinset, List.mem_toFinset, known, List.mem_map]
  rw [← same, List.toFinset_card_of_nodup distinct, keys, List.length_map, size]

/-! ## Folders -/

/-- A path is listed like its trimmed form: it fails if it is not the root and nothing is under it,
    and has the first names of what is under it otherwise. -/
theorem list_eq (pack : Pack) (path : Text) :
    pack.list path =
      if isRoot (Path.trimSlashes path) = false ∧ pack.under (Path.trimSlashes path) = [] then
        .error (notFound (Path.trimSlashes path))
      else
        .ok (Entry.listing ((pack.under (Path.trimSlashes path)).map Entry.ofRest)) := by
  have trimmed := Path.trimmed_trimSlashes path
  rw [← list_of_trimmed trimmed, list, list, trimmed.eq]

/-- Nothing is under a folder below which there is no key. -/
theorem under_eq_nil_iff {pack : Pack} {folder : Text} :
    pack.under folder = [] ↔ ∀ key, pack.IsKey key → ¬ opening folder <+: key := by
  rw [← List.map_eq_nil_iff (f := (opening folder ++ ·)), ← below, List.eq_nil_iff_forall_not_mem]
  simp only [mem_below, isKey_iff, not_and]

/-- A folder cannot be listed exactly if it is not the root and there is no key below it. The fault
    names the trimmed path. -/
theorem list_eq_error_iff {pack : Pack} {path : Text} {fault : Fault} :
    pack.list path = .error fault ↔
      fault = notFound (Path.trimSlashes path) ∧ isRoot (Path.trimSlashes path) = false ∧
        ∀ key, pack.IsKey key → ¬ opening (Path.trimSlashes path) <+: key := by
  rw [list_eq, ← under_eq_nil_iff]
  split
  · rename_i missing
    simp [missing, eq_comm]
  · rename_i there
    simp only [reduceCtorEq, false_iff]
    exact fun missing => there missing.2

/-- The entries of a folder are there once, in the order of their names. A name that a slash follows
    in a key below the folder is that of a folder, and a name that is the rest of a key is that of a
    file. Both can be said of one name, and then there are two entries.

    Proof: the path may be trimmed, which changes nothing about the list. What is below a trimmed
    folder is what its keys have behind the opening, and the names are cut from there. -/
theorem entries_of_list {pack : Pack} {path : Text} {entries : List Entry}
    (listed : pack.list path = .ok entries) :
    entries.Nodup ∧ entries.Pairwise Entry.Before ∧ ∀ name,
      (⟨name, true⟩ ∈ entries ↔ '/' ∉ name ∧ ∃ key, pack.IsKey key ∧
        opening (Path.trimSlashes path) ++ name ++ ['/'] <+: key) ∧
      (⟨name, false⟩ ∈ entries ↔ '/' ∉ name ∧
        pack.IsKey (opening (Path.trimSlashes path) ++ name)) := by
  have trimmed := Path.trimmed_trimSlashes path
  have here : pack.list (Path.trimSlashes path) = .ok entries := by
    rw [← listed, list, list, trimmed.eq]
  have order : entries.Nodup ∧ entries.Pairwise Entry.Before := by
    rw [list_eq] at listed
    split at listed
    · cases listed
    · cases listed
      exact ⟨Entry.nodup_listing _, Entry.listing_ordered _⟩
  refine ⟨order.1, order.2, fun name => ?_⟩
  obtain ⟨files, folders⟩ := mem_of_list trimmed here name
  rw [← Entry.mem_folderNames, ← Entry.mem_fileNames, files, folders, mem_under, isKey_iff]
  refine ⟨and_congr_right fun _ => ?_, Iff.rfl⟩
  constructor
  · rintro ⟨later, member⟩
    exact ⟨_, isKey_iff.mpr (mem_under.mp member), later, by simp⟩
  · rintro ⟨key, known, later, rfl⟩
    refine ⟨later, mem_under.mpr ?_⟩
    simpa [isKey_iff] using known

/-- A document can be read exactly where there is a key. -/
theorem read_iff {pack : Pack} {path : Text} :
    (∃ content, pack.read path = .ok content) ↔ pack.IsKey (Path.trimSlashes path) := by
  have found : (∃ content, pack.read path = .ok content) ↔
      (pack.files.lookup (Path.trimSlashes path)).isSome = true := by
    rw [read]
    cases pack.files.lookup (Path.trimSlashes path) <;> simp
  rw [found, List.lookup_isSome_iff, isKey_iff, keys, List.mem_map]
  exact exists_congr fun file => and_congr_right fun _ => beq_iff_eq.trans eq_comm

/-- A folder can be listed exactly if it is the root or there is a key below it. It follows from
    `list_eq_error_iff`, which says when listing it fails. -/
theorem list_iff {pack : Pack} {path : Text} :
    (∃ entries, pack.list path = .ok entries) ↔ isRoot (Path.trimSlashes path) = true ∨
      ∃ key, pack.IsKey key ∧ opening (Path.trimSlashes path) <+: key := by
  have fails (fault : Fault) := @list_eq_error_iff pack path fault
  cases listed : pack.list path with
  | ok entries =>
    refine iff_of_true ⟨entries, rfl⟩ ?_
    by_contra neither
    simp only [not_or, Bool.not_eq_true, not_exists, not_and] at neither
    rw [(fails _).mpr ⟨rfl, neither⟩] at listed
    cases listed
  | error fault =>
    obtain ⟨_, deep, none⟩ := (fails fault).mp listed
    refine iff_of_false (by simp) ?_
    rintro (root | ⟨key, known, inside⟩)
    · rw [deep] at root
      cases root
    · exact none key known inside

/-- There is something at a path exactly if it is the root, or can be read or listed. A key is there
    at the path or begins with it and a slash. -/
theorem holds_iff {pack : Pack} {path : Text} :
    pack.holds path = true ↔ isRoot (Path.trimSlashes path) = true ∨
      (∃ content, pack.read path = .ok content) ∨ ∃ entries, pack.list path = .ok entries := by
  rw [read_iff, list_iff, holds]
  cases root : isRoot (Path.trimSlashes path) with
  | true => simp
  | false =>
    have begins (key : Text) : (Text.after? (Path.trimSlashes path ++ ['/']) key).isSome = true ↔
        opening (Path.trimSlashes path) <+: key := by
      rw [opening, root, if_neg Bool.false_ne_true, Option.isSome_iff_exists]
      constructor
      · rintro ⟨rest, found⟩
        exact ⟨rest, (Text.eq_append_of_after? found).symm⟩
      · rintro ⟨rest, rfl⟩
        exact ⟨rest, Text.after?_append _ _⟩
    simp only [Bool.false_or, List.any_eq_true, Bool.or_eq_true, beq_iff_eq, begins, IsKey,
      Bool.false_eq_true, false_or]
    constructor
    · rintro ⟨⟨key, content⟩, member, rfl | inside⟩
      · exact .inl ⟨content, member⟩
      · exact .inr ⟨key, ⟨content, member⟩, inside⟩
    · rintro (⟨content, member⟩ | ⟨key, ⟨content, member⟩, inside⟩)
      · exact ⟨_, member, .inl rfl⟩
      · exact ⟨_, member, .inr inside⟩

/-! ## All answers -/

/-- Only the empty path and a single dot are the root. -/
theorem isRoot_iff {path : Text} : isRoot path = true ↔ path = [] ∨ path = ['.'] := by
  simp [isRoot, Path.here]

/-- The answers of a pack agree with each other and with what was put into it. What is read at a
    path is what was put there last, and nothing can be read where nothing was put. There is
    something at a path exactly if it is the root, or can be read, or can be listed. A path is
    listed unless it is not the root and no key lies below it. Its entries are the names without
    slashes that a slash follows in a key, as folders, and those that are the rest of a key, as
    files, each of them once and in the order of names. The size is the number of different paths.

    Proof: `read_filled` and `size_filled` speak of the pack as it was filled, and `holds_iff`,
    `list_eq_error_iff` and `entries_of_list` of any pack, by its keys. The keys of a filled pack
    are the trimmed paths that documents were put at. -/
theorem answers_agree (root : Text) (files : List (Text × Text)) (path : Text) :
    let pack := filled root files
    let place := Path.trimSlashes path
    let below := if place = [] ∨ place = ['.'] then [] else place ++ ['/']
    ((∀ content, pack.read path = .ok content ↔ LastPut files place content) ∧
      ∀ fault, pack.read path = .error fault ↔
        fault = .io .missing ("not found: ".toList ++ place) ∧
          ∀ file ∈ files, Path.trimSlashes file.1 ≠ place) ∧
    (pack.holds path = true ↔ place = [] ∨ place = ['.'] ∨
      (∃ content, pack.read path = .ok content) ∨ ∃ entries, pack.list path = .ok entries) ∧
    (match pack.list path with
      | .error fault => fault = .io .missing ("not found: ".toList ++ place)
      | .ok entries =>
          entries.Nodup ∧ entries.Pairwise Entry.Before ∧ ∀ name,
            (⟨name, true⟩ ∈ entries ↔ '/' ∉ name ∧
              ∃ key, pack.IsKey key ∧ below ++ name ++ ['/'] <+: key) ∧
            (⟨name, false⟩ ∈ entries ↔ '/' ∉ name ∧ pack.IsKey (below ++ name))) ∧
    ((∃ fault, pack.list path = .error fault) ↔ place ≠ [] ∧ place ≠ ['.'] ∧
      ∀ key, pack.IsKey key → ¬ below <+: key) ∧
    (∀ key, pack.IsKey key ↔ ∃ file ∈ files, Path.trimSlashes file.1 = key) ∧
    pack.size = (files.map (fun file => Path.trimSlashes file.1)).toFinset.card := by
  intro pack place below
  have begins : opening place = below := by simp only [opening, isRoot_iff, below]
  refine ⟨read_filled root files path, ?_, ?_, ?_, ?_, size_filled root files⟩
  · rw [holds_iff, isRoot_iff, or_assoc]
  · cases listed : pack.list path with
    | error fault => exact (list_eq_error_iff.mp listed).1
    | ok entries =>
      rw [← begins]
      exact entries_of_list listed
  · have fails (fault : Fault) := @list_eq_error_iff pack path fault
    simp only [fails, exists_eq_left, isRoot_eq_false_iff, Path.here, and_assoc]
    rw [← begins]
  · intro key
    rw [isKey_iff, (keys_filled root files).2]

/-- A name can be that of a folder and of a file, and two slashes make a folder without a name. -/
example : ((filled defaultRoot [("/a/b".toList, "1".toList), ("a//c".toList, "2".toList),
    ("a/b/d".toList, "3".toList), ("ab/e".toList, "4".toList)]).list "a/".toList).toOption =
      some [⟨[], true⟩, ⟨"b".toList, true⟩, ⟨"b".toList, false⟩] := by decide +kernel

end Pack

end RoleWeave
