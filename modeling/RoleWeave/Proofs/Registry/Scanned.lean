import RoleWeave.Proofs.Registry.Definition
import RoleWeave.Proofs.Storage.Walked
import RoleWeave.Registry.Basic
import RoleWeave.Registry.Source

/-!
# What a scanned folder defines

A file is described if it is called after a resource: `id.kind.md`, where the kind has letters only.
A registry that is filled from a scanned folder knows the resource by the description of the last
file that is called after it, in the order of the walk.
-/

namespace RoleWeave

namespace Scan

/-- An ending is removed where it is, and from no other text. It is looked for at the beginning of
    the text that is read backwards. -/
theorem before?_eq_some_iff {ending text rest : Text} :
    before? ending text = some rest ↔ text = rest ++ ending := by
  rw [before?, Option.map_eq_some_iff]
  constructor
  · rintro ⟨turned, found, rfl⟩
    have whole := congrArg List.reverse (Text.eq_append_of_after? found)
    simpa using whole
  · rintro rfl
    refine ⟨rest.reverse, ?_, List.reverse_reverse rest⟩
    rw [List.reverse_append]
    exact Text.after?_append ending.reverse rest.reverse

/-- A text in which a character does not occur is free of it backwards as well. -/
theorem ne_of_mem_reverse {cut : Char} {text : Text} (absent : cut ∉ text) :
    ∀ c ∈ text.reverse, (c != cut) = true := by
  intro c member
  have other : c ≠ cut := by
    rintro rfl
    exact absent (List.mem_reverse.mp member)
  simpa using other

/-- A text is cut at a character behind which it does not occur again. What is read from the end up
    to the first such character is the last part. -/
theorem cutLast_append {cut : Char} (front : Text) {last : Text} (absent : cut ∉ last) :
    cutLast cut (front ++ cut :: last) = some (front, last) := by
  have taken : ((front ++ cut :: last).reverse.takeWhile (· != cut)).reverse = last := by
    rw [List.reverse_append, List.reverse_cons, List.append_assoc,
      List.takeWhile_append_of_pos (ne_of_mem_reverse absent)]
    simp
  have size : (front ++ cut :: last).length = front.length + last.length + 1 := by
    rw [List.length_append, List.length_cons, Nat.add_assoc]
  have rest : (front ++ cut :: last).length - last.length - 1 = front.length := by omega
  unfold cutLast
  dsimp only
  rw [taken, if_pos (by omega), rest, List.take_left]

/-- A text without the character is not cut. -/
theorem cutLast_of_not_mem {cut : Char} {text : Text} (absent : cut ∉ text) :
    cutLast cut text = none := by
  unfold cutLast
  dsimp only
  rw [List.takeWhile_eq_self_iff.mpr (ne_of_mem_reverse absent), List.reverse_reverse,
    if_neg (Nat.lt_irrefl _)]

/-- A text is cut where the character occurs for the last time. Of two places, that behind which it
    does not occur is the same. -/
theorem cutLast_eq_some_iff {cut : Char} {text front last : Text} :
    cutLast cut text = some (front, last) ↔ text = front ++ cut :: last ∧ cut ∉ last := by
  constructor
  · intro found
    by_cases member : cut ∈ text
    · obtain ⟨later, earlier, turned, absent⟩ :=
        List.eq_append_cons_of_mem (List.mem_reverse.mpr member)
      have whole : text = earlier.reverse ++ cut :: later.reverse := by
        have again := congrArg List.reverse turned
        simpa using again
      have unseen : cut ∉ later.reverse := by simpa using absent
      rw [whole, cutLast_append _ unseen] at found
      cases found
      exact ⟨whole, unseen⟩
    · rw [cutLast_of_not_mem member] at found
      cases found
  · rintro ⟨rfl, absent⟩
    exact cutLast_append front absent

/-- The file at a path is called after a resource. -/
structure Called (path id kind : Text) : Prop where
  file : fileName path = id ++ '.' :: kind ++ ".md".toList
  identified : id ≠ []
  kinded : kind ≠ []
  lettered : ∀ c ∈ kind, c.isAlpha = true

/-- The name of a file is read as it is meant.

    Proof: reading removes the ending, cuts what is left at its last full stop, and checks both
    parts. A kind consists of letters, so there is no full stop in it, and the cut is the one in
    front of the kind. The other way round the name is put together from what was cut. -/
theorem resourceName?_eq_some_iff {path id kind : Text} :
    resourceName? (fileName path) = some (id, kind) ↔ Called path id kind := by
  constructor
  · intro read
    obtain ⟨stem, ended, read⟩ := Option.bind_eq_some_iff.mp read
    obtain ⟨⟨front, last⟩, cut, read⟩ := Option.bind_eq_some_iff.mp read
    dsimp only at read
    split at read
    · cases read
    · rename_i fit
      cases read
      simp only [Bool.or_eq_true, Bool.not_eq_true', not_or, Bool.not_eq_false,
        List.isEmpty_iff] at fit
      obtain ⟨⟨identified, kinded⟩, lettered⟩ := fit
      obtain ⟨rfl, _⟩ := cutLast_eq_some_iff.mp cut
      exact ⟨before?_eq_some_iff.mp ended, identified, kinded, List.all_eq_true.mp lettered⟩
  · rintro ⟨file, identified, kinded, lettered⟩
    have undotted : '.' ∉ kind := by
      intro dot
      have letter := lettered '.' dot
      cases letter
    have ended : before? ".md".toList (fileName path) = some (id ++ '.' :: kind) :=
      before?_eq_some_iff.mpr file
    have cut : cutLast '.' (id ++ '.' :: kind) = some (id, kind) :=
      cutLast_eq_some_iff.mpr ⟨rfl, undotted⟩
    have letters : kind.all Char.isAlpha = true := List.all_eq_true.mpr lettered
    refine Option.bind_eq_some_iff.mpr ⟨_, ended, Option.bind_eq_some_iff.mpr ⟨_, cut, ?_⟩⟩
    dsimp only
    rw [letters]
    simp [identified, kinded]

/-- The path of a file that is called after a resource is not empty. -/
theorem Called.nonempty {path id kind : Text} (called : Called path id kind) : path ≠ [] := by
  rintro rfl
  have file := called.file
  simp [fileName] at file

/-- Of paths among which one is called after a resource, one is the last. It is the first that is
    found in the walk read backwards. -/
theorem exists_last {paths : List Text} {path id kind : Text} (member : path ∈ paths)
    (called : Called path id kind) :
    ∃ before last after, paths = before ++ last :: after ∧ Called last id kind ∧
      ∀ other ∈ after, ¬ Called other id kind := by
  have present : (paths.reverse.find?
      (fun other => decide (resourceName? (fileName other) = some (id, kind)))).isSome = true := by
    rw [List.find?_isSome]
    exact ⟨path, List.mem_reverse.mpr member,
      decide_eq_true (resourceName?_eq_some_iff.mpr called)⟩
  obtain ⟨last, found⟩ := Option.isSome_iff_exists.mp present
  obtain ⟨named, later, earlier, turned, others⟩ := List.find?_eq_some_iff_append.mp found
  refine ⟨earlier.reverse, last, later.reverse, ?_,
    resourceName?_eq_some_iff.mp (of_decide_eq_true named), ?_⟩
  · have whole := congrArg List.reverse turned
    simpa using whole
  · intro other among again
    have unlike := others other (List.mem_reverse.mp among)
    rw [resourceName?_eq_some_iff.mpr again] at unlike
    simp at unlike

/-- The description that a file contributes. -/
def described (location : Text) (shelf : Shelf) (storage : Storage) (path : Text) :
    Option Descriptor :=
  (resourceName? (fileName path)).map
    (fun named => describe location shelf storage path named.1 named.2)

/-- What a description says of the resource, whatever the file holds. -/
theorem describe_eq (location : Text) (shelf : Shelf) (storage : Storage) (path id kind : Text) :
    (describe location shelf storage path id kind).key = ⟨kind, id⟩ ∧
      (describe location shelf storage path id kind).reference =
        (Reference.plain location path).render := by
  unfold describe
  dsimp only
  split <;> exact ⟨rfl, rfl⟩

/-- Of the files called after a resource, the last defines it. Those behind it describe other
    resources. -/
theorem find?_described {location : Text} {shelf : Shelf} {storage : Storage}
    {before after : List Text} {last id kind : Text} (called : Called last id kind)
    (final : ∀ other ∈ after, ¬ Called other id kind) :
    ((before ++ last :: after).filterMap (described location shelf storage)).reverse.find?
        (fun descriptor => descriptor.key == ⟨kind, id⟩) =
      some (describe location shelf storage last id kind) := by
  have here : described location shelf storage last =
      some (describe location shelf storage last id kind) := by
    rw [described, resourceName?_eq_some_iff.mpr called]
    rfl
  have later : (after.filterMap (described location shelf storage)).reverse.find?
      (fun descriptor => descriptor.key == ⟨kind, id⟩) = none := by
    rw [List.find?_eq_none]
    intro descriptor member same
    obtain ⟨other, among, shown⟩ := List.mem_filterMap.mp (List.mem_reverse.mp member)
    obtain ⟨⟨otherId, otherKind⟩, named, rfl⟩ := Option.map_eq_some_iff.mp shown
    rw [(describe_eq _ _ _ _ _ _).1, beq_iff_eq, Key.mk.injEq] at same
    obtain ⟨rfl, rfl⟩ := same
    exact final other among (resourceName?_eq_some_iff.mp named)
  rw [List.filterMap_append, List.filterMap_cons_some here, List.reverse_append,
    List.reverse_cons, List.find?_append, List.find?_append, later, Option.none_or]
  simp [(describe_eq location shelf storage last id kind).1]

/-- Below a folder that can be walked, the files that are called after resources are discovered.
    That it can be walked tells that it is there. -/
theorem discover_of_walk (location : Text) {name folder : Text} {storage : Storage}
    {paths : List Text} (walked : storage.walk (.pack name) folder = .ok paths) :
    discover location (.pack name) folder storage =
      .ok (paths.filterMap (described location (.pack name) storage)) := by
  have there := Storage.holds_of_walk walked
  simp only [discover, there, walked, bind, Except.bind, if_true]
  rfl

end Scan

/-- A registry with a single source is filled with what that source delivers, if it delivers at
    once. -/
theorem Registry.fill_prompt (name : Text) {discover : Storage → Except Fault (List Descriptor)}
    {storage : Storage} {found : List Descriptor} (discovered : discover storage = .ok found) :
    ∃ filled, (Registry.ofSources [Source.prompt name discover]).fill storage = (.ok (), filled) ∧
      filled.known = Index.empty.deliver name found := by
  have gathered : Bootstrap.gather storage Index.empty 0 [Source.prompt name discover] [0] =
      (.ok (Index.empty.deliver name found), [1]) := by
    simp [Bootstrap.gather, Source.prompt, discovered, Bootstrap.nextCall]
  have filled : (Registry.ofSources [Source.prompt name discover]).fill storage =
      (.ok (), { Registry.ofSources [Source.prompt name discover] with
        calls := [1], phase := .ready, index := some (Index.empty.deliver name found) }) := by
    simp [Registry.fill, Registry.ofSources, gathered]
  exact ⟨_, filled, rfl⟩

end RoleWeave
