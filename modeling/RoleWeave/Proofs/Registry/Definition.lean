import RoleWeave.Registry.Index

/-!
# The last definition of a resource

An index knows one descriptor for each key, the last that was put in. What a source delivers is put
in one after another, so of its descriptors with one key the last is found from then on, and where it
delivers none the index finds what it found before.
-/

namespace RoleWeave

/-- Noting the source of a descriptor changes nothing else about it. -/
theorem Descriptor.attributedTo_eq (source : Text) (descriptor : Descriptor) :
    (descriptor.attributedTo source).key = descriptor.key ∧
      (descriptor.attributedTo source).reference = descriptor.reference := by
  unfold attributedTo
  split <;> exact ⟨rfl, rfl⟩

namespace Index

/-- A descriptor that is put in is found under its key, and the others as before. It takes the place
    of one with its key, if there is one. -/
theorem find?_placeDescriptor (descriptor : Descriptor) (key : Key) (entries : List Descriptor) :
    (placeDescriptor descriptor entries).find? (fun other => other.key == key) =
      if descriptor.key = key then some descriptor
      else entries.find? (fun other => other.key == key) := by
  induction entries with
  | nil => by_cases same : descriptor.key = key <;> simp [placeDescriptor, same]
  | cons other rest ih =>
    rw [placeDescriptor]
    by_cases same : descriptor.key = key
    · by_cases replaced : other.key = descriptor.key
      · simp [replaced, same]
      · have unlike : other.key ≠ key := fun equal => replaced (equal.trans same.symm)
        simp [unlike, ih, same]
    · by_cases replaced : other.key = descriptor.key
      · simp [replaced, same]
      · simp only [replaced, if_false, List.find?_cons, ih, same]

/-- Defining a resource is putting its descriptor in. -/
theorem find?_insert (index : Index) (descriptor : Descriptor) (protocol id : Text) :
    (index.insert descriptor).find? protocol id =
      if descriptor.key = ⟨protocol, id⟩ then some descriptor else index.find? protocol id :=
  find?_placeDescriptor descriptor ⟨protocol, id⟩ index.entries

/-- Of what a source delivers for a key, the last is found. If it delivers nothing for the key, the
    index finds what it found before. -/
theorem find?_deliver (index : Index) (source : Text) (found : List Descriptor)
    (protocol id : Text) :
    (index.deliver source found).find? protocol id =
      ((found.reverse.find? (fun descriptor => descriptor.key == ⟨protocol, id⟩)).map
        (Descriptor.attributedTo source)).or (index.find? protocol id) := by
  induction found generalizing index with
  | nil => rfl
  | cons descriptor later ih =>
    have further : index.deliver source (descriptor :: later) =
        (index.insert (descriptor.attributedTo source)).deliver source later := rfl
    rw [further, ih, find?_insert, (Descriptor.attributedTo_eq source descriptor).1,
      List.reverse_cons, List.find?_append]
    cases later.reverse.find? (fun descriptor => descriptor.key == ⟨protocol, id⟩) with
    | some last => rfl
    | none => by_cases same : descriptor.key = ⟨protocol, id⟩ <;> simp [same]

end Index

end RoleWeave
