import RoleWeave.Text.Basic

/-!
# Dictionaries

A dictionary holds values under texts, and one value at most under each. A value that is put under a
text takes the place of the one that may be there. What is found under a text is all that a
dictionary tells: the order of its entries is not part of its meaning.
-/

namespace RoleWeave

/-- Values under texts, which are their keys. -/
structure Dictionary (α : Type) where
  entries : List (Text × α)
  distinct : (entries.map Prod.fst).Nodup
deriving DecidableEq, Repr

namespace Dictionary

variable {α : Type}

/-- The dictionary without values. -/
def empty : Dictionary α := ⟨[], List.nodup_nil⟩

/-- The texts under which there are values. -/
def keys (dictionary : Dictionary α) : List Text :=
  dictionary.entries.map Prod.fst

/-- The number of values. -/
def size (dictionary : Dictionary α) : Nat :=
  dictionary.entries.length

/-- The value under a text. -/
def find? (dictionary : Dictionary α) (key : Text) : Option α :=
  (dictionary.entries.find? (fun entry => entry.1 == key)).map Prod.snd

/-- Put a value under a text. -/
def put (dictionary : Dictionary α) (key : Text) (value : α) : Dictionary α where
  entries := (key, value) :: dictionary.entries.filter (fun entry => entry.1 != key)
  distinct := by
    refine List.nodup_cons.mpr ⟨?_, ?_⟩
    · intro member
      obtain ⟨entry, kept, same⟩ := List.mem_map.mp member
      simp [same] at kept
    · exact dictionary.distinct.sublist (List.filter_sublist.map Prod.fst)

/-- Nothing is found in the dictionary without values. -/
@[simp] theorem find?_empty (key : Text) : (empty : Dictionary α).find? key = none := rfl

/-- A value is found where it was put, and under any other text the same as before. The entry that
    was there under the same text is taken out. -/
theorem find?_put (dictionary : Dictionary α) (key other : Text) (value : α) :
    (dictionary.put key value).find? other =
      if other = key then some value else dictionary.find? other := by
  by_cases same : other = key
  · simp [find?, put, same]
  · have kept : dictionary.entries.find? (fun entry => entry.1 != key && entry.1 == other) =
        dictionary.entries.find? (fun entry => entry.1 == other) := by
      congr 1
      funext entry
      by_cases here : entry.1 = other
      · simp [here, same]
      · simp [here]
    rw [find?, find?, put, if_neg same, List.find?_cons_of_neg (by simp [Ne.symm same]),
      List.find?_filter, ← kept]
    simp only [Bool.decide_and, Bool.decide_eq_true]

/-- The keys are the texts under which something is found. -/
theorem mem_keys {dictionary : Dictionary α} {key : Text} :
    key ∈ dictionary.keys ↔ (dictionary.find? key).isSome = true := by
  simp [keys, find?]

end Dictionary

end RoleWeave
