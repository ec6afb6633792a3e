import RoleWeave.Fault
import RoleWeave.Text.NameSet

/-!
# Paths and entries

A path inside a store is relative and never climbs. `normalize` admits a path only when it is of
that kind, and drops the segments that do not move: empty ones and single dots. Both slashes
separate segments.

A folder is listed as its entries in the order of their names. A name may stand for a folder and
for a file at the same time where folders exist only because of the paths below them; the folder
then comes first.
-/

namespace RoleWeave

namespace Path

/-- Whether a character separates the segments of a path that is still to be checked. -/
def isSlash (c : Char) : Bool :=
  c == '/' || c == '\\'

/-- Whether a path is not relative to anything: it begins with a slash or names a drive. -/
def isAbsolute (path : Text) : Bool :=
  path.head?.any isSlash || path.contains ':'

/-- The segment that climbs to the folder around. -/
def parent : Text := ['.', '.']

/-- The segment that stays where it is. -/
def here : Text := ['.']

/-- The segments of a path. -/
def segments (path : Text) : List Text :=
  Text.split isSlash path

/-- Whether a segment moves anywhere. -/
def moves (segment : Text) : Bool :=
  !segment.isEmpty && segment != here

/-- Check that a path stays below its root, and write it in its shortest form. -/
def normalize (path : Text) : Except Fault Text :=
  if isAbsolute path then
    .error (.invalidReference ("path must be relative: ".toList ++ path))
  else if (segments path).contains parent then
    .error (.invalidReference ("path escapes its root: ".toList ++ path))
  else .ok (Text.join ['/'] ((segments path).filter moves))

/-- The place of a path below a root, as text. -/
def locate (root path : Text) : Text :=
  let bare := Text.trimStart (· == '/') path
  if root.isEmpty then bare else Text.trimEnd (· == '/') root ++ ['/'] ++ bare

/-- A path without the slashes at both ends. -/
def trimSlashes (path : Text) : Text :=
  Text.trimBoth (· == '/') path

end Path

/-- One entry of a folder. -/
structure Entry where
  name : Text
  isFolder : Bool
deriving DecidableEq, Repr

/-- Put entries in the order of a listing, each once. -/
def Entry.listing (entries : List Entry) : List Entry :=
  (NameSet.ofList (entries.map Entry.name)).names.flatMap
    (fun name => [⟨name, true⟩, ⟨name, false⟩].filter (fun entry => decide (entry ∈ entries)))

/-- A listing has exactly the given entries. It puts them in order and leaves none out. -/
theorem Entry.mem_listing {entries : List Entry} {entry : Entry} :
    entry ∈ Entry.listing entries ↔ entry ∈ entries := by
  have named : ∀ name, name ∈ (NameSet.ofList (entries.map Entry.name)).names ↔
      name ∈ entries.map Entry.name := fun name => NameSet.mem_ofList
  simp only [Entry.listing, List.mem_flatMap, named, List.mem_filter, decide_eq_true_eq]
  constructor
  · rintro ⟨_, _, _, member⟩
    exact member
  · intro member
    refine ⟨entry.name, List.mem_map_of_mem member, ?_, member⟩
    obtain ⟨name, isFolder⟩ := entry
    cases isFolder <;> simp

end RoleWeave
