import RoleWeave.Library.Table
import RoleWeave.Step
import RoleWeave.Text.Quoted

/-!
# The library

The library brings together what references are resolved with: the storage, the registry and the
table of protocols. A reference is resolved to a location, and the location is read. The registry is
filled the first time that anything asks for it.
-/

namespace RoleWeave

/-- A place on a shelf to which a reference leads. -/
structure Location where
  protocol : Text
  path : Text
  shelf : Shelf
deriving DecidableEq, Repr

/-- The content found under a reference. -/
structure Resolved where
  reference : Reference
  location : Location
  content : Text
deriving DecidableEq, Repr

/-- The storage, the registry and the protocols. -/
structure Library where
  storage : Storage
  registry : Registry
  table : Table

namespace Library

/-- The place of a location, as it is shown. -/
def absolute (library : Library) (location : Location) : Text :=
  library.storage.locate location.shelf location.path

/-- A location on one line, with its texts quoted, for those who look for a mistake. -/
def describe (library : Library) (location : Location) : Text :=
  "Location \x7b protocol: ".toList ++ Text.quoted location.protocol ++
    ", path: ".toList ++ Text.quoted location.path ++
    ", absolute: ".toList ++ Text.quoted (library.absolute location) ++ " \x7d".toList

/-- Find a path on a shelf. The path has to be safe and there has to be something at it. -/
def findOnShelf (storage : Storage) (protocol : Text) (shelf : Shelf) (path : Text) :
    Except Fault Location := do
  let normalized ← Path.normalize path
  if normalized.isEmpty then .error (.resourceNotFound protocol path)
  else if ← storage.holds shelf normalized then .ok ⟨protocol, normalized, shelf⟩
  else .error (.resourceNotFound protocol path)

/-- Whether a character belongs to the marker that may precede a bare path. -/
def isMarker (c : Char) : Bool :=
  c == '@' || c == '!' || c == '?'

/-- What the reference of a descriptor points at. A reference without a protocol is a path of the
    default location. -/
def target (protocol defaultLocation reference : Text) : Except Fault Reference :=
  let bare := Text.trim reference
  if Text.holds bare Key.separator then Reference.parse bare
  else
    let path := Text.trimStart isMarker bare
    if path.isEmpty then
      .error (.invalidReference
        ((Key.mk protocol bare).render ++ ": empty reference".toList))
    else .ok (Reference.plain defaultLocation path)

/-- Resolve a reference whose protocol has to be a location. -/
def resolveLocation (library : Library) (reference : Reference) : Except Fault Location := do
  match ← library.table.resolver reference.protocol with
  | .directory shelf =>
      findOnShelf library.storage reference.protocol shelf reference.resource
  | .failing fault => .error fault
  | .catalogue _ =>
      .error (.invalidReference
        (reference.render ++ " does not point at a storage location".toList))

/-- Look an id up in the registry and follow what is found to its location. -/
def resolveListed (library : Library) (protocol defaultLocation id : Text) :
    Except Fault Location :=
  match library.registry.known.find? protocol id with
  | none => .error (.resourceNotFound protocol id)
  | some descriptor => do
      library.resolveLocation (← target protocol defaultLocation descriptor.reference)

/-- Fill the registry, unless it is filled. -/
def fill : Step Library Unit :=
  .of (fun library =>
    let (outcome, registry) := library.registry.fill library.storage
    (outcome, { library with registry := registry }))

/-- Resolve a reference to its location. -/
def resolve (reference : Reference) : Step Library Location := do
  match ← Step.look (fun library => library.table.resolver reference.protocol) with
  | .catalogue defaultLocation =>
      fill
      Step.look (fun library =>
        library.resolveListed reference.protocol defaultLocation reference.resource)
  | _ => Step.look (fun library => library.resolveLocation reference)

/-- Read a location for a reference. That there is nothing to read means that there is no such
    resource. -/
def readFor (library : Library) (reference : Reference) (location : Location) :
    Except Fault Text :=
  match library.storage.read location.shelf location.path with
  | .error (.io .missing _) =>
      .error (.resourceNotFound reference.protocol reference.resource)
  | outcome => outcome

/-- Load the content under a reference. -/
def load (reference : Reference) : Step Library Resolved := do
  fill
  let location ← resolve reference
  let content ← Step.look (fun library => library.readFor reference location)
  return ⟨reference, location, content⟩

end Library

end RoleWeave
