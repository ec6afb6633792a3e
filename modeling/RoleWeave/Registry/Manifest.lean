import RoleWeave.Data.Json
import RoleWeave.Registry.Source

/-!
# Manifests

A manifest is a JSON record with a list of descriptors. A manifest that does not exist contributes
nothing, one that cannot be read fails. A source may bind the bare paths of its manifest to a
location protocol.
-/

namespace RoleWeave.Manifest

/-- The fields of a descriptor in the order in which an array gives them. -/
def descriptorFields : List Text :=
  ["id".toList, "protocol".toList, "name".toList, "description".toList, "reference".toList,
    "source".toList]

/-- Read a descriptor. Name, description and source may be left out. -/
def descriptor? (value : Json) : Option Descriptor := do
  match ← Json.record? descriptorFields value with
  | [some id, some protocol, name, description, some reference, source] =>
      return {
        id := ← Json.text? id
        protocol := ← Json.text? protocol
        name := ← readField? Json.text? [] name
        description := ← readField? Json.text? [] description
        reference := ← Json.text? reference
        source := ← readField? Json.text? [] source }
  | _ => none

/-- Read a list of descriptors. -/
def descriptors? (value : Json) : Option (List Descriptor) := do
  (← Json.items value).mapM descriptor?

/-- Read the text of a manifest. -/
def read? (text : Text) : Option (List Descriptor) := do
  match ← Json.record? ["resources".toList] (← Json.parse? text) with
  | [resources] => readField? descriptors? [] resources
  | _ => none

/-- Bind a bare path to a location protocol. A reference that names a protocol is kept as it is,
    and so is a blank one. -/
def bind (location : Text) (descriptor : Descriptor) : Descriptor :=
  let bare := Text.trim descriptor.reference
  if bare.isEmpty || Text.holds bare Key.separator then descriptor
  else { descriptor with reference := (Reference.plain location bare).render }

/-- The resources of the manifest at a path of a shelf. -/
def discover (shelf : Shelf) (path : Text) (location : Option Text) (storage : Storage) :
    Except Fault (List Descriptor) := do
  if ← storage.holds shelf path then
    let text ← storage.read shelf path
    match read? text with
    | none =>
        .error (.initialization ("invalid manifest ".toList ++ storage.locate shelf path ++
          ": not a list of resources".toList))
    | some found =>
        match location with
        | none => .ok found
        | some location => .ok (found.map (bind location))
  else .ok []

/-- The source of a manifest. -/
def source (name : Text) (shelf : Shelf) (path : Text) (location : Option Text) : Source :=
  Source.prompt name (discover shelf path location)

end RoleWeave.Manifest
