import RoleWeave.Fault

/-!
# Settings

Settings say where the three locations are on the disk, what is looked for below them, and how
composition and diagrams are bounded. Every part of them has a standard value.

Two bounds have a least value: references are nested at least one level deep, and a label has at
least four characters. `Settings.check` names the first bound that is below its least value.
-/

namespace RoleWeave

/-- The bounds on outlines and diagrams. -/
structure ConceptLimits where
  /-- The number of concepts that are added to an outline. -/
  maxNodes : Nat
  /-- The number of characters of a label. Longer candidates are sentences, not concepts. -/
  maxLabelChars : Nat
deriving DecidableEq, Repr

/-- The bounds on composition and on diagrams. -/
structure Limits where
  /-- How deep references may be nested. -/
  maxDepth : Nat
  concepts : ConceptLimits
deriving DecidableEq, Repr

/-- The bounds on outlines and diagrams unless others are given. -/
def ConceptLimits.standard : ConceptLimits := ⟨200, 48⟩

/-- The bounds unless others are given. -/
def Limits.standard : Limits := ⟨8, ConceptLimits.standard⟩

/-- The settings of a library and of the roles composed from it. -/
structure Settings where
  packageRoot : Option Text
  projectRoot : Option Text
  userRoot : Option Text
  /-- The folder below each root that is scanned for resources. -/
  resourceFolder : Text
  /-- The path of the manifest below each root. -/
  manifest : Text
  limits : Limits
deriving DecidableEq, Repr

namespace Settings

/-- The settings unless others are given: no root, and the standard limits. -/
def standard : Settings :=
  ⟨none, none, none, "resource".toList, "registry.json".toList, Limits.standard⟩

/-- The fault of settings that are out of range, if they are. -/
def check (settings : Settings) : Except Fault Unit :=
  if settings.limits.maxDepth = 0 then
    .error (.config "compose.max_depth must be at least 1".toList)
  else if settings.limits.concepts.maxLabelChars < 4 then
    .error (.config "concepts.max_label_chars must be at least 4".toList)
  else .ok ()

/-- The standard settings are in range. -/
theorem check_standard : check standard = .ok () := rfl

end Settings

end RoleWeave
