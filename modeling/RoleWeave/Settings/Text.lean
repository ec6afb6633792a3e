import RoleWeave.Data.Json
import RoleWeave.Data.Yaml.Reader
import RoleWeave.Settings.Basic

/-!
# Settings as texts

Settings are stored as a record with two records inside, in a JSON text or in a YAML text; whatever
is left out has its standard value. What is read has to be in range.
-/

namespace RoleWeave.Settings

/-- The names of the fields, in the order in which an array gives them. -/
def fields : List Text :=
  ["package_root".toList, "project_root".toList, "user_root".toList, "resource_dir".toList,
    "manifest".toList, "compose".toList, "concepts".toList]

section Reading

variable {α : Type}

/-- Read the record of the bound on composition. -/
def readDepth? (format : RecordFormat α) (value : α) : Option Nat := do
  match ← format.record? ["max_depth".toList] value with
  | [depth] => readField? format.natural? standard.limits.maxDepth depth
  | _ => none

/-- Read the record of the bounds on diagrams. -/
def readConcepts? (format : RecordFormat α) (value : α) : Option ConceptLimits := do
  match ← format.record? ["max_nodes".toList, "max_label_chars".toList] value with
  | [nodes, chars] =>
      return ⟨← readField? format.natural? ConceptLimits.standard.maxNodes nodes,
        ← readField? format.natural? ConceptLimits.standard.maxLabelChars chars⟩
  | _ => none

/-- Read settings, whether in range or not. -/
def read? (format : RecordFormat α) (value : α) : Option Settings := do
  match ← format.record? fields value with
  | [package, project, user, folder, manifest, compose, concepts] =>
      return {
        packageRoot := ← readField? format.optionalText? none package
        projectRoot := ← readField? format.optionalText? none project
        userRoot := ← readField? format.optionalText? none user
        resourceFolder := ← readField? format.text? standard.resourceFolder folder
        manifest := ← readField? format.text? standard.manifest manifest
        limits := ⟨← readField? (readDepth? format) standard.limits.maxDepth compose,
          ← readField? (readConcepts? format) ConceptLimits.standard concepts⟩ }
  | _ => none

end Reading

/-- Settings that were read, if they were and if they are in range. -/
def accept (fault : Fault) (settings : Option Settings) : Except Fault Settings :=
  match settings with
  | none => .error fault
  | some settings => settings.check.map (fun _ => settings)

/-- Read settings from a JSON text. -/
def ofJson (text : Text) : Except Fault Settings :=
  accept (.serialization "not a record of settings".toList)
    ((Json.parse? text).bind (read? Json.format))

/-- Read settings from a YAML text. -/
def ofYaml (text : Text) : Except Fault Settings :=
  accept (.yaml "not a record of settings".toList)
    ((Yaml.parse? text).bind (read? Yaml.format))

/-- Settings that were accepted are in range. What is not in range is refused, whatever could be
    read. -/
theorem check_of_accept {fault : Fault} {read : Option Settings} {settings : Settings}
    (accepted : accept fault read = .ok settings) : settings.check = .ok () := by
  cases read with
  | none => simp [accept] at accepted
  | some found =>
    cases checked : found.check with
    | error other => simp [accept, checked, Except.map] at accepted
    | ok value =>
      simp only [accept, checked, Except.map, Except.ok.injEq] at accepted
      exact accepted ▸ checked

end RoleWeave.Settings
