import RoleWeave.Text.Basic

/-!
# Faults

Everything that can go wrong is one of the causes below, and `Fault.message` holds the whole
wording. Some faults belong to a single reference: composition shows them in the place of that
reference and goes on. All others end the call that met them. `Fault.isLocal` draws the line.
-/

namespace RoleWeave

/-- Whether a storage failure says that there is nothing at a path, or anything else. -/
inductive IoKind where
  | missing
  | other
deriving DecidableEq, Repr

/-- The causes of failure. -/
inductive Fault where
  /-- The tags of a document are not nested; the position counts bytes. -/
  | parse (position : Nat) (reason : Text)
  /-- No resolver is registered for a protocol. -/
  | protocolNotFound (protocol : Text)
  /-- A protocol knows no such resource. -/
  | resourceNotFound (protocol resource : Text)
  /-- A reference or a path that is not well formed. -/
  | invalidReference (reason : Text)
  /-- A reference could not be replaced by its content. -/
  | unresolved (reference : Text) (cause : Fault)
  /-- A reference stands deeper than references may be nested. -/
  | depthExceeded (limit : Nat)
  /-- The registry could not be filled. -/
  | initialization (reason : Text)
  /-- Settings that are well formed but out of range. -/
  | config (reason : Text)
  /-- Text that is not the JSON form of what was asked for. -/
  | serialization (reason : Text)
  /-- Text that is not the YAML form of what was asked for. -/
  | yaml (reason : Text)
  /-- A store could not answer. -/
  | io (kind : IoKind) (reason : Text)
  /-- Any other failure. -/
  | other (reason : Text)
deriving DecidableEq, Repr, Inhabited

namespace Fault

/-- The full wording of a fault. -/
def message : Fault → Text
  | parse position reason =>
      "Parse error at byte ".toList ++ Text.decimal position ++ ": ".toList ++ reason
  | protocolNotFound protocol => "Protocol not found: ".toList ++ protocol
  | resourceNotFound protocol resource =>
      "Resource not found: ".toList ++ protocol ++ "://".toList ++ resource
  | invalidReference reason => "Invalid resource reference: ".toList ++ reason
  | unresolved reference cause =>
      "Could not resolve ".toList ++ reference ++ ": ".toList ++ cause.message
  | depthExceeded limit => "Nesting depth limit exceeded: ".toList ++ Text.decimal limit
  | initialization reason => "Registry initialization failed: ".toList ++ reason
  | config reason => "Config error: ".toList ++ reason
  | serialization reason => "Serialization error: ".toList ++ reason
  | yaml reason => "YAML error: ".toList ++ reason
  | io _ reason => "IO error: ".toList ++ reason
  | other reason => reason

/-- Whether a fault belongs to a single reference and can be shown in its place. -/
def isLocal : Fault → Bool
  | protocolNotFound _ => true
  | resourceNotFound _ _ => true
  | invalidReference _ => true
  | unresolved _ _ => true
  | depthExceeded _ => true
  | io _ _ => true
  | _ => false

/-- What stands in the place of a reference that failed. -/
def marker (fault : Fault) : Text :=
  "[unresolved: ".toList ++ fault.message ++ "]".toList

/-- Attach a fault to the reference that met it. A fault that names its reference already is
    kept, so a fault is attached to one reference at most. -/
def attach (reference : Text) : Fault → Fault
  | unresolved inner cause => unresolved inner cause
  | fault => unresolved reference fault

/-- An attached fault always belongs to a single reference. -/
theorem isLocal_attach (reference : Text) (fault : Fault) :
    (fault.attach reference).isLocal = true := by
  cases fault <;> rfl

end Fault

end RoleWeave
