import RoleWeave.Registry.Basic

/-!
# Protocols

A protocol is a name with a resolver. A directory resolver maps paths onto a shelf. A catalogue
resolver looks ids up in the registry and follows what it finds there to a location. A failing
resolver stands for a location that never answers.

Location resolvers are those that do not look anything up; only they may be the target of a
catalogue, so a reference is followed once at most.
-/

namespace RoleWeave

/-- How the references of a protocol are resolved. -/
inductive Resolver where
  /-- Paths are looked for on a shelf. -/
  | directory (shelf : Shelf)
  /-- Ids are looked for in the registry. Bare paths found there belong to the default location. -/
  | catalogue (defaultLocation : Text)
  /-- Nothing is found, always for the same reason. -/
  | failing (fault : Fault)
deriving DecidableEq, Repr, Inhabited

/-- Whether a resolver maps paths straight onto storage. -/
def Resolver.isLocation : Resolver → Bool
  | .catalogue _ => false
  | _ => true

/-- The resolvers by the names of their protocols. -/
structure Table where
  resolvers : List (Text × Resolver)
deriving DecidableEq, Repr

namespace Table

/-- A table without protocols. -/
def empty : Table := ⟨[]⟩

/-- Register a resolver, in the place of the one that may have the name already. -/
def register (table : Table) (name : Text) (resolver : Resolver) : Table :=
  ⟨(name, resolver) :: table.resolvers.filter (fun other => other.1 != name)⟩

/-- The resolver of a protocol. -/
def resolver (table : Table) (protocol : Text) : Except Fault Resolver :=
  match table.resolvers.lookup protocol with
  | some resolver => .ok resolver
  | none => .error (.protocolNotFound protocol)

/-- Whether a protocol is registered. -/
def holds (table : Table) (protocol : Text) : Bool :=
  (table.resolvers.lookup protocol).isSome

/-- The registered protocols, in ascending order. -/
def names (table : Table) : NameSet :=
  NameSet.ofList (table.resolvers.map Prod.fst)

/-- The protocols whose ids are looked up in the registry from the start. -/
def semanticProtocols : List Text :=
  ["role".toList, "thought".toList, "execution".toList, "personality".toList,
    "principle".toList, "knowledge".toList, "memory".toList]

/-- The location of bare paths unless a catalogue is given another one. -/
def defaultLocation : Text := "package".toList

/-- The table that has the semantic protocols only. -/
def semantic : Table :=
  semanticProtocols.foldl
    (fun table name => table.register name (.catalogue defaultLocation)) empty

/-- A registration concerns its own name only. There it takes the place of whatever was registered
    before, and under any other name the same is found as without it. -/
theorem lookup_register (table : Table) (name protocol : Text) (resolver : Resolver) :
    (table.register name resolver).resolvers.lookup protocol =
      if protocol = name then some resolver else table.resolvers.lookup protocol := by
  by_cases same : protocol = name
  · simp [register, same]
  · have apart : (protocol == name) = false := by simpa using same
    have others : ∀ resolvers : List (Text × Resolver),
        (resolvers.filter (fun other => other.1 != name)).lookup protocol =
          resolvers.lookup protocol := by
      intro resolvers
      induction resolvers with
      | nil => rfl
      | cons other later ih =>
        obtain ⟨key, held⟩ := other
        by_cases replaced : key = name
        · subst replaced
          simpa [List.lookup_cons, apart] using ih
        · simp only [List.filter_cons, bne_iff_ne, ne_eq, replaced, not_false_eq_true, if_true,
            List.lookup_cons, ih]
    simp only [register, List.lookup_cons, apart, others, same, if_false]

/-- The semantic protocols are catalogues over the default location, and nothing else is registered
    from the start. By induction on the names, which are registered one after the other. -/
theorem lookup_semantic (protocol : Text) :
    semantic.resolvers.lookup protocol =
      if protocol ∈ semanticProtocols then some (.catalogue defaultLocation) else none := by
  have folded : ∀ (names : List Text) (table : Table),
      (names.foldl (fun table name => table.register name (.catalogue defaultLocation))
        table).resolvers.lookup protocol =
          if protocol ∈ names then some (.catalogue defaultLocation)
          else table.resolvers.lookup protocol := by
    intro names
    induction names with
    | nil => simp
    | cons name later ih =>
      intro table
      rw [List.foldl_cons, ih, lookup_register]
      by_cases last : protocol ∈ later
      · simp [last]
      · simp [last]
  exact folded semanticProtocols empty

end Table

end RoleWeave
