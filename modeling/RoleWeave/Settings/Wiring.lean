import RoleWeave.Library.Basic
import RoleWeave.Registry.Manifest
import RoleWeave.Settings.Basic

/-!
# Libraries from settings

Every root that is set is a location of the library. Its folder of resources and its manifest are
sources of the registry, the manifest after the folder, and the roots in their order, so what a user
provides wins over what a project provides, and that over what a package provides.
-/

namespace RoleWeave

/-- The roots that are set, with the names of their locations, those of lower precedence first. -/
def Settings.roots (settings : Settings) : List (Text × Text) :=
  [("package".toList, settings.packageRoot), ("project".toList, settings.projectRoot),
    ("user".toList, settings.userRoot)].filterMap (fun root => root.2.map (Prod.mk root.1))

/-- The sources of a root: the scan of its folder, and its manifest. -/
def Settings.rootSources (settings : Settings) (root : Text × Text) : List Source :=
  [Scan.source root.1 (.folder root.2) settings.resourceFolder,
    Manifest.source (root.1 ++ "-manifest".toList) (.folder root.2) settings.manifest
      (some root.1)]

/-- The library on a storage that settings describe. The settings have to be in range. -/
def Library.ofSettings (settings : Settings) (storage : Storage) : Except Fault Library := do
  settings.check
  return {
    storage := storage
    registry := Registry.ofSources (settings.roots.flatMap settings.rootSources)
    table := settings.roots.foldl
      (fun table root => table.register root.1 (.directory (.folder root.2))) Table.semantic }

/-- The three locations have different names, so no root takes the place of another. -/
theorem Settings.nodup_roots (settings : Settings) : (settings.roots.map Prod.fst).Nodup := by
  obtain ⟨package, project, user, _, _, _⟩ := settings
  cases package <;> cases project <;> cases user <;> simp [roots]

/-- Roots with different names are found as the folders that were set for them, and what the table
    held under any other name is found as before. By induction on the roots: the first is not
    replaced by a later one, since none of those has its name. -/
theorem Table.lookup_registerRoots {roots : List (Text × Text)}
    (distinct : (roots.map Prod.fst).Nodup) (table : Table) (protocol : Text) :
    (roots.foldl (fun table root => table.register root.1 (.directory (.folder root.2)))
      table).resolvers.lookup protocol =
        match roots.lookup protocol with
        | some folder => some (.directory (.folder folder))
        | none => table.resolvers.lookup protocol := by
  induction roots generalizing table with
  | nil => rfl
  | cons root later ih =>
    obtain ⟨name, folder⟩ := root
    obtain ⟨fresh, others⟩ := List.nodup_cons.mp distinct
    rw [List.foldl_cons, ih others, lookup_register, List.lookup_cons]
    by_cases same : protocol = name
    · subst same
      have absent : later.lookup protocol = none := by
        refine List.lookup_eq_none_iff.mpr (fun other member => ?_)
        simp only [bne_iff_ne, ne_eq]
        exact fun equal => fresh (List.mem_map.mpr ⟨other, member, equal.symm⟩)
      simp [absent]
    · have apart : (protocol == name) = false := beq_false_of_ne same
      simp [apart, same]

/-- Every root that is set is a location, on the folder that was set for it. Beside the roots a
    library from settings has the semantic protocols, which look ids up in the registry, and no
    others. A root with the name of a semantic protocol would take its place, but none has such a
    name. -/
theorem Library.resolver_ofSettings {settings : Settings} {storage : Storage} {library : Library}
    (built : ofSettings settings storage = .ok library) (protocol : Text) :
    library.table.resolver protocol =
      match settings.roots.lookup protocol with
      | some folder => .ok (.directory (.folder folder))
      | none =>
          if protocol ∈ Table.semanticProtocols then .ok (.catalogue Table.defaultLocation)
          else .error (.protocolNotFound protocol) := by
  unfold ofSettings at built
  cases checked : settings.check with
  | error fault =>
    rw [checked] at built
    cases built
  | ok inRange =>
    rw [checked] at built
    obtain rfl := Except.ok.inj built
    rw [Table.resolver, Table.lookup_registerRoots settings.nodup_roots, Table.lookup_semantic]
    cases settings.roots.lookup protocol with
    | some folder => rfl
    | none => by_cases listed : protocol ∈ Table.semanticProtocols <;> simp [listed]

end RoleWeave
