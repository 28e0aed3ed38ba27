import TypedConfig.Bootstrap.Properties
import TypedConfig.Proofs.Except
import TypedConfig.Proofs.Layer.Environment
import TypedConfig.Proofs.Layer.Files

/-!
# The layers of a run

Where the bootstrap gives properties, each of them comes from the highest layer that has it.

* `Staged`: the steps that lead to the properties of a run.
* `layeredFrom_applicationStore?`, `layeredFrom_loadProfiles?`: the two steps that load files.
* `get?_applyOverrides?`: what overrides leave behind.
* `Layers`, `properties_layers`: overrides are above variables, variables above files, later files
  above earlier ones, and no leaf of a file is lost.
-/

namespace TypedConfig.Bootstrap

/-- The profiles whose files are loaded. -/
def chosenProfiles (options : Options) (assignments : List (Text × Text)) (base : Store) :
    List Text :=
  profiles options (environment options assignments) base

/-- The properties of a run and the steps that lead there: where files are searched, what those of
the application hold, and what is there with those of the profiles. -/
structure Staged (binder : Binder) (options : Options) (assignments : List (Text × Text))
    (files : Files) (locations : Locations) (base loaded store : Store) : Prop where
  located : locations? binder options (environment options assignments) = .ok locations
  founded : applicationStore? files locations = .ok base
  profiled : loadProfiles? files locations base (chosenProfiles options assignments base)
    = .ok loaded
  finished : applyOverrides? (loaded.loadVariables options.variableScope assignments).1
    options.overrides = .ok store

variable {binder : Binder} {options : Options} {assignments : List (Text × Text)} {files : Files}
  {locations : Locations} {base loaded store result : Store}

theorem exists_staged (succeeded : properties? binder options assignments files = .ok store) :
    ∃ locations base loaded,
      Staged binder options assignments files locations base loaded store := by
  unfold properties? at succeeded
  obtain ⟨locations, located, succeeded⟩ := exists_of_bind_eq_ok succeeded
  obtain ⟨base, founded, succeeded⟩ := exists_of_bind_eq_ok succeeded
  obtain ⟨loaded, profiled, finished⟩ := exists_of_bind_eq_ok succeeded
  exact ⟨locations, base, loaded, located, founded, profiled, finished⟩

/-! ### Files -/

theorem layeredFrom_applicationStore? (founded : applicationStore? files locations = .ok base) :
    Store.LayeredFrom files .empty (locations.searched (fileNames applicationName)) base := by
  unfold applicationStore? at founded
  split at founded
  next => cases founded
  next reached count loaded =>
    split at founded
    next => cases founded
    next =>
      cases founded
      have layered := Store.layeredFrom_loadApplication loaded
      rwa [applicationFiles, List.map_nil, List.flatMap_singleton] at layered

theorem layeredFrom_loadProfiles? {profiles : List Text}
    (profiled : loadProfiles? files locations base profiles = .ok loaded) :
    Store.LayeredFrom files base (locations.searched
      ((profiles.map (profileName applicationName)).flatMap fileNames)) loaded := by
  induction profiles generalizing base with
  | nil =>
    cases profiled
    exact .refl files _
  | cons profile profiles ih =>
    unfold loadProfiles? at profiled
    split at profiled
    next => cases profiled
    next middle count here =>
      have first := Store.layeredFrom_loadApplication here
      rw [applicationFiles, List.map_nil, List.flatMap_singleton] at first
      rw [List.map_cons, List.flatMap_cons, searched_append]
      exact first.trans (ih profiled)

/-- The files of a run, in the order in which they are layered. -/
def loadedFiles (files : Files) (locations : Locations) (profiles : List Text) : List Resource :=
  files.present (locations.searched (applicationFiles applicationName profiles))

/-! ### Overrides -/

/-- Overrides that can all be written are above what was there, the last of a key first. -/
theorem get?_applyOverrides? {overrides : List (Text × Text)}
    (finished : applyOverrides? store overrides = .ok result) (key : Text) :
    result.get? key = (Table.get? key overrides.reverse).or (store.get? key) := by
  induction overrides generalizing store with
  | nil =>
    cases finished
    rfl
  | cons entry overrides ih =>
    obtain ⟨first, value⟩ := entry
    unfold applyOverrides? at finished
    split at finished
    next => cases finished
    next middle written =>
      obtain ⟨-, rfl⟩ := Store.set_eq_ok_iff.1 written
      rw [ih finished, List.reverse_cons, Table.get?_append, Option.or_assoc, Store.get?_insert,
        Table.get?]
      split <;> rfl

theorem consistent_of_applyOverrides? {overrides : List (Text × Text)}
    (consistent : store.Consistent) (finished : applyOverrides? store overrides = .ok result) :
    result.Consistent := by
  induction overrides generalizing store with
  | nil =>
    cases finished
    exact consistent
  | cons entry overrides ih =>
    unfold applyOverrides? at finished
    split at finished
    next => cases finished
    next middle written => exact ih (consistent.set written) finished

/-! ### All layers -/

/-- How the properties of a run come from its options, its variables and the files it loaded. -/
structure Layers (options : Options) (assignments : List (Text × Text)) (resources : List Resource)
    (store : Store) : Prop where
  /-- The files could all be read. -/
  readable : ∀ resource ∈ resources, ∃ content, resource.store? = .ok content
  /-- The last override of a key comes first, then its last variable, unless the key is refused, and
  then the last file that defines it. -/
  get?_eq : ∀ key, store.get? key
    = (Table.get? key options.overrides.reverse).or
        ((variableValue? options.variableScope (definedKeys resources) assignments.reverse key).or
          (lastValue? resources key))
  /-- What a file defines is a leaf. -/
  leaf : ∀ key ∈ definedKeys resources, (store.get? key).isSome ∧ ¬ store.hasBelow key

/-- The store in front of the variables holds the keys of the files. -/
theorem mem_keys_iff_of_layered {resources : List Resource}
    (layered : Store.Layered .empty resources loaded) (key : Text) :
    key ∈ loaded.keys ↔ key ∈ definedKeys resources := by
  have shown : loaded.get? key = lastValue? resources key :=
    (layered.get?_eq key).trans (Option.or_none ..)
  rw [← Store.isSome_get?_iff, mem_definedKeys_iff, shown]

theorem layers_of_layered {resources : List Resource}
    (layered : Store.Layered .empty resources loaded)
    (finished : applyOverrides? (loaded.loadVariables options.variableScope assignments).1
      options.overrides = .ok store) : Layers options assignments resources store := by
  have before := layered.consistent Store.consistent_empty
  have after := consistent_of_applyOverrides? (before.loadVariables _ _) finished
  have shown : ∀ key, store.get? key = (Table.get? key options.overrides.reverse).or
      ((variableValue? options.variableScope (definedKeys resources) assignments.reverse key).or
        (lastValue? resources key)) := by
    intro key
    rw [get?_applyOverrides? finished, Store.get?_loadVariables before,
      variableValue?_congr (mem_keys_iff_of_layered layered), layered.get?_eq]
    exact congrArg _ (congrArg _ (Option.or_none ..))
  refine ⟨layered.readable, shown, fun key mem => ?_⟩
  have held : (store.get? key).isSome := by
    rw [shown, Option.isSome_or, Option.isSome_or, mem_definedKeys_iff.1 mem, Bool.or_true,
      Bool.or_true]
  exact ⟨held, fun container => after.not_value_and_container key ⟨held, container⟩⟩

theorem Staged.layeredFrom
    (staged : Staged binder options assignments files locations base loaded store) :
    Store.LayeredFrom files .empty (locations.searched (applicationFiles applicationName
      (chosenProfiles options assignments base))) loaded := by
  rw [applicationFiles, List.flatMap_cons, searched_append]
  exact (layeredFrom_applicationStore? staged.founded).trans
    (layeredFrom_loadProfiles? staged.profiled)

/-- **Every property of a run comes from the highest layer that has it**, and nothing is lost that a
file defines. The files are those of the application and then those of the profiles; nothing that
cannot be read stands at their paths. -/
theorem properties_layers (succeeded : properties? binder options assignments files = .ok store) :
    ∃ locations base,
      locations? binder options (environment options assignments) = .ok locations
        ∧ applicationStore? files locations = .ok base
        ∧ (∀ path ∈ locations.searched (applicationFiles applicationName
            (chosenProfiles options assignments base)), files path ≠ .unreadable)
        ∧ Layers options assignments
            (loadedFiles files locations (chosenProfiles options assignments base)) store := by
  obtain ⟨locations, base, loaded, staged⟩ := exists_staged succeeded
  have layered := staged.layeredFrom
  exact ⟨locations, base, staged.located, staged.founded, layered.reachable,
    layers_of_layered layered.layered staged.finished⟩

/-- Files of an application and of one of its profiles. -/
def crowdedFiles : Files := fun path =>
  if path = "etc/application.properties".toList then
    .text "db.url=base\nserver.port=80\nserver.host=base\nname=base\n"
  else if path = "etc/application-prod.json".toList then
    .text "\x7b\"server\":\x7b\"port\":443\x7d\x7d"
  else .absent

/-- Options with a directory, a profile and two overrides of one key. -/
def crowdedOptions : Options :=
  ⟨["etc"], ["prod"], none, [("server.host", "first"), ("server.host", "last")]⟩

/-- Variables above and below keys of the files, and one below another variable. -/
def crowdedVariables : List (Text × Text) :=
  [("APP_DB", "x"), ("APP_SERVER_PORT_LOW", "1"), ("APP_TRACE", "on"), ("APP_TRACE_LEVEL", "3"),
    ("APP_SERVER_HOST", "env"), ("APP_TRACE", "off"), ("HOME", "root"), ("APP_NAME", "env")]

/-- What they lead to. -/
def crowdedEntries : Table Text :=
  [("db.url", "base"), ("name", "env"), ("server.host", "last"), ("server.port", "443"),
    ("trace", "off")]

theorem properties_layers_crowdedFiles :
    ∃ store, properties? Binder.standard crowdedOptions crowdedVariables crowdedFiles = .ok store
      ∧ store.entries = crowdedEntries
      ∧ ∃ resources, Layers crowdedOptions crowdedVariables resources store
        ∧ definedKeys resources = ["db.url", "name", "server.host", "server.port", "server.port"]
        ∧ (∀ key ∈ definedKeys resources, (store.get? key).isSome ∧ ¬ store.hasBelow key)
        ∧ Refused crowdedOptions.variableScope (definedKeys resources) crowdedVariables.reverse
          "trace.level" := by
  have evaluated : (properties? Binder.standard crowdedOptions crowdedVariables
      crowdedFiles).toOption.map Store.entries = some crowdedEntries := by decide +kernel
  obtain ⟨store, succeeded, entries⟩ := exists_of_toOption_map_eq_some evaluated
  obtain ⟨locations, base, located, -, -, layers⟩ := properties_layers succeeded
  obtain rfl : ⟨["etc"]⟩ = locations := Except.ok.inj located
  have keys : definedKeys (loadedFiles crowdedFiles ⟨["etc"]⟩ ["prod"])
      = ["db.url", "name", "server.host", "server.port", "server.port"] := by decide +kernel
  refine ⟨store, succeeded, entries, _, layers, keys, layers.leaf, ?_⟩
  show Refused _ (definedKeys (loadedFiles crowdedFiles ⟨["etc"]⟩ ["prod"])) _ _
  rw [keys]
  decide

end TypedConfig.Bootstrap
