import TypedConfig.Layer.Application
import TypedConfig.Proofs.Store.Merge

/-!
# What layers of files leave behind

Files that were all laid over a store are shown with the last of them on top.

* `Resource.value?`, `lastValue?`: what a resource, and the last of several, defines under a key.
* `searched`, `present`: the paths that are looked at, and the resources that are found there.
* `Layered`: a store shows resources over what was there before; `LayeredFrom` takes them from
  paths.
* `layered_load`, `layered_loadAll`: loading resources leads to such a store.
* `layeredFrom_loadFile`, `layeredFrom_loadFiles`, `layeredFrom_loadApplication`: so does loading
  files, in the order of their names and locations.
-/

namespace TypedConfig

/-! ### Resources -/

/-- What a resource defines under a key. -/
def Resource.value? (resource : Resource) (key : Text) : Option Text :=
  resource.store?.toOption.bind (·.get? key)

/-- What the last of the resources that define a key defines under it. -/
def lastValue? (resources : List Resource) (key : Text) : Option Text :=
  resources.reverse.findSome? (·.value? key)

theorem lastValue?_append (resources more : List Resource) (key : Text) :
    lastValue? (resources ++ more) key = (lastValue? more key).or (lastValue? resources key) := by
  rw [lastValue?, List.reverse_append, List.findSome?_append]
  rfl

theorem lastValue?_singleton (resource : Resource) (key : Text) :
    lastValue? [resource] key = resource.value? key := by
  rw [lastValue?, List.reverse_singleton, List.findSome?_singleton]

theorem isSome_lastValue?_iff {resources : List Resource} {key : Text} :
    (lastValue? resources key).isSome ↔ ∃ resource ∈ resources, (resource.value? key).isSome := by
  rw [lastValue?, List.findSome?_isSome_iff]
  simp only [List.mem_reverse]

/-- The keys that resources define. -/
def definedKeys (resources : List Resource) : List Text :=
  resources.flatMap fun resource => (resource.store?.toOption.map Store.keys).getD []

theorem mem_definedKeys_iff {resources : List Resource} {key : Text} :
    key ∈ definedKeys resources ↔ (lastValue? resources key).isSome := by
  rw [definedKeys, List.mem_flatMap, isSome_lastValue?_iff]
  refine exists_congr fun resource => and_congr_right fun _ => ?_
  rw [Resource.value?]
  cases resource.store?.toOption with
  | none => exact iff_of_false List.not_mem_nil (Bool.not_eq_true _ ▸ rfl)
  | some store => exact Store.isSome_get?_iff.symm

/-! ### Files -/

/-- The paths of files of several names, each name in the order of the locations. -/
def Locations.searched (locations : Locations) (filenames : List Text) : List Text :=
  filenames.flatMap fun filename => locations.directories.map (Path.join · filename)

theorem searched_append (locations : Locations) (filenames more : List Text) :
    locations.searched (filenames ++ more)
      = locations.searched filenames ++ locations.searched more := List.flatMap_append

/-- The resource of a path, if it is a text. -/
def Files.resource? (files : Files) (path : Text) : Option Resource :=
  match files path with
  | .text content => some ⟨path, content⟩
  | _ => none

/-- The resources that are found at paths. -/
def Files.present (files : Files) (paths : List Text) : List Resource :=
  paths.filterMap files.resource?

/-- What is found at a path is a text, if anything. -/
theorem eq_resource?_of_ofFile? {files : Files} {path : Text} {found : Option Resource}
    (located : Resource.ofFile? files path = .ok found) :
    found = files.resource? path ∧ files path ≠ .unreadable := by
  unfold Resource.ofFile? at located
  unfold Files.resource?
  cases content : files path with
  | text text =>
    rw [content] at located
    cases located
    exact ⟨rfl, nofun⟩
  | absent =>
    rw [content] at located
    cases located
    exact ⟨rfl, nofun⟩
  | unreadable =>
    rw [content] at located
    cases located

/-- What is located are the resources that are found at the paths of a name, all of which can be
read. -/
theorem eq_present_of_locateIn {files : Files} {filename : Text} {directories : List Text}
    {resources : List Resource}
    (located : Locations.locateIn files filename directories = .ok resources) :
    resources = files.present (directories.map (Path.join · filename))
      ∧ ∀ path ∈ directories.map (Path.join · filename), files path ≠ .unreadable := by
  induction directories generalizing resources with
  | nil =>
    cases located
    exact ⟨rfl, List.forall_mem_nil _⟩
  | cons directory directories ih =>
    unfold Locations.locateIn at located
    split at located
    next => cases located
    next found here =>
      split at located
      next => cases located
      next rest later =>
        cases located
        obtain ⟨rfl, readable⟩ := eq_resource?_of_ofFile? here
        obtain ⟨rfl, others⟩ := ih later
        refine ⟨?_, List.forall_mem_cons.2 ⟨readable, others⟩⟩
        rw [Files.present, Files.present, List.map_cons, List.filterMap_cons]
        cases files.resource? (Path.join directory filename) <;> rfl

namespace Store

variable {store result : Store} {resources : List Resource}

/-- Resources that can be read are laid over a store, the last of them on top. -/
structure Layered (store : Store) (resources : List Resource) (result : Store) : Prop where
  readable : ∀ resource ∈ resources, ∃ content, resource.store? = .ok content
  get?_eq : ∀ key, result.get? key = (lastValue? resources key).or (store.get? key)
  consistent : store.Consistent → result.Consistent

theorem Layered.refl (store : Store) : Layered store [] store where
  readable := List.forall_mem_nil _
  get?_eq _ := rfl
  consistent before := before

theorem Layered.trans {middle : Store} {more : List Resource}
    (first : Layered store resources middle) (second : Layered middle more result) :
    Layered store (resources ++ more) result where
  readable := List.forall_mem_append.2 ⟨first.readable, second.readable⟩
  get?_eq key := by
    rw [second.get?_eq, first.get?_eq, lastValue?_append, Option.or_assoc]
  consistent before := second.consistent (first.consistent before)

/-- One resource. -/
theorem layered_load {resource : Resource} (loaded : store.load resource = (result, none)) :
    Layered store [resource] result := by
  unfold load at loaded
  cases read : resource.store? with
  | error error =>
    rw [read] at loaded
    cases loaded
  | ok content =>
    rw [read] at loaded
    dsimp only at loaded
    have written : store.merge content = (result, none) := by
      cases outcome : store.merge content with
      | mk merged error =>
        rw [outcome] at loaded
        cases error <;> cases loaded
        rfl
    refine ⟨?_, fun key => ?_, fun before => ?_⟩
    · intro other mem
      rw [List.mem_singleton.1 mem]
      exact ⟨content, read⟩
    · rw [get?_merge written, lastValue?_singleton, Resource.value?, read, Option.orElse_eq_or]
      rfl
    · have after := before.setAll content.entries
      rwa [show store.setAll content.entries = (result, none) from written] at after

/-- Several resources, one after the other. -/
theorem layered_loadAll (loaded : store.loadAll resources = (result, none)) :
    Layered store resources result := by
  induction resources generalizing store with
  | nil =>
    cases loaded
    exact .refl _
  | cons resource resources ih =>
    unfold loadAll at loaded
    split at loaded
    next middle here => exact (layered_load here).trans (ih loaded)
    next => cases loaded

/-- The resources at paths, each of which can be read if something is there, are laid over a
store. -/
structure LayeredFrom (files : Files) (store : Store) (paths : List Text) (result : Store) :
    Prop where
  reachable : ∀ path ∈ paths, files path ≠ .unreadable
  layered : Layered store (files.present paths) result

variable {files : Files} {locations : Locations} {count : Nat}

theorem LayeredFrom.refl (files : Files) (store : Store) : LayeredFrom files store [] store where
  reachable := List.forall_mem_nil _
  layered := .refl store

theorem LayeredFrom.trans {paths more : List Text} {middle : Store}
    (first : LayeredFrom files store paths middle) (second : LayeredFrom files middle more result) :
    LayeredFrom files store (paths ++ more) result where
  reachable := List.forall_mem_append.2 ⟨first.reachable, second.reachable⟩
  layered := by
    rw [Files.present, List.filterMap_append]
    exact first.layered.trans second.layered

/-- The files of one name. -/
theorem layeredFrom_loadFile {filename : Text}
    (loaded : store.loadFile files locations filename = (result, .ok count)) :
    LayeredFrom files store (locations.directories.map (Path.join · filename)) result := by
  unfold loadFile at loaded
  split at loaded
  next => cases loaded
  next resources located =>
    obtain ⟨rfl, reachable⟩ := eq_present_of_locateIn located
    split at loaded
    next reached here =>
      cases loaded
      exact ⟨reachable, layered_loadAll here⟩
    next => cases loaded

/-- **Files that are loaded are layered in the order of their names**, those of one name in the
order of the locations. -/
theorem layeredFrom_loadFiles {filenames : List Text}
    (loaded : loadFiles files locations store filenames = (result, .ok count)) :
    LayeredFrom files store (locations.searched filenames) result := by
  induction filenames generalizing store count with
  | nil =>
    cases loaded
    exact .refl files _
  | cons filename filenames ih =>
    unfold loadFiles at loaded
    split at loaded
    next => cases loaded
    next middle found here =>
      cases later : loadFiles files locations middle filenames with
      | mk reached outcome =>
        rw [later] at loaded
        cases outcome with
        | error error => cases loaded
        | ok more =>
          cases loaded
          exact (layeredFrom_loadFile here).trans (ih later)

theorem layeredFrom_loadApplication {base : Text} {profiles : List Text}
    (loaded : store.loadApplication files locations base profiles = (result, .ok count)) :
    LayeredFrom files store (locations.searched (applicationFiles base profiles)) result :=
  layeredFrom_loadFiles loaded

end Store

end TypedConfig
