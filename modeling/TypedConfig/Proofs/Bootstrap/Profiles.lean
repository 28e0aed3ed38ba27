import TypedConfig.Condition.Basic
import TypedConfig.Proofs.Bootstrap.Layers

/-!
# The profiles of a run

The active profiles are looked up twice: before the files of profiles are loaded, in the variables
over the files of the application, and in the finished properties when conditions are evaluated.

* `get?_overlay_environment`: what the first look finds.
* `Unrivaled`, `Undisturbed`: nothing that comes later changes which profiles are listed.
* `profiles_agree`: then the profiles whose files are loaded are those that conditions find active;
  profiles that are given as options always are.
* `override_activates_unloaded`: an override is only seen by the second look.
-/

namespace TypedConfig.Bootstrap

open Context (profilesKey listedProfiles)
open Key (Rivals WellFormed)

/-- The files of the application itself. -/
def applicationResources (files : Files) (locations : Locations) : List Resource :=
  files.present (locations.searched (fileNames applicationName))

/-- The files of profiles. -/
def profileResources (files : Files) (locations : Locations) (profiles : List Text) :
    List Resource :=
  files.present
    (locations.searched ((profiles.map (profileName applicationName)).flatMap fileNames))

theorem loadedFiles_eq (files : Files) (locations : Locations) (profiles : List Text) :
    loadedFiles files locations profiles
      = applicationResources files locations ++ profileResources files locations profiles := by
  rw [loadedFiles, applicationFiles, List.flatMap_cons, searched_append, Files.present,
    List.filterMap_append]
  rfl

variable {binder : Binder} {options : Options} {assignments : List (Text × Text)} {files : Files}
  {locations : Locations} {base loaded store : Store}

/-! ### Where the list is looked up -/

/-- The last variable that lists profiles. -/
def profilesVariable? (options : Options) (assignments : List (Text × Text)) : Option Text :=
  lastVariable? options.variableScope assignments.reverse profilesKey

/-- No key that is taken or that a variable has is above or below the key of the list. -/
structure Unrivaled (options : Options) (assignments : List (Text × Text)) (taken : List Text) :
    Prop where
  noKey : ∀ key ∈ taken, ¬ Rivals key profilesKey
  noVariable : ∀ assignment ∈ assignments, ∀ key ∈ variableKey? options.variableScope assignment.1,
    ¬ Rivals key profilesKey

/-- What would change the list of profiles behind the back of the first look is not there: an
override of it, keys that keep its variable out or that it keeps out, and, where it has no variable,
a list of its own in a file of a profile. -/
structure Undisturbed (options : Options) (assignments : List (Text × Text))
    (application ofProfiles : List Resource) : Prop where
  notOverridden : profilesKey ∉ options.overrides.map Prod.fst
  unrivaled : profilesVariable? options assignments ≠ none →
    Unrivaled options assignments (definedKeys (application ++ ofProfiles))
  notRelisted : profilesVariable? options assignments = none → profilesKey ∉ definedKeys ofProfiles

theorem wellFormed_profilesKey : WellFormed profilesKey := by decide

/-- The last variable that lists profiles is accepted when it has no rivals. -/
theorem variableValue?_profilesKey {taken : List Text}
    (unrivaled : profilesVariable? options assignments ≠ none →
      Unrivaled options assignments taken) :
    variableValue? options.variableScope taken assignments.reverse profilesKey
      = profilesVariable? options assignments := by
  by_cases unset : profilesVariable? options assignments = none
  · rw [unset, variableValue?_of_unset unset]
  · have alone := unrivaled unset
    exact variableValue?_of_alone wellFormed_profilesKey alone.noKey
      fun assignment mem => alone.noVariable assignment (List.mem_reverse.1 mem)

/-- The first look finds the last variable, and else the last file of the application. -/
theorem get?_overlay_environment
    (layered : Store.Layered .empty (applicationResources files locations) base)
    (unrivaled : profilesVariable? options assignments ≠ none → Unrivaled options assignments []) :
    (Source.overlay (environment options assignments) base).get? profilesKey
      = (profilesVariable? options assignments).or
          (lastValue? (applicationResources files locations) profilesKey) := by
  have fromVariables : (environment options assignments).get? profilesKey
      = profilesVariable? options assignments := by
    rw [environment, Store.get?_loadVariables Store.consistent_empty]
    show (variableValue? options.variableScope [] assignments.reverse profilesKey).or none = _
    rw [Option.or_none, variableValue?_profilesKey unrivaled]
  have shown : base.get? profilesKey
      = lastValue? (applicationResources files locations) profilesKey :=
    (layered.get?_eq _).trans (Option.or_none ..)
  rw [Source.get?, Source.get?, fromVariables, shown, Option.orElse_eq_or]

/-- The second look finds the same, when nothing disturbs it. -/
theorem Undisturbed.get?_eq {application ofProfiles : List Resource}
    (undisturbed : Undisturbed options assignments application ofProfiles)
    (layers : Layers options assignments (application ++ ofProfiles) store) :
    store.get? profilesKey
      = (profilesVariable? options assignments).or (lastValue? application profilesKey) := by
  have override : Table.get? profilesKey options.overrides.reverse = none := by
    refine Table.get?_eq_none_iff.2 fun mem => undisturbed.notOverridden ?_
    rwa [Table.names, List.map_reverse, List.mem_reverse] at mem
  rw [layers.get?_eq, override, Option.none_or, lastValue?_append,
    variableValue?_profilesKey undisturbed.unrivaled]
  -- a variable is above all files, so what files of profiles list matters only without one
  cases listed : profilesVariable? options assignments with
  | some list => rw [Option.some_or, Option.some_or]
  | none =>
    have relisted : lastValue? ofProfiles profilesKey = none :=
      Option.not_isSome_iff_eq_none.1 fun defined =>
        undisturbed.notRelisted listed (mem_definedKeys_iff.2 defined)
    rw [relisted, Option.none_or]

/-! ### Active profiles -/

/-- Sources with the same list have the same profiles. -/
theorem listedProfiles_congr {first second : Source}
    (same : first.get? profilesKey = second.get? profilesKey) :
    listedProfiles first = listedProfiles second := by
  rw [listedProfiles, listedProfiles, same]

/-- A condition on a profile asks whether it is active. -/
theorem evaluate_profile_iff {context : Context} {profile : Text} :
    ((Condition.profile profile).evaluate context).result = .ok true
      ↔ profile ∈ context.activeProfiles := by
  rw [Condition.evaluate, Evaluation.plain, Except.ok.injEq, List.contains_iff_mem]

/-- **The profiles whose files are loaded are those that conditions find active**, when they are
given as options or nothing disturbs their list. -/
theorem profiles_agree (succeeded : properties? binder options assignments files = .ok store) :
    ∃ locations base loaded,
      Staged binder options assignments files locations base loaded store
        ∧ (options.profiles ≠ [] ∨ Undisturbed options assignments
            (applicationResources files locations)
            (profileResources files locations (chosenProfiles options assignments base)) →
          ∀ profile, profile ∈ chosenProfiles options assignments base
            ↔ ((Condition.profile profile).evaluate (context options store)).result
              = .ok true) := by
  obtain ⟨locations, base, loaded, staged⟩ := exists_staged succeeded
  refine ⟨locations, base, loaded, staged, fun quiet profile => ?_⟩
  have same : (context options store).activeProfiles = chosenProfiles options assignments base := by
    rw [Context.activeProfiles, context, chosenProfiles, profiles]
    cases given : options.profiles with
    | cons first others => rfl
    | nil =>
      have undisturbed := quiet.resolve_left (not_not_intro given)
      have layers := layers_of_layered staged.layeredFrom.layered staged.finished
      rw [← loadedFiles, loadedFiles_eq] at layers
      have first := get?_overlay_environment
        (layeredFrom_applicationStore? staged.founded).layered
        fun listed => ⟨List.forall_mem_nil _, (undisturbed.unrivaled listed).noVariable⟩
      have second := undisturbed.get?_eq layers
      exact listedProfiles_congr (second.trans first.symm)
  rw [evaluate_profile_iff, same]

/-- Files of an application and of a profile. -/
def demoFiles : Files := fun path =>
  if path = "config/application.properties".toList then .text "app.name=demo\n"
  else if path = "config/application-prod.properties".toList then .text "db.pool.size=32\n"
  else .absent

/-- A variable that lists the profile. -/
def demoVariables : List (Text × Text) := [("APP_APP_PROFILES_ACTIVE", "prod")]

theorem profiles_agree_demo :
    ∃ store, properties? Binder.standard .empty demoVariables demoFiles = .ok store
      ∧ store.get? "db.pool.size" = some "32"
      ∧ ∃ locations base loaded,
        Staged Binder.standard .empty demoVariables demoFiles locations base loaded store
          ∧ chosenProfiles .empty demoVariables base = ["prod"]
          ∧ Undisturbed .empty demoVariables (applicationResources demoFiles locations)
            (profileResources demoFiles locations (chosenProfiles .empty demoVariables base))
          ∧ ∀ profile, profile ∈ chosenProfiles .empty demoVariables base
            ↔ ((Condition.profile profile).evaluate (context .empty store)).result = .ok true := by
  have evaluated : (properties? Binder.standard .empty demoVariables demoFiles).toOption.map
      (·.get? "db.pool.size") = some (some ("32" : Text)) := by decide +kernel
  obtain ⟨store, succeeded, loaded⟩ := exists_of_toOption_map_eq_some evaluated
  obtain ⟨locations, base, withProfiles, staged, agree⟩ := profiles_agree succeeded
  have located : locations? Binder.standard .empty (environment .empty demoVariables)
      = .ok .standard := by decide +kernel
  obtain rfl := Except.ok.inj (located.symm.trans staged.located)
  have chosen : (applicationStore? demoFiles .standard).toOption.map
      (chosenProfiles .empty demoVariables) = some [("prod" : Text)] := by decide +kernel
  rw [staged.founded] at chosen
  replace chosen : chosenProfiles .empty demoVariables base = ["prod"] := Option.some.inj chosen
  have undisturbed : Undisturbed .empty demoVariables (applicationResources demoFiles .standard)
      (profileResources demoFiles .standard (chosenProfiles .empty demoVariables base)) := by
    rw [chosen]
    refine ⟨by decide, fun _ => ⟨?_, ?_⟩, fun unset => absurd unset ?_⟩ <;> decide +kernel
  exact ⟨store, succeeded, loaded, .standard, base, withProfiles, staged, chosen, undisturbed,
    agree (.inr undisturbed)⟩

/-! ### Overrides of the list -/

/-- Conditions go by the list of an override, whatever files are loaded. -/
theorem activeProfiles_of_override {resources : List Resource} {list : Text}
    (layers : Layers options assignments resources store) (unlisted : options.profiles = [])
    (overridden : Table.get? profilesKey options.overrides.reverse = some list) :
    (context options store).activeProfiles = Context.namesBetweenCommas list := by
  have shown : (Source.plain store).get? profilesKey = some list := by
    rw [Source.get?, layers.get?_eq, overridden, Option.some_or]
  rw [Context.activeProfiles, context, unlisted]
  show listedProfiles store = _
  rw [listedProfiles, shown]

/-- Options that override the list. -/
def overridingOptions : Options := ⟨[], [], none, [("app.profiles.active", "prod")]⟩

/-- **An override makes a profile active whose files are not loaded.** -/
theorem override_activates_unloaded :
    ∃ store, properties? Binder.standard overridingOptions [] demoFiles = .ok store
      ∧ (∃ locations base loaded,
        Staged Binder.standard overridingOptions [] demoFiles locations base loaded store
          ∧ chosenProfiles overridingOptions [] base = [])
      ∧ store.get? "db.pool.size" = none
      ∧ ((Condition.profile "prod").evaluate (context overridingOptions store)).result
        = .ok true := by
  have evaluated : (properties? Binder.standard overridingOptions [] demoFiles).toOption.map
      (·.get? "db.pool.size") = some none := by decide +kernel
  obtain ⟨store, succeeded, missing⟩ := exists_of_toOption_map_eq_some evaluated
  obtain ⟨locations, base, loaded, staged⟩ := exists_staged succeeded
  have located : locations? Binder.standard overridingOptions (environment overridingOptions [])
      = .ok .standard := by decide +kernel
  obtain rfl := Except.ok.inj (located.symm.trans staged.located)
  have chosen : (applicationStore? demoFiles .standard).toOption.map
      (chosenProfiles overridingOptions []) = some [] := by decide +kernel
  rw [staged.founded] at chosen
  have layers := layers_of_layered staged.layeredFrom.layered staged.finished
  have active : "prod".toList ∈ (context overridingOptions store).activeProfiles := by
    rw [activeProfiles_of_override layers rfl rfl]
    decide
  exact ⟨store, succeeded, ⟨.standard, base, loaded, staged, Option.some.inj chosen⟩, missing,
    evaluate_profile_iff.2 active⟩

end TypedConfig.Bootstrap
