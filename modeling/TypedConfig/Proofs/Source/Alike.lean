import TypedConfig.Proofs.Source.Veiled
import TypedConfig.Proofs.Store.Merge

/-!
# Sources that hold the same texts

What can be asked of a source is answered by the texts under its keys, and not by how these are
spread over the stores that are laid over one another.

* `Alike`: the same texts under all keys.
* `Alike.has`, `Alike.members?`: then the same keys are there, with the same members or the same
  error, also at the root.
* `Alike.overlay`: sources stay alike when a store is laid over both.
* `Alike.expand`, `Alike.resolve`: texts and targets have the same values or the same errors.
* `alike_overlay_merge`: a store that is laid over another one, and the two merged.
-/

namespace TypedConfig

namespace Source

/-- Two sources hold the same texts, however these are spread over stores. -/
def Alike (first second : Source) : Prop := ∀ key, first.get? key = second.get? key

namespace Alike

variable {first second : Source}

/-! ### Views -/

theorem mem_keysBelow_iff (alike : Alike first second) {key inner : Text} :
    inner ∈ first.keysBelow key ↔ inner ∈ second.keysBelow key := by
  rw [keysBelow, keysBelow, List.mem_filter, List.mem_filter, ← isSome_get?_iff, ← isSome_get?_iff,
    alike inner]

theorem has (alike : Alike first second) (key : Text) : first.has key = second.has key := by
  rw [has_eq, has_eq, alike key]
  congr 2
  rw [Bool.eq_iff_iff, List.isEmpty_iff, List.isEmpty_iff, List.eq_nil_iff_forall_not_mem,
    List.eq_nil_iff_forall_not_mem]
  exact forall_congr' fun inner => not_congr alike.mem_keysBelow_iff

theorem members? (alike : Alike first second) (key : Text) :
    first.members? key = second.members? key :=
  members?_congr (alike key) fun _ => alike.mem_keysBelow_iff

theorem overlay (alike : Alike first second) (top : Store) :
    Alike (.overlay top first) (.overlay top second) := by
  intro key
  rw [get?, get?, alike key]

/-! ### Placeholders -/

theorem veiled (alike : Alike first second) :
    Veiled (fun _ => False) (fun _ => True) first second where
  get? key _ := alike key
  has key _ := alike.has key
  known _ _ _ _ := trivial

theorem expand (alike : Alike first second) (levels : Nat) :
    Placeholder.expand first levels = Placeholder.expand second levels :=
  funext fun _ => alike.veiled.expand (fun _ _ _ => False.elim) levels fun _ => False.elim

theorem resolveText (alike : Alike first second) (text : Text) :
    Placeholder.resolveText first text = Placeholder.resolveText second text :=
  congrFun (alike.expand Placeholder.nestingLimit) text

theorem resolve (alike : Alike first second) (target : Target) :
    Placeholder.resolve first target = Placeholder.resolve second target :=
  alike.veiled.resolve (fun _ _ _ => False.elim) not_false fun _ _ _ => False.elim

end Alike

/-- **A store over another one is seen as the two merged.** -/
theorem alike_overlay_merge {top base merged : Store} (done : base.merge top = (merged, none)) :
    Alike (.overlay top base) merged :=
  fun key => (Store.get?_merge done key).symm

end Source

end TypedConfig
