import Mathlib
import TypedConfig.Proofs.Binder.Congruence
import TypedConfig.Proofs.Binder.Depth
import TypedConfig.Proofs.Source.Alike

/-!
# Binding from an overlay

Binding asks a source for texts, for keys and for members, and lays the parts of texts over it. So
sources that hold the same texts give the same values and the same errors, word for word.

* `congruence_alike`: alike sources answer all that binding asks alike, down to the parts.
* `bindAt_congr`: so every shape is bound alike, to every depth.
* `overlay_eq_merged`: a store over another one answers all questions as the two merged do.
-/

namespace TypedConfig.Binder

open Source (Alike)

variable {binder : Binder} {family : Family} {first second : Source}

/-- **Bindings over sources that hold the same texts cannot be told apart.** The parts of a divided
text are laid over both. -/
theorem congruence_alike (binder : Binder) (family : Family) :
    Congruence binder family fun first second _ _ => Alike first second where
  resolve alike := alike.resolve _
  has alike := alike.has _
  members? alike _ := alike.members? _
  member alike _ _ := alike
  elements alike _ :=
    (elementsFound alike (alike _) (alike.has _) (alike.has _) _
      fun _ _ store _ _ _ _ => alike.overlay store).mono fun alike _ => ⟨alike.has _, alike⟩
  inner alike _ := alike
  nested alike _ _ _ := alike
  tagged alike _ _ _ _ _ _ _ := alike
  embedded alike _ _ _ := alike

/-- Sources that hold the same texts are bound alike, to every depth. -/
theorem bindAt_congr (binder : Binder) (family : Family) (depth : Nat) (alike : Alike first second)
    (shape : Shape) (target : Target) :
    binder.bindAt family depth first shape target
      = binder.bindAt family depth second shape target :=
  ((congruence_alike binder family).bindAt_eq depth).1 alike

theorem settles_congr (alike : Alike first second) {shape : Shape} {target : Target}
    {result : Except PropertyError Value} :
    binder.Settles family first shape target result
      ↔ binder.Settles family second shape target result := by
  unfold Settles
  simp only [bindAt_congr binder family _ alike shape target]

/-- Where the depth that the binder allows itself is enough, a source that is at least as large and
holds the same texts gives the same result. -/
theorem bind_congr (alike : Alike first second) (weight : second.weight ≤ first.weight)
    {shape : Shape} {target : Target} (ends : binder.Ends family second shape target) :
    binder.bind family first shape target = binder.bind family second shape target := by
  have deeper : depthBound family second shape target ≤ depthBound family first shape target := by
    unfold depthBound
    exact Nat.mul_le_mul_right _ (Nat.mul_le_mul_left 2 (by omega))
  have endsFirst : binder.Ends family first shape target := by
    unfold Ends
    rw [bindAt_congr binder family _ alike]
    rcases bindAt_refines deeper second shape target with used | same
    · exact absurd used ends
    · rw [same]
      exact ends
  exact (bind_settles endsFirst).unique ((settles_congr alike).2 (bind_settles ends))

/-- **A store over another one answers every question as the two merged do**, when they can be
merged: whether a key is there, its text and its members, the value of a text, and the value of
every shape at every target. Errors are the same as well. -/
theorem overlay_eq_merged {top base merged : Store} (done : base.merge top = (merged, none)) :
    (∀ key, (Source.overlay top base).get? key = merged.get? key
        ∧ (Source.overlay top base).has key = merged.has key
        ∧ (Source.overlay top base).members? key = merged.members? key)
      ∧ (∀ text, Placeholder.resolveText (.overlay top base) text
        = Placeholder.resolveText merged text)
      ∧ ∀ (binder : Binder) (family : Family) (shape : Shape) (target : Target),
        (∀ depth, binder.bindAt family depth (.overlay top base) shape target
            = binder.bindAt family depth merged shape target)
          ∧ (∀ result, binder.Settles family (.overlay top base) shape target result
            ↔ binder.Settles family merged shape target result)
          ∧ (binder.Ends family merged shape target →
            binder.bind family (.overlay top base) shape target
              = binder.bind family merged shape target) := by
  have alike : Alike (.overlay top base) merged := Source.alike_overlay_merge done
  have weight : Source.weight merged ≤ (Source.overlay top base).weight := by
    have bounded := base.weight_merge_le top
    rwa [done] at bounded
  refine ⟨fun key => ⟨alike key, alike.has key, alike.members? key⟩, alike.resolveText, ?_⟩
  intro binder family shape target
  exact ⟨fun depth => bindAt_congr binder family depth alike shape target,
    fun result => settles_congr alike, bind_congr alike weight⟩

/-- Properties with a list of ports, one of which is to be replaced. -/
def portsBase : Store := .ofTable [("host", "edge"), ("ports[0]", "old")]

/-- What replaces it, with one port more. -/
def portsTop : Store := .ofTable [("ports[0]", "$\x7bhost\x7d"), ("ports[1]", "b")]

/-- Both of them in one store. -/
def portsMerged : Store :=
  .ofTable [("host", "edge"), ("ports[0]", "$\x7bhost\x7d"), ("ports[1]", "b")]

/-- The shape of a list of texts. -/
def textsShape : Shape := .sequence "Vec" (.scalar "String" .string)

theorem overlay_eq_merged_ports :
    portsBase.merge portsTop = (portsMerged, none)
      ∧ (Source.overlay portsTop portsBase).members? [] = .ok ["host", "ports"]
      ∧ Placeholder.resolveText (.overlay portsTop portsBase) "$\x7bports[0]\x7d" = .ok "edge"
      ∧ Binder.standard.bind [] (.overlay portsTop portsBase) textsShape (.new "ports" [])
        = .ok (.array [.string "edge", .string "b"]) := by
  have done : portsBase.merge portsTop = (portsMerged, none) := rfl
  have bound : Binder.standard.bind [] portsMerged textsShape (.new "ports" [])
      = .ok (.array [.string "edge", .string "b"]) := by cbv
  have ends := ends_of_bind_eq_ok bound
  have text : Placeholder.resolveText portsMerged "$\x7bports[0]\x7d" = .ok "edge" := by cbv
  obtain ⟨shown, texts, bindings⟩ := overlay_eq_merged done
  refine ⟨done, (shown []).2.2, (texts _).trans text, ?_⟩
  exact ((bindings Binder.standard [] textsShape (.new "ports" [])).2.2 ends).trans bound

end TypedConfig.Binder
