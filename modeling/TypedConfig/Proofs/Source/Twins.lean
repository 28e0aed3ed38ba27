import TypedConfig.Proofs.Source.Veiled

/-!
# Sources that differ at one key

Two sources hold the same texts under all keys but one, which is there in both of them, with a value
or as a container. So all that is hidden is what text that key has.

* `Twins`: the two sources, with what the texts that they hold are known to be.
* `Twins.overlay`: they stay twins when a store is laid over both.
-/

namespace TypedConfig.Source

/-- Two sources hold the same texts, of a known collection, under all keys but one, which is there in
both or in neither. -/
structure Twins (key : Text) (texts : Text → Prop) (first second : Source) : Prop where
  get? : ∀ other, other ≠ key → first.get? other = second.get? other
  has : ∀ other, first.has other = second.has other
  known : ∀ other text, first.get? other = some text → texts text

namespace Twins

variable {key other : Text} {texts : Text → Prop} {first second : Source}

theorem veiled (twins : Twins key texts first second) : Veiled (· = key) texts first second where
  get? := twins.get?
  has other _ := twins.has other
  known other text _ := twins.known other text

/-- Twins stay twins below a store whose texts are known. -/
theorem overlay (twins : Twins key texts first second) {top : Store}
    (known : ∀ other text, top.get? other = some text → texts text) :
    Twins key texts (.overlay top first) (.overlay top second) where
  get? other different := by rw [Source.get?, Source.get?, twins.get? other different]
  has other := by rw [Source.has, Source.has, twins.has]
  known other _ := known_overlay (known other) (twins.known other)

end Twins

end TypedConfig.Source
