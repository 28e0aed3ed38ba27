import TypedConfig.Binder.Basic
import TypedConfig.Proofs.Binder.Agree
import TypedConfig.Proofs.Placeholder.Scanner
import TypedConfig.Proofs.Source.View

/-!
# Places that look alike

Two places, each in a source of its own, look alike when the same texts stand at them and behind
them. What else the sources hold plays no part, and neither do the keys of the places.

* `Mirrored`: places that look alike, where no text holds a placeholder.
* `Mirrored.descend`: the places inside them look alike as well.
* `Mirrored.has`, `Mirrored.members?`: they are present together and have the same members.
* `Mirrored.overlay`: they still look alike when the parts of one text are laid over both.
-/

namespace TypedConfig

open Key (Inward WellFormed Apart element child)

/-! ### Stores of parts -/

namespace Binder

theorem mem_partEntries {key inner text : Text} {index : Nat} {parts : List Text} :
    (inner, text) ∈ partEntries key index parts
      ↔ ∃ offset, parts[offset]? = some text ∧ inner = element key (index + offset) := by
  induction parts generalizing index with
  | nil => simp [partEntries]
  | cons part parts ih =>
    rw [partEntries, List.mem_cons, ih]
    constructor
    · rintro (same | ⟨offset, found, rfl⟩)
      · cases same
        exact ⟨0, rfl, rfl⟩
      · exact ⟨offset + 1, found, by rw [Nat.add_assoc, Nat.add_comm 1]⟩
    · rintro ⟨offset, found, rfl⟩
      cases offset with
      | zero =>
        cases found
        exact .inl rfl
      | succ offset => exact .inr ⟨offset, found, by rw [Nat.add_assoc, Nat.add_comm 1]⟩

theorem pairwise_apart_partEntries {key : Text} {index : Nat} {parts : List Text} :
    (partEntries key index parts).Pairwise fun first second => Apart first.1 second.1 := by
  induction parts generalizing index with
  | nil => exact .nil
  | cons part parts ih =>
    refine .cons (fun entry mem => ?_) ih
    obtain ⟨offset, -, same⟩ := mem_partEntries.1 mem
    rw [same]
    exact Key.apart_element (by omega)

/-- Parts are stored as the elements of a sequence, if the sequence has a well-formed key. -/
theorem exists_store_partEntries {key : Text} (wellFormed : WellFormed key) (parts : List Text) :
    ∃ store, Store.ofList? (partEntries key 0 parts) = .ok store
      ∧ ∀ inner text, store.get? inner = some text
        ↔ ∃ index, parts[index]? = some text ∧ inner = element key index := by
  have formed : ∀ entry ∈ partEntries key 0 parts, WellFormed entry.1 := by
    intro entry mem
    obtain ⟨offset, -, same⟩ := mem_partEntries.1 mem
    rw [same]
    exact wellFormed.element _
  have free : ∀ entry ∈ partEntries key 0 parts, ∀ inner ∈ Store.empty.keys,
      Apart entry.1 inner := by
    intro entry _ inner mem
    cases mem
  obtain ⟨done, stored⟩ := Store.setAll_of_apart formed pairwise_apart_partEntries free
  refine ⟨(Store.empty.setAll (partEntries key 0 parts)).1, ?_, fun inner text => ?_⟩
  · rw [Store.ofList?]
    split
    next outcome => rw [outcome]
    next outcome =>
      rw [outcome] at done
      cases done
  · rw [stored, mem_partEntries]
    simp [Store.empty, Store.get?, Table.get?]

theorem ofList?_partEntries_error {key part : Text} {parts : List Text}
    (malformed : ¬ WellFormed key) :
    ∃ fault, Store.ofList? (partEntries key 0 (part :: parts))
      = .error (.malformed (element key 0) (.key fault) []) := by
  cases scanned : Key.containers? (element key 0) with
  | ok found =>
    exact absurd (Key.wellFormed_element_iff.1 (Key.exists_containers?_iff.1 ⟨found, scanned⟩))
      malformed
  | error fault =>
    refine ⟨fault, ?_⟩
    rw [partEntries, Store.ofList?, Store.setAll, Store.set, scanned]

/-- **A store of parts holds them as the elements of the sequence**, and nothing else. -/
theorem get?_of_ofList?_partEntries {key : Text} {parts : List Text} {top : Store}
    (written : Store.ofList? (partEntries key 0 parts) = .ok top) {inner text : Text} :
    top.get? inner = some text
      ↔ ∃ index, parts[index]? = some text ∧ inner = element key index := by
  by_cases wellFormed : WellFormed key
  · obtain ⟨store, written', stored⟩ := exists_store_partEntries wellFormed parts
    cases written.symm.trans written'
    exact stored inner text
  · cases parts with
    | nil =>
      cases written
      exact iff_of_false (fun found => by cases found) (by simp)
    | cons part parts =>
      obtain ⟨fault, stopped⟩ := ofList?_partEntries_error wellFormed
      cases written.symm.trans stopped

end Binder

namespace Source

/-- Two sources hold the same texts, none of them with a placeholder, at two keys and behind them,
and the keys may be followed by the same texts. -/
structure Mirrored (first second : Source) (left right : Text) : Prop where
  insideLeft : left ≠ []
  insideRight : right ≠ []
  same : ∀ rest, Inward rest → first.get? (left ++ rest) = second.get? (right ++ rest)
  literal : ∀ rest, Inward rest → ∀ text ∈ first.get? (left ++ rest), ¬ Placeholder.occursIn text
  formed : ∀ rest, Inward rest → (WellFormed (left ++ rest) ↔ WellFormed (right ++ rest))

namespace Mirrored

variable {first second : Source} {left right : Text}

/-- **Places inside places that look alike look alike.** -/
theorem descend (mirrored : Mirrored first second left right) {rest : Text}
    (inward : Inward rest) : Mirrored first second (left ++ rest) (right ++ rest) where
  insideLeft := List.append_ne_nil_of_left_ne_nil mirrored.insideLeft rest
  insideRight := List.append_ne_nil_of_left_ne_nil mirrored.insideRight rest
  same more further := by
    rw [List.append_assoc, List.append_assoc]
    exact mirrored.same _ (inward.append further)
  literal more further text found := by
    rw [List.append_assoc] at found
    exact mirrored.literal _ (inward.append further) text found
  formed more further := by
    rw [List.append_assoc, List.append_assoc]
    exact mirrored.formed _ (inward.append further)

theorem child (mirrored : Mirrored first second left right) (name : Text) :
    Mirrored first second (child left name) (Key.child right name) := by
  rw [Key.child_eq mirrored.insideLeft, Key.child_eq mirrored.insideRight]
  exact mirrored.descend (Key.inward_cons.2 (.inl rfl))

theorem element (mirrored : Mirrored first second left right) (index : Nat) :
    Mirrored first second (element left index) (Key.element right index) := by
  rw [Key.element_eq, Key.element_eq]
  exact mirrored.descend (Key.inward_cons.2 (.inr rfl))

/-! ### What binding looks at -/

theorem get? (mirrored : Mirrored first second left right) :
    first.get? left = second.get? right := by
  have here := mirrored.same [] Key.inward_nil
  rwa [List.append_nil, List.append_nil] at here

theorem literal_of_get? (mirrored : Mirrored first second left right) {text : Text}
    (found : first.get? left = some text) : ¬ Placeholder.occursIn text :=
  mirrored.literal [] Key.inward_nil text (by rwa [List.append_nil])

theorem has (mirrored : Mirrored first second left right) :
    first.has left = second.has right := by
  rw [Bool.eq_iff_iff, has_iff mirrored.insideLeft, has_iff mirrored.insideRight]
  refine exists_congr fun rest => and_congr_right fun inward => ?_
  rw [mirrored.same rest inward]

/-- The members of places that look alike have the same names, or neither has members. -/
theorem members? (mirrored : Mirrored first second left right) :
    (∃ names, first.members? left = .ok names ∧ second.members? right = .ok names)
      ∨ first.members? left = .error (.conflict left .valueHere)
        ∧ second.members? right = .error (.conflict right .valueHere) := by
  cases found : first.get? left with
  | some text =>
    refine .inr ⟨members?_of_isSome (found ▸ rfl), members?_of_isSome ?_⟩
    rw [← mirrored.get?, found]
    rfl
  | none =>
    obtain ⟨names, listed, ascending, complete⟩ := exists_members? mirrored.insideLeft found
    obtain ⟨others, listed', ascending', complete'⟩ :=
      exists_members? mirrored.insideRight (mirrored.get? ▸ found)
    have same : names = others := by
      refine Store.eq_of_ascending ascending ascending' fun name => ?_
      rw [complete, complete']
      refine exists_congr fun more => ?_
      rw [mirrored.same _ (Key.inward_cons.2 (.inl rfl))]
    exact .inl ⟨names, listed, same ▸ listed'⟩

/-! ### Laying parts over both -/

theorem of_overlay (mirrored : Mirrored first second left right) {top other : Store}
    (same : ∀ rest, top.get? (left ++ rest) = other.get? (right ++ rest))
    (literal : ∀ rest, ∀ text ∈ top.get? (left ++ rest), ¬ Placeholder.occursIn text) :
    Mirrored (.overlay top first) (.overlay other second) left right where
  insideLeft := mirrored.insideLeft
  insideRight := mirrored.insideRight
  same rest inward := by
    rw [Source.get?, Source.get?, same rest, mirrored.same rest inward]
  literal rest inward text found := by
    rw [Source.get?] at found
    cases upper : top.get? (left ++ rest) with
    | some text' =>
      rw [upper] at found
      cases found
      exact literal rest text upper
    | none =>
      rw [upper] at found
      exact mirrored.literal rest inward text found
  formed := mirrored.formed

/-- **The parts of one text lie over both places in the same way.** -/
theorem overlay (mirrored : Mirrored first second left right) {parts : List Text}
    (literal : ∀ part ∈ parts, ¬ Placeholder.occursIn part) :
    Outcome.Agree
      (fun top other => Mirrored (.overlay top first) (.overlay other second) left right)
      (.ofExcept (Store.ofList? (Binder.partEntries left 0 parts)))
      (.ofExcept (Store.ofList? (Binder.partEntries right 0 parts))) := by
  have together := mirrored.formed [] Key.inward_nil
  rw [List.append_nil, List.append_nil] at together
  by_cases wellFormed : WellFormed left
  · obtain ⟨top, written, stored⟩ := Binder.exists_store_partEntries wellFormed parts
    obtain ⟨other, written', stored'⟩ :=
      Binder.exists_store_partEntries (together.1 wellFormed) parts
    rw [written, written']
    have suffix {key rest : Text} {index : Nat} : key ++ rest = Key.element key index
        ↔ rest = '[' :: (Text.ofNat index ++ [']']) := by
      rw [Key.element_eq, List.append_cancel_left_eq]
    refine .done (mirrored.of_overlay (fun rest => Option.ext fun text => ?_) ?_)
    · rw [stored, stored']
      simp only [suffix]
    · intro rest text found
      obtain ⟨index, part, -⟩ := (stored _ _).1 found
      exact literal text (List.mem_of_getElem? part)
  · cases parts with
    | nil =>
      refine .done (mirrored.of_overlay (fun rest => rfl) fun rest text found => ?_)
      cases found
    | cons part parts =>
      obtain ⟨fault, stopped⟩ := Binder.ofList?_partEntries_error wellFormed
      obtain ⟨fault', stopped'⟩ := Binder.ofList?_partEntries_error (mt together.2 wellFormed)
      rw [stopped, stopped']
      exact .failed ⟨rfl, rfl⟩

end Mirrored

end Source

end TypedConfig
