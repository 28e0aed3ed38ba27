import Mathlib
import TypedConfig.Proofs.Binder.Depth
import TypedConfig.Proofs.Binder.Occurs

/-!
# Sequences end at the first gap

A sequence with elements of its own is bound element by element, up to the first index that is
missing. What is stored at other indices is not bound, and so it shows only where a placeholder names
it.

* `bindAt_indexed`: without rules, the sequence is the list of what its elements are bound to.
* `Key.Beyond`: the keys of elements that are not reached.
* `has_eq_of_agree`: stores that differ there only have the same keys elsewhere.
* `sequence_ends_at_gap`: the value of the sequence, its error, and what neither of them depends on.
-/

namespace TypedConfig

open Key (Within isBelow element)
open Placeholder (Mentions)
open Source (Veiled)

namespace Key

variable {key inner outer index : Text} {count low : Nat}

/-! ### Keys beyond a gap -/

/-- A key within an element whose index is not one of those up to a count. -/
def Beyond (key : Text) (count : Nat) (inner : Text) : Prop :=
  ∃ index, Text.isDigits index ∧ (∀ low ≤ count, index ≠ Text.ofNat low)
    ∧ Within (spelled key index) inner

/-- A key within one of the elements in front of a count. -/
def Reached (key : Text) (count : Nat) (inner : Text) : Prop :=
  ∃ index < count, Within (element key index) inner

theorem Reached.of_within (reached : Reached key count outer) (within : Within outer inner) :
    Reached key count inner := by
  obtain ⟨index, low, here⟩ := reached
  exact ⟨index, low, here.trans within⟩

theorem Reached.ne_nil (reached : Reached key count inner) : inner ≠ [] := by
  obtain ⟨index, -, here⟩ := reached
  exact ne_nil_of_isBelow (isBelow_of_isBelow_of_within (isBelow_element key index) here)

theorem not_mem_of_isDigits {char : Char} (digits : Text.isDigits index)
    (other : ¬ char.isDigit) : char ∉ index := by
  rw [Text.isDigits, Bool.and_eq_true, List.all_eq_true] at digits
  exact fun mem => other (digits.2 char mem)

/-- The elements up to the count are not beyond it. -/
theorem not_beyond_of_within (small : low ≤ count) (within : Within (element key low) inner) :
    ¬ Beyond key count inner := by
  rintro ⟨index, digits, other, beside⟩
  rw [element_eq] at within
  rcases within.total beside with inside | inside
  · exact other low small (eq_of_within_spelled (not_mem_of_isDigits digits (by decide)) inside).symm
  · exact other low small (eq_of_within_spelled (not_mem_ofNat low) inside)

theorem Reached.not_beyond (reached : Reached key count inner) : ¬ Beyond key count inner := by
  obtain ⟨index, low, here⟩ := reached
  exact not_beyond_of_within low.le here

/-- A container of an element of a sequence, other than that element, is one of the sequence. -/
theorem within_of_isBelow_spelled (digits : Text.isDigits index)
    (below : isBelow outer (spelled key index)) : Within outer key := by
  have inside : isBelow key (spelled key index) :=
    isBelow_iff.2 ⟨'[', index ++ [']'], .inr rfl, rfl⟩
  rcases Within.total (.of_isBelow inside) (.of_isBelow below) with further | around
  · obtain ⟨rest, -, rfl⟩ := within_iff_exists_append.1 further
    obtain ⟨char, more, descends, same⟩ := isBelow_iff.1 below
    cases rest with
    | nil => exact .inl (List.append_nil key).symm
    | cons mark rest =>
      -- behind the bracket no character of the index goes inside
      rw [spelled, List.append_assoc, List.append_cancel_left_eq, List.cons_append,
        List.cons.injEq] at same
      have mem : char ∈ index ++ [']'] := by rw [same.2]; simp
      rcases List.mem_append.1 mem with digit | closing
      · refine absurd digit (not_mem_of_isDigits digits ?_)
        exact fun isDigit => not_descends_of_isDigit isDigit descends
      · rw [List.mem_singleton.1 closing] at descends
        exact absurd descends (by decide)
  · exact around

end Key

namespace Source

variable {first second : Source} {key inner : Text} {count : Nat}

/-! ### Stores that agree up to a gap -/

/-- A key that is not beyond the gap is there if it is in another source with the same texts, which
has an element of the sequence too. -/
theorem has_of_agree (agree : ∀ inner, ¬ Key.Beyond key count inner →
      first.get? inner = second.get? inner)
    (started : second.has (element key 0)) (shown : ¬ Key.Beyond key count inner)
    (present : first.has inner) : second.has inner := by
  obtain ⟨leaf, found, within⟩ := has_iff_exists.1 present
  by_cases beyond : Key.Beyond key count leaf
  · -- a container around an element beyond the gap is around the first element too
    obtain ⟨top, found', within'⟩ := has_iff_exists.1 started
    have nonempty := Key.ne_nil_of_isBelow (Key.isBelow_element key 0)
    have inFirst : Within (element key 0) top := within'.resolve_left nonempty
    refine has_iff_exists.2 ⟨top, found', within.imp_right fun around => ?_⟩
    obtain ⟨index, digits, other, inIndex⟩ := beyond
    rcases around.total inIndex with outside | inside
    · rcases outside with same | below
      · exact absurd ⟨index, digits, other, .inl same.symm⟩ shown
      · exact ((Key.within_of_isBelow_spelled digits below).trans
          (.of_isBelow (Key.isBelow_element key 0))).trans inFirst
    · exact absurd ⟨index, digits, other, inside⟩ shown
  · exact has_iff_exists.2 ⟨leaf, (agree leaf beyond) ▸ found, within⟩

/-- **Sources with the same texts up to a gap have the same keys up to it**, as soon as one of them
has a first element. -/
theorem has_eq_of_agree (agree : ∀ inner, ¬ Key.Beyond key count inner →
      first.get? inner = second.get? inner)
    (started : second.has (element key 0)) (shown : ¬ Key.Beyond key count inner) :
    first.has inner = second.has inner := by
  have agree' := fun inner shown => (agree inner shown).symm
  have started' : first.has (element key 0) := by
    obtain ⟨top, found, within⟩ := has_iff_exists.1 started
    refine has_iff_exists.2 ⟨top, ?_, within⟩
    have nonempty := Key.ne_nil_of_isBelow (Key.isBelow_element key 0)
    have inFirst := within.resolve_left nonempty
    rw [agree top (Key.not_beyond_of_within (Nat.zero_le count) inFirst)]
    exact found
  rw [Bool.eq_iff_iff]
  exact ⟨has_of_agree agree started shown, has_of_agree agree' started' shown⟩

/-- The keys at which two sources answer differently. -/
def Differs (first second : Source) (key : Text) : Prop :=
  ¬ (first.get? key = second.get? key ∧ first.has key = second.has key)

theorem veiled_differs {texts : Text → Prop}
    (known : ∀ key text, first.get? key = some text → texts text) :
    Veiled (Differs first second) texts first second where
  get? _ shown := (not_not.1 shown).1
  has _ shown := (not_not.1 shown).2
  known key text _ := known key text

theorem not_differs_of_agree (agree : ∀ inner, ¬ Key.Beyond key count inner →
      first.get? inner = second.get? inner)
    (started : second.has (element key 0)) (shown : ¬ Key.Beyond key count inner) :
    ¬ Differs first second inner :=
  not_not.2 ⟨agree inner shown, has_eq_of_agree agree started shown⟩

end Source

namespace Binder

variable {binder : Binder} {family : Family} {source : Source} {shape item : Shape} {type : Text}
  {target : Target} {count index : Nat}

/-! ### Element by element -/

/-- What each of finitely many elements reaches from some depth on, all reach from some depth on. -/
theorem exists_depth {reached : Nat → Nat → Prop}
    (each : ∀ index < count, ∃ depth, ∀ more, depth ≤ more → reached index more) :
    ∃ depth, ∀ more, depth ≤ more → ∀ index < count, reached index more := by
  refine Filter.eventually_atTop.1 ((Filter.eventually_all_finite (Set.finite_lt_nat count)).2 ?_)
  exact fun index low => Filter.eventually_atTop.2 (each index low)

theorem range_eq_append_cons (low : index < count) :
    ∃ back, List.range count = List.range index ++ index :: back := by
  obtain ⟨more, rfl⟩ := Nat.exists_eq_add_of_lt low
  refine ⟨(List.range more).map fun other => index + 1 + other, ?_⟩
  rw [Nat.add_right_comm, List.range_add, List.range_succ, List.append_assoc, List.singleton_append]

theorem eq_range_of_range_eq_append {front back : List Nat}
    (same : List.range count = front ++ index :: back) :
    front = List.range index ∧ index < count := by
  have lengths := congrArg List.length same
  rw [List.length_range, List.length_append, List.length_cons] at lengths
  have here : (List.range count)[front.length]? = some index := by
    rw [same, List.getElem?_append_right (Nat.le_refl _), Nat.sub_self, List.getElem?_cons_zero]
  have low : front.length < count := by omega
  rw [List.getElem?_range low] at here
  have start := congrArg (List.take front.length) same
  rw [List.take_range, Nat.min_eq_left low.le, List.take_left, Option.some.inj here] at start
  exact ⟨start.symm, Option.some.inj here ▸ low⟩

section

variable (resolved : shape.resolve family = .sequence type item) (ruleless : target.rules = [])
  (started : source.has (element target.key 0))
  (listed : indices source target.key = List.range count)

include resolved ruleless started listed

/-- **A sequence without rules is the list of its elements**, whatever its tag says. -/
theorem bindAt_indexed (depth : Nat) : binder.bindAt family (depth + 1) source shape target
    = (List.range count).mapM (fun index =>
        binder.bindAt family depth source item (target.element index)) >>= fun items =>
      .done (.array items) := by
  rw [bindAt_sequence resolved, bindSequence, elementSource, if_pos started]
  simp only [Outcome.ofExcept_ok, Outcome.done_bind, listed, elementTarget_of_ruleless ruleless,
    finished_of_ruleless ruleless]

/-- The tag of the sequence is not read. -/
theorem bindAt_tag (tag : Tag) (depth : Nat) :
    binder.bindAt family depth source shape { target with tag }
      = binder.bindAt family depth source shape target := by
  cases depth with
  | zero => rfl
  | succ depth =>
    have tagged := @bindAt_indexed binder family source shape item type { target with tag } count
      resolved ruleless started listed depth
    exact tagged.trans (bindAt_indexed resolved ruleless started listed depth).symm

/-- The result of the sequence is an array when each element has a value. -/
theorem settles_array_iff (value : Value) : binder.Settles family source shape target (.ok value)
    ↔ ∃ values : List Value, values.length = count ∧ value = .array values
      ∧ ∀ (index : Nat) (low : index < values.length),
        binder.Settles family source item (target.element index) (.ok values[index]) := by
  have level (depth : Nat) : binder.bindAt family (depth + 1) source shape target = _ :=
    bindAt_indexed resolved ruleless started listed depth
  constructor
  · rintro ⟨depth, settled⟩
    have bound := (level depth).symm.trans (settled (depth + 1) (Nat.le_succ depth))
    obtain ⟨values, each, same⟩ := Outcome.exists_of_bind_eq_done bound
    cases same
    have each := Outcome.forall₂_of_mapM_eq_done each
    refine ⟨values, each.length_eq.symm.trans List.length_range, rfl, fun index low => ?_⟩
    have low' : index < (List.range count).length := each.length_eq ▸ low
    have here := each.get low' low
    rw [List.get_eq_getElem, List.getElem_range] at here
    exact settles_of_bindAt here
  · rintro ⟨values, length, rfl, each⟩
    have reached : ∀ index < count, ∃ depth, ∀ more, depth ≤ more →
        ∀ low : index < values.length, binder.bindAt family more source item (target.element index)
          = .done values[index] := by
      intro index low
      obtain ⟨depth, settled⟩ := each index (length ▸ low)
      exact ⟨depth, fun more deeper _ => settled more deeper⟩
    obtain ⟨depth, settled⟩ := exists_depth reached
    have all : (List.range count).mapM (fun index =>
        binder.bindAt family depth source item (target.element index)) = .done values := by
      refine Outcome.mapM_eq_done (List.forall₂_iff_get.2 ⟨?_, fun index low high => ?_⟩)
      · rw [List.length_range, length]
      · rw [List.get_eq_getElem, List.get_eq_getElem, List.getElem_range]
        exact settled depth (Nat.le_refl depth) index (length ▸ high) high
    have bound := level depth
    rw [all] at bound
    exact settles_of_bindAt (bound.trans (Outcome.done_bind _ _))

/-- The result of the sequence is the error of the first element that has one. -/
theorem settles_error_iff (error : PropertyError) :
    binder.Settles family source shape target (.error error)
      ↔ ∃ index < count, binder.Settles family source item (target.element index) (.error error)
        ∧ ∀ earlier < index, ∃ value,
          binder.Settles family source item (target.element earlier) (.ok value) := by
  have level (depth : Nat) : binder.bindAt family (depth + 1) source shape target = _ :=
    bindAt_indexed resolved ruleless started listed depth
  constructor
  · rintro ⟨depth, settled⟩
    have bound := (level depth).symm.trans (settled (depth + 1) (Nat.le_succ depth))
    rcases Outcome.cases_of_bind_eq_failed bound with failed | ⟨values, -, never⟩
    · obtain ⟨front, index, back, same, here, earlier⟩ := Outcome.mapM_eq_failed_iff.1 failed
      obtain ⟨rfl, low⟩ := eq_range_of_range_eq_append same
      refine ⟨index, low, settles_of_bindAt here, fun before less => ?_⟩
      obtain ⟨value, done⟩ := earlier before (List.mem_range.2 less)
      exact ⟨value, settles_of_bindAt done⟩
    · cases never
  · rintro ⟨index, low, ⟨depth, here⟩, earlier⟩
    choose! value values using earlier
    obtain ⟨depth', settled⟩ := exists_depth values
    obtain ⟨back, divided⟩ := range_eq_append_cons low
    have failed : (List.range count).mapM (fun index => binder.bindAt family (max depth depth')
        source item (target.element index)) = .failed error := by
      refine Outcome.mapM_eq_failed_iff.2 ⟨_, index, back, divided, ?_, fun before less => ?_⟩
      · exact here _ (Nat.le_max_left _ _)
      · exact ⟨_, settled _ (Nat.le_max_right _ _) before (List.mem_range.1 less)⟩
    have bound := level (max depth depth')
    rw [failed] at bound
    exact settles_of_bindAt bound

end

/-! ### What is beyond the gap -/

/-- **What is stored beyond the gap is not bound.** Two stores that hold the same texts up to the gap
bind the sequence alike, if they answer the placeholders that name something beyond it alike. -/
theorem bindAt_eq_of_agree (resolved : shape.resolve family = .sequence type item)
    (ruleless : target.rules = []) {store other : Store}
    (started : store.has (element target.key 0))
    (below : ∀ index < count, store.has (element target.key index))
    (stops : ¬ store.has (element target.key count))
    (agree : ∀ key, ¬ Key.Beyond target.key count key → other.get? key = store.get? key)
    (answered : ∀ text, Occurs binder family other item [] text → ∀ key, Mentions text key →
      Key.Beyond target.key count key →
      other.get? key = store.get? key ∧ other.has key = store.has key) (depth : Nat) :
    binder.bindAt family depth other shape target
      = binder.bindAt family depth store shape target := by
  have shown {key : Text} (here : ¬ Key.Beyond target.key count key) :
      ¬ Source.Differs other store key := Source.not_differs_of_agree agree started here
  have veils : Veils (Source.Differs other store) (Key.Reached target.key count)
      (Occurs binder family other item [])
      (Veiled (Source.Differs other store) (Occurs binder family other item [])) :=
    { veiled := id
      overlay := fun veiled known => veiled.overlay known
      nonempty := Key.Reached.ne_nil
      shown := fun reached => shown reached.not_beyond
      within := Key.Reached.of_within }
  have congruence : Congruence binder family (Placed binder family item
      (Key.Reached target.key count) (Occurs binder family other item [])
      (Veiled (Source.Differs other store) (Occurs binder family other item []))) := by
    refine congruence_placed veils ?_ (fun _ known _ => .comma known) fun tag tagged =>
      ⟨fun _ => .fallback tagged, fun _ _ given found _ _ known more _ =>
        .split known tagged given found more⟩
    intro text known key differs mentions
    by_cases beyond : Key.Beyond target.key count key
    · exact differs (answered text known key mentions beyond)
    · exact shown beyond differs
  have element_same {index : Nat} (low : index ≤ count) :
      other.has (element target.key index) = store.has (element target.key index) :=
    (not_not.1 (shown (Key.not_beyond_of_within low (.refl _)))).2
  cases depth with
  | zero => rfl
  | succ depth =>
    have started' : (Source.plain store).has (element target.key 0) := started
    have listed : indices store target.key = List.range count := indices_eq_range below stops
    have begun : (Source.plain other).has (element target.key 0) :=
      (element_same (Nat.zero_le _)).trans started
    have listed' : indices other target.key = List.range count :=
      indices_eq_range (fun index low => (element_same low.le).trans (below index low))
        (fun here => stops ((element_same (Nat.le_refl _)).symm.trans here))
    rw [bindAt_indexed resolved ruleless started' listed,
      bindAt_indexed resolved ruleless begun listed']
    refine congrArg (· >>= _) (Outcome.mapM_congr fun index mem => ?_)
    refine (congruence.bindAt_eq depth).1 ⟨.root, ?_, ?_, brings_empty⟩
    · exact Source.veiled_differs fun key text => .stored
    · exact ⟨index, List.mem_range.1 mem, .refl _⟩

/-- **A sequence with a first element ends at its first gap.** The gap is at the least index that is
missing. Without rules, the sequence has a value exactly when all elements in front of the gap have
one, and it is the array of these in their order; it has an error exactly when one of these elements
has it and all before that one have values. Its tag changes nothing, and neither does what is stored
beyond the gap, unless a placeholder names it. Where its depth is enough, the binder answers so. -/
theorem sequence_ends_at_gap (binder : Binder) (family : Family) {store : Store}
    {shape item : Shape} {type : Text} (resolved : shape.resolve family = .sequence type item)
    {target : Target} (ruleless : target.rules = [])
    (started : store.has (element target.key 0)) :
    ∃ count, (0 < count ∧ (∀ index < count, store.has (element target.key index))
        ∧ ¬ store.has (element target.key count))
      ∧ (∀ value, binder.Settles family store shape target (.ok value)
        ↔ ∃ values : List Value, values.length = count ∧ value = .array values
          ∧ ∀ (index : Nat) (low : index < values.length),
            binder.Settles family store item (target.element index) (.ok values[index]))
      ∧ (∀ error, binder.Settles family store shape target (.error error)
        ↔ ∃ index < count, binder.Settles family store item (target.element index) (.error error)
          ∧ ∀ earlier < index, ∃ value,
            binder.Settles family store item (target.element earlier) (.ok value))
      ∧ (∀ tag depth, binder.bindAt family depth store shape { target with tag }
        = binder.bindAt family depth store shape target)
      ∧ (∀ other : Store,
        (∀ key, ¬ Key.Beyond target.key count key → other.get? key = store.get? key) →
        (∀ text, Occurs binder family other item [] text → ∀ key, Mentions text key →
          Key.Beyond target.key count key →
          other.get? key = store.get? key ∧ other.has key = store.has key) →
        ∀ depth, binder.bindAt family depth other shape target
          = binder.bindAt family depth store shape target)
      ∧ (binder.Ends family store shape target → ∀ result,
        binder.bind family store shape target = result
          ↔ binder.Settles family store shape target result) := by
  have started' : (Source.plain store).has (element target.key 0) := started
  obtain ⟨count, listed, below, stops⟩ := exists_indices_eq store target.key
  have positive : 0 < count := by
    refine Nat.pos_of_ne_zero fun none => stops ?_
    rw [none]
    exact started'
  refine ⟨count, ⟨positive, below, stops⟩, settles_array_iff resolved ruleless started' listed,
    settles_error_iff resolved ruleless started' listed,
    bindAt_tag resolved ruleless started' listed, fun other agree answered =>
      bindAt_eq_of_agree resolved ruleless started below stops agree answered,
    fun ends result => ⟨?_, (bind_settles ends).unique⟩⟩
  rintro rfl
  exact bind_settles ends

/-- Hosts up to a gap, one beyond it and one at another spelling of an index. -/
def gapStore : Store := .ofTable
  [("hosts[0].name", "a"), ("hosts[1].name", "b"), ("hosts[3].name", "c"), ("hosts[00].name", "d")]

/-- The hosts up to the gap. -/
def shortStore : Store := .ofTable [("hosts[0].name", "a"), ("hosts[1].name", "b")]

/-- Hosts of which the second has no name. -/
def namelessStore : Store := .ofTable
  [("hosts[0].name", "a"), ("hosts[1].port", "80"), ("hosts[2].port", "80")]

/-- The shape of a host. -/
def namedHostShape : Shape := .composite "Host" [⟨"name", .nested, .scalar "String" .string, []⟩]

/-- The place of the hosts, with a fallback and a splitter. -/
def hostsTarget : Target :=
  ⟨"hosts", "c.hosts", ⟨"hosts", some ("x,y" : Text), some ("none" : Text)⟩, []⟩

/-- The value of a host. -/
def namedHost (name : Text) : Value := .object [("name", .string name)]

theorem not_fieldTag_namedHost (tag : Tag) : ¬ FieldTag [] namedHostShape tag :=
  fun tagged => List.not_mem_nil (a := tag) tagged.mem_fieldTags

theorem not_mentions_shortStore {text : Text}
    (occurs : Occurs standard [] shortStore namedHostShape [] text) (key : Text) :
    ¬ Mentions text key := by
  refine occurs.not_mentions ⟨fun other text found => ?_, nofun, fun tag tagged => ?_⟩
    fun tag _ _ tagged => ?_
  · rw [shortStore, Store.get?_ofTable (by decide)] at found
    simp only [List.mem_cons, Prod.mk.injEq, List.not_mem_nil, or_false] at found
    have unopened : ¬ text.has Tag.opening := by
      rcases found with ⟨-, rfl⟩ | ⟨-, rfl⟩ <;> decide
    exact fun mentions => unopened mentions.has_opening
  all_goals exact absurd tagged (not_fieldTag_namedHost tag)

theorem get?_shortStore_eq (key : Text) (shown : ¬ Key.Beyond "hosts" 2 key) :
    shortStore.get? key = gapStore.get? key := by
  have three : key ≠ "hosts[3].name" := by
    rintro rfl
    exact shown ⟨"3", by decide, by decide, .of_isBelow (by decide)⟩
  have respelled : key ≠ "hosts[00].name" := by
    rintro rfl
    exact shown ⟨"00", by decide, by decide, .of_isBelow (by decide)⟩
  refine Option.ext fun text => ?_
  rw [shortStore, gapStore, Store.get?_ofTable (by decide), Store.get?_ofTable (by decide)]
  simp only [List.mem_cons, Prod.mk.injEq, three, respelled, false_and, or_false,
    List.not_mem_nil]

theorem sequence_ends_at_gap_hosts :
    standard.Settles [] gapStore (.sequence "Vec" namedHostShape) hostsTarget
        (.ok (.array [namedHost "a", namedHost "b"]))
      ∧ (∀ depth, standard.bindAt [] depth shortStore (.sequence "Vec" namedHostShape) hostsTarget
        = standard.bindAt [] depth gapStore (.sequence "Vec" namedHostShape) hostsTarget)
      ∧ standard.Settles [] namelessStore (.sequence "Vec" namedHostShape) hostsTarget
        (.error (.notExist "hosts[1].name" "c.hosts[1].name")) := by
  have resolved : (Shape.sequence "Vec" namedHostShape).resolve []
      = .sequence "Vec" namedHostShape := rfl
  have first : standard.bindAt [] 4 gapStore namedHostShape (hostsTarget.element 0)
      = .ofExcept (.ok (namedHost "a")) := by with_unfolding_all rfl
  have second : standard.bindAt [] 4 gapStore namedHostShape (hostsTarget.element 1)
      = .ofExcept (.ok (namedHost "b")) := by with_unfolding_all rfl
  have named : standard.bindAt [] 4 namelessStore namedHostShape (hostsTarget.element 0)
      = .ofExcept (.ok (namedHost "a")) := by with_unfolding_all rfl
  have nameless : standard.bindAt [] 4 namelessStore namedHostShape (hostsTarget.element 1)
      = .ofExcept (.error (.notExist "hosts[1].name" "c.hosts[1].name")) := by
    with_unfolding_all rfl
  obtain ⟨count, ⟨-, below, stops⟩, value, -, -, others, -⟩ :=
    @sequence_ends_at_gap standard [] gapStore _ _ _ resolved hostsTarget rfl (by decide)
  have two : count = 2 := by
    rcases Nat.lt_trichotomy count 2 with less | same | greater
    · interval_cases count <;> exact absurd (by decide) stops
    · exact same
    · exact absurd (below 2 greater) (by decide)
  subst two
  obtain ⟨count, ⟨-, -, stops'⟩, -, error, -⟩ :=
    @sequence_ends_at_gap standard [] namelessStore _ _ _ resolved hostsTarget rfl (by decide)
  have further : 1 < count := by
    by_contra few
    rw [Nat.not_lt] at few
    interval_cases count <;> exact absurd (by decide) stops'
  refine ⟨(value _).2 ⟨[namedHost "a", namedHost "b"], rfl, rfl, fun index low => ?_⟩,
    others shortStore get?_shortStore_eq fun text occurs key mentions => ?_,
    (error _).2 ⟨1, further, settles_of_bindAt nameless, fun earlier low => ?_⟩⟩
  · rw [List.length_cons, List.length_singleton] at low
    interval_cases index
    · exact settles_of_bindAt first
    · exact settles_of_bindAt second
  · exact absurd mentions (not_mentions_shortStore occurs key)
  · rw [Nat.lt_one_iff] at low
    exact ⟨namedHost "a", low ▸ settles_of_bindAt named⟩

end Binder

end TypedConfig
