import TypedConfig.Proofs.Binder.Depth
import TypedConfig.Proofs.Binder.Occurs
import TypedConfig.Proofs.Source.Twins

/-!
# Two spellings of a sequence

The elements of a sequence can be spelled out under keys of their own, or written as the parts of
one text. In the second case they are bound over a source in which the parts are laid over the text
that they came from, so the sources of the two spellings differ in that text.

* `Store.indexed`: a store with the parts of a text in place of the text.
* `twins_indexed`: it is the twin of the parts laid over the text.
* `congruence_below`: below the key of the sequence, twins cannot be told apart if no text that
  binding the elements comes across mentions it.
* `delimited_eq_indexed`: the two spellings are bound alike. `Occurs.not_mentions` says when no text
  mentions the key.
* `told_apart_by_splitter`: a splitter inside the elements that makes a placeholder for the key
  tells the spellings apart.
-/

namespace TypedConfig

open Key (Within isBelow element)
open Placeholder (Mentions Refers)
open Source (Twins)

namespace Store

variable {store : Store} {key other text : Text} {parts : List Text}

/-! ### Parts in place of a text -/

/-- The store without a value under a key. -/
def erase (store : Store) (key : Text) : Store :=
  ⟨store.entries.filter fun entry => entry.1 != key, Table.sorted_filter store.sorted _⟩

theorem get?_erase_eq_some_iff :
    (store.erase key).get? other = some text ↔ other ≠ key ∧ store.get? other = some text := by
  have listed (table : Store) : table.get? other = some text ↔ (other, text) ∈ table.entries :=
    ⟨Table.mem_of_get?, Table.get?_of_mem table.sorted.nodup⟩
  rw [listed, listed, erase, List.mem_filter, and_comm]
  simp

/-- The store with parts as the elements of a key, and without a value under the key itself. -/
def indexed (store : Store) (key : Text) (parts : List Text) : Store × Option PropertyError :=
  (store.erase key).setAll (Binder.partEntries key 0 parts)

/-- The elements of a key with a value are not in the way of anything else. -/
theorem Consistent.apart_element (consistent : store.Consistent) (here : key ∈ store.keys)
    (there : other ∈ store.keys) (different : other ≠ key) (index : Nat) :
    Key.Apart (element key index) other := by
  have below := Key.isBelow_element key index
  constructor
  · exact fun within =>
      consistent.apart key here other there (Key.isBelow_of_isBelow_of_within below within)
  · intro within
    rcases within.total (.of_isBelow below) with (same | inside) | (same | inside)
    · exact different same.symm
    · exact consistent.apart other there key here inside
    · exact different same
    · exact consistent.apart key here other there inside

/-- **A text of a consistent store can be replaced by parts**, and nothing else changes. -/
theorem Consistent.get?_indexed (consistent : store.Consistent)
    (stored : store.get? key = some text) (parts : List Text) :
    (store.indexed key parts).2 = none
      ∧ ∀ other value, (store.indexed key parts).1.get? other = some value
        ↔ (∃ index, parts[index]? = some value ∧ other = element key index)
          ∨ (other ≠ key ∧ store.get? other = some value) := by
  have here : key ∈ store.keys := isSome_get?_iff.1 (stored ▸ rfl)
  have formed : ∀ entry ∈ Binder.partEntries key 0 parts, Key.WellFormed entry.1 := by
    intro entry mem
    obtain ⟨offset, -, same⟩ := Binder.mem_partEntries.1 mem
    rw [same]
    exact (consistent.wellFormed key here).element _
  have free : ∀ entry ∈ Binder.partEntries key 0 parts, ∀ other ∈ (store.erase key).keys,
      Key.Apart entry.1 other := by
    intro entry mem other kept
    obtain ⟨offset, -, same⟩ := Binder.mem_partEntries.1 mem
    obtain ⟨value, found⟩ := Option.isSome_iff_exists.1 (isSome_get?_iff.2 kept)
    obtain ⟨different, found⟩ := get?_erase_eq_some_iff.1 found
    rw [same]
    exact consistent.apart_element here (isSome_get?_iff.1 (found ▸ rfl)) different _
  obtain ⟨done, held⟩ := setAll_of_apart formed Binder.pairwise_apart_partEntries free
  refine ⟨done, fun other value => ?_⟩
  rw [indexed, held, Binder.mem_partEntries, get?_erase_eq_some_iff]
  simp only [Nat.zero_add]

end Store

namespace Binder

variable {binder : Binder} {family : Family} {store : Store} {key text : Text} {parts : List Text}
  {texts : Text → Prop} {shape item : Shape} {target : Target} {tag : Tag}

/-! ### The sources of the two spellings -/

section

variable {top : Store} (consistent : store.Consistent) (stored : store.get? key = some text)
  (written : Store.ofList? (partEntries key 0 parts) = .ok top)

include consistent stored written

theorem get?_indexed_eq {other : Text} (different : other ≠ key) :
    (Source.overlay top store).get? other
      = (Source.plain (store.indexed key parts).1).get? other := by
  have here : key ∈ store.keys := Store.isSome_get?_iff.1 (stored ▸ rfl)
  refine Option.ext fun value => ?_
  show (top.get? other).orElse (fun _ => store.get? other) = some value
    ↔ (store.indexed key parts).1.get? other = some value
  rw [(consistent.get?_indexed stored parts).2, ← get?_of_ofList?_partEntries written]
  cases part : top.get? other with
  | some value' =>
    obtain ⟨index, -, rfl⟩ := (get?_of_ofList?_partEntries written).1 part
    have beside : element key index ∉ store.keys := fun mem =>
      consistent.apart key here _ mem (Key.isBelow_element key index)
    rw [Store.get?_eq_none_iff.2 beside]
    simp
  | none => simp [different]

/-- The key of the text is there in both, and every other key when it has a text within it, or the
key of the text. -/
theorem has_indexed_eq (nonempty : parts ≠ []) (other : Text) :
    (Source.overlay top store).has other
      = (Source.plain (store.indexed key parts).1).has other := by
  have same {inner : Text} (different : inner ≠ key) :=
    congrArg Option.isSome (get?_indexed_eq consistent stored written different)
  have replaced := (consistent.get?_indexed stored parts).2
  rw [Bool.eq_iff_iff, Source.has_iff_exists, Source.has_iff_exists]
  constructor
  · rintro ⟨inner, found, within⟩
    by_cases atKey : inner = key
    · -- the key has no value any more, but its first element has
      subst atKey
      obtain ⟨part, rest, rfl⟩ := List.exists_cons_of_ne_nil nonempty
      refine ⟨element inner 0, ?_, within.imp_right fun within => ?_⟩
      · exact Option.isSome_iff_exists.2 ⟨part, (replaced _ part).2 (.inl ⟨0, rfl, rfl⟩)⟩
      · exact within.trans (.of_isBelow (Key.isBelow_element inner 0))
    · exact ⟨inner, (same atKey).symm.trans found, within⟩
  · rintro ⟨inner, found, within⟩
    have different : inner ≠ key := by
      rintro rfl
      obtain ⟨value, found⟩ := Option.isSome_iff_exists.1 found
      rcases (replaced inner value).1 found with ⟨index, -, equal⟩ | ⟨different, -⟩
      · have longer := Key.length_lt_of_isBelow (Key.isBelow_element inner index)
        rw [← equal] at longer
        exact absurd longer (Nat.lt_irrefl _)
      · exact different rfl
    exact ⟨inner, (same different).trans found, within⟩

/-- **Parts laid over their text and parts in place of the text are twins**: only the key of the text
has a value in one of them and not in the other, and it is a container in both. -/
theorem twins_indexed (nonempty : parts ≠ [])
    (known : ∀ other value, store.get? other = some value → texts value)
    (knownParts : ∀ part ∈ parts, texts part) :
    Twins key texts (.overlay top store) (store.indexed key parts).1 where
  get? _ different := get?_indexed_eq consistent stored written different
  has := has_indexed_eq consistent stored written nonempty
  known other _ := by
    refine Source.known_overlay (fun value part => ?_) (known other)
    obtain ⟨index, mem, -⟩ := (get?_of_ofList?_partEntries written).1 part
    exact knownParts value (List.mem_of_getElem? mem)

end

/-! ### Below the key of the sequence -/

/-- Binding a shape of the elements, over twins that differ at the key of the sequence, at a target
with a longer key. -/
structure Below (binder : Binder) (family : Family) (item : Shape) (key : Text)
    (texts : Text → Prop) (first second : Source) (shape : Shape) (target : Target) : Prop where
  reached : family.Reaches item shape
  twins : Twins key texts first second
  longer : key.length < target.key.length
  brings : Brings binder texts target.tag

/-- **Below the key at which they differ, twins cannot be told apart** by binding, if no text that it
comes across mentions the key. -/
theorem congruence_below (unmentioned : ∀ text, texts text → ¬ Mentions text key)
    (commas : ∀ text, texts text → ∀ part ∈ (text.splitOn ',').map Text.trim, texts part)
    (tags : ∀ tag, FieldTag family item tag → Brings binder texts tag) :
    Congruence binder family (Below binder family item key texts) := by
  have veils : Veils (· = key) (key.length < ·.length) texts (Twins key texts) :=
    { veiled := Twins.veiled
      overlay := fun twins known => twins.overlay known
      nonempty := fun longer => List.ne_nil_of_length_pos (Nat.zero_lt_of_lt longer)
      shown := fun longer same => absurd longer (by rw [same]; exact Nat.lt_irrefl _)
      within := fun longer within => Nat.lt_of_lt_of_le longer (Key.length_le_of_within within) }
  have same : Below binder family item key texts
      = Placed binder family item (key.length < ·.length) texts (Twins key texts) := by
    funext first second shape target
    exact propext ⟨fun below => ⟨below.reached, below.twins, below.longer, below.brings⟩,
      fun placed => ⟨placed.reached, placed.related, placed.placed, placed.brings⟩⟩
  rw [same]
  refine congruence_placed veils (fun text known other here => ?_) commas tags
  exact here ▸ unmentioned text known

/-! ### Both spellings -/

section

variable (consistent : store.Consistent) (stored : store.get? target.key = some text)

include consistent stored

/-- Without elements of its own, a sequence is bound over the parts of its text. -/
theorem exists_elementSource_eq (filled : text ≠ [])
    (divided : binder.sequenceParts target text = .ok parts) (item : Shape) :
    ∃ top, Store.ofList? (partEntries target.key 0 parts) = .ok top
      ∧ binder.elementSource store item target = .ok (some (.overlay top store)) := by
  have here : target.key ∈ store.keys := Store.isSome_get?_iff.1 (stored ▸ rfl)
  have below := Key.isBelow_element target.key 0
  obtain ⟨top, written, -⟩ :=
    exists_store_partEntries (consistent.wellFormed target.key here) parts
  have absent : ¬ (Source.plain store).has (element target.key 0) := by
    rw [Source.has_iff_exists_mem (Key.ne_nil_of_isBelow below)]
    rintro ⟨inner, mem, within⟩
    exact consistent.apart target.key here inner mem
      (Key.isBelow_of_isBelow_of_within below within)
  have found : (Source.plain store).get? target.key = some text := stored
  have present : (Source.plain store).has target.key := by
    rw [Source.has_eq, found]
    rfl
  refine ⟨top, written, ?_⟩
  simp only [elementSource, if_neg absent, sequenceText, if_pos present, found, Option.getD_some,
    if_neg filled, divided, written]

/-- With elements of its own, a sequence is bound over its store. -/
theorem elementSource_indexed (binder : Binder) (nonempty : parts ≠ []) (item : Shape) :
    binder.elementSource (store.indexed target.key parts).1 item target
      = .ok (some (store.indexed target.key parts).1) := by
  obtain ⟨part, rest, rfl⟩ := List.exists_cons_of_ne_nil nonempty
  have first : (Source.plain (store.indexed target.key (part :: rest)).1).get?
      (element target.key 0) = some part :=
    ((consistent.get?_indexed stored (part :: rest)).2 _ part).2 (.inl ⟨0, rfl, rfl⟩)
  have present : (Source.plain (store.indexed target.key (part :: rest)).1).has
      (element target.key 0) := by
    rw [Source.has_eq, first]
    rfl
  rw [elementSource, if_pos present]

end

/-- **The delimited and the indexed spelling of a sequence are bound alike.** Let a consistent store
have a text at the key of a sequence that is divided into parts, and let the parts take its place, as
elements of the key. If no text that binding the elements may come across mentions the key, then the
sequence has the same outcome over both stores, a value or an error, whatever its elements are: to
every depth, in the result that binding settles at, and in what the binder answers where its depth is
enough. -/
theorem delimited_eq_indexed (binder : Binder) (family : Family) {store : Store}
    (consistent : store.Consistent) {shape item : Shape} {type : Text}
    (resolved : shape.resolve family = .sequence type item) {target : Target} {text : Text}
    {parts : List Text} (stored : store.get? target.key = some text) (filled : text ≠ [])
    (divided : binder.sequenceParts target text = .ok parts) (nonempty : parts ≠ [])
    (unmentioned : ∀ text, Occurs binder family store item parts text →
      ¬ Mentions text target.key) :
    (store.indexed target.key parts).2 = none
      ∧ (∀ depth, binder.bindAt family depth store shape target
        = binder.bindAt family depth (store.indexed target.key parts).1 shape target)
      ∧ (∀ result, binder.Settles family store shape target result
        ↔ binder.Settles family (store.indexed target.key parts).1 shape target result)
      ∧ (binder.Ends family store shape target →
        binder.Ends family (store.indexed target.key parts).1 shape target →
        binder.bind family store shape target
          = binder.bind family (store.indexed target.key parts).1 shape target) := by
  have every (depth : Nat) : binder.bindAt family depth store shape target
      = binder.bindAt family depth (store.indexed target.key parts).1 shape target := by
    cases depth with
    | zero => rfl
    | succ depth =>
      obtain ⟨top, written, overlaid⟩ :=
        exists_elementSource_eq consistent stored filled divided (item.resolve family)
      have spelled := elementSource_indexed consistent stored binder nonempty (item.resolve family)
      have twins : Twins target.key (Occurs binder family store item parts)
          (.overlay top store) (store.indexed target.key parts).1 :=
        twins_indexed consistent stored written nonempty (fun _ _ => .stored) fun _ => .part
      have congruence : Congruence binder family
          (Below binder family item target.key (Occurs binder family store item parts)) :=
        congruence_below unmentioned (fun _ known _ => .comma known) fun tag tagged =>
          ⟨fun _ => .fallback tagged, fun _ _ given found _ _ known more _ =>
            .split known tagged given found more⟩
      rw [bindAt_sequence resolved, bindAt_sequence resolved]
      refine bindSequence_congr ?_
      rw [overlaid, spelled]
      refine .some fun index => ⟨twins.has _, (congruence.bindAt_eq depth).1 ?_⟩
      obtain ⟨key, tag⟩ := binder.elementTarget_place target (target.element index)
      exact ⟨.root, twins, key ▸ Key.length_lt_of_isBelow (Key.isBelow_element target.key index),
        tag ▸ brings_empty⟩
  have settles (result : Except PropertyError Value) :
      binder.Settles family store shape target result
        ↔ binder.Settles family (store.indexed target.key parts).1 shape target result := by
    unfold Settles
    simp only [every]
  refine ⟨(consistent.get?_indexed stored parts).1, every, settles, fun ends ends' => ?_⟩
  exact (bind_settles ends).unique ((settles _).2 (bind_settles ends'))

/-- Divides a text at a mark. -/
def splitMark (mark : Char) : Splitter := fun text => .ok (text.splitOn mark)

/-- The binder with splitters at semicolons and bars. -/
def gridBinder : Binder :=
  ⟨⟨[], [("semicolon", splitMark ';'), ("bar", splitMark '|')], []⟩, .container⟩

/-- Rows of numbers in one text, beside another property. -/
def gridStore : Store :=
  (Store.empty.extend [] (.object [("grid", .string "1|2;3"), ("name", .string "g")])).1

/-- The place of the rows, which are divided at semicolons. -/
def gridTarget : Target := ⟨"grid", "Grid", ⟨"grid", none, some ("semicolon" : Text)⟩, []⟩

/-- The shape of the rows, the text of each of which is divided at bars again. -/
def rowShape : Shape :=
  .composite "Row"
    [⟨"cells", .tagged "$\x7bROOT\x7d||bar", .sequence "Vec" (.scalar "i32" (.signed 32)), []⟩,
      ⟨"unit", .tagged "$\x7bunit:=mm\x7d", .scalar "String" .string, []⟩]

/-- The value of a row. -/
def rowValue (cells : List Int) : Value :=
  .object [("cells", .array (cells.map .ofInt)), ("unit", .string "mm")]

/-- The value of the rows. -/
def gridValue : Value := .array [rowValue [1, 2], rowValue [3]]

theorem fieldTags_rowShape :
    fieldTags [] rowShape
      = [⟨"ROOT", none, some ("bar" : Text)⟩, ⟨"unit", some ("mm" : Text), none⟩] := rfl

theorem not_mentions_grid :
    ∀ text, Occurs gridBinder [] gridStore rowShape ["1|2", "3"] text → ¬ Mentions text "grid" := by
  have plain {text : Text} (unopened : ¬ text.has Tag.opening) : ¬ Mentions text "grid" :=
    fun mentions => unopened mentions.has_opening
  intro text occurs
  refine occurs.not_mentions ⟨fun key text found => plain ?_, ?_, fun tag tagged => ?_⟩ ?_
  · have listed : (key, text) ∈ [(("grid" : Text), ("1|2;3" : Text)), ("name", "g")] :=
      Table.mem_of_get? found
    simp only [List.mem_cons, Prod.mk.injEq, List.not_mem_nil, or_false] at listed
    rcases listed with ⟨-, rfl⟩ | ⟨-, rfl⟩ <;> decide
  · exact List.forall_mem_cons.2
      ⟨plain (by decide), List.forall_mem_singleton.2 (plain (by decide))⟩
  · have listed := tagged.mem_fieldTags
    simp only [fieldTags_rowShape, List.mem_cons, List.not_mem_nil, or_false] at listed
    rcases listed with rfl | rfl
    · nofun
    · rintro text ⟨⟩
      exact plain (by decide)
  · -- both splitters give pieces of the text
    intro tag name splitter _ _ found text more silent divided part mem mentions
    have listed : (name, splitter)
        ∈ [(("semicolon" : Text), splitMark ';'), ("bar", splitMark '|')] :=
      Table.mem_of_get? found
    simp only [List.mem_cons, Prod.mk.injEq, List.not_mem_nil, or_false] at listed
    rcases listed with ⟨-, rfl⟩ | ⟨-, rfl⟩ <;> cases divided <;>
      exact silent (mentions.of_isInfix (Text.isInfix_of_mem_splitOn mem))

theorem delimited_eq_indexed_grid :
    gridStore.Consistent
      ∧ gridStore.get? gridTarget.key = some "1|2;3"
      ∧ gridBinder.sequenceParts gridTarget "1|2;3" = .ok ["1|2", "3"]
      ∧ (∀ text, Occurs gridBinder [] gridStore rowShape ["1|2", "3"] text →
        ¬ Mentions text gridTarget.key)
      ∧ gridBinder.bindAt [] 5 (gridStore.indexed gridTarget.key ["1|2", "3"]).1
          (.sequence "Vec" rowShape) gridTarget = .done gridValue
      ∧ gridBinder.bindAt [] 5 gridStore (.sequence "Vec" rowShape) gridTarget = .done gridValue
      ∧ gridBinder.Settles [] gridStore (.sequence "Vec" rowShape) gridTarget (.ok gridValue) := by
  have consistent : gridStore.Consistent := Store.consistent_of_reachable (.extend .empty _ _)
  have stored : gridStore.get? gridTarget.key = some "1|2;3" := rfl
  have divided : gridBinder.sequenceParts gridTarget "1|2;3" = .ok ["1|2", "3"] := rfl
  have bound : gridBinder.bindAt [] 5 (gridStore.indexed gridTarget.key ["1|2", "3"]).1
      (.sequence "Vec" rowShape) gridTarget = .done gridValue := by with_unfolding_all rfl
  obtain ⟨-, every, settles, -⟩ := delimited_eq_indexed gridBinder [] consistent
    (show (Shape.sequence "Vec" rowShape).resolve [] = .sequence "Vec" rowShape from rfl) stored
    (by decide) divided (by decide) not_mentions_grid
  have settled := settles_of_bindAt (show _ = Outcome.ofExcept (.ok gridValue) from bound)
  exact ⟨consistent, stored, divided, not_mentions_grid, bound, (every 5).trans bound,
    (settles _).2 settled⟩

/-! ### Placeholders that a splitter makes -/

/-- A sequence is bound to different results from a text and from its parts, although no text that
binding is given has a property. -/
structure ToldApart (binder : Binder) (store : Store) (item : Shape) (target : Target) (text : Text)
    (parts : List Text) (holds : Text → Prop) (first second : Except PropertyError Value) :
    Prop where
  consistent : store.Consistent
  stored : store.get? target.key = some text
  filled : text ≠ []
  divided : binder.sequenceParts target text = .ok parts
  nonempty : parts ≠ []
  silent : GivenTexts [] store item parts fun text => ¬ holds text
  delimited : binder.bind [] store (.sequence "Vec" item) target = first
  indexed : binder.bind [] (store.indexed target.key parts).1 (.sequence "Vec" item) target = second
  differ : first ≠ second

/-- Gives a placeholder for `k` as the only part of any text. -/
def splitReference : Splitter := fun _ => .ok ["$\x7bk\x7d"]

/-- The binder with that splitter and one at bars. -/
def referringBinder : Binder :=
  ⟨⟨[], [("refer", splitReference), ("bar", splitMark '|')], []⟩, .container⟩

/-- The store with a text at `k` alone. -/
def singleStore (text : Text) : Store := (Store.empty.extend [] (.object [("k", .string text)])).1

/-- The place of the text. -/
def singleTarget : Target := Target.new "k" "p"

/-- An element whose own text is divided by a splitter, as the delimited spelling of a list. -/
def listShape (splitter : Text) (item : Shape) : Shape :=
  .composite "E" [⟨"f", .tagged ("$\x7bROOT\x7d||" ++ splitter), .sequence "Vec" item, []⟩]

/-- A placeholder whose body is refused as a key because of the brace in it; between the bars of the
body stands a placeholder for `k`. -/
def barredText : Text := "$\x7ba|$\x7bk\x7d|b\x7d"

/-- A value that is looked up in the second part of the text of the first element. -/
def secondPart : Shape :=
  .composite "G" [⟨"x", .tagged "$\x7bx:=$\x7bk[0][1]\x7d\x7d", .scalar "String" .string, []⟩]

/-- The value of the single element. -/
def listValue (items : List Value) : Value := .array [.object [("f", .array items)]]

theorem get?_singleStore {text other value : Text}
    (found : (singleStore text).get? other = some value) : value = text := by
  have listed : (other, value) ∈ [(("k" : Text), text)] := Table.mem_of_get? found
  exact (Prod.mk.inj (List.mem_singleton.1 listed)).2

theorem not_refers_barredText : ¬ Refers barredText "k" := by
  intro refers
  have whole : barredText = Placeholder.span "a|$\x7bk\x7d|b" := rfl
  rw [whole] at refers
  obtain ⟨target, read, -⟩ := refers.exists_target rfl
  have refused : Target.ofTag? barredText [] = .error (.malformed barredText (.tag .keyMarks) []) :=
    rfl
  cases refused.symm.trans read

theorem not_refers_secondPart : ¬ Refers "$\x7bk[0][1]\x7d" "k" := by
  intro refers
  have whole : ("$\x7bk[0][1]\x7d" : Text) = Placeholder.span "k[0][1]" := rfl
  rw [whole] at refers
  obtain ⟨target, read, named⟩ := refers.exists_target rfl
  have other : Target.ofTag? (Placeholder.span "k[0][1]") []
      = .ok ⟨"k[0][1]", [], ⟨"k[0][1]", none, none⟩, []⟩ := rfl
  cases other.symm.trans read
  exact absurd named (by decide)

/-- **A splitter that is named inside the elements tells the spellings apart** when a part that it
gives is a placeholder for the key of the sequence. It may make the placeholder where there was none
at all, or cut it out of a text in which it is not read as one. -/
theorem told_apart_by_splitter :
    ToldApart referringBinder (singleStore "x") (listShape "refer" (.scalar "String" .string))
        singleTarget "x" ["x"] (fun text => text.has Tag.opening)
        (.ok (listValue [.string "x"])) (.ok (listValue [.string []]))
      ∧ ToldApart referringBinder (singleStore barredText) (listShape "bar" secondPart)
        singleTarget barredText [barredText] (fun text => Refers text "k")
        (.error (.malformed barredText (.tag .keyMarks) "p[0].f[0].x"))
        (.ok (listValue (List.replicate 3 (.object [("x", .string [])])))) := by
  have consistent (text : Text) : (singleStore text).Consistent :=
    Store.consistent_of_reachable (.extend .empty _ _)
  constructor
  · refine ⟨consistent _, rfl, by decide, rfl, by decide, ⟨fun other value found => ?_, ?_, ?_⟩,
      by with_unfolding_all rfl, by with_unfolding_all rfl, by simp [listValue]⟩
    · rw [get?_singleStore found]
      decide
    · exact List.forall_mem_singleton.2 (by decide)
    · intro tag tagged
      obtain rfl : tag = ⟨"ROOT", none, some ("refer" : Text)⟩ :=
        List.mem_singleton.1 tagged.mem_fieldTags
      nofun
  · refine ⟨consistent _, rfl, by decide, rfl, by decide, ⟨fun other value found => ?_, ?_, ?_⟩,
      by with_unfolding_all rfl, by with_unfolding_all rfl, nofun⟩
    · rw [get?_singleStore found]
      exact not_refers_barredText
    · exact List.forall_mem_singleton.2 not_refers_barredText
    · intro tag tagged
      have listed : tag ∈ [⟨"ROOT", none, some ("bar" : Text)⟩,
        ⟨"x", some ("$\x7bk[0][1]\x7d" : Text), none⟩] := tagged.mem_fieldTags
      simp only [List.mem_cons, List.not_mem_nil, or_false] at listed
      rcases listed with rfl | rfl
      · nofun
      · rintro text ⟨⟩
        exact not_refers_secondPart

end Binder

end TypedConfig
