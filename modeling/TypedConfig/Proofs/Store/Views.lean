import TypedConfig.Proofs.Source.View
import TypedConfig.Proofs.Text.Bytes

/-!
# The tree that a store shows

A store is looked at through its values, through whether it has a key, and through the names of the
members of a container. All of them show the same tree.

The keys inside a container stand together in the order of keys: whatever stands between a text and
one that begins with it begins with it too. So they are also found by a walk that starts behind the
key of the container and ends at the first key that does not begin with it, although keys that are
not inside, such as `a-b` or `a0` for the container `a`, may stand between those that are.

* `Text.startsWith_of_between`: texts with the same beginning stand together.
* `walkBelow_eq`: a walk from a key on finds the keys inside it.
* `mem_memberNames_iff_child`: the names of members are the first names behind the container.
* `views_show_one_tree`: what is there, what is listed, and what is stored.
-/

namespace TypedConfig

/-- A text begins with another one when that can be continued to it. -/
theorem Text.startsWith_iff {text start : Text} :
    text.startsWith start ↔ ∃ rest, text = start ++ rest := by
  rw [startsWith, Option.isSome_iff_exists]
  exact exists_congr fun rest => dropStart?_eq_some_iff

/-- **Texts with the same beginning stand together**, right behind it. -/
theorem Text.startsWith_of_between {top middle last : Text} (behind : top < middle)
    (before : middle < last) (starts : last.startsWith top) : middle.startsWith top := by
  obtain ⟨rest, rfl⟩ := startsWith_iff.1 starts
  rw [startsWith_iff]
  induction top generalizing middle with
  | nil => exact ⟨middle, rfl⟩
  | cons char top ih =>
    cases middle with
    | nil => exact absurd behind (List.not_lt_nil _)
    | cons other middle =>
      rw [List.cons_append, List.cons_lt_cons_iff] at before
      rcases List.cons_lt_cons_iff.1 behind with less | ⟨rfl, inner⟩
      · rcases before with greater | ⟨rfl, -⟩
        · exact absurd less (Char.lt_asymm greater)
        · exact absurd less (Char.lt_irrefl _)
      · rcases before with greater | ⟨-, outer⟩
        · exact absurd greater (Char.lt_irrefl _)
        · obtain ⟨more, rfl⟩ := ih inner outer (startsWith_iff.2 ⟨rest, rfl⟩)
          exact ⟨more, rfl⟩

namespace Store

open Key (Descends Within child child_ne_nil isBelow_iff firstName)

variable {store : Store} {top : Text}

/-! ### Walks -/

section Walks

variable {Entry : Type} {entries : List Entry} {holds : Entry → Bool}

/-- Where whatever stands in front of an entry with a property has it too, those with it come
first. -/
theorem takeWhile_eq_filter
    (closed : entries.Pairwise fun first second => holds second → holds first) :
    entries.takeWhile holds = entries.filter holds := by
  induction entries with
  | nil => rfl
  | cons entry entries ih =>
    obtain ⟨first, rest⟩ := List.pairwise_cons.1 closed
    by_cases here : holds entry
    · rw [List.takeWhile_cons_of_pos here, List.filter_cons_of_pos here, ih rest]
    · rw [List.takeWhile_cons_of_neg here, List.filter_cons_of_neg here, eq_comm,
        List.filter_eq_nil_iff]
      exact fun other mem there => here (first other mem there)

theorem dropWhile_eq_filter
    (closed : entries.Pairwise fun first second => holds second → holds first) :
    entries.dropWhile holds = entries.filter fun entry => !holds entry := by
  induction entries with
  | nil => rfl
  | cons entry entries ih =>
    obtain ⟨first, rest⟩ := List.pairwise_cons.1 closed
    by_cases here : holds entry
    · rw [List.dropWhile_cons_of_pos here, List.filter_cons_of_neg (by simp [here]), ih rest]
    · rw [List.dropWhile_cons_of_neg here, eq_comm, List.filter_eq_self]
      intro other mem
      rcases List.mem_cons.1 mem with rfl | later
      · simp [here]
      · simpa using fun there => here (first other later there)

end Walks

/-- The keys that a walk finds inside a container: it starts behind the key of the container, goes
on as long as the keys begin with it, and passes over those that do not go on with a dot or an
index. -/
def walkBelow (store : Store) (top : Text) : List Text :=
  let behind := store.keys.dropWhile fun key => !decide (top < key)
  let beginning := behind.takeWhile fun key => key.startsWith top
  beginning.filter fun key => top = [] || key[top.length]?.any fun char => Descends char

/-- **A walk finds the keys inside a container.** -/
theorem walkBelow_eq (store : Store) (top : Text) : store.walkBelow top = store.keysBelow top := by
  have sorted : store.keys.Pairwise (· < ·) := store.sorted
  have behind : (store.keys.dropWhile fun key => !decide (top < key))
      = store.keys.filter fun key => top < key := by
    rw [dropWhile_eq_filter (sorted.imp fun {first second} less => ?_)]
    · simp only [Bool.not_not]
    · simp only [Bool.not_eq_true', decide_eq_false_iff_not]
      exact fun notBehind behind => notBehind (List.lt_trans behind less)
  have beginning : ((store.keys.filter fun key => top < key).takeWhile (Text.startsWith · top))
      = (store.keys.filter fun key => top < key).filter (Text.startsWith · top) := by
    refine takeWhile_eq_filter (List.pairwise_filter.2 (sorted.imp ?_))
    intro first second less firstBehind _ starts
    exact Text.startsWith_of_between (of_decide_eq_true firstBehind) less starts
  rw [walkBelow, behind, beginning, List.filter_filter, List.filter_filter, keysBelow]
  refine List.filter_congr fun key _ => ?_
  rw [Bool.eq_iff_iff]
  by_cases root : top = []
  · subst root
    cases key <;> simp [Text.startsWith, Text.dropStart?]
  · simp only [root, decide_false, Bool.false_or, if_false, Bool.and_eq_true, decide_eq_true_eq]
    rw [isBelow_iff]
    constructor
    · rintro ⟨⟨inside, starts⟩, -⟩
      obtain ⟨rest, rfl⟩ := Text.startsWith_iff.1 starts
      cases rest with
      | nil => simp at inside
      | cons char rest => exact ⟨char, rest, by simpa using inside, rfl⟩
    · rintro ⟨char, rest, descends, rfl⟩
      refine ⟨⟨by simpa using descends, Text.startsWith_iff.2 ⟨_, rfl⟩⟩, ?_⟩
      have longer : top ++ [] < top ++ char :: rest :=
        List.append_left_lt (List.nil_lt_cons char rest)
      rwa [List.append_nil] at longer

/-! ### Members -/

/-- The names of members are the first names behind the container. -/
theorem mem_memberNames_iff_child (consistent : store.Consistent) {name : Text} :
    name ∈ (store.keysBelow top).filterMap (memberName? top)
      ↔ ∃ key ∈ store.keys, ∃ more, key = child top more ∧ firstName more = name := by
  constructor
  · intro mem
    obtain ⟨more, stored, named⟩ :=
      @Source.exists_child_of_mem_memberNames (.plain store) top name mem
    exact ⟨_, isSome_get?_iff.1 stored, more, rfl, named⟩
  · rintro ⟨key, mem, more, rfl, named⟩
    have inside := Key.ne_nil_of_wellFormed (consistent.wellFormed _ mem)
    by_cases root : top = []
    · subst root
      refine List.mem_filterMap.2 ⟨more, List.mem_filter.2 ⟨mem, bne_iff_ne.2 inside⟩, ?_⟩
      exact congrArg some named
    · refine (@Source.mem_memberNames_iff (.plain store) top name root).2 ⟨more, ?_, named⟩
      exact isSome_get?_iff.2 (Key.child_eq root ▸ mem)

/-- **The names of members are the names that the store has behind the container.** -/
theorem mem_memberNames_iff_has (consistent : store.Consistent) {name : Text} :
    name ∈ (store.keysBelow top).filterMap (memberName? top)
      ↔ name ≠ [] ∧ '.' ∉ name ∧ '[' ∉ name ∧ store.has (child top name) := by
  have flat : (∀ char ∈ name, ¬ Descends char) ↔ '.' ∉ name ∧ '[' ∉ name := by
    simp only [Descends, not_or, forall_and, List.forall_mem_ne']
  rw [mem_memberNames_iff_child consistent]
  constructor
  · rintro ⟨key, mem, found⟩
    obtain ⟨inside, plain, within⟩ := (Key.exists_child_iff (consistent.wellFormed key mem)).1 found
    obtain ⟨noDot, noBracket⟩ := flat.1 plain
    exact ⟨inside, noDot, noBracket, (has_iff (child_ne_nil inside)).2 ⟨key, mem, within⟩⟩
  · rintro ⟨inside, noDot, noBracket, there⟩
    obtain ⟨key, mem, within⟩ := (has_iff (child_ne_nil inside)).1 there
    exact ⟨key, mem, (Key.exists_child_iff (consistent.wellFormed key mem)).2
      ⟨inside, flat.2 ⟨noDot, noBracket⟩, within⟩⟩

/-! ### One tree -/

/-- The root is there when anything is stored, and another key when it, or a key that continues it
with a dot or an index, is stored. -/
theorem has_iff_stored (consistent : store.Consistent) (top : Text) :
    store.has top ↔ if top = [] then store.keys ≠ []
      else ∃ key ∈ store.keys,
        key = top ∨ ∃ rest, key = top ++ '.' :: rest ∨ key = top ++ '[' :: rest := by
  split_ifs with root
  · subst root
    rw [has, hasBelow, Bool.or_eq_true, isSome_get?_iff, Bool.not_eq_true',
      List.isEmpty_eq_false_iff_exists_mem]
    constructor
    · rintro (mem | ⟨key, mem⟩)
      · exact List.ne_nil_of_mem mem
      · exact List.ne_nil_of_mem (List.mem_of_mem_filter mem)
    · intro nonempty
      obtain ⟨key, mem⟩ := List.exists_mem_of_ne_nil _ nonempty
      have inside := Key.ne_nil_of_wellFormed (consistent.wellFormed key mem)
      exact .inr ⟨key, List.mem_filter.2 ⟨mem, bne_iff_ne.2 inside⟩⟩
  · rw [has_iff root]
    refine exists_congr fun key => and_congr_right fun _ => or_congr_right ?_
    rw [isBelow_iff]
    constructor
    · rintro ⟨_, rest, rfl | rfl, rfl⟩
      · exact ⟨rest, .inl rfl⟩
      · exact ⟨rest, .inr rfl⟩
    · rintro ⟨rest, rfl | rfl⟩
      · exact ⟨'.', rest, .inl rfl, rfl⟩
      · exact ⟨'[', rest, .inr rfl, rfl⟩

/-- A key is there when something inside it is. -/
theorem has_of_has_inside {char : Char} {rest : Text} (inside : top ≠ []) (descends : Descends char)
    (there : store.has (top ++ char :: rest)) : store.has top := by
  have nonempty : top ++ char :: rest ≠ [] := List.append_ne_nil_of_left_ne_nil inside _
  obtain ⟨key, mem, within⟩ := (has_iff nonempty).1 there
  have below : Key.isBelow top (top ++ char :: rest) :=
    isBelow_iff.2 ⟨char, rest, descends, rfl⟩
  exact (has_iff inside).2 ⟨key, mem, (Within.of_isBelow below).trans within⟩

/-- The names of the members of a container are listed in the order of their bytes, and exactly
those are listed that the store has behind the container. -/
theorem exists_members?_of_not_mem (consistent : store.Consistent) (none : top ∉ store.keys) :
    ∃ names, store.members? top = .ok names
      ∧ names.Pairwise (fun first second => Text.bytes first < Text.bytes second)
      ∧ ∀ name, name ∈ names
          ↔ name ≠ [] ∧ '.' ∉ name ∧ '[' ∉ name ∧ store.has (child top name) := by
  have ascending : (sortedNames ((store.keysBelow top).filterMap (memberName? top))).Pairwise
      (· < ·) := Table.sorted_ofList _
  refine ⟨_, if_neg (isSome_get?_iff.not.2 none), ascending.imp Text.bytes_lt_bytes, fun name => ?_⟩
  exact mem_sortedNames.trans (mem_memberNames_iff_has consistent)

/-- **All views of a store show one tree.** A key is there when it is stored or a stored key
continues it; a stored key has no members, and every other text lists exactly the names behind which
something is there; what is inside a key that is not the root is there with that key; and what is
inside is found by a walk through a stretch of the stored keys. -/
theorem views_show_one_tree (consistent : store.Consistent) (top : Text) :
    (store.has top ↔ if top = [] then store.keys ≠ []
        else ∃ key ∈ store.keys,
          key = top ∨ ∃ rest, key = top ++ '.' :: rest ∨ key = top ++ '[' :: rest)
      ∧ ((∃ error, store.members? top = .error error) ↔ top ∈ store.keys)
      ∧ (top ∉ store.keys → ∃ names, store.members? top = .ok names
          ∧ names.Pairwise (fun first second => Text.bytes first < Text.bytes second)
          ∧ ∀ name, name ∈ names
              ↔ name ≠ [] ∧ '.' ∉ name ∧ '[' ∉ name ∧ store.has (child top name))
      ∧ (top ≠ [] → ∀ rest,
          store.has (top ++ '.' :: rest) ∨ store.has (top ++ '[' :: rest) → store.has top)
      ∧ store.walkBelow top = store.keysBelow top := by
  refine ⟨has_iff_stored consistent top, ?_, exists_members?_of_not_mem consistent,
    fun inside rest there => ?_, walkBelow_eq store top⟩
  · constructor
    · rintro ⟨error, failed⟩
      by_contra none
      obtain ⟨names, listed, -⟩ := exists_members?_of_not_mem consistent none
      cases listed.symm.trans failed
    · exact fun mem => ⟨_, if_pos (isSome_get?_iff.2 mem)⟩
  · rcases there with dot | bracket
    · exact has_of_has_inside inside (.inl rfl) dot
    · exact has_of_has_inside inside (.inr rfl) bracket

/-- A store in which keys that are not inside `a` stand around those that are, and between them. -/
def siblingStore : Store :=
  (empty.setAll [("a-b", "1"), ("a.d[0]", "2"), ("a.b.c", "3"), ("a.b.e", "4"), ("aZ", "5"),
    ("a[0]", "6"), ("ab.c", "7")]).1

theorem siblingStore_members :
    siblingStore.keys = ["a-b", "a.b.c", "a.b.e", "a.d[0]", "aZ", "a[0]", "ab.c"]
      ∧ siblingStore.walkBelow "a" = ["a.b.c", "a.b.e", "a.d[0]", "a[0]"]
      ∧ siblingStore.members? "a" = .ok ["b", "d"]
      ∧ (∀ name, name ∈ (["b", "d"] : List Text)
          ↔ name ≠ [] ∧ '.' ∉ name ∧ '[' ∉ name ∧ siblingStore.has (child "a" name))
      ∧ siblingStore.members? [] = .ok ["a", "a-b", "aZ", "ab"]
      ∧ (∃ error, siblingStore.members? "a[0]" = .error error)
      ∧ siblingStore.has "a" := by
  have consistent : siblingStore.Consistent := consistent_empty.setAll _
  obtain ⟨-, -, listed, inner, walked⟩ := views_show_one_tree consistent "a"
  have keys : siblingStore.keys
      = ["a-b", "a.b.c", "a.b.e", "a.d[0]", "aZ", "a[0]", "ab.c"] := by decide
  have members : siblingStore.members? "a" = .ok ["b", "d"] := by decide
  obtain ⟨names, found, -, complete⟩ := listed (by decide)
  cases members.symm.trans found
  refine ⟨keys, walked.trans (by decide), members, complete, by decide, ?_, ?_⟩
  · exact (views_show_one_tree consistent "a[0]").2.1.2 (by decide)
  · exact inner (by decide) "0]" (.inr (by decide))

end Store

end TypedConfig
