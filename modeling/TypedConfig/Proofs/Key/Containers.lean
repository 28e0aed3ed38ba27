import TypedConfig.Proofs.Key.Extension

/-!
# The containers of a key

The scanner reads a key one character at a time, also between the brackets of an index. A scanner
that looks for the closing bracket, reads the index as a whole and goes on behind it comes to the
same on every text, with the same fault.

* `containersByIndex?`, `containers?_eq_containersByIndex?`: the scanner that goes from index to
  index.
* `beginnings_eq_take`: the beginnings of a text in front of dots and opening brackets, by the
  places of these characters.
* `exists_containers?_of_mem`: a container is a key itself, and its containers are the ones found in
  front of it.
* `containers?_exact`: the scanner accepts the keys of the grammar and finds the beginnings in front
  of their dots and opening brackets.
-/

namespace TypedConfig.Key

/-! ### Reading whole indices -/

/-- The text in front of the first closing bracket. -/
def indexPart (text : Text) : Text := text.takeWhile (· != ']')

/-- The text behind the first closing bracket. -/
def behindIndex (text : Text) : Text := (text.dropWhile (· != ']')).tail

theorem length_behindIndex_le (text : Text) : (behindIndex text).length ≤ text.length := by
  have shorter := (List.dropWhile_sublist (· != ']') (l := text)).length_le
  rw [behindIndex, List.length_tail]
  omega

/-- The containers that are still to be found when `done` has been read; `expectsName` says whether
a name has to follow. -/
def scanByIndex (expectsName : Bool) (done : Text) : Text → Except Fault (List Text)
  | [] => if expectsName then .error .emptySegment else .ok []
  | char :: text =>
    if char = '.' then
      if expectsName then .error .emptySegment
      else (scanByIndex true (done ++ [char]) text).map (done :: ·)
    else if char = '[' then
      if expectsName then .error .indexWithoutName
      else if ']' ∉ text then .error .unclosedIndex
      else if !Text.isDigits (indexPart text) then .error .indexNotDigits
      else if (behindIndex text).head?.all (Descends ·) then
        (scanByIndex false (done ++ char :: indexPart text ++ [']']) (behindIndex text)).map
          (done :: ·)
      else .error .textAfterIndex
    else if char = ']' then .error .strayBracket
    else scanByIndex false (done ++ [char]) text
termination_by text => text.length
decreasing_by
  all_goals
    have shorter := length_behindIndex_le text
    simp only [List.length_cons]
    omega

/-- The containers of a key, found from index to index. -/
def containersByIndex? (key : Text) : Except Fault (List Text) :=
  if key = [] then .error .empty else scanByIndex true [] key

/-- Inside an index the scanner looks for the closing bracket, and for digits in front of it. -/
theorem scan_index (nonempty digits : Bool) (done text : Text) :
    scan (.index nonempty digits) done text
      = if ']' ∉ text then .error .unclosedIndex
        else if (nonempty || !(indexPart text).isEmpty)
          && (digits && (indexPart text).all Char.isDigit) then
          scan .closed (done ++ indexPart text ++ [']']) (behindIndex text)
        else .error .indexNotDigits := by
  induction text generalizing nonempty digits done with
  | nil => rfl
  | cons char text ih =>
    rw [scan]
    by_cases closing : char = ']'
    · simp [closing, indexPart, behindIndex]
    · have other : ']' ≠ char := Ne.symm closing
      rw [if_neg closing, ih]
      simp [closing, other, indexPart, behindIndex, Bool.and_assoc]

/-- Behind an index stands a dot, another index or nothing. -/
theorem scan_closed (done text : Text) :
    scan .closed done text
      = if text.head?.all (Descends ·) then scan .name done text else .error .textAfterIndex := by
  cases text with
  | nil => rfl
  | cons char text =>
    rw [scan, scan]
    by_cases dot : char = '.'
    · simp [dot, Descends]
    · by_cases opening : char = '['
      · simp [opening, Descends]
      · simp [dot, opening, Descends]

/-- An opening bracket behind a name is read together with its index. -/
theorem scan_opening (done text : Text) :
    scan .name done ('[' :: text)
      = if ']' ∉ text then .error .unclosedIndex
        else if !Text.isDigits (indexPart text) then .error .indexNotDigits
        else if (behindIndex text).head?.all (Descends ·) then
          (scan .name (done ++ '[' :: indexPart text ++ [']']) (behindIndex text)).map (done :: ·)
        else .error .textAfterIndex := by
  rw [scan, if_neg (by decide), if_pos rfl, scan_index, scan_closed, Text.isDigits]
  by_cases closed : ']' ∈ text
  · by_cases digits : (!(indexPart text).isEmpty && (indexPart text).all Char.isDigit) = true
    · by_cases inward : (behindIndex text).head?.all (Descends ·) = true
      · simp [closed, digits, inward]
      · simp [closed, digits, inward, Except.map]
    · simp [closed, digits, Except.map]
  · simp [closed, Except.map]

/-- The spot in front of a name, or the one behind it. -/
def Spot.expecting (name : Bool) : Spot := if name then .start else .name

/-- **Going from index to index comes to the same** as reading one character at a time. -/
theorem scan_eq_scanByIndex (expectsName : Bool) (done text : Text) :
    scan (.expecting expectsName) done text = scanByIndex expectsName done text := by
  fun_induction scanByIndex expectsName done text with
  | case1 done => rfl
  | case2 expectsName done behind =>
    rw [eq_false_of_ne_true behind]
    rfl
  | case3 done text => rfl
  | case4 expectsName done text behind ih =>
    rw [eq_false_of_ne_true behind, ← ih]
    rfl
  | case5 done text => rfl
  | case6 expectsName done text behind unclosed =>
    rw [eq_false_of_ne_true behind]
    exact (scan_opening done text).trans (if_pos unclosed)
  | case7 expectsName done text behind closed other =>
    rw [eq_false_of_ne_true behind]
    show scan .name done ('[' :: text) = _
    rw [scan_opening, if_neg closed, if_pos other]
  | case8 expectsName done text behind closed digits inward _ ih =>
    rw [eq_false_of_ne_true behind, ← ih]
    show scan .name done ('[' :: text) = _
    rw [scan_opening, if_neg closed, if_neg digits, if_pos inward]
    rfl
  | case9 expectsName done text behind closed digits outward =>
    rw [eq_false_of_ne_true behind]
    show scan .name done ('[' :: text) = _
    rw [scan_opening, if_neg closed, if_neg digits, if_neg outward]
  | case10 expectsName done text => cases expectsName <;> rfl
  | case11 expectsName done char text dot opening closing ih =>
    rw [← ih]
    cases expectsName <;> simp [Spot.expecting, scan, dot, opening, closing]

theorem containers?_eq_containersByIndex? (key : Text) :
    containers? key = containersByIndex? key := by
  rw [containers?, containersByIndex?, ← scan_eq_scanByIndex]
  rfl

/-! ### Beginnings -/

theorem beginnings_eq_take (done text : Text) :
    beginnings done text
      = (text.findIdxs (Descends ·)).map fun place => done ++ text.take place := by
  induction text generalizing done with
  | nil => rfl
  | cons char text ih =>
    rw [beginnings, List.findIdxs_cons, List.findIdxs_start, ih]
    by_cases descends : Descends char
    · simp [descends]
    · simp [descends]

theorem beginnings_append (done front rest : Text) :
    beginnings done (front ++ rest) = beginnings done front ++ beginnings (done ++ front) rest := by
  induction front generalizing done with
  | nil => simp [beginnings]
  | cons char front ih =>
    rw [List.cons_append, beginnings, beginnings, ih]
    by_cases descends : Descends char
    · simp [descends]
    · simp [descends]

/-- **The containers of a container** are the ones found in front of it. -/
theorem exists_containers?_of_mem {key top : Text} {found : List Text}
    (scanned : containers? key = .ok found) (mem : top ∈ found) :
    ∃ outer inner, containers? top = .ok outer ∧ found = outer ++ top :: inner := by
  have below := (mem_containers?_iff scanned).1 mem
  have wellFormed := exists_containers?_iff.1 ⟨found, scanned⟩
  obtain ⟨outer, accepted⟩ := exists_containers?_iff.2 (wellFormed_of_isBelow wellFormed below)
  obtain ⟨char, rest, descends, rfl⟩ := isBelow_iff.1 below
  refine ⟨outer, beginnings (top ++ [char]) rest, accepted, ?_⟩
  rw [containers?_eq_beginnings scanned, containers?_eq_beginnings accepted, beginnings_append,
    List.nil_append, beginnings, if_pos descends]

/-- **The scanner accepts exactly the grammar of keys and finds exactly the containers**: the
beginnings of a key that end in front of a dot or an opening bracket, the outermost first. Each of
them is accepted again, with the containers that were found in front of it. A scanner that goes from
index to index gives the same on every text. -/
theorem containers?_exact (key : Text) :
    ((∃ found, containers? key = .ok found) ↔ WellFormed key)
      ∧ (∀ found, containers? key = .ok found →
        found = (key.findIdxs (Descends ·)).map (key.take ·)
          ∧ ∀ top ∈ found,
            ∃ outer inner, containers? top = .ok outer ∧ found = outer ++ top :: inner)
      ∧ containers? key = containersByIndex? key := by
  refine ⟨exists_containers?_iff, fun found scanned => ⟨?_, ?_⟩,
    containers?_eq_containersByIndex? key⟩
  · rw [containers?_eq_beginnings scanned, beginnings_eq_take]
    simp
  · exact fun top => exists_containers?_of_mem scanned

/-- A key with two indices behind one name and a letter beyond ASCII. -/
def hostKey : Text := "a.hôte[0][12].b"

/-- A key is read to its containers, one of them to those in front of it, and a text that goes on
behind an index is no key. -/
theorem containers?_exact_hostKey :
    (hostKey.findIdxs (Descends ·)).map (hostKey.take ·)
        = (["a", "a.hôte", "a.hôte[0]", "a.hôte[0][12]"] : List Text)
      ∧ (∃ outer inner, containers? "a.hôte[0]" = .ok outer
        ∧ (["a", "a.hôte", "a.hôte[0]", "a.hôte[0][12]"] : List Text)
          = outer ++ ("a.hôte[0]" : Text) :: inner)
      ∧ ¬ WellFormed "a[0]b" ∧ containersByIndex? "a[0]b" = .error .textAfterIndex := by
  have scanned : containers? hostKey = .ok ["a", "a.hôte", "a.hôte[0]", "a.hôte[0][12]"] := rfl
  have refused : containers? "a[0]b" = .error .textAfterIndex := rfl
  obtain ⟨-, exact, -⟩ := containers?_exact hostKey
  obtain ⟨accepted, -, byIndex⟩ := containers?_exact "a[0]b"
  refine ⟨(exact _ scanned).1.symm, (exact _ scanned).2 _ (by decide), fun wellFormed => ?_,
    byIndex.symm.trans refused⟩
  obtain ⟨found, scanned⟩ := accepted.2 wellFormed
  cases refused.symm.trans scanned

end TypedConfig.Key
