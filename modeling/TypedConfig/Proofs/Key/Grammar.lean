import TypedConfig.Proofs.Except
import TypedConfig.Proofs.Key.Tree

/-!
# The grammar of keys

The scanner accepts exactly the well-formed keys, and what it returns are exactly the containers
around the place.

* `exists_containers?_iff`: a text is accepted if and only if it is written from segments.
* `containers?_eq_beginnings`, `mem_containers?_iff`: the containers of an accepted key are its
  beginnings in front of a dot or an opening bracket, and so the keys that it is below of.
* `WellFormed.child`, `WellFormed.element`: keys of members and elements are well formed.
-/

namespace TypedConfig.Key

/-! ### Written segments -/

/-- The indices behind a name, as they are written. -/
def indicesText (indices : List Text) : Text := indices.flatMap fun index => '[' :: index ++ [']']

/-- Further segments, each behind a dot. -/
def furtherText (segments : List Segment) : Text :=
  segments.flatMap fun segment => '.' :: segment.text

theorem indicesText_cons (index : Text) (indices : List Text) :
    indicesText (index :: indices) = '[' :: (index ++ ']' :: indicesText indices) := by
  simp [indicesText]

theorem furtherText_cons (segment : Segment) (segments : List Segment) :
    furtherText (segment :: segments)
      = '.' :: (segment.name ++ (indicesText segment.indices ++ furtherText segments)) := by
  simp [furtherText, Segment.text, indicesText]

theorem ofSegments_cons (segment : Segment) (segments : List Segment) :
    ofSegments (segment :: segments)
      = segment.name ++ (indicesText segment.indices ++ furtherText segments) := by
  induction segments generalizing segment with
  | nil => simp [ofSegments, Text.join, Segment.text, indicesText, furtherText]
  | cons next segments ih =>
    have rest := ih next
    rw [ofSegments, List.map_cons] at rest
    rw [ofSegments, List.map_cons, List.map_cons, Text.join, rest, furtherText_cons, Segment.text]
    · simp [indicesText]
    · simp

/-! ### What the scanner accepts -/

/-- What may follow a name or an index: indices and further segments. -/
structure Ending (text : Text) (indices : List Text) (segments : List Segment) : Prop where
  digits : ∀ index ∈ indices, Text.isDigits index
  valid : ∀ segment ∈ segments, segment.Valid
  written : text = indicesText indices ++ furtherText segments

/-- What the scanner may read from a spot on. -/
def Accepts : Spot → Text → Prop
  | .start, text => WellFormed text
  | .name, text => ∃ front rest indices segments, (∀ char ∈ front, ¬ isMark char)
      ∧ Ending rest indices segments ∧ text = front ++ rest
  | .index nonempty digits, text => digits ∧ ∃ front rest indices segments,
      (∀ char ∈ front, char.isDigit) ∧ (nonempty ∨ front ≠ []) ∧ Ending rest indices segments
        ∧ text = front ++ ']' :: rest
  | .closed, text => ∃ indices segments, Ending text indices segments

theorem ending_nil : Ending [] [] [] := ⟨by simp, by simp, rfl⟩

/-- A dot and a well-formed key are an ending. -/
theorem Ending.of_wellFormed {text : Text} (wellFormed : WellFormed text) :
    ∃ segments, Ending ('.' :: text) [] segments := by
  obtain ⟨segments, nonempty, valid, rfl⟩ := wellFormed
  obtain ⟨segment, segments, rfl⟩ := List.exists_cons_of_ne_nil nonempty
  exact ⟨segment :: segments, by simp, valid, by rw [ofSegments_cons, furtherText_cons]; rfl⟩

/-- An opening bracket and what may follow it are an ending. -/
theorem Ending.of_index {text : Text} (accepted : Accepts (.index false true) text) :
    ∃ indices segments, Ending ('[' :: text) indices segments := by
  obtain ⟨-, index, rest, indices, segments, digits, nonempty, ending, rfl⟩ := accepted
  refine ⟨index :: indices, segments, ?_, ending.valid, ?_⟩
  · intro other mem
    rcases List.mem_cons.1 mem with rfl | mem
    · have nonempty : other ≠ [] := nonempty.resolve_left (by decide)
      simpa [Text.isDigits] using ⟨nonempty, digits⟩
    · exact ending.digits other mem
  · rw [indicesText_cons, ending.written]
    simp

/-- What is scanned without a fault is written by the grammar. -/
theorem accepts_of_scan {spot : Spot} {done text : Text} {found : List Text}
    (scanned : scan spot done text = .ok found) : Accepts spot text := by
  induction text generalizing spot done found with
  | nil =>
    cases spot with
    | start => cases scanned
    | name => exact ⟨[], [], [], [], by simp, ending_nil, rfl⟩
    | index nonempty digits => cases scanned
    | closed => exact ⟨[], [], ending_nil⟩
  | cons char text ih =>
    cases spot with
    | start =>
      rw [scan] at scanned
      split_ifs at scanned with dot opening closing
      obtain ⟨front, rest, indices, segments, plain, ending, rfl⟩ := ih scanned
      refine ⟨⟨char :: front, indices⟩ :: segments, by simp, ?_, ?_⟩
      · intro segment mem
        rcases List.mem_cons.1 mem with rfl | mem
        · refine ⟨?_, ending.digits⟩
          simpa [isName, isMark, dot, opening, closing] using plain
        · exact ending.valid segment mem
      · rw [ofSegments_cons, ending.written]
        rfl
    | name =>
      rw [scan] at scanned
      split_ifs at scanned with dot opening closing
      · obtain ⟨inner, inside, -⟩ := exists_of_map_eq_ok scanned
        obtain ⟨segments, ending⟩ := Ending.of_wellFormed (ih inside)
        exact ⟨[], _, [], segments, by simp, dot ▸ ending, rfl⟩
      · obtain ⟨inner, inside, -⟩ := exists_of_map_eq_ok scanned
        obtain ⟨indices, segments, ending⟩ := Ending.of_index (ih inside)
        exact ⟨[], _, indices, segments, by simp, opening ▸ ending, rfl⟩
      · obtain ⟨front, rest, indices, segments, plain, ending, rfl⟩ := ih scanned
        refine ⟨char :: front, rest, indices, segments, ?_, ending, rfl⟩
        simpa [isMark, dot, opening, closing] using plain
    | index nonempty digits =>
      rw [scan] at scanned
      split_ifs at scanned with closing complete
      · obtain ⟨indices, segments, ending⟩ := ih scanned
        rw [Bool.and_eq_true] at complete
        exact ⟨complete.2, [], text, indices, segments, by simp, .inl complete.1, ending,
          closing ▸ rfl⟩
      · obtain ⟨digit, front, rest, indices, segments, all, -, ending, rfl⟩ := ih scanned
        rw [Bool.and_eq_true] at digit
        refine ⟨digit.1, char :: front, rest, indices, segments, ?_, .inr (by simp), ending, rfl⟩
        simpa [digit.2] using all
    | closed =>
      rw [scan] at scanned
      split_ifs at scanned with dot opening
      · obtain ⟨inner, inside, -⟩ := exists_of_map_eq_ok scanned
        obtain ⟨segments, ending⟩ := Ending.of_wellFormed (ih inside)
        exact ⟨[], segments, dot ▸ ending⟩
      · obtain ⟨inner, inside, -⟩ := exists_of_map_eq_ok scanned
        exact opening ▸ Ending.of_index (ih inside)

/-! ### What the grammar writes -/

/-- The scanner reads a text without a fault, whatever has been read before. -/
def Scans (spot : Spot) (text : Text) : Prop := ∀ done, ∃ found, scan spot done text = .ok found

/-- The spots at which a segment may go on or end. -/
def Spot.IsBehind : Spot → Prop
  | .name | .closed => True
  | _ => False

theorem scans_name_append {front rest : Text} (plain : ∀ char ∈ front, ¬ isMark char)
    (scans : Scans .name rest) : Scans .name (front ++ rest) := by
  induction front with
  | nil => exact scans
  | cons char front ih =>
    intro done
    have here := plain char List.mem_cons_self
    simp only [isMark, Bool.or_eq_true, decide_eq_true_eq, not_or] at here
    rw [List.cons_append, scan, if_neg here.1.1, if_neg here.1.2, if_neg here.2]
    exact ih (fun char mem => plain char (List.mem_cons_of_mem _ mem)) _

theorem scans_start_append {name rest : Text} (plain : isName name) (scans : Scans .name rest) :
    Scans .start (name ++ rest) := by
  intro done
  have unmarked := not_isMark_of_isName plain
  cases name with
  | nil => cases plain
  | cons char name =>
    have here := unmarked char List.mem_cons_self
    simp only [isMark, Bool.or_eq_true, decide_eq_true_eq, not_or] at here
    rw [List.cons_append, scan, if_neg here.1.1, if_neg here.1.2, if_neg here.2]
    exact scans_name_append (fun char mem => unmarked char (List.mem_cons_of_mem _ mem)) scans _

theorem scans_index_append {front rest : Text} {nonempty : Bool}
    (digits : ∀ char ∈ front, char.isDigit) (some : nonempty ∨ front ≠ [])
    (scans : Scans .closed rest) : Scans (.index nonempty true) (front ++ ']' :: rest) := by
  induction front generalizing nonempty with
  | nil =>
    intro done
    have before : nonempty := some.resolve_right (by simp)
    rw [List.nil_append, scan, if_pos rfl, before]
    exact scans _
  | cons char front ih =>
    intro done
    have digit : char.isDigit := digits char List.mem_cons_self
    have different : char ≠ ']' := by
      rintro rfl
      revert digit
      decide
    rw [List.cons_append, scan, if_neg different, digit]
    exact ih (fun char mem => digits char (List.mem_cons_of_mem _ mem)) (.inl rfl) _

theorem scans_dot {spot : Spot} {text : Text} (behind : spot.IsBehind) (scans : Scans .start text) :
    Scans spot ('.' :: text) := by
  intro done
  obtain ⟨found, scanned⟩ := scans (done ++ ['.'])
  refine ⟨done :: found, ?_⟩
  cases spot with
  | name | closed =>
    rw [scan, if_pos rfl, scanned]
    rfl
  | start | index => exact behind.elim

theorem scans_opening {spot : Spot} {text : Text} (behind : spot.IsBehind)
    (scans : Scans (.index false true) text) : Scans spot ('[' :: text) := by
  intro done
  obtain ⟨found, scanned⟩ := scans (done ++ ['['])
  refine ⟨done :: found, ?_⟩
  cases spot with
  | name | closed =>
    rw [scan, if_neg (by decide), if_pos rfl, scanned]
    rfl
  | start | index => exact behind.elim

theorem scans_indices_append {indices : List Text} {rest : Text}
    (digits : ∀ index ∈ indices, Text.isDigits index)
    (scans : ∀ spot : Spot, spot.IsBehind → Scans spot rest) :
    ∀ spot : Spot, spot.IsBehind → Scans spot (indicesText indices ++ rest) := by
  induction indices with
  | nil => exact scans
  | cons index indices ih =>
    intro spot behind
    have here := digits index List.mem_cons_self
    simp only [Text.isDigits, Bool.and_eq_true, Bool.not_eq_true', List.isEmpty_eq_false_iff,
      List.all_eq_true] at here
    rw [indicesText_cons, List.cons_append, List.append_assoc, List.cons_append]
    refine scans_opening behind (scans_index_append here.2 (.inr here.1) ?_)
    exact ih (fun index mem => digits index (List.mem_cons_of_mem _ mem)) .closed trivial

theorem scans_further {segments : List Segment} (valid : ∀ segment ∈ segments, segment.Valid) :
    ∀ spot : Spot, spot.IsBehind → Scans spot (furtherText segments) := by
  induction segments with
  | nil =>
    intro spot behind done
    cases spot with
    | name | closed => exact ⟨[], rfl⟩
    | start | index => exact behind.elim
  | cons segment segments ih =>
    intro spot behind
    have here := valid segment List.mem_cons_self
    have rest := ih fun segment mem => valid segment (List.mem_cons_of_mem _ mem)
    rw [furtherText_cons]
    refine scans_dot behind (scans_start_append here.1 ?_)
    exact scans_indices_append here.2 rest .name trivial

/-- Every well-formed key is scanned without a fault. -/
theorem scans_of_wellFormed {key : Text} (wellFormed : WellFormed key) : Scans .start key := by
  obtain ⟨segments, nonempty, valid, rfl⟩ := wellFormed
  obtain ⟨segment, segments, rfl⟩ := List.exists_cons_of_ne_nil nonempty
  have here := valid segment List.mem_cons_self
  have rest := scans_further fun segment mem => valid segment (List.mem_cons_of_mem _ mem)
  rw [ofSegments_cons]
  exact scans_start_append here.1 (scans_indices_append here.2 rest .name trivial)

theorem ne_nil_of_wellFormed {key : Text} (wellFormed : WellFormed key) : key ≠ [] := by
  rintro rfl
  obtain ⟨found, scanned⟩ := scans_of_wellFormed wellFormed []
  cases scanned

/-- **The scanner accepts exactly the well-formed keys.** -/
theorem exists_containers?_iff {key : Text} :
    (∃ found, containers? key = .ok found) ↔ WellFormed key := by
  constructor
  · rintro ⟨found, scanned⟩
    rw [containers?] at scanned
    split_ifs at scanned
    exact accepts_of_scan scanned
  · intro wellFormed
    rw [containers?, if_neg (ne_nil_of_wellFormed wellFormed)]
    exact scans_of_wellFormed wellFormed []

instance (key : Text) : Decidable (WellFormed key) :=
  match scanned : containers? key with
  | .ok containers => .isTrue (exists_containers?_iff.1 ⟨containers, scanned⟩)
  | .error _ => .isFalse fun wellFormed => by
    obtain ⟨containers, accepted⟩ := exists_containers?_iff.2 wellFormed
    cases scanned.symm.trans accepted

/-! ### Keys of members and elements -/

theorem ofSegments_concat {segments : List Segment} (nonempty : segments ≠ []) (last : Segment) :
    ofSegments (segments ++ [last]) = ofSegments segments ++ '.' :: last.text := by
  obtain ⟨segment, segments, rfl⟩ := List.exists_cons_of_ne_nil nonempty
  rw [List.cons_append, ofSegments_cons, ofSegments_cons, furtherText, furtherText,
    List.flatMap_append]
  simp

theorem exists_ofSegments_concat (segments : List Segment) :
    ∃ start, ∀ last, ofSegments (segments ++ [last]) = start ++ last.text := by
  by_cases nonempty : segments = []
  · exact ⟨[], fun last => by simp [nonempty, ofSegments, Text.join]⟩
  · refine ⟨ofSegments segments ++ ['.'], fun last => ?_⟩
    rw [ofSegments_concat nonempty, List.append_assoc, List.singleton_append]

theorem WellFormed.child {key name : Text} (wellFormed : WellFormed key) (plain : isName name) :
    WellFormed (child key name) := by
  rw [child_eq (ne_nil_of_wellFormed wellFormed)]
  obtain ⟨segments, nonempty, valid, rfl⟩ := wellFormed
  refine ⟨segments ++ [⟨name, []⟩], by simp, ?_, ?_⟩
  · intro segment mem
    rcases List.mem_append.1 mem with mem | mem
    · exact valid segment mem
    · rw [List.mem_singleton.1 mem]
      exact ⟨plain, by simp⟩
  · rw [ofSegments_concat nonempty]
    simp [Segment.text]

/-- A name on its own is a key. -/
theorem wellFormed_of_isName {name : Text} (plain : isName name) : WellFormed name := by
  refine ⟨[⟨name, []⟩], by simp, ?_, ?_⟩
  · intro segment mem
    rw [List.mem_singleton.1 mem]
    exact ⟨plain, by simp⟩
  · simp [ofSegments, Text.join, Segment.text]

theorem isDigits_ofNat (number : Nat) : Text.isDigits (Text.ofNat number) := by
  rw [Text.isDigits, Bool.and_eq_true, Bool.not_eq_true', List.isEmpty_eq_false_iff,
    List.all_eq_true]
  exact ⟨Nat.toDigits_ne_nil, fun char mem => isDigit_of_mem_ofNat mem⟩

theorem WellFormed.element {key : Text} (wellFormed : WellFormed key) (index : Nat) :
    WellFormed (element key index) := by
  obtain ⟨segments, nonempty, valid, rfl⟩ := wellFormed
  obtain ⟨front, last, rfl⟩ : ∃ front last, segments = front ++ [last] :=
    ⟨_, _, (List.dropLast_append_getLast nonempty).symm⟩
  obtain ⟨start, written⟩ := exists_ofSegments_concat front
  refine ⟨front ++ [⟨last.name, last.indices ++ [Text.ofNat index]⟩], by simp, ?_, ?_⟩
  · intro segment mem
    rcases List.mem_append.1 mem with mem | mem
    · exact valid segment (List.mem_append_left _ mem)
    · rw [List.mem_singleton.1 mem]
      have here := valid last (by simp)
      refine ⟨here.1, fun digits mem => ?_⟩
      rcases List.mem_append.1 mem with mem | mem
      · exact here.2 digits mem
      · rw [List.mem_singleton.1 mem]
        exact isDigits_ofNat index
  · rw [written, element_eq, written]
    simp [Segment.text]

/-! ### The containers -/

/-- The beginnings of a text that end in front of a dot or an opening bracket, the shortest first,
each behind what has been read before. -/
def beginnings (done : Text) : Text → List Text
  | [] => []
  | char :: text =>
    if Descends char then done :: beginnings (done ++ [char]) text
    else beginnings (done ++ [char]) text

theorem mem_beginnings_iff {done text top : Text} :
    top ∈ beginnings done text ↔
      ∃ front char rest, Descends char ∧ text = front ++ char :: rest ∧ top = done ++ front := by
  induction text generalizing done with
  | nil => simp [beginnings]
  | cons char text ih =>
    have later : (∃ front other rest, Descends other ∧ text = front ++ other :: rest
          ∧ top = (done ++ [char]) ++ front)
        ↔ ∃ front other rest, Descends other ∧ char :: text = (char :: front) ++ other :: rest
          ∧ top = done ++ (char :: front) := by
      simp
    rw [beginnings]
    split
    next descends =>
      rw [List.mem_cons, ih, later]
      constructor
      · rintro (rfl | ⟨front, other, rest, found⟩)
        · exact ⟨[], char, text, descends, rfl, (List.append_nil _).symm⟩
        · exact ⟨char :: front, other, rest, found⟩
      · rintro ⟨front, other, rest, descends', same, rfl⟩
        cases front with
        | nil => exact .inl (List.append_nil _)
        | cons first front =>
          obtain rfl := (List.cons.inj same).1
          exact .inr ⟨front, other, rest, descends', same, rfl⟩
    next stays =>
      rw [ih, later]
      constructor
      · rintro ⟨front, other, rest, found⟩
        exact ⟨char :: front, other, rest, found⟩
      · rintro ⟨front, other, rest, descends, same, rfl⟩
        cases front with
        | nil => exact absurd ((List.cons.inj same).1 ▸ descends) stays
        | cons first front =>
          obtain rfl := (List.cons.inj same).1
          exact ⟨front, other, rest, descends, same, rfl⟩

theorem not_descends_of_isDigit {char : Char} (digit : char.isDigit) : ¬ Descends char := by
  rintro (rfl | rfl) <;> revert digit <;> decide

/-- What a scan finds are the beginnings in front of dots and opening brackets: between the brackets
of an index stand digits only. -/
theorem eq_beginnings_of_scan {spot : Spot} {done text : Text} {found : List Text}
    (scanned : scan spot done text = .ok found) : found = beginnings done text := by
  induction text generalizing spot done found with
  | nil => cases spot <;> cases scanned <;> rfl
  | cons char text ih =>
    rw [beginnings]
    cases spot with
    | start =>
      rw [scan] at scanned
      split_ifs at scanned with dot opening closing
      rw [if_neg (by rintro (same | same) <;> contradiction)]
      exact ih scanned
    | name =>
      rw [scan] at scanned
      split_ifs at scanned with dot opening closing
      · obtain ⟨inner, inside, rfl⟩ := exists_of_map_eq_ok scanned
        rw [if_pos (.inl dot), ih inside]
      · obtain ⟨inner, inside, rfl⟩ := exists_of_map_eq_ok scanned
        rw [if_pos (.inr opening), ih inside]
      · rw [if_neg (by rintro (same | same) <;> contradiction)]
        exact ih scanned
    | index nonempty digits =>
      rw [scan] at scanned
      split_ifs at scanned with closing complete
      · rw [if_neg (by rintro (rfl | rfl) <;> cases closing)]
        exact ih scanned
      · have digit := (accepts_of_scan scanned).1
        rw [Bool.and_eq_true] at digit
        rw [if_neg (not_descends_of_isDigit digit.2)]
        exact ih scanned
    | closed =>
      rw [scan] at scanned
      split_ifs at scanned with dot opening
      · obtain ⟨inner, inside, rfl⟩ := exists_of_map_eq_ok scanned
        rw [if_pos (.inl dot), ih inside]
      · obtain ⟨inner, inside, rfl⟩ := exists_of_map_eq_ok scanned
        rw [if_pos (.inr opening), ih inside]

/-- **The containers of a key are its beginnings in front of dots and opening brackets.** -/
theorem containers?_eq_beginnings {key : Text} {found : List Text}
    (scanned : containers? key = .ok found) : found = beginnings [] key := by
  rw [containers?] at scanned
  split_ifs at scanned
  exact eq_beginnings_of_scan scanned

/-- The containers of a key are the texts that it is below of. -/
theorem mem_containers?_iff {key top : Text} {found : List Text}
    (scanned : containers? key = .ok found) : top ∈ found ↔ isBelow top key := by
  rw [containers?_eq_beginnings scanned, mem_beginnings_iff, isBelow_iff]
  constructor
  · rintro ⟨front, char, rest, descends, same, rfl⟩
    exact ⟨char, rest, descends, same⟩
  · rintro ⟨char, rest, descends, same⟩
    exact ⟨top, char, rest, descends, same, rfl⟩

end TypedConfig.Key
