import TypedConfig.Proofs.Key.Grammar

/-!
# What may follow a key

Whether a well-formed key stays well formed when something is written behind it does not depend on
the key. Where the scanner stands behind a key is known up to the difference between a name and an
index, and dots and opening brackets are read in the same way behind both.

* `Inward`: what leads from a key to itself or to a place inside it.
* `scans_iff_accepts`: the scanner reads exactly what the grammar allows at each spot.
* `scans_append`: reading a text leads to a spot that stands for it, whatever follows.
* `wellFormed_append_iff`: two well-formed keys may be followed by the same texts.
* `wellFormed_of_isBelow`: the containers around a well-formed key are well-formed keys.
* `exists_child_iff`: the member that a well-formed key belongs to.
-/

namespace TypedConfig.Key

/-- What may be written behind a key to name a place within it. -/
def Inward (rest : Text) : Prop := ∀ char ∈ rest.head?, Descends char

theorem inward_nil : Inward [] := by simp [Inward]

theorem inward_cons {char : Char} {rest : Text} : Inward (char :: rest) ↔ Descends char := by
  simp [Inward]

theorem Inward.append {front rest : Text} (first : Inward front) (second : Inward rest) :
    Inward (front ++ rest) := by
  cases front with
  | nil => exact second
  | cons char front => exact inward_cons.2 (inward_cons.1 first)

theorem within_iff_inward {top key : Text} :
    Within top key ↔ ∃ rest, Inward rest ∧ key = top ++ rest :=
  within_iff_exists_append

/-! ### Behind a key -/

theorem scans_of_ending {rest : Text} {indices : List Text} {segments : List Segment}
    (ending : Ending rest indices segments) {spot : Spot} (behind : spot.IsBehind) :
    Scans spot rest := by
  rw [ending.written]
  exact scans_indices_append ending.digits (scans_further ending.valid) spot behind

/-- The scanner reads exactly what the grammar allows, and what it has read before plays no part. -/
theorem scans_iff_accepts {spot : Spot} {text : Text} : Scans spot text ↔ Accepts spot text := by
  constructor
  · intro scans
    obtain ⟨found, scanned⟩ := scans []
    exact accepts_of_scan scanned
  · intro accepted
    cases spot with
    | start => exact scans_of_wellFormed accepted
    | name =>
      obtain ⟨front, rest, indices, segments, plain, ending, rfl⟩ := accepted
      exact scans_name_append plain (scans_of_ending ending trivial)
    | index nonempty digits =>
      obtain ⟨isDigits, front, rest, indices, segments, all, filled, ending, rfl⟩ := accepted
      rw [show digits = true from isDigits]
      exact scans_index_append all filled (scans_of_ending ending trivial)
    | closed =>
      obtain ⟨indices, segments, ending⟩ := accepted
      exact scans_of_ending ending trivial

theorem scans_of_scan {spot : Spot} {done text : Text} {found : List Text}
    (scanned : scan spot done text = .ok found) : Scans spot text :=
  scans_iff_accepts.2 (accepts_of_scan scanned)

/-- One step of the scanner passes a text on when the step itself does. -/
theorem scans_cons_iff {spot next : Spot} {char : Char} {rest : Text}
    (step : ∀ done, (∃ found, scan spot done (char :: rest) = .ok found)
      ↔ ∃ found, scan next (done ++ [char]) rest = .ok found) :
    Scans spot (char :: rest) ↔ Scans next rest := by
  constructor
  · intro scans
    obtain ⟨found, scanned⟩ := (step []).1 (scans [])
    exact scans_of_scan scanned
  · exact fun scans done => (step done).2 (scans _)

theorem exists_map_ok_iff {change : List Text → List Text} {outcome : Except Fault (List Text)} :
    (∃ found, outcome.map change = .ok found) ↔ ∃ found, outcome = .ok found := by
  cases outcome <;> simp [Except.map]

/-- A character that can be read leads to one spot, whatever follows it. -/
theorem exists_next {spot : Spot} {char : Char} {text : Text} (scans : Scans spot (char :: text)) :
    ∃ next, ∀ rest, Scans spot (char :: rest) ↔ Scans next rest := by
  obtain ⟨found, scanned⟩ := scans []
  cases spot with
  | start =>
    rw [scan] at scanned
    split_ifs at scanned with dot opening closing
    refine ⟨.name, fun rest => scans_cons_iff fun done => ?_⟩
    rw [scan, if_neg dot, if_neg opening, if_neg closing]
  | name =>
    rw [scan] at scanned
    split_ifs at scanned with dot opening closing
    · refine ⟨.start, fun rest => scans_cons_iff fun done => ?_⟩
      rw [scan, if_pos dot, exists_map_ok_iff]
    · refine ⟨.index false true, fun rest => scans_cons_iff fun done => ?_⟩
      rw [scan, if_neg dot, if_pos opening, exists_map_ok_iff]
    · refine ⟨.name, fun rest => scans_cons_iff fun done => ?_⟩
      rw [scan, if_neg dot, if_neg opening, if_neg closing]
  | index nonempty digits =>
    rw [scan] at scanned
    split_ifs at scanned with closing complete
    · refine ⟨.closed, fun rest => scans_cons_iff fun done => ?_⟩
      rw [scan, if_pos closing, if_pos complete]
    · refine ⟨.index true (digits && char.isDigit), fun rest => scans_cons_iff fun done => ?_⟩
      rw [scan, if_neg closing]
  | closed =>
    rw [scan] at scanned
    split_ifs at scanned with dot opening
    · refine ⟨.start, fun rest => scans_cons_iff fun done => ?_⟩
      rw [scan, if_pos dot, exists_map_ok_iff]
    · refine ⟨.index false true, fun rest => scans_cons_iff fun done => ?_⟩
      rw [scan, if_neg dot, if_pos opening, exists_map_ok_iff]

theorem isBehind_of_scans_nil {spot : Spot} (scans : Scans spot []) : spot.IsBehind := by
  obtain ⟨found, scanned⟩ := scans []
  cases spot with
  | name | closed => trivial
  | start | index => cases scanned

theorem scans_nil {spot : Spot} (behind : spot.IsBehind) : Scans spot [] := by
  intro done
  cases spot with
  | name | closed => exact ⟨[], rfl⟩
  | start | index => exact behind.elim

/-- **A text that is read leads to a spot behind a name or an index**, and from there on decides
what may follow. -/
theorem scans_append {spot : Spot} {front : Text} (scans : Scans spot front) :
    ∃ behind : Spot, behind.IsBehind ∧ ∀ rest, Scans spot (front ++ rest) ↔ Scans behind rest := by
  induction front generalizing spot with
  | nil => exact ⟨spot, isBehind_of_scans_nil scans, fun _ => Iff.rfl⟩
  | cons char front ih =>
    obtain ⟨next, step⟩ := exists_next scans
    obtain ⟨behind, isBehind, further⟩ := ih ((step front).1 scans)
    exact ⟨behind, isBehind, fun rest => (step (front ++ rest)).trans (further rest)⟩

/-- Dots and opening brackets are read in the same way behind a name and behind an index. -/
theorem scans_behind_iff {first second : Spot} (firstBehind : first.IsBehind)
    (secondBehind : second.IsBehind) {rest : Text} (inward : Inward rest) :
    Scans first rest ↔ Scans second rest := by
  cases rest with
  | nil => exact ⟨fun _ => scans_nil secondBehind, fun _ => scans_nil firstBehind⟩
  | cons char rest =>
    have same (done : Text) :
        scan .name done (char :: rest) = scan .closed done (char :: rest) := by
      rw [scan, scan]
      rcases inward_cons.1 inward with rfl | rfl <;> rfl
    cases first with
    | start | index => exact firstBehind.elim
    | name | closed =>
      cases second with
      | start | index => exact secondBehind.elim
      | name | closed => simp only [Scans, same]

theorem wellFormed_iff_scans {key : Text} : WellFormed key ↔ Scans .start key := by
  show Accepts .start key ↔ _
  exact scans_iff_accepts.symm

/-- **Well-formed keys may be followed by the same texts.** -/
theorem wellFormed_append_iff {first second rest : Text} (firstFormed : WellFormed first)
    (secondFormed : WellFormed second) (inward : Inward rest) :
    WellFormed (first ++ rest) ↔ WellFormed (second ++ rest) := by
  obtain ⟨left, leftBehind, afterFirst⟩ := scans_append (wellFormed_iff_scans.1 firstFormed)
  obtain ⟨right, rightBehind, afterSecond⟩ := scans_append (wellFormed_iff_scans.1 secondFormed)
  rw [wellFormed_iff_scans, wellFormed_iff_scans, afterFirst, afterSecond]
  exact scans_behind_iff leftBehind rightBehind inward

theorem scans_front {spot : Spot} {front rest : Text} {char : Char} (descends : Descends char)
    (scans : Scans spot (front ++ char :: rest)) : Scans spot front := by
  induction front generalizing spot with
  | nil =>
    obtain ⟨found, scanned⟩ := scans []
    cases spot with
    | name | closed => exact scans_nil trivial
    | start => rcases descends with rfl | rfl <;> cases scanned
    | index nonempty digits =>
      -- A dot or an opening bracket is no digit, and no index is closed behind it.
      rw [List.nil_append, scan, if_neg (by rcases descends with rfl | rfl <;> decide)] at scanned
      have digit := (accepts_of_scan scanned).1
      rw [Bool.and_eq_true] at digit
      exact absurd descends (not_descends_of_isDigit digit.2)
  | cons first front ih =>
    obtain ⟨next, step⟩ := exists_next scans
    exact (step front).2 (ih ((step _).1 scans))

/-- The containers around a well-formed key are well-formed keys. -/
theorem wellFormed_of_isBelow {top key : Text} (wellFormed : WellFormed key)
    (below : isBelow top key) : WellFormed top := by
  obtain ⟨char, rest, descends, rfl⟩ := isBelow_iff.1 below
  exact wellFormed_iff_scans.2 (scans_front descends (wellFormed_iff_scans.1 wellFormed))

/-- Either all elements of a sequence have well-formed keys or none has. -/
theorem wellFormed_element_iff {key : Text} {index : Nat} :
    WellFormed (element key index) ↔ WellFormed key :=
  ⟨fun wellFormed => wellFormed_of_isBelow wellFormed (isBelow_element key index),
    fun wellFormed => wellFormed.element index⟩

/-! ### First names -/

/-- Behind a dot of a well-formed key stands a well-formed key. -/
theorem wellFormed_of_append_dot {top rest : Text} (wellFormed : WellFormed (top ++ '.' :: rest)) :
    WellFormed rest := by
  have outer := wellFormed_of_isBelow wellFormed (isBelow_iff.2 ⟨'.', rest, .inl rfl, rfl⟩)
  obtain ⟨spot, behind, further⟩ := scans_append (wellFormed_iff_scans.1 outer)
  obtain ⟨found, scanned⟩ := (further _).1 (wellFormed_iff_scans.1 wellFormed) []
  rw [wellFormed_iff_scans]
  cases spot with
  | start | index => exact behind.elim
  | name | closed =>
    rw [scan, if_pos rfl] at scanned
    obtain ⟨inner, inside, -⟩ := exists_of_map_eq_ok scanned
    exact scans_of_scan inside

theorem firstName_ne_nil {key : Text} (wellFormed : WellFormed key) : firstName key ≠ [] := by
  obtain ⟨found, scanned⟩ := wellFormed_iff_scans.1 wellFormed []
  cases key with
  | nil => cases scanned
  | cons char key =>
    rw [scan] at scanned
    split_ifs at scanned with dot opening closing
    rw [firstName, List.takeWhile_cons_of_pos (by simp [dot, opening])]
    exact List.cons_ne_nil _ _

theorem not_descends_of_mem_firstName {key : Text} {char : Char} (mem : char ∈ firstName key) :
    ¬ Descends char := by
  have kept := List.all_eq_true.1 List.all_takeWhile char mem
  simpa [Descends] using kept

/-- A text is its first name and what leads inside it. -/
theorem exists_firstName_append (text : Text) :
    ∃ rest, Inward rest ∧ text = firstName text ++ rest := by
  refine ⟨text.dropWhile fun char => char != '.' && char != '[', ?_,
    List.takeWhile_append_dropWhile.symm⟩
  intro char first
  have stops := List.head?_dropWhile_not (fun char => char != '.' && char != '[') text
  rw [Option.mem_def.1 first] at stops
  simpa [Descends, or_iff_not_imp_left] using stops

/-- **A well-formed key belongs to the member whose name follows**, and that member is known by
having the key within it. -/
theorem exists_child_iff {top key name : Text} (wellFormed : WellFormed key) :
    (∃ more, key = child top more ∧ firstName more = name)
      ↔ name ≠ [] ∧ (∀ char ∈ name, ¬ Descends char) ∧ Within (child top name) key := by
  constructor
  · rintro ⟨more, rfl, rfl⟩
    have formed : WellFormed more := by
      rw [child] at wellFormed
      split_ifs at wellFormed
      · exact wellFormed
      · exact wellFormed_of_append_dot wellFormed
    obtain ⟨rest, inward, split⟩ := exists_firstName_append more
    refine ⟨firstName_ne_nil formed, fun _ => not_descends_of_mem_firstName, ?_⟩
    exact within_iff_inward.2 ⟨rest, inward, by rw [← child_append, ← split]⟩
  · rintro ⟨-, flat, within⟩
    obtain ⟨rest, inward, rfl⟩ := within_iff_inward.1 within
    exact ⟨name ++ rest, (child_append top name rest).symm, firstName_append_of_flat flat inward⟩

end TypedConfig.Key
