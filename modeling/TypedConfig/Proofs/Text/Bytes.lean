import Mathlib.Data.List.Basic
import TypedConfig.Text.Basic

/-!
# The order of bytes

Texts are compared by the code points of their characters. This is the order of their UTF-8 bytes:
the greater of two characters has the greater bytes, already at the first byte that differs, so that
no matter what follows, the comparison ends inside the first two characters that differ.

* `bytes`: the UTF-8 bytes of a text.
* `encode_append_lt`: the bytes of two different characters decide how texts that begin with them
  compare.
* `bytes_lt_bytes_iff`: two texts are in the order of their bytes.
-/

namespace TypedConfig.Text

/-- The UTF-8 bytes of a text. -/
def bytes (text : Text) : List UInt8 := text.flatMap String.utf8EncodeChar

theorem bytes_cons (char : Char) (text : Text) :
    bytes (char :: text) = String.utf8EncodeChar char ++ bytes text := List.flatMap_cons

/-- Every character has bytes. -/
theorem exists_encode_eq_cons (char : Char) :
    ∃ byte more, String.utf8EncodeChar char = byte :: more := by
  rw [String.utf8EncodeChar.eq_1]
  split_ifs <;> exact ⟨_, _, rfl⟩

/-- **The bytes of two different characters decide** the order of what begins with them. -/
theorem encode_append_lt {first second : Char} (less : first < second) (rest other : List UInt8) :
    String.utf8EncodeChar first ++ rest < String.utf8EncodeChar second ++ other := by
  have order : first.val.toNat < second.val.toNat := UInt32.lt_iff_toNat_lt.1 less
  have bounded : second.val.toNat < 1114112 := by
    rcases second.valid with low | ⟨-, high⟩
    · exact Nat.lt_trans low (by decide)
    · exact high
  rw [String.utf8EncodeChar.eq_1, String.utf8EncodeChar.eq_1]
  generalize first.val.toNat = low at order
  generalize second.val.toNat = high at order bounded
  split_ifs <;>
    simp only [List.cons_append, List.nil_append, List.cons_lt_cons_iff, UInt8.lt_iff_toNat_lt,
      ← UInt8.toNat_inj, UInt8.toNat_ofNat'] <;>
    simp (disch := omega) only [Nat.mod_eq_of_lt] <;>
    omega

theorem bytes_lt_bytes {first second : Text} (less : first < second) :
    bytes first < bytes second := by
  induction first generalizing second with
  | nil =>
    cases second with
    | nil => exact absurd less (List.lt_irrefl _)
    | cons char second =>
      obtain ⟨byte, more, encoded⟩ := exists_encode_eq_cons char
      rw [bytes_cons, encoded]
      exact List.nil_lt_cons _ _
  | cons char first ih =>
    cases second with
    | nil => exact absurd less (List.not_lt_nil _)
    | cons other second =>
      rw [bytes_cons, bytes_cons]
      rcases List.cons_lt_cons_iff.1 less with before | ⟨rfl, behind⟩
      · exact encode_append_lt before _ _
      · exact List.append_left_lt (ih behind)

/-- **Texts are in the order of their bytes.** -/
theorem bytes_lt_bytes_iff {first second : Text} : bytes first < bytes second ↔ first < second := by
  refine ⟨fun less => ?_, bytes_lt_bytes⟩
  by_contra notLess
  rcases List.le_iff_lt_or_eq.1 notLess with greater | rfl
  · exact List.lt_asymm less (bytes_lt_bytes greater)
  · exact List.lt_irrefl _ less

end TypedConfig.Text
