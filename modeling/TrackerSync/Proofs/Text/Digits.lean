import Mathlib
import TrackerSync.Time.Parse

/-!
Decimal digits: padded digits take their width and read back as the number.
-/

namespace TrackerSync

theorem ok_bind {ε α β : Type} (a : α) (f : α → Except ε β) : (Except.ok a >>= f) = f a := rfl

theorem le_ofDigitChars (ds : List Char) (acc : Nat) : acc ≤ Nat.ofDigitChars 10 ds acc := by
  rw [Nat.ofDigitChars_eq_ofDigitChars_zero]
  have : 1 ≤ 10 ^ ds.length := Nat.one_le_pow _ _ (by decide)
  have : acc ≤ 10 ^ ds.length * acc := Nat.le_mul_of_pos_left acc this
  omega

namespace Time

theorem isDigit_eq (c : Char) : isDigit c = c.isDigit := by
  simp [isDigit, Char.isDigit, Char.le_def]

namespace Instant

theorem toList_padded (w n : Nat) :
    (padded w n).toList = List.replicate (w - (Nat.toDigits 10 n).length) '0' ++ Nat.toDigits 10 n := by
  simp [padded, ← String.length_toList, Nat.toList_repr]

theorem length_padded {w n : Nat} (wide : 0 < w) (fits : n < 10 ^ w) :
    (padded w n).toList.length = w := by
  have short : (Nat.toDigits 10 n).length ≤ w := (Nat.length_toDigits_le_iff (by decide) wide).mpr fits
  rw [toList_padded, List.length_append, List.length_replicate]
  omega

theorem isDigit_of_mem_padded {w n : Nat} {c : Char} (mem : c ∈ (padded w n).toList) :
    isDigit c = true := by
  rw [isDigit_eq]
  rw [toList_padded, List.mem_append] at mem
  rcases mem with zero | digit
  · rw [(List.mem_replicate.mp zero).2]
    rfl
  · exact Nat.isDigit_of_mem_toDigits (by decide) (by decide) digit

theorem ofDigitChars_padded (w n : Nat) : Nat.ofDigitChars 10 (padded w n).toList 0 = n := by
  rw [toList_padded, Nat.ofDigitChars_append, Nat.ofDigitChars_replicate_zero, Nat.mul_zero,
    Nat.ofDigitChars_toDigits (by decide) (by decide)]

end Instant

end Time

end TrackerSync
