import MediaProxy.Proofs.Text.Trimming
import MediaProxy.Text.Numeral

/-!
# Numerals as text

A numeral is digits and nothing else, so no mark is in it and white space around it is not part of
it (`isWord_ofNat`). A number that a machine word holds is read back from its numeral.
-/

namespace MediaProxy.Text

theorem isBlank_of_isDigit {c : Char} (h : c.isDigit = true) : isBlank c = false := by
  simp only [Char.isDigit, Bool.and_eq_true, decide_eq_true_eq] at h
  have hfirst : 48 ≤ c.toNat := h.1
  have hlast : c.toNat ≤ 57 := h.2
  simp only [isBlank, blankRanges, List.any_cons, List.any_nil, Bool.or_false, Bool.or_eq_false_iff,
    Bool.and_eq_false_imp, decide_eq_true_eq, decide_eq_false_iff_not, not_le]
  omega

/-- There are only digits in a numeral. -/
theorem isDigit_of_mem_ofNat {c : Char} {n : Nat} (h : c ∈ ofNat n) : c.isDigit = true :=
  Nat.isDigit_of_mem_toDigits (by decide) (by decide) h

/-- What is no digit does not occur in a numeral. -/
theorem not_mem_ofNat {c : Char} (hc : c.isDigit = false) (n : Nat) : c ∉ ofNat n := by
  intro hmem
  rw [isDigit_of_mem_ofNat hmem] at hc
  cases hc

/-- A numeral is one word. -/
theorem isWord_ofNat (n : Nat) : IsWord (ofNat n) :=
  ⟨Nat.toDigits_ne_nil, fun _ hc => isBlank_of_isDigit (isDigit_of_mem_ofNat hc)⟩

/-- A number of sixteen bits is read back from its numeral. -/
theorem readUInt16?_ofNat (n : UInt16) : readUInt16? (ofNat n.toNat) = some n := by
  simp [readUInt16?, readBelow?_ofNat n.toNat_lt]

/-- A number of sixty-four bits is read back from its numeral. -/
theorem readUInt64?_ofNat (n : UInt64) : readUInt64? (ofNat n.toNat) = some n := by
  simp [readUInt64?, readBelow?_ofNat n.toNat_lt]

end MediaProxy.Text
