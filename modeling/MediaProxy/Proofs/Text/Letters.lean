import Mathlib.Data.List.Basic
import MediaProxy.Text.Blank

/-!
# Letters of either case

Lookups and host names tell no upper-case ASCII letter from its lower-case one. Only letters have
two cases: a character that stands for something else, such as a dot, a colon or white space, is
left as it is and becomes no letter.
-/

namespace MediaProxy.Text

variable {c d : Char} {t : Text}

/-- What holds of the upper-case letters and of every character that is in lower case already holds
of all characters. -/
theorem forall_by_case {P : Char → Prop} (upper : ∀ k : Fin 26, P (Char.ofNat (65 + k)))
    (lower : ∀ c : Char, c.toLower = c → P c) (c : Char) : P c := by
  by_cases hupper : c.val ≥ 'A'.val ∧ c.val ≤ 'Z'.val
  · have hfirst : 65 ≤ c.toNat := hupper.1
    have hlast : c.toNat ≤ 90 := hupper.2
    have hc := upper ⟨c.toNat - 65, by omega⟩
    rwa [Nat.add_sub_cancel' hfirst, Char.ofNat_toNat] at hc
  · exact lower c (dif_neg hupper)

/-- A character whose small letter is given is that letter or its capital. -/
theorem eq_or_eq_toUpper_of_toLower_eq (h : c.toLower = d) : c = d ∨ c = d.toUpper := by
  subst h
  have hall : ∀ c : Char, c = c.toLower ∨ c = c.toLower.toUpper :=
    forall_by_case (fun k => .inr ((by decide : ∀ k : Fin 26, Char.ofNat (65 + k) =
      (Char.ofNat (65 + k)).toLower.toUpper) k)) fun c hsame => .inl hsame.symm
  exact hall c

/-- Small letters and capitals are alike no blanks. -/
theorem isBlank_toLower (c : Char) : isBlank c.toLower = isBlank c :=
  forall_by_case (P := fun c => isBlank c.toLower = isBlank c) (by decide)
    (fun c hsame => by rw [hsame]) c

/-- A character that is no letter, and so has one case only. -/
def IsMark (c : Char) : Prop := c.toLower = c ∧ c.toUpper = c

instance (c : Char) : Decidable (IsMark c) := inferInstanceAs (Decidable (_ ∧ _))

/-- Changing the case of letters neither adds a mark nor takes one away. -/
theorem IsMark.mem_map_toLower (h : IsMark c) : c ∈ t.map Char.toLower ↔ c ∈ t := by
  constructor
  · intro hmem
    obtain ⟨d, hd, hlower⟩ := List.mem_map.mp hmem
    have heq : d = c := (eq_or_eq_toUpper_of_toLower_eq hlower).elim id (·.trans h.2)
    exact heq ▸ hd
  · exact fun hmem => List.mem_map.mpr ⟨c, hmem, h.1⟩

/-- Two texts have the same letters exactly if they are one text in small letters. -/
theorem sameLetters_iff {s t : Text} : sameLetters s t = true ↔ s.map Char.toLower = t.map Char.toLower :=
  decide_eq_true_iff

end MediaProxy.Text
