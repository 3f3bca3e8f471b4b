import MediaProxy.Proofs.Text.Encoding
import MediaProxy.Url.Escape

/-!
# What escapes keep

Escaping loses nothing wherever percent signs are escaped too (`unescape_escape`). An escape is
written in digits and letters, so an escaped text holds nothing else that was to be escaped
(`clean_escape`). A text that is escaped for a path segment holds no slash, for example
(`slash_not_mem_escape`).
-/

namespace MediaProxy.Url

variable {set : EscapeSet} {c : Char} {t : Text}

/-- A digit reads back. -/
theorem hexDigit?_upperHex {n : Nat} (h : n < 16) : hexDigit? (upperHex n) = some n := by
  have hall : ∀ n : Fin 16, hexDigit? (upperHex n) = some n.val := by decide
  exact hall ⟨n, h⟩

/-- An octet reads back from its escape. -/
theorem unescape_escapeOctet (b : UInt8) (t : Text) :
    unescape (escapeOctet b ++ t) = b :: unescape t := by
  have hb : b.toNat < 256 := b.toNat_lt
  have hhigh : b.toNat / 16 < 16 := by omega
  have hlow : b.toNat % 16 < 16 := by omega
  have hvalue : 16 * (b.toNat / 16) + b.toNat % 16 = b.toNat := Nat.div_add_mod _ _
  simp only [escapeOctet, List.cons_append, List.nil_append, unescape, hexDigit?_upperHex hhigh,
    hexDigit?_upperHex hlow, hvalue, UInt8.ofNat_toNat]

/-- Octets that are escaped are read back. -/
theorem unescape_flatMap_escapeOctet (bytes : Bytes) (t : Text) :
    unescape (bytes.flatMap escapeOctet ++ t) = bytes ++ unescape t := by
  induction bytes with
  | nil => rfl
  | cons b bytes ih =>
    rw [List.flatMap_cons, List.append_assoc, unescape_escapeOctet, ih, List.cons_append]

/-- What is not escaped is read back as it is. -/
theorem unescape_cons (t : Text) (h : c ≠ '%') :
    unescape (c :: t) = String.utf8EncodeChar c ++ unescape t := by
  rw [unescape]
  intro high low rest hc
  exact absurd hc h

/-- What is escaped **reads back**, provided that percent signs are escaped. -/
theorem unescape_escape (hset : set '%' = true) (t : Text) : unescape (escape set t) = Text.toBytes t := by
  induction t with
  | nil => rfl
  | cons c t ih =>
    rw [escape, List.flatMap_cons, ← escape]
    split
    next => rw [unescape_flatMap_escapeOctet, ih]; rfl
    next hc =>
      have hne : c ≠ '%' := fun h => hc (h ▸ hset)
      rw [List.singleton_append, unescape_cons _ hne, ih]
      rfl

/-- So an escaped text tells which text it was made from by the octets it reads as. -/
theorem eq_of_unescape_escape {plain : Text} (hset : set '%' = true)
    (h : unescape (escape set t) = Text.toBytes plain) : t = plain := by
  rw [unescape_escape hset] at h
  have hread := congrArg Text.ofBytes? h
  rw [Text.ofBytes?_toBytes, Text.ofBytes?_toBytes] at hread
  exact Option.some.inj hread

/-! ## What an escaped text holds -/

/-- A text is **clean** of a set when it holds no character of it. -/
def Clean (set : EscapeSet) (t : Text) : Prop := ∀ c ∈ t, set c = false

instance (set : EscapeSet) (t : Text) : Decidable (Clean set t) :=
  decidable_of_iff ((t.all (! set ·)) = true) (by simp only [Clean, List.all_eq_true, Bool.not_eq_true'])

/-- A set **spares escapes** when it has no character that escapes are written with. -/
def SparesEscapes (set : EscapeSet) : Prop := set '%' = false ∧ ∀ n : Fin 16, set (upperHex n) = false

instance (set : EscapeSet) : Decidable (SparesEscapes set) := inferInstanceAs (Decidable (_ ∧ _))

/-- What is clean of more is clean of less. -/
theorem Clean.mono {other : EscapeSet} (h : Clean set t) (hmono : ∀ c, set c = false → other c = false) :
    Clean other t :=
  fun c hc => hmono c (h c hc)

/-- What is clean of the set is escaped as it is. -/
theorem escape_eq_self (h : Clean set t) : escape set t = t := by
  induction t with
  | nil => rfl
  | cons c t ih =>
    obtain ⟨hc, ht⟩ := List.forall_mem_cons.mp h
    rw [escape, List.flatMap_cons, ← escape, ih ht, hc]
    rfl

/-- An escaped text holds what was not escaped, percent signs and hexadecimal digits. -/
theorem clean_escape {other : EscapeSet} (hother : SparesEscapes other)
    (hkept : ∀ c ∈ t, set c = false → other c = false) : Clean other (escape set t) := by
  intro c hmem
  obtain ⟨d, hd, hmem⟩ := List.mem_flatMap.mp hmem
  split at hmem
  next =>
    obtain ⟨b, -, hb⟩ := List.mem_flatMap.mp hmem
    have hhigh : b.toNat / 16 < 16 := by have := b.toNat_lt; omega
    have hlow : b.toNat % 16 < 16 := by omega
    simp only [escapeOctet, List.mem_cons, List.not_mem_nil, or_false] at hb
    rcases hb with rfl | rfl | rfl
    · exact hother.1
    · exact hother.2 ⟨_, hhigh⟩
    · exact hother.2 ⟨_, hlow⟩
  next hset =>
    obtain rfl := List.mem_singleton.mp hmem
    exact hkept c hd (Bool.eq_false_iff.mpr hset)

/-- A slash stays out of an escaped text where the set has it or the text has none. -/
theorem slash_not_mem_escape (h : '/' ∈ t → set '/' = true) : '/' ∉ escape set t := by
  have hclean : Clean (· = '/') (escape set t) := by
    refine clean_escape (by decide) fun c hc hset => decide_eq_false fun hslash => ?_
    subst hslash
    rw [h hc] at hset
    cases hset
  exact fun hmem => absurd rfl (of_decide_eq_false (hclean '/' hmem))

end MediaProxy.Url
