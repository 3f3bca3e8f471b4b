import MediaProxy.Text.Basic

/-!
# Text as octets

What is written as UTF-8 reads back, and nothing else reads as that text (`ofBytes?_eq_some_iff`): a
reader that has the octets of a text has the text. Both protocols end their lines at the octet of a
line feed without decoding first. That is sound because no character but the line feed has that
octet in its encoding (`lf_mem_toBytes_iff`). And where the octets of a text break off, what is left
of them is a beginning of the text or no text at all (`ofBytes?_take_eq_some_iff`).
-/

namespace MediaProxy.Text

/-- Texts are encoded one after the other. -/
theorem toBytes_append (s t : Text) : toBytes (s ++ t) = toBytes s ++ toBytes t := List.flatMap_append

/-- Bytes are a text exactly if they are its encoding. -/
theorem ofBytes?_eq_some_iff {bytes : Bytes} {t : Text} :
    ofBytes? bytes = some t ↔ toBytes t = bytes := by
  have hdata : (⟨bytes.toArray⟩ : ByteArray) = bytes.toByteArray := ByteArray.ext (by simp)
  -- Everything below is about `ByteArray`, and lists of octets are not; this is the bridge.
  have hbytes : ∀ {s : String}, s.toByteArray = bytes.toByteArray ↔ toBytes s.toList = bytes := by
    intro s
    rw [← String.utf8Encode_toList, toBytes, List.utf8Encode]
    constructor
    · intro h
      rw [← List.toList_data_toByteArray (l := s.toList.flatMap _), h, List.toList_data_toByteArray]
    · exact congrArg _
  rw [ofBytes?, hdata, Option.map_eq_some_iff]
  constructor
  · rintro ⟨s, hs, rfl⟩
    unfold String.fromUTF8? at hs
    split at hs
    · obtain rfl := Option.some.inj hs
      exact hbytes.mp rfl
    · cases hs
  · intro h
    have hs : (String.ofList t).toByteArray = bytes.toByteArray := hbytes.mpr (by simpa using h)
    refine ⟨String.ofList t, ?_, String.toList_ofList⟩
    rw [String.fromUTF8?, dif_pos (hs ▸ (String.ofList t).isValidUTF8)]
    exact congrArg some (String.toByteArray_inj.mp hs.symm)

/-- A text is read back from its encoding. -/
theorem ofBytes?_toBytes (t : Text) : ofBytes? (toBytes t) = some t := ofBytes?_eq_some_iff.mpr rfl

/-- Where the octets of a text begin with those of another, the text begins with it. -/
theorem isPrefix_of_toBytes {s t : Text} (h : toBytes s <+: toBytes t) : s <+: t := by
  obtain ⟨rest, hrest⟩ := h
  apply List.isPrefix_of_utf8Encode_append_eq_utf8Encode rest.toByteArray
  rw [List.utf8Encode, List.utf8Encode, ← List.toByteArray_append]
  exact congrArg List.toByteArray hrest

/-- The first so many octets of a text are a text exactly if they are the octets of a beginning of
it: no character is cut in two. -/
theorem ofBytes?_take_eq_some_iff {n : Nat} {s t : Text} :
    ofBytes? ((toBytes t).take n) = some s ↔
      s <+: t ∧ (toBytes s).length = min n (toBytes t).length := by
  rw [ofBytes?_eq_some_iff]
  constructor
  · intro h
    have hbegin : toBytes s <+: toBytes t := h ▸ List.take_prefix n (toBytes t)
    exact ⟨isPrefix_of_toBytes hbegin, h ▸ List.length_take⟩
  · rintro ⟨⟨rest, rfl⟩, hlength⟩
    have hbegin : toBytes s <+: toBytes (s ++ rest) := toBytes_append s rest ▸ List.prefix_append _ _
    rw [List.prefix_iff_eq_take.mp hbegin, hlength, List.take_eq_take_iff]
    omega

/-- Octets that begin with those of a text are its own and those of a text behind it, or of none. -/
theorem toBytes_eq_append_iff {s t : Text} {rest : Bytes} :
    toBytes t = toBytes s ++ rest ↔ ∃ u, t = s ++ u ∧ toBytes u = rest := by
  constructor
  · intro h
    obtain ⟨u, rfl⟩ := isPrefix_of_toBytes (h ▸ List.prefix_append (toBytes s) rest)
    exact ⟨u, rfl, List.append_cancel_left (toBytes_append s u ▸ h)⟩
  · rintro ⟨u, rfl, rfl⟩
    exact toBytes_append s u

/-- A text of the first 128 characters has a byte for each of them. -/
theorem length_toBytes_of_ascii {t : Text} (h : t.all (·.toNat < 128) = true) :
    (toBytes t).length = t.length := by
  induction t with
  | nil => rfl
  | cons c t ih =>
    obtain ⟨hc, ht⟩ := Bool.and_eq_true_iff.mp h
    have hvalue : c.val ≤ 127 := UInt32.le_iff_toNat_le.mpr (Nat.lt_succ_iff.mp (of_decide_eq_true hc))
    have hsize : (String.utf8EncodeChar c).length = 1 :=
      (String.length_utf8EncodeChar c).trans (Char.utf8Size_eq_one_iff.mpr hvalue)
    rw [toBytes, List.flatMap_cons, List.length_append, hsize, ← toBytes, ih ht, List.length_cons]
    omega

/-- An octet in the encoding of a character is the character itself or lies beyond ASCII. -/
theorem toNat_of_mem_encode {c : Char} {b : UInt8} (h : b ∈ String.utf8EncodeChar c) :
    b.toNat = c.toNat ∨ 0x80 ≤ b.toNat := by
  have hvalue : c.toNat = c.val.toNat := rfl
  unfold String.utf8EncodeChar at h
  rw [hvalue]
  generalize c.val.toNat = v at h
  simp only at h
  split at h
  · left
    simp only [List.mem_singleton] at h
    subst h
    simp only [UInt8.toNat_ofNat']
    omega
  · right
    split at h
    · simp only [List.mem_cons, List.not_mem_nil, or_false] at h
      rcases h with rfl | rfl <;> simp only [UInt8.toNat_ofNat'] <;> omega
    · split at h
      · simp only [List.mem_cons, List.not_mem_nil, or_false] at h
        rcases h with rfl | rfl | rfl <;> simp only [UInt8.toNat_ofNat'] <;> omega
      · simp only [List.mem_cons, List.not_mem_nil, or_false] at h
        rcases h with rfl | rfl | rfl | rfl <;> simp only [UInt8.toNat_ofNat'] <;> omega

/-- A line feed in the encoding is one in the text: no other character holds that byte. -/
theorem lf_mem_toBytes_iff {t : Text} : (10 : UInt8) ∈ toBytes t ↔ '\n' ∈ t := by
  rw [toBytes, List.mem_flatMap]
  constructor
  · rintro ⟨c, hc, hmem⟩
    rcases toNat_of_mem_encode hmem with h | h
    · have hlf : c = '\n' := Char.toNat_inj.mp (h.symm.trans (by decide))
      exact hlf ▸ hc
    · exact absurd h (by decide)
  · exact fun h => ⟨'\n', h, by decide⟩

/-- Where the octets of a text have a line feed, the text has one, with what is in front of it and
behind. -/
theorem exists_of_toBytes_eq_append_lf {t : Text} {front rest : Bytes} (hfront : 10 ∉ front)
    (h : toBytes t = front ++ 10 :: rest) : ∃ s, toBytes s = front ∧ '\n' ∉ s ∧ s ++ ['\n'] <+: t := by
  have hmem : '\n' ∈ t := lf_mem_toBytes_iff.mp (h ▸ List.mem_append_right _ List.mem_cons_self)
  obtain ⟨s, more, rfl, hs⟩ := List.eq_append_cons_of_mem hmem
  have hsplit : toBytes s ++ 10 :: toBytes more = front ++ 10 :: rest := by
    rw [← h, toBytes_append]
    rfl
  have htake {bytes : Bytes} (hbytes : 10 ∉ bytes) (behind : Bytes) :
      (bytes ++ 10 :: behind).takeWhile (· ≠ 10) = bytes := by
    have hother : ∀ b ∈ bytes, decide (b ≠ 10) = true := fun b hb =>
      decide_eq_true fun hlf : b = 10 => hbytes (hlf ▸ hb)
    rw [List.takeWhile_append_of_pos hother, List.takeWhile_cons_of_neg (by decide), List.append_nil]
  refine ⟨s, ?_, hs, ⟨more, by simp⟩⟩
  rw [← htake (mt lf_mem_toBytes_iff.mp hs) (toBytes more), hsplit, htake hfront]

end MediaProxy.Text
