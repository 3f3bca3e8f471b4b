import Mathlib.Data.List.Basic
import MediaProxy.Net.Address
import MediaProxy.Proofs.Text.Cutting

/-!
# IPv6 addresses read back

Eight groups are written in hexadecimal with colons between them, one run of zeros left out.
Whatever run that is, the text has one double colon at most, where the run was, and what is missing
are zeros: it reads as the eight groups that were written (`readV6?_compressed`).
-/

namespace MediaProxy.IpAddress

/-- The text of one group. -/
def hexText (group : UInt16) : Text := Nat.toDigits 16 group.toNat

variable {c : Char} {t before after : Text} {groups : List UInt16} {group : UInt16}

/-! ## Groups -/

/-- A digit is read back as its value. -/
theorem hexValue?_digitChar {d : Nat} (h : d < 16) : hexValue? d.digitChar = some d := by
  have hall : ∀ d : Fin 16, hexValue? d.val.digitChar = some d.val := by decide
  exact hall ⟨d, h⟩

/-- The digits of a number in hexadecimal have that number as their value. -/
theorem mapM_toDigits (n : Nat) : ∃ digits, (Nat.toDigits 16 n).mapM hexValue? = some digits ∧
    digits.foldl (fun n d => 16 * n + d) 0 = n := by
  induction n using Nat.strongRecOn with
  | ind n ih =>
    by_cases hlt : n < 16
    · refine ⟨[n], ?_, Nat.zero_add n⟩
      rw [Nat.toDigits_of_lt_base hlt, List.mapM_cons, hexValue?_digitChar hlt]
      rfl
    · obtain ⟨front, hfront, hvalue⟩ := ih (n / 16) (by omega)
      refine ⟨front ++ [n % 16], ?_, ?_⟩
      · rw [Nat.toDigits_of_base_le (by decide) (by omega), List.mapM_append, hfront, List.mapM_cons,
          hexValue?_digitChar (Nat.mod_lt n (by decide))]
        rfl
      · rw [List.foldl_append, hvalue]
        exact Nat.div_add_mod n 16

/-- A group is read back from its digits. -/
theorem readGroup?_hexText (group : UInt16) : readGroup? (hexText group) = some group := by
  obtain ⟨digits, hdigits, hvalue⟩ := mapM_toDigits group.toNat
  have hlength : (hexText group).length ≤ 4 :=
    (Nat.length_toDigits_le_iff (by decide) (by decide)).mpr group.toNat_lt
  rw [readGroup?, if_pos ⟨Nat.toDigits_ne_nil, hlength⟩, hexText, hdigits, Option.map_some, hvalue,
    UInt16.ofNat_toNat]

/-- Groups are read back from their digits, whether dots are allowed or not. -/
theorem readGroups?_map_hexText (dotsAllowed : Bool) (groups : List UInt16) :
    readGroups? dotsAllowed (groups.map hexText) = some groups := by
  induction groups with
  | nil => rfl
  | cons group more ih =>
    cases more with
    | nil => simp only [List.map_cons, List.map_nil, readGroups?, readGroup?_hexText]
    | cons next more =>
      rw [List.map_cons] at ih
      simp only [List.map_cons, readGroups?, readGroup?_hexText, ih, Option.bind_eq_bind, Option.bind_some,
        Option.pure_def]

/-! ## Characters -/

/-- Only digits of its base occur in a numeral. -/
theorem of_mem_toDigits {base n : Nat} (hbase : 1 < base) (h : c ∈ Nat.toDigits base n) :
    ∃ d < base, c = d.digitChar := by
  induction n using Nat.strongRecOn with
  | ind n ih =>
    by_cases hlt : n < base
    · rw [Nat.toDigits_of_lt_base hlt] at h
      exact ⟨n, hlt, List.mem_singleton.mp h⟩
    · rw [Nat.toDigits_of_base_le hbase (by omega)] at h
      rcases List.mem_append.mp h with h | h
      · exact ih (n / base) (Nat.div_lt_self (by omega) hbase) h
      · exact ⟨n % base, Nat.mod_lt n (by omega), List.mem_singleton.mp h⟩

/-- What fails of every hexadecimal digit fails of all characters of a group. -/
theorem forall_mem_hexText {p : Char → Bool} (hdigits : ∀ d : Fin 16, p d.val.digitChar = false)
    (group : UInt16) : ∀ c ∈ hexText group, p c = false := by
  intro c hc
  obtain ⟨d, hd, rfl⟩ := of_mem_toDigits (by decide) hc
  exact hdigits ⟨d, hd⟩

/-- There is no colon within a group. -/
theorem colon_not_mem_hexText (group : UInt16) : ':' ∉ hexText group := fun h =>
  absurd rfl (of_decide_eq_false (forall_mem_hexText (p := (· = ':')) (by decide) group ':' h))

theorem hexText_ne_nil (group : UInt16) : hexText group ≠ [] := Nat.toDigits_ne_nil

theorem colonHex_eq (groups : List UInt16) : colonHex groups = [':'].intercalate (groups.map hexText) := rfl

@[simp] theorem colonHex_nil : colonHex [] = [] := rfl

@[simp] theorem colonHex_singleton (group : UInt16) : colonHex [group] = hexText group := by
  rw [colonHex_eq, List.map_singleton, List.intercalate_singleton]

theorem colonHex_cons_cons (group next : UInt16) (more : List UInt16) :
    colonHex (group :: next :: more) = hexText group ++ ':' :: colonHex (next :: more) := by
  rw [colonHex_eq, colonHex_eq, List.map_cons, List.map_cons, List.intercalate_cons_cons, List.append_assoc]
  rfl

/-- Groups begin with a digit, unless there are none. -/
theorem colonHex_cons (group : UInt16) (more : List UInt16) :
    ∃ c rest, c ≠ ':' ∧ colonHex (group :: more) = c :: rest := by
  obtain ⟨c, rest, hhex⟩ := List.exists_cons_of_ne_nil (hexText_ne_nil group)
  refine ⟨c, ?_⟩
  have hc : c ≠ ':' := fun h => colon_not_mem_hexText group (hhex ▸ h ▸ List.mem_cons_self)
  cases more with
  | nil => exact ⟨rest, hc, by rw [colonHex_singleton, hhex]⟩
  | cons next more => exact ⟨_, hc, by rw [colonHex_cons_cons, hhex, List.cons_append]⟩

/-- What is true of a colon and of all sixteen digits is true throughout groups with colons between
them. -/
theorem forall_mem_colonHex {p : Char → Bool} (hcolon : p ':' = false)
    (hdigits : ∀ d : Fin 16, p d.val.digitChar = false) : ∀ c ∈ colonHex groups, p c = false := by
  induction groups with
  | nil => exact List.forall_mem_nil _
  | cons group more ih =>
    cases more with
    | nil => exact colonHex_singleton group ▸ forall_mem_hexText hdigits group
    | cons next more =>
      rw [colonHex_cons_cons, List.forall_mem_append, List.forall_mem_cons]
      exact ⟨forall_mem_hexText hdigits group, hcolon, ih⟩

/-- What fails of the colon and of every hexadecimal digit fails of all characters of an address. -/
theorem forall_mem_compressed {p : Char → Bool} (hcolon : p ':' = false)
    (hdigits : ∀ d : Fin 16, p d.val.digitChar = false) : ∀ c ∈ compressed groups, p c = false := by
  have hgroups : ∀ groups, ∀ c ∈ colonHex groups, p c = false := fun groups =>
    forall_mem_colonHex hcolon hdigits
  unfold compressed
  dsimp only
  split
  · simp only [List.forall_mem_append]
    exact ⟨⟨hgroups _, by simpa using hcolon⟩, hgroups _⟩
  · exact hgroups _

/-! ## Double colons -/

theorem cutAtDoubleColon_cons (hc : c ≠ ':') (t : Text) :
    cutAtDoubleColon (c :: t) = (cutAtDoubleColon t).map fun (before, after) => (c :: before, after) := by
  rw [cutAtDoubleColon]
  exact fun _ h => absurd h hc

/-- A text without a colon in front of another does not change where that is cut. -/
theorem cutAtDoubleColon_append (h : ':' ∉ before) (t : Text) :
    cutAtDoubleColon (before ++ t) =
      (cutAtDoubleColon t).map fun (front, after) => (before ++ front, after) := by
  induction before with
  | nil => simp
  | cons c before ih =>
    rw [List.mem_cons, not_or] at h
    rw [List.cons_append, cutAtDoubleColon_cons (Ne.symm h.1), ih h.2]
    cases cutAtDoubleColon t <;> rfl

/-- There is no double colon among groups, only behind them. -/
theorem cutAtDoubleColon_colonHex (groups : List UInt16) (t : Text) :
    cutAtDoubleColon (colonHex groups ++ t) =
      (cutAtDoubleColon t).map fun (front, after) => (colonHex groups ++ front, after) := by
  induction groups with
  | nil => simp
  | cons group more ih =>
    cases more with
    | nil => exact colonHex_singleton group ▸ cutAtDoubleColon_append (colon_not_mem_hexText group) t
    | cons next more =>
      obtain ⟨c, rest, hc, hnext⟩ := colonHex_cons next more
      have hcolon : cutAtDoubleColon (':' :: (colonHex (next :: more) ++ t)) =
          (cutAtDoubleColon (colonHex (next :: more) ++ t)).map fun (front, after) =>
            (':' :: front, after) := by
        rw [hnext, List.cons_append, cutAtDoubleColon]
        exact fun _ _ h => absurd (List.cons.inj h).1 hc
      rw [colonHex_cons_cons, List.append_assoc, List.cons_append,
        cutAtDoubleColon_append (colon_not_mem_hexText group), hcolon, ih]
      cases cutAtDoubleColon t <;> simp

/-- Groups with colons between them are split into their digits again. -/
theorem splitOn_colonHex (h : groups ≠ []) : Text.splitOn ':' (colonHex groups) = groups.map hexText := by
  rw [colonHex_eq]
  refine Text.splitOn_intercalate (by simpa using h) ?_
  intro piece hpiece
  obtain ⟨group, -, rfl⟩ := List.mem_map.mp hpiece
  exact colon_not_mem_hexText group

/-- The groups on one side of a double colon are split into their digits again. -/
theorem sidePieces_colonHex (groups : List UInt16) : sidePieces (colonHex groups) = groups.map hexText := by
  cases groups with
  | nil => rfl
  | cons group more =>
    obtain ⟨c, rest, -, hfirst⟩ := colonHex_cons group more
    have hne : colonHex (group :: more) ≠ [] := by simp [hfirst]
    rw [sidePieces, if_neg hne, splitOn_colonHex (List.cons_ne_nil _ _)]

/-! ## Zeros -/

/-- No more groups are left out than there are. -/
theorem leadingZeros_le (groups : List UInt16) : leadingZeros groups ≤ groups.length :=
  (List.takeWhile_sublist _).length_le

/-- A run of zeros at the start is nothing but zeros. -/
theorem eq_replicate_append {n : Nat} (h : n ≤ leadingZeros groups) :
    groups = List.replicate n 0 ++ groups.drop n := by
  induction groups generalizing n with
  | nil =>
    obtain rfl : n = 0 := Nat.le_zero.mp h
    rfl
  | cons group more ih =>
    cases n with
    | zero => rfl
    | succ n =>
      by_cases hzero : group = 0
      · have hmore : n ≤ leadingZeros more := by simpa [leadingZeros, hzero] using h
        rw [List.replicate_succ, List.cons_append, List.drop_succ_cons, ← ih hmore, hzero]
      · simp [leadingZeros, hzero] at h

/-- The run of zeros that is left out is one. -/
theorem longestZeros_le (groups : List UInt16) :
    (longestZeros groups).2 ≤ leadingZeros (groups.drop (longestZeros groups).1) := by
  unfold longestZeros
  refine List.foldlRecOn (motive := fun run : Nat × Nat => run.2 ≤ leadingZeros (groups.drop run.1)) _ _
    (Nat.zero_le _) ?_
  rintro ⟨start, length⟩ hrun i -
  dsimp only
  split
  · exact Nat.le_refl _
  · exact hrun

/-! ## Addresses -/

/-- Eight groups **read back** as they were written. -/
theorem readV6?_compressed (h : groups.length = 8) : readV6? (compressed groups) = some (.v6 groups) := by
  have hrun := longestZeros_le groups
  unfold compressed
  generalize longestZeros groups = run at hrun
  obtain ⟨start, length⟩ := run
  dsimp only at hrun ⊢
  split
  next hlong =>
    -- The run lies within the eight groups, so the `::` stands for exactly its zeros.
    have hfits : length ≤ (groups.drop start).length := Nat.le_trans hrun (leadingZeros_le _)
    rw [List.length_drop, h] at hfits
    have hcut : cutAtDoubleColon
        (colonHex (groups.take start) ++ "::".toList ++ colonHex (groups.drop (start + length))) =
        some (colonHex (groups.take start), colonHex (groups.drop (start + length))) := by
      rw [List.append_assoc, cutAtDoubleColon_colonHex]
      simp [cutAtDoubleColon]
    have hfront : (groups.take start).length = start := by
      rw [List.length_take, h]
      omega
    have hback : (groups.drop (start + length)).length = 8 - (start + length) := by
      rw [List.length_drop, h]
    have hzeros : groups.take start ++ List.replicate length 0 ++ groups.drop (start + length) = groups := by
      rw [List.append_assoc, ← List.drop_drop, ← eq_replicate_append hrun, List.take_append_drop]
    have hmissing : 8 - start - (8 - (start + length)) = length := by omega
    rw [readV6?, hcut]
    simp only [sidePieces_colonHex, readGroups?_map_hexText, Option.bind_eq_bind, Option.bind_some, hfront,
      hback, hmissing, hzeros]
    exact if_pos (by omega)
  next hshort =>
    -- Eight groups in a row hold no `::`.
    have hcut : cutAtDoubleColon (colonHex groups) = none := by
      have := cutAtDoubleColon_colonHex groups []
      rwa [List.append_nil] at this
    have hne : groups ≠ [] := by
      rintro rfl
      cases h
    rw [readV6?, hcut]
    simp only [splitOn_colonHex hne, readGroups?_map_hexText, Option.bind_eq_bind, Option.bind_some]
    exact if_pos h

/-- What is read as an IPv6 address has eight groups. -/
theorem length_of_readV6? {ip : IpAddress} (h : readV6? t = some ip) :
    ∃ groups, ip = .v6 groups ∧ groups.length = 8 := by
  unfold readV6? at h
  split at h
  · obtain ⟨groups, -, h⟩ := Option.bind_eq_some_iff.mp h
    split at h
    next hlength =>
      cases h
      exact ⟨groups, rfl, hlength⟩
    next => cases h
  · obtain ⟨front, -, h⟩ := Option.bind_eq_some_iff.mp h
    obtain ⟨back, -, h⟩ := Option.bind_eq_some_iff.mp h
    split at h
    next hlength =>
      cases h
      refine ⟨_, rfl, ?_⟩
      rw [List.length_append, List.length_append, List.length_replicate]
      omega
    next => cases h

end MediaProxy.IpAddress
