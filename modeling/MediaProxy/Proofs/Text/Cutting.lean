import MediaProxy.Text.Basic

/-!
# Cutting texts

A text is cut at the first mark exactly where it was put together from a part without the mark and
any other part (`cutAt_eq_some_iff`). Splitting at every mark is the core library's own splitting
(`splitWhere_eq_splitOnP`), so its laws are at hand: what was joined with a mark is split into the
same pieces (`splitOn_intercalate`), and no piece holds what the text was split at. What follows a
beginning is the rest of a text that has it. A character that others are put in the place of is
gone, unless it is one of those.
-/

namespace MediaProxy.Text

section Cutting

variable {mark : Char} {before after t : Text}

/-- A text is cut at the first mark. -/
theorem cutAt_append (after : Text) (h : mark ∉ before) :
    cutAt mark (before ++ mark :: after) = some (before, after) := by
  induction before with
  | nil => simp [cutAt]
  | cons c before ih =>
    rw [List.mem_cons, not_or] at h
    rw [List.cons_append, cutAt, if_neg (Ne.symm h.1), ih h.2]
    rfl

/-- A text is cut at the last mark. -/
theorem cutAtLast_append (before : Text) (h : mark ∉ after) :
    cutAtLast mark (before ++ mark :: after) = some (before, after) := by
  have hreverse : (before ++ mark :: after).reverse = after.reverse ++ mark :: before.reverse := by
    simp
  rw [cutAtLast, hreverse, cutAt_append _ (by simpa using h)]
  simp

/-- A text is cut into two exactly if they make it up around a mark that is the first. -/
theorem cutAt_eq_some_iff :
    cutAt mark t = some (before, after) ↔ t = before ++ mark :: after ∧ mark ∉ before := by
  constructor
  · intro h
    induction t generalizing before with
    | nil => cases h
    | cons c t ih =>
      rw [cutAt] at h
      split at h
      next hc =>
        subst hc
        cases h
        exact ⟨rfl, List.not_mem_nil⟩
      next hc =>
        obtain ⟨⟨front, back⟩, hcut, hparts⟩ := Option.map_eq_some_iff.mp h
        cases hparts
        obtain ⟨rfl, hmark⟩ := ih hcut
        exact ⟨rfl, List.not_mem_cons_of_ne_of_not_mem (Ne.symm hc) hmark⟩
  · rintro ⟨rfl, h⟩
    exact cutAt_append after h

theorem cutAt_eq_none (h : mark ∉ t) : cutAt mark t = none := by
  cases hcut : cutAt mark t with
  | none => rfl
  | some parts =>
    have heq := (cutAt_eq_some_iff.mp hcut).1
    exact absurd (heq ▸ List.mem_append_right _ List.mem_cons_self) h

/-- A text is not cut exactly if the mark does not occur in it. -/
theorem cutAt_eq_none_iff : cutAt mark t = none ↔ mark ∉ t := by
  refine ⟨fun hcut hmem => ?_, cutAt_eq_none⟩
  obtain ⟨before, after, rfl, hbefore⟩ := List.eq_append_cons_of_mem hmem
  rw [cutAt_append after hbefore] at hcut
  cases hcut

/-- What is behind a text is behind the mark at which the text is cut. -/
theorem cutAt_concat {c : Char} (hc : c ≠ mark) (h : cutAt mark (t ++ [c]) = some (before, after)) :
    ∃ rest, after = rest ++ [c] ∧ cutAt mark t = some (before, rest) := by
  obtain ⟨heq, hbefore⟩ := cutAt_eq_some_iff.mp h
  rcases List.eq_nil_or_concat after with rfl | ⟨rest, d, rfl⟩
  · exact absurd (List.append_inj_right' heq rfl) (by simpa using hc)
  · rw [List.concat_eq_append, ← List.cons_append, ← List.append_assoc] at heq
    obtain ⟨rfl, hlast⟩ := List.append_inj' heq rfl
    obtain rfl := List.head_eq_of_cons_eq hlast
    exact ⟨rest, List.concat_eq_append, cutAt_append rest hbefore⟩

theorem cutAtLast_eq_none (h : mark ∉ t) : cutAtLast mark t = none := by
  rw [cutAtLast, cutAt_eq_none (by simpa using h), Option.map_none]

end Cutting

section Splitting

variable {p : Char → Bool} {mark c : Char} {t piece : Text}

theorem splitWhere_eq_splitOnP (p : Char → Bool) (t : Text) : splitWhere p t = t.splitOnP p := by
  induction t with
  | nil => rfl
  | cons c t ih =>
    rw [splitWhere, List.splitOnP_cons_eq_if_modifyHead, ih]
    cases h : List.splitOnP p t with
    | nil => exact absurd h (List.splitOnP_ne_nil p t)
    | cons piece pieces => rfl

theorem splitOn_eq (mark : Char) (t : Text) : splitOn mark t = List.splitOn mark t := by
  rw [splitOn, splitWhere_eq_splitOnP, List.splitOn_eq_splitOnP]
  rfl

/-- What was joined from pieces without the mark is split into them. -/
theorem splitOn_intercalate {pieces : List Text} (h : pieces ≠ []) (hmark : ∀ s ∈ pieces, mark ∉ s) :
    splitOn mark ([mark].intercalate pieces) = pieces := by
  rw [splitOn_eq]
  exact List.splitOn_intercalate mark hmark h

/-- The first piece of a text is what stands in front of the first mark. -/
theorem headD_splitOn (mark : Char) (t : Text) : (splitOn mark t).headD [] = t.takeWhile (· ≠ mark) := by
  rw [splitOn]
  fun_induction splitWhere (· = mark) t with
  | case1 => rfl
  | case2 c t hc => simp [of_decide_eq_true hc]
  | case3 c t hc hnone => exact absurd hnone (splitWhere_eq_splitOnP _ t ▸ List.splitOnP_ne_nil _ t)
  | case4 c t hc piece pieces hpieces ih =>
    rw [hpieces] at ih
    rw [List.takeWhile_cons_of_pos (by simpa using hc), ← ih]
    rfl

/-- A piece of a text is made of characters of the text that it was not split at. -/
theorem of_mem_splitWhere (h : piece ∈ splitWhere p t) (hc : c ∈ piece) : c ∈ t ∧ p c = false := by
  fun_induction splitWhere p t generalizing piece with
  | case1 =>
    rw [List.mem_singleton.mp h] at hc
    cases hc
  | case2 d t _ ih =>
    rcases List.mem_cons.mp h with rfl | h
    · cases hc
    · exact (ih h hc).imp_left (List.mem_cons_of_mem d)
  | case3 d t hd hnone =>
    -- There is no such case: a text has at least one piece.
    exact absurd hnone (splitWhere_eq_splitOnP p t ▸ List.splitOnP_ne_nil p t)
  | case4 d t hd first pieces hpieces ih =>
    rw [hpieces] at ih
    rcases List.mem_cons.mp h with rfl | h
    · rcases List.mem_cons.mp hc with rfl | hc
      · exact ⟨List.mem_cons_self, Bool.eq_false_iff.mpr hd⟩
      · exact (ih List.mem_cons_self hc).imp_left (List.mem_cons_of_mem d)
    · exact (ih (List.mem_cons_of_mem first h) hc).imp_left (List.mem_cons_of_mem d)

end Splitting

section Beginnings

variable {start t rest : Text}

/-- The rest after a start is what makes up the text with it. -/
theorem after?_eq_some_iff : after? start t = some rest ↔ t = start ++ rest := by
  fun_induction after? start t with
  | case1 t => exact Option.some_inj
  | case2 => simp
  | case3 c start t ih => simp [ih]
  | case4 c start d t hne => simp [Ne.symm hne]

theorem after?_append (start rest : Text) : after? start (start ++ rest) = some rest :=
  after?_eq_some_iff.mpr rfl

/-- There is no rest exactly if the text does not begin that way. -/
theorem after?_eq_none_iff : after? start t = none ↔ ¬ start <+: t := by
  constructor
  · rintro h ⟨rest, rfl⟩
    rw [after?_append] at h
    cases h
  · intro h
    cases hrest : after? start t with
    | none => rfl
    | some rest => exact absurd ⟨rest, (after?_eq_some_iff.mp hrest).symm⟩ h

end Beginnings

section Replacing

variable {p : Char → Bool} {new c : Char} {t : Text}

/-- A character of a text in which others were replaced is the new one or was none of those. -/
theorem of_mem_replace (h : c ∈ replace p new t) : c = new ∨ p c = false := by
  obtain ⟨d, -, rfl⟩ := List.mem_map.mp h
  cases hd : p d with
  | true => exact .inl (if_pos rfl)
  | false => exact .inr (by simpa using hd)

end Replacing

end MediaProxy.Text
