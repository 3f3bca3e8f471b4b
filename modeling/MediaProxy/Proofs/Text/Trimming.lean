import Mathlib.Data.List.DropRight
import MediaProxy.Proofs.Text.Cutting
import MediaProxy.Text.Blank

/-!
# Trimming and words

White space at the ends of a text is not part of it once it has been trimmed (`Trimmed`), and a text
that has none there is left as it is. White space is all that trimming takes off
(`exists_padded_trim`), and it makes no difference how much there was (`trim_padded`).

The words of a text are the runs between its white space: none is empty and none holds white space.
A text has two words exactly if it is put together from two such runs with white space between them
(`words_eq_pair_iff`).
-/

namespace MediaProxy.Text

/-- A text without white space at either end. -/
def Trimmed (t : Text) : Prop :=
  (∀ c ∈ t.head?, isBlank c = false) ∧ ∀ c ∈ t.getLast?, isBlank c = false

instance (t : Text) : Decidable (Trimmed t) :=
  decidable_of_iff ((t.head?.all (! isBlank ·)) = true ∧ (t.getLast?.all (! isBlank ·)) = true) (by
    simp only [Trimmed, Option.all_eq_true, Bool.not_eq_true', Option.mem_def])

section Trimming

variable {t front back : Text} {c : Char}

theorem trimEnd_eq (t : Text) : trimEnd t = t.rdropWhile isBlank := rfl

/-- Trimming adds nothing. -/
theorem mem_of_mem_trim (h : c ∈ trim t) : c ∈ t :=
  (List.dropWhile_sublist isBlank).mem ((List.rdropWhile_prefix isBlank _).mem h)

/-- A text that was trimmed has no blanks at its ends. -/
theorem trimmed_trim (t : Text) : Trimmed (trim t) := by
  constructor
  · intro c hc
    -- What is left in front is the beginning of what was left before the other end was trimmed.
    obtain ⟨rest, hrest⟩ : trim t <+: trimStart t := List.rdropWhile_prefix isBlank _
    have hfirst : (t.dropWhile isBlank).head? = some c := by
      rw [← trimStart, ← hrest, List.head?_append, hc]
      rfl
    have := List.head?_dropWhile_not isBlank t
    rwa [hfirst] at this
  · intro c hc
    have hne : (trimStart t).rdropWhile isBlank ≠ [] := by
      intro hnil
      rw [trim, trimEnd_eq, hnil] at hc
      cases hc
    obtain rfl : ((trimStart t).rdropWhile isBlank).getLast hne = c :=
      Option.some.inj ((List.getLast?_eq_some_getLast hne).symm.trans hc)
    exact Bool.eq_false_iff.mpr (List.rdropWhile_last_not isBlank _ hne)

/-- A text without blanks at its ends is not changed by trimming. -/
theorem Trimmed.trim_eq (h : Trimmed t) : trim t = t := by
  have hstart : trimStart t = t := by
    cases t with
    | nil => rfl
    | cons c t => exact List.dropWhile_cons_of_neg (Bool.eq_false_iff.mp (h.1 c rfl))
  rw [trim, hstart, trimEnd_eq, List.rdropWhile_eq_self_iff]
  exact fun hne => Bool.eq_false_iff.mp (h.2 _ (List.getLast?_eq_some_getLast hne))

theorem trim_cons (h : isBlank c = true) (t : Text) : trim (c :: t) = trim t :=
  congrArg trimEnd (List.dropWhile_cons_of_pos h)

/-- A text is blank exactly if all its characters are. -/
theorem isBlankText_iff : isBlankText t = true ↔ ∀ c ∈ t, isBlank c = true := List.all_eq_true

theorem isBlankText_append (s t : Text) : isBlankText (s ++ t) = (isBlankText s && isBlankText t) :=
  List.all_append

/-- White space around a text is trimmed with its own. -/
theorem trim_padded (hfront : isBlankText front = true) (hback : isBlankText back = true) (t : Text) :
    trim (front ++ t ++ back) = trim t := by
  have hend (u : Text) : trimEnd (u ++ back) = trimEnd u := by
    rw [trimEnd, List.reverse_append,
      List.dropWhile_append_of_pos fun c hc => isBlankText_iff.mp hback c (List.mem_reverse.mp hc), ← trimEnd]
  have hstart : trimStart (front ++ t ++ back) = trimStart (t ++ back) := by
    rw [trimStart, List.append_assoc, List.dropWhile_append_of_pos (isBlankText_iff.mp hfront), ← trimStart]
  rw [trim, hstart, trimStart, List.dropWhile_append]
  split
  next hnone =>
    rw [trim, trimStart, List.isEmpty_iff.mp hnone,
      List.dropWhile_eq_nil_iff.mpr (isBlankText_iff.mp hback)]
  next => rw [hend, ← trimStart, ← trim]

/-- What trimming takes off a text is white space at its ends. -/
theorem exists_padded_trim (t : Text) : ∃ front back, isBlankText front = true ∧ isBlankText back = true ∧
    t = front ++ trim t ++ back := by
  refine ⟨t.takeWhile isBlank, (trimStart t).rtakeWhile isBlank, List.all_takeWhile, ?_, ?_⟩
  · exact isBlankText_iff.mpr fun c hc => List.mem_rtakeWhile_imp hc
  · rw [List.append_assoc, trim, trimEnd_eq, List.rdropWhile_append_rtakeWhile, trimStart,
      List.takeWhile_append_dropWhile]

end Trimming

section Words

variable {t front between back word first second : Text} {more : List Text}

/-- A text that is one word: it has a character and no white space. -/
def IsWord (t : Text) : Prop := t ≠ [] ∧ ∀ c ∈ t, isBlank c = false

instance (t : Text) : Decidable (IsWord t) :=
  decidable_of_iff (t ≠ [] ∧ (t.all (! isBlank ·)) = true) (by
    simp only [IsWord, List.all_eq_true, Bool.not_eq_true'])

/-- Each of the words of a text is one word. -/
theorem isWord_of_mem_words (h : word ∈ words t) : IsWord word := by
  obtain ⟨hpiece, hne⟩ := List.mem_filter.mp h
  exact ⟨of_decide_eq_true hne, fun c hc => (of_mem_splitWhere hpiece hc).2⟩

/-- A text that has a word is not blank. -/
theorem isBlankText_of_mem_words (h : word ∈ words t) : isBlankText t = false := by
  obtain ⟨hne, hword⟩ := isWord_of_mem_words h
  obtain ⟨c, hc⟩ := List.exists_mem_of_ne_nil word hne
  have hmem : c ∈ t := (of_mem_splitWhere (List.mem_filter.mp h).1 hc).1
  exact List.all_eq_false.mpr ⟨c, hmem, Bool.eq_false_iff.mp (hword c hc)⟩

/-- White space between two texts keeps their words apart. -/
theorem words_append_cons {c : Char} (hc : isBlank c = true) (front back : Text) :
    words (front ++ c :: back) = words front ++ words back := by
  simp only [words, splitWhere_eq_splitOnP, List.splitOnP_append_cons front back hc, List.filter_append]

/-- A word has no blanks at its ends. -/
theorem IsWord.trimmed (h : IsWord t) : Trimmed t :=
  ⟨fun c hc => h.2 c (List.mem_of_mem_head? hc), fun c hc => h.2 c (List.mem_of_mem_getLast? hc)⟩

/-- A word is its own only word. -/
theorem IsWord.words_eq (h : IsWord t) : words t = [t] := by
  rw [words, splitWhere_eq_splitOnP, List.splitOnP_eq_singleton h.2]
  simp [h.1]

/-- What a word begins with is a word, if it is not empty. -/
theorem IsWord.of_isPrefix (h : IsWord word) (ht : t <+: word) (hne : t ≠ []) : IsWord t :=
  ⟨hne, fun c hc => h.2 c (ht.mem hc)⟩

/-- Two words with a blank between them are just those two. -/
theorem words_pair {c : Char} (hfirst : IsWord first) (hc : isBlank c = true)
    (hsecond : IsWord second) : words (first ++ c :: second) = [first, second] := by
  rw [words_append_cons hc, hfirst.words_eq, hsecond.words_eq]
  rfl

theorem words_eq_nil_of_blank (h : isBlankText t = true) : words t = [] := by
  cases hwords : words t with
  | nil => rfl
  | cons word more =>
    have hsome := isBlankText_of_mem_words (hwords ▸ List.mem_cons_self)
    rw [h] at hsome
    cases hsome

/-- White space in front of a text adds no word. -/
theorem words_append_left (h : isBlankText front = true) (t : Text) : words (front ++ t) = words t := by
  induction front with
  | nil => rfl
  | cons c front ih =>
    obtain ⟨hc, hfront⟩ := Bool.and_eq_true_iff.mp h
    rw [List.cons_append, ← ih hfront]
    exact words_append_cons hc [] (front ++ t)

/-- White space, if there is any, keeps the words on its two sides apart. -/
theorem words_append_append (h : isBlankText between = true) (hne : between ≠ []) (front back : Text) :
    words (front ++ (between ++ back)) = words front ++ words back := by
  obtain ⟨c, between, rfl⟩ := List.exists_cons_of_ne_nil hne
  obtain ⟨hc, hbetween⟩ := Bool.and_eq_true_iff.mp h
  rw [List.cons_append, words_append_cons hc, words_append_left hbetween]

/-- Blanks at the end do not change the words. -/
theorem words_append_right (h : isBlankText back = true) (t : Text) : words (t ++ back) = words t := by
  cases back with
  | nil => rw [List.append_nil]
  | cons c back =>
    rw [← List.append_nil (c :: back), words_append_append h (List.cons_ne_nil c back)]
    exact List.append_nil (words t)

/-- A word that ends in front of white space, or with the text, is the first of the text. -/
theorem IsWord.words_append (h : IsWord word) {rest : Text} (hrest : ∀ c ∈ rest.head?, isBlank c = true) :
    words (word ++ rest) = word :: words rest := by
  cases rest with
  | nil =>
    rw [List.append_nil, h.words_eq]
    rfl
  | cons c rest =>
    have hc := hrest c rfl
    rw [words_append_cons hc, h.words_eq]
    exact congrArg (word :: ·) (words_append_cons hc [] rest).symm

/-- A text with more to it than white space has a first word, with white space or nothing at either
side. -/
theorem exists_first_word (h : isBlankText t = false) : ∃ front word rest, isBlankText front = true ∧
    IsWord word ∧ (∀ c ∈ rest.head?, isBlank c = true) ∧ t = front ++ (word ++ rest) := by
  induction t with
  | nil => cases h
  | cons c t ih =>
    cases hc : isBlank c with
    | true =>
      rw [isBlankText, List.all_cons, hc, Bool.true_and] at h
      obtain ⟨front, word, rest, hfront, hword, hrest, rfl⟩ := ih h
      exact ⟨c :: front, word, rest, Bool.and_eq_true_iff.mpr ⟨hc, hfront⟩, hword, hrest, rfl⟩
    | false =>
      -- The word ends at the next white space, or with the text.
      refine ⟨[], (c :: t).takeWhile (! isBlank ·), (c :: t).dropWhile (! isBlank ·), rfl, ⟨?_, ?_⟩, ?_,
        List.takeWhile_append_dropWhile.symm⟩
      · simp [hc]
      · exact fun d hd => by simpa using List.mem_takeWhile_imp hd
      · intro d hd
        have := List.head?_dropWhile_not (! isBlank ·) (c :: t)
        rw [hd] at this
        simpa using this

/-- A text has no words exactly if it is blank. -/
theorem words_eq_nil_iff : words t = [] ↔ isBlankText t = true := by
  refine ⟨fun h => ?_, words_eq_nil_of_blank⟩
  by_contra hsome
  obtain ⟨front, word, rest, hfront, hword, hrest, rfl⟩ := exists_first_word (Bool.not_eq_true _ ▸ hsome)
  rw [words_append_left hfront, hword.words_append hrest] at h
  cases h

/-- The first word of a text, and what the others are the words of. -/
theorem words_eq_cons (h : words t = word :: more) : ∃ front rest, isBlankText front = true ∧
    (∀ c ∈ rest.head?, isBlank c = true) ∧ t = front ++ (word ++ rest) ∧ words rest = more := by
  obtain ⟨front, first, rest, hfront, hfirst, hrest, rfl⟩ :=
    exists_first_word (isBlankText_of_mem_words (h ▸ List.mem_cons_self))
  rw [words_append_left hfront, hfirst.words_append hrest] at h
  obtain ⟨rfl, rfl⟩ := List.cons.inj h
  exact ⟨front, rest, hfront, hrest, rfl, rfl⟩

/-- Two **words make a text** with white space between them, and with nothing else around them. -/
theorem words_eq_pair_iff : words t = [first, second] ↔ ∃ front between back, isBlankText front = true ∧
    isBlankText between = true ∧ between ≠ [] ∧ isBlankText back = true ∧ IsWord first ∧ IsWord second ∧
      t = front ++ (first ++ (between ++ (second ++ back))) := by
  constructor
  · intro h
    have hfirst : IsWord first := isWord_of_mem_words (h ▸ List.mem_cons_self)
    have hsecond : IsWord second := isWord_of_mem_words (h ▸ List.mem_cons_of_mem first List.mem_cons_self)
    obtain ⟨front, rest, hfront, hrest, rfl, htail⟩ := words_eq_cons h
    obtain ⟨between, back, hbetween, -, rfl, hnone⟩ := words_eq_cons htail
    refine ⟨front, between, back, hfront, hbetween, ?_, words_eq_nil_iff.mp hnone, hfirst, hsecond, rfl⟩
    -- Without white space between them the second word would go on the first.
    rintro rfl
    obtain ⟨c, word, rfl⟩ := List.exists_cons_of_ne_nil hsecond.1
    have hblank := hrest c rfl
    rw [hsecond.2 c List.mem_cons_self] at hblank
    cases hblank
  · rintro ⟨front, between, back, hfront, hbetween, hne, hback, hfirst, hsecond, rfl⟩
    rw [words_append_left hfront, words_append_append hbetween hne, hfirst.words_eq,
      words_append_right hback, hsecond.words_eq]
    rfl

end Words

end MediaProxy.Text
