import MediaProxy.Proofs.Rtsp.Framing

/-!
# Reading on to the end

A reader that goes on after faults comes to the end of a closed stream. It is told that the stream
is over where nothing but white space is left, and then all of the stream has been consumed
(`over_iff`). Every other read consumes octets, also when it ends in a fault. So there are no more
answers than octets, and the stream is over behind them (`exists_answers`).

A head that cannot be read does no harm to what follows. It ends at its blank line, wherever that
is: behind lines of which none is blank (`Unbroken`) and not all are white space, in front of which
whole stretches of white space are passed over (`Skipped`). That line is the last that the read
consumes.
-/

namespace MediaProxy.Rtsp

open Text (Break toBytes isBlankText)

section Heads

variable {ending : Ending} {head line t text : Text} {stream rest : Bytes}

/-- Lines of which **none is blank**, each with its line feed. -/
inductive Unbroken : Text → Prop
  | nil : Unbroken []
  | line {line rest : Text} (hfeed : '\n' ∉ line) (hblank : line ≠ [] ∧ line ≠ ['\r'])
      (hrest : Unbroken rest) : Unbroken (line ++ '\n' :: rest)

/-- What is **passed over** in front of a head: white space, with a blank line behind each stretch
of it. -/
inductive Skipped : Text → Prop
  | nil : Skipped []
  | blank {front rest : Text} (hfront : Unbroken front) (hblank : isBlankText front = true) (b : Break)
      (hrest : Skipped rest) : Skipped (front ++ (b.text ++ rest))

/-- A head that is not at its end goes on so with one more line that is not empty. -/
theorem Unbroken.concat (h : Unbroken t) (hfeed : '\n' ∉ line) (hblank : line ≠ [] ∧ line ≠ ['\r']) :
    Unbroken (t ++ (line ++ ['\n'])) := by
  induction h with
  | nil => exact .line hfeed hblank .nil
  | line hfirst hfirstBlank _ ih =>
    rw [List.append_assoc, List.cons_append]
    exact .line hfirst hfirstBlank ih

/-- A line is empty exactly if there is at most a carriage return before its end. -/
theorem isEmptyLine_eq_true_iff : isEmptyLine (line ++ ['\n']) = true ↔ line = [] ∨ line = ['\r'] := by
  have hcrlf : line ++ ['\n'] = ['\r', '\n'] ↔ line = ['\r'] :=
    @List.append_left_inj _ line ['\r'] ['\n']
  have hlf : line ++ ['\n'] = ['\n'] ↔ line = [] := List.append_left_eq_self
  rw [isEmptyLine, Bool.or_eq_true, decide_eq_true_eq, decide_eq_true_eq, hcrlf, hlf, or_comm]

/-- An empty line is a line ending. -/
theorem exists_break_of_isEmptyLine (h : isEmptyLine t = true) : ∃ b : Break, t = b.text := by
  rcases Bool.or_eq_true_iff.mp h with h | h
  · exact ⟨.crlf, of_decide_eq_true h⟩
  · exact ⟨.lf, of_decide_eq_true h⟩

/-- Lines of which none is blank are taken as they come. -/
theorem takeHead_unbroken (ending : Ending) (head : Text) (rest : Bytes) (h : Unbroken t) :
    takeHead ending head [] (toBytes t ++ rest) = takeHead ending (head ++ t) [] rest := by
  induction h generalizing head with
  | nil =>
    rw [List.append_nil]
    rfl
  | @line line more hfeed hblank _ ih =>
    have hfull : isEmptyLine (line ++ ['\n']) = false :=
      Bool.eq_false_iff.mpr (isEmptyLine_eq_true_iff.not.mpr (not_or.mpr hblank))
    have hline := takeHead_line ending head (toBytes more ++ rest) hfeed .lf
    rw [Break.text, hfull, if_neg Bool.false_ne_true, ih] at hline
    rw [List.append_cons, Text.toBytes_append, List.append_assoc, hline, List.append_assoc]

/-- What is skipped in front of a head makes no difference to it. -/
theorem takeHead_skipped (ending : Ending) (rest : Bytes) (h : Skipped t) :
    takeHead ending [] [] (toBytes t ++ rest) = takeHead ending [] [] rest := by
  induction h with
  | nil => rfl
  | @blank front more hfront hblank b _ ih =>
    have hline := takeHead_line ending front (toBytes more ++ rest) List.not_mem_nil b
    rw [List.nil_append, isEmptyLine_break, if_pos rfl, hblank, if_pos rfl, ih] at hline
    rw [Text.toBytes_append, Text.toBytes_append, List.append_assoc, List.append_assoc,
      takeHead_unbroken ending [] _ hfront, List.nil_append, hline]

/-- The octets of a line that has been read are those of its text. -/
theorem octets_of_line {line : Bytes} (h : Text.ofBytes? (line.reverse ++ [10]) = some text) (behind : Bytes) :
    line.reverse ++ 10 :: behind = toBytes text ++ behind := by
  rw [Text.ofBytes?_eq_some_iff.mp h, List.append_assoc, List.singleton_append]

/-- Octets up to a line feed, in front of any others that make a text with them, are a line on their
own. -/
theorem exists_line {line : Bytes} (hline : 10 ∉ line) {behind : Bytes}
    (h : toBytes t = line.reverse ++ 10 :: behind) :
    ∃ s, '\n' ∉ s ∧ Text.ofBytes? (line.reverse ++ [10]) = some (s ++ ['\n']) := by
  obtain ⟨s, hs, hfeed, -⟩ := Text.exists_of_toBytes_eq_append_lf (mt List.mem_reverse.mp hline) h
  exact ⟨s, hfeed, Text.ofBytes?_eq_some_iff.mpr (hs ▸ Text.toBytes_append s ['\n'])⟩

/-- Where the octets end there is no head. -/
theorem endOfHead_ne_head (ending : Ending) (head : Text) (line : Bytes) :
    endOfHead ending head line ≠ .head text rest := by
  unfold endOfHead
  split
  · exact nofun
  · split
    · exact nofun
    · split <;> exact nofun

/-- Whatever a read of a head goes through until it has one is passed over, or is the head. -/
theorem exists_of_takeHead {line : Bytes} (h : takeHead ending head line stream = .head text rest)
    (hhead : Unbroken head) (hline : 10 ∉ line) :
    ∃ skipped body, ∃ b : Break, Skipped skipped ∧ Unbroken body ∧ isBlankText body = false ∧
      text = body ++ b.text ∧ toBytes head ++ (line.reverse ++ stream) = toBytes (skipped ++ text) ++ rest := by
  -- Of `head` only whole lines are known, of `line` only that it has no feed yet: both hold again
  -- at each octet.
  fun_induction takeHead ending head line stream with
  | case1 head line => exact absurd h (endOfHead_ne_head ending head line.reverse)
  | case2 => cases h
  | case3 head line behind _ htext hempty hblank ih =>
    obtain ⟨b, rfl⟩ := exists_break_of_isEmptyLine hempty
    obtain ⟨skipped, body, b', hskipped, hbody, hsome, rfl, hstream⟩ := ih h .nil List.not_mem_nil
    have hbehind : behind = toBytes (skipped ++ (body ++ b'.text)) ++ rest := hstream
    refine ⟨head ++ (b.text ++ skipped), body, b', .blank hhead hblank b hskipped, hbody, hsome, rfl, ?_⟩
    rw [octets_of_line htext, hbehind]
    simp only [Text.toBytes_append, List.append_assoc]
  | case4 head line behind _ htext hempty hblank =>
    cases h
    obtain ⟨b, rfl⟩ := exists_break_of_isEmptyLine hempty
    refine ⟨[], head, b, .nil, hhead, Bool.eq_false_iff.mpr hblank, rfl, ?_⟩
    rw [octets_of_line htext, List.nil_append, Text.toBytes_append, List.append_assoc]
  | case5 head line behind _ htext hempty ih =>
    obtain ⟨s, hfeed, hs⟩ := exists_line hline (Text.ofBytes?_eq_some_iff.mp htext)
    obtain rfl := Option.some.inj (htext.symm.trans hs)
    have hfull : s ≠ [] ∧ s ≠ ['\r'] := not_or.mp (mt isEmptyLine_eq_true_iff.mpr hempty)
    obtain ⟨skipped, body, b, hskipped, hbody, hsome, htext', hstream⟩ :=
      ih h (hhead.concat hfeed hfull) List.not_mem_nil
    refine ⟨skipped, body, b, hskipped, hbody, hsome, htext', ?_⟩
    rw [octets_of_line htext, ← hstream, Text.toBytes_append head, List.append_assoc]
    rfl
  | case6 head line b behind hb ih =>
    have hnext := ih h hhead (by simp [hline, Ne.symm hb])
    rwa [List.reverse_cons, List.append_assoc, List.singleton_append] at hnext

/-- A head **ends at its blank line**: the first behind a line with more to it than white space. -/
theorem takeHead_eq_head_iff : takeHead ending [] [] stream = .head text rest ↔
    ∃ skipped head, ∃ b : Break, Skipped skipped ∧ Unbroken head ∧ isBlankText head = false ∧
      text = head ++ b.text ∧ stream = toBytes (skipped ++ text) ++ rest := by
  constructor
  · exact fun h => exists_of_takeHead h .nil List.not_mem_nil
  · rintro ⟨skipped, head, b, hskipped, hhead, hsome, rfl, rfl⟩
    have hline := takeHead_line ending head rest List.not_mem_nil b
    rw [List.nil_append, isEmptyLine_break, if_pos rfl, hsome, if_neg Bool.false_ne_true] at hline
    rw [Text.toBytes_append, List.append_assoc, takeHead_skipped ending _ hskipped, Text.toBytes_append,
      List.append_assoc, takeHead_unbroken ending [] _ hhead, List.nil_append, hline]

/-- A text from a line on is the line with a text from behind it on. -/
theorem exists_octets_iff {P : Text → Prop} {line : Bytes} (h : Text.ofBytes? (line.reverse ++ [10]) = some text)
    (behind : Bytes) : (∃ t, toBytes t = line.reverse ++ 10 :: behind ∧ P t) ↔
      ∃ u, toBytes u = behind ∧ P (text ++ u) := by
  rw [octets_of_line h]
  constructor
  · rintro ⟨t, ht, hP⟩
    obtain ⟨u, rfl, hu⟩ := Text.toBytes_eq_append_iff.mp ht
    exact ⟨u, hu, hP⟩
  · rintro ⟨u, rfl, hP⟩
    exact ⟨text ++ u, Text.toBytes_append text u, hP⟩

/-- A read of a head comes to nothing where all that it goes through is white space. -/
theorem takeHead_eq_over_iff {line : Bytes} (hline : 10 ∉ line) : takeHead .closed head line stream = .over ↔
    ∃ t, toBytes t = line.reverse ++ stream ∧ isBlankText (head ++ t) = true := by
  fun_induction takeHead .closed head line stream with
  | case1 head line =>
    rw [List.append_nil]
    -- The stream has ended within a line. If that is no text, there is no `t` either.
    cases htext : Text.ofBytes? line.reverse with
    | none =>
      simp only [endOfHead, htext]
      constructor
      · intro h
        cases h
      · rintro ⟨t, ht, -⟩
        rw [Text.ofBytes?_eq_some_iff.mpr ht] at htext
        cases htext
    | some text =>
      have hbytes := Text.ofBytes?_eq_some_iff.mp htext
      simp only [endOfHead, htext]
      constructor
      · intro h
        split at h
        next hblank => exact ⟨text, hbytes, hblank⟩
        next => cases h
      · rintro ⟨t, ht, hblank⟩
        obtain rfl := Option.some.inj ((Text.ofBytes?_eq_some_iff.mpr ht).symm.trans htext)
        exact if_pos hblank
  | case2 head line behind hnone =>
    constructor
    · intro h
      cases h
    · rintro ⟨t, ht, -⟩
      obtain ⟨s, -, hs⟩ := exists_line hline ht
      rw [hs] at hnone
      cases hnone
  | case3 head line behind _ htext hempty hblank ih =>
    obtain ⟨b, rfl⟩ := exists_break_of_isEmptyLine hempty
    rw [ih List.not_mem_nil, exists_octets_iff htext]
    simp only [Text.isBlankText_append, hblank, Text.isBlankText_break, Bool.true_and]
    rfl
  | case4 head line behind _ htext hempty hblank =>
    constructor
    · intro h
      cases h
    · rintro ⟨t, -, h⟩
      rw [Text.isBlankText_append] at h
      -- The head in front of the blank line is more than white space, whatever follows.
      exact absurd (Bool.and_eq_true_iff.mp h).1 hblank
  | case5 head line behind _ htext hempty ih =>
    rw [ih List.not_mem_nil, exists_octets_iff htext]
    simp only [List.append_assoc]
    rfl
  | case6 head line b behind hb ih =>
    rw [ih (by simp [hline, Ne.symm hb]), List.reverse_cons, List.append_assoc, List.singleton_append]

end Heads

/-! ## Reads of a closed stream -/

section Reads

variable {stream rest : Bytes} {defect : Defect}

/-- What a reader **answers**: a response, or why there is none. -/
def Reading.ofAnswer : Except Fault Response → Reading
  | .ok r => .response r
  | .error cause => .fault cause

/-- A closed stream is **over** for its reader exactly where nothing but white space is left of it.
-/
theorem over_iff : takeResponse .closed stream = (.over, []) ↔
    ∃ t, stream = toBytes t ∧ isBlankText t = true := by
  have hhead : takeResponse .closed stream = (.over, []) ↔ takeHead .closed [] [] stream = .over := by
    constructor
    · intro h
      cases takes_of_takeResponse h with
      | «over» hhead => exact hhead
    · intro hhead
      rw [takeResponse, hhead]
  rw [hhead, takeHead_eq_over_iff List.not_mem_nil]
  simp only [List.reverse_nil, List.nil_append, eq_comm]

/-- Without a head there is a line that is no text, or the stream breaks off. -/
theorem cause_of_takeHead {ending : Ending} {head : Text} {line : Bytes} {cause : Fault}
    (h : takeHead ending head line stream = .fault cause rest) :
    cause = notText ∨ cause = .malformed .truncated := by
  fun_induction takeHead ending head line stream with
  | case1 head line =>
    unfold endOfHead at h
    split at h
    · cases h
    · split at h
      · cases h
        exact .inl rfl
      · split at h
        · cases h
        · cases h
          exact .inr rfl
  | case2 =>
    cases h
    exact .inl rfl
  | case3 _ _ _ _ _ _ _ ih | case5 _ _ _ _ _ _ ih | case6 _ _ _ _ _ ih => exact ih h
  | case4 => cases h

/-- A first line is found defective as such. -/
theorem defect_of_readStatusLine {line : Text} (h : Response.readStatusLine line = .error defect) :
    defect = .startLine := by
  unfold Response.readStatusLine at h
  split at h
  · cases h
    rfl
  · dsimp only at h
    split at h
    · cases h
      rfl
    · split at h
      · cases h
      · cases h
        rfl

/-- A line of a field is found defective as such. -/
theorem defect_of_ofLines {ls : List Text} (h : Fields.ofLines ls = .error defect) : defect = .header := by
  fun_induction Fields.ofLines ls with
  | case1 | case2 => cases h
  | case3 =>
    cases h
    rfl
  | case4 line more hline name value hcut ih =>
    cases hrest : Fields.ofLines more with
    | ok fields =>
      rw [hrest] at h
      cases h
    | error inner =>
      rw [hrest] at h
      cases h
      exact ih hrest

/-- It is never a head that breaks off, only the stream. -/
theorem ofHead_ne_truncated (text : Text) : Response.ofHead text ≠ .error .truncated := by
  intro h
  unfold Response.ofHead at h
  cases hlines : Text.lines text with
  | nil =>
    rw [hlines] at h
    cases h
  | cons first more =>
    rw [hlines] at h
    cases hfirst : Response.readStatusLine first with
    | error defect =>
      simp only [hfirst, defect_of_readStatusLine hfirst] at h
      cases h
    | ok status =>
      cases hrest : Fields.ofLines more with
      | ok fields =>
        simp only [hfirst, hrest] at h
        cases h
      | error defect =>
        simp only [hfirst, hrest, defect_of_ofLines hrest] at h
        cases h

/-- Where a head **cannot be read**, the read consumes what is passed over and the head up to its
blank line, and nothing behind it. The one defect that is none of a head's is that the stream breaks
off. -/
theorem defect_iff {ending : Ending} :
    takeResponse ending stream = (.fault (.malformed defect), rest) ∧ defect ≠ .truncated ↔
      ∃ skipped head, ∃ b : Break, Skipped skipped ∧ Unbroken head ∧ isBlankText head = false ∧
        Response.ofHead (head ++ b.text) = .error defect ∧
        stream = toBytes (skipped ++ (head ++ b.text)) ++ rest := by
  constructor
  · rintro ⟨h, hwhole⟩
    cases takes_of_takeResponse h with
    | fault hhead =>
      rcases cause_of_takeHead hhead with hcause | hcause
      · cases hcause
      · cases hcause
        exact absurd rfl hwhole
    | defect hhead hread =>
      obtain ⟨skipped, head, b, hskipped, hbroken, hsome, rfl, hstream⟩ := takeHead_eq_head_iff.mp hhead
      exact ⟨skipped, head, b, hskipped, hbroken, hsome, hread, hstream⟩
    | cutShort => exact absurd rfl hwhole
  · rintro ⟨skipped, head, b, hskipped, hbroken, hsome, hread, hstream⟩
    have hhead : takeHead ending [] [] stream = .head (head ++ b.text) rest :=
      takeHead_eq_head_iff.mpr ⟨skipped, head, b, hskipped, hbroken, hsome, rfl, hstream⟩
    refine ⟨?_, fun hdefect => ofHead_ne_truncated _ (hdefect ▸ hread)⟩
    rw [takeResponse, hhead]
    simp only [hread]

/-- A read of a closed stream **comes to the end or to an answer**, and no answer is free. -/
theorem over_or_answer (hwithin : ¬ Overreaches .closed stream) : takeResponse .closed stream = (.over, []) ∨
    ∃ answer taken rest, taken ≠ [] ∧ stream = taken ++ rest ∧
      takeResponse .closed stream = (Reading.ofAnswer answer, rest) := by
  cases h : takeResponse .closed stream with | mk reading rest =>
  obtain ⟨taken, htaken, hsome⟩ := (takes_of_takeResponse h).exists_taken
  have hanswer (answer : Except Fault Response) (hreading : reading = Reading.ofAnswer answer) :
      ∃ answer taken rest', taken ≠ [] ∧ stream = taken ++ rest' ∧
        (reading, rest) = (Reading.ofAnswer answer, rest') := by
    refine ⟨answer, taken, rest, hsome ?_, htaken, by rw [hreading]⟩
    rintro rfl
    cases h
    cases answer <;> cases hreading
  cases reading with
  | «over» =>
    cases takes_of_takeResponse h
    exact .inl rfl
  | response r => exact .inr (hanswer (.ok r) rfl)
  | fault cause => exact .inr (hanswer (.error cause) rfl)
  | starved cause => exact absurd h not_starved_of_closed
  | brokeDown message => exact absurd (brokeDown_iff.mp ⟨message, congrArg Prod.fst h⟩) hwithin

/-- A reader that goes on after every answer comes to the **end of the stream**, with no more
answers than the stream has octets. -/
theorem exists_answers (hwithin : ∀ k, ¬ Overreaches .closed (leftover .closed k stream)) :
    ∃ answers : List (Except Fault Response), answers.length ≤ stream.length ∧
      readings .closed (answers.length + 1) stream = answers.map Reading.ofAnswer ++ [.over] ∧
      ∀ reads, answers.length ≤ reads → takeUpTo reads stream = .ok answers := by
  -- By induction on the octets that are left: an answer takes at least one of them.
  induction hlength : stream.length using Nat.strong_induction_on generalizing stream with
  | _ length ih =>
    subst hlength
    have hfirst : ¬ Overreaches .closed stream := hwithin 0
    rcases over_or_answer hfirst with hover | ⟨answer, taken, rest, htaken, rfl, hread⟩
    · refine ⟨[], Nat.zero_le _, by simp [readings, hover], fun reads _ => ?_⟩
      cases reads with
      | zero => rfl
      | succ reads => rw [takeUpTo, hover]
    · have hpos := List.length_pos_iff.mpr htaken
      have hless : rest.length < (taken ++ rest).length := by
        rw [List.length_append]
        omega
      have hrest : ∀ k, ¬ Overreaches .closed (leftover .closed k rest) := fun k => by
        have hnext := hwithin (k + 1)
        rwa [leftover, hread] at hnext
      obtain ⟨answers, hfew, hreadings, hall⟩ := ih rest.length hless hrest rfl
      refine ⟨answer :: answers, Nat.lt_of_le_of_lt hfew hless, ?_, fun reads hreads => ?_⟩
      · rw [List.length_cons, readings, hread, hreadings]
        rfl
      · obtain ⟨reads, rfl⟩ := Nat.exists_eq_add_of_le' (Nat.lt_of_lt_of_le (Nat.succ_pos _) hreads)
        rw [takeUpTo, hread]
        have hrow := hall reads (Nat.le_of_succ_le_succ hreads)
        cases answer <;> simp only [Reading.ofAnswer, hrow] <;> rfl

/-- A reader of a closed stream **advances**. A read comes to the end of the stream, where only
white space was left of it, or to an answer that took octets off it. Reading on, whatever the
answers are, comes to the end after no more answers than the stream had octets. And a head that
cannot be read is taken off the stream up to its blank line, with nothing behind it. -/
theorem reader_advances :
    (∀ stream, ¬ Overreaches .closed stream →
      takeResponse .closed stream = (.over, []) ∧ (∃ t, stream = toBytes t ∧ isBlankText t = true) ∨
      ∃ answer taken rest, taken ≠ [] ∧ stream = taken ++ rest ∧
        takeResponse .closed stream = (Reading.ofAnswer answer, rest)) ∧
    (∀ stream, (∀ k, ¬ Overreaches .closed (leftover .closed k stream)) →
      ∃ answers : List (Except Fault Response), answers.length ≤ stream.length ∧
        readings .closed (answers.length + 1) stream = answers.map Reading.ofAnswer ++ [.over] ∧
        takeAll stream = .ok answers) ∧
    ∀ (stream rest : Bytes) (defect : Defect),
      takeResponse .closed stream = (.fault (.malformed defect), rest) ∧ defect ≠ .truncated ↔
        ∃ skipped head, ∃ b : Break, Skipped skipped ∧ Unbroken head ∧ isBlankText head = false ∧
          Response.ofHead (head ++ b.text) = .error defect ∧
          stream = toBytes (skipped ++ (head ++ b.text)) ++ rest := by
  refine ⟨fun stream hwithin => ?_, fun stream hwithin => ?_, fun stream rest defect => defect_iff⟩
  · exact (over_or_answer hwithin).imp_left fun hover => ⟨hover, over_iff.mp hover⟩
  · obtain ⟨answers, hfew, hreadings, hall⟩ := exists_answers hwithin
    exact ⟨answers, hfew, hreadings, hall stream.length hfew⟩

example : takeAll (toBytes "\nNONSENSE\r\n\r\nRTSP/1.0 200 OK\n\n \n".toList) =
    .ok [.error (.malformed .startLine), .ok ⟨"RTSP/1.0".toList, 200, "OK".toList, [], none⟩] := rfl

/-- A blank line, a head that cannot be read, a response, and white space. -/
def garbled : Bytes := toBytes "\nNONSENSE\r\n\r\nRTSP/1.0 200 OK\n\n \n".toList

/-- There is nothing to read of nothing. -/
theorem takeResponse_nil : takeResponse .closed [] = (.over, []) := rfl

/-- Nothing is left over of nothing. -/
theorem leftover_nil (k : Nat) : leftover .closed k [] = [] := by
  induction k with
  | zero => rfl
  | succ k ih => rwa [leftover, takeResponse_nil]

theorem garbled_within (k : Nat) : ¬ Overreaches .closed (leftover .closed k garbled) := by
  rw [← brokeDown_iff]
  rintro ⟨message, h⟩
  match k with
  | 0 => cases h
  | 1 => cases h
  | 2 => cases h
  | k + 3 =>
    have hleft : leftover .closed (k + 3) garbled = leftover .closed k [] := rfl
    rw [hleft, leftover_nil] at h
    cases h

theorem reader_advances_garbled :
    (∀ k, ¬ Overreaches .closed (leftover .closed k garbled)) ∧
      (∃ answers : List (Except Fault Response), answers.length ≤ garbled.length ∧
        readings .closed (answers.length + 1) garbled = answers.map Reading.ofAnswer ++ [.over] ∧
        takeAll garbled = .ok answers) ∧
      (takeResponse .closed garbled = (.over, []) ∧ (∃ t, garbled = toBytes t ∧ isBlankText t = true) ∨
        ∃ answer taken rest, taken ≠ [] ∧ garbled = taken ++ rest ∧
          takeResponse .closed garbled = (Reading.ofAnswer answer, rest)) ∧
      takeResponse .closed garbled =
        (.fault (.malformed .startLine), toBytes "RTSP/1.0 200 OK\n\n \n".toList) := by
  obtain ⟨hread, hrow, hdefect⟩ := reader_advances
  have hskipped : Skipped ([] ++ (Break.lf.text ++ [])) := .blank .nil rfl .lf .nil
  have hbroken : Unbroken ("NONSENSE\r".toList ++ '\n' :: []) := .line (by decide) (by decide) .nil
  have hhead := (hdefect garbled (toBytes "RTSP/1.0 200 OK\n\n \n".toList) .startLine).mpr
    ⟨_, _, .crlf, hskipped, hbroken, rfl, rfl, rfl⟩
  exact ⟨garbled_within, hrow garbled garbled_within, hread garbled (garbled_within 0), hhead.1⟩

end Reads

end MediaProxy.Rtsp
