import MediaProxy.Rtsp.Stream

/-!
# Reads of a stream

What one read can do is said once (`Takes`), and what rows of reads do follows from it. Whatever
comes of a read, it takes octets off the stream as long as there are any (`Takes.exists_taken`). A
reader of a closed stream is never starved. And it breaks down in one case only, where the head that
it has just read announces a body beyond all memory (`brokeDown_iff`).
-/

namespace MediaProxy.Rtsp

/-- How long the body behind a head is. -/
def Response.bodyLength (r : Response) : Nat := r.contentLength?.getD 0

/-- What comes of a body that the stream has not all of. -/
def cutShort : Ending → Reading
  | .closed => .fault (.malformed .truncated)
  | .silent => .starved (.malformed .truncated)

/-- What **one read** can take off a stream, and what it leaves. -/
inductive Takes (ending : Ending) (stream : Bytes) : Reading → Bytes → Prop where
  | over (h : takeHead ending [] [] stream = .over) : Takes ending stream .over []
  | starved (h : takeHead ending [] [] stream = .starved) : Takes ending stream (.starved timedOut) []
  | fault {cause : Fault} {rest : Bytes} (h : takeHead ending [] [] stream = .fault cause rest) :
    Takes ending stream (.fault cause) rest
  | defect {text : Text} {rest : Bytes} {defect : Defect}
    (h : takeHead ending [] [] stream = .head text rest) (hread : Response.ofHead text = .error defect) :
    Takes ending stream (.fault (.malformed defect)) rest
  | bare {text : Text} {rest : Bytes} {r : Response} (h : takeHead ending [] [] stream = .head text rest)
    (hread : Response.ofHead text = .ok r) (hnone : r.bodyLength = 0) :
    Takes ending stream (.response r) rest
  | brokeDown {text : Text} {rest : Bytes} {r : Response}
    (h : takeHead ending [] [] stream = .head text rest) (hread : Response.ofHead text = .ok r)
    (hover : largestBody < r.bodyLength) :
    Takes ending stream (.brokeDown "capacity overflow".toList) rest
  | cutShort {text : Text} {rest : Bytes} {r : Response}
    (h : takeHead ending [] [] stream = .head text rest) (hread : Response.ofHead text = .ok r)
    (hfits : r.bodyLength ≤ largestBody) (hshort : rest.length < r.bodyLength)
    (hclosed : ending = .closed) :
    Takes ending stream (.fault (.malformed .truncated)) []
  | waiting {text : Text} {rest : Bytes} {r : Response}
    (h : takeHead ending [] [] stream = .head text rest) (hread : Response.ofHead text = .ok r)
    (hfits : r.bodyLength ≤ largestBody) (hshort : rest.length < r.bodyLength)
    (hsilent : ending = .silent) :
    Takes ending stream (.starved (.malformed .truncated)) []
  | whole {text : Text} {rest : Bytes} {r : Response} (h : takeHead ending [] [] stream = .head text rest)
    (hread : Response.ofHead text = .ok r) (hfits : r.bodyLength ≤ largestBody)
    (hwhole : r.bodyLength ≤ rest.length) :
    Takes ending stream (.response { r with body := some (Text.lossy (rest.take r.bodyLength)) })
      (rest.drop r.bodyLength)

/-- What a read of a head **leaves**. -/
def HeadReading.rest : HeadReading → Bytes
  | .head _ rest => rest
  | .fault _ rest => rest
  | .over => []
  | .starved => []

/-- A stream **overreaches** when the next head on it announces a body beyond all memory. -/
def Overreaches (ending : Ending) (stream : Bytes) : Prop :=
  ∃ text rest r, takeHead ending [] [] stream = .head text rest ∧ Response.ofHead text = .ok r ∧
    largestBody < r.bodyLength

section OneRead

variable {ending : Ending} {stream rest : Bytes} {r : Response}

/-- A body is taken by its length, if memory and the stream have room for it. -/
theorem takeBody_eq (ending : Ending) (r : Response) (rest : Bytes) :
    takeBody ending r rest =
      if r.bodyLength = 0 then (.response r, rest)
      else if largestBody < r.bodyLength then (.brokeDown "capacity overflow".toList, rest)
      else if rest.length < r.bodyLength then (cutShort ending, [])
      else
        (.response { r with body := some (Text.lossy (rest.take r.bodyLength)) },
          rest.drop r.bodyLength) := by
  unfold takeBody Response.bodyLength
  split
  next h => rw [h, Option.getD_none, if_pos rfl]
  next h => rw [h, Option.getD_some, if_pos rfl]
  next length hne h =>
    simp only [h, Option.getD_some, if_neg hne]
    cases ending <;> rfl

/-- A reading takes what it is made of from the front. -/
theorem takes_takeResponse (ending : Ending) (stream : Bytes) :
    Takes ending stream (takeResponse ending stream).1 (takeResponse ending stream).2 := by
  unfold takeResponse
  cases h : takeHead ending [] [] stream with
  | «over» => exact .over h
  | starved => exact .starved h
  | fault cause rest => exact .fault h
  | head text rest =>
    cases hread : Response.ofHead text with
    | error defect => simpa only [hread] using Takes.defect h hread
    | ok r =>
      simp only [hread, takeBody_eq]
      split
      next hnone => exact .bare h hread hnone
      · split
        next hover => exact .brokeDown h hread hover
        next hfits =>
          split
          next hshort =>
            cases ending with
            | closed => exact .cutShort h hread (Nat.le_of_not_lt hfits) hshort rfl
            | silent => exact .waiting h hread (Nat.le_of_not_lt hfits) hshort rfl
          next hwhole => exact .whole h hread (Nat.le_of_not_lt hfits) (Nat.le_of_not_lt hwhole)

/-- Whatever a reading comes to, it takes that from the front. -/
theorem takes_of_takeResponse {reading : Reading} (h : takeResponse ending stream = (reading, rest)) :
    Takes ending stream reading rest := by
  have := takes_takeResponse ending stream
  rwa [h] at this

/-- Where the octets end nothing is left over. -/
theorem rest_endOfHead (ending : Ending) (head : Text) (line : Bytes) : (endOfHead ending head line).rest = [] := by
  unfold endOfHead
  split
  · rfl
  · split
    · rfl
    · split <;> rfl

/-- A read of a head takes octets off the stream, as long as there are any. -/
theorem exists_taken_head (ending : Ending) (head : Text) (line stream : Bytes) :
    ∃ taken, stream = taken ++ (takeHead ending head line stream).rest ∧ (stream ≠ [] → taken ≠ []) := by
  fun_induction takeHead ending head line stream with
  | case1 head line => exact ⟨[], (rest_endOfHead ending head line.reverse).symm, absurd rfl⟩
  | case2 | case4 => exact ⟨[10], rfl, fun _ => List.cons_ne_nil _ _⟩
  | case3 _ _ _ _ _ _ _ ih | case5 _ _ _ _ _ _ ih =>
    obtain ⟨taken, htaken, -⟩ := ih
    exact ⟨10 :: taken, congrArg (10 :: ·) htaken, fun _ => List.cons_ne_nil _ _⟩
  | case6 _ _ b _ _ ih =>
    obtain ⟨taken, htaken, -⟩ := ih
    exact ⟨b :: taken, congrArg (b :: ·) htaken, fun _ => List.cons_ne_nil _ _⟩

/-- Every read takes octets off the stream, as long as there are any. -/
theorem Takes.exists_taken {reading : Reading} (h : Takes ending stream reading rest) :
    ∃ taken, stream = taken ++ rest ∧ (stream ≠ [] → taken ≠ []) := by
  obtain ⟨taken, htaken, hsome⟩ := exists_taken_head ending [] [] stream
  cases h with
  | «over» hhead | starved hhead | fault hhead | defect hhead | bare hhead | brokeDown hhead =>
    rw [hhead] at htaken
    exact ⟨taken, htaken, hsome⟩
  | cutShort | waiting => exact ⟨stream, (List.append_nil stream).symm, id⟩
  | @whole text behind r hhead =>
    rw [hhead] at htaken
    refine ⟨taken ++ behind.take r.bodyLength, ?_, fun h => List.append_ne_nil_of_left_ne_nil (hsome h) _⟩
    rw [List.append_assoc, List.take_append_drop]
    exact htaken

/-- A response takes octets off the stream. -/
theorem length_lt_of_response (h : takeResponse ending stream = (.response r, rest)) :
    rest.length < stream.length := by
  have hne : stream ≠ [] := by
    rintro rfl
    cases ending <;> cases h
  obtain ⟨taken, rfl, hsome⟩ := (takes_of_takeResponse h).exists_taken
  have := List.length_pos_iff.mpr (hsome hne)
  rw [List.length_append]
  omega

/-- A head is not waited for where the stream has ended. -/
theorem takeHead_closed_ne_starved (head : Text) (line stream : Bytes) :
    takeHead .closed head line stream ≠ .starved := by
  fun_induction takeHead .closed head line stream with
  | case1 head line =>
    simp only [endOfHead]
    split
    · exact nofun
    · split <;> exact nofun
  | case2 | case4 => exact nofun
  | case3 _ _ _ _ _ _ _ ih | case5 _ _ _ _ _ _ ih | case6 _ _ _ _ _ ih => exact ih

/-- A closed stream starves nobody. -/
theorem not_starved_of_closed {cause : Fault} : takeResponse .closed stream ≠ (.starved cause, rest) := by
  intro h
  cases takes_of_takeResponse h with
  | starved hhead => exact takeHead_closed_ne_starved _ _ _ hhead
  | waiting _ _ _ _ hsilent => cases hsilent

/-- A reader **breaks down** exactly where the next head announces a body beyond all memory. -/
theorem brokeDown_iff :
    (∃ message, (takeResponse ending stream).1 = .brokeDown message) ↔ Overreaches ending stream := by
  constructor
  · rintro ⟨message, h⟩
    have htakes := takes_takeResponse ending stream
    rw [h] at htakes
    cases htakes with
    | brokeDown hhead hread hover => exact ⟨_, _, _, hhead, hread, hover⟩
  · rintro ⟨text, behind, r, hhead, hread, hover⟩
    have hsome : r.bodyLength ≠ 0 := Nat.ne_of_gt (Nat.lt_of_le_of_lt (Nat.zero_le _) hover)
    refine ⟨"capacity overflow".toList, ?_⟩
    simp only [takeResponse, hhead, hread, takeBody_eq, if_neg hsome, if_pos hover]

end OneRead

/-! ## Rows of reads -/

/-- What the first **reads** of a stream give, each going on where the one before has stopped. -/
def readings (ending : Ending) : Nat → Bytes → List Reading
  | 0, _ => []
  | n + 1, stream =>
    (takeResponse ending stream).1 :: readings ending n (takeResponse ending stream).2

/-- What some reads **leave** of a stream. -/
def leftover (ending : Ending) : Nat → Bytes → Bytes
  | 0, stream => stream
  | n + 1, stream => leftover ending n (takeResponse ending stream).2

/-- A stream **leads** to another when a reader that goes on after responses only comes from the one
to the other. -/
inductive Leads (ending : Ending) : Bytes → Bytes → Prop where
  | here (stream : Bytes) : Leads ending stream stream
  | next {stream rest later : Bytes} {r : Response}
      (h : takeResponse ending stream = (.response r, rest)) (hrest : Leads ending rest later) :
      Leads ending stream later

/-- A reading is one of the first few exactly if one of the first few calls comes to it. -/
theorem mem_readings_iff {ending : Ending} {n : Nat} {stream : Bytes} {reading : Reading} :
    reading ∈ readings ending n stream ↔
      ∃ k < n, (takeResponse ending (leftover ending k stream)).1 = reading := by
  induction n generalizing stream with
  | zero => simp [readings]
  | succ n ih =>
    rw [readings, List.mem_cons, ih]
    constructor
    · rintro (rfl | ⟨k, hk, h⟩)
      · exact ⟨0, Nat.succ_pos n, rfl⟩
      · exact ⟨k + 1, Nat.succ_lt_succ hk, h⟩
    · rintro ⟨k, hk, h⟩
      cases k with
      | zero => exact .inl h.symm
      | succ k => exact .inr ⟨k, Nat.lt_of_succ_lt_succ hk, h⟩

end MediaProxy.Rtsp
