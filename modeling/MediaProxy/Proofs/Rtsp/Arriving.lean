import MediaProxy.Proofs.Rtsp.Reading

/-!
# Reads while more arrives

A client reads what has come of a stream, and more may come afterwards. What it has read then is
still right: a response that stands whole on a part of a stream stands on the stream, and leaves of
it what it leaves of the part and what has come since (`Grows.takeResponse`). So it makes no
difference to a row of responses when each of them was read (`Grows.after`): they are those that one
reads off all of the stream.

The same goes for what is no response, with one exception. A reader that is starved finds more when
it reads again.
-/

namespace MediaProxy.Rtsp

section Heads

variable {head : Text} {line stream rest : Bytes} {r : Response}

/-- What a read of a head has come to, with more octets **behind** it. -/
def HeadReading.followedBy (more : Bytes) : HeadReading → HeadReading
  | .head text rest => .head text (rest ++ more)
  | .fault cause rest => .fault cause (rest ++ more)
  | .over => .over
  | .starved => .starved

/-- A head that has arrived, or the reason why there is none, is read the same whatever arrives
behind it. -/
theorem takeHead_followedBy (ending : Ending) (more : Bytes)
    (h : takeHead .silent head line stream ≠ .starved) :
    takeHead ending head line (stream ++ more) =
      (takeHead .silent head line stream).followedBy more := by
  fun_induction takeHead .silent head line stream with
  | case1 => exact absurd rfl h
  | case2 head line rest' htext =>
    rw [List.cons_append, takeHead, if_pos rfl, htext]
    rfl
  | case3 head line rest' text' htext hempty hblank ih =>
    rw [List.cons_append, takeHead, if_pos rfl, htext]
    simpa [hempty, hblank] using ih h
  | case4 head line rest' text' htext hempty hblank =>
    rw [List.cons_append, takeHead, if_pos rfl, htext]
    simp [hempty, hblank, HeadReading.followedBy]
  | case5 head line rest' text' htext hempty ih =>
    rw [List.cons_append, takeHead, if_pos rfl, htext]
    simpa [hempty] using ih h
  | case6 head line b rest' hb ih =>
    rw [List.cons_append, takeHead, if_neg hb]
    exact ih h

/-- As long as a stream is not closed it is not over. -/
theorem takeHead_silent_ne_over (head : Text) (line stream : Bytes) :
    takeHead .silent head line stream ≠ .over := by
  fun_induction takeHead .silent head line stream with
  | case1 => simp [endOfHead]
  | case2 | case4 => simp
  | case3 _ _ _ _ _ _ _ ih | case5 _ _ _ _ _ _ ih | case6 _ _ _ _ _ ih => exact ih

/-- What a read of a body has come to is read the same whatever arrives behind it. -/
theorem takeBody_append (ending : Ending) (more : Bytes) {reading : Reading}
    (h : takeBody .silent r stream = (reading, rest)) (hne : ∀ cause, reading ≠ .starved cause) :
    takeBody ending r (stream ++ more) = (reading, rest ++ more) := by
  rw [takeBody_eq] at h ⊢
  by_cases hnone : r.bodyLength = 0
  · rw [if_pos hnone] at h ⊢
    cases h
    rfl
  · rw [if_neg hnone] at h ⊢
    by_cases hover : largestBody < r.bodyLength
    · rw [if_pos hover] at h ⊢
      cases h
      rfl
    · rw [if_neg hover] at h ⊢
      by_cases hshort : stream.length < r.bodyLength
      · rw [if_pos hshort] at h
        exact absurd (congrArg Prod.fst h).symm (hne _)
      · -- The body had come as a whole, so it is the beginning of what is there now.
        have hwhole : ¬(stream ++ more).length < r.bodyLength := by
          rw [List.length_append]
          omega
        have hle := Nat.le_of_not_lt hshort
        rw [if_neg hshort] at h
        rw [if_neg hwhole, List.take_append_of_le_length hle, List.drop_append_of_le_length hle]
        cases h
        rfl

/-- What a read has come to is read the same whatever arrives behind it, unless the reader was
starved. -/
theorem takeResponse_append (ending : Ending) (more : Bytes) {reading : Reading}
    (h : takeResponse .silent stream = (reading, rest)) (hne : ∀ cause, reading ≠ .starved cause) :
    takeResponse ending (stream ++ more) = (reading, rest ++ more) := by
  unfold takeResponse at h ⊢
  cases hhead : takeHead .silent [] [] stream with
  | «over» => exact absurd hhead (takeHead_silent_ne_over _ _ _)
  | starved =>
    rw [hhead] at h
    exact absurd (congrArg Prod.fst h).symm (hne _)
  | fault cause behind =>
    rw [takeHead_followedBy ending more (by simp [hhead]), hhead]
    rw [hhead] at h
    cases h
    rfl
  | head text behind =>
    rw [takeHead_followedBy ending more (by simp [hhead]), hhead]
    simp only [hhead, HeadReading.followedBy] at h ⊢
    cases hread : Response.ofHead text with
    | error defect =>
      rw [hread] at h
      cases h
      rfl
    | ok r =>
      rw [hread] at h
      exact takeBody_append ending more h hne

end Heads

/-! ## Streams that grow -/

/-- What has **come of a stream** so far, and how it ends. -/
structure Feed where
  stream : Bytes
  ending : Ending
  deriving DecidableEq, Repr

namespace Feed

/-- What a number of reads leave. -/
def after (k : Nat) (f : Feed) : Feed := ⟨leftover f.ending k f.stream, f.ending⟩

/-- What a read gives, when a number of reads went before. -/
def reading (f : Feed) (k : Nat) : Reading := (takeResponse f.ending (f.after k).stream).1

/-- One more reading leaves what it leaves of what there was. -/
theorem leftover_succ (ending : Ending) (k : Nat) (stream : Bytes) :
    leftover ending (k + 1) stream = (takeResponse ending (leftover ending k stream)).2 := by
  induction k generalizing stream with
  | zero => rfl
  | succ k ih => exact ih _

/-- What the next read leaves is what one more read leaves. -/
theorem after_succ (k : Nat) (f : Feed) :
    f.after (k + 1) = ⟨(takeResponse f.ending (f.after k).stream).2, f.ending⟩ :=
  congrArg (fun stream => Feed.mk stream f.ending) (leftover_succ f.ending k f.stream)

/-- One feed **grows** into another as some octets arrive, none if it is closed. -/
structure Grows (f : Feed) (more : Bytes) (f' : Feed) : Prop where
  stream : f'.stream = f.stream ++ more
  closed : f.ending = .closed → more = [] ∧ f'.ending = .closed

variable {f f' : Feed} {more rest : Bytes} {reading : Reading} {k : Nat}

/-- What was read is what one reads off the stream, unless the reader was starved. -/
theorem Grows.takeResponse (h : Grows f more f')
    (hread : takeResponse f.ending f.stream = (reading, rest))
    (hne : ∀ cause, reading ≠ .starved cause) :
    takeResponse f'.ending f'.stream = (reading, rest ++ more) := by
  cases hending : f.ending with
  | closed =>
    obtain ⟨rfl, hclosed⟩ := h.closed hending
    rw [h.stream, hclosed, List.append_nil, List.append_nil, ← hending]
    exact hread
  | silent =>
    rw [h.stream]
    exact takeResponse_append f'.ending more (hending ▸ hread) hne

/-- A row of responses that were read is a row of responses of the stream, and what is left has
grown as the stream has. -/
theorem Grows.after (h : Grows f more f') (hread : ∀ j < k, ∃ r, f.reading j = .response r) :
    Grows (f.after k) more (f'.after k) ∧ ∀ j < k, f'.reading j = f.reading j := by
  induction k with
  | zero => exact ⟨h, fun j hj => absurd hj (Nat.not_lt_zero j)⟩
  | succ k ih =>
    obtain ⟨hgrows, hsame⟩ := ih fun j hj => hread j (Nat.lt_succ_of_lt hj)
    obtain ⟨r, hr⟩ := hread k (Nat.lt_succ_self k)
    have htake : Rtsp.takeResponse (f.after k).ending (f.after k).stream =
        (.response r, (f.after (k + 1)).stream) := by
      rw [after_succ]
      exact Prod.ext hr rfl
    have htake' := hgrows.takeResponse htake nofun
    refine ⟨⟨?_, h.closed⟩, fun j hj => ?_⟩
    · rw [after_succ k f']
      exact congrArg Prod.snd htake'
    · rcases Nat.lt_succ_iff_lt_or_eq.mp hj with hj | rfl
      · exact hsame j hj
      · exact (congrArg Prod.fst htake').trans hr.symm

end Feed

end MediaProxy.Rtsp
