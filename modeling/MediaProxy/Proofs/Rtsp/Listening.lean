import MediaProxy.Proofs.Rtsp.Reading
import MediaProxy.Rtsp.Observed

/-!
# Listening to the end

A client that listens to a closed stream comes to the end of its session, and whoever observes it
learns so, unless its reader breaks down on the way. What the server sends decides that alone: the
reads of a stream come to no harm, and the client that listens to it is finished, exactly as long as
no head on the way announces a body beyond all memory (`reads_survive_iff`). A server that sends
such a head takes the reader down, and the end of the session is not told (`reader_breaks_down`).
-/

namespace MediaProxy.Rtsp

/-- All that a stream leads to is the stream and what a response on it leads to. -/
theorem forall_leads_iff {ending : Ending} {stream : Bytes} {P : Bytes → Prop} :
    (∀ later, Leads ending stream later → P later) ↔
      P stream ∧ ∀ r rest, takeResponse ending stream = (.response r, rest) →
        ∀ later, Leads ending rest later → P later := by
  constructor
  · exact fun h => ⟨h stream (.here stream), fun r rest htake later hlater => h later (.next htake hlater)⟩
  · rintro ⟨hhere, hnext⟩ later hlater
    cases hlater with
    | here => exact hhere
    | next htake hrest => exact hnext _ _ htake later hrest

/-- A client that listens to a closed stream **finishes** unless a head on the way overreaches. -/
theorem Client.listenFor_finished_iff {n : Nat} {c : Connection} (t : Transcripts)
    (hclosed : c.ending = .closed) (hn : c.unread.length < n) :
    (listenFor n c t).1 = .finished ↔
      ∀ later, Leads .closed c.unread later → ¬Overreaches .closed later := by
  induction n generalizing c t with
  | zero => exact absurd hn (Nat.not_lt_zero _)
  | succ n ih =>
    obtain ⟨reading, rest, htake⟩ : ∃ reading rest, takeResponse .closed c.unread = (reading, rest) :=
      ⟨_, _, rfl⟩
    have hhear : c.hear = (reading, { c with unread := rest }) := by rw [Connection.hear, hclosed, htake]
    have hbroken : Overreaches .closed c.unread ↔ ∃ message, reading = .brokeDown message := by
      rw [← brokeDown_iff, htake]
    rw [listenFor, hhear, forall_leads_iff, htake, hbroken]
    cases reading with
    | response r =>
      -- A response is the one reading after which the client listens on, with fewer octets left.
      have hrest : rest.length < n :=
        Nat.lt_of_lt_of_le (length_lt_of_response htake) (Nat.lt_succ_iff.mp hn)
      have hlater := ih (c := { c with unread := rest }) (t.record c.log heardMark r.statusLine)
        hclosed hrest
      simpa using hlater
    | fault cause => simp
    | «over» => simp
    | starved cause => exact absurd htake not_starved_of_closed
    | brokeDown message => simp

/-- The latch of a client is done exactly if it was or the client has finished. -/
theorem Observed.settle_isDone (o : Observed) :
    o.settle.latch.isDone = true ↔ o.latch.isDone = true ∨ o.client.life = .finished := by
  unfold settle Latch.finish
  by_cases hlife : o.client.life = .finished
  · cases hdone : o.latch.isDone <;> simp [hlife, hdone, Latch.finished]
  · simp [hlife]

/-- Whoever observes a client whose server has hung up **learns of its end** unless a head on the
way overreaches. -/
theorem Observed.receive_isDone_iff (o : Observed) (sent : Bytes) (t : Transcripts)
    (hplaying : o.client.life = .playing) (hclosed : o.client.connection.ending = .closed) :
    (o.receive sent t).1.latch.isDone = true ↔
      o.latch.isDone = true ∨
        ∀ later, Leads .closed (o.client.connection.unread ++ sent) later → ¬Overreaches .closed later := by
  have hlisten := Client.listenFor_finished_iff
    (c := { o.client.connection with unread := o.client.connection.unread ++ sent })
    t hclosed (Nat.lt_succ_self _)
  rw [Observed.receive, Observed.settle_isDone, ← hlisten]
  simp only [Client.receive, Client.listen, hplaying, if_true]

/-- **A server's octets bring a reader down in one way only.** The reads of a stream all come to a
response, a fault or the end exactly as long as none of them meets a head that announces a body
beyond all memory. And a client that listens to the stream, its server having hung up, is finished
exactly as long as no head up to the first fault announces such a body. -/
theorem reads_survive_iff (stream : Bytes) :
    (∀ ending, (∀ n message, .brokeDown message ∉ readings ending n stream) ↔
      ∀ k, ¬Overreaches ending (leftover ending k stream)) ∧
    ∀ (o : Observed) (sent : Bytes) (t : Transcripts), o.client.life = .playing →
      o.client.connection.ending = .closed → o.client.connection.unread ++ sent = stream →
      ((o.receive sent t).1.latch.isDone = true ↔
        o.latch.isDone = true ∨ ∀ later, Leads .closed stream later → ¬Overreaches .closed later) := by
  constructor
  · intro ending
    constructor
    · intro h k hover
      obtain ⟨message, hbroken⟩ := brokeDown_iff.mpr hover
      exact h (k + 1) message (mem_readings_iff.mpr ⟨k, Nat.lt_succ_self k, hbroken⟩)
    · intro h n message hmem
      obtain ⟨k, -, hbroken⟩ := mem_readings_iff.mp hmem
      exact h k (brokeDown_iff.mp ⟨message, hbroken⟩)
  · rintro o sent t hplaying hclosed rfl
    exact o.receive_isDone_iff sent t hplaying hclosed

/-- A head that announces one octet more than memory can be asked for. -/
def boast : Bytes :=
  Text.toBytes "RTSP/1.0 200 OK\r\nContent-Length: 9223372036854775808\r\n\r\n".toList

theorem takeResponse_boast :
    (takeResponse .closed boast).1 = .brokeDown "capacity overflow".toList := by decide +kernel

/-- The first read of that head breaks the reader down, and a client that is sent it is not
finished, although its server has hung up. -/
theorem reader_breaks_down :
    readings .closed 1 boast = [.brokeDown "capacity overflow".toList] ∧
      ∀ (o : Observed) (t : Transcripts), o.client.life = .playing →
        o.client.connection.ending = .closed → o.client.connection.unread = [] →
        o.latch.isDone = false → (o.receive boast t).1.latch.isDone = false := by
  constructor
  · rw [readings, readings, takeResponse_boast]
  · intro o t hplaying hclosed hunread hfresh
    have hover : Overreaches .closed boast := brokeDown_iff.mp ⟨_, takeResponse_boast⟩
    rw [← Bool.not_eq_true, o.receive_isDone_iff boast t hplaying hclosed, hunread, hfresh]
    rintro (hdone | hsafe)
    · cases hdone
    · exact hsafe boast (.here boast) hover

end MediaProxy.Rtsp
