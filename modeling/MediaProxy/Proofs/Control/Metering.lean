import Mathlib.Algebra.Ring.Nat
import MediaProxy.Control.Load
import MediaProxy.Proofs.Amp.Dressing
import MediaProxy.Proofs.Control.Receiving

/-!
# The account of a load

A counter of load knows of a load what the numbers of its packets say. Every number counts as
received, and what it is beyond the number expected counts as missed (`Accounts`). Both totals wrap
at sixty-four bits; the number expected stays at the last one there is.

Of a load whose numbers ascend the account is exact (`load_accounted`): received and missed together
are all numbers up to the last, however large that is. What carries the proof is that they are so
from any expected number on that is not beyond the first (`sum_gaps_add_length`). The number
expected stops short only after the last number of all, when nothing can follow in ascending order.
-/

namespace MediaProxy.Control

open Amp (LoadReport Packet)

namespace LoadCount

variable {l l' : LoadCount} {expected last : ℕ} {numbers : List ℕ}

/-- The number that is expected after one: the next, or the last that there is. -/
def following (number : ℕ) : ℕ := min (number + 1) (2 ^ 64 - 1)

/-- **How much each of some numbers skips**, where a certain one is expected first. -/
def gaps (expected : ℕ) (numbers : List ℕ) : List ℕ :=
  List.zipWith (· - ·) numbers (expected :: numbers.map following)

/-- The gap before a number is what it is ahead of the one expected. -/
theorem gaps_cons (expected number : ℕ) (later : List ℕ) :
    gaps expected (number :: later) = (number - expected) :: gaps (following number) later := rfl

/-- Numbers that ascend from the one expected, together with those that they skip, are **all up to
the last**. -/
theorem sum_gaps_add_length (hascend : numbers.Pairwise (· < ·)) (hbound : ∀ n ∈ numbers, n < 2 ^ 64)
    (hexpected : ∀ n ∈ numbers, expected ≤ n) (hlast : numbers.getLast? = some last) :
    (gaps expected numbers).sum + numbers.length + expected = last + 1 := by
  induction numbers generalizing expected with
  | nil => cases hlast
  | cons number later ih =>
    obtain ⟨hbeyond, hlater⟩ := List.pairwise_cons.mp hascend
    have hfirst := hexpected number List.mem_cons_self
    cases later with
    | nil =>
      obtain rfl := Option.some.inj hlast
      rw [gaps_cons, List.sum_cons, List.length_singleton]
      show number - expected + 0 + 1 + expected = number + 1
      omega
    | cons second rest =>
      -- Another number follows, so this one is not the last of all.
      have hsecond := hbeyond second List.mem_cons_self
      have hlimit := hbound second (List.mem_cons_of_mem _ List.mem_cons_self)
      have hnext : following number = number + 1 := min_eq_left (by omega)
      have hfollow : ∀ n ∈ second :: rest, number + 1 ≤ n := hbeyond
      have hrest := ih hlater (fun n hn => hbound n (List.mem_cons_of_mem _ hn)) hfollow
        (List.getLast?_cons_cons.symm.trans hlast)
      rw [gaps_cons, hnext, List.sum_cons, List.length_cons]
      omega

/-- Both meters of a count run. -/
structure Counting (l : LoadCount) : Prop where
  received : l.received.stopped = false
  missed : l.missed.stopped = false

/-- **What some numbers add to a count.** -/
structure Accounts (numbers : List ℕ) (l l' : LoadCount) : Prop where
  received : l'.received.total = l.received.total + UInt64.ofNat numbers.length
  missed : l'.missed.total = l.missed.total + UInt64.ofNat (gaps l.expected.toNat numbers).sum
  /-- What is expected follows the last number, if there was one. -/
  expected : l'.expected.toNat = (numbers.map following).getLastD l.expected.toNat

/-- All that some reports add up to. -/
def addAll (seqs : List UInt64) (l : LoadCount) : LoadCount := seqs.foldl (fun l seq => l.add seq) l

/-! ## One number -/

/-- The number expected next is one more, as long as there is one. -/
theorem toNat_next (seq : UInt64) : (next seq).toNat = following seq.toNat := by
  have hlimit := seq.toNat_lt
  rw [next, following]
  split
  next hseq =>
    subst hseq
    rfl
  next hseq =>
    have hbelow : seq.toNat ≠ 2 ^ 64 - 1 := fun h => hseq (UInt64.toNat_inj.mp h)
    rw [UInt64.toNat_add]
    show (seq.toNat + 1) % 2 ^ 64 = _
    omega

/-- A meter that is not stopped adds what it is given. -/
theorem record_of_running {m : Meter} (h : m.stopped = false) (amount : UInt64) :
    m.record amount = m.add amount := if_neg (by rw [h]; exact nofun)

/-- A number skips what it is beyond the one expected, and nothing if it is not beyond. -/
theorem missed_add (h : Counting l) (seq : UInt64) :
    (l.add seq).missed.stopped = false ∧
      (l.add seq).missed.total = l.missed.total + UInt64.ofNat (seq.toNat - l.expected.toNat) := by
  rw [add]
  split
  next hbeyond =>
    have hgap : seq - l.expected = UInt64.ofNat (seq.toNat - l.expected.toNat) := by
      rw [← UInt64.toNat_sub_of_le _ _ (UInt64.le_of_lt hbeyond), UInt64.ofNat_toNat]
    have hrecord := record_of_running h.missed (seq - l.expected)
    refine ⟨?_, ?_⟩
    · show (l.missed.record (seq - l.expected)).stopped = false
      rw [hrecord]
      exact h.missed
    · show (l.missed.record (seq - l.expected)).total = _
      rw [hrecord, hgap]
      rfl
  next hbeyond =>
    have hgap : seq.toNat - l.expected.toNat = 0 :=
      Nat.sub_eq_zero_of_le (UInt64.le_iff_toNat_le.mp (UInt64.not_lt.mp hbeyond))
    rw [hgap]
    exact ⟨h.missed, (UInt64.add_zero _).symm⟩

/-- A counter stays a counter, whatever number comes in. -/
theorem Counting.add (h : Counting l) (seq : UInt64) : Counting (l.add seq) where
  received := by
    rw [LoadCount.add, record_of_running h.received]
    exact h.received
  missed := (missed_add h seq).1

theorem Accounts.nil (l : LoadCount) : Accounts [] l l :=
  ⟨(UInt64.add_zero _).symm, (UInt64.add_zero _).symm, rfl⟩

/-- A number is **counted ahead of others**. -/
theorem Accounts.cons (h : Counting l) {seq : UInt64} (hlater : Accounts numbers (l.add seq) l') :
    Accounts (seq.toNat :: numbers) l l' := by
  have hexpected : (l.add seq).expected.toNat = following seq.toNat := toNat_next seq
  refine ⟨?_, ?_, ?_⟩
  · have hone : (l.add seq).received.total = l.received.total + 1 :=
      congrArg Meter.total (record_of_running h.received 1)
    rw [hlater.received, hone, List.length_cons, Nat.add_comm, UInt64.ofNat_add, UInt64.add_assoc]
    rfl
  · rw [hlater.missed, (missed_add h seq).2, hexpected, gaps_cons, List.sum_cons, UInt64.ofNat_add,
      UInt64.add_assoc]
  · rw [hlater.expected, hexpected, List.map_cons, List.getLastD_cons]

/-- A count whose meters run **accounts for all numbers** that are reported to it. -/
theorem accounts_addAll (h : Counting l) (seqs : List UInt64) :
    Accounts (seqs.map UInt64.toNat) l (l.addAll seqs) := by
  induction seqs generalizing l with
  | nil => exact .nil l
  | cons seq later ih => exact .cons h (ih (h.add seq))

/-- A count from the start has the totals of the numbers, in sixty-four bits. -/
theorem Accounts.totals (h : Accounts numbers .start l) :
    l.received.total.toNat = numbers.length % 2 ^ 64 ∧
      l.missed.total.toNat = (gaps 0 numbers).sum % 2 ^ 64 := by
  constructor
  · rw [h.received]
    exact congrArg UInt64.toNat (UInt64.zero_add _)
  · rw [h.missed]
    exact congrArg UInt64.toNat (UInt64.zero_add _)

/-- A count from the start is **exact** if the numbers ascend. -/
theorem Accounts.exact_of_ascending (h : Accounts numbers .start l) (hascend : numbers.Pairwise (· < ·))
    (hbound : ∀ n ∈ numbers, n < 2 ^ 64) (hlast : numbers.getLast? = some last) :
    numbers.length + l.missed.total.toNat = last + 1 ∧
      (numbers.length ≠ 2 ^ 64 → l.received.total.toNat + l.missed.total.toNat = last + 1) := by
  obtain ⟨hreceived, hmissed⟩ := h.totals
  have hall := sum_gaps_add_length hascend hbound (fun _ _ => Nat.zero_le _) hlast
  have hmember : last ∈ numbers := List.mem_of_getLast? hlast
  have hsome : 0 < numbers.length := List.length_pos_of_mem hmember
  have hlimit := hbound last hmember
  rw [hreceived, hmissed]
  omega

end LoadCount

open LoadCount

variable {s : Server Unit} {datagram : Bytes} {packet : Packet}

/-- The number that a server reads from a datagram, if it reports one. -/
def reported? (datagram : Bytes) : Option UInt64 :=
  (Amp.received? LoadReport.ofPacket? (datagram.take largestDatagram)).map LoadReport.seq

/-- Counts one datagram after the other, and says what became of each. -/
def attendLoad (s : Server Unit) : List Bytes → LoadCount → List Exchange × LoadCount
  | [], l => ([], l)
  | datagram :: later, l =>
    let (exchange, l) := receiveLoad s datagram l
    let (exchanges, l) := attendLoad s later l
    (exchange :: exchanges, l)

/-- A datagram that does not parse reports no load. -/
theorem reported?_of_error {defect : Defect}
    (h : Packet.parse (datagram.take largestDatagram) = .error defect) : reported? datagram = none := by
  rw [reported?, Amp.received?, h]
  rfl

/-- A datagram that parses reports load if its packet does. -/
theorem reported?_of_ok (h : Packet.parse (datagram.take largestDatagram) = .ok packet) :
    reported? datagram = (LoadReport.ofPacket? packet).map LoadReport.seq := by
  rw [reported?, Amp.received?, h]
  rfl

theorem LoadCount.handle_eq (packet : Packet) (l : LoadCount) :
    l.handle packet = ((LoadReport.ofPacket? packet).map LoadReport.seq).elim l fun seq => l.add seq := by
  rw [LoadCount.handle]
  cases LoadReport.ofPacket? packet <;> rfl

/-- A datagram is **counted by the number that it reports**, and never answered. -/
theorem receiveLoad_eq (hrunning : s.running = true) (hload : s.handler? .load = some ())
    (datagram : Bytes) (l : LoadCount) :
    (receiveLoad s datagram l).1.reply = none ∧
      (receiveLoad s datagram l).2 = (reported? datagram).elim l fun seq => l.add seq := by
  cases hdispatch : s.dispatch datagram with
  | some served =>
    obtain ⟨_, packet⟩ := served
    have hparse := (Server.dispatch_eq_some_iff.mp hdispatch).1
    rw [receiveLoad, Server.receive_of_dispatch _ l hrunning hdispatch, reported?_of_ok hparse]
    exact ⟨rfl, LoadCount.handle_eq packet l⟩
  | none =>
    rw [receiveLoad, Server.receive_of_not_dispatch _ l hdispatch]
    suffices hnone : reported? datagram = none by
      rw [hnone]
      exact ⟨rfl, rfl⟩
    cases hparse : Packet.parse (datagram.take largestDatagram) with
    | error defect => exact reported?_of_error hparse
    | ok packet =>
      -- Whatever reports a number has the code of load, which is served.
      rw [reported?_of_ok hparse, Option.map_eq_none_iff, Option.eq_none_iff_forall_ne_some]
      intro report hreport
      have hcode := (LoadReport.ofPacket?_eq_some_iff.mp hreport).1
      have hserved := Server.dispatch_eq_some_iff.mpr ⟨hparse, hcode ▸ hload⟩
      exact absurd (hdispatch.symm.trans hserved) nofun

/-- A server that attends load replies to nothing and counts every report, in order. -/
theorem attendLoad_eq (hrunning : s.running = true) (hload : s.handler? .load = some ())
    (datagrams : List Bytes) (l : LoadCount) :
    (∀ exchange ∈ (attendLoad s datagrams l).1, exchange.reply = none) ∧
      (attendLoad s datagrams l).2 = l.addAll (datagrams.filterMap reported?) := by
  induction datagrams generalizing l with
  | nil => exact ⟨nofun, rfl⟩
  | cons datagram later ih =>
    obtain ⟨hreply, hcount⟩ := receiveLoad_eq hrunning hload datagram l
    obtain ⟨hreplies, hcounts⟩ := ih (receiveLoad s datagram l).2
    refine ⟨List.forall_mem_cons.mpr ⟨hreply, hreplies⟩, ?_⟩
    rw [attendLoad]
    show (attendLoad s later (receiveLoad s datagram l).2).2 = _
    rw [hcounts, hcount]
    cases hreported : reported? datagram with
    | none => rw [List.filterMap_cons_none hreported, Option.elim_none]
    | some seq =>
      rw [List.filterMap_cons_some hreported]
      rfl

/-- **A load is accounted for.** Whatever datagrams reach a running server that counts load, none of them
is answered, and one that reports no number leaves the count as it was. The numbers reported, in their
order, make the totals: as many as there are have been received, and what each is beyond the number
expected has been missed, both in sixty-four bits; the number expected is 0 at first, and after each
number the next one, or the last that there is.

If the numbers ascend, those received and missed are together exactly all numbers up to the last. The
total of the missed never wraps then, and that of the received would only do so in the one load that
misses none of the `2 ^ 64` numbers there are. -/
theorem load_accounted (s : Server Unit) (hrunning : s.running = true)
    (hload : s.handler? .load = some ()) :
    (∀ datagram l, reported? datagram = none → (receiveLoad s datagram l).2 = l) ∧
    ∀ datagrams : List Bytes,
      let numbers := (datagrams.filterMap reported?).map UInt64.toNat
      let l := (attendLoad s datagrams .start).2
      (∀ exchange ∈ (attendLoad s datagrams .start).1, exchange.reply = none) ∧
      l.received.total.toNat = numbers.length % 2 ^ 64 ∧
      l.missed.total.toNat = (gaps 0 numbers).sum % 2 ^ 64 ∧
      l.expected.toNat = (numbers.map following).getLastD 0 ∧
      ∀ last, numbers.Pairwise (· < ·) → numbers.getLast? = some last →
        numbers.length + l.missed.total.toNat = last + 1 ∧
        (numbers.length ≠ 2 ^ 64 → l.received.total.toNat + l.missed.total.toNat = last + 1) := by
  refine ⟨fun datagram l hnone => ?_, fun datagrams => ?_⟩
  · rw [(receiveLoad_eq hrunning hload datagram l).2, hnone, Option.elim_none]
  intro numbers
  obtain ⟨hreplies, hcount⟩ := attendLoad_eq hrunning hload datagrams .start
  have haccounts : Accounts numbers .start (attendLoad s datagrams .start).2 := by
    rw [hcount]
    exact accounts_addAll ⟨rfl, rfl⟩ _
  have hbound : ∀ n ∈ numbers, n < 2 ^ 64 := by
    intro n hn
    obtain ⟨seq, -, rfl⟩ := List.mem_map.mp hn
    exact seq.toNat_lt
  exact ⟨hreplies, haccounts.totals.1, haccounts.totals.2, haccounts.expected,
    fun last hascend hlast => haccounts.exact_of_ascending hascend hbound hlast⟩

/-- A server that counts load and nothing else. -/
def loadOnly : Server Unit := ⟨⟨.v4 127 0 0 1, 5005, 0⟩, loadHandlers (), true⟩

/-- A datagram of load with some text for its number. -/
def loadDatagram (number : Text) : Bytes :=
  Text.toBytes (Packet.mk .load [("Seq-No".toList, number)]).render

/-- A load datagram reports the number in it, if that is one. -/
theorem reported?_loadDatagram {number : Text} (hnumber : Text.Sayable number)
    (hfits : (loadDatagram number).length ≤ largestDatagram) :
    reported? (loadDatagram number) = Text.readUInt64? number := by
  have hwell : (Packet.mk .load [("Seq-No".toList, number)]).WellFormed :=
    ⟨trivial, List.forall_mem_singleton.mpr (Amp.plain_of_sayable (by decide) hnumber)⟩
  have hparse := hwell.parse_render
  rw [← loadDatagram, ← List.take_of_length_le hfits] at hparse
  rw [reported?_of_ok hparse]
  cases hread : Text.readUInt64? number with
  | some seq =>
    have hreport : LoadReport.ofPacket? ⟨.load, [("Seq-No".toList, number)]⟩ = some ⟨seq⟩ :=
      LoadReport.ofPacket?_eq_some_iff.mpr ⟨rfl, hread⟩
    rw [hreport, Option.map_some]
  | none =>
    rw [Option.map_eq_none_iff, Option.eq_none_iff_forall_ne_some]
    intro report hreport
    have hnumbered := (LoadReport.ofPacket?_eq_some_iff.mp hreport).2
    exact absurd (hread.symm.trans hnumbered) nofun

/-- The numerals of three packets of load, the last that of the last number there is, and a word
between them. -/
def sparse : List Text := ["0".toList, "2".toList, "many".toList, "18446744073709551615".toList]

theorem filterMap_reported?_sparse :
    (sparse.map loadDatagram).filterMap reported? = [0, 2, 18446744073709551615] := by
  have hsayable : ∀ number ∈ sparse, Text.Sayable number := by decide
  have hfits : ∀ number ∈ sparse, (loadDatagram number).length ≤ largestDatagram := by decide
  calc (sparse.map loadDatagram).filterMap reported?
      = sparse.filterMap (reported? ∘ loadDatagram) := List.filterMap_map ..
    _ = sparse.filterMap Text.readUInt64? := List.filterMap_congr fun number hnumber =>
        reported?_loadDatagram (hsayable number hnumber) (hfits number hnumber)
    _ = [0, 2, 18446744073709551615] := by rfl

/-- Of a load that reaches the last number, three packets are received and all others missed. -/
theorem load_accounted_to_the_last :
    loadOnly.running = true ∧ loadOnly.handler? .load = some () ∧
      (attendLoad loadOnly (sparse.map loadDatagram) .start).2.received.total.toNat = 3 ∧
      (attendLoad loadOnly (sparse.map loadDatagram) .start).2.missed.total.toNat = 2 ^ 64 - 3 := by
  obtain ⟨-, hreceived, -, -, hexact⟩ := (load_accounted loadOnly rfl rfl).2 (sparse.map loadDatagram)
  have hnumbers : [0, 2, 18446744073709551615].map UInt64.toNat = [0, 2, 18446744073709551615] := rfl
  rw [filterMap_reported?_sparse, hnumbers] at hreceived hexact
  obtain ⟨hall, -⟩ := hexact 18446744073709551615 (by simp) rfl
  have hcount : [0, 2, 18446744073709551615].length = 3 := rfl
  rw [hcount] at hall
  exact ⟨rfl, rfl, hreceived, by omega⟩

end MediaProxy.Control
