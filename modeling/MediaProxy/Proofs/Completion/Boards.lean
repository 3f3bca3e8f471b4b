import Mathlib.Data.List.Pairwise
import MediaProxy.Completion.Board
import MediaProxy.Proofs.Completion.Telling
import MediaProxy.Proofs.Runs

/-!
# What is done on a board

Several latches and trackers, with everybody who registers, looks, waits, finishes and lets go, in
any order (`Act`, `Step`). What has been done is kept in a **tally** (`tally`): who registered with
which latch, which latches were finished or dropped, how many notices each signal gave.

What carries all that is said of a board is its **account** (`Accounts`): the tally decides what
every latch has on its list and in which state every signal is (`Signal.Stands`). Each way to
register is a series of single registrations (`Enrols`, `run_observeAll`, `run_waitForAny`), so
there is one lemma for a registration, one for the end of a latch, one for its loss and one for a
look.

What is NOT decided here. A wait that finds nothing is no step: it goes on until it finds something,
and the step is its return. So a wait for any of several latches that has to wait is two steps, the
registrations and the return of the wait for their signals; `Step.waitsForAny` is the wait that
finds one of the latches done.
-/

namespace MediaProxy.Board

variable {b b' : Board} {i j : Nat} {t : TrackerId} {s : SignalId} {l : Latch}

/-! ## What can be done -/

/-- One thing that is **done on a board**, with what it came to. -/
inductive Act where
  /-- A tracker is registered with a latch, and a signal is given out. -/
  | observes (latch : Nat) (tracker : TrackerId) (signal : SignalId)
  /-- A tracker is registered with several latches, each of which gives a signal out. -/
  | observesAll (tracker : TrackerId) (latches : List Nat) (signals : List SignalId)
  /-- A tracker is registered with several latches, and a wait for any of them returns at a
  position. -/
  | waitsForAny (tracker : TrackerId) (latches : List Nat) (position : Nat)
  /-- The work of a latch is done, by itself or because it was asked to stop. -/
  | finishes (latch : Nat) (news : Bool)
  | drops (latch : Nat)
  /-- Somebody counts work of his own. -/
  | adds (tracker : TrackerId)
  | dones (tracker : TrackerId)
  /-- Somebody looks at a signal and takes the notice that is there, if there is one. -/
  | polls (signal : SignalId) (found : Signal)
  /-- A wait for any of several signals returns at a position, having found its signal so. -/
  | waits (signals : List SignalId) (position : Nat) (found : Signal)
  deriving DecidableEq, Repr

/-- Those of some latches that are not gone. -/
def present (b : Board) (latches : List Nat) : List Nat :=
  latches.filter fun i => (b.latch? i).isSome

/-- A wait for any of several latches may return at once at a position, and leaves the board so: the
latch at the position is done. -/
def WaitForAny (b : Board) (t : TrackerId) (latches : List Nat) (position : Nat) (after : Board) :
    Prop :=
  (∃ i l, (b.present latches)[position]? = some i ∧ b.latch? i = some l ∧ l.isDone = true) ∧
    after = (b.present latches).foldl (fun b i => b.observeUnheard i t) b

/-- The **steps** of a board. Trackers and signals are such as there are. -/
inductive Step (b : Board) : Act → Board → Prop where
  | observes {i : Nat} {t : TrackerId} {s : SignalId} {b' : Board}
      (counts : t < b.observers.pending.length) (observed : b.observe i t = some (s, b')) :
      Step b (.observes i t s) b'
  | observesAll {t : TrackerId} (latches : List Nat) (counts : t < b.observers.pending.length) :
      Step b (.observesAll t (b.present latches) (b.observeAll t latches).1)
        (b.observeAll t latches).2
  | waitsForAny {t : TrackerId} {latches : List Nat} {position : Nat} {b' : Board}
      (counts : t < b.observers.pending.length) (returns : b.WaitForAny t latches position b') :
      Step b (.waitsForAny t (b.present latches) position) b'
  | finishes {i : Nat} {news : Bool} {b' : Board} (finished : b.finish i = some (news, b')) :
      Step b (.finishes i news) b'
  | drops {i : Nat} {b' : Board} (dropped : b.drop i = some b') : Step b (.drops i) b'
  | adds {t : TrackerId} (counts : t < b.observers.pending.length) :
      Step b (.adds t) { b with observers := b.observers.add t }
  | dones {t : TrackerId} (counts : t < b.observers.pending.length) :
      Step b (.dones t) { b with observers := b.observers.done t }
  | polls {s : SignalId} (given : s < b.observers.signals.length) :
      Step b (.polls s (b.observers.signal s)) { b with observers := (b.observers.take s).2 }
  | waits {signals : List SignalId} {position : Nat} {s : SignalId} {b' : Board}
      (given : ∀ s ∈ signals, s < b.observers.signals.length)
      (returns : b.WaitAny signals position b') (found : signals[position]? = some s) :
      Step b (.waits signals position (b.observers.signal s)) b'

/-! ## What has been done -/

namespace Act

/-- Who is registered with which latch. -/
def registered : Act → List (Nat × Registration)
  | .observes i t s => [(i, ⟨t, some s⟩)]
  | .observesAll t latches signals => List.zipWith (fun i s => (i, ⟨t, some s⟩)) latches signals
  | .waitsForAny t latches _ => latches.map fun i => (i, ⟨t, none⟩)
  | _ => []

def isRegistering : Act → Bool
  | .observes .. | .observesAll .. | .waitsForAny .. => true
  | _ => false

def isFinishOf (i : Nat) : Act → Bool
  | .finishes j _ => j = i
  | _ => false

/-- Whether a notice is taken from a signal. -/
def takes (s : SignalId) : Act → Bool
  | .polls s' found => s' = s && found = .raised
  | .waits signals position found => signals[position]? = some s && found = .raised
  | _ => false

end Act

/-- **What has been done** on a board. -/
structure Tally where
  /-- Who was registered with which latch, the latest last. -/
  registered : List (Nat × Registration)
  finished : Nat → Bool
  dropped : Nat → Bool
  /-- The notices that were taken from a signal. -/
  taken : SignalId → Nat
  adds : TrackerId → Nat
  dones : TrackerId → Nat

def tally (acts : List Act) : Tally where
  registered := acts.flatMap Act.registered
  finished i := acts.any (Act.isFinishOf i)
  dropped i := acts.any (· = .drops i)
  taken s := acts.countP (Act.takes s)
  adds t := acts.countP (· = .adds t)
  dones t := acts.countP (· = .dones t)

namespace Tally

variable (h : Tally)

/-- The registrations with a latch. -/
def registeredWith (i : Nat) : List Registration := (h.registered.filter (·.1 = i)).map Prod.snd

/-- Whether a registration of a tracker is with a latch that has not been finished. -/
def isOpen (t : TrackerId) (e : Nat × Registration) : Bool := e.2.tracker = t && !h.finished e.1

/-- How many registrations of a tracker are with latches that have not been finished. -/
def openOf (t : TrackerId) : Nat := h.registered.countP (h.isOpen t)

def register (es : List (Nat × Registration)) : Tally := { h with registered := h.registered ++ es }

def finish (i : Nat) : Tally := { h with finished := fun j => h.finished j || i = j }

def drop (i : Nat) : Tally := { h with dropped := fun j => h.dropped j || i = j }

def take (s : SignalId) (found : Signal) : Tally :=
  { h with taken := fun s' => h.taken s' + if s = s' ∧ found = .raised then 1 else 0 }

def add (t : TrackerId) : Tally := { h with adds := fun t' => h.adds t' + if t = t' then 1 else 0 }

def done (t : TrackerId) : Tally := { h with dones := fun t' => h.dones t' + if t = t' then 1 else 0 }

/-- The tally after one more act. -/
def next (act : Act) : Tally where
  registered := h.registered ++ act.registered
  finished i := h.finished i || act.isFinishOf i
  dropped i := h.dropped i || act = .drops i
  taken s := h.taken s + if act.takes s then 1 else 0
  adds t := h.adds t + if act = .adds t then 1 else 0
  dones t := h.dones t + if act = .dones t then 1 else 0

theorem registeredWith_register (e : Nat × Registration) :
    (h.register [e]).registeredWith i =
      if e.1 = i then h.registeredWith i ++ [e.2] else h.registeredWith i := by
  by_cases hi : e.1 = i <;> simp [registeredWith, register, List.filter_append, hi]

theorem taken_take_of_not {s' : SignalId} {found : Signal} (hn : ¬(s = s' ∧ found = .raised)) :
    (h.take s found).taken s' = h.taken s' := by
  simp [take, hn]

theorem mem_registeredWith {g : Registration} :
    g ∈ h.registeredWith i ↔ (i, g) ∈ h.registered := by
  simp only [registeredWith, List.mem_map, List.mem_filter, decide_eq_true_eq]
  constructor
  · rintro ⟨⟨_, _⟩, ⟨he, rfl⟩, rfl⟩
    exact he
  · intro he
    exact ⟨(i, g), ⟨he, rfl⟩, rfl⟩

/-- A registration keeps a tracker open by one if it is the tracker's and its latch is not done. -/
theorem openOf_register (e : Nat × Registration) :
    (h.register [e]).openOf t = h.openOf t + if h.isOpen t e then 1 else 0 := by
  simp only [openOf, register, List.countP_append, List.countP_singleton]
  rfl

theorem register_append (es es' : List (Nat × Registration)) :
    (h.register es).register es' = h.register (es ++ es') := by
  simp [register]

/-- To finish a latch that is finished is nothing new. -/
theorem finish_of_finished (hi : h.finished i = true) : h.finish i = h := by
  have hsame : (fun j => h.finished j || decide (i = j)) = h.finished := by
    funext j
    by_cases hj : i = j
    · rw [← hj, hi, Bool.true_or]
    · simp [hj]
  rw [finish, hsame]

/-- A registration is open after a latch is finished if it was and is at another one. -/
theorem isOpen_finish (e : Nat × Registration) :
    (h.finish i).isOpen t e = (h.isOpen t e && decide (i ≠ e.1)) := by
  by_cases he : i = e.1 <;> simp [isOpen, finish, he]

/-- The end of a latch closes the registrations with it. -/
theorem openOf_finish (hi : h.finished i = false) :
    (h.finish i).openOf t + (h.registeredWith i).countP (·.tracker = t) = h.openOf t := by
  have hwith : (h.registeredWith i).countP (·.tracker = t) =
      h.registered.countP fun e => h.isOpen t e && !decide (i ≠ e.1) := by
    rw [registeredWith, List.countP_map, List.countP_filter]
    refine List.countP_congr fun e _ => ?_
    by_cases he : i = e.1
    · simp [isOpen, ← he, hi]
    · simp [he, Ne.symm he]
  have hother : (h.finish i).openOf t =
      h.registered.countP fun e => h.isOpen t e && decide (i ≠ e.1) :=
    List.countP_congr fun e _ => by rw [isOpen_finish]
  rw [hwith, hother, openOf, ← List.countP_filter, ← List.countP_filter,
    ← List.countP_eq_countP_filter_add]

theorem next_registers {act : Act} (hact : act.isRegistering = true) :
    h.next act = h.register act.registered := by
  cases act <;> simp_all [Act.isRegistering, next, register, Act.isFinishOf, Act.takes]

theorem next_finishes {news : Bool} : h.next (.finishes i news) = h.finish i := by
  simp [next, finish, Act.registered, Act.isFinishOf, Act.takes]

theorem next_drops : h.next (.drops i) = h.drop i := by
  simp [next, drop, Act.registered, Act.isFinishOf, Act.takes]

theorem next_polls {found : Signal} : h.next (.polls s found) = h.take s found := by
  simp [next, take, Act.registered, Act.isFinishOf, Act.takes]

theorem next_waits {signals : List SignalId} {position : Nat} {found : Signal}
    (hs : signals[position]? = some s) :
    h.next (.waits signals position found) = h.take s found := by
  simp [next, take, Act.registered, Act.isFinishOf, Act.takes, hs]

theorem next_adds : h.next (.adds t) = h.add t := by
  simp [next, add, Act.registered, Act.isFinishOf, Act.takes]

theorem next_dones : h.next (.dones t) = h.done t := by
  simp [next, done, Act.registered, Act.isFinishOf, Act.takes]

end Tally

theorem tally_nil : tally [] = ⟨[], fun _ => false, fun _ => false, fun _ => 0, fun _ => 0, fun _ => 0⟩ :=
  rfl

/-- The tally of a longer history is that of the shorter one, after one more act. -/
theorem tally_concat (acts : List Act) (act : Act) : tally (acts ++ [act]) = (tally acts).next act := by
  simp [tally, Tally.next, List.countP_append, List.countP_singleton]

/-! ## Latches by name -/

/-- Only latches of the board are there. -/
theorem lt_of_latch? (hl : b.latch? i = some l) : i < b.latches.length := by
  refine Nat.lt_of_not_le fun hle => ?_
  rw [latch?, List.getElem?_eq_none hle] at hl
  cases hl

/-- To put another latch in a place changes that place only. -/
theorem latch?_set (hl : b.latch? i = some l) (x : Option Latch) (o : Observers) :
    latch? ⟨b.latches.set i x, o⟩ j = if i = j then x else b.latch? j := by
  rw [latch?, List.getElem?_set]
  by_cases hj : i = j
  · rw [if_pos hj, if_pos hj, if_pos (lt_of_latch? hl), Option.join_some]
  · rw [if_neg hj, if_neg hj, latch?]

theorem set_of_latch? (hl : b.latch? i = some l) : b.latches.set i (some l) = b.latches := by
  have hget : b.latches[i]? = some (some l) := Option.join_eq_some_iff.mp hl
  refine List.ext_getElem? fun j => ?_
  rw [List.getElem?_set]
  by_cases hj : i = j
  · rw [if_pos hj, if_pos (lt_of_latch? hl), ← hj, hget]
  · rw [if_neg hj]

/-- Finishing a latch that was done is no news and changes nothing; finishing another one is, and
notifies whoever is registered. -/
theorem finish_eq_some {news : Bool} (h : b.finish i = some (news, b')) :
    ∃ l, b.latch? i = some l ∧
      (l.isDone = true ∧ news = false ∧ b' = b ∨
        l.isDone = false ∧ news = true ∧
          b' = ⟨b.latches.set i (some .finished), l.registrations.foldl Latch.notify b.observers⟩) := by
  obtain ⟨l, hl, heq⟩ := Option.map_eq_some_iff.mp h
  refine ⟨l, hl, ?_⟩
  rw [Latch.finish] at heq
  cases hdone : l.isDone with
  | true =>
    rw [if_pos hdone] at heq
    obtain ⟨rfl, rfl⟩ := Prod.mk.inj heq
    exact .inl ⟨rfl, rfl, by rw [setLatch, set_of_latch? hl]⟩
  | false =>
    rw [if_neg (by simp [hdone])] at heq
    obtain ⟨rfl, rfl⟩ := Prod.mk.inj heq
    exact .inr ⟨rfl, rfl, rfl⟩

/-- To drop a latch takes it away and closes the signals of whoever is registered. -/
theorem drop_eq_some (h : b.drop i = some b') :
    ∃ l, b.latch? i = some l ∧ b' = ⟨b.latches.set i none, l.drop b.observers⟩ := by
  obtain ⟨l, hl, heq⟩ := Option.map_eq_some_iff.mp h
  exact ⟨l, hl, heq.symm⟩

/-! ## Registering -/

/-- How a board changes by **one registration**. A latch that is done keeps its list, and the signal
of the registration is raised at once. -/
inductive Enrols (b : Board) (e : Nat × Registration) (b' : Board) : Prop where
  | intro (l l' : Latch) (counts : e.2.tracker < b.observers.pending.length)
      (found : b.latch? e.1 = some l)
      (latches : ∀ j, b'.latch? j = if e.1 = j then some l' else b.latch? j)
      (isDone : l'.isDone = l.isDone)
      (registrations : l'.registrations =
        if l.isDone then l.registrations else l.registrations ++ [e.2])
      (length : b'.latches.length = b.latches.length)
      (trackers : b'.observers.pending.length = b.observers.pending.length)
      (pending : ∀ t, b'.observers.pendingOf t =
        b.observers.pendingOf t + if l.isDone then 0 else if e.2.tracker = t then 1 else 0)
      (signals : ∀ s, b'.observers.signal s =
        if e.2.signal = some s then (if l.isDone then .raised else .silent)
        else b.observers.signal s)
      (fresh : e.2.signal = none ∧ b'.observers.signals.length = b.observers.signals.length ∨
        e.2.signal = some b.observers.signals.length ∧
          b'.observers.signals.length = b.observers.signals.length + 1)

/-- Observing a latch gives the next signal, and registers it with the tracker or notifies it at
once. -/
theorem observe_eq_some (h : b.observe i t = some (s, b')) :
    ∃ l, b.latch? i = some l ∧ s = b.observers.signals.length ∧
      b' = ⟨b.latches.set i (some (l.observe t b.observers).2.1), (l.observe t b.observers).2.2⟩ := by
  obtain ⟨l, hl, heq⟩ := Option.map_eq_some_iff.mp h
  have hs : (l.observe t b.observers).1 = s := congrArg Prod.fst heq
  exact ⟨l, hl, hs.symm.trans (Latch.signal_fst_observe ..), (congrArg Prod.snd heq).symm⟩

/-- Observing enrols one registration, with its signal. -/
theorem enrols_observe (ht : t < b.observers.pending.length) (h : b.observe i t = some (s, b')) :
    Enrols b (i, ⟨t, some s⟩) b' := by
  obtain ⟨l, hl, rfl, rfl⟩ := observe_eq_some h
  refine ⟨l, (l.observe t b.observers).2.1, ht, hl, fun j => latch?_set hl _ _,
    Latch.isDone_observe .., Latch.registrations_observe .., List.length_set,
    Latch.length_pending_observe .., fun t' => Latch.pendingOf_observe l t t' b.observers ht,
    fun s => ?_, .inr ⟨rfl, Latch.length_signals_observe ..⟩⟩
  simp only [Latch.signal_observe, Option.some.injEq, eq_comm]

/-- Observing for a tracker alone enrols one registration, without a signal. -/
theorem enrols_observeUnheard (ht : t < b.observers.pending.length) (hl : b.latch? i = some l) :
    Enrols b (i, ⟨t, none⟩) (b.observeUnheard i t) := by
  have heq : b.observeUnheard i t = { b.setLatch i (l.observeUnheard t b.observers).1 with
      observers := (l.observeUnheard t b.observers).2 } := by
    rw [observeUnheard, hl]
  rw [heq, Latch.observeUnheard]
  cases hdone : l.isDone with
  | true =>
    refine ⟨l, l, ht, hl, fun j => latch?_set hl _ _, rfl, by simp [hdone], List.length_set, ?_,
      fun t' => ?_, fun s => ?_, .inl ⟨rfl, ?_⟩⟩
    · simp
    · simpa [hdone] using Observers.pendingOf_done_add b.observers t t' ht
    · simp
    · simp
  | false =>
    refine ⟨l, _, ht, hl, fun j => latch?_set hl _ _, hdone.symm, by simp [hdone], List.length_set,
      ?_, fun t' => ?_, fun s => ?_, .inl ⟨rfl, ?_⟩⟩
    · simp
    · simpa [hdone] using Observers.pendingOf_add b.observers t t' ht
    · simp
    · simp

/-- Nobody who enrols takes a latch away. -/
theorem present_of_enrols {e : Nat × Registration} (h : Enrols b e b') (latches : List Nat) :
    b'.present latches = b.present latches := by
  obtain ⟨l, l', -, hl, hlatches, -⟩ := h
  refine List.filter_congr fun j _ => ?_
  rw [hlatches j]
  by_cases hj : e.1 = j
  · rw [if_pos hj, ← hj, hl]
    rfl
  · rw [if_neg hj]

/-- To register with several latches is to register with **one after another**, those that are gone
apart. -/
theorem run_observeAll (latches : List Nat) (ht : t < b.observers.pending.length) :
    Run Enrols b (Act.registered (.observesAll t (b.present latches) (b.observeAll t latches).1))
      (b.observeAll t latches).2 := by
  induction latches generalizing b with
  | nil => exact .here b
  | cons i rest ih =>
    rw [observeAll]
    cases hobserve : b.observe i t with
    | none =>
      have hgone : b.latch? i = none := by simpa [observe] using hobserve
      have hpresent : b.present (i :: rest) = b.present rest :=
        List.filter_cons_of_neg (by simp [hgone])
      rw [hpresent]
      exact ih ht
    | some found =>
      obtain ⟨s, b₁⟩ := found
      have henrols := enrols_observe ht hobserve
      obtain ⟨l, hl, -⟩ := Option.map_eq_some_iff.mp hobserve
      have hpresent : b.present (i :: rest) = i :: b.present rest :=
        List.filter_cons_of_pos (by simp [hl])
      have ht₁ : t < b₁.observers.pending.length := by
        obtain ⟨-, -, -, -, -, -, -, -, htrackers, -⟩ := henrols
        rwa [htrackers]
      -- A registration loses no latch, so the rest finds the same ones as before.
      rw [hpresent, ← present_of_enrols henrols rest]
      exact .cons henrols (ih ht₁)

/-- Observing several latches for a tracker alone enrols a registration at each of them. -/
theorem run_observeUnheard {latches : List Nat} (h : ∀ i ∈ latches, (b.latch? i).isSome = true)
    (ht : t < b.observers.pending.length) :
    Run Enrols b (latches.map fun i => (i, ⟨t, none⟩))
      (latches.foldl (fun b i => b.observeUnheard i t) b) := by
  induction latches generalizing b with
  | nil => exact .here b
  | cons i rest ih =>
    obtain ⟨hi, hrest⟩ := List.forall_mem_cons.mp h
    obtain ⟨l, hl⟩ := Option.isSome_iff_exists.mp hi
    have henrols := enrols_observeUnheard ht hl
    refine .cons henrols (ih ?_ ?_)
    · intro j hj
      obtain ⟨-, l', -, -, hlatches, -⟩ := henrols
      rw [hlatches j]
      by_cases hij : i = j
      · rw [if_pos hij, Option.isSome_some]
      · rw [if_neg hij]
        exact hrest j hj
    · obtain ⟨-, -, -, -, -, -, -, -, htrackers, -⟩ := henrols
      rwa [htrackers]

/-- A wait for any of several latches that returns has registered with **one after another**. -/
theorem run_waitForAny {latches : List Nat} {position : Nat}
    (h : b.WaitForAny t latches position b') (ht : t < b.observers.pending.length) :
    Run Enrols b (Act.registered (.waitsForAny t (b.present latches) position)) b' := by
  obtain ⟨-, rfl⟩ := h
  exact run_observeUnheard (fun i hi => (List.mem_filter.mp hi).2) ht

/-! ## The account -/

end Board

/-- Where a signal **stands**, by whether the work of its latch was finished, whether the latch was
dropped, and how many notices were taken. -/
def Signal.Stands (finished dropped : Bool) (taken : Nat) (x : Signal) : Prop :=
  match finished, dropped with
  | true, _ => x = .raised ∧ taken = 0 ∨ x = .closed ∧ taken = 1
  | false, true => x = .closed ∧ taken = 0
  | false, false => x = .silent ∧ taken = 0

namespace Board

/-- The **account** of a board: what has been done decides what its latches and signals are. -/
structure Accounts (h : Tally) (b : Board) : Prop where
  gone : ∀ i, b.latch? i = none ↔ b.latches.length ≤ i ∨ h.dropped i = true
  isDone : ∀ i l, b.latch? i = some l → l.isDone = h.finished i
  registrations : ∀ i l, b.latch? i = some l →
    l.registrations = if h.finished i then [] else h.registeredWith i
  registered_lt : ∀ e ∈ h.registered, e.1 < b.latches.length
  /-- Signals are given out in order, and each to one registration. -/
  given : h.registered.filterMap (·.2.signal) = List.range b.observers.signals.length
  untaken : ∀ s, b.observers.signals.length ≤ s → h.taken s = 0
  stands : ∀ e ∈ h.registered, ∀ s, e.2.signal = some s →
    (b.observers.signal s).Stands (h.finished e.1) (h.dropped e.1) (h.taken s)

variable {h : Tally} {e e' : Nat × Registration}

/-- Before anything has happened the board accords with the empty tally. -/
theorem accounts_start (n m : Nat) : Accounts (tally []) (start n m) where
  gone i := by
    rw [tally_nil, latch?, start, List.getElem?_replicate, List.length_replicate]
    by_cases hi : i < n
    · simp [hi]
    · simp [hi, Nat.le_of_not_lt hi]
  isDone i l hl := by
    rw [latch?, start, List.getElem?_replicate] at hl
    split at hl <;> cases hl
    rfl
  registrations i l hl := by
    rw [latch?, start, List.getElem?_replicate] at hl
    split at hl <;> cases hl
    rfl
  registered_lt := nofun
  given := rfl
  untaken _ _ := rfl
  stands := nofun

namespace Accounts

/-- A latch that is there was not dropped. -/
theorem dropped_of_latch? (ha : Accounts h b) (hl : b.latch? i = some l) : h.dropped i = false := by
  rw [← Bool.not_eq_true]
  intro hdropped
  rw [(ha.gone i).mpr (.inr hdropped)] at hl
  cases hl

/-- The signal of a registration was given out. -/
theorem signal_lt (ha : Accounts h b) (he : e ∈ h.registered) (hs : e.2.signal = some s) :
    s < b.observers.signals.length := by
  rw [← List.mem_range, ← ha.given]
  exact List.mem_filterMap.mpr ⟨e, he, hs⟩

/-- Two registrations have different signals. -/
theorem eq_of_signal (ha : Accounts h b) (he : e ∈ h.registered) (he' : e' ∈ h.registered)
    (hs : e.2.signal = some s) (hs' : e'.2.signal = some s) : e = e' := by
  have hnodup : (h.registered.filterMap (·.2.signal)).Nodup := ha.given ▸ List.nodup_range
  by_contra hne
  have : Std.Symm fun x y : Nat × Registration =>
      ∀ s, x.2.signal = some s → ∀ s', y.2.signal = some s' → s ≠ s' :=
    ⟨fun x y hxy s hs s' hs' => (hxy s' hs' s hs).symm⟩
  exact (List.pairwise_filterMap.mp hnodup).forall he he' hne s hs s hs' rfl

/-- A signal of a registration is that of nobody at any other latch. -/
theorem exists_registeredWith_iff (ha : Accounts h b) (he : e ∈ h.registered)
    (hs : e.2.signal = some s) : (∃ g ∈ h.registeredWith i, g.signal = some s) ↔ i = e.1 := by
  constructor
  · rintro ⟨g, hg, hgs⟩
    have heq := ha.eq_of_signal he (h.mem_registeredWith.mp hg) hs hgs
    exact (congrArg Prod.fst heq).symm
  · rintro rfl
    exact ⟨e.2, h.mem_registeredWith.mpr he, hs⟩

/-! What keeps the account right. -/

/-- Where a latch that is there becomes another, no latch is gone that was not. -/
theorem gone_of_latches {b' : Board} (ha : Accounts h b) {l l' : Latch} (hl : b.latch? i = some l)
    (hlatches : ∀ j, b'.latch? j = if i = j then some l' else b.latch? j)
    (hlength : b'.latches.length = b.latches.length) (j : Nat) :
    b'.latch? j = none ↔ b'.latches.length ≤ j ∨ h.dropped j = true := by
  rw [hlatches, hlength]
  by_cases hj : i = j
  · subst hj
    rw [if_pos rfl]
    refine iff_of_false nofun fun hgone => ?_
    rw [(ha.gone i).mpr hgone] at hl
    cases hl
  · rw [if_neg hj]
    exact ha.gone j

/-- Whoever enrols, the board goes on according with the tally. -/
theorem enrol (ha : Accounts h b) (hb : Enrols b e b') : Accounts (h.register [e]) b' := by
  -- What a registration changes: one latch, and one new signal if it asks for one.
  obtain ⟨l, l', -, hl, hlatches, hdone, hregistrations, hlength, -, -, hsignals, hfresh⟩ := hb
  have hfinished := ha.isDone e.1 l hl
  have hle : b.observers.signals.length ≤ b'.observers.signals.length := by
    rcases hfresh with ⟨-, hlen⟩ | ⟨-, hlen⟩ <;> omega
  refine {
    gone := ha.gone_of_latches hl hlatches hlength
    isDone := fun j l₁ hl₁ => ?isDone
    registrations := fun j l₁ hl₁ => ?registrations
    registered_lt := fun e' he' => ?registered_lt
    given := ?given
    untaken := fun s hs => ?untaken
    stands := fun e' he' s hs => ?stands }
  case isDone =>
    rw [hlatches] at hl₁
    by_cases hj : e.1 = j
    · rw [if_pos hj] at hl₁
      obtain rfl := Option.some.inj hl₁
      rw [hdone, hfinished, hj]
      rfl
    · rw [if_neg hj] at hl₁
      exact ha.isDone j l₁ hl₁
  case registrations =>
    rw [hlatches] at hl₁
    rw [Tally.registeredWith_register]
    by_cases hj : e.1 = j
    · rw [if_pos hj] at hl₁ ⊢
      obtain rfl := Option.some.inj hl₁
      subst hj
      rw [hregistrations, hfinished, ha.registrations e.1 l hl]
      cases hf : h.finished e.1 <;> simp [Tally.register, hf]
    · rw [if_neg hj] at hl₁ ⊢
      exact ha.registrations j l₁ hl₁
  case registered_lt =>
    rw [hlength]
    rcases List.mem_append.mp he' with he' | he'
    · exact ha.registered_lt e' he'
    · rw [List.mem_singleton.mp he']
      exact lt_of_latch? hl
  case given =>
    rw [Tally.register, List.filterMap_append, ha.given]
    rcases hfresh with ⟨hnone, hlen⟩ | ⟨hsome, hlen⟩
    · simp [hnone, hlen]
    · simp [hsome, hlen, List.range_succ]
  case untaken =>
    exact ha.untaken s (Nat.le_trans hle hs)
  case stands =>
    rcases List.mem_append.mp he' with he' | he'
    · -- An old registration does not have the new signal.
      have hold : e.2.signal ≠ some s := by
        intro hsame
        have hlt := ha.signal_lt he' hs
        rcases hfresh with ⟨hnone, -⟩ | ⟨hsome, -⟩
        · cases hnone.symm.trans hsame
        · obtain rfl := Option.some.inj (hsome.symm.trans hsame)
          exact absurd hlt (Nat.lt_irrefl _)
      rw [hsignals, if_neg hold]
      exact ha.stands e' he' s hs
    · obtain rfl := List.mem_singleton.mp he'
      have hnew : h.taken s = 0 := by
        rcases hfresh with ⟨hnone, -⟩ | ⟨hsome, -⟩
        · cases hnone.symm.trans hs
        · obtain rfl := Option.some.inj (hsome.symm.trans hs)
          exact ha.untaken _ (Nat.le_refl _)
      have hdropped := ha.dropped_of_latch? hl
      rw [hsignals, if_pos hs, hfinished]
      cases hf : h.finished e'.1 <;> simp [Signal.Stands, Tally.register, hf, hdropped, hnew]

/-- The notice that is there is taken, and no other. -/
theorem look (ha : Accounts h b) (s : SignalId) : Accounts (h.take s (b.observers.signal s))
    { b with observers := (b.observers.take s).2 } := by
  refine {
    gone := ha.gone
    isDone := ha.isDone
    registrations := ha.registrations
    registered_lt := ha.registered_lt
    given := ?given
    untaken := fun s' hs' => ?untaken
    stands := fun e he s' hs' => ?stands }
  case given =>
    rw [Observers.length_signals_take]
    exact ha.given
  case untaken =>
    rw [Observers.length_signals_take] at hs'
    have hclosed := b.observers.signal_of_le s' hs'
    have hnothing : ¬(s = s' ∧ b.observers.signal s = .raised) := by
      rintro ⟨rfl, hraised⟩
      exact absurd (hclosed.symm.trans hraised) (by decide)
    rw [h.taken_take_of_not hnothing, ha.untaken s' hs']
  case stands =>
    have hstands := ha.stands e he s' hs'
    by_cases hraised : s = s' ∧ b.observers.signal s = .raised
    · obtain ⟨rfl, hraised⟩ := hraised
      rw [hraised] at hstands
      rw [Observers.signal_take, if_pos ⟨rfl, hraised⟩]
      -- The notice that was there is in the account of what was taken from now on.
      revert hstands
      cases hf : h.finished e.1 <;> cases hd : h.dropped e.1 <;>
        simp [Signal.Stands, Tally.take, hf, hd, hraised]
    · have hsame : ¬(s' = s ∧ b.observers.signal s' = .raised) := by
        rintro ⟨rfl, hsignal⟩
        exact hraised ⟨rfl, hsignal⟩
      rw [Observers.signal_take, if_neg hsame, h.taken_take_of_not hraised]
      exact hstands

/-- The end of a latch raises the signals of its registrations, and no other. -/
theorem finish {news : Bool} (ha : Accounts h b) (hb : b.finish i = some (news, b')) :
    Accounts (h.finish i) b' := by
  obtain ⟨l, hl, ⟨hdone, -, rfl⟩ | ⟨hdone, -, rfl⟩⟩ := finish_eq_some hb
  · -- A second end is none.
    rwa [h.finish_of_finished (ha.isDone i l hl ▸ hdone)]
  -- The list of the latch is still whole, since it has not been finished.
  have hfinished : h.finished i = false := ha.isDone i l hl ▸ hdone
  have hdropped := ha.dropped_of_latch? hl
  have hregistrations : l.registrations = h.registeredWith i := by
    rw [ha.registrations i l hl, hfinished]
    rfl
  have hother : ∀ j, i ≠ j → (h.finish i).finished j = h.finished j := fun j hj => by
    simp [Tally.finish, hj]
  refine {
    gone := ha.gone_of_latches hl (fun j => latch?_set hl _ _) List.length_set
    isDone := fun j l₁ hl₁ => ?isDone
    registrations := fun j l₁ hl₁ => ?registrations
    registered_lt := fun e he => ?registered_lt
    given := ?given
    untaken := fun s hs => ?untaken
    stands := fun e he s hs => ?stands }
  case isDone =>
    rw [latch?_set hl] at hl₁
    by_cases hj : i = j
    · rw [if_pos hj] at hl₁
      obtain rfl := Option.some.inj hl₁
      simp [Tally.finish, hj, Latch.finished]
    · rw [if_neg hj] at hl₁
      rw [hother j hj]
      exact ha.isDone j l₁ hl₁
  case registrations =>
    rw [latch?_set hl] at hl₁
    by_cases hj : i = j
    · rw [if_pos hj] at hl₁
      obtain rfl := Option.some.inj hl₁
      simp [Tally.finish, hj, Latch.finished]
    · rw [if_neg hj] at hl₁
      rw [hother j hj]
      exact ha.registrations j l₁ hl₁
  case registered_lt =>
    rw [List.length_set]
    exact ha.registered_lt e he
  case given =>
    rw [Latch.length_signals_foldl_notify]
    exact ha.given
  case untaken =>
    rw [Latch.length_signals_foldl_notify] at hs
    exact ha.untaken s hs
  case stands =>
    have hstands := ha.stands e he s hs
    rw [Latch.signal_foldl_notify, hregistrations]
    simp only [ha.exists_registeredWith_iff he hs]
    by_cases hi : i = e.1
    · subst hi
      rw [hfinished, hdropped] at hstands
      rw [if_pos ⟨rfl, hstands.1⟩]
      have hnow : (h.finish e.1).finished e.1 = true := by simp [Tally.finish]
      rw [hnow]
      exact .inl ⟨rfl, hstands.2⟩
    · rw [if_neg fun hboth => hi hboth.1, hother e.1 hi]
      exact hstands

/-- A latch that is lost closes the signals of its registrations, and no other. -/
theorem drop (ha : Accounts h b) (hb : b.drop i = some b') : Accounts (h.drop i) b' := by
  obtain ⟨l, hl, rfl⟩ := drop_eq_some hb
  have hisDone := ha.isDone i l hl
  have hregistrations := ha.registrations i l hl
  have hother : ∀ j, i ≠ j → (h.drop i).dropped j = h.dropped j := fun j hj => by
    simp [Tally.drop, hj]
  refine {
    gone := fun j => ?gone
    isDone := fun j l₁ hl₁ => ?isDone
    registrations := fun j l₁ hl₁ => ?registrations
    registered_lt := fun e he => ?registered_lt
    given := ?given
    untaken := fun s hs => ?untaken
    stands := fun e he s hs => ?stands }
  case gone =>
    rw [latch?_set hl, List.length_set]
    by_cases hj : i = j
    · simp [Tally.drop, hj]
    · rw [if_neg hj, hother j hj]
      exact ha.gone j
  case isDone =>
    rw [latch?_set hl] at hl₁
    by_cases hj : i = j
    · rw [if_pos hj] at hl₁
      cases hl₁
    · rw [if_neg hj] at hl₁
      exact ha.isDone j l₁ hl₁
  case registrations =>
    rw [latch?_set hl] at hl₁
    by_cases hj : i = j
    · rw [if_pos hj] at hl₁
      cases hl₁
    · rw [if_neg hj] at hl₁
      exact ha.registrations j l₁ hl₁
  case registered_lt =>
    rw [List.length_set]
    exact ha.registered_lt e he
  case given =>
    rw [Latch.length_signals_drop]
    exact ha.given
  case untaken =>
    rw [Latch.length_signals_drop] at hs
    exact ha.untaken s hs
  case stands =>
    have hstands := ha.stands e he s hs
    rw [Latch.signal_drop]
    by_cases hi : i = e.1
    · subst hi
      have hnow : (h.drop e.1).dropped e.1 = true := by simp [Tally.drop]
      rw [hnow]
      cases hf : h.finished e.1 with
      | true =>
        -- The latch of work that is done has nobody on its list.
        rw [hf] at hstands hregistrations
        have hnobody : ¬∃ g ∈ l.registrations, g.signal = some s := by simp [hregistrations]
        have hstill : (h.drop e.1).finished e.1 = true := hf
        rw [if_neg fun hboth => hnobody hboth.1, hstill]
        exact hstands
      | false =>
        rw [hf, ha.dropped_of_latch? hl] at hstands
        rw [hf] at hregistrations
        have htold : ∃ g ∈ l.registrations, g.signal = some s :=
          hregistrations ▸ (ha.exists_registeredWith_iff he hs).mpr rfl
        have hstill : (h.drop e.1).finished e.1 = false := hf
        rw [if_pos ⟨htold, hstands.1⟩, hstill]
        exact ⟨rfl, hstands.2⟩
    · have hnobody : ¬∃ g ∈ l.registrations, g.signal = some s := by
        rintro ⟨g, hg, hgs⟩
        rw [hregistrations] at hg
        split at hg
        · cases hg
        · exact hi ((ha.exists_registeredWith_iff he hs).mp ⟨g, hg, hgs⟩)
      rw [if_neg fun hboth => hnobody hboth.1, hother e.1 hi]
      exact hstands

/-- However many enrol, the board goes on according with the tally. -/
theorem enrolAll {es : List (Nat × Registration)} (ha : Accounts h b) (hb : Run Enrols b es b') :
    Accounts (h.register es) b' := by
  induction hb with
  | here => simpa [Tally.register] using ha
  | next _ hlast ih =>
    rw [← Tally.register_append]
    exact ih.enrol hlast

end Accounts

/-- Every step of the board keeps it in accord with the tally. -/
theorem Step.account {acts : List Act} {act : Act} (ha : Accounts (tally acts) b)
    (hs : Step b act b') : Accounts (tally (acts ++ [act])) b' := by
  rw [tally_concat]
  cases hs with
  | observes ht h =>
    rw [Tally.next_registers _ rfl]
    exact ha.enrol (enrols_observe ht h)
  | observesAll latches ht =>
    rw [Tally.next_registers _ rfl]
    exact ha.enrolAll (run_observeAll latches ht)
  | waitsForAny ht h =>
    rw [Tally.next_registers _ rfl]
    exact ha.enrolAll (run_waitForAny h ht)
  | finishes h =>
    rw [Tally.next_finishes]
    exact ha.finish h
  | drops h =>
    rw [Tally.next_drops]
    exact ha.drop h
  | adds =>
    rw [Tally.next_adds]
    exact { ha with }
  | dones =>
    rw [Tally.next_dones]
    exact { ha with }
  | polls =>
    rw [Tally.next_polls]
    exact ha.look _
  | waits _ h hfound =>
    obtain ⟨s', hs', -, rfl⟩ := h
    obtain rfl := Option.some.inj (hfound.symm.trans hs')
    rw [Tally.next_waits _ hfound]
    exact ha.look _

/-- **Whatever is done** on a board, the account stays right. -/
theorem account_run {n m : Nat} {acts : List Act} (hrun : Run Step (start n m) acts b) :
    Accounts (tally acts) b := by
  induction hrun with
  | here => exact accounts_start n m
  | next _ hlast ih => exact hlast.account ih

end MediaProxy.Board
