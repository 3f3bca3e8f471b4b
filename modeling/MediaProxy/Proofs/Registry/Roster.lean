import MediaProxy.Proofs.Registry.Compliance

/-!
# The roster of a registry

Seen from outside, a registry of compliant sessions is a map from keys to sessions, each of which
goes on or has ended by itself and left what its cleanup came to. `Roster` is that map. Since a
session that was forgotten ends like any other, it has the enrolments that are under no key as well.

`Answers` says how a roster responds to a request, and what it is then. A worker that is done ends
the sessions that it works for, and so does whoever stops a session; when a session ends all of its
workers are done, and with a worker that is shared other sessions end too (`Spreads`, `Ends`).
`Shows` says that what can be seen of a registry is what the roster says.

Whatever is requested, a registry does what its roster does (`enacts_staffed`). It responds to every
request, also to a stop.
-/

namespace MediaProxy

/-- One **enrolment**: a session, and what its cleanup came to once it has ended. -/
structure Enrolment where
  session : SessionId
  fate : Option Outcome
  deriving DecidableEq, Repr

/-- The cleanup that an enrolment has led to. -/
def Enrolment.cleanup (x : Enrolment) : Option (SessionId × Body) :=
  x.fate.map fun outcome => (x.session, .returns outcome)

/-- The outcome that is left at a stage. -/
def Stage.fate : Stage → Option Outcome
  | .concluded body => some body.outcome
  | _ => none

def Entry.enrolment {κ : Type} (entry : Entry κ) : Enrolment := ⟨entry.session, entry.stage.fate⟩

/-- A map from keys to enrolments, and the workers that are done. -/
structure Roster (κ : Type) where
  /-- Every enrolment that was ever made, in order. -/
  enrolments : List Enrolment
  /-- The keys in use, each with the number of its enrolment. -/
  under : List (κ × Nat)
  done : Set WorkerId

namespace Roster

variable {κ : Type}

/-- A roster without enrolments. Some workers are done from the beginning. -/
def vacant (finished : List Bool) : Roster κ := ⟨[], [], {w | finished[w]? = some true}⟩

def keys (R : Roster κ) : List κ := R.under.map Prod.fst

/-- The **row** of a key: a session that goes on, or one that has ended with some outcome. -/
def row? [DecidableEq κ] (R : Roster κ) (key : κ) : Option Enrolment :=
  (R.under.lookup key).bind fun i => R.enrolments[i]?

def enrol (R : Roster κ) (key : κ) (n : SessionId) : Roster κ :=
  { R with
    enrolments := R.enrolments ++ [⟨n, none⟩]
    under := R.under ++ [(key, R.enrolments.length)] }

/-- A key is in use no more. -/
def drop [DecidableEq κ] (R : Roster κ) (key : κ) : Roster κ :=
  { R with under := R.under.filter fun b => decide (b.1 ≠ key) }

end Roster

namespace Registry

variable {κ σ : Type}

/-! ## What a roster does -/

section Machine

variable (workers : SessionId → List WorkerId) (asked : Set Nat) (given : Set WorkerId)

/-- The workers that are done after some enrolments were asked to end and some workers were done of
themselves: when one worker of an enrolled session is done, all of them will be. -/
inductive Spreads (R : Roster κ) : WorkerId → Prop where
  | was {w : WorkerId} (done : w ∈ R.done) : Spreads R w
  | given {w : WorkerId} (done : w ∈ given) : Spreads R w
  | asked {i : Nat} {x : Enrolment} {w : WorkerId} (asked : i ∈ asked)
      (enrolled : R.enrolments[i]? = some x) (worker : w ∈ workers x.session) : Spreads R w
  | next {x : Enrolment} {v w : WorkerId} (enrolled : x ∈ R.enrolments) (done : Spreads R v)
      (one : v ∈ workers x.session) (worker : w ∈ workers x.session) : Spreads R w

/-- What comes of that: an enrolment **ends** if it was asked to or if a worker of its session is
done. What has ended stays as it is. -/
structure Ends (R R' : Roster κ) : Prop where
  under : R'.under = R.under
  done : ∀ w, w ∈ R'.done ↔ Spreads workers asked given R w
  length : R'.enrolments.length = R.enrolments.length
  fates : ∀ (i : Nat) (x : Enrolment), R.enrolments[i]? = some x →
    ∃ fate, R'.enrolments[i]? = some ⟨x.session, fate⟩ ∧
      (x.fate.isSome = true → fate = x.fate) ∧
      (x.fate = none → (fate.isSome = true ↔ i ∈ asked ∨ ∃ w ∈ workers x.session, w ∈ R'.done))

end Machine

/-- What a stop replies when it has ended a session itself. -/
def cleanedUp : Outcome → StopReply
  | none => .stopped
  | some reason => .failed (.cleanup reason)

/-- What a request is **answered** with, and the roster then. There is a number of workers. -/
inductive Answers [DecidableEq κ] (name : κ → Text) (workers : SessionId → List WorkerId)
    (staff : Nat) (R : Roster κ) : Request κ → Response → Roster κ → Prop where
  | exists_already {key : κ} {n : SessionId} (has : key ∈ R.keys) :
      Answers name workers staff R (.register key n) (.refused (.sessionExists (name key))) R
  | registered {key : κ} {n : SessionId} {R' : Roster κ} (hasNone : key ∉ R.keys)
      (ends : Ends workers ∅ ∅ (R.enrol key n) R') :
      Answers name workers staff R (.register key n) .registered R'
  | unknown {key : κ} (hasNone : key ∉ R.keys) :
      Answers name workers staff R (.stop key) (.stopped (.failed (.sessionUnknown (name key)))) R
  | stopped {key : κ} {i : Nat} {n : SessionId} {outcome : Outcome} {R' : Roster κ}
      (has : (key, i) ∈ R.under) (goesOn : R.enrolments[i]? = some ⟨n, none⟩)
      (ends : Ends workers {i} ∅ R R') (fate : R'.enrolments[i]? = some ⟨n, some outcome⟩) :
      Answers name workers staff R (.stop key) (.stopped (cleanedUp outcome)) (R'.drop key)
  | ended_early {key : κ} {i : Nat} {n : SessionId} {outcome : Outcome} (has : (key, i) ∈ R.under)
      (ended : R.enrolments[i]? = some ⟨n, some outcome⟩) :
      Answers name workers staff R (.stop key)
        (.stopped (.failed (.stoppedEarly (outcome.getD "(no error)".toList)))) (R.drop key)
  | all_stopped {R' : Roster κ} (ends : Ends workers {i | i ∈ R.under.map Prod.snd} ∅ R R') :
      Answers name workers staff R .stopAll (.allStopped (.ok R.under.length))
        { R' with under := [] }
  | forgot {key : κ} {i : Nat} {n : SessionId} {fate : Option Outcome} (has : (key, i) ∈ R.under)
      (holds : R.enrolments[i]? = some ⟨n, fate⟩) :
      Answers name workers staff R (.forget key n) (.forgot true) (R.drop key)
  | not_there {key : κ} {n : SessionId}
      (other : ∀ i fate, (key, i) ∈ R.under → R.enrolments[i]? ≠ some ⟨n, fate⟩) :
      Answers name workers staff R (.forget key n) (.forgot false) R
  | finished {w : WorkerId} {news : Bool} {R' : Roster κ} (employed : w < staff)
      (news_iff : news = true ↔ w ∉ R.done) (ends : Ends workers ∅ {w} R R') :
      Answers name workers staff R (.finish w) (.finished news) R'
  | nobody {w : WorkerId} (unemployed : staff ≤ w) :
      Answers name workers staff R (.finish w) (.finished false) R

/-! ## What a registry shows -/

section Views

variable [DecidableEq κ]

/-- A registry **shows** a roster: what can be seen of it is what the roster says. Each enrolment
has led to one start, and to one cleanup if it has ended. -/
structure Shows (R : Roster κ) (r : Registry κ (σ × Chronicle)) : Prop where
  nodup : R.keys.Nodup
  keys : r.keys = R.keys
  size : r.size = R.keys.length
  lookup : ∀ key, r.lookup key = (R.row? key).map Enrolment.session
  entry : ∀ key, (r.entry? key).map (fun entry =>
      (entry.stage.gate.isTriggered, entry.stage.gate.error)) =
    (R.row? key).map fun x => (x.fate.isSome, x.fate.join)
  finished : ∀ w, r.isFinished w = true ↔ w ∈ R.done
  starts : r.world.2.starts = R.enrolments.map Enrolment.session
  cleanups : r.world.2.cleanups.Perm (R.enrolments.filterMap Enrolment.cleanup)

/-- Through some requests a registry **enacts** a roster: it responds to each, with a chronicle and
without, as the roster answers it, and what it shows then is the roster that comes of it. A
registration that is refused changes nothing. -/
def Enacts (c : Contract κ σ) (workers : SessionId → List WorkerId) (staff : Nat) (R : Roster κ)
    (r : Registry κ (σ × Chronicle)) : List (Request κ) → Prop
  | [] => Shows R r
  | request :: rest => Shows R r ∧ ∃ response r' R',
      obey c.chronicled r request = some (response, r') ∧
      obey c r.plain request = some (response, r'.plain) ∧
      Answers c.name workers staff R request response R' ∧
      (∀ fault, response = .refused fault → r' = r) ∧
      Enacts c workers staff R' r' rest

end Views

/-! ## The roster that a registry is -/

/-- The **roster of** a registry. -/
def roster (r : Registry κ σ) : Roster κ :=
  ⟨r.entries.map Entry.enrolment, r.bound, {w | r.isFinished w = true}⟩

variable {c : Contract κ σ} {r r' : Registry κ (σ × Chronicle)} {e : EntryId} {entry : Entry κ}
  {asked : Set Nat} {given : Set WorkerId} {key : κ}

/-- The roster of a registry has an enrolment for each entry. -/
theorem getElem?_enrolments (he : r.entries[e]? = some entry) :
    r.roster.enrolments[e]? = some ⟨entry.session, entry.stage.fate⟩ := by
  rw [roster, List.getElem?_map, he]
  rfl

/-- Each enrolment of a registry's roster is that of an entry. -/
theorem of_getElem?_enrolments {x : Enrolment} (h : r.roster.enrolments[e]? = some x) :
    ∃ entry, r.entries[e]? = some entry ∧ x = ⟨entry.session, entry.stage.fate⟩ := by
  rw [roster, List.getElem?_map, Option.map_eq_some_iff] at h
  obtain ⟨entry, he, rfl⟩ := h
  exact ⟨entry, he, rfl⟩

/-- The row of a key is the enrolment of the entry under it. -/
theorem row?_roster [DecidableEq κ] (r : Registry κ (σ × Chronicle)) (key : κ) :
    r.roster.row? key = (r.entry? key).map Entry.enrolment := by
  simp only [Roster.row?, roster, entry?, boundTo?]
  cases r.bound.lookup key with
  | none => rfl
  | some i => simp [List.getElem?_map]

/-- At rest an entry that has come to nothing yet is armed. -/
theorem AtRest.fate_eq_none_iff (h : AtRest c r) (hentry : entry ∈ r.entries) :
    entry.stage.fate = none ↔ entry.stage = .armed := by
  constructor
  · intro hnone
    by_contra hne
    obtain ⟨outcome, hover⟩ := h.concluded hentry hne
    rw [hover] at hnone
    cases hnone
  · intro harmed
    rw [harmed]
    rfl

/-- **At rest** a registry shows its roster. -/
theorem AtRest.shows [DecidableEq κ] (h : AtRest c r) : Shows r.roster r := by
  have hsize : r.size = r.roster.keys.length := by simp [Roster.keys, roster, size]
  refine ⟨h.tidy.keys_nodup, rfl, hsize, ?_, ?_, fun _ => Iff.rfl, ?_, ?_⟩
  · intro key
    rw [row?_roster, Option.map_map]
    rfl
  · intro key
    rw [row?_roster, Option.map_map]
    cases he : r.entry? key with
    | none => rfl
    | some entry =>
      obtain ⟨i, -, hentry⟩ := Option.bind_eq_some_iff.mp he
      refine congrArg some ?_
      by_cases harmed : entry.stage = .armed
      · simp [Entry.enrolment, harmed, Stage.gate, Gate.isTriggered, Gate.error, Stage.fate]
      · obtain ⟨outcome, hover⟩ := h.concluded (List.mem_of_getElem? hentry) harmed
        simp [Entry.enrolment, hover, Stage.gate, Gate.isTriggered, Gate.error, Stage.fate,
          Body.outcome]
  · rw [roster, List.map_map]
    exact h.tidy.starts
  · refine h.tidy.cleanups.trans (List.Perm.of_eq ?_)
    rw [roster, List.filterMap_map]
    refine List.filterMap_congr fun entry hentry => ?_
    by_cases harmed : entry.stage = .armed
    · simp [Entry.ended, Enrolment.cleanup, Entry.enrolment, harmed, Stage.fate]
    · obtain ⟨outcome, hover⟩ := h.concluded hentry harmed
      simp [Entry.ended, Enrolment.cleanup, Entry.enrolment, hover, Stage.fate, Body.outcome]

/-! ## What ends -/

/-- The workers that will be done **cover** a registry. -/
theorem covers_spreads (c : Contract κ σ) (r : Registry κ (σ × Chronicle)) (asked : Set Nat)
    (given : Set WorkerId) :
    Covers c {w | Spreads (c.workers r.world.1) asked given r.roster w} r := by
  refine ⟨fun w hw => .was hw, ?_⟩
  intro entry hentry v hv hdone w hw
  exact .next (List.mem_map_of_mem hentry) hdone hv hw

/-- What has passed and come to rest are the **ends** of the enrolments. -/
theorem ends_of_passes (hbase : ∀ entry ∈ r.entries, entry.stage.fate = none → entry.stage = .armed)
    (h : AtRest c r')
    (hpasses : Passes c asked {w | Spreads (c.workers r.world.1) asked given r.roster w} r r')
    (hasked : ∀ i ∈ asked, ∀ entry, r'.entries[i]? = some entry → entry.stage ≠ .armed)
    (hgiven : ∀ w ∈ given, r'.isFinished w = true) :
    Ends (c.workers r.world.1) asked given r.roster r'.roster := by
  -- An entry that has left its first stage is over, with all of its workers.
  have hall : ∀ (i : EntryId) (entry : Entry κ) (stage : Stage), r.entries[i]? = some entry →
      r'.entries[i]? = some { entry with stage := stage } → stage ≠ .armed →
      ∀ w ∈ c.workers r.world.1 entry.session, r'.isFinished w = true := by
    intro i entry stage _ he' hne w hw
    refine h.tidy.triggered _ (List.mem_of_getElem? he') hne w ?_
    rwa [hpasses.workers]
  have hdone : ∀ w, w ∈ r'.roster.done ↔ Spreads (c.workers r.world.1) asked given r.roster w := by
    refine fun w => ⟨hpasses.spread w, fun hspreads => ?_⟩
    induction hspreads with
    | was done => exact hpasses.finished _ done
    | given done => exact hgiven _ done
    | @asked i x w isAsked enrolled worker =>
      obtain ⟨entry, he, rfl⟩ := of_getElem?_enrolments enrolled
      obtain ⟨stage, he', -⟩ := hpasses.entries i entry he
      exact hall i entry stage he he' (hasked i isAsked _ he') w worker
    | @next x v w enrolled _ one worker ih =>
      obtain ⟨i, hi⟩ := List.mem_iff_getElem?.mp enrolled
      obtain ⟨entry, he, rfl⟩ := of_getElem?_enrolments hi
      obtain ⟨stage, he', -⟩ := hpasses.entries i entry he
      have hne := h.not_armed (List.mem_of_getElem? he') (w := v) (by rwa [hpasses.workers]) ih
      exact hall i entry stage he he' hne w worker
  refine ⟨hpasses.bound, hdone, by simp [roster, hpasses.length], ?_⟩
  intro i x hx
  obtain ⟨entry, he, rfl⟩ := of_getElem?_enrolments hx
  obtain ⟨stage, he', hmoves⟩ := hpasses.entries i entry he
  have hmem := List.mem_of_getElem? he'
  refine ⟨stage.fate, getElem?_enrolments he', ?_, ?_⟩
  · intro hsome
    cases hs : entry.stage with
    | concluded body => rw [hmoves.kept body hs, hs]
    | armed | stopping => simp [hs, Stage.fate] at hsome
  · intro hnone
    have harmed := hbase entry (List.mem_of_getElem? he) hnone
    rw [← Option.ne_none_iff_isSome, Ne, h.fate_eq_none_iff hmem]
    constructor
    · intro hne
      refine ((hmoves.cause hne).resolve_left (not_not.mpr harmed)).imp_right ?_
      exact fun ⟨w, hw, hspreads⟩ => ⟨w, hw, (hdone w).mpr hspreads⟩
    · rintro (isAsked | ⟨w, hw, hfinished⟩)
      · exact hasked i isAsked _ he'
      · exact h.not_armed hmem (w := w) (by rwa [hpasses.workers]) hfinished

/-- Where entries have passed on to their end, so have their enrolments. -/
theorem AtRest.ends (h : AtRest c r) (h' : AtRest c r')
    (hpasses : Passes c asked {w | Spreads (c.workers r.world.1) asked given r.roster w} r r')
    (hasked : ∀ i ∈ asked, ∀ entry, r'.entries[i]? = some entry → entry.stage ≠ .armed)
    (hgiven : ∀ w ∈ given, r'.isFinished w = true) :
    Ends (c.workers r.world.1) asked given r.roster r'.roster :=
  ends_of_passes (fun _ hentry => (h.fate_eq_none_iff hentry).mp) h' hpasses hasked hgiven

/-! ## One request -/

variable [DecidableEq κ]

/-- A registry at rest **grants** a request as its roster answers it, and is at rest then. -/
structure Grants (c : Contract κ σ) (r : Registry κ (σ × Chronicle)) (request : Request κ)
    (response : Response) (r' : Registry κ (σ × Chronicle)) : Prop where
  obeys : obey c.chronicled r request = some (response, r')
  atRest : AtRest c r'
  latches : r'.latches.length = r.latches.length
  workers : ∀ n, c.workers r'.world.1 n = c.workers r.world.1 n
  answers : Answers c.name (c.workers r.world.1) r.latches.length r.roster request response
    r'.roster
  refused : ∀ fault, response = .refused fault → r' = r

/-- Once a registration is made, the sessions that it may end are settled with. -/
theorem grants_register (h : AtRest c r) (hc : c.Compliant) (key : κ) (n : SessionId)
    (hemployed : ∀ w ∈ c.workers r.world.1 n, w < r.latches.length) :
    ∃ response r', Grants c r (.register key n) response r' := by
  by_cases hkey : key ∈ r.keys
  · refine ⟨_, r, ?_, h, rfl, fun _ => rfl, .exists_already hkey, fun _ _ => rfl⟩
    simp only [obey, register_eq, if_pos hkey, h.settle_eq]
    rfl
  · have hobeys : obey c.chronicled r (.register key n) =
        some (.registered, settle c.chronicled (r.enlisted c.chronicled key n)) := by
      simp only [obey, register_eq, if_neg hkey]
    have hfinished : ∀ w, (r.enlisted c.chronicled key n).isFinished w = r.isFinished w := fun w =>
      (isFinished_congr rfl w).trans isFinished_observeAll
    have hworkers : c.workers (r.enlisted c.chronicled key n).world.1 = c.workers r.world.1 :=
      funext (hc.start n (r.entered c.chronicled key n).plain)
    have hlatches : (r.enlisted c.chronicled key n).latches.length = r.latches.length :=
      length_latches_observeAll
    have hroster : (r.enlisted c.chronicled key n).roster = r.roster.enrol key n := by
      simp only [roster, Roster.enrol, hfinished]
      simp [enlisted, entered, Entry.enrolment, Stage.fate]
    have hbase : ∀ entry ∈ (r.enlisted c.chronicled key n).entries,
        entry.stage.fate = none → entry.stage = .armed := by
      intro entry hentry hnone
      rcases List.mem_append.mp hentry with hentry | hentry
      · exact (h.fate_eq_none_iff hentry).mp hnone
      · obtain rfl := List.mem_singleton.mp hentry
        rfl
    -- A worker may be done before its session is enlisted, and then the new entry ends now.
    obtain ⟨hrest, hpasses⟩ := (h.tidy.enlisted hc hkey hemployed).settle hc ∅
      (covers_spreads c (r.enlisted c.chronicled key n) ∅ ∅)
    have hends := ends_of_passes hbase hrest hpasses (fun _ hi => absurd hi (Set.notMem_empty _))
      (fun _ hw => absurd hw (Set.notMem_empty _))
    rw [hroster, hworkers] at hends
    exact ⟨_, _, hobeys, hrest, hpasses.latches.trans hlatches,
      fun m => (hpasses.workers m).trans (congrFun hworkers m), .registered hkey hends,
      fun fault hf => by cases hf⟩

/-- A stop replies what the end of the session has come to, and the key is in use no more. -/
theorem obey_stop {outcome : Outcome} (hbound : r.boundTo? key = some e)
    (hrest : AtRest c (settle c.chronicled (reach c.chronicled e r).2))
    (hbound' : (settle c.chronicled (reach c.chronicled e r).2).bound = r.bound)
    (hover : (settle c.chronicled (reach c.chronicled e r).2).stage? e =
      some (.concluded (.returns outcome))) :
    obey c.chronicled r (.stop key) =
      some (.stopped ((reach c.chronicled e r).1.reply (.returns outcome)),
        { settle c.chronicled (reach c.chronicled e r).2 with
          bound := r.bound.filter fun b => decide (b.1 ≠ key) }) := by
  have hb := mem_bound_of_boundTo? hbound
  simp only [obey, stopOne, beginStop, hbound]
  generalize hr' : settle c.chronicled (reach c.chronicled e r).2 = r' at *
  rw [← hbound'] at hb ⊢
  rw [finishStop_of_concluded (by rwa [entry_reach]), entry_reach, breaksAt_returns,
    hrest.tidy.remove_key hb, Option.map_some]
  exact congrArg (fun r => some (_, r)) (hrest.under _).settle_eq

/-- A registry at rest grants every request for a stop. -/
theorem grants_stop (h : AtRest c r) (hc : c.Compliant) (key : κ) :
    ∃ response r', Grants c r (.stop key) response r' := by
  cases hbound : r.boundTo? key with
  | none =>
    refine ⟨_, r, ?_, h, rfl, fun _ => rfl, .unknown (boundTo?_eq_none_iff.mp hbound), ?_⟩
    · simp [obey, stopOne, beginStop, hbound, h.settle_eq]
    · exact fun _ hf => by cases hf
  | some e =>
    have hb := mem_bound_of_boundTo? hbound
    obtain ⟨entry, he, -⟩ := h.tidy.filed _ hb
    have henrolled := getElem?_enrolments he
    obtain ⟨hrest, hpasses, hstop, hsame, outcome, hover⟩ := h.visit hc
      (covers_spreads c r {e} ∅) he (Set.mem_singleton e)
      (fun w hw => .asked (Set.mem_singleton e) henrolled hw)
    have hobeys := obey_stop hbound hrest hpasses.bound hover
    generalize settle c.chronicled (reach c.chronicled e r).2 = r₁ at *
    rw [← hpasses.bound] at hobeys
    refine ⟨_, _, hobeys, hrest.under _, hpasses.latches, hpasses.workers, ?_,
      fun _ hf => by cases hf⟩
    obtain ⟨stage, he', -⟩ := hpasses.entries e entry he
    obtain rfl : stage = .concluded (.returns outcome) :=
      Option.some.inj ((stage?_of_getElem? he').symm.trans hover)
    -- Whether the stop has ended the session or came late decides its reply; either way the entry
    -- is over now.
    by_cases harmed : entry.stage = .armed
    · have hasked : ∀ i ∈ ({e} : Set Nat), ∀ entry', r₁.entries[i]? = some entry' →
          entry'.stage ≠ .armed := by
        rintro i rfl entry' hentry'
        rw [Option.some.inj (hentry'.symm.trans he')]
        simp
      have hends := h.ends hrest hpasses hasked (fun _ hw => absurd hw (Set.notMem_empty _))
      have hreply : (reach c.chronicled e r).1.reply (.returns outcome) = cleanedUp outcome := by
        rw [hstop]
        cases outcome <;> simp [Stop.reply, harmed, cleanedUp]
      rw [hreply]
      rw [harmed] at henrolled
      exact .stopped hb henrolled hends (getElem?_enrolments he')
    · have hreply : (reach c.chronicled e r).1.reply (.returns outcome) =
          .failed (.stoppedEarly (outcome.getD "(no error)".toList)) := by
        simp [hstop, Stop.reply, harmed, endedEarly, Body.outcome]
      rw [hreply, hsame harmed]
      rw [hsame harmed] at he'
      exact .ended_early hb (getElem?_enrolments he')

/-- A registry at rest grants every request to forget a session. -/
theorem grants_forget (h : AtRest c r) (key : κ) (n : SessionId) :
    ∃ response r', Grants c r (.forget key n) response r' := by
  have holds : r.lookup key = some n ↔
      ∃ i fate, (key, i) ∈ r.roster.under ∧ r.roster.enrolments[i]? = some ⟨n, fate⟩ := by
    rw [h.shows.lookup, Option.map_eq_some_iff]
    constructor
    · rintro ⟨⟨m, fate⟩, hrow, rfl⟩
      obtain ⟨i, hi, henrolled⟩ := Option.bind_eq_some_iff.mp hrow
      exact ⟨i, fate, mem_bound_of_boundTo? hi, henrolled⟩
    · rintro ⟨i, fate, hb, henrolled⟩
      have hi : r.bound.lookup key = some i := (boundTo?_eq_some_iff h.tidy.keys_nodup).mpr hb
      exact ⟨⟨n, fate⟩, Option.bind_eq_some_iff.mpr ⟨i, hi, henrolled⟩, rfl⟩
  by_cases hlookup : r.lookup key = some n
  · obtain ⟨i, fate, hb, henrolled⟩ := holds.mp hlookup
    refine ⟨_, _, ?_, h.under _, rfl, fun _ => rfl, .forgot hb henrolled, fun _ hf => by cases hf⟩
    simp only [obey, forget, if_pos hlookup]
    rw [(h.under _).settle_eq]
  · refine ⟨_, r, ?_, h, rfl, fun _ => rfl, .not_there ?_, fun _ hf => by cases hf⟩
    · simp only [obey, forget, if_neg hlookup, h.settle_eq]
    · exact fun i fate hb henrolled => hlookup (holds.mpr ⟨i, fate, hb, henrolled⟩)

/-- A registry at rest grants it when a worker is done. -/
theorem grants_finish (h : AtRest c r) (hc : c.Compliant) (w : WorkerId) :
    ∃ response r', Grants c r (.finish w) response r' := by
  by_cases hlt : w < r.latches.length
  · have hfinished : ∀ v, (r.finish w).2.isFinished v = true ↔ r.isFinished v = true ∨ v = w := by
      simp [isFinished_finish, hlt]
    have hnews : (r.finish w).1 = true ↔ w ∉ r.roster.done := by
      show _ ↔ ¬ r.isFinished w = true
      cases hdone : r.latches[w].isDone with
      | true =>
        have hwas : r.isFinished w = true := by
          rw [isFinished_of_latch (List.getElem?_eq_getElem hlt), hdone]
        simp [finish_of_isFinished hwas, hwas]
      | false =>
        have hwas : r.isFinished w = false := by
          rw [isFinished_of_latch (List.getElem?_eq_getElem hlt), hdone]
        simp [finish_of_latch (List.getElem?_eq_getElem hlt) hdone, hwas]
    -- The worker that is done is what starts it all; whoever it spreads to is reached when the
    -- registry settles.
    have hfirst : Passes c ∅ {v | Spreads (c.workers r.world.1) ∅ {w} r.roster v} r
        (r.finish w).2 := by
      refine ⟨by simp, by simp, ?_, by simp, by simp, fun v hv => (hfinished v).mpr (.inl hv), ?_⟩
      · exact fun e entry he => ⟨entry.stage, by simpa using he, .refl _ _⟩
      · intro v hv
        rcases (hfinished v).mp hv with hv | rfl
        · exact .was hv
        · exact .given (Set.mem_singleton v)
    have hcovers := hfirst.covers (covers_spreads c r ∅ {w})
    obtain ⟨hrest, hsettle⟩ := (h.tidy.finish w).settle hc ∅ hcovers
    have hpasses := hfirst.trans hsettle
    have hgiven : ∀ v ∈ ({w} : Set WorkerId),
        (settle c.chronicled (r.finish w).2).isFinished v = true := by
      rintro v rfl
      exact hsettle.finished v ((hfinished v).mpr (.inr rfl))
    have hends := h.ends hrest hpasses (fun _ hi => absurd hi (Set.notMem_empty _)) hgiven
    exact ⟨_, _, rfl, hrest, hpasses.latches, hpasses.workers, .finished hlt hnews hends,
      fun fault hf => by cases hf⟩
  · have hnone : r.finish w = (false, r) := finish_of_none (by simpa using hlt)
    refine ⟨_, r, ?_, h, rfl, fun _ => rfl, .nobody (Nat.le_of_not_lt hlt), fun _ hf => by cases hf⟩
    simp [obey, hnone, h.settle_eq]

/-- A registry at rest grants every request for a stop of all. -/
theorem grants_stopAll (h : AtRest c r) (hc : c.Compliant) :
    ∃ response r', Grants c r .stopAll response r' := by
  let asked : Set Nat := {i | i ∈ r.roster.under.map Prod.snd}
  have hchosen : ∀ e ∈ r.bound.map Prod.snd, e ∈ asked ∧ ∃ entry, r.entries[e]? = some entry ∧
      ∀ w ∈ c.workers r.world.1 entry.session,
        w ∈ {w | Spreads (c.workers r.world.1) asked ∅ r.roster w} := by
    intro e he
    obtain ⟨b, hb, rfl⟩ := List.mem_map.mp he
    obtain ⟨entry, hentry, -⟩ := h.tidy.filed b hb
    exact ⟨he, entry, hentry, fun w hw => .asked he (getElem?_enrolments hentry) hw⟩
  obtain ⟨r₁, heach, hrest, hpasses, hover⟩ := h.stopEach hc
    (covers_spreads c r asked ∅) hchosen
  have hremove : (r.bound.map Prod.snd).foldl remove r₁ = { r₁ with bound := [] } := by
    rw [hrest.tidy.foldl_remove]
    refine congrArg (fun bound => { r₁ with bound := bound }) (List.filter_eq_nil_iff.mpr ?_)
    intro b hb
    simpa using ⟨b.1, hpasses.bound ▸ hb⟩
  have hclear : AtRest c { r₁ with bound := [] } := by simpa using hrest.under fun _ => false
  have hobeys : obey c.chronicled r .stopAll =
      some (.allStopped (.ok r.bound.length), { r₁ with bound := [] }) := by
    simp only [obey, stopAll, heach, hremove, Option.map_some, hclear.settle_eq, List.length_map]
  have hasked : ∀ i ∈ asked, ∀ entry', r₁.entries[i]? = some entry' → entry'.stage ≠ .armed := by
    intro i hi entry' he'
    obtain ⟨entry, he, hne⟩ := hover i hi
    rwa [Option.some.inj (he'.symm.trans he)]
  have hends := h.ends hrest hpasses hasked (fun _ hw => absurd hw (Set.notMem_empty _))
  exact ⟨_, _, hobeys, hclear, hpasses.latches, hpasses.workers, .all_stopped hends,
    fun _ hf => by cases hf⟩

/-- **A registry at rest grants every request.** -/
theorem grants (h : AtRest c r) (hc : c.Compliant)
    (hemployed : ∀ n, ∀ w ∈ c.workers r.world.1 n, w < r.latches.length) (request : Request κ) :
    ∃ response r', Grants c r request response r' := by
  cases request with
  | register key n => exact grants_register h hc key n (hemployed n)
  | stop key => exact grants_stop h hc key
  | stopAll => exact grants_stopAll h hc
  | forget key n => exact grants_forget h key n
  | finish w => exact grants_finish h hc w

/-! ## Every run -/

/-- A registry at rest enacts its roster through all requests. -/
theorem enacts_of_atRest (h : AtRest c r) (hc : c.Compliant)
    (hemployed : ∀ n, ∀ w ∈ c.workers r.world.1 n, w < r.latches.length)
    (requests : List (Request κ)) :
    Enacts c (c.workers r.world.1) r.latches.length r.roster r requests := by
  induction requests generalizing r with
  | nil => exact h.shows
  | cons request rest ih =>
    obtain ⟨response, r', hobeys, h', hlatches, hworkers, hanswers, hrefused⟩ :=
      grants h hc hemployed request
    have hrest := ih h' (by simpa only [hworkers, hlatches] using hemployed)
    rw [funext hworkers, hlatches] at hrest
    exact ⟨h.shows, response, r', _, hobeys, obey_plain hobeys, hanswers, hrefused, hrest⟩

/-- A registry without sessions. Some workers are done from the beginning, and nobody observes any.
-/
def staffed (finished : List Bool) (world : σ) : Registry κ σ :=
  ⟨[], [], finished.map fun done => ⟨done, []⟩, .empty, world⟩

omit [DecidableEq κ] in
/-- The roster of a registry without sessions is vacant. -/
theorem roster_staffed (finished : List Bool) (world : σ) :
    (staffed finished world : Registry κ σ).roster = .vacant finished := by
  have hfinished : ∀ w, (staffed finished world : Registry κ σ).isFinished w = true ↔
      finished[w]? = some true := by
    intro w
    cases hw : finished[w]? <;> simp [staffed, isFinished, hw]
  simp only [roster, hfinished]
  rfl

omit [DecidableEq κ] in
/-- A registry without sessions is at rest. -/
theorem atRest_staffed (finished : List Bool) (world : σ) :
    AtRest c (staffed finished (world, ⟨[], []⟩)) := by
  have hfiled : Filed (staffed finished (world, ⟨[], []⟩) : Registry κ (σ × Chronicle)) := by
    intro w latch hlatch g hg
    obtain ⟨done, -, rfl⟩ := List.mem_map.mp (List.mem_of_getElem? hlatch)
    cases hg
  refine ⟨⟨⟨hfiled, ?_, ?_⟩, ?_, ?_, ?_, ?_, ?_, ?_⟩, ?_⟩ <;> simp [staffed, keys, Settled]

/-- **A registry of compliant sessions is a map from keys to sessions.** Through every finite
sequence of requests it enacts the roster that begins vacant. -/
theorem enacts_staffed (hc : c.Compliant) (finished : List Bool) (world : σ)
    (hemployed : ∀ n, ∀ w ∈ c.workers world n, w < finished.length) (requests : List (Request κ)) :
    Enacts c (c.workers world) finished.length (.vacant finished)
      (staffed finished (world, ⟨[], []⟩)) requests := by
  have h := enacts_of_atRest (atRest_staffed finished world) hc
    (by simpa [staffed] using hemployed) requests
  rw [roster_staffed] at h
  simpa [staffed] using h

/-- Sessions of which no more is known than their workers and what their cleanups come to. -/
def puppets (workers : SessionId → List WorkerId) (ending : SessionId → Outcome) :
    Contract Text Unit where
  name := id
  workers _ := workers
  start _ r := r.world
  halt _ _ world := (true, world)
  cleanup n r := (.returns (ending n), r)

/-- The contract of puppets is compliant. -/
theorem compliant_puppets (workers : SessionId → List WorkerId) (ending : SessionId → Outcome) :
    (puppets workers ending).Compliant :=
  ⟨fun _ _ _ => rfl, fun _ _ _ => ⟨rfl, fun _ => rfl⟩, fun n _ => ⟨ending n, (), rfl, fun _ => rfl⟩⟩

/-- Two sessions that share a worker: when the other worker of the first is done, both end. -/
theorem enacts_staffed_shared :
    let c := puppets (fun n => if n = 0 then [0, 1] else [1]) fun n =>
      if n = 0 then some ['x'] else none
    c.Compliant ∧ (∀ n, ∀ w ∈ c.workers () n, w < 2) ∧
    Enacts c (c.workers ()) 2 (.vacant [false, false]) (staffed [false, false] ((), ⟨[], []⟩))
      [.register ['a'] 0, .register ['a'] 1, .register ['b'] 1, .finish 0, .register ['b'] 0,
        .stop ['a'], .stop ['b'], .stop ['b'], .stopAll] := by
  intro c
  have hemployed : ∀ n, ∀ w ∈ c.workers () n, w < 2 := by
    intro n w hw
    have hshared : w ∈ if n = 0 then [0, 1] else [1] := hw
    split at hshared
    · exact (by decide : ∀ v ∈ [0, 1], v < 2) w hshared
    · exact (by decide : ∀ v ∈ [1], v < 2) w hshared
  exact ⟨compliant_puppets _ _, hemployed,
    enacts_staffed (compliant_puppets _ _) [false, false] () hemployed _⟩

end Registry

end MediaProxy
