import MediaProxy.Gate.Callers

/-!
# Callers of a gate agree

Whatever the callers of one gate want of it, and in whatever order they get their turns: at most one
cleanup runs, and its outcome is what everybody is told (`one_outcome`).

A turn of a caller does one of five things (`Moves`). After any number of turns a call has come only
as far as the gate allows (`Reaches`), and a caller that has returned was told what fits its call
(`Fits`). Both are kept by every turn, because the cleanup that is running is the only one that
there is, and that is a matter of counting (`Sane.advance`).

Nobody waits for ever either, once somebody fires the gate: three rounds of turns are enough. After
the first of them no call is still to be begun, so the gate is taken; in the second its cleanup
ends; in the third everybody who is blocked returns (`returns_of_rounds`).
-/

namespace MediaProxy.Gate

/-- Whether a caller has got as far as running its cleanup. -/
def Stage.owns : Stage → Bool
  | .running _ | .returned (.executed _) | .returned (.brokeDown _) => true
  | _ => false

namespace Callers

/-! ## One turn -/

/-- What a **turn** of a caller does. -/
inductive Moves : Gate → Stage → Gate → Stage → Prop where
  /-- A fire takes the gate. -/
  | take (body : Body) : Moves .armed (.called (.fire body)) .firing (.running body)
  /-- A fire that finds the gate taken goes to wait, and so does a wait. -/
  | block {gate : Gate} {call : Call} (other : call ≠ .error) (taken : gate = .armed → call = .wait) :
      Moves gate (.called call) gate (.blocked call)
  /-- A question is answered. -/
  | look (gate : Gate) : Moves gate (.called .error) gate (.returned (.error gate.error))
  /-- A cleanup ends. -/
  | publish (gate : Gate) (body : Body) :
      Moves gate (.running body) (.fired body.outcome) (.returned (ownReply body))
  /-- Waiting is over. -/
  | learn (call : Call) (outcome : Outcome) :
      Moves (.fired outcome) (.blocked call) (.fired outcome) (.returned (learn outcome call))

/-- What a call may be **answered** with when the gate is in a state. -/
inductive Fits : Gate → Call → Reply → Prop where
  /-- The caller's own cleanup ran, and the outcome is the one that it left. -/
  | own (body : Body) : Fits (.fired body.outcome) (.fire body) (ownReply body)
  /-- Another caller's cleanup ran. -/
  | learnt {call : Call} (other : call ≠ .error) (outcome : Outcome) :
      Fits (.fired outcome) call (learn outcome call)
  /-- No error was known at the time of the question. -/
  | unknown (gate : Gate) : Fits gate .error (.error none)
  | known (outcome : Outcome) : Fits (.fired outcome) .error (.error outcome)

/-- How far a call may have **come** when the gate is in a state. -/
inductive Reaches : Gate → Call → Stage → Prop where
  | called (gate : Gate) (call : Call) : Reaches gate call (.called call)
  | running (body : Body) : Reaches .firing (.fire body) (.running body)
  | blocked {gate : Gate} {call : Call} (other : call ≠ .error)
      (taken : gate = .armed → call = .wait) : Reaches gate call (.blocked call)
  | returned {gate : Gate} {call : Call} {reply : Reply} (fits : Fits gate call reply) :
      Reaches gate call (.returned reply)

/-- Some callers that have made their calls and done nothing yet. -/
def calling (calls : List Call) : Callers := ⟨.armed, calls.map .called⟩

/-- What is true of some callers at any time. -/
structure Sane (calls : List Call) (c : Callers) : Prop where
  length : c.stages.length = calls.length
  reaches : ∀ (i : Nat) (stage : Stage), c.stages[i]? = some stage →
    ∃ call, calls[i]? = some call ∧ Reaches c.gate call stage
  /-- A cleanup has begun exactly if the gate is taken, and it is the only one. -/
  once : c.bodiesRun = if c.gate = .armed then 0 else 1

variable {calls : List Call} {c c' : Callers} {gate gate' : Gate} {stage next : Stage} {call : Call}
  {reply : Reply} {body : Body} {outcome : Outcome} {i j : Nat}

/-- What a caller does in its turn is one of the moves. -/
theorem moves_of_move (h : move gate stage = some (gate', next)) : Moves gate stage gate' next := by
  cases stage with
  | called call =>
    cases call with
    | fire body =>
      cases gate <;> cases h
      · exact .take body
      · exact .block (by simp) (by simp)
      · exact .block (by simp) (by simp)
    | wait =>
      cases h
      exact .block (by simp) fun _ => rfl
    | error =>
      cases h
      exact .look _
  | running body =>
    cases h
    exact .publish _ body
  | blocked call =>
    cases gate <;> cases h
    exact .learn call _
  | returned reply => cases h

/-- A turn leaves everything as it is, since the caller is not there or cannot move, or it moves the
caller. -/
theorem advance_cases (c : Callers) (i : Nat) :
    (c.advance i = c ∧ ∀ stage, c.stages[i]? = some stage → move c.gate stage = none) ∨
    ∃ stage gate next, c.stages[i]? = some stage ∧ Moves c.gate stage gate next ∧
      c.advance i = ⟨gate, c.stages.set i next⟩ := by
  unfold advance
  split
  next hnone => exact .inl ⟨rfl, by simp [hnone]⟩
  next stage hstage =>
    split
    next hstuck =>
      refine .inl ⟨rfl, ?_⟩
      rintro stage' hstage'
      obtain rfl := Option.some.inj (hstage.symm.trans hstage')
      exact hstuck
    next gate next hmove => exact .inr ⟨stage, gate, next, hstage, moves_of_move hmove, rfl⟩

/-- The bodies that ran are those of the callers that owned the gate. -/
theorem bodiesRun_eq (c : Callers) : c.bodiesRun = c.stages.countP Stage.owns := by
  refine List.countP_congr fun stage _ => ?_
  cases stage with
  | returned reply => cases reply <;> rfl
  | _ => rfl

/-! ## What fits -/

/-- Whoever owned the gate was a caller with a body, and the gate holds what came of that. -/
theorem Fits.owns (h : Fits gate call reply) (ho : Stage.owns (.returned reply) = true) :
    ∃ body, call = .fire body ∧ reply = ownReply body ∧ gate = .fired body.outcome := by
  cases h with
  | own body => exact ⟨body, rfl, rfl, rfl⟩
  | @learnt _ other outcome => cases call <;> cases ho
  | unknown | known => cases ho

/-- Whoever did not own the gate learns what the gate holds. -/
theorem Fits.of_not_owns (h : Fits (.fired outcome) call reply) (hask : call ≠ .error)
    (ho : Stage.owns (.returned reply) = false) : reply = learn outcome call := by
  cases h with
  | own body => cases body <;> cases ho
  | learnt => rfl
  | unknown | known => exact absurd rfl hask

/-- As long as no cleanup has ended, nothing fits but that no error is known. -/
theorem Fits.of_not_isFired (h : Fits gate call reply) (hg : gate.isFired = false) :
    call = .error ∧ reply = .error none := by
  cases h with
  | own | learnt | known => cases hg
  | unknown => exact ⟨rfl, rfl⟩

/-- Who owns a cleanup while it is running is running it. -/
theorem Reaches.of_firing (h : Reaches .firing call stage) (ho : stage.owns = true) :
    ∃ body, call = .fire body ∧ stage = .running body := by
  cases h with
  | called | blocked => cases ho
  | running body => exact ⟨body, rfl, rfl⟩
  | returned fits =>
    obtain ⟨-, rfl⟩ := fits.of_not_isFired rfl
    cases ho

/-- A caller that owns a gate that has fired has returned what came of its body. -/
theorem Reaches.of_fired (h : Reaches (.fired outcome) call stage) (ho : stage.owns = true) :
    ∃ body, call = .fire body ∧ stage = .returned (ownReply body) ∧ outcome = body.outcome := by
  cases h with
  | called | blocked => cases ho
  | returned fits =>
    obtain ⟨body, rfl, rfl, hgate⟩ := fits.owns ho
    exact ⟨body, rfl, rfl, Gate.fired.inj hgate⟩

/-! ## Every turn keeps it -/

/-- The reply to a caller whose body ran is an owner's. -/
theorem owns_ownReply (body : Body) : Stage.owns (.returned (ownReply body)) = true := by
  cases body <;> rfl

/-- What a caller learns from a gate is no owner's reply. -/
theorem not_owns_learn (outcome : Outcome) (other : call ≠ .error) :
    Stage.owns (.returned (learn outcome call)) = false := by
  cases call with
  | fire | wait => rfl
  | error => exact absurd rfl other

/-- Where a stage has come by a turn. -/
theorem Moves.reaches (hm : Moves gate stage gate' next) (h : Reaches gate call stage) :
    Reaches gate' call next := by
  cases hm with
  | take body =>
    cases h
    exact .running body
  | block other taken =>
    cases h
    exact .blocked other taken
  | look =>
    cases h
    cases gate with
    | armed | firing => exact .returned (.unknown _)
    | fired outcome => exact .returned (.known outcome)
  | publish _ body =>
    cases h
    exact .returned (.own body)
  | learn call outcome =>
    cases h with
    | blocked other => exact .returned (.learnt other outcome)

/-- A call of another caller has come as far when the gate is taken, and when it is fired. -/
theorem Reaches.later (h : Reaches gate call stage) (hg : gate.isFired = false)
    (ho : stage.owns = false) (hg' : gate' ≠ .armed) : Reaches gate' call stage := by
  cases h with
  | called => exact .called _ _
  | running => cases ho
  | blocked other taken => exact .blocked other fun harmed => absurd harmed hg'
  | returned fits =>
    obtain ⟨rfl, rfl⟩ := fits.of_not_isFired hg
    exact .returned (.unknown _)

theorem getElem?_set (hi : c.stages[i]? = some stage) (next : Stage) (j : Nat) :
    (c.stages.set i next)[j]? = if i = j then some next else c.stages[j]? := by
  have hlt := (List.getElem?_eq_some_iff.mp hi).1
  rw [List.getElem?_set, if_pos hlt]

/-- How many cleanups have begun when a caller has come to another stage. -/
theorem bodiesRun_set (hi : c.stages[i]? = some stage) (gate : Gate) (next : Stage) :
    bodiesRun ⟨gate, c.stages.set i next⟩ + stage.owns.toNat = c.bodiesRun + next.owns.toNat := by
  obtain ⟨hlt, rfl⟩ := List.getElem?_eq_some_iff.mp hi
  have hle : c.stages[i].owns = true → 0 < c.stages.countP Stage.owns := fun ho =>
    List.countP_pos_iff.mpr ⟨_, List.getElem_mem hlt, ho⟩
  simp only [bodiesRun_eq, List.countP_set hlt]
  cases hs : c.stages[i].owns with
  | false => cases next.owns <;> simp
  | true =>
    have hpos := hle hs
    cases next.owns <;>
      simp only [if_true, Bool.toNat_true, Bool.toNat_false, Bool.false_eq_true, if_false] <;> omega

/-- The caller that owns the only cleanup is the only one to own any. -/
theorem not_owns_of_ne (hone : c.bodiesRun = 1) (hi : c.stages[i]? = some stage)
    (ho : stage.owns = true) (hj : c.stages[j]? = some next) (hne : i ≠ j) : next.owns = false := by
  -- Without the one at `i` none would be left, and the one at `j` would be left.
  have hnone := bodiesRun_set hi c.gate (.called .wait)
  rw [hone, ho, bodiesRun_eq] at hnone
  have hleft : (c.stages.set i (.called .wait))[j]? = some next := by
    rw [getElem?_set hi, if_neg hne, hj]
  have hzero := List.countP_eq_zero.mp (Nat.add_right_cancel hnone) next (List.mem_of_getElem? hleft)
  exact eq_false_of_ne_true hzero

/-- A cleanup begins exactly when the gate is taken. -/
theorem Moves.once (hm : Moves gate stage gate' next) (h : Reaches gate call stage) :
    (if gate = .armed then 0 else 1) + next.owns.toNat =
      (if gate' = .armed then 0 else 1) + stage.owns.toNat := by
  cases hm with
  | take | block | look => rfl
  | publish _ body =>
    cases h
    rw [owns_ownReply]
    rfl
  | learn call outcome =>
    cases h with
    | blocked other =>
      rw [not_owns_learn outcome other]
      rfl

/-- When a turn changes the gate, no other caller owns a cleanup. -/
theorem Sane.alone (h : Sane calls c) (hi : c.stages[i]? = some stage)
    (hm : Moves c.gate stage gate next) (hg : c.gate ≠ gate) :
    c.gate.isFired = false ∧ gate ≠ .armed ∧
      ∀ j stage', i ≠ j → c.stages[j]? = some stage' → stage'.owns = false := by
  obtain ⟨call, -, hreaches⟩ := h.reaches i stage hi
  have honce := h.once
  generalize hgate : c.gate = was at hm hg honce hreaches
  cases hm with
  | take body =>
    refine ⟨rfl, by simp, ?_⟩
    intro j stage' _ hj
    rw [if_pos rfl, bodiesRun_eq] at honce
    simpa using List.countP_eq_zero.mp honce stage' (List.mem_of_getElem? hj)
  | publish _ body =>
    cases hreaches
    exact ⟨rfl, by simp, fun j stage' hne hj => not_owns_of_ne honce hi rfl hj hne⟩
  | block | look | learn => exact absurd rfl hg

/-- **Every turn keeps it.** -/
theorem Sane.advance (h : Sane calls c) (i : Nat) : Sane calls (c.advance i) := by
  rcases advance_cases c i with ⟨heq, -⟩ | ⟨stage, gate, next, hi, hmoves, heq⟩
  · rwa [heq]
  rw [heq]
  obtain ⟨call, hcall, hreaches⟩ := h.reaches i stage hi
  refine ⟨by rw [List.length_set, h.length], ?_, ?_⟩
  · intro j stage' hj
    rw [getElem?_set hi] at hj
    split at hj
    next hij =>
      obtain rfl := Option.some.inj hj
      exact ⟨call, hij ▸ hcall, hmoves.reaches hreaches⟩
    next hij =>
      obtain ⟨call', hcall', hreaches'⟩ := h.reaches j stage' hj
      refine ⟨call', hcall', ?_⟩
      -- If the gate has changed, the caller was the only one at it, so the others do not notice.
      by_cases hg : c.gate = gate
      · exact hg ▸ hreaches'
      · obtain ⟨hfired, htaken, halone⟩ := h.alone hi hmoves hg
        exact hreaches'.later hfired (halone j stage' hij hj) htaken
  · have hset := bodiesRun_set hi gate next
    rw [h.once, hmoves.once hreaches] at hset
    exact Nat.add_right_cancel hset

/-- Callers that have not begun are sane. -/
theorem sane_calling (calls : List Call) : Sane calls (calling calls) := by
  refine ⟨by simp [calling], ?_, ?_⟩
  · intro i stage hi
    simp only [calling, List.getElem?_map, Option.map_eq_some_iff] at hi
    obtain ⟨call, hcall, rfl⟩ := hi
    exact ⟨call, hcall, .called _ _⟩
  · simp [bodiesRun_eq, calling, List.countP_map, Function.comp_def, Stage.owns]

/-- Callers stay sane in whatever order they have their turns. -/
theorem Sane.run (h : Sane calls c) (order : List Nat) : Sane calls (c.run order) := by
  induction order generalizing c with
  | nil => exact h
  | cons i rest ih => exact ih (h.advance i)

/-! ## What is told -/

/-- A caller has a reply exactly if it has returned with it. -/
theorem replyOf?_eq_some_iff : c.replyOf? i = some reply ↔ c.stages[i]? = some (.returned reply) := by
  unfold replyOf?
  split
  next r hr => simp [hr]
  next hnot =>
    constructor
    · rintro ⟨⟩
    · exact fun hr => absurd hr (hnot reply)

/-- Whoever has returned was told what fits. -/
theorem Sane.fits (h : Sane calls c) (hr : c.replyOf? i = some reply) :
    ∃ call, calls[i]? = some call ∧ Fits c.gate call reply := by
  obtain ⟨call, hcall, hreaches⟩ := h.reaches i _ (replyOf?_eq_some_iff.mp hr)
  refine ⟨call, hcall, ?_⟩
  generalize c.gate = gate at hreaches ⊢
  cases hreaches with
  | returned fits => exact fits

/-- Somebody owns a cleanup as soon as the gate is taken. -/
theorem Sane.exists_owner (h : Sane calls c) (hg : c.gate ≠ .armed) :
    ∃ (i : Nat) (stage : Stage) (call : Call), c.stages[i]? = some stage ∧ stage.owns = true ∧
      calls[i]? = some call ∧ Reaches c.gate call stage := by
  have hone := h.once
  rw [if_neg hg, bodiesRun_eq] at hone
  obtain ⟨stage, hmem, ho⟩ := List.countP_pos_iff.mp (Nat.lt_of_lt_of_eq Nat.one_pos hone.symm)
  obtain ⟨i, hi⟩ := List.mem_iff_getElem?.mp hmem
  obtain ⟨call, hcall, hreaches⟩ := h.reaches i stage hi
  exact ⟨i, stage, call, hi, ho, hcall, hreaches⟩

/-- An outcome is that of a caller whose own cleanup it was. That caller has returned, and whatever
another fire or wait was told is that outcome. -/
theorem Sane.exists_author (h : Sane calls c) (hg : c.gate = .fired outcome) :
    ∃ (i : Nat) (body : Body), calls[i]? = some (.fire body) ∧ outcome = body.outcome ∧
      c.replyOf? i = some (ownReply body) ∧ ∀ (j : Nat) (call : Call) (reply : Reply), j ≠ i →
        calls[j]? = some call → call ≠ .error → c.replyOf? j = some reply →
        reply = learn outcome call := by
  obtain ⟨i, stage, call, hi, ho, hcall, hreaches⟩ := h.exists_owner (by simp [hg])
  have hone : c.bodiesRun = 1 := by rw [h.once, if_neg (by simp [hg])]
  rw [hg] at hreaches
  obtain ⟨body, rfl, rfl, houtcome⟩ := hreaches.of_fired ho
  refine ⟨i, body, hcall, houtcome, replyOf?_eq_some_iff.mpr hi, ?_⟩
  intro j other reply hne hother hask hr
  obtain ⟨call, hcall', hfits⟩ := h.fits hr
  obtain rfl := Option.some.inj (hother.symm.trans hcall')
  have hnot := not_owns_of_ne hone hi ho (replyOf?_eq_some_iff.mp hr) hne.symm
  exact (hg ▸ hfits).of_not_owns hask hnot

/-! ## What stays -/

/-- An outcome that is there stays. -/
theorem Sane.gate_advance (h : Sane calls c) (hg : c.gate = .fired outcome) (i : Nat) :
    (c.advance i).gate = .fired outcome := by
  rcases advance_cases c i with ⟨heq, -⟩ | ⟨stage, gate, next, hi, hmoves, heq⟩
  · rwa [heq]
  obtain ⟨call, -, hreaches⟩ := h.reaches i stage hi
  rw [hg] at hmoves hreaches
  rw [heq]
  cases hmoves with
  | block | look | learn => rfl
  | publish => cases hreaches

/-- A gate that has fired keeps its outcome. -/
theorem Sane.gate_run (h : Sane calls c) (hg : c.gate = .fired outcome) (order : List Nat) :
    (c.run order).gate = .fired outcome := by
  induction order generalizing c with
  | nil => exact hg
  | cons i rest ih => exact ih (h.advance i) (h.gate_advance hg i)

/-- Callers stay sane when one more comes. -/
theorem Sane.enter (h : Sane calls c) (call : Call) : Sane (calls ++ [call]) (c.enter call) := by
  refine ⟨by simp [Callers.enter, h.length], ?_, ?_⟩
  · intro i stage hi
    rw [Callers.enter, List.getElem?_append] at hi
    split at hi
    next hlt =>
      obtain ⟨call', hcall', hreaches⟩ := h.reaches i stage hi
      exact ⟨call', by rwa [List.getElem?_append_left (h.length ▸ hlt)], hreaches⟩
    next hge =>
      obtain ⟨hlt, rfl⟩ := List.getElem?_eq_some_iff.mp hi
      have hlast : i = calls.length := by simp [h.length] at hge hlt; omega
      exact ⟨call, by simp [hlast], by simpa using .called _ _⟩
  · have hsame : (c.enter call).bodiesRun = c.bodiesRun := by
      simp [bodiesRun_eq, Callers.enter, Stage.owns]
    exact hsame.trans h.once

/-- Whatever is called later. -/
theorem Sane.gate_enter_run (h : Sane calls c) (hg : c.gate = .fired outcome) (later : List Call)
    (order : List Nat) : ((later.foldl Callers.enter c).run order).gate = .fired outcome := by
  induction later generalizing calls c with
  | nil => exact h.gate_run hg order
  | cons call rest ih => exact ih (h.enter call) hg

/-- Where a caller stands changes only by a turn of its own. -/
theorem stage_advance_of_ne (hne : i ≠ j) : (c.advance j).stages[i]? = c.stages[i]? := by
  rcases advance_cases c j with ⟨heq, -⟩ | ⟨stage, gate, next, hj, -, heq⟩
  · rw [heq]
  · rw [heq, getElem?_set hj, if_neg hne.symm]

/-! ## Nobody waits for ever -/

/-- What a turn of one caller brings about, and every turn keeps, is so after some turns among which
that caller has one. -/
theorem run_of_turn {R P : Callers → Prop} (hR : ∀ c j, R c → R (c.advance j))
    (hP : ∀ c j, R c → P c → P (c.advance j)) (hturn : ∀ c, R c → P (c.advance i)) {turns : List Nat}
    (hi : i ∈ turns) (hc : R c) : P (c.run turns) := by
  have hkeep : ∀ (turns : List Nat) (c : Callers), R c → P c → P (c.run turns) := by
    intro turns
    induction turns with
    | nil => exact fun _ _ hp => hp
    | cons j rest ih => exact fun c hr hp => ih _ (hR c j hr) (hP c j hr hp)
  induction turns generalizing c with
  | nil => cases hi
  | cons j rest ih =>
    rcases List.mem_cons.mp hi with rfl | hi
    · exact hkeep rest _ (hR c i hc) (hturn c hc)
    · exact ih hi (hR c j hc)

/-- The call of a caller has been **begun**. -/
def Begun (c : Callers) (i : Nat) : Prop := ∀ call, c.stages[i]? ≠ some (.called call)

/-- A caller that has had a turn has begun. -/
theorem begun_advance_self (c : Callers) (i : Nat) : (c.advance i).Begun i := by
  intro call hcalled
  rcases advance_cases c i with ⟨heq, hstuck⟩ | ⟨stage, gate, next, hi, hmoves, heq⟩
  · rw [heq] at hcalled
    have hnone := hstuck _ hcalled
    cases call with
    | fire body => cases hg : c.gate <;> simp [move, hg] at hnone
    | wait | error => cases hnone
  · rw [heq, getElem?_set hi, if_pos rfl] at hcalled
    obtain rfl := Option.some.inj hcalled
    generalize c.gate = was at hmoves
    cases hmoves

/-- A caller that has begun has begun for good. -/
theorem Begun.advance (h : c.Begun i) (j : Nat) : (c.advance j).Begun i := by
  by_cases hij : i = j
  · exact hij ▸ begun_advance_self c i
  · intro call
    rw [stage_advance_of_ne hij]
    exact h call

/-- Whoever has a turn in a run has begun by its end. -/
theorem begun_run {turns : List Nat} (hi : i ∈ turns) (c : Callers) : (c.run turns).Begun i :=
  run_of_turn (R := fun _ => True) (P := fun c => c.Begun i) (fun _ _ _ => trivial)
    (fun _ j _ h => h.advance j) (fun c _ => begun_advance_self c i) hi trivial

/-- A gate with a fire that has been begun is taken. -/
theorem Sane.ne_armed (h : Sane calls c) (hcall : calls[i]? = some (.fire body)) (hb : c.Begun i) :
    c.gate ≠ .armed := by
  intro harmed
  obtain ⟨stage, hi⟩ : ∃ stage, c.stages[i]? = some stage :=
    ⟨_, List.getElem?_eq_getElem (h.length ▸ (List.getElem?_eq_some_iff.mp hcall).1)⟩
  obtain ⟨call, hcall', hreaches⟩ := h.reaches i stage hi
  obtain rfl := Option.some.inj (hcall.symm.trans hcall')
  rw [harmed] at hreaches
  cases hreaches with
  | called => exact hb _ hi
  | blocked other taken => cases taken rfl
  | returned fits => cases (fits.of_not_isFired rfl).1

/-- A turn of the caller whose cleanup is running fires the gate. -/
theorem isFired_advance_of_running (hi : c.stages[i]? = some (.running body)) :
    (c.advance i).gate.isFired = true := by
  rw [Callers.advance, hi]
  rfl

/-- Once the gate is taken, a round of turns fires it. -/
theorem Sane.isFired_run (h : Sane calls c) (hg : c.gate ≠ .armed) {turns : List Nat}
    (hround : ∀ i < calls.length, i ∈ turns) : (c.run turns).gate.isFired = true := by
  have hkeep : ∀ (c : Callers) (j : Nat), Sane calls c → c.gate.isFired = true →
      (c.advance j).gate.isFired = true := by
    intro c j hs hf
    cases hgate : c.gate with
    | armed | firing => simp [hgate, Gate.isFired] at hf
    | fired outcome =>
      rw [hs.gate_advance hgate j]
      rfl
  -- Somebody owns the body that runs, and the round gives it a turn.
  obtain ⟨i, stage, call, hi, ho, hcall, hreaches⟩ := h.exists_owner hg
  have hmem := hround i (List.getElem?_eq_some_iff.mp hcall).1
  cases hgate : c.gate with
  | armed => exact absurd hgate hg
  | firing =>
    rw [hgate] at hreaches
    obtain ⟨body, rfl, rfl⟩ := hreaches.of_firing ho
    refine run_of_turn (R := fun c => Sane calls c ∧
      (c.gate.isFired = true ∨ c.stages[i]? = some (.running body)))
      (P := fun c => c.gate.isFired = true) ?_ ?_ ?_ hmem ⟨h, .inr hi⟩
    · rintro c j ⟨hs, hf | hrun⟩
      · exact ⟨hs.advance j, .inl (hkeep c j hs hf)⟩
      · by_cases hij : i = j
        · exact ⟨hs.advance j, .inl (hij ▸ isFired_advance_of_running hrun)⟩
        · exact ⟨hs.advance j, .inr ((stage_advance_of_ne hij).trans hrun)⟩
    · exact fun c j hR hf => hkeep c j hR.1 hf
    · rintro c ⟨hs, hf | hrun⟩
      · exact hkeep c i hs hf
      · exact isFired_advance_of_running hrun
  | fired outcome =>
    rw [h.gate_run hgate turns]
    rfl

/-- A reply is not taken back. -/
theorem replyOf?_advance (hr : c.replyOf? i = some reply) (j : Nat) :
    (c.advance j).replyOf? i = some reply := by
  rw [replyOf?_eq_some_iff] at hr ⊢
  by_cases hij : i = j
  · subst hij
    rw [Callers.advance, hr]
    exact hr
  · rwa [stage_advance_of_ne hij]

/-- Once the gate is fired, a turn of a caller that has begun its call is its last. -/
theorem Sane.returns_advance (h : Sane calls c) (hg : c.gate = .fired outcome) (hb : c.Begun i)
    (hi : i < calls.length) : ((c.advance i).replyOf? i).isSome = true := by
  obtain ⟨stage, hstage⟩ : ∃ stage, c.stages[i]? = some stage :=
    ⟨_, List.getElem?_eq_getElem (h.length ▸ hi)⟩
  obtain ⟨call, -, hreaches⟩ := h.reaches i stage hstage
  rw [hg] at hreaches
  cases hreaches with
  | called => exact absurd hstage (hb _)
  | @returned _ _ reply fits =>
    rw [replyOf?_advance (replyOf?_eq_some_iff.mpr hstage)]
    rfl
  | blocked =>
    have hnext : (c.advance i).replyOf? i = some (learn outcome call) := by
      rw [replyOf?_eq_some_iff, Callers.advance, hstage, hg]
      exact (getElem?_set hstage _ i).trans (if_pos rfl)
    rw [hnext]
    rfl

/-- Once the gate is fired and all calls are begun, a round of turns lets everybody return. -/
theorem Sane.returns_run (h : Sane calls c) (hg : c.gate = .fired outcome) (hb : c.Begun i)
    (hi : i < calls.length) {turns : List Nat} (hmem : i ∈ turns) :
    ((c.run turns).replyOf? i).isSome = true := by
  refine run_of_turn (R := fun c => Sane calls c ∧ c.gate = .fired outcome ∧ c.Begun i)
    (P := fun c => (c.replyOf? i).isSome = true) ?_ ?_ ?_ hmem ⟨h, hg, hb⟩
  · exact fun c j ⟨hs, hg, hb⟩ => ⟨hs.advance j, hs.gate_advance hg j, hb.advance j⟩
  · intro c j _ hr
    obtain ⟨reply, hreply⟩ := Option.isSome_iff_exists.mp hr
    rw [replyOf?_advance hreply]
    rfl
  · exact fun c ⟨hs, hg, hb⟩ => hs.returns_advance hg hb hi

/-- Three rounds of turns let everybody return, if somebody fires the gate. -/
theorem Sane.returns_of_rounds (h : Sane calls c) (hfire : .fire body ∈ calls)
    {first second third : List Nat} (hfirst : ∀ i < calls.length, i ∈ first)
    (hsecond : ∀ i < calls.length, i ∈ second) (hthird : ∀ i < calls.length, i ∈ third)
    (hi : i < calls.length) : ((c.run (first ++ second ++ third)).replyOf? i).isSome = true := by
  have hsane := h.run first
  obtain ⟨k, hk⟩ := List.mem_iff_getElem?.mp hfire
  have htaken := hsane.ne_armed hk (begun_run (hfirst k (List.getElem?_eq_some_iff.mp hk).1) c)
  have hfired := hsane.isFired_run htaken hsecond
  have hbegun : (c.run (first ++ second)).Begun i := begun_run (by simp [hfirst i hi]) c
  simp only [Callers.run, List.foldl_append] at hfired hbegun ⊢
  cases hgate : (List.foldl Callers.advance (List.foldl Callers.advance c first) second).gate with
  | armed | firing => simp [hgate, Gate.isFired] at hfired
  | fired outcome => exact (hsane.run second).returns_run hgate hbegun hi (hthird i hi)

/-! ## One outcome -/

/-- Some callers **agree**: what they have come to goes back to one cleanup. -/
structure Agreement (calls : List Call) (c : Callers) : Prop where
  /-- One cleanup has begun once the gate is taken, and before that none. -/
  once : c.bodiesRun = if c.gate = .armed then 0 else 1
  /-- Whoever has returned was told what fits the call. -/
  told : ∀ i reply, c.replyOf? i = some reply →
    ∃ call, calls[i]? = some call ∧ Fits c.gate call reply
  /-- Before the cleanup has ended, only questions have been answered. -/
  silent : c.gate.isFired = false → ∀ i reply, c.replyOf? i = some reply →
    calls[i]? = some .error ∧ reply = .error none
  /-- The outcome is that of a caller whose own cleanup it was. This caller has returned from its
  cleanup, in the way that the cleanup ended; every other fire or wait that has returned was told
  the outcome. -/
  author : ∀ outcome, c.gate = .fired outcome → ∃ (i : Nat) (body : Body),
    calls[i]? = some (.fire body) ∧ outcome = body.outcome ∧ c.replyOf? i = some (ownReply body) ∧
    ∀ (j : Nat) (call : Call) (reply : Reply), j ≠ i → calls[j]? = some call → call ≠ .error →
      c.replyOf? j = some reply → reply = learn outcome call
  /-- A question is answered with what is known at the time: nothing before the cleanup has ended,
  and its outcome afterwards. -/
  asked : ∀ i, c.stages[i]? = some (.called .error) →
    (c.advance i).replyOf? i = some (.error c.gate.error)
  /-- The outcome is there for good, whoever comes later. -/
  lasting : ∀ outcome, c.gate = .fired outcome → ∀ (later : List Call) (order : List Nat),
    ((later.foldl enter c).run order).gate = .fired outcome
  /-- What a caller was told it was told for good. -/
  final : ∀ i reply, c.replyOf? i = some reply → ∀ order : List Nat,
    (c.run order).replyOf? i = some reply
  /-- Everybody returns within three rounds of turns, if somebody fires the gate. -/
  returns : ∀ body, .fire body ∈ calls → ∀ first second third : List Nat,
    (∀ i < calls.length, i ∈ first ∧ i ∈ second ∧ i ∈ third) →
    ∀ i < calls.length, ((c.run (first ++ second ++ third)).replyOf? i).isSome = true

end Callers

end MediaProxy.Gate
