import MediaProxy.Proofs.Relay.Holding
import MediaProxy.Proofs.Relay.Settling

/-!
# The life of a relay

The end of a relay begins once, with a call that closes it or with a worker whose socket has failed,
and that decides for good with which error. What is to be seen of the end is what its chores have
done so far (`Lifetime`, `lives`). The sockets are held until the end is over and whoever held them
has let go, and then they are anybody's (`Over`).

A call that closes a relay returns when the workers have left whose handles it has found. Made
alone, with no other call under way, it returns to a relay that is over (`Solo`). If there are
others, it may be that one of them has taken the handles and is still waiting, or that a start has
begun the workers meanwhile; `Lifetime.returned` says that it can be nothing else.
-/

namespace MediaProxy

namespace Host

/-- The host chooses no port below its own range. -/
theorem lowestOwnPort_le {h : Host} {ip : IpAddress} {port : UInt16}
    (hp : h.freePort? ip = some port) : lowestOwnPort ≤ port.toNat := by
  obtain ⟨i, hi, rfl⟩ := List.mem_map.mp (List.mem_of_find?_eq_some hp)
  have hlt : i < 28232 := List.mem_range.mp hi
  rw [UInt16.toNat_ofNat', lowestOwnPort]
  omega

/-- A port that the host hands out is not zero. -/
theorem freePort?_ne_zero {h : Host} {ip : IpAddress} {port : UInt16}
    (hp : h.freePort? ip = some port) : port ≠ 0 := by
  rintro rfl
  exact absurd (lowestOwnPort_le hp) (by decide)

/-- An address that was bound once can be **bound again** wherever it is free, and nowhere else. -/
theorem bind_again {h h' host : Host} {a a' : SocketAddress} (hb : h.bind a = .ok (a', h'))
    (hsame : host.allowance = h.allowance) : host.bind a' = host.bindExactly a' := by
  obtain ⟨-, -, hzone, hip⟩ := bind_ok hb
  have hagain (howns : h.owns a.ip = true) (hport : a'.port ≠ 0)
      (hhigh : ¬a'.port < h.allowance.lowest) : host.bind a' = host.bindExactly a' := by
    have howns' : host.owns a'.ip = true := by rw [owns, hsame, hip]; exact howns
    simp only [Host.bind, howns', hport, hsame, hhigh, hzone, Bool.not_true, Bool.false_eq_true, if_false]
  unfold Host.bind at hb
  -- A port that is asked for is the one that is bound, unless it is zero.
  split at hb
  · cases hb
  next howns =>
    have howns : h.owns a.ip = true := by simpa using howns
    split at hb
    · split at hb
      next port hport =>
        obtain ⟨rfl, -, -⟩ := bindExactly_ok hb
        have hhigh : ¬port < h.allowance.lowest := fun hlow =>
          Nat.not_lt.mpr (h.allowance.lowest_le.trans (lowestOwnPort_le hport)) (UInt16.lt_iff_toNat_lt.mp hlow)
        exact hagain howns (freePort?_ne_zero hport) hhigh
      next => cases hb
    next hport =>
      split at hb
      · cases hb
      next hhigh =>
        obtain ⟨rfl, -, -⟩ := bindExactly_ok hb
        exact hagain howns hport hhigh

/-- An address that is bound is not free. -/
theorem not_isFree_of_mem {h : Host} {a : SocketAddress} (ha : a ∈ h.bound) : h.isFree a = false := by
  have hself : a.collides a = true := by simp [SocketAddress.collides, IpAddress.covers]
  rw [isFree, List.all_eq_false]
  exact ⟨a, ha, by simp [hself]⟩

end Host

namespace Relay

/-- What a relay that has been made is bound to could be bound. -/
theorem bind_of_tryOpen {inbound target : Text} {r : Relay} {s s' : Site}
    (h : tryOpen inbound target s = (.ok r, s')) :
    ∃ a host, resolve inbound = .ok a ∧ s.host.bind a = .ok (r.inbound, host) := by
  unfold tryOpen at h
  split at h
  · cases h
  next a ha =>
    split at h
    · cases h
    split at h
    · cases h
    next bound host hbind =>
      split at h
      · cases h
      · cases h
        exact ⟨a, host, ha, hbind⟩

namespace Works

variable {x y z : Works} {act : Act} {acts : List Act} {r : Relay} {o : Observers}

/-! ## The end -/

/-- What a step does to **the end and the latch** of a relay. -/
inductive Affects (x : Works) (act : Act) (y : Works) : Prop where
  | quiet (still : act.ending? = none) (unwatched : act.watch? = none)
      (closing : y.closing = x.closing) (latch : y.relay.latch = x.relay.latch)
      (observers : y.observers = x.observers)
  | watched {w : Watch} (act_eq : act = .watched w)
      (watches : Watches x.relay.latch x.observers w y.relay.latch y.observers)
      (closing : y.closing = x.closing)
  | begins {error : Option Text} (act_eq : act = .ends error) (fresh : x.closing = none)
      (y_eq : y = x.beginEnd error)
  | chore {error : Option Text} {chore : Chore} {left : List Chore} (act_eq : act = .turns)
      (pending : x.closing = some ⟨error, chore :: left⟩) (y_eq : y = x.discharge error left chore)

/-- What a turn does to the end and the latch. -/
theorem Turn.affects (h : Turn x act y) : Affects x act y := by
  cases h with
  | starter turn => cases turn <;> exact .quiet rfl rfl rfl rfl rfl
  | receiver turn =>
    cases turn with
    | ends _ fresh => exact .begins rfl fresh rfl
    | _ => exact .quiet rfl rfl rfl rfl rfl
  | forwarder turn =>
    cases turn with
    | ends _ fresh => exact .begins rfl fresh rfl
    | _ => exact .quiet rfl rfl rfl rfl rfl
  | call turn =>
    cases turn with
    | ends _ fresh => exact .begins rfl fresh rfl
    | _ => exact .quiet rfl rfl rfl rfl rfl
  | chore pending => exact .chore rfl pending rfl

/-- What a step does to the end and the latch. -/
theorem Step.affects (h : Step x act y) : Affects x act y := by
  cases h with
  | starts =>
    unfold Works.start
    split <;> exact .quiet rfl rfl rfl rfl rfl
  | arrives =>
    unfold Works.arrive
    split <;> exact .quiet rfl rfl rfl rfl rfl
  | closes | elsewhere | inboundFails | outboundFails => exact .quiet rfl rfl rfl rfl rfl
  | watched watches => exact .watched rfl watches rfl
  | turn ht => exact ht.affects

/-- A chore that has been done is off the list. -/
theorem closing_discharge (error : Option Text) (left : List Chore) (chore : Chore) :
    (x.discharge error left chore).closing = some ⟨error, left⟩ := by
  cases chore <;> rfl

/-- The end of a relay is **for good**: its error is the same, and of its chores more and more are
done. -/
theorem Step.closing (h : Step x act y) {closing : Closing} (hclosing : x.closing = some closing) :
    ∃ left, y.closing = some ⟨closing.error, left⟩ ∧ left <:+ closing.pending := by
  cases h.affects with
  | quiet _ _ hsame | watched _ _ hsame => exact ⟨_, hsame.trans hclosing, List.suffix_rfl⟩
  | begins _ fresh => exact absurd (fresh.symm.trans hclosing) nofun
  | chore _ pending y_eq =>
    subst y_eq
    obtain rfl := Option.some.inj (pending.symm.trans hclosing)
    exact ⟨_, closing_discharge .., List.suffix_cons ..⟩

/-- An end that has begun goes on with the same error, and its chores get fewer from the front. -/
theorem closing_run (h : Run Step x acts y) {closing : Closing} (hclosing : x.closing = some closing) :
    ∃ left, y.closing = some ⟨closing.error, left⟩ ∧ left <:+ closing.pending := by
  induction h with
  | here => exact ⟨_, hclosing, List.suffix_rfl⟩
  | next _ hlast ih =>
    obtain ⟨left, hleft, hsuffix⟩ := ih
    obtain ⟨left', hleft', hsuffix'⟩ := hlast.closing hleft
    exact ⟨left', hleft', hsuffix'.trans hsuffix⟩

/-- What has been done at the end is not done again. -/
theorem owes_run (h : Run Step x acts y) {chore : Chore} (hdone : x.owes chore = false) :
    y.owes chore = false := by
  cases hclosing : x.closing with
  | none => exact absurd ((owes_of_fresh hclosing chore).symm.trans hdone) nofun
  | some closing =>
    obtain ⟨left, hleft, hsuffix⟩ := closing_run h hclosing
    simp only [owes, hclosing, hleft, decide_eq_false_iff_not] at hdone ⊢
    exact fun hmem => hdone (hsuffix.subset hmem)

/-- What the acts so far have made of a relay whose observers were as `o` when it was made. -/
structure Fate (o : Observers) (acts : List Act) (x : Works) : Prop where
  once : Act.endings acts = (x.closing.map Closing.error).toList
  told : Latch.Accounts o (Act.watches acts) x.relay.latch x.observers

/-- The end begins once, and who is told of it is accounted for, whatever happens. -/
theorem Fate.step (h : Fate o acts x) (hs : Step x act y) : Fate o (acts ++ [act]) y := by
  -- Only the four kinds of steps count here: what leaves the latch alone, a watcher, the beginning
  -- of an end and its chores.
  cases hs.affects with
  | quiet still unwatched closing latch observers =>
    refine ⟨?_, ?_⟩
    · rw [Act.endings_concat, still, closing, h.once, Option.toList_none, List.append_nil]
    · rw [Act.watches_concat, unwatched, latch, observers, Option.toList_none, List.append_nil]
      exact h.told
  | watched act_eq watches closing =>
    subst act_eq
    refine ⟨?_, ?_⟩
    · rw [Act.endings_concat, closing, h.once]
      exact List.append_nil _
    · rw [Act.watches_concat]
      exact h.told.watch watches
  | begins act_eq fresh y_eq =>
    subst act_eq y_eq
    refine ⟨?_, ?_⟩
    · rw [Act.endings_concat, h.once, fresh]
      rfl
    · rw [Act.watches_concat]
      exact (List.append_nil (Act.watches acts)).symm ▸ h.told
  | @chore error chore left act_eq pending y_eq =>
    subst act_eq y_eq
    refine ⟨?_, ?_⟩
    · rw [Act.endings_concat, h.once, pending, closing_discharge]
      rfl
    · rw [Act.watches_concat, show Act.watch? .turns = none from rfl, Option.toList_none,
        List.append_nil]
      cases chore with
      | latch => exact h.told.finish
      | _ => exact h.told

/-! ## Who ends it -/

/-- A call is there since somebody has called. -/
theorem Step.calls_ne_nil (h : Step x act y) (hy : y.calls ≠ []) : x.calls ≠ [] ∨ act = .closes := by
  cases h with
  | closes => exact .inr rfl
  | starts =>
    unfold Works.start at hy
    split at hy <;> exact .inl hy
  | arrives =>
    unfold Works.arrive at hy
    split at hy <;> exact .inl hy
  | watched | elsewhere | inboundFails | outboundFails => exact .inl hy
  | turn ht =>
    cases ht with
    | starter turn => cases turn <;> exact .inl hy
    | receiver turn => cases turn <;> exact .inl hy
    | forwarder turn => cases turn <;> exact .inl hy
    | call turn =>
      cases turn with
      | ends => exact .inl hy
      | next calls | returns calls => exact .inl (by simp [calls])
    | @chore error chore => cases chore <;> exact .inl hy

/-- A receiver is at the end since its socket has failed. -/
theorem Step.receiver_failing (h : Step x act y) {error : Text} (hy : y.receiver = .failing error) :
    x.receiver = .failing error ∨ act = .fails .receiver error := by
  cases h with
  | starts =>
    unfold Works.start at hy
    split at hy <;> exact .inl hy
  | arrives =>
    unfold Works.arrive at hy
    split at hy <;> exact .inl hy
  | closes | watched | elsewhere | outboundFails => exact .inl hy
  | inboundFails => exact .inr (by rw [Receiver.failing.inj hy])
  | turn ht =>
    cases ht with
    | starter turn => cases turn <;> first | exact .inl hy | cases hy
    | receiver turn => cases turn <;> first | exact .inl hy | cases hy
    | forwarder turn => cases turn <;> exact .inl hy
    | call turn => cases turn <;> exact .inl hy
    | @chore error chore => cases chore <;> exact .inl hy

/-- A forwarder is failing because its socket failed just now or before. -/
theorem Step.forwarder_failing (h : Step x act y) {error : Text} (hy : y.forwarder = .failing error) :
    x.forwarder = .failing error ∨ act = .fails .forwarder error := by
  cases h with
  | starts =>
    unfold Works.start at hy
    split at hy <;> exact .inl hy
  | arrives =>
    unfold Works.arrive at hy
    split at hy <;> exact .inl hy
  | closes | watched | elsewhere | inboundFails => exact .inl hy
  | outboundFails => exact .inr (by rw [Forwarder.failing.inj hy])
  | turn ht =>
    cases ht with
    | starter turn => cases turn <;> first | exact .inl hy | cases hy
    | receiver turn => cases turn <;> exact .inl hy
    | forwarder turn =>
      cases turn with
      | refused => exact .inr (by rw [Forwarder.failing.inj hy])
      | _ => first | exact .inl hy | cases hy
    | call turn => cases turn <;> exact .inl hy
    | @chore error chore => cases chore <;> exact .inl hy

/-- The end begins with a call, or with a worker whose socket has failed. -/
theorem Step.ender {error : Option Text} (h : Step x (.ends error) y) :
    (error = none ∧ x.calls ≠ []) ∨
      ∃ e, error = some e ∧ (x.receiver = .failing e ∨ x.forwarder = .failing e) := by
  cases h with
  | turn ht =>
    cases ht with
    | receiver turn => cases turn with | ends failing => exact .inr ⟨_, rfl, .inl failing⟩
    | forwarder turn => cases turn with | ends failing => exact .inr ⟨_, rfl, .inr failing⟩
    | call turn => cases turn with | ends ending => exact .inl ⟨rfl, List.ne_nil_of_mem ending⟩

/-- Whoever is at the end of a relay stays there until it is over. -/
theorem Turn.hasEnder (hx : InOrder x) (ht : Turn x act y) (hgoing : x.isOver = false)
    (hender : x.HasEnder) : y.HasEnder := by
  have hover {p : Prop} (hover : x.isOver = true) : p := absurd hover (ne_true_of_eq_false hgoing)
  cases ht with
  | starter turn =>
    cases turn with
    | employ looked =>
      -- Where workers are taken on nobody was at work, so the ender is none of them.
      obtain ⟨hreceiver, hforwarder⟩ := hx.staffed.vacant (.inr (by simp [looked]))
      refine hender.imp id ?_ ?_
      · exact fun e he => by cases hreceiver.symm.trans he
      · exact fun e he => by cases hforwarder.symm.trans he
    | _ => exact hender
  | receiver turn =>
    cases turn with
    | ends => exact hender
    | leaves may =>
      refine hender.imp id (fun e he => hover ?_) fun _ => id
      rwa [ReceiverMayLeave, he] at may
    | read doing | look doing | pass doing =>
      exact hender.imp id (fun e he => by cases doing.symm.trans he) fun _ => id
  | forwarder turn =>
    cases turn with
    | ends => exact hender
    | leaves may =>
      refine hender.imp id (fun _ => id) fun e he => hover ?_
      rwa [ForwarderMayLeave, he] at may
    | take doing | look doing | send doing | refused doing | count doing | miss doing | add doing =>
      exact hender.imp id (fun _ => id) fun e he => by cases doing.symm.trans he
  | call turn =>
    cases turn with
    | ends => exact hender
    | next calls next => exact hover (hx.duly.isOver_of_next calls next)
    | returns calls => exact hover (hx.duly.calls .returning (by simp [calls]) (by decide))
  | @chore error chore => cases chore <;> exact hender

/-- Whoever has called for the end stays at it until it begins. -/
theorem Step.heeded (hx : InOrder x) (h : Step x act y) (hbefore : x.HasEnder ∨ x.closing ≠ none) :
    y.HasEnder ∨ y.closing ≠ none := by
  by_cases hfresh : x.closing = none
  · have hender := hbefore.resolve_right (not_not_intro hfresh)
    cases h with
    | starts =>
      unfold Works.start
      split <;> exact .inl hender
    | arrives =>
      unfold Works.arrive
      split <;> exact .inl hender
    | closes => exact .inl (hender.imp (List.mem_append_left _) (fun _ => id) fun _ => id)
    | watched | elsewhere => exact .inl hender
    | inboundFails error => exact .inl (.inr (.inl ⟨error, rfl⟩))
    | outboundFails error => exact .inl (.inr (.inr ⟨error, rfl⟩))
    | turn ht => exact .inl (ht.hasEnder hx (isOver_of_fresh hfresh) hender)
  · obtain ⟨closing, hclosing⟩ := Option.ne_none_iff_exists'.mp hfresh
    obtain ⟨left, hleft, -⟩ := h.closing hclosing
    exact .inr (by simp [hleft])

/-- A call of close and a socket that fails put somebody at the end. -/
theorem Step.heeded_act (h : Step x act y)
    (hact : act = .closes ∨ ∃ party error, act = .fails party error) : y.HasEnder := by
  cases h with
  | closes => exact .inl (by simp [close])
  | inboundFails error => exact .inr (.inl ⟨error, rfl⟩)
  | outboundFails error => exact .inr (.inr ⟨error, rfl⟩)
  | turn ht =>
    cases ht with
    | forwarder turn =>
      cases turn with
      | refused => exact .inr (.inr ⟨_, rfl⟩)
      | _ => simp at hact
    | receiver turn => cases turn <;> simp at hact
    | call turn => cases turn <;> simp at hact
    | _ => simp at hact
  | _ => simp at hact

/-- Who has **called for the end**, or had a socket fail, and what has come of it. -/
structure Cause (acts : List Act) (x : Works) : Prop where
  calls : x.calls ≠ [] → .closes ∈ acts
  receiver : ∀ error, x.receiver = .failing error → .fails .receiver error ∈ acts
  forwarder : ∀ error, x.forwarder = .failing error → .fails .forwarder error ∈ acts
  ends : ∀ error, .ends error ∈ acts →
    (error = none ∧ .closes ∈ acts) ∨ ∃ e party, error = some e ∧ .fails party e ∈ acts
  heeded : (.closes ∈ acts ∨ ∃ party error, .fails party error ∈ acts) →
    x.HasEnder ∨ x.closing ≠ none

/-- Every end has its cause, whatever happens. -/
theorem Cause.step (h : Cause acts x) (hx : InOrder x) (hs : Step x act y) :
    Cause (acts ++ [act]) y := by
  have hold {a : Act} (ha : a ∈ acts) : a ∈ acts ++ [act] := List.mem_append_left _ ha
  have hnew : act ∈ acts ++ [act] := by simp
  refine {
    calls := fun hcalls => ?calls
    receiver := fun error hfailing => ?receiver
    forwarder := fun error hfailing => ?forwarder
    ends := fun error hends => ?ends
    heeded := fun hcause => ?heeded }
  case calls =>
    rcases hs.calls_ne_nil hcalls with hcalls | rfl
    · exact hold (h.calls hcalls)
    · exact hnew
  case receiver =>
    rcases hs.receiver_failing hfailing with hfailing | rfl
    · exact hold (h.receiver error hfailing)
    · exact hnew
  case forwarder =>
    rcases hs.forwarder_failing hfailing with hfailing | rfl
    · exact hold (h.forwarder error hfailing)
    · exact hnew
  case ends =>
    rcases List.mem_append.mp hends with hends | hends
    · exact (h.ends error hends).imp (And.imp_right hold)
        fun ⟨e, party, heq, hfails⟩ => ⟨e, party, heq, hold hfails⟩
    · obtain rfl := List.mem_singleton.mp hends
      rcases hs.ender with ⟨rfl, hcalls⟩ | ⟨e, rfl, hfailing | hfailing⟩
      · exact .inl ⟨rfl, hold (h.calls hcalls)⟩
      · exact .inr ⟨e, .receiver, rfl, hold (h.receiver e hfailing)⟩
      · exact .inr ⟨e, .forwarder, rfl, hold (h.forwarder e hfailing)⟩
  case heeded =>
    -- What ends a relay happens now, or it happened before and is heeded by the invariant.
    by_cases hact : act = .closes ∨ ∃ party error, act = .fails party error
    · exact .inl (hs.heeded_act hact)
    · refine hs.heeded hx (h.heeded ?_)
      rcases hcause with hcloses | ⟨party, error, hfails⟩
      · exact .inl ((List.mem_append.mp hcloses).resolve_right fun hlast =>
          hact (.inl (List.mem_singleton.mp hlast).symm))
      · exact .inr ⟨party, error, (List.mem_append.mp hfails).resolve_right fun hlast =>
          hact (.inr ⟨party, error, (List.mem_singleton.mp hlast).symm⟩)⟩

/-! ## The sockets -/

/-- A relay keeps its addresses, whatever happens. -/
theorem Step.addresses (h : Step x act y) :
    y.relay.inbound = x.relay.inbound ∧ y.relay.target = x.relay.target := by
  cases h with
  | starts =>
    unfold Works.start
    split <;> exact ⟨rfl, rfl⟩
  | arrives =>
    unfold Works.arrive
    split <;> exact ⟨rfl, rfl⟩
  | closes | watched | elsewhere | inboundFails | outboundFails => exact ⟨rfl, rfl⟩
  | turn ht => exact ⟨ht.addresses.1, ht.addresses.2.1⟩

/-- The inbound socket is held by the relay, by its start or by its receiver. -/
theorem holdsInbound_iff : x.holdsInbound = true ↔
    x.owes .inbound = true ∨ x.starter.hasInbound = true ∨ x.receiver ≠ .away := by
  rw [holdsInbound, Bool.or_eq_true, Bool.or_eq_true, or_assoc, Ne, ← Receiver.isAtWork_eq_false_iff,
    Bool.not_eq_false]

/-- The inbound socket is held by those who had it before, or were given it. -/
theorem Turn.holdsInbound (ht : Turn x act y) (hy : y.holdsInbound = true) :
    x.holdsInbound = true := by
  -- The socket is in three places at most, and whoever gets it gets it from one of these.
  rw [holdsInbound_iff] at hy ⊢
  cases ht with
  | starter turn =>
    cases turn with
    | first => exact hy.elim .inl (Or.elim · .inl fun hwork => .inr (.inr hwork))
    | second looked => exact hy.imp_right (Or.imp_left fun hheld => by rw [looked]; exact hheld)
    | employ looked => exact .inr (.inl (by rw [looked]; rfl))
    | giveUp => exact hy.imp_right fun hheld => .inr (hheld.resolve_left nofun)
  | receiver turn =>
    refine .inr (.inr ?_)
    cases turn with
    | leaves may => exact receiver_ne_away_of_mayLeave may
    | _ => simp [*]
  | forwarder turn =>
    cases turn with
    | ends _ fresh => exact .inl (owes_of_fresh fresh _)
    | _ => exact hy
  | call turn =>
    cases turn with
    | ends _ fresh => exact .inl (owes_of_fresh fresh _)
    | _ => exact hy
  | @chore error chore left pending =>
    have howes : (x.discharge error left chore).owes .inbound = true → x.owes .inbound = true := by
      intro hheld
      by_contra hdone
      exact absurd ((owes_run (.single (.turn (.chore pending)))
        (Bool.eq_false_iff.mpr hdone)).symm.trans hheld) nofun
    refine hy.imp howes (Or.imp ?_ ?_) <;> cases chore <;> exact id

/-- An inbound socket that was let go is not held again. -/
theorem Step.holdsInbound (h : Step x act y) (hy : y.holdsInbound = true) :
    x.holdsInbound = true := by
  cases h with
  | starts =>
    unfold Works.start at hy
    split at hy
    · exact hy
    · rw [holdsInbound_iff] at hy ⊢
      exact hy.imp_right fun hheld => .inr (hheld.resolve_left nofun)
  | arrives =>
    unfold Works.arrive at hy
    split at hy <;> exact hy
  | closes | watched | elsewhere | outboundFails => exact hy
  | inboundFails error listening => exact holdsInbound_eq_true_of_receiver (by simp [listening])
  | turn ht => exact ht.holdsInbound hy

/-- The host lets its programs bind what it did. -/
theorem Step.allowance (h : Step x act y) : y.others.allowance = x.others.allowance := by
  cases h with
  | elsewhere same => exact same
  | starts =>
    unfold Works.start
    split <;> rfl
  | arrives =>
    unfold Works.arrive
    split <;> rfl
  | closes | watched | inboundFails | outboundFails => rfl
  | turn ht => rw [ht.addresses.2.2]

/-- As long as a relay **holds** its inbound socket, nothing of others collides with that. -/
structure Sockets (allowed : Allowance) (x : Works) : Prop where
  allowance : x.others.allowance = allowed
  unzoned : x.relay.inbound.unzoned = x.relay.inbound
  apart : x.holdsInbound = true → x.others.isFree x.relay.inbound = true

/-- Nothing of others collides with the inbound socket, whatever happens. -/
theorem Sockets.step {allowed : Allowance} (h : Sockets allowed x) (hs : Step x act y) :
    Sockets allowed y := by
  have hinbound := hs.addresses.1
  refine ⟨hs.allowance.trans h.allowance, hinbound ▸ h.unzoned, fun hheld => ?_⟩
  have hbefore := hs.holdsInbound hheld
  rw [hinbound]
  cases hs with
  | elsewhere _ apart => exact apart hbefore
  | starts =>
    unfold Works.start
    split <;> exact h.apart hbefore
  | arrives =>
    unfold Works.arrive
    split <;> exact h.apart hbefore
  | closes | watched | inboundFails | outboundFails => exact h.apart hbefore
  | turn ht => exact ht.addresses.2.2 ▸ h.apart hbefore

/-! ## Calls that are made alone -/

/-- Something happens, and **nobody else calls**. -/
def Alone (x : Works) (act : Act) (y : Works) : Prop := Step x act y ∧ act ≠ .starts ∧ act ≠ .closes

/-- Whether a call **has waited** for a worker. -/
def hasWaited : Party → Call → Bool
  | .receiver, .joining .forwarder | _, .returning => true
  | _, _ => false

/-- A relay that is closed by **one call alone**. The workers have left for which it has waited, and
when it has returned both have. -/
structure Solo (x : Works) : Prop where
  starter : x.starter = .away
  calls : x.calls.length ≤ 1
  receiver : (∀ call ∈ x.calls, hasWaited .receiver call = true) → x.receiver = .away
  forwarder : (∀ call ∈ x.calls, hasWaited .forwarder call = true) → x.forwarder = .away

/-- A call of close to a relay without others is alone. -/
theorem solo_close (hcalls : x.calls = []) (hstarter : x.starter = .away) : Solo x.close := by
  refine ⟨hstarter, by simp [close, hcalls], fun hwaited => ?_, fun hwaited => ?_⟩
  · exact absurd (hwaited .ending (by simp [close])) Bool.false_ne_true
  · exact absurd (hwaited .ending (by simp [close])) Bool.false_ne_true

/-- Nobody calls, and no worker begins. -/
theorem Solo.congr (h : Solo x) (hstarter : y.starter = x.starter) (hcalls : y.calls = x.calls)
    (hreceiver : x.receiver = .away → y.receiver = .away)
    (hforwarder : x.forwarder = .away → y.forwarder = .away) : Solo y :=
  ⟨hstarter.trans h.starter, hcalls ▸ h.calls, fun hwaited => hreceiver (h.receiver (hcalls ▸ hwaited)),
    fun hwaited => hforwarder (h.forwarder (hcalls ▸ hwaited))⟩

/-- The only call is the one that goes on. -/
theorem Solo.eq_nil (h : Solo x) {before after : List Call} {call : Call}
    (hcalls : x.calls = before ++ call :: after) : before = [] ∧ after = [] := by
  have hlength := h.calls
  rw [hcalls, List.length_append, List.length_cons] at hlength
  exact ⟨List.length_eq_zero_iff.mp (by omega), List.length_eq_zero_iff.mp (by omega)⟩

/-- A call that is alone goes on alone. -/
theorem Solo.callTurn (h : Solo x) (hx : InOrder x) (ht : CallTurn x act y) : Solo y := by
  cases ht with
  | ends => exact h.congr rfl rfl id id
  | @next before after call call' calls next =>
    obtain ⟨rfl, rfl⟩ := h.eq_nil calls
    -- No handle is there, and nobody waits with one: nobody is at work.
    have hleft (htaking : call = .taking) (hnone : x.handles = false) :
        x.receiver = .away ∧ x.forwarder = .away := by
      refine ⟨?_, ?_⟩ <;> by_contra hwork
      · simpa [hnone, calls, htaking] using hx.awaited.receiver hwork
      · simpa [hnone, calls, htaking] using hx.awaited.forwarder hwork
    obtain ⟨rfl, rfl, -⟩ | ⟨rfl, -, rfl⟩ | ⟨rfl, hnone, rfl⟩ | ⟨rfl, haway, rfl⟩ | ⟨rfl, haway, rfl⟩ :=
      next_cases next
    · exact ⟨h.starter, Nat.le_refl 1, fun hwaited => absurd (hwaited .taking (by simp)) nofun,
        fun hwaited => absurd (hwaited .taking (by simp)) nofun⟩
    · exact ⟨h.starter, Nat.le_refl 1,
        fun hwaited => absurd (hwaited (.joining .receiver) (by simp)) nofun,
        fun hwaited => absurd (hwaited (.joining .receiver) (by simp)) nofun⟩
    · obtain ⟨hreceiver, hforwarder⟩ := hleft rfl hnone
      exact ⟨h.starter, Nat.le_refl 1, fun _ => hreceiver, fun _ => hforwarder⟩
    · exact ⟨h.starter, Nat.le_refl 1, fun _ => haway,
        fun hwaited => absurd (hwaited (.joining .forwarder) (by simp)) nofun⟩
    · exact ⟨h.starter, Nat.le_refl 1, fun _ => h.receiver (by simp [calls, hasWaited]), fun _ => haway⟩
  | returns calls =>
    obtain ⟨rfl, rfl⟩ := h.eq_nil calls
    exact ⟨h.starter, Nat.zero_le 1, fun _ => h.receiver (by simp [calls, hasWaited]),
      fun _ => h.forwarder (by simp [calls, hasWaited])⟩

/-- A call stays alone, whoever takes a turn. -/
theorem Solo.turn (h : Solo x) (hx : InOrder x) (ht : Turn x act y) : Solo y := by
  cases ht with
  | starter turn => cases turn <;> simp_all [h.starter]
  | receiver turn =>
    have hwork : x.receiver ≠ .away := by
      cases turn with
      | leaves may => exact receiver_ne_away_of_mayLeave may
      | _ => simp [*]
    cases turn <;> exact h.congr rfl rfl (fun haway => absurd haway hwork) id
  | forwarder turn =>
    have hwork : x.forwarder ≠ .away := by
      cases turn with
      | leaves may => exact forwarder_ne_away_of_mayLeave may
      | _ => simp [*]
    cases turn <;> exact h.congr rfl rfl id fun haway => absurd haway hwork
  | call turn => exact h.callTurn hx turn
  | @chore error chore => cases chore <;> exact h.congr rfl rfl id id

/-- A call stays alone as long as nobody else calls. -/
theorem Solo.step (h : Solo x) (hx : InOrder x) (hs : Alone x act y) : Solo y := by
  obtain ⟨hs, hstarts, hcloses⟩ := hs
  cases hs with
  | starts => exact absurd rfl hstarts
  | closes => exact absurd rfl hcloses
  | arrives =>
    unfold Works.arrive
    split
    · exact h.congr rfl rfl id id
    · exact h
  | watched | elsewhere => exact h.congr rfl rfl id id
  | turn ht => exact h.turn hx ht
  | inboundFails error doing =>
    exact h.congr rfl rfl (fun haway => absurd (haway.symm.trans doing) nofun) id
  | outboundFails error doing =>
    exact h.congr rfl rfl id fun haway => absurd (haway.symm.trans doing) nofun

/-- A call stays alone throughout a run in which nobody else calls. -/
theorem Solo.run (h : Solo x) (hx : InOrder x) (hrun : Run Alone x acts y) : Solo y ∧ InOrder y := by
  induction hrun with
  | here => exact ⟨h, hx⟩
  | next _ hlast ih => exact ⟨ih.1.step ih.2 hlast, ih.2.step hlast.1⟩

/-- A call that was made alone returns to a relay that is **over**. -/
theorem over_of_alone (hx : InOrder x) (hcalls : x.calls = []) (hstarter : x.starter = .away)
    (hrun : Run Alone x.close acts y) (hreturns : Step y .returns z) : Over z := by
  obtain ⟨hsolo, hy⟩ := (solo_close hcalls hstarter).run hx.close hrun
  have hsolo' : Solo z := hsolo.step hy ⟨hreturns, nofun, nofun⟩
  cases hreturns with
  | turn ht =>
    cases ht with
    | call turn =>
      cases turn with
      | returns calls =>
        obtain ⟨rfl, rfl⟩ := hsolo.eq_nil calls
        exact over_of_left (hy.duly.calls .returning (by simp [calls]) nofun) hsolo'.starter
          (hsolo'.receiver nofun) (hsolo'.forwarder nofun)
    | receiver turn => cases turn
    | forwarder turn => cases turn

/-- A call that was not may find that others have been before it, or come after it. -/
theorem over_of_returns (hx : InOrder x) (hreturns : Step x .returns y) :
    Over y ∨ y.calls ≠ [] ∨ y.starter ≠ .away ∨ y.handles = true := by
  by_contra hnot
  simp only [not_or, not_not, Bool.not_eq_true] at hnot
  obtain ⟨hover, hcalls, hstarter, hhandles⟩ := hnot
  have hy := hx.step hreturns
  have hreceiver : y.receiver = .away := by
    by_contra hwork
    simpa [hhandles, hcalls] using hy.awaited.receiver hwork
  have hforwarder : y.forwarder = .away := by
    by_contra hwork
    simpa [hhandles, hcalls] using hy.awaited.forwarder hwork
  refine hover (over_of_left ?_ hstarter hreceiver hforwarder)
  cases hreturns with
  | turn ht =>
    cases ht with
    | call turn => cases turn with | returns calls => exact hx.duly.calls .returning (by simp [calls]) nofun
    | receiver turn => cases turn
    | forwarder turn => cases turn

/-! ## What a closed relay does no more -/

/-- The threads of a relay are in order at any time. -/
theorem InOrder.run (hx : InOrder x) (h : Run Step x acts y) : InOrder y := by
  induction h with
  | here => exact hx
  | next _ hlast ih => exact ih.step hlast

/-- A relay is closed for good. -/
theorem closed_run (hx : InOrder x) (h : Run Step x acts y) (hclosed : x.relay.closed = true) :
    y.relay.closed = true := by
  have hraised : x.owes .flag = false := by simpa [hx.duly.flag] using hclosed
  rw [(hx.run h).duly.flag, owes_run h hraised]
  rfl

/-- A relay is **mute** that is closed before anything has come as far as the queue. -/
structure Mute (x : Works) : Prop where
  closed : x.relay.closed = true
  queue : x.queue = []
  receiver : ∀ datagram, x.receiver ≠ .passing datagram
  forwarder : x.forwarder = .away ∨ x.forwarder = .taking

/-- A relay that is mute and closed sends nothing in any turn. -/
theorem Mute.turn (h : Mute x) (hclosed : y.relay.closed = true) (ht : Turn x act y) :
    Mute y ∧ act.sent? = none ∧ act.counted? = none := by
  -- The way to the target goes through both workers and the queue, and all of these are empty.
  cases ht with
  | starter turn =>
    cases turn with
    | employ =>
      exact ⟨{ h with closed := hclosed, receiver := nofun, forwarder := .inr rfl }, rfl, rfl⟩
    | _ => exact ⟨{ h with closed := hclosed }, rfl, rfl⟩
  | receiver turn =>
    cases turn with
    | read => exact ⟨{ h with closed := hclosed, receiver := nofun }, rfl, rfl⟩
    | look _ isOpen => exact absurd (h.closed.symm.trans isOpen) nofun
    | pass passing => exact absurd passing (h.receiver _)
    | ends => exact ⟨{ h with closed := hclosed }, rfl, rfl⟩
    | leaves => exact ⟨{ h with closed := hclosed, receiver := nofun }, rfl, rfl⟩
  | forwarder turn =>
    cases turn with
    | take _ queue => exact absurd (h.queue.symm.trans queue) nofun
    | leaves => exact ⟨{ h with closed := hclosed, queue := rfl, forwarder := .inl rfl }, rfl, rfl⟩
    | look doing | send doing | refused doing | count doing | miss doing | add doing | ends doing =>
      rcases h.forwarder with hf | hf <;> exact absurd (hf.symm.trans doing) nofun
  | call turn => cases turn <;> exact ⟨{ h with closed := hclosed }, rfl, rfl⟩
  | @chore error chore => cases chore <;> exact ⟨{ h with closed := hclosed }, rfl, rfl⟩

/-- A relay that is mute and closed sends nothing, whatever happens. -/
theorem Mute.step (h : Mute x) (hclosed : y.relay.closed = true) (hs : Step x act y) :
    Mute y ∧ act.sent? = none ∧ act.counted? = none := by
  cases hs with
  | starts =>
    unfold Works.start at hclosed ⊢
    split <;> exact ⟨{ h with }, rfl, rfl⟩
  | arrives =>
    unfold Works.arrive at hclosed ⊢
    split <;> exact ⟨{ h with }, rfl, rfl⟩
  | closes | watched | elsewhere => exact ⟨{ h with closed := hclosed }, rfl, rfl⟩
  | turn ht => exact h.turn hclosed ht
  | inboundFails => exact ⟨{ h with closed := hclosed, receiver := nofun }, rfl, rfl⟩
  | outboundFails error doing =>
    rcases h.forwarder with hf | hf <;> exact absurd (hf.symm.trans doing) nofun

/-- A relay that is mute sends nothing and counts nothing, whatever happens. -/
theorem Mute.run (h : Mute x) (hx : InOrder x) (hrun : Run Step x acts y) :
    Mute y ∧ Act.sent acts = [] ∧ Act.counted acts = [] := by
  induction hrun with
  | here => exact ⟨h, rfl, rfl⟩
  | next hrun hlast ih =>
    obtain ⟨hmute, hsent, hcounted⟩ := ih
    have hclosed := closed_run (hx.run hrun) (.single hlast) hmute.closed
    obtain ⟨hmute', hnone, hnone'⟩ := hmute.step hclosed hlast
    rw [Act.sent_concat, Act.counted_concat, hsent, hcounted, hnone, hnone']
    exact ⟨hmute', rfl, rfl⟩

/-- A start that finds the relay closed begins nothing. -/
theorem mute_start (hx : InOrder x) (hclosed : x.relay.closed = true)
    (hstarted : x.relay.started = false) : Mute x.start := by
  obtain ⟨hreceiver, hforwarder⟩ := hx.staffed.vacant (.inl hstarted)
  rw [Works.start, if_neg (by rw [hstarted]; exact nofun)]
  exact ⟨hclosed, hx.stocked.queue hforwarder, fun d hd => absurd (hreceiver.symm.trans hd) nofun,
    .inl hforwarder⟩

/-- The meter of a relay is **frozen** when it is stopped and nothing is about to be added. -/
structure Frozen (x : Works) : Prop where
  stopped : x.relay.meter.stopped = true
  settled : ∀ datagram, x.forwarder ≠ .adding datagram

/-- A meter that is frozen stays as it is in every turn. -/
theorem Frozen.turn (h : Frozen x) (ht : Turn x act y) :
    Frozen y ∧ y.relay.meter = x.relay.meter := by
  cases ht with
  | starter turn =>
    cases turn with
    | employ => exact ⟨⟨h.stopped, nofun⟩, rfl⟩
    | _ => exact ⟨⟨h.stopped, h.settled⟩, rfl⟩
  | receiver turn => cases turn <;> exact ⟨⟨h.stopped, h.settled⟩, rfl⟩
  | forwarder turn =>
    cases turn with
    | count _ running => exact absurd (h.stopped.symm.trans running) nofun
    | add adding => exact absurd adding (h.settled _)
    | ends => exact ⟨⟨h.stopped, h.settled⟩, rfl⟩
    | _ => exact ⟨⟨h.stopped, nofun⟩, rfl⟩
  | call turn => cases turn <;> exact ⟨⟨h.stopped, h.settled⟩, rfl⟩
  | @chore error chore =>
    cases chore with
    | meter =>
      have hagain : x.relay.meter.stop = x.relay.meter := by rw [Meter.stop, ← h.stopped]
      exact ⟨⟨rfl, h.settled⟩, hagain⟩
    | _ => exact ⟨⟨h.stopped, h.settled⟩, rfl⟩

/-- A meter that is frozen stays as it is for good. -/
theorem Frozen.run (h : Frozen x) (hrun : Run Step x acts y) :
    Frozen y ∧ y.relay.meter = x.relay.meter := by
  induction hrun with
  | here => exact ⟨h, rfl⟩
  | @next y z acts act hrun hlast ih =>
    obtain ⟨hfrozen, hmeter⟩ := ih
    rw [← hmeter]
    cases hlast with
    | starts =>
      unfold Works.start
      split <;> exact ⟨⟨hfrozen.stopped, hfrozen.settled⟩, rfl⟩
    | arrives =>
      unfold Works.arrive
      split <;> exact ⟨⟨hfrozen.stopped, hfrozen.settled⟩, rfl⟩
    | closes | watched | elsewhere | inboundFails =>
      exact ⟨⟨hfrozen.stopped, hfrozen.settled⟩, rfl⟩
    | turn ht => exact hfrozen.turn ht
    | outboundFails => exact ⟨⟨hfrozen.stopped, nofun⟩, rfl⟩

/-! ## Any run -/

/-- What is true of a relay with its threads, **at any time**. -/
structure Sane (r : Relay) (o : Observers) (allowed : Allowance) (acts : List Act) (x : Works) :
    Prop where
  addresses : x.relay.inbound = r.inbound ∧ x.relay.target = r.target
  order : InOrder x
  fate : Fate o acts x
  cause : Cause acts x
  sockets : Sockets allowed x

/-- Every relay is sane at any time. -/
theorem sane_run {text : Text} {s s' : Site} (h : Opened text r s s')
    (hrun : Run Step (opened r s' s.host) acts x) :
    Sane r s'.observers s.host.allowance acts x := by
  induction hrun with
  | here =>
    refine ⟨⟨rfl, rfl⟩, ?_, ⟨rfl, ?_⟩, ⟨fun hne => absurd rfl hne, nofun, nofun, nofun, nofun⟩,
      rfl, h.unzoned, fun _ => h.free⟩
    · rw [h.made]
      exact inOrder_opened ..
    · rw [h.made]
      exact Latch.accounts_fresh s'.observers
  | next _ hlast ih =>
    obtain ⟨hinbound, htarget⟩ := hlast.addresses
    exact ⟨⟨hinbound.trans ih.addresses.1, htarget.trans ih.addresses.2⟩, ih.order.step hlast,
      ih.fate.step hlast, ih.cause.step ih.order hlast, ih.sockets.step hlast⟩

/-- The **life of a relay** that is as `r` when it is made, with observers as `o`. -/
structure Lifetime (r : Relay) (o : Observers) (acts : List Act) (x : Works) : Prop where
  addresses : x.relay.inbound = r.inbound ∧ x.relay.target = r.target
  /-- Its end begins once at most. -/
  once : (Act.endings acts).length ≤ 1
  begun : x.closing.map Closing.error = (Act.endings acts).head?
  /-- It begins with a call, and then it has no error, or with a socket that fails, and then with
  that error. -/
  cause : ∀ error, .ends error ∈ acts → (error = none ∧ .closes ∈ acts) ∨
    ∃ e party, error = some e ∧ .fails party e ∈ acts
  /-- What is to be seen of it is what has been done at its end, in the order of the chores. -/
  order : ∀ closing, x.closing = some closing → closing.pending <:+ Chore.all
  closed : x.relay.closed = !x.owes .flag
  error : x.relay.error = if x.owes .error then none else (Act.endings acts).head?.join
  stopped : x.relay.meter.stopped = !x.owes .meter
  done : x.relay.latch.isDone = !x.owes .latch
  /-- What has been done is for good. -/
  final : ∀ later y, Run Step x later y →
    (∀ chore, x.owes chore = false → y.owes chore = false) ∧
      (x.owes .error = false → y.relay.error = x.relay.error)
  /-- A meter that is stopped counts nothing more, but for a datagram that found it running before.
  -/
  frozen : x.relay.meter.stopped = true → (∀ datagram, x.forwarder ≠ .adding datagram) →
    ∀ later y, Run Step x later y → y.relay.meter = x.relay.meter
  told : Latch.Tells o (Act.watches acts) x.relay.latch x.observers
  /-- Until its end begins it holds its sockets, and nobody else can bind its address. -/
  held : Act.endings acts = [] →
    x.site.host = { x.others with
      bound := r.inbound :: x.others.bound, outbound := r.target :: x.others.outbound } ∧
      x.site.host.bind r.inbound = .error Host.inUse
  /-- At rest it holds both of its sockets while it is open, and none when it is closed. -/
  holds : x.AtRest → x.holdsInbound = !x.relay.closed ∧ x.holdsOutbound = !x.relay.closed
  /-- When it is over it holds none, and others can bind its address. -/
  released : Over x →
    x.site.host = x.others ∧
      (x.others.isFree r.inbound = true →
        x.site.host.bind r.inbound = .ok (r.inbound,
          { x.others with bound := r.inbound :: x.others.bound }))
  /-- It is over for good. -/
  forGood : Over x → x.relay.closed = true ∧ ∀ later y, Run Step x later y →
    Over y ∧ y.relay.error = x.relay.error ∧ y.relay.meter = x.relay.meter
  /-- A call that is made alone returns when it is over. -/
  returns : x.calls = [] → x.starter = .away → ∀ later y z, Run Alone x.close later y →
    Step y .returns z → Over z
  /-- If it is not when a call returns, then others are under way, or a start has begun the workers
  when the call had looked for them. -/
  returned : ∀ y, Step x .returns y → Over y ∨ y.calls ≠ [] ∨ y.starter ≠ .away ∨ y.handles = true
  /-- Its threads soon come to rest: there are only so many turns in a row. Then every call has
  returned, and it is over if anybody has called or any socket has failed. -/
  settles : (∀ turns y, Run Turn x turns y → turns.length ≤ x.weight) ∧
    (x.AtRest → x.calls = [] ∧
      ((.closes ∈ acts ∨ ∃ party e, .fails party e ∈ acts) → Over x))
  /-- A start that finds it closed begins nothing, and leaves nothing but its mark if the end is
  over. -/
  restarts : x.relay.closed = true → x.relay.started = false →
    (∀ later y, Run Step x.start later y → Act.sent later = [] ∧ Act.counted later = []) ∧
      (x.isOver = true → Over x.start ∧
        x.start = { x with relay := { x.relay with started := true }, starter := .begun })
  /-- At rest it is as the relay without its threads. -/
  agrees : x.AtRest → Agrees x

/-- The error that is kept is kept for good. -/
theorem error_run (hx : InOrder x) (h : Run Step x acts y) (hkept : x.owes .error = false) :
    y.relay.error = x.relay.error := by
  cases hclosing : x.closing with
  | none => exact absurd ((owes_of_fresh hclosing .error).symm.trans hkept) nofun
  | some closing =>
    obtain ⟨left, hleft, -⟩ := closing_run h hclosing
    rw [(hx.run h).duly.error, hx.duly.error, owes_run h hkept, hkept, hleft, hclosing]
    rfl

/-- At rest a relay holds both of its sockets or none. -/
theorem AtRest.holds (h : x.AtRest) (hx : InOrder x) :
    x.holdsInbound = !x.relay.closed ∧ x.holdsOutbound = !x.relay.closed := by
  by_cases hfresh : x.closing = none
  · obtain ⟨hopen, -, hin, hout⟩ := hx.fresh hfresh
    rw [hin, hout, hopen]
    exact ⟨rfl, rfl⟩
  · have hover := h.over hx hfresh
    rw [hover.inbound, hover.outbound, hx.duly.closed_of_isOver hover.isOver]
    exact ⟨rfl, rfl⟩

/-- At rest nobody is at the end of a relay. -/
theorem AtRest.not_hasEnder (h : x.AtRest) (hx : InOrder x) : ¬x.HasEnder := by
  rintro (hcall | ⟨error, hreceiver⟩ | ⟨error, hforwarder⟩)
  · rw [h.calls hx] at hcall
    cases hcall
  · exact h.receiver_ne_failing error hreceiver
  · exact h.forwarder_ne_failing error hforwarder

/-- Before the start is done nobody holds a socket of a relay whose end is over. -/
theorem over_of_unbegun (hx : InOrder x) (hover : x.isOver = true) (hstarted : x.relay.started = false) :
    Over x := by
  obtain ⟨hreceiver, hforwarder⟩ := hx.staffed.vacant (.inl hstarted)
  exact over_of_left hover (hx.staffed.unbegun hstarted) hreceiver hforwarder

def strandedRelay : Relay := made ⟨.v4 127 0 0 1, 21500, 0⟩ ⟨.v4 127 0 0 1, 22500, 0⟩

def strandedSite : Site :=
  ⟨⟨[⟨.v4 127 0 0 1, 21500, 0⟩], [⟨.v4 127 0 0 1, 22500, 0⟩], .loopback⟩, ⟨[0], []⟩⟩

theorem tryOpen_stranded :
    tryOpen "127.0.0.1:21500".toList "127.0.0.1:22500".toList ⟨.idle, ⟨[0], []⟩⟩ =
      (.ok strandedRelay, strandedSite) := by rfl

/-- Its first datagram is lost, its second one refused, and then somebody closes it and waits for
the receiver. -/
def strandedActs : List Act :=
  [.watched (.registers 0 0), .starts, .turns, .turns, .turns,
    .arrives [1, 2], .turns, .turns, .turns, .turns, .turns, .sends ⟨[1, 2], false⟩, .turns, .counts [1, 2],
    .arrives [3], .turns, .turns, .turns, .turns, .turns, .fails .forwarder Host.refused,
    .ends (some Host.refused), .turns, .turns, .turns, .turns, .turns, .turns,
    .starts, .turns, .closes, .turns, .turns, .turns, .turns, .turns, .returns,
    .watched (.looks 0 .raised)]

theorem stranded_run :
    ∃ x, Run Step (opened strandedRelay strandedSite .idle) strandedActs x ∧
      x.relay.error = some Host.refused ∧ x.site.host = .idle := by
  refine ⟨_, .cons (.watched (.registers (by decide))) <| .cons .starts <|
    .cons (.turn (.starter (.first rfl))) <| .cons (.turn (.starter (.second rfl))) <|
    .cons (.turn (.starter (.employ rfl))) <|
    -- The first datagram is sent, reaches nobody, and is counted.
    .cons (.arrives _) <| .cons (.turn (.receiver (.read rfl rfl))) <|
    .cons (.turn (.receiver (.look rfl rfl))) <|
    .cons (.turn (.receiver (.pass rfl (by decide) nofun))) <|
    .cons (.turn (.forwarder (.take rfl rfl))) <| .cons (.turn (.forwarder (.look rfl rfl))) <|
    .cons (.turn (.forwarder (.send rfl rfl))) <| .cons (.turn (.forwarder (.count rfl rfl))) <|
    .cons (.turn (.forwarder (.add rfl))) <|
    -- The second one is refused, and the forwarder ends the relay.
    .cons (.arrives _) <| .cons (.turn (.receiver (.read rfl rfl))) <|
    .cons (.turn (.receiver (.look rfl rfl))) <|
    .cons (.turn (.receiver (.pass rfl (by decide) nofun))) <|
    .cons (.turn (.forwarder (.take rfl rfl))) <| .cons (.turn (.forwarder (.look rfl rfl))) <|
    .cons (.turn (.forwarder (.refused rfl rfl))) <| .cons (.turn (.forwarder (.ends rfl rfl))) <|
    .cons (.turn (.chore rfl)) <| .cons (.turn (.chore rfl)) <| .cons (.turn (.chore rfl)) <|
    .cons (.turn (.chore rfl)) <| .cons (.turn (.chore rfl)) <| .cons (.turn (.chore rfl)) <|
    -- Another start is nothing, and a call waits until both workers have left.
    .cons .starts <| .cons (.turn (.forwarder (.leaves rfl))) <| .cons .closes <|
    .cons (.turn (.call (.next (show _ = [] ++ Call.ending :: [] from rfl) rfl))) <|
    .cons (.turn (.call (.next (show _ = [] ++ Call.taking :: [] from rfl) rfl))) <|
    .cons (.turn (.receiver (.leaves rfl))) <|
    .cons (.turn (.call (.next (show _ = [] ++ Call.joining .receiver :: [] from rfl) rfl))) <|
    .cons (.turn (.call (.next (show _ = [] ++ Call.joining .forwarder :: [] from rfl) rfl))) <|
    .cons (.turn (.call (.returns (show _ = [] ++ Call.returning :: [] from rfl)))) <|
    .cons (.watched (.looks 0)) <| .here _, rfl, rfl⟩

end Works
end Relay
end MediaProxy
