import MediaProxy.Control.Canned
import MediaProxy.Control.Load
import MediaProxy.Proofs.Control.Receiving

/-!
# Who serves a code

Handlers are added to a control server in calls, and each call brings as many as it likes. A call is
granted as a whole or refused as a whole (`Appoints`), so that a code never has two handlers to
choose from: the one that serves it is that of the first call that brought one and was granted,
whatever else is done to the server (`first_handler_serves`).

A server keeps its handlers in the order in which they came. Had a call the power to put a new
handler in an old one's place, it would make no difference: a call that is granted brings none for a
code that is served (`handler?_afterAll_reverse`).
-/

namespace MediaProxy.Control

open Amp (Code Packet)

variable {H : Type} {new : Handlers H} {code : Code} {handler : H}

/-- What is **done to a server** besides sending datagrams to it. -/
inductive Act (H : Type) where
  /-- Handlers are brought. -/
  | offer (new : Handlers H)
  /-- A counter of load brings its own. -/
  | countLoad (counter : H)
  | start
  | stop

namespace Act

/-- The handlers that are brought, if any are. -/
def brings : Act H → Option (Handlers H)
  | .offer new => some new
  | .countLoad counter => some (loadHandlers counter)
  | .start | .stop => none

/-- What a server **answers**. -/
def answer : Act H → Server H → Except Fault (Server H)
  | .offer new, s => s.addHandlers new
  | .countLoad counter, s => s.addHandlers (loadHandlers counter)
  | .start, s => s.start
  | .stop, s => .ok s.stop

/-- The handlers that a server takes on. -/
def granted (act : Act H) (s : Server H) : Option (Handlers H) :=
  act.brings.filter fun _ => (act.answer s).isOk

end Act

namespace Server

/-- A server **after** something has been done to it. What is refused leaves it as it was. -/
def after (s : Server H) (act : Act H) : Server H := (act.answer s).toOption.getD s

def afterAll (s : Server H) (acts : List (Act H)) : Server H := acts.foldl after s

/-- All handlers that a server takes on, call by call. -/
def grants (s : Server H) : List (Act H) → List (Handlers H)
  | [] => []
  | act :: later => (act.granted s).toList ++ (s.after act).grants later

end Server

/-- **How a call adds handlers** to a server: all of them, or none. -/
structure Appoints (s : Server H) (new : Handlers H) (answer : Except Fault (Server H)) (s' : Server H) :
    Prop where
  /-- It is granted exactly if no code that it brings a handler for is served. -/
  granted : (∃ t, answer = .ok t) ↔ ∀ code, (new.lookup code).isSome → s.handler? code = none
  /-- What it adds is what it brings, whichever of old and new is looked at first. -/
  adds : (∃ t, answer = .ok t) → s'.address = s.address ∧ s'.running = s.running ∧
    ∀ code, s'.handler? code = (s.handler? code).or (new.lookup code) ∧
      s'.handler? code = (new.lookup code).or (s.handler? code)
  /-- A refusal changes nothing, and names a code that it brings a handler for and that is served.
  -/
  refused : ∀ fault, answer = .error fault →
    s' = s ∧ ∃ code, fault = .handlerExists code.token ∧ (new.lookup code).isSome ∧ (s.handler? code).isSome

namespace Server

variable {s s' : Server H} {act : Act H} {fault : Fault}

/-! ## One call -/

/-- What a call comes to. -/
theorem addHandlers_cases (s : Server H) (new : Handlers H) :
    (s.addHandlers new = .ok { s with handlers := s.handlers ++ new } ∧
        ∀ code, (new.lookup code).isSome → s.handler? code = none) ∨
      ∃ code, s.addHandlers new = .error (.handlerExists code.token) ∧ (new.lookup code).isSome ∧
        (s.handler? code).isSome := by
  rw [addHandlers]
  split
  next code handler hfound =>
    have hnew : (new.lookup code).isSome :=
      List.lookup_isSome_iff.mpr ⟨_, List.mem_of_find?_eq_some hfound, beq_self_eq_true _⟩
    have hserved := List.find?_some hfound
    exact .inr ⟨code, rfl, hnew, hserved⟩
  next hfound =>
    refine .inl ⟨rfl, fun code hnew => ?_⟩
    obtain ⟨entry, hentry, hcode⟩ := List.lookup_isSome_iff.mp hnew
    have hfree : ¬(s.handler? entry.1).isSome := List.find?_eq_none.mp hfound entry hentry
    rwa [← eq_of_beq hcode, Option.not_isSome_iff_eq_none] at hfree

/-- Handlers that are added come after those that are there: a code is looked up among the old ones
first. -/
theorem handler?_append (handlers : Handlers H) (code : Code) :
    handler? { s with handlers := s.handlers ++ handlers } code = (s.handler? code).or (handlers.lookup code) :=
  List.lookup_append

/-- Handlers are added all together or not at all, for the reason that is given. -/
theorem appoints_addHandlers (s : Server H) (new : Handlers H) :
    Appoints s new (s.addHandlers new) ((s.addHandlers new).toOption.getD s) := by
  rcases addHandlers_cases s new with ⟨hok, hfree⟩ | ⟨code, herror, hnew, hserved⟩
  · rw [hok]
    refine ⟨⟨fun _ => hfree, fun _ => ⟨_, rfl⟩⟩, fun _ => ⟨rfl, rfl, fun code => ?_⟩, nofun⟩
    have hadded := handler?_append (s := s) new code
    refine ⟨hadded, hadded.trans ?_⟩
    cases hlookup : new.lookup code with
    | none => rw [Option.or_none, Option.none_or]
    | some handler => rw [hfree code (by rw [hlookup]; rfl), Option.none_or, Option.or_none]
  · rw [herror]
    refine ⟨⟨nofun, fun hfree => ?_⟩, nofun, ?_⟩
    · rw [hfree code hnew] at hserved
      cases hserved
    · rintro fault ⟨⟩
      exact ⟨rfl, code, rfl, hnew, hserved⟩

/-- An act that brings handlers adds them all or none. -/
theorem appoints (h : act.brings = some new) (s : Server H) : Appoints s new (act.answer s) (s.after act) := by
  cases act with
  | offer offered =>
    cases h
    exact appoints_addHandlers s _
  | countLoad counter =>
    cases h
    exact appoints_addHandlers s _
  | start | stop => cases h

/-! ## All that is done -/

/-- Starting and stopping a server leave its handlers alone. -/
theorem handlers_after_of_not_brings (h : act.brings = none) (s : Server H) :
    (s.after act).handlers = s.handlers := by
  cases act with
  | offer | countLoad => cases h
  | start =>
    rw [after, Act.answer, start]
    split <;> rfl
  | stop => rfl

/-- What is done to a server **adds the handlers that it takes on**. -/
theorem handler?_after (s : Server H) (act : Act H) (code : Code) :
    (s.after act).handler? code = (s.handler? code).or ((act.granted s).bind (List.lookup code)) ∧
      (s.after act).handler? code = ((act.granted s).bind (List.lookup code)).or (s.handler? code) := by
  cases hbrings : act.brings with
  | none =>
    have hsame : (s.after act).handler? code = s.handler? code := by
      rw [handler?, handlers_after_of_not_brings hbrings, handler?]
    rw [Act.granted, hbrings, Option.filter_none, Option.bind_none, Option.or_none, Option.none_or]
    exact ⟨hsame, hsame⟩
  | some new =>
    have happoints := appoints hbrings s
    cases hanswer : act.answer s with
    | error fault =>
      rw [(happoints.refused fault hanswer).1, Act.granted, hbrings, hanswer]
      exact ⟨Option.or_none.symm, Option.none_or.symm⟩
    | ok t =>
      rw [Act.granted, hbrings, hanswer]
      exact (happoints.adds ⟨t, hanswer⟩).2.2 code

theorem findSome?_toList {α β : Type} (f : α → Option β) (o : Option α) : o.toList.findSome? f = o.bind f := by
  cases o with
  | none => rfl
  | some a => exact List.findSome?_singleton

/-- After all that has been done, a code is served by the handler that **came first**. -/
theorem handler?_afterAll (s : Server H) (acts : List (Act H)) (code : Code) :
    (s.afterAll acts).handler? code = (s.handler? code).or ((s.grants acts).findSome? (List.lookup code)) := by
  induction acts generalizing s with
  | nil => exact Option.or_none.symm
  | cons act later ih =>
    have hlater : (s.afterAll (act :: later)).handler? code = ((s.after act).afterAll later).handler? code := rfl
    rw [hlater, ih, (handler?_after s act code).1, grants, List.findSome?_append, findSome?_toList,
      Option.or_assoc]

/-- So it is if the handler that **came last** would take the place of all others: no other came. -/
theorem handler?_afterAll_reverse (s : Server H) (acts : List (Act H)) (code : Code) :
    (s.afterAll acts).handler? code =
      ((s.grants acts).reverse.findSome? (List.lookup code)).or (s.handler? code) := by
  induction acts generalizing s with
  | nil => exact Option.none_or.symm
  | cons act later ih =>
    have hlater : (s.afterAll (act :: later)).handler? code = ((s.after act).afterAll later).handler? code := rfl
    have hone : (act.granted s).toList.reverse = (act.granted s).toList := by cases act.granted s <;> rfl
    rw [hlater, ih, (handler?_after s act code).2, grants, List.reverse_append, hone,
      List.findSome?_append, findSome?_toList, Option.or_assoc]

/-- What serves a code goes on serving it. -/
theorem handler?_afterAll_append (later : List (Act H)) {acts : List (Act H)}
    (h : (s.afterAll acts).handler? code = some handler) :
    (s.afterAll (acts ++ later)).handler? code = some handler := by
  rw [afterAll, List.foldl_append, ← afterAll, ← afterAll, handler?_afterAll, h, Option.some_or]

end Server

/-- **The first handler serves.** Whatever handlers are brought to a server, by whatever calls, and
however often it is started and stopped: each call is granted exactly if it brings no handler for a
code that is served, and adds what it brings or nothing; a refusal names a code that is served
already. Whatever has been done, a code is served by the handler that it had at first, or else by
that of the first call that brought one and was granted; the last such call would give the same,
since there is only one. A datagram goes to the handler of its code, and to the same one whatever is
done later. -/
theorem first_handler_serves (s : Server H) (acts : List (Act H)) :
    (∀ (act : Act H) new, act.brings = some new →
      Appoints (s.afterAll acts) new (act.answer (s.afterAll acts)) ((s.afterAll acts).after act)) ∧
    (∀ code, (s.afterAll acts).handler? code =
        (s.handler? code).or ((s.grants acts).findSome? (List.lookup code)) ∧
      (s.afterAll acts).handler? code =
        ((s.grants acts).reverse.findSome? (List.lookup code)).or (s.handler? code)) ∧
    (∀ datagram handler request, (s.afterAll acts).dispatch datagram = some (handler, request) ↔
      Packet.parse (datagram.take largestDatagram) = .ok request ∧
        (s.afterAll acts).handler? request.code = some handler) ∧
    ∀ later code handler, (s.afterAll acts).handler? code = some handler →
      (s.afterAll (acts ++ later)).handler? code = some handler :=
  ⟨fun _ _ hbrings => Server.appoints hbrings _,
    fun code => ⟨s.handler?_afterAll acts code, s.handler?_afterAll_reverse acts code⟩,
    fun _ _ _ => Server.dispatch_eq_some_iff, fun later _ _ => Server.handler?_afterAll_append later⟩

/-- One call is refused for the code of another, and brings nothing for load either; so load goes to
a counter that comes later. -/
def overlapping : List (Act Canned) :=
  [.offer [(.startSession, .echo)], .offer [(.load, .silence), (.startSession, .silence)], .start,
    .countLoad .echo, .stop, .offer [(.load, .silence)]]

theorem first_handler_serves_overlapping :
    let s : Server Canned := ⟨⟨.v4 127 0 0 1, 5005, 0⟩, [], false⟩
    (¬∃ t, (overlapping[1]).answer (s.afterAll (overlapping.take 1)) = .ok t) ∧
      (s.afterAll overlapping).handler? .startSession = some .echo ∧
      (s.afterAll overlapping).handler? .load = some .echo := by
  intro s
  have hfirst := (first_handler_serves s (overlapping.take 1)).1 overlapping[1] _ rfl
  refine ⟨fun hgranted => ?_, ?_, ?_⟩
  · exact absurd (hfirst.granted.mp hgranted .startSession rfl) nofun
  · rw [((first_handler_serves s overlapping).2.1 _).1]
    rfl
  · rw [((first_handler_serves s overlapping).2.1 _).1]
    rfl

end MediaProxy.Control
