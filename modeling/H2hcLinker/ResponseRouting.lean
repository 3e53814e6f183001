import H2hcLinker.Past
import H2hcLinker.PendingResponses

/-! Which message a registered request is sent. The lock section of `route_response` takes the
responder out of the map and the message is sent after it, so a responder is in the map, in the
hands of one call, or used up. -/
namespace H2hcLinker.Dht

open HashTable Interleaving Past

variable {Response : ResponseKind → Type} {debug : WireMessage Response → String}
  {s : PendingDhtResponses Response} {p : Serving Response} {past : List (Turn Response)}
  {act : Section Response} {rest : List (Section Response)} {input : Input} {t : Nat} {id : UInt64}
  {n : Nat} {msg : WireMessage Response}

namespace PendingDhtResponses

/-- A receiver by its id and what it was sent. -/
def view (s : PendingDhtResponses Response) (n : Nat) : Option (UInt64 × List (WireMessage Response)) :=
  s.receivers[n]?.map fun r => (r.msgId, r.sent)

theorem view_modifyReceiver (rx : Nat) (f : Receiver Response → Receiver Response)
    (s : PendingDhtResponses Response) (n : Nat) : (s.modifyReceiver rx f).view n =
      s.receivers[n]?.map fun r => if n = rx then ((f r).msgId, (f r).sent) else (r.msgId, r.sent) := by
  by_cases same : n = rx
  · subst same
    cases found : s.receivers[n]? <;> simp [view, modifyReceiver, found]
  · simp [view, modifyReceiver, same, Ne.symm same]

/-- A flag of a receiver is set. -/
theorem view_flag (rx : Nat) (f : Receiver Response → Receiver Response)
    (s : PendingDhtResponses Response) (n : Nat)
    (same : ∀ r, ((f r).msgId, (f r).sent) = (r.msgId, r.sent)) :
    (s.modifyReceiver rx f).view n = s.view n := by
  rw [view_modifyReceiver]
  simp [view, same]

@[simp] theorem view_dropReceiver (rx : Nat) (s : PendingDhtResponses Response) (n : Nat) :
    (s.dropReceiver rx).view n = s.view n :=
  view_flag rx _ s n fun _ => rfl

@[simp] theorem view_dropSender (id : UInt64) (s : PendingDhtResponses Response) (n : Nat) :
    (s.dropSender id).view n = s.view n := by
  unfold dropSender
  split
  · rfl
  · exact view_flag _ _ s n fun _ => rfl

@[simp] theorem view_remove (id : UInt64) (s : PendingDhtResponses Response) (n : Nat) :
    (s.remove id).view n = s.view n :=
  view_dropSender id s n

theorem length_dropSender (id : UInt64) (s : PendingDhtResponses Response) :
    (s.dropSender id).receivers.length = s.receivers.length := by
  unfold dropSender
  split
  · rfl
  · simp [modifyReceiver]

theorem view_register (id : UInt64) (s : PendingDhtResponses Response) (n : Nat) :
    (s.register id).view n = if n = s.receivers.length then some (id, []) else s.view n := by
  split
  next last =>
    subst last
    simp [view, register, ← length_dropSender id s]
  next other =>
    rw [← view_dropSender id s n]
    by_cases old : n < s.receivers.length
    · simp [view, register, List.getElem?_append, length_dropSender, old]
    · have beyond : s.receivers.length < n := by omega
      have none : [(⟨id, [], false, false⟩ : Receiver Response)][n - s.receivers.length]? = none :=
        List.getElem?_eq_none (by simp; omega)
      simp [view, register, List.getElem?_append, length_dropSender, old, none]

theorem view_lt {entry : UInt64 × List (WireMessage Response)} (found : s.view n = some entry) :
    n < s.receivers.length := by
  obtain ⟨r, there, _⟩ := Option.map_eq_some_iff.mp found
  exact (List.getElem?_eq_some_iff.mp there).1

theorem view_send (tx : PendingResponder) (msg : WireMessage Response)
    (s : PendingDhtResponses Response) (n : Nat) :
    (s.send tx msg).view n = s.view n ∨
      n = tx ∧ ∃ id sent, s.view n = some (id, sent) ∧
        (s.send tx msg).view n = some (id, sent ++ [msg]) := by
  rw [send, view_modifyReceiver]
  cases found : s.receivers[n]? with
  | none => exact .inl (by simp [view, found])
  | some r =>
    by_cases here : n = tx
    · by_cases gone : r.dropped
      · exact .inl (by simp [view, found, gone])
      · exact .inr ⟨here, r.msgId, r.sent, by simp [view, found], by simp [here, gone]⟩
    · exact .inl (by simp [view, found, here])

end PendingDhtResponses

/-- What a section can be followed by. -/
inductive Follows (debug : WireMessage Response → String) (input : Input)
    (s : PendingDhtResponses Response) : Section Response → Section Response → Prop where
  | taken (id : UInt64) (n : Nat) (msg : WireMessage Response) (named : msg.getMsgId = some id)
      (found : s.inner.lookup id = some n) : Follows debug input s (.routeResponse msg) (.send n msg)
  | decided (msg : WireMessage Response) (found : Bool)
      (looked : found = true ↔ ∃ id, msg.getMsgId = some id ∧ id ∈ s.inner) :
      Follows debug input s (.routeResponse msg) (.routed found)
  | begun (q : Query) (fine : input.failure = none) :
      Follows debug input s (.beginRequest q) (.sendNotify q s.receivers.length)
  | unencoded (q : Query) (e : LinkerError) :
      Follows debug input s (.beginRequest q) (.returned q (.error e))
  | notified (q : Query) (rx : Nat) : Follows debug input s (.sendNotify q rx) (.awaitResponse q rx)
  | unsent (q : Query) (rx : Nat) (e : LinkerError) :
      Follows debug input s (.sendNotify q rx) (.returned q (.error e))
  | waiting (q : Query) (rx : Nat) :
      Follows debug input s (.awaitResponse q rx) (.awaitResponse q rx)
  | awaited (q : Query) (rx : Nat) (r : Receiver Response)
      (result : Except LinkerError (Option (Response q.kind))) (there : s.receivers[rx]? = some r)
      (awaited : awaitResponse debug q r input.timedOut = some result) :
      Follows debug input s (.awaitResponse q rx) (.returned q result)
  | handled (fromPeer : String) (space : DnaHash) (msg : WireMessage Response) :
      Follows debug input s (.recvNotify fromPeer space msg) (.routeResponse msg)

theorem perform_follows (debug : WireMessage Response → String) (act : Section Response) (input : Input)
    (s : PendingDhtResponses Response) :
    ∀ new ∈ (perform debug act input s).2, Follows debug input s act new := by
  intro new pushed
  cases act with
  | routeResponse msg =>
    simp only [perform, routeResponse] at pushed
    split at pushed
    next unnamed =>
      cases List.mem_singleton.mp pushed
      exact .decided msg false (by simp [unnamed])
    next id named =>
      split at pushed
      next n found =>
        rcases List.mem_cons.mp pushed with rfl | other
        · exact .taken id n msg named found
        · cases List.mem_singleton.mp other
          have pending := Finmap.mem_of_lookup_eq_some found
          exact .decided msg true (iff_of_true rfl ⟨id, named, pending⟩)
      next unknown =>
        cases List.mem_singleton.mp pushed
        have absent := Finmap.lookup_eq_none.mp unknown
        exact .decided msg false (by simp [named, absent])
  | beginRequest q =>
    simp only [perform] at pushed
    split at pushed
    next e failed =>
      cases List.mem_singleton.mp pushed
      exact .unencoded q _
    next fine =>
      cases List.mem_singleton.mp pushed
      exact .begun q fine
  | sendNotify q rx =>
    simp only [perform] at pushed
    split at pushed
    · cases List.mem_singleton.mp pushed
      exact .unsent q rx _
    · cases List.mem_singleton.mp pushed
      exact .notified q rx
  | awaitResponse q rx =>
    simp only [perform] at pushed
    split at pushed
    next result waited =>
      cases List.mem_singleton.mp pushed
      obtain ⟨r, there, awaited⟩ := Option.bind_eq_some_iff.mp waited
      exact .awaited q rx r result there awaited
    next =>
      cases List.mem_singleton.mp pushed
      exact .waiting q rx
  | recvNotify fromPeer space msg =>
    cases msg with
    | res kind msgId response =>
      cases List.mem_singleton.mp pushed
      exact .handled fromPeer space _
    | errorRes msgId error =>
      cases List.mem_singleton.mp pushed
      exact .handled fromPeer space _
    | _ => cases pushed
  | _ => cases pushed

/-- The call that holds the receiver's responder. -/
def Sends (n : Nat) : Section Response → Prop
  | .send tx _ => tx = n
  | _ => False

/-- The section enters the id in the map. -/
def Registers (id : UInt64) (input : Input) : Section Response → Prop
  | .register msgId => msgId = id
  | .beginRequest q => q.msgId = id ∧ input.failure = none
  | _ => False

/-- The section registers, removes or routes the id. -/
def Touches (id : UInt64) (input : Input) : Section Response → Prop
  | .remove msgId => msgId = id
  | .routeResponse msg => msg.getMsgId = some id
  | act => Registers id input act

/-- A section of no `route_response` after its lock section. -/
def Quiet : Section Response → Prop
  | .send _ _ | .routed _ => False
  | _ => True

theorem Sends.eq (sends : Sends n act) : ∃ msg, act = .send n msg := by
  cases act with
  | send tx msg => exact ⟨msg, congrArg (Section.send · msg) sends⟩
  | _ => cases sends

theorem Quiet.not_sends (quiet : Quiet act) : ¬Sends n act := by
  cases act with
  | send tx msg => cases quiet
  | _ => exact not_false

def Plain (next : List (Section Response)) : Prop := next = [] ∨ ∃ new, next = [new] ∧ Quiet new

/-- What a section does to the tracker. -/
inductive Served (s : PendingDhtResponses Response) (input : Input) : Section Response →
    PendingDhtResponses Response × List (Section Response) → Prop where
  | registered (id : UInt64) (act : Section Response) (next : List (Section Response))
      (registers : Registers id input act) (plain : Plain next) :
      Served s input act (s.register id, next)
  | removed (id : UInt64) : Served s input (.remove id) (s.remove id, [])
  | taken (id : UInt64) (n : Nat) (msg : WireMessage Response) (named : msg.getMsgId = some id)
      (found : s.inner.lookup id = some n) : Served s input (.routeResponse msg)
        ({ s with inner := s.inner.erase id }, [.send n msg, .routed true])
  | missed (msg : WireMessage Response)
      (unknown : ∀ id, msg.getMsgId = some id → s.inner.lookup id = none) :
      Served s input (.routeResponse msg) (s, [.routed false])
  | sent (n : Nat) (msg : WireMessage Response) : Served s input (.send n msg) (s.send n msg, [])
  | calm (act : Section Response) (s' : PendingDhtResponses Response)
      (next : List (Section Response)) (inner : s'.inner = s.inner) (view : ∀ n, s'.view n = s.view n)
      (spares : ∀ id, ¬Touches id input act) (keeps : ∀ n, ¬Sends n act) (plain : Plain next) :
      Served s input act (s', next)

theorem perform_served (debug : WireMessage Response → String) (act : Section Response) (input : Input)
    (s : PendingDhtResponses Response) : Served s input act (perform debug act input s) := by
  have follows (new : Section Response) (quiet : Quiet new) : Plain [new] := .inr ⟨new, rfl, quiet⟩
  cases act with
  | register id => exact .registered id _ _ rfl (.inl rfl)
  | remove id => exact .removed id
  | routeResponse msg =>
    simp only [perform, routeResponse]
    split
    next unnamed => exact .missed msg fun id named => by cases unnamed.symm.trans named
    next id named =>
      split
      next n found => exact .taken id n msg named found
      next unknown => exact .missed msg fun id' named' => by cases named.symm.trans named'; exact unknown
  | send n msg => exact .sent n msg
  | routed found =>
    exact .calm _ s _ rfl (fun _ => rfl) (fun _ => not_false) (fun _ => not_false) (.inl rfl)
  | dropReceiver rx =>
    exact .calm _ _ _ rfl (PendingDhtResponses.view_dropReceiver rx s) (fun _ => not_false)
      (fun _ => not_false) (.inl rfl)
  | beginRequest q =>
    simp only [perform]
    split
    next e failed =>
      refine .calm _ s _ rfl (fun _ => rfl) ?_ (fun _ => not_false) (follows _ trivial)
      rintro id ⟨_, fine⟩
      simp [failed] at fine
    next fine => exact .registered q.msgId _ _ ⟨rfl, fine⟩ (follows _ trivial)
  | sendNotify q rx =>
    simp only [perform]
    split
    · exact .calm _ _ _ rfl (PendingDhtResponses.view_dropReceiver rx s) (fun _ => not_false)
        (fun _ => not_false) (follows _ trivial)
    · exact .calm _ s _ rfl (fun _ => rfl) (fun _ => not_false) (fun _ => not_false) (follows _ trivial)
  | awaitResponse q rx =>
    simp only [perform]
    split
    · exact .calm _ _ _ rfl (PendingDhtResponses.view_dropReceiver rx s) (fun _ => not_false)
        (fun _ => not_false) (follows _ trivial)
    · exact .calm _ s _ rfl (fun _ => rfl) (fun _ => not_false) (fun _ => not_false) (follows _ trivial)
  | returned q result =>
    exact .calm _ s _ rfl (fun _ => rfl) (fun _ => not_false) (fun _ => not_false) (.inl rfl)
  | recvNotify fromPeer space msg =>
    refine .calm _ s _ rfl (fun _ => rfl) (fun _ => not_false) (fun _ => not_false) ?_
    cases msg with
    | res kind msgId response => exact follows _ trivial
    | errorRes msgId error => exact follows _ trivial
    | _ => exact .inl rfl

/-- What a task can have left: nothing behind a section, but for the call that took a responder. -/
inductive Shape : List (Section Response) → Prop where
  | plain (next : List (Section Response)) (plain : Plain next) : Shape next
  | holding (n : Nat) (msg : WireMessage Response) : Shape [.send n msg, .routed true]
  | returning (found : Bool) : Shape [.routed found]

theorem Shape.behind (shape : Shape (act :: rest)) :
    rest = [] ∧ (∀ n, ¬Sends n act) ∨ ∃ n msg, act = .send n msg ∧ rest = [.routed true] := by
  cases shape with
  | plain next plain =>
    rcases plain with empty | ⟨new, one, quiet⟩
    · cases empty
    · cases one
      exact .inl ⟨rfl, fun n => quiet.not_sends⟩
  | holding n msg => exact .inr ⟨n, msg, rfl, rfl⟩
  | returning found => exact .inl ⟨rfl, fun n => not_false⟩

theorem Shape.turn {next : List (Section Response)} {s' : PendingDhtResponses Response}
    (shape : Shape (act :: rest)) (served : Served s input act (s', next)) : Shape (next ++ rest) := by
  rcases shape.behind with ⟨rfl, other⟩ | ⟨n, msg, rfl, rfl⟩
  · rw [List.append_nil]
    cases served with
    | registered id act next registers plain => exact .plain _ plain
    | removed id => exact .plain _ (.inl rfl)
    | taken id n msg named found => exact .holding n msg
    | missed msg unknown => exact .returning false
    | sent n msg => exact .plain _ (.inl rfl)
    | calm act s' next inner view spares keeps plain => exact .plain _ plain
  · cases served with
    | registered id act next registers plain => cases registers
    | sent n msg => exact .returning true
    | calm act s' next inner view spares keeps plain => exact absurd rfl (keeps n)

def Untouched (id : UInt64) (m : Turn Response) : Prop := ¬Touches id m.input m.act

/-- The turn registered the receiver under the id. -/
def Registered (n : Nat) (id : UInt64) (_ : List (Turn Response)) (m : Turn Response) : Prop :=
  Registers id m.input m.act ∧ m.pool.shared.receivers.length = n

/-- The turn routed the message while the receiver was registered for it. -/
def Routed (n : Nat) (id : UInt64) (msg : WireMessage Response) (before : List (Turn Response))
    (m : Turn Response) : Prop :=
  m.act = .routeResponse msg ∧ msg.getMsgId = some id ∧
    m.pool.shared.inner.lookup id = some n ∧ Since (Untouched id) (Registered n id) before

/-- Where each responder is, and what its receiver was sent. -/
structure Correlated (past : List (Turn Response)) (p : Serving Response) : Prop where
  shape : ∀ t, Shape (p.tasks t)
  pending : ∀ id n, p.shared.inner.lookup id = some n → p.shared.view n = some (id, []) ∧
    ¬p.Pending (Sends n) ∧ Since (Untouched id) (Registered n id) past
  flying : ∀ t n msg, .send n msg ∈ p.tasks t → ∃ id, p.shared.view n = some (id, []) ∧
    Once (Routed n id msg) past
  exclusive : ∀ n, p.Exclusive (Sends n)
  sent : ∀ n id msgs, p.shared.view n = some (id, msgs) → msgs.length ≤ 1 ∧
    ∀ msg ∈ msgs, Once (Routed n id msg) past

theorem correlated_start : Correlated [] (.start (.new : PendingDhtResponses Response)) where
  shape _ := .plain _ (.inl rfl)
  pending _ _ found := nomatch found
  flying _ _ _ member := nomatch member
  exclusive _ _ _ _ member := nomatch member
  sent _ _ _ found := nomatch found

theorem correlated_call (idle : p.tasks t = []) (start : Section Response) (quiet : Quiet start)
    (inv : Correlated past p) :
    Correlated past ⟨p.shared, Function.update p.tasks t [start]⟩ where
  shape u := by
    change Shape (Function.update p.tasks t [start] u)
    by_cases here : u = t
    · subst here
      rw [Function.update_self]
      exact .plain _ (.inr ⟨start, rfl, quiet⟩)
    · rw [Function.update_of_ne here]
      exact inv.shape u
  pending id n found := by
    obtain ⟨view, none, since⟩ := inv.pending id n found
    refine ⟨view, fun pending => ?_, since⟩
    rcases (pending_call_iff idle _ _ _).mp pending with old | ⟨act, first, sends⟩
    · exact none old
    · cases List.mem_singleton.mp first
      exact quiet.not_sends sends
  flying u n msg member := by
    rcases mem_of_call member with ⟨rfl, first⟩ | old
    · cases List.mem_singleton.mp first
      cases quiet
    · exact inv.flying u n msg old
  exclusive n := by
    apply exclusive_call (inv.exclusive n)
    intro act first sends
    cases List.mem_singleton.mp first
    exact quiet.not_sends sends
  sent := inv.sent

/-- A section enters new receivers only, and sends on no other than its own. -/
theorem Served.view {next : List (Section Response)} {s' : PendingDhtResponses Response}
    (served : Served s input act (s', next)) {entry : UInt64 × List (WireMessage Response)}
    (found : s.view n = some entry) (other : ¬Sends n act) : s'.view n = some entry := by
  cases served with
  | registered id act next registers plain =>
    rw [PendingDhtResponses.view_register, if_neg]
    · exact found
    · exact Nat.ne_of_lt (PendingDhtResponses.view_lt found)
  | removed id => rwa [PendingDhtResponses.view_remove]
  | taken id tx msg named pending => exact found
  | missed msg unknown => exact found
  | sent tx msg =>
    rcases s.view_send tx msg n with same | ⟨here, _⟩
    · rwa [same]
    · exact absurd here.symm other
  | calm act s' next inner view spares keeps plain => rwa [view]

/-- What a receiver was sent it was sent before, or by the section. -/
theorem Served.view_cases {next : List (Section Response)} {s' : PendingDhtResponses Response}
    (served : Served s input act (s', next)) {msgs : List (WireMessage Response)}
    (found : s'.view n = some (id, msgs)) : s.view n = some (id, msgs) ∨ msgs = [] ∨
      ∃ msg before, act = .send n msg ∧ s.view n = some (id, before) ∧ msgs = before ++ [msg] := by
  cases served with
  | registered id' act next registers plain =>
    rw [PendingDhtResponses.view_register] at found
    split at found
    next =>
      cases found
      exact .inr (.inl rfl)
    next => exact .inl found
  | removed id' => exact .inl (by rwa [PendingDhtResponses.view_remove] at found)
  | taken id' tx msg named pending => exact .inl found
  | missed msg unknown => exact .inl found
  | sent tx msg =>
    rcases s.view_send tx msg n with same | ⟨rfl, id', before, was, is⟩
    · exact .inl (same ▸ found)
    · cases is.symm.trans found
      exact .inr (.inr ⟨msg, before, rfl, was, rfl⟩)
  | calm act s' next inner view spares keeps plain => exact .inl (view n ▸ found)

theorem Served.view_id {next : List (Section Response)} {s' : PendingDhtResponses Response}
    (served : Served s input act (s', next)) {msgs : List (WireMessage Response)}
    (found : s.view n = some (id, msgs)) : ∃ msgs', s'.view n = some (id, msgs') := by
  by_cases sends : Sends n act
  · obtain ⟨msg, rfl⟩ := sends.eq
    cases served with
    | registered id' act next registers plain => cases registers
    | sent tx msg =>
      rcases s.view_send n msg n with same | ⟨_, id', before, was, is⟩
      · exact ⟨msgs, same.trans found⟩
      · cases was.symm.trans found
        exact ⟨_, is⟩
    | calm act s' next inner view spares keeps plain => exact absurd rfl (keeps n)
  · exact ⟨msgs, served.view found sends⟩

/-- What the map leads to it led to before, untouched, or the section has just registered. -/
theorem Served.lookup {next : List (Section Response)} {s' : PendingDhtResponses Response}
    (served : Served s input act (s', next)) (found : s'.inner.lookup id = some n) :
    s.inner.lookup id = some n ∧ ¬Touches id input act ∨
      Registers id input act ∧ n = s.receivers.length ∧ s'.view n = some (id, []) := by
  cases served with
  | registered id' act next registers plain =>
    simp only [PendingDhtResponses.register, lookup_insert_eq] at found
    split at found
    next same =>
      cases found
      subst same
      exact .inr ⟨registers, rfl, by simp [PendingDhtResponses.view_register]⟩
    next other =>
      refine .inl ⟨found, fun touches => other ?_⟩
      cases act with
      | register msgId => exact touches.symm.trans registers
      | beginRequest q => exact touches.1.symm.trans registers.1
      | _ => cases registers
  | removed id' =>
    simp only [PendingDhtResponses.remove, lookup_erase_eq] at found
    split at found
    next => cases found
    next other => exact .inl ⟨found, fun same => other same.symm⟩
  | taken id' tx msg named pending =>
    simp only [lookup_erase_eq] at found
    split at found
    next => cases found
    next other => exact .inl ⟨found, fun same => other (Option.some.inj (same.symm.trans named))⟩
  | missed msg unknown => exact .inl ⟨found, fun named => by cases (unknown id named).symm.trans found⟩
  | sent tx msg => exact .inl ⟨found, not_false⟩
  | calm act s' next inner view spares keeps plain => exact .inl ⟨inner ▸ found, spares id⟩

theorem correlated_turn (debug : WireMessage Response → String) (running : p.tasks t = act :: rest)
    (inv : Correlated past p) :
    Correlated (past ++ [⟨p, t, act, input⟩]) ⟨(perform debug act input p.shared).1,
      Function.update p.tasks t ((perform debug act input p.shared).2 ++ rest)⟩ := by
  have served := perform_served debug act input p.shared
  have follows := perform_follows debug act input p.shared
  have shape := inv.shape t
  rw [running] at shape
  generalize perform debug act input p.shared = after at served follows ⊢
  obtain ⟨s', pushed⟩ := after
  -- A responder that is sent on leaves its task.
  have flies {u : Nat} {n : Nat} {msg : WireMessage Response}
      (member : .send n msg ∈ Function.update p.tasks t (pushed ++ rest) u) :
      .send n msg ∈ pushed ∨ .send n msg ∈ p.tasks u ∧ ¬Sends n act := by
    rcases mem_of_turn running member with ⟨rfl, new⟩ | old
    · exact .inl new
    · by_cases sends : Sends n act
      · have here := inv.exclusive n t u act (by simp [running]) _ old sends rfl
        subst here
        rcases shape.behind with ⟨_, other⟩ | ⟨m, sent, rfl, rfl⟩
        · exact absurd sends (other n)
        · rw [Function.update_self] at member
          rcases List.mem_append.mp member with new | waiting
          · exact .inl new
          · cases List.mem_singleton.mp waiting
      · exact .inr ⟨old, sends⟩
  have holder {n : Nat} {id : UInt64} (found : p.shared.inner.lookup id = some n) :
      ¬Sends n act := fun sends => (inv.pending id n found).2.1 ⟨t, act, by simp [running], sends⟩
  constructor
  · intro u
    change Shape (Function.update p.tasks t (pushed ++ rest) u)
    by_cases here : u = t
    · subst here
      rw [Function.update_self]
      exact shape.turn served
    · rw [Function.update_of_ne here]
      exact inv.shape u
  · intro id n found
    rcases served.lookup found with ⟨old, untouched⟩ | ⟨registers, rfl, view⟩
    · obtain ⟨view, none, since⟩ := inv.pending id n old
      refine ⟨served.view view (holder old), ?_, since.later untouched⟩
      rintro ⟨u, other, member, sends⟩
      obtain ⟨msg, rfl⟩ := sends.eq
      rcases flies member with new | ⟨flying, _⟩
      · cases follows _ new with
        | taken id' n msg named taken =>
          cases view.symm.trans (inv.pending id' n taken).1
          exact untouched named
      · exact none ⟨u, _, flying, rfl⟩
    · refine ⟨view, ?_, since_now ⟨registers, rfl⟩⟩
      rintro ⟨u, other, member, sends⟩
      obtain ⟨msg, rfl⟩ := sends.eq
      rcases flies member with new | ⟨flying, _⟩
      · cases follows _ new with
        | taken id' n msg named taken =>
          exact Nat.lt_irrefl _ (PendingDhtResponses.view_lt (inv.pending id' _ taken).1)
      · obtain ⟨id', known, _⟩ := inv.flying u _ msg flying
        exact Nat.lt_irrefl _ (PendingDhtResponses.view_lt known)
  · intro u n msg member
    rcases flies member with new | ⟨old, other⟩
    · cases follows _ new with
      | taken id n msg named found =>
        obtain ⟨view, _, since⟩ := inv.pending id n found
        exact ⟨id, served.view view (holder found), once_snoc.mpr (.inr ⟨rfl, named, found, since⟩)⟩
    · obtain ⟨id, view, once⟩ := inv.flying u n msg old
      exact ⟨id, served.view view other, once.later⟩
  · intro n
    apply exclusive_turn running (inv.exclusive n)
    rintro ⟨new, member, sends⟩
    obtain ⟨msg, rfl⟩ := sends.eq
    cases follows _ member with
    | taken id n msg named found => exact .inr (inv.pending id n found).2.1
  · intro n id msgs found
    rcases served.view_cases found with old | rfl | ⟨msg, before, rfl, known, rfl⟩
    · obtain ⟨one, all⟩ := inv.sent n id msgs old
      exact ⟨one, fun msg member => (all msg member).later⟩
    · exact ⟨Nat.zero_le _, fun msg member => nomatch member⟩
    · obtain ⟨id', empty, once⟩ := inv.flying t n msg (by simp [running])
      cases empty.symm.trans known
      refine ⟨Nat.le_refl 1, fun msg' member => ?_⟩
      cases List.mem_singleton.mp member
      exact once.later

theorem correlated_execute {κ : Type} (debug : WireMessage Response → String)
    (start : κ → Section Response) (quiet : ∀ request, Quiet (start request))
    (schedule : List (Event Nat κ Input)) :
    Correlated ((serving debug start).moments schedule (.start .new))
      ((serving debug start).execute schedule (.start .new)) := by
  apply execute_moments Correlated (fun _ _ _ _ => True) _ _ schedule [] _ (guarded_trivial schedule _)
    correlated_start
  · intro past t request p idle inv
    exact correlated_call idle (start request) (quiet request) inv
  · intro past t input act rest p running _ inv
    exact correlated_turn debug running inv

/-- `route_response` of the task does not start over. -/
def NotRouting (t : Nat) (m : Turn Response) : Prop := m.task = t → ∀ msg, m.act ≠ .routeResponse msg

/-- The turn looked the id up for the task, and it was pending exactly if `found`. -/
def LookedUp (t : Nat) (found : Bool) (_ : List (Turn Response)) (m : Turn Response) : Prop :=
  m.task = t ∧ ∃ msg, m.act = .routeResponse msg ∧
    (found = true ↔ ∃ id, msg.getMsgId = some id ∧ id ∈ m.pool.shared.inner)

/-- A call that is about to return has looked its id up, and returns what it found. -/
def Returning (past : List (Turn Response)) (p : Serving Response) : Prop :=
  ∀ t found, .routed found ∈ p.tasks t → Since (NotRouting t) (LookedUp t found) past

theorem returning_turn (debug : WireMessage Response → String) (running : p.tasks t = act :: rest)
    (shape : ∀ u, Shape (p.tasks u)) (inv : Returning past p) :
    Returning (past ++ [⟨p, t, act, input⟩]) ⟨(perform debug act input p.shared).1,
      Function.update p.tasks t ((perform debug act input p.shared).2 ++ rest)⟩ := by
  intro u found member
  rcases mem_of_turn running member with ⟨rfl, pushed⟩ | old
  · cases perform_follows debug act input p.shared _ pushed with
    | decided msg found looked => exact since_now ⟨rfl, msg, rfl, looked⟩
  · refine (inv u found old).later ?_
    rintro rfl msg rfl
    have here := shape t
    rw [running] at here old
    rcases here.behind with ⟨rfl, _⟩ | ⟨_, _, other, _⟩
    · cases List.mem_singleton.mp old
    · cases other

theorem returning_execute {κ : Type} (debug : WireMessage Response → String)
    (start : κ → Section Response) (quiet : ∀ request, Quiet (start request))
    (schedule : List (Event Nat κ Input)) :
    Returning ((serving debug start).moments schedule (.start .new))
      ((serving debug start).execute schedule (.start .new)) := by
  have known := guarded_of_execute (serving debug start)
    (fun p => ∀ u, Shape (p.tasks u)) schedule (.start .new)
    fun before _ => (correlated_execute debug start quiet before).shape
  apply execute_moments Returning _ _ _ schedule [] _ known
  · exact fun _ _ member => nomatch member
  · intro past t request p _ inv u found member
    rcases mem_of_call member with ⟨rfl, first⟩ | old
    · have silent := quiet request
      rw [← List.mem_singleton.mp first] at silent
      cases silent
    · exact inv u found old
  · intro past t input act rest p running shape inv
    exact returning_turn debug running shape inv

/-- What does not touch an id leaves what is pending under it. -/
theorem lookup_untouched (debug : WireMessage Response → String) (act : Section Response)
    (input : Input) (s : PendingDhtResponses Response) (untouched : ¬Touches id input act) :
    (perform debug act input s).1.inner.lookup id = s.inner.lookup id := by
  have served := perform_served debug act input s
  generalize perform debug act input s = after at served ⊢
  cases served with
  | registered id' act next registers plain =>
    rw [PendingDhtResponses.register, lookup_insert_eq, if_neg]
    rintro rfl
    cases act <;> first | exact untouched registers | cases registers
  | removed id' =>
    rw [PendingDhtResponses.remove, lookup_erase_eq, if_neg]
    exact fun same => untouched same.symm
  | taken id' n msg named found =>
    rw [lookup_erase_eq, if_neg]
    rintro rfl
    exact untouched named
  | missed msg unknown => rfl
  | sent n msg => rfl
  | calm act s' next inner view spares keeps plain => exact congrArg (Finmap.lookup id) inner

theorem Operation.quiet (op : Operation Response) : Quiet op.start := by
  cases op <;> trivial

/-- A receiver is sent one message at most, which was routed by its id while it was registered; what
does not name an id leaves its entry; and a call returns whether its id was pending. -/
theorem responses_correlated (debug : WireMessage Response → String)
    (schedule : List (Event Nat (Operation Response) Input)) :
    let past := (operations debug).moments schedule (.start .new)
    let p := (operations debug).execute schedule (.start .new)
    (∀ n r, p.shared.receivers[n]? = some r →
      r.sent.length ≤ 1 ∧ ∀ msg ∈ r.sent, Once (Routed n r.msgId msg) past) ∧
    (∀ act input id, ¬Touches id input act →
      (perform debug act input p.shared).1.inner.lookup id = p.shared.inner.lookup id) ∧
    ∀ t found rest, p.tasks t = .routed found :: rest →
      Since (NotRouting t) (LookedUp t found) past := by
  have inv := correlated_execute debug Operation.start Operation.quiet schedule
  refine ⟨fun n r found => ?_, fun act input id => lookup_untouched debug act input _, ?_⟩
  · exact inv.sent n r.msgId r.sent (Option.map_eq_some_iff.mpr ⟨r, found, rfl⟩)
  · intro t found rest running
    exact returning_execute debug Operation.start Operation.quiet schedule t found (by
      change .routed found ∈ ((operations debug).execute schedule (.start .new)).tasks t
      simp [running])

end H2hcLinker.Dht
