import H2hcLinker.HashTable
import H2hcLinker.Interleaving
import H2hcLinker.Types

/-! The requests to DHT peers that wait for a response, and the messages that peers send.
`PendingDhtResponses` is modelled with its channels; the content of a response is a parameter. -/
namespace H2hcLinker.Dht

open HashTable Interleaving

/-- The variants of `WireMessage` that answer a query. -/
inductive ResponseKind where
  | getRes
  | getLinksRes
  | countLinksRes
  | getAgentActivityRes
  | mustGetAgentActivityRes
  deriving DecidableEq, Repr

inductive WireMessage (Response : ResponseKind → Type) where
  | res (kind : ResponseKind) (msgId : UInt64) (response : Response kind)
  | errorRes (msgId : UInt64) (error : String)
  | remoteSignalEvt (toAgent : AgentPubKey) (zomeCallParams : List UInt8)
  /-- The variants that the proxy ignores. -/
  | other (msgId : Option UInt64)

variable {Response : ResponseKind → Type}

def WireMessage.getMsgId : WireMessage Response → Option UInt64
  | .res _ msgId _ | .errorRes msgId _ => some msgId
  | .remoteSignalEvt _ _ => none
  | .other msgId => msgId

/-- The sending half of a channel: the number of its receiver. -/
abbrev PendingResponder := Nat

/-- The receiving half of a registered request's channel, with what was sent to it. -/
structure Receiver (Response : ResponseKind → Type) where
  msgId : UInt64
  sent : List (WireMessage Response)
  senderGone : Bool
  dropped : Bool

structure PendingDhtResponses (Response : ResponseKind → Type) where
  inner : Table UInt64 PendingResponder
  receivers : List (Receiver Response)

namespace PendingDhtResponses

def new : PendingDhtResponses Response := ⟨∅, []⟩

def modifyReceiver (rx : Nat) (f : Receiver Response → Receiver Response)
    (s : PendingDhtResponses Response) : PendingDhtResponses Response :=
  { s with receivers := s.receivers.modify rx f }

/-- The responder under the id, if there is one, is dropped. -/
def dropSender (msgId : UInt64) (s : PendingDhtResponses Response) : PendingDhtResponses Response :=
  match s.inner.lookup msgId with
  | none => s
  | some tx => s.modifyReceiver tx fun r => { r with senderGone := true }

def dropReceiver (rx : Nat) (s : PendingDhtResponses Response) : PendingDhtResponses Response :=
  s.modifyReceiver rx fun r => { r with dropped := true }

/-- `register` with a new channel. -/
def register (msgId : UInt64) (s : PendingDhtResponses Response) : PendingDhtResponses Response where
  inner := s.inner.insert msgId s.receivers.length
  receivers := (s.dropSender msgId).receivers ++ [⟨msgId, [], false, false⟩]

def remove (msgId : UInt64) (s : PendingDhtResponses Response) : PendingDhtResponses Response :=
  { s.dropSender msgId with inner := s.inner.erase msgId }

/-- `oneshot::Sender::send` fails if the receiver is gone. -/
def send (tx : PendingResponder) (msg : WireMessage Response) (s : PendingDhtResponses Response) :
    PendingDhtResponses Response :=
  s.modifyReceiver tx fun r =>
    { r with sent := if r.dropped then r.sent else r.sent ++ [msg], senderGone := true }

end PendingDhtResponses

/-- What a `send_*_request` is called with; the id is drawn from the wire library's counter. -/
structure Query where
  kind : ResponseKind
  space : DnaHash
  toUrl : String
  msgId : UInt64

/-- What the environment supplies to one section. -/
structure Input where
  /-- The error of encoding the request or of `send_notify`, if it fails. -/
  failure : Option String
  timedOut : Bool

inductive Section (Response : ResponseKind → Type) where
  | register (msgId : UInt64)
  | remove (msgId : UInt64)
  | routeResponse (msg : WireMessage Response)
  | send (tx : PendingResponder) (msg : WireMessage Response)
  /-- `route_response` returns. -/
  | routed (found : Bool)
  | dropReceiver (rx : Nat)
  | beginRequest (q : Query)
  | sendNotify (q : Query) (rx : Nat)
  | awaitResponse (q : Query) (rx : Nat)
  /-- The `send_*_request` returns. -/
  | returned (q : Query) (result : Except LinkerError (Option (Response q.kind)))
  | recvNotify (fromPeer : String) (space : DnaHash) (msg : WireMessage Response)

/-- The five `send_*_request` differ in the variant they accept; `debug` prints a message. -/
def answer (debug : WireMessage Response → String) (kind : ResponseKind) (msg : WireMessage Response) :
    Except LinkerError (Option (Response kind)) :=
  match msg with
  | .res k msgId response =>
    if same : k = kind then .ok (some (same ▸ response))
    else .error (.internal ("Unexpected response: " ++ debug (.res k msgId response)))
  | .errorRes _ error => .error (.internal ("Remote error: " ++ error))
  | other => .error (.internal ("Unexpected response: " ++ debug other))

/-- The outcome of waiting for the response, once there is one. -/
def awaitResponse (debug : WireMessage Response → String) (q : Query) (r : Receiver Response)
    (timedOut : Bool) : Option (Except LinkerError (Option (Response q.kind))) :=
  match r.sent with
  | msg :: _ => some (answer debug q.kind msg)
  | [] =>
    if r.senderGone then some (.error (.internal "Response channel closed"))
    else if timedOut then some (.error (.internal "Request timed out"))
    else none

/-- Responses are routed in a task of their own. A signal goes to the agent proxy, which is not
state here. -/
def handleWireMessage : WireMessage Response → List (Section Response)
  | .res kind msgId response => [.routeResponse (.res kind msgId response)]
  | .errorRes msgId error => [.routeResponse (.errorRes msgId error)]
  | .remoteSignalEvt _ _ | .other _ => []

/-- `route_response` up to the release of the lock. -/
def routeResponse (msg : WireMessage Response) (s : PendingDhtResponses Response) :
    PendingDhtResponses Response × List (Section Response) :=
  match msg.getMsgId with
  | none => (s, [.routed false])
  | some msgId =>
    match s.inner.lookup msgId with
    | some tx => ({ s with inner := s.inner.erase msgId }, [.send tx msg, .routed true])
    | none => (s, [.routed false])

def perform (debug : WireMessage Response → String) (act : Section Response) (input : Input)
    (s : PendingDhtResponses Response) : PendingDhtResponses Response × List (Section Response) :=
  match act with
  | .register msgId => (s.register msgId, [])
  | .remove msgId => (s.remove msgId, [])
  | .routeResponse msg => routeResponse msg s
  | .send tx msg => (s.send tx msg, [])
  | .routed _ => (s, [])
  | .dropReceiver rx => (s.dropReceiver rx, [])
  | .beginRequest q =>
    match input.failure with
    | some e => (s, [.returned q (.error (.internal ("Failed to encode request: " ++ e)))])
    | none => (s.register q.msgId, [.sendNotify q s.receivers.length])
  | .sendNotify q rx =>
    match input.failure with
    | some e =>
      (s.dropReceiver rx, [.returned q (.error (.internal ("Failed to send request: " ++ e)))])
    | none => (s, [.awaitResponse q rx])
  | .awaitResponse q rx =>
    match s.receivers[rx]?.bind (awaitResponse debug q · input.timedOut) with
    | some result => (s.dropReceiver rx, [.returned q result])
    | none => (s, [.awaitResponse q rx])
  | .returned _ _ => (s, [])
  | .recvNotify _ _ msg => (s, handleWireMessage msg)

/-- The calls on the tracker itself, in any number of tasks. -/
inductive Operation (Response : ResponseKind → Type) where
  | register (msgId : UInt64)
  | routeResponse (msg : WireMessage Response)
  | remove (msgId : UInt64)
  | dropReceiver (rx : Nat)

def Operation.start : Operation Response → Section Response
  | .register msgId => .register msgId
  | .routeResponse msg => .routeResponse msg
  | .remove msgId => .remove msgId
  | .dropReceiver rx => .dropReceiver rx

/-- The linker's use of it: requests, the timers they leave behind, and every message of a
notification in a task of its own. A timer may fire at any time. -/
inductive Request (Response : ResponseKind → Type) where
  | send (q : Query)
  | timer (msgId : UInt64)
  | recvNotify (fromPeer : String) (space : DnaHash) (msg : WireMessage Response)

def Request.start : Request Response → Section Response
  | .send q => .beginRequest q
  | .timer msgId => .remove msgId
  | .recvNotify fromPeer space msg => .recvNotify fromPeer space msg

/-- Calls of any kind that start with one section. -/
def serving {κ : Type} (debug : WireMessage Response → String) (start : κ → Section Response) :
    Program Nat κ (Section Response) Input (PendingDhtResponses Response) where
  body _ request := [start request]
  perform := perform debug

def operations (debug : WireMessage Response → String) :
    Program Nat (Operation Response) (Section Response) Input (PendingDhtResponses Response) :=
  serving debug Operation.start

def requests (debug : WireMessage Response → String) :
    Program Nat (Request Response) (Section Response) Input (PendingDhtResponses Response) :=
  serving debug Request.start

abbrev Serving (Response : ResponseKind → Type) :=
  Pool Nat (Section Response) (PendingDhtResponses Response)

abbrev Turn (Response : ResponseKind → Type) :=
  Moment Nat (Section Response) Input (PendingDhtResponses Response)

end H2hcLinker.Dht
