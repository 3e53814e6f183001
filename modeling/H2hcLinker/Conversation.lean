import H2hcLinker.ConnectionChannel
import Mathlib.Data.List.ReduceOption

/-! What a browser is answered. The loop of a connection handles a frame to its end before it takes the
next, so the answers come in the order of the frames. -/
namespace H2hcLinker.WebSocket

open Interleaving Past

variable {libs : Libraries} {s : System} {p : Running} {c : WsSender} {act : Section} {input : Input}

/-- A text frame, as it parses. -/
abbrev Parsed := Except String ClientMessage

/-- The messages that can answer a frame. -/
def Fits : Parsed → ServerMessage → Prop
  | .ok (.auth _), answer => (∃ token, answer = .authOk token) ∨
      (∃ challenge, answer = .authChallenge challenge) ∨ ∃ text, answer = .authError text
  | .ok (.authChallengeResponse _), answer =>
    (∃ token, answer = .authOk token) ∨ ∃ text, answer = .authError text
  | .ok (.register dnaText agentText), answer =>
    answer = .registered dnaText agentText ∨ ∃ text, answer = .error text
  | .ok (.unregister dnaText agentText), answer =>
    answer = .unregistered dnaText agentText ∨ ∃ text, answer = .error text
  | .ok .ping, answer => ∃ peerCount, answer = .pong peerCount
  | .ok (.signResponse _ _ _), _ => False
  | .ok (.sendRemoteSignal _ _), answer => ∃ text, answer = .error text
  | .error e, answer => answer = .error ("Invalid message format: " ++ e)

/-- The frames that need no answer. -/
def Silent : Parsed → Prop
  | .ok (.signResponse _ _ _) | .ok (.sendRemoteSignal _ _) => True
  | _ => False

/-- What became of a frame. -/
def Settles (f : Parsed) : Option ServerMessage → Prop
  | some answer => Fits f answer
  | none => Silent f

/-- The frame that the loop of the connection takes up. -/
def frameOf (c : WsSender) (s : System) : Section → Option Parsed
  | .receive c' (.text f) => if c' = c ∧ (s.conns c).phase = .open then some f else none
  | _ => none

/-- The frames that the loop took up, oldest first. -/
def framesOf (c : WsSender) (past : List Instant) : List Parsed :=
  past.filterMap fun m => frameOf c m.pool.shared m.act

theorem framesOf_snoc (c : WsSender) (past : List Instant) (m : Instant) :
    framesOf c (past ++ [m]) = framesOf c past ++ (frameOf c m.pool.shared m.act).toList :=
  filterMap_snoc _ past m

theorem answers_snoc (c : WsSender) (past : List Instant) (m : Instant) :
    answers c (past ++ [m]) = answers c past ++ (answerTo c m.pool.shared m.act).toList :=
  filterMap_snoc _ past m

/-- The sections that a frame's handler still has to run before its answer. -/
def Toward (c : WsSender) (f : Parsed) : Section → Prop
  | .reply c' message | .notify c' message => c' = c ∧ Fits f message
  | .isAgentAllowed c' _ => c' = c ∧ ∃ agentText, f = .ok (.auth agentText)
  | .sessionLookup c' _ | .sessionInsert c' _ _ | .registerWsSender c' _ _ =>
    c' = c ∧ ∃ signature, f = .ok (.authChallengeResponse signature)
  | .register c' _ dnaText agentText => c' = c ∧ f = .ok (.register dnaText agentText)
  | .unregister c' _ dnaText agentText => c' = c ∧ f = .ok (.unregister dnaText agentText)
  | .peerCount c' => c' = c ∧ f = .ok .ping
  | _ => False

/-- The sections of a connection's task that answer nothing. -/
def Mute : Section → Prop
  | .registerDna _ | .kitsune _ | .deliverSignature _ _ | .remoteSignals _ _ | .isRegistered _ _
  | .sendSignal _ _ | .unregisterAll _ | .unregisterWsSender _ | .close _ => True
  | _ => False

theorem Cleans.mute {c' : WsSender} (cleans : Cleans c' s act) : Mute act := by
  rcases cleans with rfl | ⟨key, _, rfl⟩ | rfl | rfl <;> trivial

/-- What answers nothing goes on with nothing that does. -/
theorem Mute.pushed {new : Section} (mute : Mute act) (pushed : new ∈ (perform libs act input s).2) :
    Mute new := by
  have next := perform_next act input s new pushed
  cases act with
  | kitsune inner =>
    obtain ⟨g, inner', _, _, rfl⟩ := next
    trivial
  | remoteSignals dna signals => rcases next with ⟨rest, rfl⟩ | ⟨target, signal, rfl⟩ <;> trivial
  | isRegistered key signal => rcases next with rfl | rfl <;> trivial
  | registerDna key | deliverSignature id result | sendSignal key signal | unregisterAll c'
  | unregisterWsSender c' | close c' => cases next
  | _ => cases mute

theorem Mute.answerTo (mute : Mute act) : answerTo c s act = none := by
  cases act <;> first | rfl | cases mute

theorem Mute.frameOf (mute : Mute act) : frameOf c s act = none := by
  cases act <;> first | rfl | cases mute

theorem Toward.frameOf {f : Parsed} (toward : Toward c f act) : frameOf c s act = none := by
  cases act <;> first | rfl | cases toward

/-- What a handler makes of its frame before its first await. -/
def Taken (c : WsSender) (f : Parsed) (next : List Section) : Prop :=
  ∃ act, next = [act] ∧ (Toward c f act ∨ Silent f ∧ Mute act)

theorem taken_reply {f : Parsed} {message : ServerMessage} (fits : Fits f message) :
    Taken c f [.reply c message] :=
  ⟨_, rfl, .inl ⟨rfl, fits⟩⟩

theorem handleAuth_taken (agentText : String) :
    Taken c (.ok (.auth agentText)) (handleAuth libs c agentText s).2 := by
  unfold handleAuth
  split
  next e _ => exact taken_reply (.inr (.inr ⟨_, rfl⟩))
  next agent _ =>
    split
    · exact taken_reply (.inl ⟨_, rfl⟩)
    · exact ⟨_, rfl, .inl ⟨rfl, agentText, rfl⟩⟩

theorem handleAuthChallengeResponse_taken (text : String) :
    Taken c (.ok (.authChallengeResponse text)) (handleAuthChallengeResponse libs c text s).2 := by
  unfold handleAuthChallengeResponse
  dsimp only
  split
  · exact taken_reply (.inr ⟨_, rfl⟩)
  · split
    · exact taken_reply (.inr ⟨_, rfl⟩)
    · dsimp only
      split
      · exact taken_reply (.inr ⟨_, rfl⟩)
      · exact ⟨_, rfl, .inl ⟨rfl, text, rfl⟩⟩

theorem handleRegister_taken (dnaText agentText : String) :
    Taken c (.ok (.register dnaText agentText)) (handleRegister libs c dnaText agentText s).2 := by
  unfold handleRegister
  dsimp only
  split
  · exact taken_reply (.inr ⟨_, rfl⟩)
  · split
    · exact taken_reply (.inr ⟨_, rfl⟩)
    · split
      · exact taken_reply (.inr ⟨_, rfl⟩)
      · exact ⟨_, rfl, .inl ⟨rfl, rfl⟩⟩

theorem handleUnregister_taken (dnaText agentText : String) :
    Taken c (.ok (.unregister dnaText agentText)) (handleUnregister libs c dnaText agentText s).2 := by
  unfold handleUnregister
  dsimp only
  split
  · exact taken_reply (.inr ⟨_, rfl⟩)
  · split
    · exact taken_reply (.inr ⟨_, rfl⟩)
    · exact ⟨_, rfl, .inl ⟨rfl, rfl⟩⟩

theorem handleSendRemoteSignal_taken (dnaText : String) (signals : List SignedRemoteSignalInput) :
    Taken c (.ok (.sendRemoteSignal dnaText signals))
      (handleSendRemoteSignal libs c dnaText signals s).2 := by
  unfold handleSendRemoteSignal
  split
  · exact taken_reply ⟨_, rfl⟩
  · split
    · exact taken_reply ⟨_, rfl⟩
    · split
      · exact taken_reply ⟨_, rfl⟩
      · exact ⟨_, rfl, .inr ⟨trivial, trivial⟩⟩

theorem handleClientMessage_taken (message : ClientMessage) :
    Taken c (.ok message) (handleClientMessage libs c message s).2 := by
  cases message with
  | auth agentText => exact handleAuth_taken agentText
  | authChallengeResponse signature => exact handleAuthChallengeResponse_taken signature
  | register dnaText agentText => exact handleRegister_taken dnaText agentText
  | unregister dnaText agentText => exact handleUnregister_taken dnaText agentText
  | ping =>
    simp only [handleClientMessage]
    split
    · exact ⟨_, rfl, .inl ⟨rfl, rfl⟩⟩
    · exact taken_reply ⟨_, rfl⟩
  | signResponse requestId signature error => exact ⟨_, rfl, .inr ⟨trivial, trivial⟩⟩
  | sendRemoteSignal dnaText signals => exact handleSendRemoteSignal_taken dnaText signals

/-- The handler's last section answers the frame; those before it answer nothing. -/
def Leads (c : WsSender) (f : Parsed) (sections : List Section) : Prop :=
  ∃ quiet last, sections = quiet ++ [last] ∧ (∀ act ∈ quiet, Mute act) ∧ Toward c f last

theorem leads_singleton {f : Parsed} (toward : Toward c f act) : Leads c f [act] :=
  ⟨[], act, rfl, by simp, toward⟩

theorem mute_kitsuneSections {sections : List Gateway.Section} :
    ∀ act ∈ kitsuneSections s sections, Mute act := by
  intro act member
  obtain ⟨inner, _, rfl⟩ := mem_kitsuneSections member
  trivial

/-- A section on the way to an answer gives it, goes on towards it, or finds the channel closed. -/
inductive Onward (libs : Libraries) (input : Input) (s : System) (c : WsSender) (f : Parsed)
    (act : Section) : Prop where
  | answered (message : ServerMessage) (puts : answerTo c s act = some message)
      (fits : Fits f message) (ends : (perform libs act input s).2 = [])
  | underWay (puts : answerTo c s act = none) (leads : Leads c f (perform libs act input s).2)
  | gone (puts : answerTo c s act = none)
      (closed : ((perform libs act input s).1.conns c).receiverGone = true)

theorem reply_onward {f : Parsed} {message : ServerMessage} (fits : Fits f message) :
    Onward libs input s c f (.reply c message) := by
  by_cases closed : (s.conns c).receiverGone = true
  · refine .gone ?_ ?_
    · simp [answerTo, Accepting, closed]
    · simp [perform, reply, closed, beginCleanup]
  · have present : (s.conns c).receiverGone = false := by simpa using closed
    by_cases room : s.hasRoom c = true
    · refine .answered message ?_ fits ?_
      · simp [answerTo, Accepting, present, room]
      · simp [perform, reply, present, room]
    · refine .underWay ?_ ?_
      · simp [answerTo, Accepting, room]
      · have waits : (perform libs (.reply c message) input s).2 = [.reply c message] := by
          simp [perform, reply, present, room]
        rw [waits]
        exact leads_singleton ⟨rfl, fits⟩

theorem notify_onward {f : Parsed} {message : ServerMessage} (fits : Fits f message) :
    Onward libs input s c f (.notify c message) := by
  by_cases closed : (s.conns c).receiverGone = true
  · refine .gone ?_ ?_
    · simp [answerTo, Accepting, closed]
    · simp [perform, send, closed]
  · have present : (s.conns c).receiverGone = false := by simpa using closed
    by_cases room : s.hasRoom c = true
    · refine .answered message ?_ fits ?_
      · simp [answerTo, Accepting, present, room]
      · simp [perform, send, present, room]
    · refine .underWay ?_ ?_
      · simp [answerTo, Accepting, room]
      · have waits : (perform libs (.notify c message) input s).2 = [.notify c message] := by
          simp [perform, send, present, room]
        rw [waits]
        exact leads_singleton ⟨rfl, fits⟩

theorem Toward.onward {f : Parsed} (toward : Toward c f act) (libs : Libraries) (input : Input)
    (s : System) : Onward libs input s c f act := by
  cases act with
  | reply c' message =>
    obtain ⟨rfl, fits⟩ := toward
    exact reply_onward fits
  | notify c' message =>
    obtain ⟨rfl, fits⟩ := toward
    exact notify_onward fits
  | isAgentAllowed c' agent =>
    obtain ⟨rfl, agentText, rfl⟩ := toward
    refine .underWay rfl ?_
    simp only [perform]
    split
    · exact leads_singleton ⟨rfl, .inr (.inl ⟨_, rfl⟩)⟩
    · exact leads_singleton ⟨rfl, .inr (.inr ⟨_, rfl⟩)⟩
  | sessionLookup c' agent =>
    obtain ⟨rfl, signature, rfl⟩ := toward
    refine .underWay rfl ?_
    simp only [perform]
    split
    · exact leads_singleton ⟨rfl, .inr ⟨_, rfl⟩⟩
    · exact leads_singleton ⟨rfl, signature, rfl⟩
  | sessionInsert c' agent capabilities => exact .underWay rfl (leads_singleton toward)
  | registerWsSender c' agent token =>
    obtain ⟨rfl, signature, rfl⟩ := toward
    exact .underWay rfl (leads_singleton ⟨rfl, .inl ⟨_, rfl⟩⟩)
  | register c' key dnaText agentText =>
    obtain ⟨rfl, rfl⟩ := toward
    refine .underWay rfl ⟨_, _, rfl, ?_, rfl, .inl rfl⟩
    intro act member
    rcases List.mem_append.mp member with granting | joining
    · split at granting
      · cases List.mem_singleton.mp granting
        trivial
      · cases granting
    · exact mute_kitsuneSections act joining
  | unregister c' key dnaText agentText =>
    obtain ⟨rfl, rfl⟩ := toward
    exact .underWay rfl ⟨_, _, rfl, mute_kitsuneSections, rfl, .inl rfl⟩
  | peerCount c' =>
    obtain ⟨rfl, rfl⟩ := toward
    exact .underWay rfl (leads_singleton ⟨rfl, _, rfl⟩)
  | _ => cases toward

/-- The frames that wait for an answer, by what the connection's task has still to run. -/
inductive Due (c : WsSender) : List Parsed → List Section → Prop where
  | none (sections : List Section) (mute : ∀ act ∈ sections, Mute act) : Due c [] sections
  | fresh (act : Section) (starts : Starts act) : Due c [] [act]
  | waiting (f : Parsed) (sections : List Section) (leads : Leads c f sections) : Due c [f] sections

/-- One frame at most is due, and none when the loop waits for the next. -/
theorem Due.waiting_le {waiting : List Parsed} {sections : List Section} (due : Due c waiting sections) :
    waiting.length ≤ 1 ∧ (sections = [] → waiting = []) := by
  cases due with
  | none sections mute => exact ⟨Nat.zero_le _, fun _ => rfl⟩
  | fresh act starts => exact ⟨Nat.zero_le _, fun _ => rfl⟩
  | waiting f sections leads =>
    refine ⟨Nat.le_refl _, ?_⟩
    rintro rfl
    obtain ⟨quiet, last, empty, _⟩ := leads
    simp at empty

/-- What a section adds: frames taken up, some of them settled with what it puts on the channel. -/
def Continues (c : WsSender) (waiting : List Parsed) (frame : Option Parsed)
    (answer : Option ServerMessage) (present : Prop) (sections : List Section) : Prop :=
  ∃ done later outcomes, waiting ++ frame.toList = done ++ later ∧
    List.Forall₂ Settles done outcomes ∧ outcomes.reduceOption = answer.toList ∧
    (present → Due c later sections)

/-- The section neither takes up a frame nor answers one. -/
theorem continues_quiet {waiting : List Parsed} {sections : List Section} {present : Prop}
    (due : present → Due c waiting sections) : Continues c waiting none none present sections :=
  ⟨[], waiting, [], by simp, .nil, rfl, due⟩

theorem receive_continues (f : Frame) (present : Prop) :
    Continues c [] (frameOf c s (.receive c f)) none present (receive libs c f s).2 := by
  by_cases opened : (s.conns c).phase = .open
  · cases f with
    | close =>
      refine continues_quiet fun _ => .none _ fun act member => ?_
      simp only [receive, opened, ne_eq, not_true_eq_false, if_false, beginCleanup] at member
      exact (mem_cleanup member).mute
    | text f =>
      have took : frameOf c s (.receive c (.text f)) = some f := by simp [frameOf, opened]
      have taken : Taken c f (receive libs c (.text f) s).2 := by
        cases f with
        | ok message =>
          simp only [receive, opened, ne_eq, not_true_eq_false, if_false]
          exact handleClientMessage_taken message
        | error e =>
          simp only [receive, opened, ne_eq, not_true_eq_false, if_false]
          exact ⟨_, rfl, .inl ⟨rfl, rfl⟩⟩
      obtain ⟨act, goes, toward | ⟨silent, mute⟩⟩ := taken
      · rw [took, goes]
        exact ⟨[], [f], [], rfl, .nil, rfl, fun _ => .waiting f _ (leads_singleton toward)⟩
      · rw [took, goes]
        refine ⟨[f], [], [none], rfl, .cons silent .nil, rfl, fun _ => .none _ ?_⟩
        intro other member
        cases List.mem_singleton.mp member
        exact mute
  · have nothing : (receive libs c f s).2 = [] := by simp [receive, opened]
    have took : frameOf c s (.receive c f) = none := by
      cases f <;> simp [frameOf, opened]
    rw [nothing, took]
    exact continues_quiet fun _ => .none [] (by simp)

/-- A connection's own section. -/
theorem Due.continues {waiting : List Parsed} {rest : List Section} (due : Due c waiting (act :: rest))
    (libs : Libraries) (input : Input) (s : System) (belongs : Belongs (.conn c) act) :
    Continues c waiting (frameOf c s act) (answerTo c s act)
      (((perform libs act input s).1.conns c).receiverGone = false)
      ((perform libs act input s).2 ++ rest) := by
  generalize whole : act :: rest = sections at due
  cases due with
  | none sections mute =>
    subst whole
    have quiet := mute act (by simp)
    rw [quiet.frameOf, quiet.answerTo]
    refine continues_quiet fun _ => .none _ fun other member => ?_
    rcases List.mem_append.mp member with pushed | later
    · exact quiet.pushed pushed
    · exact mute other (List.mem_cons_of_mem _ later)
  | fresh first starts =>
    obtain ⟨rfl, rfl⟩ := List.cons.inj whole
    rw [List.append_nil]
    cases act with
    | connect c' =>
      exact continues_quiet fun _ => .none [] (by simp)
    | receive c' f =>
      cases belongs
      exact receive_continues f _
    | kitsune inner =>
      have quiet : Mute (.kitsune inner) := trivial
      exact continues_quiet fun _ => .none _ fun other pushed => quiet.pushed pushed
    | sendSignal key signal =>
      exact continues_quiet fun _ => .none [] (by simp)
    | _ =>
      first
        | exact False.elim starts
        | obtain ⟨n, other⟩ := belongs
          cases other
  | waiting f sections leads =>
    obtain ⟨quiet, last, ends, mute, toward⟩ := leads
    rw [← whole] at ends
    cases quiet with
    | nil =>
      obtain ⟨rfl, rfl⟩ := List.cons.inj ends
      rw [toward.frameOf, List.append_nil]
      cases toward.onward libs input s with
      | answered message puts fits done =>
        rw [puts, done]
        exact ⟨[f], [], [some message], rfl, .cons fits .nil, rfl, fun _ => .none [] (by simp)⟩
      | underWay puts leads =>
        rw [puts]
        exact continues_quiet fun _ => .waiting f _ leads
      | gone puts closed =>
        rw [puts]
        exact continues_quiet fun here => by rw [closed] at here; cases here
    | cons first quiet =>
      obtain ⟨rfl, rfl⟩ := List.cons.inj ends
      have silent := mute act (by simp)
      rw [silent.frameOf, silent.answerTo]
      refine continues_quiet fun _ =>
        .waiting f _ ⟨_ ++ quiet, last, (List.append_assoc ..).symm, ?_, toward⟩
      intro other member
      rcases List.mem_append.mp member with pushed | later
      · exact silent.pushed pushed
      · exact mute other (List.mem_cons_of_mem _ later)

/-- What other tasks run adds nothing to the conversation. -/
theorem elsewhere_quiet {t : Task} (other : t ≠ .conn c) (belongs : Belongs t act) :
    frameOf c s act = none ∧ answerTo c s act = none := by
  have stranger {c' : WsSender} (mine : t = .conn c') : c' ≠ c := by
    rintro rfl
    exact other mine
  cases act with
  | receive c' f => cases f <;> simp [frameOf, answerTo, stranger belongs]
  | reply c' message | notify c' message => simp [frameOf, answerTo, stranger belongs]
  | _ => exact ⟨rfl, rfl⟩

/-- A closed channel stays closed. -/
theorem perform_present (opened : act = .connect c → (s.conns c).phase ≠ .absent)
    (present : ((perform libs act input s).1.conns c).receiverGone = false) :
    (s.conns c).receiverGone = false := by
  have step := perform_connStep libs act input s c
  generalize (perform libs act input s).1.conns c = after at step present
  cases step with
  | opened fresh => exact absurd fresh (opened rfl)
  | closed => cases present
  | dropped => cases present
  | _ => exact present

/-- Every frame but those that wait has been settled, in order. -/
structure Converses (past : List Instant) (p : Running) (c : WsSender) : Prop where
  settled : ∃ done waiting outcomes, framesOf c past = done ++ waiting ∧
    List.Forall₂ Settles done outcomes ∧ outcomes.reduceOption = answers c past ∧
    ((p.shared.conns c).receiverGone = false → Due c waiting (p.tasks (.conn c)))
  unused : (p.shared.conns c).phase = .absent → framesOf c past = []

theorem opening_converses {past : List Instant} {t : Task} {rest : List Section}
    (running : p.tasks t = .connect c :: rest) (belongs : Belongs t (.connect c))
    (orderly : Orderly p) (absent : (p.shared.conns c).phase = .absent) (inv : Converses past p c) :
    Converses (past ++ [⟨p, t, .connect c, input⟩]) ⟨(perform libs (.connect c) input p.shared).1,
      Function.update p.tasks t ((perform libs (.connect c) input p.shared).2 ++ rest)⟩ c := by
  obtain ⟨done, waiting, outcomes, frames, settled, reduced, _⟩ := inv.settled
  rw [inv.unused absent] at frames
  obtain ⟨rfl, rfl⟩ := List.append_eq_nil_iff.mp frames.symm
  cases settled
  have lonely : rest = [] := orderly.lonely running trivial
  subst lonely
  cases belongs
  refine ⟨⟨[], [], [], ?_, .nil, ?_, fun _ => ?_⟩, ?_⟩
  · rw [framesOf_snoc, inv.unused absent]
    rfl
  · rw [answers_snoc, ← reduced]
    rfl
  · refine .none _ fun act member => ?_
    simp [perform] at member
  · simp [perform, absent]

theorem converses_turn (past : List Instant) (t : Task) (input : Input) (act : Section)
    (rest : List Section) (p : Running) (running : p.tasks t = act :: rest) (belongs : Belongs t act)
    (orderly : Orderly p) (inv : Converses past p c) :
    Converses (past ++ [⟨p, t, act, input⟩]) ⟨(perform libs act input p.shared).1,
      Function.update p.tasks t ((perform libs act input p.shared).2 ++ rest)⟩ c := by
  by_cases opening : act = .connect c ∧ (p.shared.conns c).phase = .absent
  · obtain ⟨rfl, absent⟩ := opening
    exact opening_converses running belongs orderly absent inv
  have opened : act = .connect c → (p.shared.conns c).phase ≠ .absent :=
    fun connects absent => opening ⟨connects, absent⟩
  obtain ⟨done, waiting, outcomes, frames, settled, reduced, due⟩ := inv.settled
  refine ⟨?_, ?_⟩
  · rw [framesOf_snoc, answers_snoc, frames, ← reduced, List.append_assoc]
    by_cases mine : t = .conn c
    · subst mine
      simp only [Function.update_self]
      by_cases present : (p.shared.conns c).receiverGone = false
      · rw [running] at due
        obtain ⟨more, later, further, taken, settles, puts, next⟩ :=
          (due present).continues libs input p.shared belongs
        refine ⟨done ++ more, later, outcomes ++ further, ?_, List.rel_append settled settles, ?_,
          next⟩
        · rw [taken, List.append_assoc]
        · rw [List.reduceOption_append, puts]
      · -- Nothing can be answered any more.
        have unanswered : answerTo c p.shared act = none := by
          by_contra some
          obtain ⟨message, puts⟩ := Option.ne_none_iff_exists'.mp some
          exact present (sentTo_accepting (sentTo_of_answerTo puts)).1
        refine ⟨done, _, outcomes, rfl, settled, ?_, fun after => ?_⟩
        · rw [unanswered, Option.toList_none, List.append_nil]
        · exact absurd (perform_present opened after) present
    · obtain ⟨noFrame, noAnswer⟩ := elsewhere_quiet (s := p.shared) mine belongs
      rw [noFrame, noAnswer]
      refine ⟨done, waiting, outcomes, by simp, settled, by simp, fun after => ?_⟩
      simp only [Function.update_of_ne (Ne.symm mine)]
      exact due (perform_present opened after)
  · intro absent
    have before : (p.shared.conns c).phase = .absent := by
      by_contra present
      exact perform_not_absent act input present absent
    have noFrame : frameOf c p.shared act = none := by
      unfold frameOf
      split
      · simp [before]
      · rfl
    rw [framesOf_snoc, inv.unused before, noFrame]
    rfl

theorem converses_call (past : List Instant) (t : Task) (request : Request) (p : Running)
    (idle : p.tasks t = []) (inv : Converses past p c) :
    Converses past ⟨p.shared, Function.update p.tasks t (Request.body t request)⟩ c := by
  obtain ⟨done, waiting, outcomes, frames, settled, reduced, due⟩ := inv.settled
  refine ⟨⟨done, waiting, outcomes, frames, settled, reduced, fun present => ?_⟩, inv.unused⟩
  by_cases mine : t = .conn c
  · subst mine
    simp only [Function.update_self]
    have none : waiting = [] := (due present).waiting_le.2 idle
    subst none
    cases script : Request.body (.conn c) request with
    | nil => exact .none [] (by simp)
    | cons act rest =>
      have first : act ∈ Request.body (.conn c) request := by simp [script]
      obtain ⟨starts, only⟩ := body_starts first
      rw [← script, only]
      exact .fresh act starts
  · simp only [Function.update_of_ne (Ne.symm mine)]
    exact due present

theorem converses_execute (libs : Libraries) (kitsune auth : Bool)
    (schedule : List (Event Task Request Input)) (c : WsSender) :
    Converses ((program libs).moments schedule (.start (.start kitsune auth)))
      ((program libs).execute schedule (.start (.start kitsune auth))) c := by
  apply execute_moments (fun past p => Converses past p c)
    (fun p _ _ _ => (∀ u, ∀ new ∈ p.tasks u, Belongs u new) ∧ Orderly p) converses_call
    (fun past t input act rest p running known =>
      converses_turn past t input act rest p running (known.1 t act (by simp [running])) known.2)
    schedule [] _ (guarded_orderly kitsune auth schedule)
  refine ⟨⟨[], [], [], rfl, .nil, rfl, fun _ => .none [] (by simp)⟩, fun _ => rfl⟩

/-- Whatever else runs, the send task takes off the channel what was put on it in that order, with no
more under way than the channel holds, and the answers among it settle the browser's frames in their
order. While the channel is there only the frame in hand can wait. -/
theorem frames_answered_in_order (libs : Libraries) (kitsune auth : Bool)
    (schedule : List (Event Task Request Input)) (c : WsSender) :
    let past := (program libs).moments schedule (.start (.start kitsune auth))
    let p := (program libs).execute schedule (.start (.start kitsune auth))
    taken c past ++ (p.shared.conns c).queue = sent c past ∧
      (p.shared.conns c).queue.length ≤ System.channelCapacity ∧
      (answers c past).Sublist (sent c past) ∧
      ∃ done waiting outcomes, framesOf c past = done ++ waiting ∧
        List.Forall₂ Settles done outcomes ∧ outcomes.reduceOption = answers c past ∧
        ((p.shared.conns c).receiverGone = false →
          waiting.length ≤ 1 ∧ (p.tasks (.conn c) = [] → waiting = [])) := by
  intro past p
  have delivers := delivers_execute libs kitsune auth schedule c
  obtain ⟨done, waiting, outcomes, frames, settled, reduced, due⟩ :=
    (converses_execute libs kitsune auth schedule c).settled
  exact ⟨delivers.order, delivers.bound, answers_sublist_sent c past, done, waiting, outcomes, frames,
    settled, reduced, fun present => (due present).waiting_le⟩

end H2hcLinker.WebSocket
