import H2hcLinker.Messages
import H2hcLinker.Past

/-! The loop of `handle_socket` in time: what its clocks say as frames and heartbeat ticks come,
what goes out meanwhile, and why it ends. Instants and durations count nanoseconds. -/
namespace H2hcLinker.HandleSocket

open Past

structure WebSocketConfig where
  heartbeatInterval : Nat
  heartbeatTimeout : Nat
  idleTimeout : Nat

def seconds (n : Nat) : Nat := n * 10 ^ 9

/-- `Duration::MAX`. -/
def maxDuration : Nat := seconds (2 ^ 64) - 1

def WebSocketConfig.default : WebSocketConfig := ⟨seconds 30, seconds 10, seconds 300⟩

/-- The sum that a tick computes, unless it overflows. -/
def WebSocketConfig.heartbeatLimit (config : WebSocketConfig) : Option Nat :=
  if config.heartbeatInterval + config.heartbeatTimeout ≤ maxDuration then
    some (config.heartbeatInterval + config.heartbeatTimeout)
  else none

inductive Message where
  | text (data : String)
  | binary (data : List UInt8)
  | ping (payload : List UInt8)
  | pong (payload : List UInt8)
  | close
  deriving DecidableEq

inductive Traffic where
  | incoming (message : Message)
  | outgoing (message : Message)
  deriving DecidableEq

inductive Exit where
  | channelClosed
  | closeFrame
  | socketError
  | streamEnded
  | heartbeatTimeout
  | idleTimeout
  | panicked
  deriving DecidableEq

/-- The loop with what has passed over its socket; `exit` says why it ended. -/
structure Loop where
  lastActivity : Nat
  lastPong : Nat
  traffic : List (Nat × Traffic)
  exit : Option Exit

/-- Whether a client message has a response, and whether the channel is closed when it is sent. -/
structure Handled where
  responds : Bool
  channelClosed : Bool

inductive Event where
  /-- `receiver.next()` yields an item; `handled` matters for a client message. -/
  | received (item : Option (Except String Message)) (handled : Handled)
  | tick
  /-- The send task takes a message off the channel and serialises it. -/
  | forwarded (json : Except String String)

namespace Loop

/-- Before the loop: `interval` panics on a period of zero. -/
def start (config : WebSocketConfig) (connected started : Nat) : Loop where
  lastActivity := connected
  lastPong := started
  traffic := []
  exit := if config.heartbeatInterval = 0 then some .panicked else none

def quit (exit : Exit) (l : Loop) : Loop := { l with exit := some exit }

def alive (now : Nat) (l : Loop) : Loop := { l with lastActivity := now, lastPong := now }

def log (now : Nat) (traffic : Traffic) (l : Loop) : Loop :=
  { l with traffic := l.traffic ++ [(now, traffic)] }

def handle (parse : String → Except String ClientMessage) (now : Nat) (message : Message)
    (handled : Handled) (l : Loop) : Loop :=
  match message with
  | .text data =>
    match parse data with
    | .ok _ =>
      if handled.responds ∧ handled.channelClosed then (l.alive now).quit .channelClosed
      else l.alive now
    -- The error that goes to the client is sent without looking at the outcome.
    | .error _ => l.alive now
  | .pong _ => l.alive now
  | .close => l.quit .closeFrame
  | .binary _ => l
  | .ping _ => l

def tick (config : WebSocketConfig) (now : Nat) (l : Loop) : Loop :=
  match config.heartbeatLimit with
  | none => l.quit .panicked
  | some limit =>
    if limit < now - l.lastPong then l.quit .heartbeatTimeout
    else if config.idleTimeout < now - l.lastActivity then l.quit .idleTimeout
    else l

def turn (parse : String → Except String ClientMessage) (config : WebSocketConfig) (now : Nat)
    (event : Event) (l : Loop) : Loop :=
  match event with
  | .received (some (.ok message)) handled =>
    (l.log now (.incoming message)).handle parse now message handled
  | .received (some (.error _)) _ => l.quit .socketError
  | .received none _ => l.quit .streamEnded
  | .tick => l.tick config now
  | .forwarded (.ok json) => l.log now (.outgoing (.text json))
  | .forwarded (.error _) => l

def step (parse : String → Except String ClientMessage) (config : WebSocketConfig) (l : Loop)
    (e : Nat × Event) : Loop :=
  if l.exit = none then l.turn parse config e.1 e.2 else l

end Loop

def after (parse : String → Except String ClientMessage) (config : WebSocketConfig)
    (connected started : Nat) (events : List (Nat × Event)) : Loop :=
  events.foldl (Loop.step parse config) (.start config connected started)

/-- The frames that the loop takes for a sign of life. -/
def Message.signOfLife : Message → Bool
  | .text _ => true
  | .pong _ => true
  | _ => false

def Traffic.Answers : Traffic → Prop
  | .incoming message => message.signOfLife = true
  | .outgoing _ => False

/-- A ping went out at least `timeout` before `now`, and no frame since has answered it. -/
def Unanswered (timeout now : Nat) : List (Nat × Traffic) → Prop :=
  Since (fun t => ¬t.2.Answers) fun _ t =>
    (∃ payload, t.2 = .outgoing (.ping payload)) ∧ t.1 + timeout ≤ now

def Event.signOfLife : Event → Bool
  | .received (some (.ok message)) _ => message.signOfLife
  | _ => false

/-- When the client last gave a sign of life, or else the start. -/
def lastHeard (start : Nat) (events : List (Nat × Event)) : Nat :=
  ((events.filter (·.2.signOfLife)).getLast?.map Prod.fst).getD start

variable {parse : String → Except String ClientMessage} {config : WebSocketConfig}
  {connected started : Nat} {events : List (Nat × Event)} {l : Loop} {e : Nat × Event}

section

variable (parse config connected started)

/-- The loop never drops a client for its heartbeat, but for a ping that it left unanswered. -/
def KeepsResponsive : List (Nat × Event) → Prop :=
  Always fun before e =>
    (after parse config connected started before).exit = none →
    (after parse config connected started (before ++ [e])).exit = some .heartbeatTimeout →
      Unanswered config.heartbeatTimeout e.1 (after parse config connected started before).traffic

/-- A period of zero, or a sum that overflows. -/
def WebSocketConfig.Panics : Prop :=
  config.heartbeatInterval = 0 ∨ maxDuration < config.heartbeatInterval + config.heartbeatTimeout

/-- A tick more than the interval and the timeout after the last sign of life. -/
def Late (before : List (Nat × Event)) (e : Nat × Event) : Prop :=
  e.2 = .tick ∧
    config.heartbeatInterval + config.heartbeatTimeout < e.1 - lastHeard started before

/-- The item ends the loop. -/
def breaks (item : Option (Except String Message)) (handled : Handled) : Bool :=
  match item with
  | some (.ok (.text data)) => (parse data).isOk && handled.responds && handled.channelClosed
  | some (.ok .close) => true
  | some (.ok _) => false
  | some (.error _) => true
  | none => true

/-- The loop, if it still runs, ends here for a reason other than the heartbeat. -/
def Ends (before : List (Nat × Event)) (e : Nat × Event) : Prop :=
  match e.2 with
  | .received item handled => breaks parse item handled = true
  | .tick => config.idleTimeout < e.1 - lastHeard connected before
  | .forwarded _ => False

end

theorem after_snoc (events : List (Nat × Event)) (e : Nat × Event) :
    after parse config connected started (events ++ [e]) =
      (after parse config connected started events).step parse config e := by
  simp [after]

theorem lastHeard_snoc (start : Nat) (events : List (Nat × Event)) (e : Nat × Event) :
    lastHeard start (events ++ [e]) =
      if e.2.signOfLife then e.1 else lastHeard start events := by
  unfold lastHeard
  rw [List.filter_append]
  by_cases sign : e.2.signOfLife = true
  · simp [sign]
  · simp [sign]

theorem step_running (running : l.exit = none) :
    l.step parse config e = l.turn parse config e.1 e.2 :=
  if_pos running

theorem step_ended (ended : l.exit ≠ none) : l.step parse config e = l :=
  if_neg ended

/-- The loop goes on, and a sign of life, and nothing else, has set both clocks. -/
structure Continues (l : Loop) (e : Nat × Event) (next : Loop) : Prop where
  running : next.exit = none
  pong : next.lastPong = if e.2.signOfLife then e.1 else l.lastPong
  activity : next.lastActivity = if e.2.signOfLife then e.1 else l.lastActivity

theorem step_received (parse : String → Except String ClientMessage) (config : WebSocketConfig)
    (running : l.exit = none) (now : Nat) (item : Option (Except String Message))
    (handled : Handled) :
    if breaks parse item handled then
      ∃ exit, (l.step parse config (now, .received item handled)).exit = some exit ∧
        exit ≠ .heartbeatTimeout ∧ exit ≠ .idleTimeout
    else Continues l (now, .received item handled)
      (l.step parse config (now, .received item handled)) := by
  rw [step_running running]
  cases item with
  | none => exact ⟨.streamEnded, rfl, by decide, by decide⟩
  | some result =>
    cases result with
    | error e => exact ⟨.socketError, rfl, by decide, by decide⟩
    | ok message =>
      cases message with
      | text data =>
        simp only [breaks, Loop.turn, Loop.handle]
        cases parse data with
        | error e => exact ⟨running, rfl, rfl⟩
        | ok m =>
          by_cases closed : handled.responds = true ∧ handled.channelClosed = true
          · simp [closed, Except.isOk, Except.toBool, Loop.quit]
          · rw [if_neg closed, if_neg (by simpa [Except.isOk, Except.toBool] using closed)]
            exact ⟨running, rfl, rfl⟩
      | binary data => exact ⟨running, rfl, rfl⟩
      | ping payload => exact ⟨running, rfl, rfl⟩
      | pong payload => exact ⟨running, rfl, rfl⟩
      | close => exact ⟨.closeFrame, rfl, by decide, by decide⟩

theorem step_forwarded (running : l.exit = none) (now : Nat) (json : Except String String) :
    Continues l (now, .forwarded json) (l.step parse config (now, .forwarded json)) := by
  rw [step_running running]
  cases json with
  | error e => exact ⟨running, rfl, rfl⟩
  | ok text => exact ⟨running, rfl, rfl⟩

theorem step_tick (running : l.exit = none) (now : Nat) :
    l.step parse config (now, .tick) =
      if maxDuration < config.heartbeatInterval + config.heartbeatTimeout then l.quit .panicked
      else if config.heartbeatInterval + config.heartbeatTimeout < now - l.lastPong then
        l.quit .heartbeatTimeout
      else if config.idleTimeout < now - l.lastActivity then l.quit .idleTimeout
      else l := by
  rw [step_running running]
  unfold Loop.turn Loop.tick WebSocketConfig.heartbeatLimit
  by_cases fits : config.heartbeatInterval + config.heartbeatTimeout ≤ maxDuration
  · simp [fits, Nat.not_lt.mpr fits]
  · simp [fits, Nat.lt_of_not_le fits]

theorem running_of_step (running : (l.step parse config e).exit = none) : l.exit = none := by
  by_contra ended
  rw [step_ended ended] at running
  exact ended running

/-- Without an interval the loop does not start. -/
theorem interval_of_running
    (running : (after parse config connected started events).exit = none) :
    config.heartbeatInterval ≠ 0 := by
  induction events using List.reverseRecOn with
  | nil =>
    intro zero
    rw [after, List.foldl_nil, Loop.start, if_pos zero] at running
    cases running
  | append_singleton events e ih =>
    rw [after_snoc] at running
    exact ih (running_of_step running)

theorem continues_of_running (running : (l.step parse config e).exit = none) :
    Continues l e (l.step parse config e) := by
  have before := running_of_step running
  obtain ⟨now, event⟩ := e
  cases event with
  | received item handled =>
    have next := step_received parse config before now item handled
    split at next
    next =>
      obtain ⟨exit, ended, _⟩ := next
      rw [ended] at running
      cases running
    next => exact next
  | forwarded json => exact step_forwarded before now json
  | tick =>
    rw [step_tick before] at running ⊢
    split at running
    next => cases running
    next fits =>
      split at running
      next => cases running
      next fresh =>
        split at running
        next => cases running
        next active =>
          rw [if_neg fits, if_neg fresh, if_neg active]
          exact ⟨before, rfl, rfl⟩

/-- The clocks of a running loop. -/
theorem after_clocks (running : (after parse config connected started events).exit = none) :
    (after parse config connected started events).lastPong = lastHeard started events ∧
      (after parse config connected started events).lastActivity = lastHeard connected events := by
  induction events using List.reverseRecOn with
  | nil => exact ⟨rfl, rfl⟩
  | append_singleton events e ih =>
    rw [after_snoc] at running ⊢
    obtain ⟨pong, activity⟩ := ih (running_of_step running)
    have next := continues_of_running running
    rw [next.pong, next.activity, lastHeard_snoc, lastHeard_snoc, pong, activity]
    exact ⟨rfl, rfl⟩

/-- What an event does to a loop that still runs. -/
inductive Turned (parse : String → Except String ClientMessage) (config : WebSocketConfig)
    (connected started : Nat) (events : List (Nat × Event)) (e : Nat × Event) (next : Loop) : Prop
  | goesOn (running : next.exit = none) (unended : ¬Ends parse config connected events e)
      (timely : ¬Late config started events e)
  | dropped (exit : next.exit = some .heartbeatTimeout)
      (fits : ¬maxDuration < config.heartbeatInterval + config.heartbeatTimeout)
      (late : Late config started events e)
  | idle (exit : next.exit = some .idleTimeout) (tick : e.2 = .tick)
      (expired : config.idleTimeout < e.1 - lastHeard connected events)
      (timely : ¬Late config started events e)
  | stopped (reason : Exit) (exit : next.exit = some reason)
      (other : reason ≠ .heartbeatTimeout ∧ reason ≠ .idleTimeout)
      (ends : Ends parse config connected events e) (timely : ¬Late config started events e)
  | overflowed (exit : next.exit = some .panicked)
      (overflow : maxDuration < config.heartbeatInterval + config.heartbeatTimeout)

theorem turned (running : (after parse config connected started events).exit = none)
    (e : Nat × Event) :
    Turned parse config connected started events e
      (after parse config connected started (events ++ [e])) := by
  rw [after_snoc]
  obtain ⟨now, event⟩ := e
  cases event with
  | received item handled =>
    have untimed : ¬Late config started events (now, .received item handled) :=
      fun late => nomatch late.1
    have next := step_received parse config running now item handled
    split at next
    next broken =>
      obtain ⟨reason, exit, other⟩ := next
      exact .stopped reason exit other broken untimed
    next whole => exact .goesOn next.running whole untimed
  | forwarded json =>
    exact .goesOn (step_forwarded running now json).running id fun late => nomatch late.1
  | tick =>
    obtain ⟨pong, activity⟩ := after_clocks running
    rw [step_tick running, pong, activity]
    split
    next overflow => exact .overflowed rfl overflow
    next fits =>
      split
      next late => exact .dropped rfl fits ⟨rfl, late⟩
      next fresh =>
        have timely : ¬Late config started events (now, .tick) := fun late => fresh late.2
        split
        next expired => exact .idle rfl rfl expired timely
        next active => exact .goesOn running active timely

/-- Only a late tick drops a client for its heartbeat. -/
theorem heartbeatTimeout_iff
    (running : (after parse config connected started events).exit = none) :
    (after parse config connected started (events ++ [e])).exit = some .heartbeatTimeout ↔
      ¬maxDuration < config.heartbeatInterval + config.heartbeatTimeout ∧
        Late config started events e := by
  cases turned running e with
  | goesOn running unended timely => simp [running, timely]
  | dropped exit fits late => simp [exit, fits, late]
  | idle exit tick expired timely => simp [exit, timely]
  | stopped reason exit other ends timely => simp [exit, other, timely]
  | overflowed exit overflow => simp [exit, overflow]

theorem running_snoc_iff (sound : ¬config.Panics) :
    (after parse config connected started (events ++ [e])).exit = none ↔
      (after parse config connected started events).exit = none ∧
        ¬Ends parse config connected events e ∧ ¬Late config started events e := by
  by_cases running : (after parse config connected started events).exit = none
  swap
  · simp [after_snoc, step_ended running, running]
  cases turned running e with
  | goesOn after unended timely => simp [after, running, unended, timely]
  | dropped exit fits late => simp [exit, late]
  | idle exit tick expired timely => simp [exit, Ends, tick, expired]
  | stopped reason exit other ends timely => simp [exit, ends]
  | overflowed exit overflow => exact absurd (.inr overflow) sound

theorem running_iff (sound : ¬config.Panics) (events : List (Nat × Event)) :
    (after parse config connected started events).exit = none ↔
      ¬Once (Ends parse config connected) events ∧ ¬Once (Late config started) events := by
  induction events using List.reverseRecOn with
  | nil =>
    refine iff_of_true ?_ ⟨not_once_nil, not_once_nil⟩
    exact if_neg fun zero => sound (.inl zero)
  | append_singleton events e ih =>
    rw [running_snoc_iff sound, ih, once_snoc, once_snoc]
    tauto

theorem handle_traffic (now : Nat) (message : Message) (handled : Handled) (l : Loop) :
    (l.handle parse now message handled).traffic = l.traffic := by
  cases message with
  | text data =>
    simp only [Loop.handle]
    split
    next =>
      split
      next => rfl
      next => rfl
    next => rfl
  | binary data => rfl
  | ping payload => rfl
  | pong payload => rfl
  | close => rfl

theorem tick_traffic (now : Nat) (l : Loop) : (l.tick config now).traffic = l.traffic := by
  unfold Loop.tick
  split
  next => rfl
  next limit =>
    split
    next => rfl
    next => split <;> rfl

/-- A turn adds what came in, or a text frame that goes out. -/
theorem mem_step_traffic {t : Nat × Traffic} (passed : t ∈ (l.step parse config e).traffic) :
    t ∈ l.traffic ∨ (∃ message, t.2 = .incoming message) ∨
      ∃ data, t.2 = .outgoing (.text data) := by
  by_cases running : l.exit = none
  swap
  · rw [step_ended running] at passed
    exact .inl passed
  rw [step_running running] at passed
  obtain ⟨now, event⟩ := e
  cases event with
  | received item handled =>
    cases item with
    | none => exact .inl passed
    | some result =>
      cases result with
      | error e => exact .inl passed
      | ok message =>
        rw [Loop.turn, handle_traffic] at passed
        rcases List.mem_append.mp passed with old | new
        · exact .inl old
        · exact .inr (.inl ⟨message, congrArg Prod.snd (List.mem_singleton.mp new)⟩)
  | tick =>
    rw [Loop.turn, tick_traffic] at passed
    exact .inl passed
  | forwarded json =>
    cases json with
    | error e => exact .inl passed
    | ok text =>
      rcases List.mem_append.mp passed with old | new
      · exact .inl old
      · exact .inr (.inr ⟨text, congrArg Prod.snd (List.mem_singleton.mp new)⟩)

/-- The send task sends text frames only. -/
theorem outgoing_text {time : Nat} {message : Message}
    (sent : (time, .outgoing message) ∈ (after parse config connected started events).traffic) :
    ∃ data, message = .text data := by
  induction events using List.reverseRecOn with
  | nil => exact absurd sent List.not_mem_nil
  | append_singleton events e ih =>
    rw [after_snoc] at sent
    rcases mem_step_traffic sent with old | ⟨message', incoming⟩ | ⟨data, outgoing⟩
    · exact ih old
    · cases incoming
    · exact ⟨data, Traffic.outgoing.inj outgoing⟩

theorem not_unanswered (timeout now : Nat) (events : List (Nat × Event)) :
    ¬Unanswered timeout now (after parse config connected started events).traffic := by
  rintro ⟨before, ⟨time, traffic⟩, later, split, ⟨⟨payload, ping⟩, _⟩, _⟩
  have sent : (time, .outgoing (.ping payload)) ∈
      (after parse config connected started events).traffic := by
    rw [split, ← ping]
    simp
  obtain ⟨data, text⟩ := outgoing_text sent
  cases text

/-- No ping is ever sent, so a responsive client stays connected exactly when each tick that comes
more than the interval and the timeout after its last text or pong finds the loop ended. -/
theorem keeps_responsive_iff (parse : String → Except String ClientMessage)
    (config : WebSocketConfig) (connected started : Nat) (events : List (Nat × Event)) :
    KeepsResponsive parse config connected started events ↔
      config.Panics ∨ Always (fun before e =>
        Late config started before e → Once (Ends parse config connected) before) events := by
  constructor
  · intro keeps
    by_cases sound : config.Panics
    · exact .inl sound
    right
    intro before e rest split late
    by_contra unended
    -- The first late tick so far finds the loop running.
    have once : Once (Late config started) (before ++ [e]) := once_snoc.mpr (.inr late)
    obtain ⟨earlier, e', between, prefixed, late', first⟩ := once.first
    have here : events = earlier ++ e' :: (between ++ rest) := by
      rw [split, ← List.singleton_append, ← List.append_assoc, prefixed, List.append_assoc,
        List.cons_append]
    have unbroken : ¬Once (Ends parse config connected) earlier := by
      intro ended
      rcases snoc_split prefixed with ⟨rfl, _⟩ | ⟨more, rfl⟩
      · exact unended ended
      · exact unended (ended.append _)
    have running := (running_iff sound earlier).mpr ⟨unbroken, first⟩
    have dropped := (heartbeatTimeout_iff running).mpr ⟨fun overflow => sound (.inr overflow), late'⟩
    exact not_unanswered _ _ earlier (keeps earlier e' _ here running dropped)
  · intro condition before e rest split running dropped
    obtain ⟨fits, late⟩ := (heartbeatTimeout_iff running).mp dropped
    have positive := interval_of_running running
    have sound : ¬config.Panics := by rintro (zero | overflow) <;> contradiction
    have timely := condition.resolve_left sound before e rest split late
    exact absurd timely ((running_iff sound before).mp running).1

/-- A client that only listens is dropped at the third tick, having been sent no ping. -/
theorem keeps_responsive_listening :
    ¬∀ (parse : String → Except String ClientMessage) (config : WebSocketConfig)
      (connected started : Nat) (events : List (Nat × Event)),
      KeepsResponsive parse config connected started events := by
  intro always
  have keeps := always (fun _ => .error "expected value") .default 0 0
    [(0, .tick), (seconds 30, .tick), (seconds 60, .tick)]
  exact not_unanswered _ _ _ (keeps [(0, .tick), (seconds 30, .tick)] (seconds 60, .tick) [] rfl
    (by decide) (by decide))

theorem lastHeard_gap (connected started : Nat) (events : List (Nat × Event)) :
    lastHeard started events ≤ lastHeard connected events + (started - connected) := by
  induction events using List.reverseRecOn with
  | nil =>
    change started ≤ connected + (started - connected)
    omega
  | append_singleton events e ih =>
    rw [lastHeard_snoc, lastHeard_snoc]
    split
    next => omega
    next => exact ih

/-- Where the idle timeout is no shorter than the heartbeat's limit, it never ends the loop. -/
theorem idle_shadowed (shadow : config.heartbeatInterval + config.heartbeatTimeout +
    (started - connected) ≤ config.idleTimeout) (events : List (Nat × Event)) :
    (after parse config connected started events).exit ≠ some .idleTimeout := by
  induction events using List.reverseRecOn with
  | nil =>
    rw [after, List.foldl_nil, Loop.start]
    split <;> simp
  | append_singleton events e ih =>
    by_cases running : (after parse config connected started events).exit = none
    swap
    · rwa [after_snoc, step_ended running]
    cases turned running e with
    | goesOn after unended timely => simp [after]
    | dropped exit fits late => simp [exit]
    | idle exit tick expired timely =>
      -- The heartbeat's check comes first, and its limit is no longer.
      have fresh := Nat.le_of_not_lt fun late => timely ⟨tick, late⟩
      have gap := lastHeard_gap connected started events
      omega
    | stopped reason exit other ends timely => simp [exit, other]
    | overflowed exit overflow => simp [exit]

/-- With the default configuration no connection lasts until its idle timeout. -/
example (now : Nat) (events : List (Nat × Event)) :
    (after parse .default now now events).exit ≠ some .idleTimeout :=
  idle_shadowed (by rw [Nat.sub_self]; decide) events

end H2hcLinker.HandleSocket
