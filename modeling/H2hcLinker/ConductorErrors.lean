import H2hcLinker.ConductorConnections

/-! Every error a zome call returns has its cause among the call's own turns. A broken admin
websocket is one only the second time. -/
namespace H2hcLinker.Conductor

open HashTable Interleaving Past

variable {settings : Settings} {s s' : AppConn} {act new : Section} {reply : Reply}
  {next rest : List Section} {p : Connecting} {ms : List Turn} {m : Turn} {t : Nat}

/-- The task begins a new call. -/
def Begins (t : Nat) (m : Turn) : Prop := m.task = t ∧ ∃ call, m.act = .searchCache call

/-- A turn of the task's current call. -/
def Own (t : Nat) (P : List Turn → Turn → Prop) : List Turn → Prop :=
  Since (fun m => ¬Begins t m) fun before m => m.task = t ∧ P before m

/-- The listing showed the admin websocket to be broken. -/
def Broke (_ : List Turn) (m : Turn) : Prop :=
  ∃ call attempt admin text, m.act = .listApps call attempt admin ∧
    m.input = .refused (.websocketError text)

/-- It did so after another listing of the same call. -/
def BrokeAgain (t : Nat) (before : List Turn) (m : Turn) : Prop := Broke before m ∧ Own t Broke before

/-- The conductor listed the apps for the call. -/
def ListedFor (call : ZomeCall) (apps : List AppInfo) (_ : List Turn) (m : Turn) : Prop :=
  ∃ attempt admin, m.act = .listApps call attempt admin ∧ m.input = .apps apps

/-- The conductor refused a request for good, and that is reported as the error. -/
def Refused (error : LinkerError) (_ : List Turn) (m : Turn) : Prop :=
  ∃ e, m.input = .refused e ∧ m.act.asks = true ∧ m.act.retries e = false ∧ m.act.error e = error

/-- What can be behind an error of the call. -/
def Explained (settings : Settings) (t : Nat) (call : ZomeCall) (ms : List Turn)
    (error : LinkerError) : Prop :=
  Own t (Refused error) ms ∨
  (error = .upstreamUnavailable ∧ Own t (BrokeAgain t) ms) ∨
  (error = .notFound ("No app found with DNA " ++ settings.dnaToStr call.dnaHash) ∧
    ∃ apps, findInApps apps call.dnaHash = none ∧ Own t (ListedFor call apps) ms)

/-- A later attempt has a broken listing behind it. -/
def AdminUse.Accounted (t : Nat) (ms : List Turn) : AdminUse → Prop
  | .listApps _ attempt => 0 < attempt → Own t Broke ms
  | .connectApp _ => True

def Section.Accounted (settings : Settings) (t : Nat) (ms : List Turn) : Section → Prop
  | .handleLookup use | .handleWrite use | .adminConnect use => use.Accounted t ms
  | .listApps call attempt _ => (AdminUse.listApps call attempt).Accounted t ms
  | .handleReset _ attempt => Own t Broke ms ∧ (0 < attempt → Own t (BrokeAgain t) ms)
  | .storeApps call apps => Own t (ListedFor call apps) ms
  | .returned call (.error error) => Explained settings t call ms error
  | _ => True

theorem Explained.later {call : ZomeCall} {error : LinkerError}
    (explained : Explained settings t call ms error) (calm : ¬Begins t m) :
    Explained settings t call (ms ++ [m]) error := by
  rcases explained with refused | ⟨rfl, twice⟩ | ⟨rfl, apps, missing, listed⟩
  · exact .inl (Since.later refused calm)
  · exact .inr (.inl ⟨rfl, Since.later twice calm⟩)
  · exact .inr (.inr ⟨rfl, apps, missing, Since.later listed calm⟩)

theorem AdminUse.Accounted.later {use : AdminUse} (accounted : use.Accounted t ms)
    (calm : ¬Begins t m) : use.Accounted t (ms ++ [m]) := by
  cases use with
  | listApps call attempt => exact fun again => Since.later (accounted again) calm
  | connectApp target => trivial

theorem Section.Accounted.later (accounted : act.Accounted settings t ms) (calm : ¬Begins t m) :
    act.Accounted settings t (ms ++ [m]) := by
  cases act with
  | handleLookup use => exact AdminUse.Accounted.later accounted calm
  | handleWrite use => exact AdminUse.Accounted.later accounted calm
  | adminConnect use => exact AdminUse.Accounted.later accounted calm
  | listApps call attempt admin => exact fun again => Since.later (accounted again) calm
  | handleReset call attempt =>
    exact ⟨Since.later accounted.1 calm, fun again => Since.later (accounted.2 again) calm⟩
  | storeApps call apps => exact Since.later accounted calm
  | returned call result =>
    cases result with
    | error error => exact Explained.later accounted calm
    | ok bytes => trivial
  | _ => trivial

theorem proceed_accounted {use : AdminUse} {admin : AdminWebsocket} (accounted : use.Accounted t ms) :
    (use.proceed admin).Accounted settings t ms := by
  cases use with
  | listApps call attempt => exact accounted
  | connectApp target => trivial

theorem step_accounted (step : Step settings p.shared act reply s' next)
    (accounted : act.Accounted settings t ms) :
    ∀ new ∈ next, new.Accounted settings t (ms ++ [⟨p, t, act, reply⟩]) := by
  have calm (begun : ¬∃ call, act = .searchCache call) : ¬Begins t (⟨p, t, act, reply⟩ : Turn) :=
    fun begins => begun begins.2
  intro new pushed
  cases step with
  | dropped act => cases pushed
  | left call result reply => cases pushed
  | cached call reply app cellId found =>
    cases List.mem_singleton.mp pushed
    trivial
  | uncached call reply =>
    cases List.mem_singleton.mp pushed
    exact fun again => absurd again (Nat.lt_irrefl 0)
  | waits act reply stuck =>
    cases List.mem_singleton.mp pushed
    cases act with
    | searchCache call => trivial
    | _ => exact accounted.later (calm (by simp))
  | failed act e asks final =>
    cases List.mem_singleton.mp pushed
    exact .inl (since_now ⟨rfl, e, rfl, asks, final, rfl⟩)
  | handleFound act reply use admin seeks free found =>
    cases List.mem_singleton.mp pushed
    have mine : use.Accounted t ms := by rcases seeks with rfl | rfl <;> exact accounted
    exact proceed_accounted (mine.later (calm (by rcases seeks with rfl | rfl <;> simp)))
  | adminConnected use =>
    cases List.mem_singleton.mp pushed
    exact proceed_accounted (AdminUse.Accounted.later accounted (calm (by simp)))
  | listed call attempt admin apps =>
    cases List.mem_singleton.mp pushed
    exact since_now ⟨rfl, attempt, admin, rfl, rfl⟩
  | disconnected call attempt admin text =>
    cases List.mem_singleton.mp pushed
    exact ⟨since_now ⟨rfl, call, attempt, admin, text, rfl, rfl⟩,
      fun again => since_now ⟨rfl, ⟨call, attempt, admin, text, rfl, rfl⟩, accounted again⟩⟩
  | retried call attempt reply waited free first =>
    cases List.mem_singleton.mp pushed
    exact fun _ => Since.later accounted.1 (calm (by simp))
  | exhausted call attempt reply waited free last =>
    cases List.mem_singleton.mp pushed
    exact .inr (.inl ⟨rfl, Since.later (accounted.2 (by omega)) (calm (by simp))⟩)
  | unknown call apps reply missing =>
    cases List.mem_singleton.mp pushed
    exact .inr (.inr ⟨rfl, apps, missing, Since.later accounted (calm (by simp))⟩)
  | connectionFound act reply target app seeks free found =>
    cases List.mem_singleton.mp pushed
    trivial
  | appConnected target admin request info loop =>
    rcases authorizeNext_cases loop with ⟨_, _, _, _, rfl⟩ | ⟨_, _, rfl⟩ <;>
      cases List.mem_singleton.mp pushed <;> trivial
  | authorized target admin app cell cells credentials loop =>
    rcases authorizeNext_cases loop with ⟨_, _, _, _, rfl⟩ | ⟨_, _, rfl⟩ <;>
      cases List.mem_singleton.mp pushed <;> trivial
  | handleMissing use reply free | handleTaken use reply free missing =>
    cases List.mem_singleton.mp pushed
    exact AdminUse.Accounted.later accounted (calm (by simp))
  | _ =>
    cases List.mem_singleton.mp pushed
    trivial

structure Accounting (settings : Settings) (ms : List Turn) (p : Connecting) : Prop where
  pending : ∀ t, ∀ act ∈ p.tasks t, act.Accounted settings t ms
  ran : Always (fun before m => m.act.Accounted settings m.task before) ms

theorem accounting_call (call : ZomeCall) (inv : Accounting settings ms p) :
    Accounting settings ms ⟨p.shared, Function.update p.tasks t [.searchCache call]⟩ where
  pending u act member := by
    rcases mem_of_call member with ⟨_, first⟩ | old
    · cases List.mem_singleton.mp first
      trivial
    · exact inv.pending u act old
  ran := inv.ran

theorem accounting_turn (step : Step settings p.shared act reply s' next)
    (running : p.tasks t = [act]) (inv : Accounting settings ms p) :
    Accounting settings (ms ++ [⟨p, t, act, reply⟩]) ⟨s', Function.update p.tasks t (next ++ [])⟩ := by
  have mine := inv.pending t act (by simp [running])
  refine ⟨?_, inv.ran.snoc mine⟩
  intro u new member
  by_cases same : u = t
  · subst same
    exact step_accounted step mine new (by simpa using member)
  · have old : new ∈ p.tasks u := by simpa [same] using member
    exact (inv.pending u new old).later fun begins => same begins.1.symm

theorem accounting_execute (settings : Settings) (es : List (Event Nat ZomeCall Reply)) :
    Accounting settings ((program settings).moments es (.start .new))
      ((program settings).execute es (.start .new)) := by
  have short := guarded_of_execute (program settings) (fun p => ∀ t, (p.tasks t).length ≤ 1) es
    (.start .new) fun before _ => (sequential settings).tasks before _
  refine execute_moments (Accounting settings) _ ?_ ?_ es [] _ short ⟨?_, always_nil⟩
  · intro ms t call p _ inv
    exact accounting_call call inv
  · intro ms t reply act rest p running short inv
    obtain rfl := rest_eq_nil (short t) running
    exact accounting_turn (perform_step act reply p.shared) running inv
  · intro t act member
    cases member

/-- An error is one that a request of the call itself met, or the second break of the admin
websocket in it, or says that the listing it was given has no cell of the DNA. -/
theorem zome_call_error (settings : Settings) (es : List (Event Nat ZomeCall Reply)) :
    Always (fun before m => ∀ call error, m.act = .returned call (.error error) →
      Explained settings m.task call before error)
      ((program settings).moments es (.start .new)) := by
  intro before m after split call error returned
  have ran : m.act.Accounted settings m.task before :=
    (accounting_execute settings es).ran before m after split
  rw [returned] at ran
  exact ran

end H2hcLinker.Conductor
