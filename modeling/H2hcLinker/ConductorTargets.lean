import H2hcLinker.ConductorConnections

/-! What a zome call goes to: a provisioned cell of the requested DNA, in an app that the conductor
has listed. -/
namespace H2hcLinker.Conductor

open HashTable Interleaving Past

variable {settings : Settings} {s s' : AppConn} {act new : Section} {reply : Reply}
  {next rest : List Section} {p : Connecting} {ms : List Turn} {m : Turn} {t : Nat}

theorem findInApps_eq_some {apps : List AppInfo} {dnaHash : DnaHash} {app : AppInfo} {cellId : CellId}
    (found : findInApps apps dnaHash = some (app, cellId)) :
    app ∈ apps ∧ cellId ∈ app.provisionedCells ∧ cellId.dnaHash = dnaHash := by
  induction apps with
  | nil => cases found
  | cons first apps ih =>
    rw [findInApps] at found
    split at found
    next cell first =>
      cases found
      exact ⟨List.mem_cons_self, List.mem_of_find?_eq_some first, by simpa using List.find?_some first⟩
    next =>
      obtain ⟨listed, fits⟩ := ih found
      exact ⟨List.mem_cons_of_mem _ listed, fits⟩

/-- The target a section works for. -/
def Section.target : Section → Option Target
  | .handleLookup use | .handleWrite use | .adminConnect use => use.connecting
  | .connectionLookup target | .connectionWrite target | .issueToken target _
  | .listInterfaces target _ _ | .attachInterface target _ _ | .appConnect target _ _
  | .authorize target _ _ _ _ | .callZome target _ => some target
  | _ => none

@[simp] theorem proceed_target (use : AdminUse) (admin : AdminWebsocket) :
    (use.proceed admin).target = use.connecting := by
  cases use <;> rfl

/-- The conductor listed the app. -/
def Listed (app : AppInfo) (_ : List Turn) (m : Turn) : Prop :=
  ∃ call attempt admin apps, m.act = .listApps call attempt admin ∧ m.input = .apps apps ∧ app ∈ apps

/-- The cell is a provisioned one of the app, and of the requested DNA. -/
structure Target.Fits (target : Target) : Prop where
  provisioned : target.cellId ∈ target.app.provisionedCells
  dnaHash : target.cellId.dnaHash = target.call.dnaHash

/-- A section works for the target it worked for, or found it in the listing it searched. -/
theorem step_target (step : Step settings s act reply s' next) {target : Target}
    (pushed : new ∈ next) (targets : new.target = some target) :
    act.target = some target ∨ target.Fits ∧
      (target.app ∈ s.appInfoCache ∨ ∃ call apps, act = .storeApps call apps ∧ target.app ∈ apps) := by
  cases step with
  | waits act reply stuck =>
    cases List.mem_singleton.mp pushed
    exact .inl targets
  | cached call reply app cellId found =>
    cases List.mem_singleton.mp pushed
    cases targets
    obtain ⟨listed, provisioned, dnaHash⟩ := findInApps_eq_some found
    exact .inr ⟨⟨provisioned, dnaHash⟩, .inl listed⟩
  | stored call apps reply app cellId found =>
    cases List.mem_singleton.mp pushed
    cases targets
    obtain ⟨listed, provisioned, dnaHash⟩ := findInApps_eq_some found
    exact .inr ⟨⟨provisioned, dnaHash⟩, .inr ⟨call, apps, rfl, listed⟩⟩
  | handleFound act reply use admin seeks free found =>
    cases List.mem_singleton.mp pushed
    rw [proceed_target] at targets
    rcases seeks with rfl | rfl <;> exact .inl targets
  | adminConnected use =>
    cases List.mem_singleton.mp pushed
    rw [proceed_target] at targets
    exact .inl targets
  | connectionFound act reply target app seeks free found =>
    cases List.mem_singleton.mp pushed
    rcases seeks with rfl | rfl <;> exact .inl targets
  | appConnected target admin request info loop =>
    rcases authorizeNext_cases loop with ⟨_, _, _, _, rfl⟩ | ⟨_, _, rfl⟩ <;>
      cases List.mem_singleton.mp pushed <;> exact .inl targets
  | authorized target admin app cell cells credentials loop =>
    rcases authorizeNext_cases loop with ⟨_, _, _, _, rfl⟩ | ⟨_, _, rfl⟩ <;>
      cases List.mem_singleton.mp pushed <;> exact .inl targets
  | dropped act => cases pushed
  | left call result reply => cases pushed
  | _ =>
    cases List.mem_singleton.mp pushed
    first
      | exact .inl targets
      | cases targets

/-- The cached listing and the one about to be cached come from the conductor. -/
theorem step_appInfoCache (step : Step settings s act reply s' next) :
    s'.appInfoCache = s.appInfoCache ∨ ∃ call, act = .storeApps call s'.appInfoCache := by
  cases step with
  | stored call apps reply app cellId found => exact .inr ⟨call, rfl⟩
  | unknown call apps reply missing => exact .inr ⟨call, rfl⟩
  | appConnected target admin request info loop =>
    rcases authorizeNext_cases loop with ⟨_, _, _, rfl, rfl⟩ | ⟨_, rfl, rfl⟩ <;> exact .inl rfl
  | authorized target admin app cell cells credentials loop =>
    rcases authorizeNext_cases loop with ⟨_, _, _, rfl, rfl⟩ | ⟨_, rfl, rfl⟩ <;> exact .inl rfl
  | _ => exact .inl rfl

theorem step_storeApps (step : Step settings s act reply s' next) {call : ZomeCall}
    {apps : List AppInfo} (pushed : .storeApps call apps ∈ next) :
    act = .storeApps call apps ∨ ∃ attempt admin, act = .listApps call attempt admin ∧
      reply = .apps apps := by
  cases step with
  | waits act reply stuck => exact .inl (List.mem_singleton.mp pushed).symm
  | listed call attempt admin apps =>
    cases List.mem_singleton.mp pushed
    exact .inr ⟨attempt, admin, rfl, rfl⟩
  | handleFound act reply use admin seeks free found => cases use <;> cases List.mem_singleton.mp pushed
  | adminConnected use => cases use <;> cases List.mem_singleton.mp pushed
  | appConnected target admin request info loop =>
    rcases authorizeNext_cases loop with ⟨_, _, _, _, rfl⟩ | ⟨_, _, rfl⟩ <;>
      cases List.mem_singleton.mp pushed
  | authorized target admin app cell cells credentials loop =>
    rcases authorizeNext_cases loop with ⟨_, _, _, _, rfl⟩ | ⟨_, _, rfl⟩ <;>
      cases List.mem_singleton.mp pushed
  | dropped act => cases pushed
  | left call result reply => cases pushed
  | _ => cases List.mem_singleton.mp pushed

/-- The turn worked for a target that fits its call, in an app the conductor had listed. -/
def Placed (before : List Turn) (m : Turn) : Prop :=
  ∀ target, m.act.target = some target → Once (Listed target.app) before ∧ target.Fits

structure Targeting (ms : List Turn) (p : Connecting) : Prop where
  cache : ∀ app ∈ p.shared.appInfoCache, Once (Listed app) ms
  storing : ∀ t call apps, .storeApps call apps ∈ p.tasks t → ∀ app ∈ apps, Once (Listed app) ms
  targets : ∀ t, ∀ act ∈ p.tasks t, ∀ target, act.target = some target →
    Once (Listed target.app) ms ∧ target.Fits
  placed : Always Placed ms

theorem targeting_start : Targeting [] (.start .new) where
  cache _ member := by cases member
  storing _ _ _ member := by cases member
  targets _ _ member := by cases member
  placed := always_nil

theorem targeting_call (call : ZomeCall) (inv : Targeting ms p) :
    Targeting ms ⟨p.shared, Function.update p.tasks t [.searchCache call]⟩ where
  cache := inv.cache
  storing u call apps member := by
    rcases mem_of_call member with ⟨_, first⟩ | old
    · cases List.mem_singleton.mp first
    · exact inv.storing u call apps old
  targets u act member target targets := by
    rcases mem_of_call member with ⟨_, first⟩ | old
    · cases List.mem_singleton.mp first
      cases targets
    · exact inv.targets u act old target targets
  placed := inv.placed

theorem targeting_turn (step : Step settings p.shared act reply s' next)
    (running : p.tasks t = act :: rest) (inv : Targeting ms p) :
    Targeting (ms ++ [⟨p, t, act, reply⟩]) ⟨s', Function.update p.tasks t (next ++ rest)⟩ := by
  have head : act ∈ p.tasks t := by simp [running]
  refine ⟨?_, ?_, ?_, ?_⟩
  · intro app member
    rcases step_appInfoCache step with same | ⟨call, rfl⟩
    · exact (inv.cache app (same ▸ member)).later
    · exact (inv.storing t call _ head app member).later
  · intro u call apps member app listed
    rcases mem_of_turn running member with ⟨_, pushed⟩ | old
    · rcases step_storeApps step pushed with rfl | ⟨attempt, admin, rfl, rfl⟩
      · exact (inv.storing t call apps head app listed).later
      · exact since_now ⟨call, attempt, admin, apps, rfl, rfl, listed⟩
    · exact (inv.storing u call apps old app listed).later
  · intro u new member target targets
    rcases mem_of_turn running member with ⟨_, pushed⟩ | old
    · rcases step_target step pushed targets with mine | ⟨fits, cached | ⟨call, apps, rfl, listed⟩⟩
      · exact (inv.targets t act head target mine).imp_left Once.later
      · exact ⟨(inv.cache _ cached).later, fits⟩
      · exact ⟨(inv.storing t call apps head _ listed).later, fits⟩
    · exact (inv.targets u new old target targets).imp_left Once.later
  · exact inv.placed.snoc fun target targets => inv.targets t act head target targets

theorem targeting_execute (settings : Settings) (es : List (Event Nat ZomeCall Reply)) :
    Targeting ((program settings).moments es (.start .new))
      ((program settings).execute es (.start .new)) := by
  refine execute_moments Targeting (fun _ _ _ _ => True) ?_ ?_ es [] _ (guarded_trivial es _)
    targeting_start
  · intro ms t call p _ inv
    exact targeting_call call inv
  · intro ms t reply act rest p running _ inv
    exact targeting_turn (perform_step act reply p.shared) running inv

/-- A zome call goes to a provisioned cell of the requested DNA, in an app that the conductor
listed before. -/
theorem zome_call_target (settings : Settings) (es : List (Event Nat ZomeCall Reply)) :
    Always (fun before m => ∀ target app, m.act = .callZome target app →
      Once (Listed target.app) before ∧ target.Fits) ((program settings).moments es (.start .new)) := by
  intro before m after split target app calls
  exact (targeting_execute settings es).placed before m after split target (by rw [calls]; rfl)

end H2hcLinker.Conductor
