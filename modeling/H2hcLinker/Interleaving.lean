import Mathlib.Logic.Function.Basic
import Mathlib.Data.List.Basic

/-! Calls that interleave at their suspension points over one shared state. A task holds the
atomic sections of its current call that have still to run; running the first one may put
further sections in front of the rest. Any event list is a schedule: an event that is not
possible in a state leaves it unchanged. -/
namespace Interleaving

/-- `body` lists the first sections of a call, `perform` runs one section with one input of
the environment and returns the sections the call continues with. -/
structure Program (θ κ α ι σ : Type) where
  body : θ → κ → List α
  perform : α → ι → σ → σ × List α

structure Pool (θ α σ : Type) where
  shared : σ
  tasks : θ → List α

inductive Event (θ κ ι : Type) where
  | call (task : θ) (request : κ)
  | turn (task : θ) (input : ι)
  deriving DecidableEq, Repr

def Event.task {θ κ ι : Type} : Event θ κ ι → θ
  | .call t _ => t
  | .turn t _ => t

variable {θ κ α ι σ : Type} {p : Pool θ α σ} {t : θ} {act : α} {rest : List α}

def Pool.start (s : σ) : Pool θ α σ := ⟨s, fun _ => []⟩

/-- No call is mid-way. -/
def Pool.Quiescent (p : Pool θ α σ) : Prop := ∀ t, p.tasks t = []

/-- Some task has still to run a section of this kind. -/
def Pool.Pending (p : Pool θ α σ) (kind : α → Prop) : Prop := ∃ t, ∃ act ∈ p.tasks t, kind act

/-- A condition on the section an event runs, with its task and input, in the state it finds. -/
def OnTurn (guard : Pool θ α σ → θ → α → ι → Prop) (e : Event θ κ ι) (p : Pool θ α σ) : Prop :=
  match e with
  | .call _ _ => True
  | .turn t input =>
    match p.tasks t with
    | [] => True
    | act :: _ => guard p t act input

/-- A condition on the section alone. -/
def OnSection (guard : Pool θ α σ → α → Prop) : Event θ κ ι → Pool θ α σ → Prop :=
  OnTurn fun p _ act _ => guard p act

theorem onTurn_iff {guard : Pool θ α σ → θ → α → ι → Prop} {input : ι}
    (running : p.tasks t = act :: rest) :
    OnTurn guard (.turn t input : Event θ κ ι) p ↔ guard p t act input := by
  simp [OnTurn, running]

theorem onTurn_idle {guard : Pool θ α σ → θ → α → ι → Prop} {input : ι} (idle : p.tasks t = []) :
    OnTurn guard (.turn t input : Event θ κ ι) p := by
  simp [OnTurn, idle]

/-- At most one task has sections of this kind. -/
def Pool.Exclusive (p : Pool θ α σ) (kind : α → Prop) : Prop :=
  ∀ t u, ∀ act ∈ p.tasks t, ∀ other ∈ p.tasks u, kind act → kind other → t = u

theorem not_pending_start (s : σ) (kind : α → Prop) :
    ¬(Pool.start s : Pool θ α σ).Pending kind := by
  rintro ⟨t, act, member, _⟩
  simp [Pool.start] at member

theorem Pool.Quiescent.not_pending (quiet : p.Quiescent) (kind : α → Prop) : ¬p.Pending kind := by
  rintro ⟨t, act, member, _⟩
  rw [quiet t] at member
  exact List.not_mem_nil member

/-- The section a task is about to run is pending. -/
theorem pending_head (running : p.tasks t = act :: rest) {kind : α → Prop} (holds : kind act) :
    p.Pending kind :=
  ⟨t, act, by simp [running], holds⟩

variable [DecidableEq θ] {prog : Program θ κ α ι σ}

/-- A task takes one call at a time; a task without sections left has returned. -/
def Program.advance (prog : Program θ κ α ι σ) (e : Event θ κ ι) (p : Pool θ α σ) : Pool θ α σ :=
  match e with
  | .call t request =>
    match p.tasks t with
    | [] => ⟨p.shared, Function.update p.tasks t (prog.body t request)⟩
    | _ :: _ => p
  | .turn t input =>
    match p.tasks t with
    | [] => p
    | act :: rest =>
      let next := prog.perform act input p.shared
      ⟨next.1, Function.update p.tasks t (next.2 ++ rest)⟩

def Program.execute (prog : Program θ κ α ι σ) : List (Event θ κ ι) → Pool θ α σ → Pool θ α σ
  | [], p => p
  | e :: es, p => prog.execute es (prog.advance e p)

/-- Every event of the schedule meets the condition in the state it finds. -/
def Program.Guarded (prog : Program θ κ α ι σ) (guard : Event θ κ ι → Pool θ α σ → Prop) :
    List (Event θ κ ι) → Pool θ α σ → Prop
  | [], _ => True
  | e :: es, p => guard e p ∧ prog.Guarded guard es (prog.advance e p)

instance {guard : Pool θ α σ → θ → α → ι → Prop} [∀ p t act input, Decidable (guard p t act input)]
    (e : Event θ κ ι) (p : Pool θ α σ) : Decidable (OnTurn guard e p) :=
  match e with
  | .call _ _ => .isTrue trivial
  | .turn t input =>
    match running : p.tasks t with
    | [] => .isTrue (onTurn_idle running)
    | act :: _ => decidable_of_iff (guard p t act input) (onTurn_iff running).symm

instance decidableGuarded {guard : Event θ κ ι → Pool θ α σ → Prop} [∀ e p, Decidable (guard e p)] :
    (es : List (Event θ κ ι)) → (p : Pool θ α σ) → Decidable (prog.Guarded guard es p)
  | [], _ => .isTrue trivial
  | e :: es, p => @instDecidableAnd _ _ (inferInstanceAs (Decidable (guard e p))) (decidableGuarded es _)

theorem advance_call (idle : p.tasks t = []) (request : κ) :
    prog.advance (.call t request) p =
      ⟨p.shared, Function.update p.tasks t (prog.body t request)⟩ := by
  simp [Program.advance, idle]

theorem advance_turn (running : p.tasks t = act :: rest) (input : ι) :
    prog.advance (.turn t input) p =
      ⟨(prog.perform act input p.shared).1,
        Function.update p.tasks t ((prog.perform act input p.shared).2 ++ rest)⟩ := by
  simp [Program.advance, running]

/-- An event changes nothing, starts a call on an idle task, or runs one section. -/
theorem advance_cases (prog : Program θ κ α ι σ) (e : Event θ κ ι) (p : Pool θ α σ) :
    prog.advance e p = p ∨
    (∃ t request, e = .call t request ∧ p.tasks t = [] ∧
      prog.advance e p = ⟨p.shared, Function.update p.tasks t (prog.body t request)⟩) ∨
    (∃ t input act rest, e = .turn t input ∧ p.tasks t = act :: rest ∧
      prog.advance e p = ⟨(prog.perform act input p.shared).1,
        Function.update p.tasks t ((prog.perform act input p.shared).2 ++ rest)⟩) := by
  cases e with
  | call t request =>
    cases running : p.tasks t with
    | nil => exact .inr (.inl ⟨t, request, rfl, running, advance_call running request⟩)
    | cons act rest => exact .inl (by simp [Program.advance, running])
  | turn t input =>
    cases running : p.tasks t with
    | nil => exact .inl (by simp [Program.advance, running])
    | cons act rest =>
      exact .inr (.inr ⟨t, input, act, rest, rfl, running, advance_turn running input⟩)

theorem execute_append (prog : Program θ κ α ι σ) (es fs : List (Event θ κ ι)) (p : Pool θ α σ) :
    prog.execute (es ++ fs) p = prog.execute fs (prog.execute es p) := by
  induction es generalizing p with
  | nil => rfl
  | cons e es ih => exact ih _

theorem guarded_append (prog : Program θ κ α ι σ) (guard : Event θ κ ι → Pool θ α σ → Prop)
    (es fs : List (Event θ κ ι)) (p : Pool θ α σ) :
    prog.Guarded guard (es ++ fs) p ↔
      prog.Guarded guard es p ∧ prog.Guarded guard fs (prog.execute es p) := by
  induction es generalizing p with
  | nil => simp [Program.Guarded, Program.execute]
  | cons e es ih => simp [Program.Guarded, Program.execute, ih, and_assoc]

theorem guarded_iff (prog : Program θ κ α ι σ) (guard : Event θ κ ι → Pool θ α σ → Prop)
    (es : List (Event θ κ ι)) (p : Pool θ α σ) :
    prog.Guarded guard es p ↔
      ∀ before e after, es = before ++ e :: after → guard e (prog.execute before p) := by
  constructor
  · rintro guarded before e after rfl
    exact ((guarded_append prog guard before (e :: after) p).mp guarded).2.1
  · intro all
    induction es generalizing p with
    | nil => trivial
    | cons e es ih =>
      refine ⟨all [] e es rfl, ih _ ?_⟩
      rintro before f after rfl
      exact all (e :: before) f after rfl

/-- A task no event addresses keeps its sections. -/
theorem tasks_execute_other (es : List (Event θ κ ι)) (p : Pool θ α σ)
    (absent : t ∉ es.map Event.task) : (prog.execute es p).tasks t = p.tasks t := by
  induction es generalizing p with
  | nil => rfl
  | cons e es ih =>
    simp only [List.map_cons, List.mem_cons, not_or] at absent
    rw [Program.execute, ih _ absent.2]
    rcases advance_cases prog e p with same | ⟨u, request, rfl, _, eq⟩ | ⟨u, input, act, rest, rfl, _, eq⟩
    · rw [same]
    · have other : t ≠ u := absent.1
      rw [eq]
      exact Function.update_of_ne other _ _
    · have other : t ≠ u := absent.1
      rw [eq]
      exact Function.update_of_ne other _ _

/-- From a fresh pool only the addressed tasks can have sections left. -/
theorem quiescent_execute_start (es : List (Event θ κ ι)) (s : σ)
    (idle : ∀ t ∈ es.map Event.task, (prog.execute es (.start s)).tasks t = []) :
    (prog.execute es (.start s)).Quiescent := by
  intro t
  by_cases addressed : t ∈ es.map Event.task
  · exact idle t addressed
  · exact tasks_execute_other es _ addressed

theorem not_pending_execute_start (es : List (Event θ κ ι)) (s : σ) (kind : α → Prop)
    (none : ∀ t ∈ es.map Event.task, ∀ act ∈ (prog.execute es (.start s)).tasks t, ¬kind act) :
    ¬(prog.execute es (.start s)).Pending kind := by
  rintro ⟨t, act, member, holds⟩
  by_cases addressed : t ∈ es.map Event.task
  · exact none t addressed act member holds
  · rw [tasks_execute_other es _ addressed] at member
    exact List.not_mem_nil member

/-- The turns of a schedule that ran a section, oldest first. -/
def Program.history (prog : Program θ κ α ι σ) : List (Event θ κ ι) → Pool θ α σ → List (θ × α)
  | [], _ => []
  | .call t request :: es, p => prog.history es (prog.advance (.call t request) p)
  | .turn t input :: es, p =>
    ((p.tasks t).head?.map (t, ·)).toList ++ prog.history es (prog.advance (.turn t input) p)

/-- A turn that ran a section: what it found, who ran what, and the input. -/
structure Moment (θ α ι σ : Type) where
  pool : Pool θ α σ
  task : θ
  act : α
  input : ι

/-- The turns of a schedule that ran a section, with what they found, oldest first. -/
def Program.moments (prog : Program θ κ α ι σ) :
    List (Event θ κ ι) → Pool θ α σ → List (Moment θ α ι σ)
  | [], _ => []
  | .call t request :: es, p => prog.moments es (prog.advance (.call t request) p)
  | .turn t input :: es, p =>
    ((p.tasks t).head?.map fun act => ⟨p, t, act, input⟩).toList ++
      prog.moments es (prog.advance (.turn t input) p)

theorem history_eq_moments (prog : Program θ κ α ι σ) (es : List (Event θ κ ι)) (p : Pool θ α σ) :
    prog.history es p = (prog.moments es p).map fun m => (m.task, m.act) := by
  induction es generalizing p with
  | nil => rfl
  | cons e es ih =>
    cases e with
    | call t request => exact ih _
    | turn t input => cases running : p.tasks t <;> simp [Program.history, Program.moments, running, ih]

theorem moments_append (prog : Program θ κ α ι σ) (es fs : List (Event θ κ ι)) (p : Pool θ α σ) :
    prog.moments (es ++ fs) p = prog.moments es p ++ prog.moments fs (prog.execute es p) := by
  induction es generalizing p with
  | nil => rfl
  | cons e es ih =>
    cases e with
    | call t request => exact ih _
    | turn t input => simp [Program.moments, Program.execute, ih]

/-- A condition that every section of the run meets where it runs. -/
theorem guarded_of_turns {guard : Pool θ α σ → θ → α → ι → Prop} {es : List (Event θ κ ι)}
    {p : Pool θ α σ} (meets : ∀ before t input after act rest, es = before ++ .turn t input :: after →
      (prog.execute before p).tasks t = act :: rest → guard (prog.execute before p) t act input) :
    prog.Guarded (OnTurn guard) es p := by
  rw [guarded_iff]
  intro before e after split
  cases e with
  | call t request => trivial
  | turn t input =>
    cases running : (prog.execute before p).tasks t with
    | nil => exact onTurn_idle running
    | cons act rest =>
      exact (onTurn_iff running).mpr (meets before t input after act rest split running)

theorem guarded_mono {first second : Pool θ α σ → θ → α → ι → Prop} {es : List (Event θ κ ι)}
    {p : Pool θ α σ} (holds : prog.Guarded (OnTurn first) es p)
    (implies : ∀ p t act input, first p t act input → second p t act input) :
    prog.Guarded (OnTurn second) es p := by
  rw [guarded_iff] at holds
  apply guarded_of_turns
  intro before t input after act rest split running
  exact implies _ t act input ((onTurn_iff running).mp (holds before _ after split))

/-- A condition without which a section would break what holds all along. -/
theorem guarded_of_always {inv : List (Moment θ α ι σ) → Pool θ α σ → Prop}
    {guard : Pool θ α σ → θ → α → ι → Prop} {es : List (Event θ κ ι)} {p : Pool θ α σ}
    (always : ∀ reached, reached <+: es → inv (prog.moments reached p) (prog.execute reached p))
    (needs : ∀ ms q t act rest input, q.tasks t = act :: rest →
      inv (ms ++ [⟨q, t, act, input⟩]) ⟨(prog.perform act input q.shared).1,
        Function.update q.tasks t ((prog.perform act input q.shared).2 ++ rest)⟩ →
      guard q t act input) : prog.Guarded (OnTurn guard) es p := by
  apply guarded_of_turns
  intro before t input after act rest split running
  have next := always (before ++ [.turn t input]) ⟨after, by simp [split]⟩
  rw [moments_append, execute_append, Program.execute, Program.execute, advance_turn running] at next
  apply needs (prog.moments before p) _ t act rest input running
  simpa [Program.moments, running] using next

/-- The invariant rule by sections, over what happened: calls start on idle tasks, and a section
runs where its condition holds. -/
theorem execute_moments (inv : List (Moment θ α ι σ) → Pool θ α σ → Prop)
    (guard : Pool θ α σ → θ → α → ι → Prop)
    (call : ∀ ms t request p, p.tasks t = [] → inv ms p →
      inv ms ⟨p.shared, Function.update p.tasks t (prog.body t request)⟩)
    (turn : ∀ ms t input act rest p, p.tasks t = act :: rest → guard p t act input → inv ms p →
      inv (ms ++ [⟨p, t, act, input⟩]) ⟨(prog.perform act input p.shared).1,
        Function.update p.tasks t ((prog.perform act input p.shared).2 ++ rest)⟩)
    (es : List (Event θ κ ι)) (ms : List (Moment θ α ι σ)) (p : Pool θ α σ)
    (guarded : prog.Guarded (OnTurn guard) es p) (initial : inv ms p) :
    inv (ms ++ prog.moments es p) (prog.execute es p) := by
  induction es generalizing ms p with
  | nil => simpa [Program.moments, Program.execute] using initial
  | cons e es ih =>
    obtain ⟨allowed, later⟩ := guarded
    cases e with
    | call t request =>
      cases running : p.tasks t with
      | nil =>
        have next := call ms t request p running initial
        rw [← advance_call running request] at next
        exact ih ms _ later next
      | cons act rest =>
        have same : prog.advance (.call t request) p = p := by simp [Program.advance, running]
        simp only [Program.moments, Program.execute, same] at later ⊢
        exact ih ms p later initial
    | turn t input =>
      cases running : p.tasks t with
      | nil =>
        have same : prog.advance (.turn t input) p = p := by simp [Program.advance, running]
        simp only [Program.moments, Program.execute, same, running] at later ⊢
        exact ih ms p later initial
      | cons act rest =>
        have next := turn ms t input act rest p running ((onTurn_iff running).mp allowed) initial
        rw [← advance_turn running input] at next
        have rest := ih _ _ later next
        simpa [Program.moments, Program.execute, running] using rest

/-- The invariant rule over the history. -/
theorem execute_history (inv : List (θ × α) → Pool θ α σ → Prop)
    (guard : Pool θ α σ → θ → α → ι → Prop)
    (call : ∀ h t request p, p.tasks t = [] → inv h p →
      inv h ⟨p.shared, Function.update p.tasks t (prog.body t request)⟩)
    (turn : ∀ h t input act rest p, p.tasks t = act :: rest → guard p t act input → inv h p →
      inv (h ++ [(t, act)]) ⟨(prog.perform act input p.shared).1,
        Function.update p.tasks t ((prog.perform act input p.shared).2 ++ rest)⟩)
    (es : List (Event θ κ ι)) (h : List (θ × α)) (p : Pool θ α σ)
    (guarded : prog.Guarded (OnTurn guard) es p) (initial : inv h p) :
    inv (h ++ prog.history es p) (prog.execute es p) := by
  rw [history_eq_moments]
  apply execute_moments (fun ms => inv (h ++ ms.map fun m => (m.task, m.act))) guard _ _ es [] p
    guarded
  · simpa using initial
  · intro ms
    exact call _
  · intro ms t input act rest p running allowed before
    have next := turn _ t input act rest p running allowed before
    simpa using next

/-- A guard that the sections of the history satisfy in any state. -/
theorem guarded_of_history {guard : Pool θ α σ → θ → α → ι → Prop} (kind : α → Bool)
    (enough : ∀ p t act input, kind act = true → guard p t act input) (es : List (Event θ κ ι))
    (p : Pool θ α σ) (all : ∀ entry ∈ prog.history es p, kind entry.2 = true) :
    prog.Guarded (OnTurn guard) es p := by
  induction es generalizing p with
  | nil => trivial
  | cons e es ih =>
    cases e with
    | call t request => exact ⟨trivial, ih _ all⟩
    | turn t input =>
      refine ⟨?_, ih _ fun entry member => all entry (List.mem_append_right _ member)⟩
      cases running : p.tasks t with
      | nil => exact onTurn_idle running
      | cons act rest =>
        have here := all (t, act) (by simp [Program.history, running])
        exact (onTurn_iff running).mpr (enough p t act input here)

/-- The invariant rule by turns. -/
theorem execute_turns (inv : Pool θ α σ → Prop) (guard : Pool θ α σ → θ → α → ι → Prop)
    (call : ∀ t request p, p.tasks t = [] → inv p →
      inv ⟨p.shared, Function.update p.tasks t (prog.body t request)⟩)
    (turn : ∀ t input act rest p, p.tasks t = act :: rest → guard p t act input → inv p →
      inv ⟨(prog.perform act input p.shared).1,
        Function.update p.tasks t ((prog.perform act input p.shared).2 ++ rest)⟩)
    (es : List (Event θ κ ι)) (p : Pool θ α σ) (guarded : prog.Guarded (OnTurn guard) es p)
    (initial : inv p) : inv (prog.execute es p) :=
  execute_history (fun _ => inv) guard (fun _ => call) (fun _ => turn) es [] p guarded initial

/-- The invariant rule by sections. -/
theorem execute_sections (inv : Pool θ α σ → Prop) (guard : Pool θ α σ → α → Prop)
    (call : ∀ t request p, p.tasks t = [] → inv p →
      inv ⟨p.shared, Function.update p.tasks t (prog.body t request)⟩)
    (turn : ∀ t input act rest p, p.tasks t = act :: rest → guard p act → inv p →
      inv ⟨(prog.perform act input p.shared).1,
        Function.update p.tasks t ((prog.perform act input p.shared).2 ++ rest)⟩)
    (es : List (Event θ κ ι)) (p : Pool θ α σ) (guarded : prog.Guarded (OnSection guard) es p)
    (initial : inv p) : inv (prog.execute es p) :=
  execute_turns inv (fun p _ act _ => guard p act) call turn es p guarded initial

theorem guarded_trivial (es : List (Event θ κ ι)) (p : Pool θ α σ) :
    prog.Guarded (OnTurn fun _ _ _ _ => True) es p :=
  guarded_of_turns fun _ _ _ _ _ _ _ _ => trivial

theorem guarded_and {first second : Pool θ α σ → θ → α → ι → Prop} {es : List (Event θ κ ι)}
    {p : Pool θ α σ} (holds : prog.Guarded (OnTurn first) es p)
    (also : prog.Guarded (OnTurn second) es p) :
    prog.Guarded (OnTurn fun p t act input => first p t act input ∧ second p t act input) es p := by
  rw [guarded_iff] at holds also
  apply guarded_of_turns
  intro before t input after act rest split running
  have one := holds before _ after split
  have two := also before _ after split
  exact ⟨(onTurn_iff running).mp one, (onTurn_iff running).mp two⟩

/-- What a task holds after a call started was in the call's body or there before. -/
theorem mem_of_call {script : List α} {u : θ} {new : α}
    (member : new ∈ Function.update p.tasks t script u) :
    u = t ∧ new ∈ script ∨ new ∈ p.tasks u := by
  by_cases same : u = t
  · subst same
    rw [Function.update_self] at member
    exact .inl ⟨rfl, member⟩
  · rw [Function.update_of_ne same] at member
    exact .inr member

/-- What a task holds after a section ran was pushed by it or there before. -/
theorem mem_of_turn (running : p.tasks t = act :: rest) {next : List α} {u : θ} {new : α}
    (member : new ∈ Function.update p.tasks t (next ++ rest) u) :
    u = t ∧ new ∈ next ∨ new ∈ p.tasks u := by
  rcases mem_of_call member with ⟨rfl, held⟩ | old
  · rcases List.mem_append.mp held with pushed | waiting
    · exact .inl ⟨rfl, pushed⟩
    · exact .inr (by simp [running, waiting])
  · exact .inr old

/-- The invariant rule for a property of each task's sections. -/
theorem execute_kinds (kind : θ → α → Prop)
    (call : ∀ t request, ∀ act ∈ prog.body t request, kind t act)
    (turn : ∀ t act input s, kind t act → ∀ new ∈ (prog.perform act input s).2, kind t new)
    (es : List (Event θ κ ι)) (s : σ) :
    ∀ t, ∀ act ∈ (prog.execute es (.start s)).tasks t, kind t act := by
  apply execute_turns (fun p => ∀ t, ∀ act ∈ p.tasks t, kind t act) (fun _ _ _ _ => True) _ _ es _
    (guarded_trivial es _)
  · intro t act member
    simp [Pool.start] at member
  · intro t request p _ all u act member
    rcases mem_of_call member with ⟨rfl, first⟩ | old
    · exact call u request act first
    · exact all u act old
  · intro t input act rest p running _ all u other member
    rcases mem_of_turn running member with ⟨rfl, pushed⟩ | old
    · exact turn u act input p.shared (all u act (by simp [running])) other pushed
    · exact all u other old

/-- What holds after every prefix of the schedule is a guard of it. -/
theorem guarded_of_execute (prog : Program θ κ α ι σ) (inv : Pool θ α σ → Prop)
    (es : List (Event θ κ ι)) (p : Pool θ α σ)
    (holds : ∀ before, before <+: es → inv (prog.execute before p)) :
    prog.Guarded (OnTurn fun p _ _ _ => inv p) es p := by
  apply guarded_of_turns
  intro before t input after act rest split running
  exact holds before ⟨.turn t input :: after, split.symm⟩

/-- A run satisfies as a guard what all its tasks' sections satisfy. -/
theorem guarded_kinds (kind : θ → α → Prop)
    (call : ∀ t request, ∀ act ∈ prog.body t request, kind t act)
    (turn : ∀ t act input s, kind t act → ∀ new ∈ (prog.perform act input s).2, kind t new)
    (es : List (Event θ κ ι)) (s : σ) :
    prog.Guarded (OnTurn fun _ t act _ => kind t act) es (.start s) := by
  apply guarded_of_turns
  intro before t input after act rest split running
  exact execute_kinds kind call turn before s t act (by simp [running])

theorem pending_call_iff (idle : p.tasks t = []) (s : σ) (script : List α) (kind : α → Prop) :
    (⟨s, Function.update p.tasks t script⟩ : Pool θ α σ).Pending kind ↔
      p.Pending kind ∨ ∃ act ∈ script, kind act := by
  constructor
  · rintro ⟨u, act, member, holds⟩
    rcases mem_of_call member with ⟨rfl, first⟩ | old
    · exact .inr ⟨act, first, holds⟩
    · exact .inl ⟨u, act, old, holds⟩
  · rintro (⟨u, act, member, holds⟩ | ⟨act, member, holds⟩)
    · have different : u ≠ t := by
        rintro rfl
        simp [idle] at member
      exact ⟨u, act, by simpa [different] using member, holds⟩
    · exact ⟨t, act, by simpa using member, holds⟩

/-- What is pending after a section ran was pushed by it or was pending before. -/
theorem pending_of_turn (running : p.tasks t = act :: rest) {s : σ} {next : List α}
    {kind : α → Prop}
    (pending : (⟨s, Function.update p.tasks t (next ++ rest)⟩ : Pool θ α σ).Pending kind) :
    (∃ new ∈ next, kind new) ∨ p.Pending kind := by
  obtain ⟨u, other, member, holds⟩ := pending
  rcases mem_of_turn running member with ⟨rfl, pushed⟩ | old
  · exact .inl ⟨other, pushed, holds⟩
  · exact .inr ⟨u, other, old, holds⟩

/-- A pending section other than the one that ran stays pending. -/
theorem pending_turn (running : p.tasks t = act :: rest) (s : σ) (next : List α)
    {kind : α → Prop} (pending : p.Pending kind) (different : ¬kind act) :
    (⟨s, Function.update p.tasks t (next ++ rest)⟩ : Pool θ α σ).Pending kind := by
  obtain ⟨u, other, member, holds⟩ := pending
  by_cases same : u = t
  · subst same
    rw [running, List.mem_cons] at member
    rcases member with rfl | old
    · exact absurd holds different
    · exact ⟨u, other, by simp [old], holds⟩
  · exact ⟨u, other, by simpa [same] using member, holds⟩

theorem pending_pushed (s : σ) (tasks : θ → List α) (t : θ) {next rest : List α} {new : α}
    (member : new ∈ next) {kind : α → Prop} (holds : kind new) :
    (⟨s, Function.update tasks t (next ++ rest)⟩ : Pool θ α σ).Pending kind :=
  ⟨t, new, by simp [member], holds⟩

theorem exclusive_call {s : σ} {script : List α} {kind : α → Prop} (exclusive : p.Exclusive kind)
    (none : ∀ act ∈ script, ¬kind act) :
    (⟨s, Function.update p.tasks t script⟩ : Pool θ α σ).Exclusive kind := by
  intro u v act member other also holds holds'
  rcases mem_of_call member with ⟨_, first⟩ | old
  · exact absurd holds (none act first)
  · rcases mem_of_call also with ⟨_, first⟩ | old'
    · exact absurd holds' (none other first)
    · exact exclusive u v act old other old' holds holds'

/-- The section that ran hands its mark on, or there was no such section. -/
theorem exclusive_turn (running : p.tasks t = act :: rest) {s : σ} {next : List α} {kind : α → Prop}
    (exclusive : p.Exclusive kind) (handed : (∃ new ∈ next, kind new) → kind act ∨ ¬p.Pending kind) :
    (⟨s, Function.update p.tasks t (next ++ rest)⟩ : Pool θ α σ).Exclusive kind := by
  have head : act ∈ p.tasks t := by simp [running]
  have owner {new : α} (pushed : new ∈ next) (holds : kind new) {u : θ} {other : α}
      (member : other ∈ p.tasks u) (also : kind other) : t = u := by
    rcases handed ⟨new, pushed, holds⟩ with mark | none
    · exact exclusive t u act head other member mark also
    · exact absurd ⟨u, other, member, also⟩ none
  intro u v a member b member' holds holds'
  rcases mem_of_turn running member with ⟨rfl, pushed⟩ | old
  · rcases mem_of_turn running member' with ⟨rfl, _⟩ | old'
    · rfl
    · exact owner pushed holds old' holds'
  · rcases mem_of_turn running member' with ⟨rfl, pushed⟩ | old'
    · exact (owner pushed holds' old holds).symm
    · exact exclusive u v a old b old' holds holds'

end Interleaving
