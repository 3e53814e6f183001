import H2hcLinker.Interleaving
import Mathlib.Data.List.Induction

/-! A program built around another one. Its sections are those of the inner program and hidden ones
of its own; with the hidden ones left out, its runs are runs of the inner program. -/
namespace Interleaving

variable {θ κ κ' α β ι ι' σ τ : Type} {outer : Program θ κ α ι σ} {inner : Program θ κ' β ι' τ}
  {see : α → Option β} {share : σ → τ} {feed : ι → ι'} {t : θ}

/-- What an idle task starts, or goes on with after a hidden section: nothing, one hidden section, or
a call of the inner program. -/
inductive Program.Opens (inner : Program θ κ' β ι' τ) (see : α → Option β) (t : θ) :
    List α → Prop where
  | ends : Opens inner see t []
  | hidden (act : α) (unseen : see act = none) : Opens inner see t [act]
  | calls (script : List α) (request : κ') (body : script.filterMap see = inner.body t request)
      (seen : ∀ act ∈ script, (see act).isSome) : Opens inner see t script

structure Program.Layers (outer : Program θ κ α ι σ) (inner : Program θ κ' β ι' τ)
    (see : α → Option β) (share : σ → τ) (feed : ι → ι') : Prop where
  call : ∀ t request, inner.Opens see t (outer.body t request)
  hidden : ∀ t act input s, see act = none →
    share (outer.perform act input s).1 = share s ∧ inner.Opens see t (outer.perform act input s).2
  seen : ∀ act shown input s, see act = some shown →
    share (outer.perform act input s).1 = (inner.perform shown (feed input) (share s)).1 ∧
    (outer.perform act input s).2.filterMap see = (inner.perform shown (feed input) (share s)).2 ∧
    ∀ new ∈ (outer.perform act input s).2, (see new).isSome

/-- The pool of the inner program. -/
def Pool.within (see : α → Option β) (share : σ → τ) (p : Pool θ α σ) : Pool θ β τ :=
  ⟨share p.shared, fun t => (p.tasks t).filterMap see⟩

/-- The turn of the inner program, if it is one. -/
def Moment.within (see : α → Option β) (share : σ → τ) (feed : ι → ι') (m : Moment θ α ι σ) :
    Option (Moment θ β ι' τ) :=
  (see m.act).map fun shown => ⟨m.pool.within see share, m.task, shown, feed m.input⟩

/-- A hidden section is all its task has left. -/
def Pool.Alone (see : α → Option β) (p : Pool θ α σ) : Prop :=
  ∀ t, ∀ act ∈ p.tasks t, see act = none → p.tasks t = [act]

theorem Program.Opens.alone {script : List α} (opens : inner.Opens see t script) {act : α}
    (member : act ∈ script) (unseen : see act = none) : script = [act] := by
  cases opens with
  | ends => cases member
  | hidden other _ => rw [List.mem_singleton.mp member]
  | calls script request body seen =>
    have shown := seen act member
    simp [unseen] at shown

theorem Pool.Alone.seen {p : Pool θ α σ} (alone : p.Alone see) {act : α} {rest : List α}
    (running : p.tasks t = act :: rest) : ∀ other ∈ rest, (see other).isSome := by
  intro other member
  by_contra hidden
  have unseen := Option.not_isSome_iff_eq_none.mp hidden
  have single := alone t other (by simp [running, member]) unseen
  rw [running] at single
  cases single
  cases member

variable [DecidableEq θ]

theorem within_update (p : Pool θ α σ) (s : σ) (t : θ) (script : List α) :
    (⟨s, Function.update p.tasks t script⟩ : Pool θ α σ).within see share =
      ⟨share s, Function.update (p.within see share).tasks t (script.filterMap see)⟩ := by
  have tasks : (fun u => (Function.update p.tasks t script u).filterMap see) =
      Function.update (fun u => (p.tasks u).filterMap see) t (script.filterMap see) := by
    funext u
    by_cases here : u = t
    · subst here
      simp
    · simp [here]
  exact congrArg (Pool.mk (share s)) tasks

theorem Pool.Alone.update {p : Pool θ α σ} (alone : p.Alone see) {s : σ} {script : List α}
    (single : ∀ act ∈ script, see act = none → script = [act]) :
    (⟨s, Function.update p.tasks t script⟩ : Pool θ α σ).Alone see := by
  intro u act member unseen
  by_cases here : u = t
  · subst here
    simp only [Function.update_self] at member ⊢
    exact single act member unseen
  · simp only [Function.update_of_ne here] at member ⊢
    exact alone u act member unseen

/-- An idle task of the inner program takes what the outer one opens. -/
theorem Program.Opens.advance {script : List α} (opens : inner.Opens see t script) {q : Pool θ β τ}
    (idle : q.tasks t = []) : ∃ es : List (Event θ κ' ι'), inner.moments es q = [] ∧
      inner.execute es q = ⟨q.shared, Function.update q.tasks t (script.filterMap see)⟩ := by
  have same : Function.update q.tasks t [] = q.tasks := by
    rw [← idle]
    exact Function.update_eq_self t q.tasks
  cases opens with
  | ends => exact ⟨[], rfl, by simp [Program.execute, same]⟩
  | hidden act unseen => exact ⟨[], rfl, by simp [Program.execute, unseen, same]⟩
  | calls script request body seen =>
    exact ⟨[.call t request], rfl, by rw [body]; exact advance_call idle request⟩

/-- The inner program has a run with the same turns, which comes to the same pool. -/
def Program.Follows (inner : Program θ κ' β ι' τ) (see : α → Option β) (share : σ → τ)
    (feed : ι → ι') (s : σ) (ms : List (Moment θ α ι σ)) (p : Pool θ α σ) : Prop :=
  p.Alone see ∧ ∃ within : List (Event θ κ' ι'),
    inner.execute within (.start (share s)) = p.within see share ∧
    inner.moments within (.start (share s)) = ms.filterMap (Moment.within see share feed)

/-- What the inner program makes of a run of the outer one. -/
theorem layered_run (layers : outer.Layers inner see share feed) (es : List (Event θ κ ι)) (s : σ) :
    inner.Follows see share feed s (outer.moments es (.start s)) (outer.execute es (.start s)) := by
  apply execute_moments (inner.Follows see share feed s) (fun _ _ _ _ => True) _ _ es [] _
    (guarded_trivial es _)
  · exact ⟨fun _ _ member => (by cases member), [], rfl, rfl⟩
  · rintro ms t request p idle ⟨alone, within, ran, moments⟩
    have opens := layers.call t request
    obtain ⟨more, silent, advanced⟩ := opens.advance (q := p.within see share)
      (by simp [Pool.within, idle])
    refine ⟨alone.update fun act => opens.alone, within ++ more, ?_, ?_⟩
    · rw [execute_append, ran, advanced, within_update]
      rfl
    · rw [moments_append, ran, silent, List.append_nil, moments]
  · rintro ms t input act rest p running - ⟨alone, within, ran, moments⟩
    cases shown : see act with
    | none =>
      -- Nothing is behind a hidden section, so the inner task is idle.
      have single : rest = [] := by
        have all := alone t act (by simp [running]) shown
        rw [running] at all
        exact (List.cons.inj all).2
      obtain ⟨shared, opens⟩ := layers.hidden t act input p.shared shown
      obtain ⟨more, silent, advanced⟩ := opens.advance (q := p.within see share)
        (by simp [Pool.within, running, single, shown])
      rw [single, List.append_nil]
      refine ⟨alone.update fun act => opens.alone, within ++ more, ?_, ?_⟩
      · rw [execute_append, ran, advanced, within_update, shared]
        rfl
      · rw [moments_append, ran, silent, moments, List.filterMap_append]
        simp [Moment.within, shown]
    | some shown' =>
      obtain ⟨shared, next, seen⟩ := layers.seen act shown' input p.shared shown
      have holds : (p.within see share).tasks t = shown' :: rest.filterMap see := by
        simp [Pool.within, running, shown]
      refine ⟨alone.update ?_, within ++ [.turn t (feed input)], ?_, ?_⟩
      · intro other member unseen
        have known : (see other).isSome := by
          rcases List.mem_append.mp member with pushed | waiting
          · exact seen other pushed
          · exact alone.seen running other waiting
        simp [unseen] at known
      · rw [execute_append, ran, within_update, List.filterMap_append, next, shared]
        exact advance_turn holds (feed input)
      · rw [moments_append, ran, moments, List.filterMap_append]
        simp [Moment.within, Program.moments, holds, shown]

/-- The invariant rule over what happened, next to what is known to hold all along. -/
theorem execute_known (known inv : List (Moment θ α ι σ) → Pool θ α σ → Prop) {p : Pool θ α σ}
    (always : ∀ es, known (outer.moments es p) (outer.execute es p)) (initial : inv [] p)
    (call : ∀ ms t request q, q.tasks t = [] → known ms q → inv ms q →
      inv ms ⟨q.shared, Function.update q.tasks t (outer.body t request)⟩)
    (turn : ∀ ms t input act rest q, q.tasks t = act :: rest → known ms q → inv ms q →
      inv (ms ++ [⟨q, t, act, input⟩]) ⟨(outer.perform act input q.shared).1,
        Function.update q.tasks t ((outer.perform act input q.shared).2 ++ rest)⟩)
    (es : List (Event θ κ ι)) : inv (outer.moments es p) (outer.execute es p) := by
  induction es using List.reverseRecOn with
  | nil => exact initial
  | append_singleton es e ih =>
    rw [moments_append, execute_append, Program.execute, Program.execute]
    cases e with
    | call t request =>
      rw [Program.moments, Program.moments, List.append_nil]
      cases running : (outer.execute es p).tasks t with
      | nil =>
        rw [advance_call running]
        exact call _ t request _ running (always es) ih
      | cons act rest =>
        have same : outer.advance (.call t request) (outer.execute es p) = outer.execute es p := by
          simp [Program.advance, running]
        rwa [same]
    | turn t input =>
      cases running : (outer.execute es p).tasks t with
      | nil =>
        have same : outer.advance (.turn t input) (outer.execute es p) = outer.execute es p := by
          simp [Program.advance, running]
        simpa [same, Program.moments, running] using ih
      | cons act rest =>
        rw [advance_turn running]
        simpa [Program.moments, running] using turn _ t input act rest _ running (always es) ih

end Interleaving
