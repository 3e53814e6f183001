import H2hcLinker.Interleaving

/-! Runs that differ in what some tasks do. A relation that the other tasks' sections keep on both
sides, and those of the hidden tasks on one, ties a run to the run without the hidden tasks. -/
namespace Interleaving

variable {θ κ α ι σ : Type} [DecidableEq θ] {prog : Program θ κ α ι σ}

/-- The two pools run the same visible tasks, on related states. -/
structure Alike (visible : θ → Bool) (kind : θ → α → Prop) (rel : List (θ × α) → σ → σ → Prop)
    (h : List (θ × α)) (p q : Pool θ α σ) : Prop where
  tasks : ∀ t, visible t = true → p.tasks t = q.tasks t
  kinds : ∀ t, ∀ act ∈ p.tasks t, kind t act
  related : rel h p.shared q.shared

/-- How the sections of each kind of task treat the relation. -/
structure Unwinds (prog : Program θ κ α ι σ) (visible : θ → Bool) (kind : θ → α → Prop)
    (rel : List (θ × α) → σ → σ → Prop) : Prop where
  call : ∀ t request, ∀ act ∈ prog.body t request, kind t act
  turn : ∀ t act input s, kind t act → ∀ new ∈ (prog.perform act input s).2, kind t new
  seen : ∀ h t act input s s', visible t = true → kind t act → rel h s s' →
    (prog.perform act input s).2 = (prog.perform act input s').2 ∧
      rel (h ++ [(t, act)]) (prog.perform act input s).1 (prog.perform act input s').1
  hidden : ∀ h t act input s s', visible t = false → kind t act → rel h s s' →
    rel (h ++ [(t, act)]) (prog.perform act input s).1 s'

variable {visible : θ → Bool} {kind : θ → α → Prop} {rel : List (θ × α) → σ → σ → Prop}
  {h : List (θ × α)} {p q : Pool θ α σ} {t : θ} {act : α} {rest : List α}

theorem Alike.call (alike : Alike visible kind rel h p q) (unwinds : Unwinds prog visible kind rel)
    (request : κ) : Alike visible kind rel h
      ⟨p.shared, Function.update p.tasks t (prog.body t request)⟩
      ⟨q.shared, Function.update q.tasks t (prog.body t request)⟩ where
  tasks u sees := by
    by_cases same : u = t
    · subst same
      simp
    · simp [same, alike.tasks u sees]
  kinds u new member := by
    rcases mem_of_call member with ⟨rfl, first⟩ | old
    · exact unwinds.call u request new first
    · exact alike.kinds u new old
  related := alike.related

/-- A call of a hidden task is not made on the other side. -/
theorem Alike.hiddenCall (alike : Alike visible kind rel h p q) (unwinds : Unwinds prog visible kind rel)
    (hides : visible t = false) (request : κ) :
    Alike visible kind rel h ⟨p.shared, Function.update p.tasks t (prog.body t request)⟩ q where
  tasks u sees := by
    have other : u ≠ t := by
      rintro rfl
      cases hides.symm.trans sees
    simp [other, alike.tasks u sees]
  kinds u new member := by
    rcases mem_of_call member with ⟨rfl, first⟩ | old
    · exact unwinds.call u request new first
    · exact alike.kinds u new old
  related := alike.related

theorem Alike.kinds_turn (alike : Alike visible kind rel h p q) (unwinds : Unwinds prog visible kind rel)
    (running : p.tasks t = act :: rest) (input : ι) : ∀ u, ∀ new ∈ Function.update p.tasks t
      ((prog.perform act input p.shared).2 ++ rest) u, kind u new := by
  intro u new member
  rcases mem_of_turn running member with ⟨rfl, pushed⟩ | old
  · exact unwinds.turn u act input p.shared (alike.kinds u act (by simp [running])) new pushed
  · exact alike.kinds u new old

theorem Alike.turn (alike : Alike visible kind rel h p q) (unwinds : Unwinds prog visible kind rel)
    (sees : visible t = true) (running : p.tasks t = act :: rest) (input : ι) :
    Alike visible kind rel (h ++ [(t, act)])
      ⟨(prog.perform act input p.shared).1,
        Function.update p.tasks t ((prog.perform act input p.shared).2 ++ rest)⟩
      ⟨(prog.perform act input q.shared).1,
        Function.update q.tasks t ((prog.perform act input q.shared).2 ++ rest)⟩ := by
  have own := alike.kinds t act (by simp [running])
  obtain ⟨same, related⟩ := unwinds.seen h t act input _ _ sees own alike.related
  constructor
  · intro u sees
    by_cases here : u = t
    · subst here
      simp [same]
    · simp [here, alike.tasks u sees]
  · exact alike.kinds_turn unwinds running input
  · exact related

/-- A section of a hidden task is not run on the other side. -/
theorem Alike.hiddenTurn (alike : Alike visible kind rel h p q) (unwinds : Unwinds prog visible kind rel)
    (hides : visible t = false) (running : p.tasks t = act :: rest) (input : ι) :
    Alike visible kind rel (h ++ [(t, act)])
      ⟨(prog.perform act input p.shared).1,
        Function.update p.tasks t ((prog.perform act input p.shared).2 ++ rest)⟩ q where
  tasks u sees := by
    have other : u ≠ t := by
      rintro rfl
      cases hides.symm.trans sees
    simp [other, alike.tasks u sees]
  kinds := alike.kinds_turn unwinds running input
  related := unwinds.hidden h t act input _ _ hides (alike.kinds t act (by simp [running])) alike.related

/-- The sections that one event runs. -/
theorem history_cons (prog : Program θ κ α ι σ) (e : Event θ κ ι) (es : List (Event θ κ ι))
    (p : Pool θ α σ) : prog.history (e :: es) p = prog.history [e] p ++ prog.history es (prog.advance e p) := by
  cases e <;> simp [Program.history]

theorem Alike.advance (alike : Alike visible kind rel h p q) (unwinds : Unwinds prog visible kind rel)
    (e : Event θ κ ι) (sees : visible e.task = true) :
    Alike visible kind rel (h ++ prog.history [e] p) (prog.advance e p) (prog.advance e q) := by
  cases e with
  | call t request =>
    have same := alike.tasks t sees
    rw [Program.history, Program.history, List.append_nil]
    cases running : p.tasks t with
    | nil =>
      rw [advance_call running, advance_call (same ▸ running)]
      exact alike.call unwinds request
    | cons act rest => simpa [Program.advance, running, ← same] using alike
  | turn t input =>
    have same := alike.tasks t sees
    cases running : p.tasks t with
    | nil => simpa [Program.advance, Program.history, running, ← same] using alike
    | cons act rest =>
      rw [advance_turn running, advance_turn (same ▸ running)]
      simpa [Program.history, running] using alike.turn (t := t) unwinds sees running input

theorem Alike.advance_hidden (alike : Alike visible kind rel h p q)
    (unwinds : Unwinds prog visible kind rel) (e : Event θ κ ι) (hides : visible e.task = false) :
    Alike visible kind rel (h ++ prog.history [e] p) (prog.advance e p) q := by
  cases e with
  | call t request =>
    rw [Program.history, Program.history, List.append_nil]
    cases running : p.tasks t with
    | nil =>
      rw [advance_call running]
      exact alike.hiddenCall unwinds hides request
    | cons act rest => simpa [Program.advance, running] using alike
  | turn t input =>
    cases running : p.tasks t with
    | nil => simpa [Program.advance, Program.history, running] using alike
    | cons act rest =>
      rw [advance_turn running]
      simpa [Program.history, running] using alike.hiddenTurn (t := t) unwinds hides running input

/-- The schedule as far as the visible tasks go. -/
def visibleEvents (visible : θ → Bool) (es : List (Event θ κ ι)) : List (Event θ κ ι) :=
  es.filter fun e => visible e.task

/-- A run stays alike with the run of its visible events. -/
theorem Alike.execute (unwinds : Unwinds prog visible kind rel) (es : List (Event θ κ ι))
    (alike : Alike visible kind rel h p q) : Alike visible kind rel (h ++ prog.history es p)
      (prog.execute es p) (prog.execute (visibleEvents visible es) q) := by
  induction es generalizing h p q with
  | nil => simpa [Program.history, Program.execute, visibleEvents] using alike
  | cons e es ih =>
    rw [history_cons, ← List.append_assoc, Program.execute]
    cases sees : visible e.task with
    | true =>
      have events : visibleEvents visible (e :: es) = e :: visibleEvents visible es := by
        simp [visibleEvents, sees]
      rw [events, Program.execute]
      exact ih (alike.advance unwinds e sees)
    | false =>
      have events : visibleEvents visible (e :: es) = visibleEvents visible es := by
        simp [visibleEvents, sees]
      rw [events]
      exact ih (alike.advance_hidden unwinds e sees)

/-- Two runs with the same visible events are both related to the run of these alone. -/
theorem related_runs (unwinds : Unwinds prog visible kind rel) {left right : List (Event θ κ ι)}
    (agree : visibleEvents visible left = visibleEvents visible right) {s : σ} (initial : rel [] s s) :
    ∃ s', rel (prog.history left (.start s)) (prog.execute left (.start s)).shared s' ∧
      rel (prog.history right (.start s)) (prog.execute right (.start s)).shared s' := by
  have start : Alike visible kind rel [] (.start s) (.start s) :=
    ⟨fun _ _ => rfl, fun _ _ member => (nomatch member), initial⟩
  refine ⟨_, (Alike.execute unwinds left start).related, ?_⟩
  rw [agree]
  exact (Alike.execute unwinds right start).related

end Interleaving
