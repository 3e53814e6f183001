import H2hcLinker.Interleaving
import Mathlib.Algebra.BigOperators.Group.Finset.Basic
import Mathlib.Data.Multiset.DershowitzManna
import Mathlib.Tactic.Abel

/-! Locks that stay held across suspension points, and runs that come to rest. A section that
finds a lock taken is put back and tries again at its task's next turn. -/
namespace Interleaving

variable {θ κ α ι σ : Type}

theorem rest_eq_nil {p : Pool θ α σ} {t : θ} {act : α} {rest : List α}
    (short : (p.tasks t).length ≤ 1) (running : p.tasks t = act :: rest) : rest = [] := by
  rw [running, List.length_cons] at short
  exact List.length_eq_zero_iff.mp (by omega)

variable [DecidableEq θ] {prog : Program θ κ α ι σ}

structure Program.Sequential (prog : Program θ κ α ι σ) : Prop where
  body : ∀ t request, (prog.body t request).length ≤ 1
  perform : ∀ act input s, (prog.perform act input s).2.length ≤ 1

theorem Program.Sequential.tasks (seq : prog.Sequential) (es : List (Event θ κ ι)) (s : σ) (t : θ) :
    ((prog.execute es (.start s)).tasks t).length ≤ 1 := by
  apply execute_turns (fun p => ∀ t, (p.tasks t).length ≤ 1) (fun _ _ _ _ => True) _ _ es _
    (guarded_trivial es _)
  · intro t
    simp [Pool.start]
  · intro t request p _ short u
    by_cases same : u = t
    · subst same
      simpa using seq.body u request
    · simpa [same] using short u
  · intro t input act rest p running _ short u
    by_cases same : u = t
    · subst same
      simpa [rest_eq_nil (short u) running] using seq.perform act input p.shared
    · simpa [same] using short u

/-- How the sections treat a lock: `held` reads it from the shared state, `inside` marks the
sections that run under it. -/
structure Program.Guards (prog : Program θ κ α ι σ) (held : σ → Prop) (inside : α → Prop) : Prop where
  outside : ∀ t request, ∀ act ∈ prog.body t request, ¬inside act
  /-- A section runs on under the lock if it had it or found it free; otherwise it gives back what
  it had. -/
  step : ∀ act input s, (inside act → held s) →
    (∃ new ∈ (prog.perform act input s).2, inside new) ∧ held (prog.perform act input s).1 ∧
      (inside act ∨ ¬held s) ∨
    (∀ new ∈ (prog.perform act input s).2, ¬inside new) ∧
      (held (prog.perform act input s).1 ↔ held s ∧ ¬inside act)

structure Pool.Locked (p : Pool θ α σ) (held : σ → Prop) (inside : α → Prop) : Prop where
  short : ∀ t, (p.tasks t).length ≤ 1
  exclusive : p.Exclusive inside
  held_iff : held p.shared ↔ p.Pending inside

variable {held : σ → Prop} {inside : α → Prop}

theorem not_pending_of_left {p : Pool θ α σ} {t : θ} {act : α} (exclusive : p.Exclusive inside)
    (running : p.tasks t = [act]) (within : inside act) {s : σ} {next : List α}
    (left : ∀ new ∈ next, ¬inside new) :
    ¬(⟨s, Function.update p.tasks t next⟩ : Pool θ α σ).Pending inside := by
  rintro ⟨u, other, member, also⟩
  rcases mem_of_call member with ⟨_, pushed⟩ | old
  · exact left other pushed also
  · have same : t = u := exclusive t u act (by simp [running]) other old within also
    subst same
    exact left other (by simpa using member) also

theorem Pool.Locked.call {p : Pool θ α σ} {t : θ} (locked : p.Locked held inside)
    (guards : prog.Guards held inside) (seq : prog.Sequential) (idle : p.tasks t = [])
    (request : κ) :
    (⟨p.shared, Function.update p.tasks t (prog.body t request)⟩ : Pool θ α σ).Locked held inside where
  short u := by
    by_cases same : u = t
    · subst same
      simpa using seq.body u request
    · simpa [same] using locked.short u
  exclusive := exclusive_call locked.exclusive (guards.outside t request)
  held_iff := by
    rw [pending_call_iff idle, locked.held_iff]
    refine (or_iff_left ?_).symm
    rintro ⟨act, member, within⟩
    exact guards.outside t request act member within

theorem Pool.Locked.turn {p : Pool θ α σ} {t : θ} {act : α} {rest : List α}
    (locked : p.Locked held inside) (guards : prog.Guards held inside) (seq : prog.Sequential)
    (running : p.tasks t = act :: rest) (input : ι) :
    (⟨(prog.perform act input p.shared).1,
      Function.update p.tasks t ((prog.perform act input p.shared).2 ++ rest)⟩ : Pool θ α σ).Locked
        held inside := by
  obtain rfl := rest_eq_nil (locked.short t) running
  have holds : inside act → held p.shared :=
    fun already => locked.held_iff.mpr (pending_head running already)
  refine ⟨?_, ?_, ?_⟩
  · intro u
    by_cases same : u = t
    · subst same
      simpa using seq.perform act input p.shared
    · simpa [same] using locked.short u
  · apply exclusive_turn running locked.exclusive
    rintro ⟨new, pushed, within⟩
    rcases guards.step act input p.shared holds with ⟨_, _, had | free⟩ | ⟨left, _⟩
    · exact .inl had
    · exact .inr (mt locked.held_iff.mpr free)
    · exact absurd within (left new pushed)
  · rcases guards.step act input p.shared holds with ⟨⟨new, pushed, within⟩, held, _⟩ | ⟨left, held⟩
    · exact iff_of_true held (pending_pushed _ _ t pushed within)
    · rw [held, locked.held_iff]
      by_cases within : inside act
      · apply iff_of_false (fun both => both.2 within)
        rw [List.append_nil]
        exact not_pending_of_left locked.exclusive running within left
      · rw [and_iff_left within]
        constructor
        · intro pending
          exact pending_turn running _ _ pending within
        · intro pending
          rcases pending_of_turn running pending with ⟨new, pushed, also⟩ | old
          · exact absurd also (left new pushed)
          · exact old

/-- A lock that every section respects excludes, in every run. -/
theorem locked_execute (guards : prog.Guards held inside) (seq : prog.Sequential) {s : σ}
    (free : ¬held s) (es : List (Event θ κ ι)) :
    (prog.execute es (.start s)).Locked held inside := by
  apply execute_turns (fun p => p.Locked held inside) (fun _ _ _ _ => True) _ _ es _
    (guarded_trivial es _)
  · refine ⟨fun t => by simp [Pool.start], ?_, ?_⟩
    · intro t u act member
      simp [Pool.start] at member
    · exact iff_of_false free (not_pending_start s inside)
  · intro t request p idle locked
    exact locked.call guards seq idle request
  · intro t input act rest p running _ locked
    exact locked.turn guards seq running input

/-- A turn of a task whose section is not put back. -/
def Program.Moves (prog : Program θ κ α ι σ) (moving : σ → α → ι → Prop) (q p : Pool θ α σ) : Prop :=
  ∃ t input act rest, p.tasks t = act :: rest ∧ moving p.shared act input ∧
    q = prog.advance (.turn t input) p

def Program.Lowers {β : Type} [LT β] (prog : Program θ κ α ι σ) (moving : σ → α → ι → Prop)
    (rank : α → β) : Prop :=
  ∀ act input s, moving s act input → ∀ new ∈ (prog.perform act input s).2, rank new < rank act

/-- The ranks of what the listed tasks have still to run. -/
def Pool.load {β : Type} (p : Pool θ α σ) (ts : Finset θ) (rank : α → β) : Multiset β :=
  ∑ t ∈ ts, ((p.tasks t).map rank : Multiset β)

theorem load_turn_lt {β : Type} [Preorder β] {p : Pool θ α σ} {ts : Finset θ} {rank : α → β} {t : θ}
    {act : α} {rest : List α} (listed : t ∈ ts) (running : p.tasks t = act :: rest) (s : σ)
    {next : List α} (lower : ∀ new ∈ next, rank new < rank act) :
    Multiset.IsDershowitzMannaLT
      ((⟨s, Function.update p.tasks t (next ++ rest)⟩ : Pool θ α σ).load ts rank)
      (p.load ts rank) := by
  refine ⟨(rest.map rank : Multiset β) + ∑ u ∈ ts.erase t, ((p.tasks u).map rank : Multiset β),
    (next.map rank : Multiset β), {rank act}, by simp, ?_, ?_, ?_⟩
  · have others : ∑ u ∈ ts.erase t, ((Function.update p.tasks t (next ++ rest) u).map rank :
        Multiset β) = ∑ u ∈ ts.erase t, ((p.tasks u).map rank : Multiset β) :=
      Finset.sum_congr rfl fun u other => by
        rw [Function.update_of_ne (Finset.ne_of_mem_erase other)]
    rw [Pool.load, ← Finset.add_sum_erase ts _ listed, others]
    simp only [Function.update_self, List.map_append, ← Multiset.coe_add]
    abel
  · rw [Pool.load, ← Finset.add_sum_erase ts _ listed, running, List.map_cons,
      ← Multiset.cons_coe, ← Multiset.singleton_add]
    abel
  · intro low member
    obtain ⟨new, pushed, rfl⟩ := List.mem_map.mp (Multiset.mem_coe.mp member)
    exact ⟨rank act, Multiset.mem_singleton_self _, lower new pushed⟩

/-- Where moving lowers ranks, no run of moves goes on for ever. -/
theorem acc_moves {β : Type} [Preorder β] [WellFoundedLT β] {moving : σ → α → ι → Prop} {rank : α → β}
    (lowers : prog.Lowers moving rank) (s : σ) (es : List (Event θ κ ι)) :
    Acc (prog.Moves moving) (prog.execute es (.start s)) := by
  generalize measured : (prog.execute es (.start s)).load (es.map Event.task).toFinset rank = m
  have wf : WellFounded (Multiset.IsDershowitzMannaLT : Multiset β → Multiset β → Prop) :=
    Multiset.wellFounded_isDershowitzMannaLT
  induction m using wf.induction generalizing es with
  | _ m ih =>
    constructor
    rintro q ⟨t, input, act, rest, running, moves, rfl⟩
    have next : prog.execute (es ++ [.turn t input]) (.start s) =
        prog.advance (.turn t input) (prog.execute es (.start s)) := by
      rw [execute_append, Program.execute, Program.execute]
    have known : t ∈ es.map Event.task := by
      by_contra absent
      rw [tasks_execute_other es _ absent] at running
      cases running
    have same : ((es ++ [Event.turn t input]).map Event.task).toFinset =
        (es.map Event.task).toFinset := by
      ext u
      simp only [List.map_append, List.map_cons, List.map_nil, List.mem_toFinset, List.mem_append,
        List.mem_singleton, Event.task]
      exact ⟨fun either => either.elim id fun eq => eq ▸ known, .inl⟩
    have smaller := load_turn_lt (List.mem_toFinset.mpr known) running
      (prog.perform act input (prog.execute es (.start s)).shared).1 (lowers act input _ moves)
    rw [← advance_turn running, ← next, measured, ← same] at smaller
    rw [← next]
    exact ih _ smaller (es ++ [.turn t input]) rfl

end Interleaving
