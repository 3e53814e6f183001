import H2hcLinker.Interleaving
import Mathlib.Algebra.BigOperators.Group.Finset.Basic
import Mathlib.Algebra.Ring.Nat

/-! What the sections that the tasks of a pool have still to run hold between them. -/
namespace Interleaving

variable {θ α σ : Type} {p : Pool θ α σ} {t : θ} {act : α} {rest : List α} {weight : α → Nat}
  {n : Nat}

def weighAll (weight : α → Nat) (acts : List α) : Nat := (acts.map weight).sum

/-- All sections together weigh this much; only finitely many tasks have any. -/
def Pool.Weighs (p : Pool θ α σ) (weight : α → Nat) (n : Nat) : Prop :=
  ∃ busy : Finset θ, (∀ t ∉ busy, p.tasks t = []) ∧ n = busy.sum fun t => weighAll weight (p.tasks t)

theorem weighs_start (s : σ) : (Pool.start s : Pool θ α σ).Weighs weight 0 :=
  ⟨∅, fun _ _ => rfl, rfl⟩

theorem Pool.Weighs.eq_zero (weighs : p.Weighs weight n)
    (weightless : ∀ t, ∀ act ∈ p.tasks t, weight act = 0) : n = 0 := by
  obtain ⟨busy, _, rfl⟩ := weighs
  apply Finset.sum_eq_zero
  intro t _
  rw [weighAll, List.sum_eq_zero_iff_forall_eq_nat]
  intro w member
  obtain ⟨act, held, rfl⟩ := List.mem_map.mp member
  exact weightless t act held

variable [DecidableEq θ]

/-- Giving a task other sections replaces its share. -/
theorem Pool.Weighs.update (weighs : p.Weighs weight n) (t : θ) : ∃ m,
    n = weighAll weight (p.tasks t) + m ∧ ∀ (s : σ) (acts : List α),
      Pool.Weighs ⟨s, Function.update p.tasks t acts⟩ weight (weighAll weight acts + m) := by
  obtain ⟨busy, idle, rfl⟩ := weighs
  refine ⟨(busy.erase t).sum fun u => weighAll weight (p.tasks u), ?_, fun s acts => ?_⟩
  · by_cases member : t ∈ busy
    · exact (Finset.add_sum_erase busy _ member).symm
    · rw [Finset.erase_eq_of_notMem member, idle t member]
      simp [weighAll]
  · refine ⟨insert t busy, ?_, ?_⟩
    · intro u absent
      obtain ⟨other, absent⟩ := not_or.mp (mt Finset.mem_insert.mpr absent)
      simpa [other] using idle u absent
    · rw [← Finset.add_sum_erase _ _ (Finset.mem_insert_self t busy), Finset.erase_insert_eq_erase]
      congr 1
      · simp
      · apply Finset.sum_congr rfl
        intro u member
        simp [Finset.ne_of_mem_erase member]

theorem Pool.Weighs.call (weighs : p.Weighs weight n) (idle : p.tasks t = []) (acts : List α) :
    Pool.Weighs ⟨p.shared, Function.update p.tasks t acts⟩ weight (weighAll weight acts + n) := by
  obtain ⟨m, rfl, after⟩ := weighs.update t
  rw [idle]
  simpa [weighAll] using after p.shared acts

/-- A turn replaces the weight of its section by that of what it goes on with. -/
theorem Pool.Weighs.turn (weighs : p.Weighs weight n) (running : p.tasks t = act :: rest) : ∃ m,
    n = weight act + m ∧ ∀ (s : σ) (pushed : List α),
      Pool.Weighs ⟨s, Function.update p.tasks t (pushed ++ rest)⟩ weight
        (weighAll weight pushed + m) := by
  obtain ⟨m, rfl, after⟩ := weighs.update t
  refine ⟨weighAll weight rest + m, ?_, fun s pushed => ?_⟩
  · simp [running, weighAll, Nat.add_assoc]
  · simpa [weighAll, Nat.add_assoc] using after s (pushed ++ rest)

end Interleaving
