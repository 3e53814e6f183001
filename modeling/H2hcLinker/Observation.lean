import Mathlib.Data.List.Basic
import Mathlib.Data.List.Induction

/-! Machines that answer one operation after another, and when two of them cannot be told apart. -/
namespace Observation

structure Machine (ω α σ : Type) where
  step : ω → σ → α × σ

variable {ω α σ τ : Type}

/-- The answers to a sequence of operations. -/
def Machine.answers (m : Machine ω α σ) : List ω → σ → List α
  | [], _ => []
  | op :: ops, s => (m.step op s).1 :: m.answers ops (m.step op s).2

/-- The state after a sequence of operations. -/
def Machine.after (m : Machine ω α σ) : List ω → σ → σ
  | [], s => s
  | op :: ops, s => m.after ops (m.step op s).2

theorem Machine.after_append (m : Machine ω α σ) (ops more : List ω) (s : σ) :
    m.after (ops ++ more) s = m.after more (m.after ops s) := by
  induction ops generalizing s with
  | nil => rfl
  | cons op ops ih => exact ih _

/-- The invariant rule. -/
theorem Machine.after_induction (m : Machine ω α σ) (inv : σ → Prop)
    (step : ∀ op s, inv s → inv (m.step op s).2) (ops : List ω) (s : σ) (initial : inv s) :
    inv (m.after ops s) := by
  induction ops generalizing s with
  | nil => exact initial
  | cons op ops ih => exact ih _ (step op s initial)

/-- A relation that every step keeps, with equal answers, as long as the answers so far are
admissible. It may speak of those answers. -/
theorem answers_eq_of_simulation {m : Machine ω α σ} {n : Machine ω α τ}
    (rel : List α → σ → τ → Prop) (admissible : List α → Prop)
    (earlier : ∀ past later, admissible (past ++ later) → admissible past)
    (step : ∀ past op s t, rel past s t → admissible (past ++ [(m.step op s).1]) →
      (m.step op s).1 = (n.step op t).1 ∧
        rel (past ++ [(m.step op s).1]) (m.step op s).2 (n.step op t).2)
    (ops : List ω) (past : List α) (s : σ) (t : τ) (related : rel past s t)
    (fine : admissible (past ++ m.answers ops s)) : m.answers ops s = n.answers ops t := by
  induction ops generalizing past s t with
  | nil => rfl
  | cons op ops ih =>
    have split : past ++ m.answers (op :: ops) s =
        past ++ [(m.step op s).1] ++ m.answers ops (m.step op s).2 := by
      simp [Machine.answers]
    rw [split] at fine
    obtain ⟨same, next⟩ := step past op s t related (earlier _ _ fine)
    have rest := ih _ _ _ next fine
    simp only [Machine.answers, same, rest]

/-- The operations change a value step by step, and none of them ends it. -/
def Kept {ν : Type} (ends : ω → ν → Prop) (change : ω → ν → ν) : List ω → ν → ν → Prop
  | [], v, w => v = w
  | op :: ops, v, w => ¬ends op v ∧ Kept ends change ops (change op v) w

theorem kept_snoc {ν : Type} {ends : ω → ν → Prop} {change : ω → ν → ν} {ops : List ω} {op : ω}
    {v w : ν} : Kept ends change (ops ++ [op]) v w ↔
      ∃ u, Kept ends change ops v u ∧ ¬ends op u ∧ change op u = w := by
  induction ops generalizing v with
  | nil => simp [Kept]
  | cons first ops ih =>
    simp only [List.cons_append, Kept, ih]
    constructor
    · rintro ⟨lasts, u, kept, rest⟩
      exact ⟨u, ⟨lasts, kept⟩, rest⟩
    · rintro ⟨u, ⟨lasts, kept⟩, rest⟩
      exact ⟨lasts, u, kept, rest⟩

/-- A slot that an operation fills, changes or clears holds what some operation put there and the
later ones made of it. -/
theorem slot_after_iff {ν : Type} (m : Machine ω α σ) {inv : σ → Prop} {view : σ → Option ν}
    {creates : ω → σ → ν → Prop} {ends : ω → ν → Prop} {change : ω → ν → ν}
    (keeps : ∀ op s, inv s → inv (m.step op s).2)
    (law : ∀ op s v, inv s → (view (m.step op s).2 = some v ↔
      creates op s v ∨ ∃ old, view s = some old ∧ ¬ends op old ∧ change op old = v))
    {s : σ} (initial : inv s) (empty : view s = none) (ops : List ω) (v : ν) :
    view (m.after ops s) = some v ↔ ∃ before op since first, ops = before ++ op :: since ∧
      creates op (m.after before s) first ∧ Kept ends change since first v := by
  induction ops using List.reverseRecOn generalizing v with
  | nil => simp [Machine.after, empty]
  | append_singleton ops last ih =>
    have here := m.after_induction inv keeps ops s initial
    rw [m.after_append, Machine.after, Machine.after, law last _ v here]
    constructor
    · rintro (created | ⟨old, found, lasts, rfl⟩)
      · exact ⟨ops, last, [], v, rfl, created, rfl⟩
      · obtain ⟨before, op, since, first, rfl, created, kept⟩ := (ih old).mp found
        exact ⟨before, op, since ++ [last], first, by simp, created,
          kept_snoc.mpr ⟨old, kept, lasts, rfl⟩⟩
    · rintro ⟨before, op, since, first, split, created, kept⟩
      cases since using List.reverseRecOn with
      | nil =>
        obtain ⟨rfl, same⟩ := List.append_inj' split rfl
        cases same
        cases kept
        exact .inl created
      | append_singleton since final =>
        rw [← List.cons_append, ← List.append_assoc] at split
        obtain ⟨rfl, same⟩ := List.append_inj' split rfl
        cases same
        obtain ⟨old, earlier, lasts, rfl⟩ := kept_snoc.mp kept
        exact .inr ⟨old, (ih old).mpr ⟨before, op, since, first, rfl, created, earlier⟩, lasts, rfl⟩

end Observation
