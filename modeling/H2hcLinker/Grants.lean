import H2hcLinker.Observation
import Mathlib.Data.List.Induction
import Mathlib.Logic.Function.Basic
import Mathlib.Order.Basic

/-! Rights that are granted to principals and copied into the credentials they draw. A copy does not
follow its grant; when every credential is covered by the grant it was copied from is a matter of what
the later grants find. -/
namespace Grants

open Observation

structure Ledger (π κ ρ : Type) where
  granted : π → Option ρ
  held : κ → Option (π × ρ)

variable {π κ ρ ω α σ : Type} {l l' : Ledger π κ ρ} {p : π} {g : ρ}

/-- No credential's rights exceed the present grant of its principal. -/
def Ledger.Covered [LE ρ] (l : Ledger π κ ρ) : Prop :=
  ∀ k p r, l.held k = some (p, r) → ∃ g, l.granted p = some g ∧ r ≤ g

/-- No credential of the principal exceeds the rights. -/
def Ledger.Fits [LE ρ] (l : Ledger π κ ρ) (p : π) (g : ρ) : Prop :=
  ∀ k r, l.held k = some (p, r) → r ≤ g

/-- The principal's grant is replaced, and nothing else. -/
structure Regrants (l : Ledger π κ ρ) (p : π) (g : ρ) (l' : Ledger π κ ρ) : Prop where
  granted : l'.granted p = some g
  others : ∀ q, q ≠ p → l'.granted q = l.granted q
  held : l'.held = l.held

/-- Every credential is an old one or a copy of its principal's grant, which stays. Others may go, and
so may the grants that no credential is left of. -/
def Copies (l l' : Ledger π κ ρ) : Prop :=
  ∀ k p r, l'.held k = some (p, r) →
    (l.held k = some (p, r) ∨ l.granted p = some r) ∧ l'.granted p = l.granted p

theorem Copies.refl (l : Ledger π κ ρ) : Copies l l := fun _ _ _ held => ⟨.inl held, rfl⟩

variable [Preorder ρ]

theorem Copies.covered (copies : Copies l l') (covered : l.Covered) : l'.Covered := by
  intro k p r held
  obtain ⟨origin, same⟩ := copies k p r held
  rw [same]
  rcases origin with old | copied
  · exact covered k p r old
  · exact ⟨r, copied, le_refl r⟩

/-- A grant keeps all credentials covered exactly if it does not narrow what one of them holds. -/
theorem Regrants.covered_iff (regrants : Regrants l p g l') (covered : l.Covered) :
    l'.Covered ↔ l.Fits p g := by
  constructor
  · intro after k r held
    obtain ⟨g', granted, le⟩ := after k p r (by rw [regrants.held, held])
    cases regrants.granted.symm.trans granted
    exact le
  · intro fits k q r held
    rw [regrants.held] at held
    by_cases same : q = p
    · subst same
      exact ⟨g, regrants.granted, fits k r held⟩
    · rw [regrants.others q same]
      exact covered k q r held

/-- A machine whose states keep such a ledger: the named operations replace a grant, all others copy. -/
structure Keeps (m : Machine ω α σ) (inv : σ → Prop) (view : σ → Ledger π κ ρ)
    (regrant : ω → Option (π × ρ)) : Prop where
  preserved : ∀ op s, inv s → inv (m.step op s).2
  regrants : ∀ op s p g, inv s → regrant op = some (p, g) → Regrants (view s) p g (view (m.step op s).2)
  copies : ∀ op s, inv s → regrant op = none → Copies (view s) (view (m.step op s).2)

variable {m : Machine ω α σ} {inv : σ → Prop} {view : σ → Ledger π κ ρ} {regrant : ω → Option (π × ρ)}

theorem Keeps.covered_step (keeps : Keeps m inv view regrant) {op : ω} {s : σ} (here : inv s)
    (fits : ∀ p g, regrant op = some (p, g) → (view s).Fits p g) (covered : (view s).Covered) :
    (view (m.step op s).2).Covered := by
  cases kind : regrant op with
  | none => exact (keeps.copies op s here kind).covered covered
  | some pg => exact ((keeps.regrants op s pg.1 pg.2 here kind).covered_iff covered).mpr (fits _ _ kind)

/-- Every state of a run is covered exactly if no grant finds a credential that it narrows. -/
theorem Keeps.covered_iff (keeps : Keeps m inv view regrant) {s : σ} (start : inv s)
    (initial : (view s).Covered) (ops : List ω) :
    (∀ reached, reached <+: ops → (view (m.after reached s)).Covered) ↔
      ∀ before op after p g, ops = before ++ op :: after → regrant op = some (p, g) →
        (view (m.after before s)).Fits p g := by
  constructor
  · rintro always before op after p g rfl kind
    have now := always before ⟨op :: after, rfl⟩
    have next := always (before ++ [op]) ⟨after, by simp⟩
    rw [Machine.after_append] at next
    have here := m.after_induction inv keeps.preserved before s start
    exact ((keeps.regrants op _ p g here kind).covered_iff now).mp next
  · intro fits reached
    induction reached using List.reverseRecOn with
    | nil => exact fun _ => initial
    | append_singleton reached op ih =>
      rintro ⟨rest, rfl⟩
      rw [Machine.after_append]
      apply keeps.covered_step (m.after_induction inv keeps.preserved reached s start)
      · exact fun p g kind => fits reached op rest p g (by simp) kind
      · exact ih ⟨op :: rest, by simp⟩

end Grants
