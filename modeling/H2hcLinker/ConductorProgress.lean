import H2hcLinker.ConductorLocks
import Mathlib.Data.Prod.Lex

/-! Zome calls come to an end. The locks are taken in one order, `connections` before `handle`, so
some call can always move on, and a call has only finitely many moves. -/
namespace H2hcLinker.Conductor

open HashTable Interleaving

variable {settings : Settings} {s s' : AppConn} {act new : Section} {reply : Reply}
  {next rest : List Section} {p : Connecting} {t : Nat}

/-- What is left to do once the admin websocket is there; a second attempt has less before it. -/
def AdminUse.rank : AdminUse → Nat
  | .listApps _ attempt => 20 + 5 * (1 - attempt)
  | .connectApp _ => 8

def Section.stage : Section → Nat
  | .searchCache _ => 40
  | .handleLookup use => use.rank + 4
  | .handleWrite use => use.rank + 3
  | .adminConnect use => use.rank + 2
  | .listApps call attempt _ => (AdminUse.listApps call attempt).rank + 1
  | .handleReset call attempt => (AdminUse.listApps call attempt).rank
  | .storeApps _ _ => 16
  | .connectionLookup _ => 15
  | .connectionWrite _ => 14
  | .issueToken _ _ => 9
  | .listInterfaces _ _ _ => 8
  | .attachInterface _ _ _ => 7
  | .appConnect _ _ _ => 6
  | .authorize _ _ _ _ _ => 5
  | .callZome _ _ => 4
  | .returned _ _ => 0

/-- The cells that come after the one being authorized. -/
def Section.waiting : Section → Nat
  | .authorize _ _ _ _ cells => cells.length
  | _ => 0

def Section.rank (act : Section) : Nat ×ₗ Nat := toLex (act.stage, act.waiting)

theorem rank_lt_of_stage (lower : new.stage < act.stage) : new.rank < act.rank :=
  Prod.Lex.toLex_lt_toLex.mpr (.inl lower)

theorem proceed_stage (use : AdminUse) (admin : AdminWebsocket) :
    (use.proceed admin).stage = use.rank + 1 := by
  cases use <;> rfl

/-- A section that neither waits nor is at its end leaves less to do. -/
theorem step_rank (step : Step settings s act reply s' next) (ready : act.Ready s)
    (awaits : act.Awaits reply) : ∀ new ∈ next, new.rank < act.rank := by
  intro new pushed
  cases step with
  | waits act reply stuck => exact absurd stuck (by simp [ready, awaits])
  | dropped act => cases pushed
  | left call result reply => cases pushed
  | failed act e asks final =>
    cases List.mem_singleton.mp pushed
    apply rank_lt_of_stage
    cases act <;> simp_all [Section.stage, Section.asks]
  | handleFound act reply use admin seeks free found =>
    cases List.mem_singleton.mp pushed
    apply rank_lt_of_stage
    rw [proceed_stage]
    rcases seeks with rfl | rfl <;> simp [Section.stage]
  | adminConnected use =>
    cases List.mem_singleton.mp pushed
    apply rank_lt_of_stage
    rw [proceed_stage]
    simp [Section.stage]
  | connectionFound act reply target app seeks free found =>
    cases List.mem_singleton.mp pushed
    apply rank_lt_of_stage
    rcases seeks with rfl | rfl <;> simp [Section.stage]
  | appConnected target admin request info loop =>
    rcases authorizeNext_cases loop with ⟨_, _, _, _, rfl⟩ | ⟨_, _, rfl⟩ <;>
      cases List.mem_singleton.mp pushed <;> exact rank_lt_of_stage (by simp [Section.stage])
  | authorized target admin app cell cells credentials loop =>
    rcases authorizeNext_cases loop with ⟨_, others, rfl, _, rfl⟩ | ⟨_, _, rfl⟩ <;>
      cases List.mem_singleton.mp pushed
    · exact Prod.Lex.toLex_lt_toLex.mpr (.inr ⟨rfl, by simp [Section.waiting]⟩)
    · exact rank_lt_of_stage (by simp [Section.stage])
  | retried call attempt reply waited free first =>
    cases List.mem_singleton.mp pushed
    apply rank_lt_of_stage
    simp only [Section.stage, AdminUse.rank]
    omega
  | _ =>
    cases List.mem_singleton.mp pushed
    apply rank_lt_of_stage
    simp only [Section.stage, AdminUse.rank]
    omega

/-- The conductor answers, or the call is dropped. -/
def Section.Fits (act : Section) (reply : Reply) : Prop := act.Awaits reply ∨ reply = .dropped

/-- The section runs with its locks free, and what it awaits comes. -/
def Section.Moving (s : AppConn) (act : Section) (reply : Reply) : Prop := act.Ready s ∧ act.Fits reply

theorem lowers (settings : Settings) : (program settings).Lowers Section.Moving Section.rank := by
  rintro act reply s ⟨ready, awaits | rfl⟩ new pushed
  · exact step_rank (perform_step act reply s) ready awaits new pushed
  · cases pushed

/-- The call that has the lock others wait for can move: it needs at most the inner lock. -/
theorem movable (settings : Settings) (es : List (Event Nat ZomeCall Reply))
    (busy : ¬((program settings).execute es (.start .new)).Quiescent) :
    ∃ t act rest, ((program settings).execute es (.start .new)).tasks t = act :: rest ∧
      act.Ready ((program settings).execute es (.start .new)).shared := by
  have connections := connections_locked settings es
  have handle := handle_locked settings es
  generalize (program settings).execute es (.start .new) = p at *
  have first {t : Nat} {act : Section} (member : act ∈ p.tasks t) : ∃ rest, p.tasks t = act :: rest := by
    cases running : p.tasks t with
    | nil => simp [running] at member
    | cons head rest =>
      obtain rfl := rest_eq_nil (handle.short t) running
      rw [running, List.mem_singleton] at member
      exact ⟨[], by rw [member]⟩
  by_cases outer : p.shared.adminConn.locked = true
  · obtain ⟨t, act, member, connects⟩ := handle.held_iff.mp outer
    obtain ⟨rest, running⟩ := first member
    refine ⟨t, act, rest, running, ?_⟩
    cases act <;> simp_all [Section.ConnectsAdmin, Section.connectsAdmin, Section.Ready]
  · have free : p.shared.adminConn.locked = false := by simpa using outer
    by_cases inner : p.shared.locked = true
    · obtain ⟨t, act, member, connects⟩ := connections.held_iff.mp inner
      obtain ⟨rest, running⟩ := first member
      refine ⟨t, act, rest, running, ?_⟩
      cases act <;> simp_all [Section.ConnectsApp, Section.connecting, Section.Ready]
    · obtain ⟨t, some⟩ := not_forall.mp busy
      obtain ⟨act, rest, running⟩ := List.exists_cons_of_ne_nil some
      refine ⟨t, act, rest, running, ?_⟩
      cases act <;> simp_all [Section.Ready]

/-- Wherever a run stands, either every call has returned or some call can move on, and no run of
moves is infinite, whatever the conductor answers. -/
theorem calls_complete (settings : Settings) (es : List (Event Nat ZomeCall Reply)) :
    let p := (program settings).execute es (.start .new)
    Acc ((program settings).Moves Section.Moving) p ∧
      (p.Quiescent ∨ ∃ t act rest, p.tasks t = act :: rest ∧ act.Ready p.shared ∧
        ∀ reply, act.Fits reply →
          (program settings).Moves Section.Moving ((program settings).advance (.turn t reply) p) p) := by
  refine ⟨acc_moves (lowers settings) .new es, or_iff_not_imp_left.mpr fun busy => ?_⟩
  obtain ⟨t, act, rest, running, ready⟩ := movable settings es busy
  exact ⟨t, act, rest, running, ready,
    fun reply fits => ⟨t, reply, act, rest, running, ⟨ready, fits⟩, rfl⟩⟩

end H2hcLinker.Conductor
