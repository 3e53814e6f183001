import H2hcLinker.Past
import H2hcLinker.LinkerReport
import Mathlib.Algebra.Order.BigOperators.Group.List

/-! What the report file says of the ops that were notified. -/
namespace H2hcLinker.Reports

open HashTable Interleaving Past RemoteSignals

variable {lib : ReportLibrary} {p : Running} {t : Nat} {act : Section} {rest : List Section}
  {input : Input} {past : List Instant} {space : SpaceId}

/-- What an entry reports on. -/
inductive Quantity where
  | opCount
  | totalBytes

namespace Quantity

def ofCmd : Quantity → Cmd → Nat
  | .opCount, _ => 1
  | .totalBytes, cmd => cmd.sizeBytes

def ofTotals : Quantity → Nat × Nat → Nat
  | .opCount, totals => totals.1
  | .totalBytes, totals => totals.2

/-- As it is read back from the decimal text. -/
def ofEntry (quantity : Quantity) (entry : ReportEntryFetchedOps) : Nat :=
  let text := match quantity with
    | .opCount => entry.opCount
    | .totalBytes => entry.totalBytes
  Nat.ofDigitChars 10 text.toList 0

/-- The sum over the commands of a space. -/
def sum (quantity : Quantity) (space : SpaceId) (cmds : List Cmd) : Nat :=
  ((cmds.filter (·.spaceId = space)).map quantity.ofCmd).sum

/-- The sum over the entries of a space. -/
def written (quantity : Quantity) (lib : ReportLibrary) (space : SpaceId) (file : List ReportEntry) :
    Nat :=
  (file.map fun
    | .start => 0
    | .fetchedOps entry => if entry.space = lib.spaceToStr space then quantity.ofEntry entry else 0).sum

end Quantity

/-- The command that the channel accepts with the event. -/
def acceptedCmd (m : Instant) : Option Cmd :=
  match m.act with
  | .fetchedOp cmd => if m.pool.shared.hasRoom then some cmd else none
  | _ => none

/-- The notifications that the channel has accepted. -/
def accepted (past : List Instant) : List Cmd := past.filterMap acceptedCmd

/-- Their number and the sum of their sizes fit in 64 bits. -/
def Fits (past : List Instant) : Prop :=
  ∀ quantity : Quantity, ((accepted past).map quantity.ofCmd).sum < 2 ^ 64

/-- A run is past its start. -/
def Section.MidRun : Section → Prop
  | .receive _ | .report _ => True
  | _ => False

/-- The event writes an entry for the space, in a run of the task. -/
def Writes (lib : ReportLibrary) (t : Nat) (space : SpaceId) (m : Instant) : Prop :=
  m.task = t ∧ ∃ entry, entry.space = lib.spaceToStr space ∧
    (perform lib m.act m.input m.pool.shared).1.file = m.pool.shared.file ++ [.fetchedOps entry]

/-- The task has written an entry for the space since its run began. -/
def Reported (lib : ReportLibrary) (t : Nat) (space : SpaceId) : List Instant → Prop :=
  Since (fun m => ¬(m.task = t ∧ m.act = .lock)) fun _ m => Writes lib t space m

/-- What was accepted is written or still in the channel, once; a run writes one entry for a space,
and no empty one. -/
structure Conserves (lib : ReportLibrary) (past : List Instant) (p : Running) : Prop where
  totals : ¬p.Pending Section.MidRun → ∀ quantity space,
    Quantity.written quantity lib space p.shared.file + Quantity.sum quantity space p.shared.cmds =
      Quantity.sum quantity space (accepted past)
  once : Always (fun before m => ∀ t space, Writes lib t space m → ¬Reported lib t space before) past
  counted : ∀ entry, .fetchedOps entry ∈ p.shared.file → 0 < Quantity.opCount.ofEntry entry

variable {quantity : Quantity}

/-- The map of a run that is under way. -/
def Section.fetchedOps : Section → FetchedOps
  | .receive fetchedOps | .report fetchedOps => fetchedOps
  | _ => ∅

/-- What a section has taken off the channel and not yet written. -/
def Quantity.held (quantity : Quantity) (space : SpaceId) (act : Section) : Nat :=
  quantity.ofTotals (act.fetchedOps.totals space)

@[simp] theorem ofTotals_empty (quantity : Quantity) (space : SpaceId) :
    quantity.ofTotals (FetchedOps.totals ∅ space) = 0 := by
  cases quantity <;> rfl

theorem weigh_reporting (quantity : Quantity) (space : SpaceId) (fetchedOps : FetchedOps) :
    weighAll (quantity.held space) (reporting fetchedOps) =
      quantity.ofTotals (fetchedOps.totals space) := by
  unfold reporting
  split
  next empty => simp [empty, weighAll]
  next => simp [weighAll, Quantity.held, Section.fetchedOps]

theorem sum_append (quantity : Quantity) (space : SpaceId) (cmds more : List Cmd) :
    quantity.sum space (cmds ++ more) = quantity.sum space cmds + quantity.sum space more := by
  simp [Quantity.sum]

theorem sum_cons (quantity : Quantity) (space : SpaceId) (cmd : Cmd) (cmds : List Cmd) :
    quantity.sum space (cmd :: cmds) =
      (if cmd.spaceId = space then quantity.ofCmd cmd else 0) + quantity.sum space cmds := by
  by_cases here : cmd.spaceId = space <;> simp [Quantity.sum, here]

theorem sum_le (quantity : Quantity) (space : SpaceId) (cmds : List Cmd) :
    quantity.sum space cmds ≤ (cmds.map quantity.ofCmd).sum :=
  (List.filter_sublist.map _).sum_le_sum fun _ _ => Nat.zero_le _

/-- Within 64 bits a command counts in full, for its own space. -/
theorem totals_add (quantity : Quantity) (space : SpaceId) (fetchedOps : FetchedOps) (cmd : Cmd)
    (fits : quantity.ofTotals (fetchedOps.totals space) +
      (if cmd.spaceId = space then quantity.ofCmd cmd else 0) < 2 ^ 64) :
    quantity.ofTotals ((fetchedOps.add cmd).totals space) =
      quantity.ofTotals (fetchedOps.totals space) +
        if cmd.spaceId = space then quantity.ofCmd cmd else 0 := by
  by_cases here : cmd.spaceId = space
  · subst here
    rw [if_pos rfl] at fits ⊢
    cases quantity <;>
      simpa [FetchedOps.add, FetchedOps.totals, Quantity.ofTotals, Quantity.ofCmd] using
        Nat.mod_eq_of_lt fits
  · rw [if_neg here, Nat.add_zero]
    simp [FetchedOps.add, FetchedOps.totals, Finmap.lookup_insert_of_ne _ (Ne.symm here)]

theorem totals_erase (quantity : Quantity) (space pick : SpaceId) (fetchedOps : FetchedOps) :
    quantity.ofTotals (FetchedOps.totals (fetchedOps.erase pick) space) =
      if pick = space then 0 else quantity.ofTotals (fetchedOps.totals space) := by
  unfold FetchedOps.totals
  rw [lookup_erase_eq]
  by_cases here : pick = space
  · rw [if_pos here, if_pos here.symm]
    cases quantity <;> rfl
  · rw [if_neg here, if_neg (Ne.symm here)]

/-- An entry reads back as the totals it was made from. -/
theorem ofEntry_reportEntry (quantity : Quantity) (agentPubkeyStr timestamp : String)
    (space : SpaceId) (totals : Nat × Nat) :
    quantity.ofEntry (reportEntry lib agentPubkeyStr timestamp space totals) =
      quantity.ofTotals totals := by
  cases quantity <;> simp [Quantity.ofEntry, reportEntry, Quantity.ofTotals]

theorem written_append (quantity : Quantity) (space : SpaceId) (file : List ReportEntry)
    (entry : ReportEntryFetchedOps) :
    quantity.written lib space (file ++ [.fetchedOps entry]) = quantity.written lib space file +
      if entry.space = lib.spaceToStr space then quantity.ofEntry entry else 0 := by
  simp [Quantity.written]

@[simp] theorem held_receive (quantity : Quantity) (space : SpaceId) (fetchedOps : FetchedOps) :
    quantity.held space (.receive fetchedOps) = quantity.ofTotals (fetchedOps.totals space) := rfl

@[simp] theorem held_report (quantity : Quantity) (space : SpaceId) (fetchedOps : FetchedOps) :
    quantity.held space (.report fetchedOps) = quantity.ofTotals (fetchedOps.totals space) := rfl

@[simp] theorem held_fetchedOp (quantity : Quantity) (space : SpaceId) (cmd : Cmd) :
    quantity.held space (.fetchedOp cmd) = 0 := ofTotals_empty quantity space

@[simp] theorem held_lock (quantity : Quantity) (space : SpaceId) : quantity.held space .lock = 0 :=
  ofTotals_empty quantity space

@[simp] theorem sum_nil (quantity : Quantity) (space : SpaceId) : quantity.sum space [] = 0 := rfl

/-- What a section takes from the channel it goes on with, and what it goes on without it has
written. -/
theorem perform_balance (distinct : Function.Injective lib.spaceToStr) (quantity : Quantity)
    (space : SpaceId) (p : Running) (t : Nat) (act : Section) (input : Input)
    (fits : quantity.held space act + quantity.sum space p.shared.cmds < 2 ^ 64) :
    weighAll (quantity.held space) (perform lib act input p.shared).2 +
        quantity.sum space (perform lib act input p.shared).1.cmds +
        quantity.written lib space (perform lib act input p.shared).1.file =
      quantity.held space act + quantity.sum space p.shared.cmds +
        quantity.written lib space p.shared.file +
        quantity.sum space (acceptedCmd ⟨p, t, act, input⟩).toList := by
  cases act with
  | fetchedOp cmd =>
    simp only [perform, acceptedCmd, held_fetchedOp, weighAll, List.map_nil, List.sum_nil]
    split
    next =>
      rw [sum_append, Option.toList_some]
      dsimp only
      omega
    next => rw [Option.toList_none, sum_nil, Nat.zero_add, Nat.add_zero]
  | lock =>
    simp only [perform, acceptedCmd, held_lock, Option.toList_none, sum_nil]
    split <;> simp [weighAll]
  | receive fetchedOps =>
    simp only [perform, acceptedCmd, Option.toList_none, sum_nil, held_receive] at fits ⊢
    split
    next cmd cmds waiting =>
      rw [waiting, sum_cons] at fits ⊢
      have added := totals_add quantity space fetchedOps cmd (by omega)
      simp only [weighAll, List.map_singleton, List.sum_singleton, held_receive, added]
      omega
    next empty => rw [weigh_reporting, empty, Nat.add_zero]
  | report fetchedOps =>
    simp only [perform, acceptedCmd, Option.toList_none, sum_nil, held_report]
    split
    next => simp [weighAll]
    next totals found =>
      rw [weigh_reporting, totals_erase, written_append, ofEntry_reportEntry]
      dsimp only
      by_cases here : input.pick = space
      · have named : (reportEntry lib p.shared.agentPubkeyStr input.timestamp input.pick totals).space =
            lib.spaceToStr space := congrArg lib.spaceToStr here
        have whole : fetchedOps.totals space = totals := by
          rw [FetchedOps.totals, ← here, found, Option.getD_some]
        rw [if_pos here, if_pos named, whole]
        omega
      · have other : (reportEntry lib p.shared.agentPubkeyStr input.timestamp input.pick totals).space ≠
            lib.spaceToStr space := fun same => here (distinct same)
        rw [if_neg here, if_neg other]
        omega

theorem mem_reporting {new : Section} {fetchedOps : FetchedOps} (member : new ∈ reporting fetchedOps) :
    new = .report fetchedOps := by
  unfold reporting at member
  split at member
  · cases member
  · exact List.mem_singleton.mp member

/-- What a section goes on with: itself, the loop of a run, or one round further in one of its loops. -/
inductive Follows (lib : ReportLibrary) (input : Input) (s : LinkerReport) : Section → Section → Prop where
  | waits : Follows lib input s .lock .lock
  | locked : Follows lib input s .lock (.receive ∅)
  | received (fetchedOps : FetchedOps) (cmd : Cmd) (cmds : List Cmd) (waiting : s.cmds = cmd :: cmds) :
      Follows lib input s (.receive fetchedOps) (.receive (fetchedOps.add cmd))
  | drained (fetchedOps : FetchedOps) : Follows lib input s (.receive fetchedOps) (.report fetchedOps)
  | retries (fetchedOps : FetchedOps) (absent : fetchedOps.lookup input.pick = none) :
      Follows lib input s (.report fetchedOps) (.report fetchedOps)
  | wrote (fetchedOps : FetchedOps) :
      Follows lib input s (.report fetchedOps) (.report (fetchedOps.erase input.pick))

theorem perform_follows {s : LinkerReport} (act : Section) (input : Input) {new : Section}
    (pushed : new ∈ (perform lib act input s).2) : Follows lib input s act new := by
  cases act with
  | fetchedOp cmd => cases pushed
  | lock =>
    simp only [perform] at pushed
    split at pushed
    · cases List.mem_singleton.mp pushed
      exact .waits
    · cases List.mem_singleton.mp pushed
      exact .locked
  | receive fetchedOps =>
    simp only [perform] at pushed
    split at pushed
    next cmd cmds waiting =>
      cases List.mem_singleton.mp pushed
      exact .received fetchedOps cmd cmds waiting
    next =>
      cases mem_reporting pushed
      exact .drained fetchedOps
  | report fetchedOps =>
    simp only [perform] at pushed
    split at pushed
    next absent =>
      cases List.mem_singleton.mp pushed
      exact .retries fetchedOps absent
    next =>
      cases mem_reporting pushed
      exact .wrote fetchedOps

/-- Only the loop over the map writes, an entry at a time. -/
theorem perform_file (lib : ReportLibrary) (act : Section) (input : Input) (s : LinkerReport) :
    (perform lib act input s).1.file = s.file ∨
      ∃ fetchedOps totals, act = .report fetchedOps ∧ fetchedOps.lookup input.pick = some totals ∧
        (perform lib act input s).1.file = s.file ++
          [.fetchedOps (reportEntry lib s.agentPubkeyStr input.timestamp input.pick totals)] := by
  cases act with
  | fetchedOp cmd =>
    simp only [perform]
    split <;> exact .inl rfl
  | lock =>
    simp only [perform]
    split <;> exact .inl rfl
  | receive fetchedOps =>
    simp only [perform]
    split <;> exact .inl rfl
  | report fetchedOps =>
    simp only [perform]
    split
    next => exact .inl rfl
    next totals found => exact .inr ⟨fetchedOps, totals, rfl, found, rfl⟩

theorem perform_single (lib : ReportLibrary) (act : Section) (input : Input) (s : LinkerReport) :
    (perform lib act input s).2.length ≤ 1 := by
  have one (fetchedOps : FetchedOps) : (reporting fetchedOps).length ≤ 1 := by
    unfold reporting
    split <;> simp
  cases act with
  | fetchedOp cmd => simp [perform]
  | lock =>
    simp only [perform]
    split <;> simp
  | receive fetchedOps =>
    simp only [perform]
    split
    · simp
    · exact one fetchedOps
  | report fetchedOps =>
    simp only [perform]
    split
    · simp
    · exact one _

/-- No space is in the map with no op. -/
def Positive (act : Section) : Prop :=
  ∀ space totals, act.fetchedOps.lookup space = some totals → 0 < totals.1

theorem Positive.follows {s : LinkerReport} {new : Section} (positive : Positive act)
    (fits : ∀ space, Quantity.opCount.held space act + Quantity.opCount.sum space s.cmds < 2 ^ 64)
    (follows : Follows lib input s act new) : Positive new := by
  cases follows with
  | waits => exact positive
  | locked =>
    intro space totals found
    cases found
  | received fetchedOps cmd cmds waiting =>
    intro space totals found
    simp only [Section.fetchedOps, FetchedOps.add, lookup_insert_eq] at found
    split at found
    next here =>
      cases found
      have bound := fits cmd.spaceId
      rw [waiting, sum_cons, if_pos rfl, held_receive] at bound
      simp only [Quantity.ofTotals, Quantity.ofCmd] at bound
      dsimp only
      rw [Nat.mod_eq_of_lt (by omega)]
      omega
    next => exact positive space totals found
  | drained fetchedOps => exact positive
  | retries fetchedOps absent => exact positive
  | wrote fetchedOps =>
    intro space totals found
    rw [Section.fetchedOps, lookup_erase_eq] at found
    split at found
    · cases found
    · exact positive space totals found

/-- For every space what was accepted is in the channel, with a run, or in the file. -/
structure Ledger (lib : ReportLibrary) (past : List Instant) (p : Running) : Prop where
  balanced : ∀ quantity space, ∃ n, p.Weighs (Quantity.held quantity space) n ∧
    quantity.sum space (accepted past) =
      quantity.sum space p.shared.cmds + n + quantity.written lib space p.shared.file
  positive : ∀ t, ∀ act ∈ p.tasks t, Positive act
  counted : ∀ entry, .fetchedOps entry ∈ p.shared.file → 0 < Quantity.opCount.ofEntry entry

theorem ledger_start (agentPubkeyStr : String) : Ledger lib [] (.start (.create agentPubkeyStr)) where
  balanced quantity space := ⟨0, weighs_start _, rfl⟩
  positive t act member := nomatch member
  counted entry member := by cases List.mem_singleton.mp member

theorem ledger_call (t : Nat) (request : Request) (idle : p.tasks t = []) (inv : Ledger lib past p) :
    Ledger lib past ⟨p.shared, Function.update p.tasks t (Request.body t request)⟩ where
  balanced quantity space := by
    obtain ⟨n, weighs, balance⟩ := inv.balanced quantity space
    refine ⟨n, ?_, balance⟩
    have after := weighs.call idle (Request.body t request)
    have none : weighAll (quantity.held space) (Request.body t request) = 0 := by
      cases request <;> simp [Request.body, weighAll]
    rwa [none, Nat.zero_add] at after
  positive u act member := by
    rcases mem_of_call member with ⟨rfl, first⟩ | old
    · intro space totals found
      cases request <;> cases List.mem_singleton.mp first <;> cases found
    · exact inv.positive u act old
  counted := inv.counted

theorem accepted_snoc (past : List Instant) (m : Instant) :
    accepted (past ++ [m]) = accepted past ++ (acceptedCmd m).toList := by
  rw [accepted, List.filterMap_append]
  cases found : acceptedCmd m <;> simp [accepted, found]

theorem Ledger.fits (inv : Ledger lib past p) (fits : Fits past) (running : p.tasks t = act :: rest)
    (quantity : Quantity) (space : SpaceId) :
    quantity.held space act + quantity.sum space p.shared.cmds < 2 ^ 64 := by
  obtain ⟨n, weighs, balance⟩ := inv.balanced quantity space
  obtain ⟨m, rfl, _⟩ := weighs.turn running
  have bound := (sum_le quantity space (accepted past)).trans_lt (fits quantity)
  omega

theorem ledger_turn (distinct : Function.Injective lib.spaceToStr) (t : Nat) (input : Input)
    (act : Section) (rest : List Section) (p : Running) (running : p.tasks t = act :: rest)
    (fits : Fits past) (inv : Ledger lib past p) :
    Ledger lib (past ++ [⟨p, t, act, input⟩]) ⟨(perform lib act input p.shared).1,
      Function.update p.tasks t ((perform lib act input p.shared).2 ++ rest)⟩ := by
  have head : act ∈ p.tasks t := by simp [running]
  refine ⟨?balanced, ?positive, ?counted⟩
  case balanced =>
    intro quantity space
    obtain ⟨n, weighs, balance⟩ := inv.balanced quantity space
    obtain ⟨m, rfl, after⟩ := weighs.turn running
    refine ⟨_, after _ _, ?_⟩
    have step := perform_balance distinct quantity space p t act input
      (inv.fits fits running quantity space)
    rw [accepted_snoc, sum_append, balance]
    dsimp only
    omega
  case positive =>
    intro u new member
    rcases mem_of_turn running member with ⟨rfl, pushed⟩ | old
    · exact (inv.positive u act head).follows (inv.fits fits running .opCount)
        (perform_follows act input pushed)
    · exact inv.positive u new old
  case counted =>
    intro entry member
    rcases perform_file lib act input p.shared with same | ⟨fetchedOps, totals, rfl, found, wrote⟩
    · exact inv.counted entry (same ▸ member)
    · change _ ∈ (perform lib (.report fetchedOps) input p.shared).1.file at member
      rw [wrote] at member
      rcases List.mem_append.mp member with old | new
      · exact inv.counted entry old
      · cases List.mem_singleton.mp new
        rw [ofEntry_reportEntry]
        exact inv.positive t _ head input.pick totals found

theorem ledger_execute (distinct : Function.Injective lib.spaceToStr) (agentPubkeyStr : String)
    (schedule : List (Event Nat Request Input))
    (fits : Fits ((program lib).moments schedule (.start (.create agentPubkeyStr)))) :
    Ledger lib ((program lib).moments schedule (.start (.create agentPubkeyStr)))
      ((program lib).execute schedule (.start (.create agentPubkeyStr))) := by
  refine execute_moments (fun past p => Fits past → Ledger lib past p) (fun _ _ _ _ => True) ?_ ?_
    schedule [] _ (guarded_trivial schedule _) (fun _ => ledger_start agentPubkeyStr) fits
  · intro past t request p idle inv fits
    exact ledger_call t request idle (inv fits)
  · intro past t input act rest p running _ inv fits
    have earlier : Fits past := by
      intro quantity
      have bound := fits quantity
      rw [accepted_snoc, List.map_append, List.sum_append] at bound
      omega
    exact ledger_turn distinct t input act rest p running earlier (inv earlier)

theorem Writes.report (distinct : Function.Injective lib.spaceToStr) {m : Instant}
    (writes : Writes lib t space m) : ∃ fetchedOps totals, m.act = .report fetchedOps ∧
      m.input.pick = space ∧ fetchedOps.lookup space = some totals := by
  obtain ⟨_, entry, named, grown⟩ := writes
  rcases perform_file lib m.act m.input m.pool.shared with same | ⟨fetchedOps, totals, act, found, wrote⟩
  · rw [same] at grown
    simp at grown
  · rw [wrote, List.append_cancel_left_eq] at grown
    cases grown
    obtain rfl : m.input.pick = space := distinct named
    exact ⟨fetchedOps, totals, act, rfl, found⟩

/-- A run has the spaces before it that it has not written for. -/
structure RunsOnce (lib : ReportLibrary) (past : List Instant) (p : Running) : Prop where
  single : ∀ t, (p.tasks t).length ≤ 1
  done : ∀ t space, Reported lib t space past → ∀ act ∈ p.tasks t,
    act.fetchedOps.lookup space = none ∧ ∀ fetchedOps, act ≠ .receive fetchedOps
  once : Always (fun before m => ∀ t space, Writes lib t space m → ¬Reported lib t space before) past

theorem runsOnce_start (s : LinkerReport) : RunsOnce lib [] (.start s) where
  single _ := Nat.zero_le 1
  done _ _ reported := absurd reported not_since_nil
  once := always_nil

theorem runsOnce_call (t : Nat) (request : Request) (inv : RunsOnce lib past p) :
    RunsOnce lib past ⟨p.shared, Function.update p.tasks t (Request.body t request)⟩ where
  single u := by
    by_cases same : u = t
    · subst same
      cases request <;> simp [Request.body]
    · simpa [same] using inv.single u
  done u space reported act member := by
    rcases mem_of_call member with ⟨rfl, first⟩ | old
    · cases request <;> cases List.mem_singleton.mp first <;> exact ⟨rfl, by simp⟩
    · exact inv.done u space reported act old
  once := inv.once

theorem runsOnce_turn (distinct : Function.Injective lib.spaceToStr) (t : Nat) (input : Input)
    (act : Section) (rest : List Section) (p : Running) (running : p.tasks t = act :: rest)
    (inv : RunsOnce lib past p) :
    RunsOnce lib (past ++ [⟨p, t, act, input⟩]) ⟨(perform lib act input p.shared).1,
      Function.update p.tasks t ((perform lib act input p.shared).2 ++ rest)⟩ := by
  have head : act ∈ p.tasks t := by simp [running]
  have alone : rest = [] := by
    have short := inv.single t
    rw [running] at short
    simpa using short
  refine ⟨?single, ?done, ?once⟩
  case single =>
    intro u
    by_cases here : u = t
    · subst here
      simpa [alone] using perform_single lib act input p.shared
    · simpa [here] using inv.single u
  case done =>
    intro u space reported new member
    by_cases here : u = t
    · subst here
      simp only [Function.update_self, alone, List.append_nil] at member
      have follows := perform_follows act input member
      rcases since_snoc.mp reported with now | ⟨before, goesOn⟩
      · obtain ⟨fetchedOps, totals, same, picked, found⟩ := now.report distinct
        cases same
        cases picked
        cases follows with
        | retries fetchedOps absent => cases absent.symm.trans found
        | wrote fetchedOps => exact ⟨Finmap.lookup_erase _ _, by simp⟩
      · obtain ⟨absent, later⟩ := inv.done u space before act head
        cases follows with
        | waits => exact absurd ⟨rfl, rfl⟩ goesOn
        | locked => exact absurd ⟨rfl, rfl⟩ goesOn
        | received fetchedOps cmd cmds waiting => exact absurd rfl (later fetchedOps)
        | drained fetchedOps => exact absurd rfl (later fetchedOps)
        | retries fetchedOps missing => exact ⟨absent, later⟩
        | wrote fetchedOps =>
          refine ⟨?_, by simp⟩
          rw [Section.fetchedOps, lookup_erase_eq]
          split
          · rfl
          · exact absent
    · have held : new ∈ p.tasks u := by simpa [here] using member
      rcases since_snoc.mp reported with now | ⟨before, _⟩
      · exact absurd now.1.symm here
      · exact inv.done u space before new held
  case once =>
    refine inv.once.snoc fun u space writes reported => ?_
    obtain rfl : t = u := writes.1
    obtain ⟨fetchedOps, totals, same, _, found⟩ := writes.report distinct
    obtain rfl : act = .report fetchedOps := same
    cases (inv.done t space reported _ head).1.symm.trans found

theorem runsOnce_execute (distinct : Function.Injective lib.spaceToStr) (agentPubkeyStr : String)
    (schedule : List (Event Nat Request Input)) :
    RunsOnce lib ((program lib).moments schedule (.start (.create agentPubkeyStr)))
      ((program lib).execute schedule (.start (.create agentPubkeyStr))) :=
  execute_moments (RunsOnce lib) (fun _ _ _ _ => True)
    (fun _ t request _ _ inv => runsOnce_call t request inv)
    (fun _ t input act rest p running _ inv => runsOnce_turn distinct t input act rest p running inv)
    schedule [] _ (guarded_trivial schedule _) (runsOnce_start _)

/-- In every run of notifications and reports whose totals fit in 64 bits: with no report under way
the file and the channel account for every accepted op. -/
theorem reports_conserve (lib : ReportLibrary) (distinct : Function.Injective lib.spaceToStr)
    (agentPubkeyStr : String) (schedule : List (Event Nat Request Input))
    (fits : Fits ((program lib).moments schedule (.start (.create agentPubkeyStr)))) :
    Conserves lib ((program lib).moments schedule (.start (.create agentPubkeyStr)))
      ((program lib).execute schedule (.start (.create agentPubkeyStr))) := by
  have ledger := ledger_execute distinct agentPubkeyStr schedule fits
  refine ⟨?_, (runsOnce_execute distinct agentPubkeyStr schedule).once, ledger.counted⟩
  intro idle quantity space
  obtain ⟨n, weighs, balance⟩ := ledger.balanced quantity space
  have nothing : n = 0 := by
    apply weighs.eq_zero
    intro t act member
    cases act with
    | fetchedOp cmd => exact held_fetchedOp quantity space cmd
    | lock => exact held_lock quantity space
    | receive fetchedOps => exact absurd ⟨t, _, member, trivial⟩ idle
    | report fetchedOps => exact absurd ⟨t, _, member, trivial⟩ idle
  omega

def spaceA : SpaceId := ⟨[0, 0, 0]⟩

def spaceB : SpaceId := ⟨[1, 1, 1]⟩

/-- The base64 of the two spaces; any other gets a text of its own. -/
def sampleSpaceToStr (space : SpaceId) : String :=
  if space = spaceA then "AAAA"
  else if space = spaceB then "AQEB"
  else .ofList ('!' :: space.raw.map fun byte => Char.ofNat byte.toNat)

theorem byteChar_injective : Function.Injective fun byte : UInt8 => Char.ofNat byte.toNat := by
  have read (byte : UInt8) : (Char.ofNat byte.toNat).toNat = byte.toNat := by
    have small := byte.toNat_lt
    rw [Char.ofNat, dif_pos (Or.inl (by omega))]
    rfl
  intro a b same
  exact UInt8.toNat_inj.mp ((read a).symm.trans ((congrArg Char.toNat same).trans (read b)))

theorem sampleSpaceToStr_injective : Function.Injective sampleSpaceToStr := by
  intro a b same
  have texts := congrArg String.toList same
  unfold sampleSpaceToStr at texts
  split_ifs at texts with a1 b1 b2 a2 b1 b2 b1 b2
  · exact a1.trans b1.symm
  · exact absurd texts (by decide)
  · simp at texts
  · exact absurd texts (by decide)
  · exact a2.trans b2.symm
  · simp at texts
  · simp at texts
  · simp at texts
  · obtain ⟨a⟩ := a
    obtain ⟨b⟩ := b
    simp only [String.toList_ofList, List.cons.injEq, true_and] at texts
    rw [byteChar_injective.list_map texts]

def sampleReportLibrary : ReportLibrary where
  spaceToStr := sampleSpaceToStr
  encodeForVerification entry := entry.opCount.toUTF8.toList
  sign bytes := .ofList (bytes.map fun byte => Char.ofNat byte.toNat)

/-- Ops come in before a report, while it drains the channel, and after it has. -/
def reportWhileFetching : List (Event Nat Request Input) := [
  .call 0 (.fetchedOp ⟨spaceA, 100⟩), .turn 0 ⟨"1", spaceA⟩,
  .call 1 .processReports, .turn 1 ⟨"2", spaceA⟩, .turn 1 ⟨"3", spaceA⟩,
  .call 0 (.fetchedOp ⟨spaceB, 250⟩), .turn 0 ⟨"4", spaceA⟩, .call 0 (.fetchedOp ⟨spaceA, 200⟩),
  .turn 1 ⟨"5", spaceA⟩, .turn 1 ⟨"6", spaceA⟩, .turn 0 ⟨"7", spaceA⟩,
  .turn 1 ⟨"8", spaceB⟩, .turn 1 ⟨"9", spaceA⟩]

theorem reports_conserve_reportWhileFetching :
    let p := (program sampleReportLibrary).execute reportWhileFetching (.start (.create "uhCAk"))
    Quantity.written .totalBytes sampleReportLibrary spaceA p.shared.file +
      Quantity.sum .totalBytes spaceA p.shared.cmds = 300 := by
  have fits : Fits ((program sampleReportLibrary).moments reportWhileFetching
      (.start (.create "uhCAk"))) := by
    intro quantity
    cases quantity <;> decide
  have quiet : ((program sampleReportLibrary).execute reportWhileFetching
      (.start (.create "uhCAk"))).Quiescent :=
    quiescent_execute_start _ _ (by decide)
  exact (reports_conserve sampleReportLibrary sampleSpaceToStr_injective "uhCAk" reportWhileFetching
    fits).totals (quiet.not_pending _) .totalBytes spaceA

end H2hcLinker.Reports
