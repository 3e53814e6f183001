import H2hcLinker.Config
import H2hcLinker.Observation

/-! The linker's key over its starts. The key file is not replaced in one step, a start can be cut off
in any call of the system, and a file whose metadata cannot be read counts as missing. -/
namespace H2hcLinker.Identity

open Config Observation

/-- A key by its seed, which `to_bytes` gives back. -/
@[ext] structure SigningKey where
  seed : List UInt8
  length : seed.length = 32
  deriving DecidableEq

structure KeyFile where
  bytes : List UInt8
  mode : Nat
  deriving DecidableEq

/-- How a call of the system ends. One that is stopped without an error is where the process was
killed. -/
inductive Call where
  | done
  | stopped (error : Option String)
  deriving DecidableEq

/-- How `std::fs::write` ends: to open the file creates it or empties it. -/
inductive Writing where
  | done
  | unopened (error : Option String)
  | cut (written : Nat) (error : Option String)
  deriving DecidableEq

/-- What one start meets. A call that the start does not make is `done`. -/
structure Start where
  metadata : Bool
  read : Call
  createDirAll : Call
  write : Writing
  setPermissions : Call
  /-- The mode of a file that is created. -/
  createdMode : Nat
  /-- What `rand::random` returns. -/
  secret : SigningKey

def toKey (bytes : List UInt8) (wrongLength : Nat → String) : Except String SigningKey :=
  if length : bytes.length = 32 then .ok ⟨bytes, length⟩ else .error (wrongLength bytes.length)

/-- No ending: the process was killed. -/
def loadFromFile (path : String) (read : Call) (file : KeyFile) :
    Option (Except String SigningKey) :=
  match read with
  | .stopped error => error.map fun e => .error ("Failed to read key file " ++ path ++ ": " ++ e)
  | .done => some (toKey file.bytes fun n =>
      "Key file " ++ path ++ " must contain exactly 32 bytes, got " ++ toString n)

def Start.openedMode (start : Start) (disk : Option KeyFile) : Nat :=
  match disk with
  | some file => file.mode
  | none => start.createdMode

def writeToFile (path : String) (start : Start) (key : SigningKey) (disk : Option KeyFile) :
    Option KeyFile × Option (Except String Unit) :=
  match start.createDirAll with
  | .stopped error => (disk, error.map fun e =>
      .error ("Failed to create directory for key file " ++ path ++ ": " ++ e))
  | .done =>
    match start.write with
    | .unopened error =>
      (disk, error.map fun e => .error ("Failed to write key file " ++ path ++ ": " ++ e))
    | .cut written error => (some ⟨key.seed.take written, start.openedMode disk⟩,
        error.map fun e => .error ("Failed to write key file " ++ path ++ ": " ++ e))
    | .done =>
      match start.setPermissions with
      | .stopped error => (some ⟨key.seed, start.openedMode disk⟩,
          error.map fun e => .error ("Failed to set permissions on " ++ path ++ ": " ++ e))
      | .done => (some ⟨key.seed, 0o600⟩, some (.ok ()))

/-- The file that `exists` and the reader see. -/
def Start.visible (start : Start) (disk : Option KeyFile) : Option KeyFile :=
  if start.metadata then disk else none

/-- `LinkerIdentity::load`; `decode` is the standard base64. -/
def load (decode : String → Except String (List UInt8)) (config : IdentityConfig) (start : Start)
    (disk : Option KeyFile) : Option KeyFile × Option (Except String SigningKey) :=
  match config.privateKeyBase64 with
  | some text =>
    match decode text with
    | .error e => (disk, some (.error ("H2HC_LINKER_PRIVATE_KEY is not valid base64: " ++ e)))
    | .ok bytes => (disk, some (toKey bytes fun n =>
        "H2HC_LINKER_PRIVATE_KEY must decode to 32 bytes, got " ++ toString n))
  | none =>
    match start.visible disk with
    | some file => (disk, loadFromFile config.keyFile start.read file)
    | none =>
      let written := writeToFile config.keyFile start start.secret disk
      (written.1, written.2.map fun ended => ended.map fun _ => start.secret)

def starting (decode : String → Except String (List UInt8)) (config : IdentityConfig) :
    Machine Start (Option (Except String SigningKey)) (Option KeyFile) where
  step start disk := (load decode config start disk).swap

/-- How many bytes of its own key the start writes, if it opens the file. -/
def Start.fills (start : Start) : Option Nat :=
  match start.createDirAll, start.write with
  | .stopped _, _ | .done, .unopened _ => none
  | .done, .cut written _ => some written
  | .done, .done => some 32

def Start.Completes (start : Start) : Prop :=
  start.createDirAll = .done ∧ start.write = .done ∧ start.setPermissions = .done

def Start.Overwrites (start : Start) : Prop :=
  start.metadata = false ∧ start.fills.isSome

variable {decode : String → Except String (List UInt8)} {config : IdentityConfig} {start : Start}
  {disk : Option KeyFile} {key : SigningKey}

theorem toKey_eq_ok_iff {bytes : List UInt8} {wrongLength : Nat → String} :
    toKey bytes wrongLength = .ok key ↔ bytes = key.seed := by
  unfold toKey
  split
  next length =>
    rw [Except.ok.injEq]
    constructor
    · rintro rfl
      rfl
    · rintro rfl
      rfl
  next other =>
    constructor
    · intro failed
      cases failed
    · rintro rfl
      exact absurd key.length other

theorem take_eq_seed_iff {secret : SigningKey} {written : Nat} :
    secret.seed.take written = key.seed ↔ 32 ≤ written ∧ secret = key := by
  constructor
  · intro same
    have length := congrArg List.length same
    rw [List.length_take, secret.length, key.length] at length
    have all : 32 ≤ written := by omega
    rw [List.take_of_length_le (by rw [secret.length]; exact all)] at same
    exact ⟨all, SigningKey.ext same⟩
  · rintro ⟨all, rfl⟩
    exact List.take_of_length_le (by rw [secret.length]; exact all)

theorem writeToFile_bytes (path : String) (start : Start) (disk : Option KeyFile) :
    (writeToFile path start start.secret disk).1.map KeyFile.bytes =
      match start.fills with
      | none => disk.map KeyFile.bytes
      | some written => some (start.secret.seed.take written) := by
  have whole : start.secret.seed.take 32 = start.secret.seed :=
    List.take_of_length_le (by rw [start.secret.length])
  unfold writeToFile Start.fills
  cases start.createDirAll with
  | stopped error => rfl
  | done =>
    cases start.write with
    | unopened error => rfl
    | cut written error => rfl
    | done => cases start.setPermissions <;> simp [whole]

theorem writeToFile_completes (path : String) (start : Start) (disk : Option KeyFile) :
    (writeToFile path start start.secret disk).2 = some (.ok ()) ↔ start.Completes := by
  unfold writeToFile Start.Completes
  cases start.createDirAll with
  | stopped error => cases error <;> simp
  | done =>
    cases start.write with
    | unopened error => cases error <;> simp
    | cut written error => cases error <;> simp
    | done =>
      cases start.setPermissions with
      | stopped error => cases error <;> simp
      | done => simp

def Creates (config : IdentityConfig) (start : Start) (disk : Option KeyFile) (bytes : List UInt8) :
    Prop :=
  config.privateKeyBase64 = none ∧ start.visible disk = none ∧
    ∃ written, start.fills = some written ∧ start.secret.seed.take written = bytes

theorem load_bytes_kept (bytes : List UInt8) (stays : (load decode config start disk).1 = disk)
    (none : ¬Creates config start disk bytes)
    (spares : ¬(config.privateKeyBase64 = .none ∧ start.Overwrites ∧ disk.isSome)) :
    (load decode config start disk).1.map KeyFile.bytes = some bytes ↔
      Creates config start disk bytes ∨ ∃ old, disk.map KeyFile.bytes = some old ∧
        ¬(config.privateKeyBase64 = .none ∧ start.Overwrites) ∧ old = bytes := by
  rw [stays]
  constructor
  · intro there
    refine .inr ⟨bytes, there, ?_, rfl⟩
    rintro ⟨unset, overwrites⟩
    have present : disk.isSome := by
      cases disk with
      | none => cases there
      | some file => rfl
    exact spares ⟨unset, overwrites, present⟩
  · rintro (created | ⟨old, there, _, rfl⟩)
    · exact absurd created none
    · exact there

theorem load_bytes_iff (bytes : List UInt8) :
    (load decode config start disk).1.map KeyFile.bytes = some bytes ↔
      Creates config start disk bytes ∨ ∃ old, disk.map KeyFile.bytes = some old ∧
        ¬(config.privateKeyBase64 = none ∧ start.Overwrites) ∧ old = bytes := by
  rcases Option.eq_none_or_eq_some config.privateKeyBase64 with set | ⟨text, set⟩
  · rcases Option.eq_none_or_eq_some (start.visible disk) with seen | ⟨file, seen⟩
    · have after : (load decode config start disk).1.map KeyFile.bytes =
          match start.fills with
          | .none => disk.map KeyFile.bytes
          | .some written => some (start.secret.seed.take written) := by
        simp only [load, set, seen]
        exact writeToFile_bytes ..
      rw [after]
      rcases Option.eq_none_or_eq_some start.fills with fills | ⟨written, fills⟩
      · simp [Creates, Start.Overwrites, fills]
      · simp only [fills]
        constructor
        · intro same
          exact .inl ⟨set, seen, written, fills, Option.some.inj same⟩
        · rintro (⟨_, _, written', fills', same⟩ | ⟨old, there, spares, rfl⟩)
          · cases fills.symm.trans fills'
            rw [same]
          · -- A file that is not seen is there only if its metadata cannot be read.
            cases hidden : start.metadata with
            | false => exact absurd ⟨set, hidden, by simp [fills]⟩ spares
            | true =>
              rw [Start.visible, if_pos hidden] at seen
              simp [seen] at there
    · refine load_bytes_kept bytes ?_ (fun created => by cases seen.symm.trans created.2.1) ?_
      · simp only [load, set, seen]
      · rintro ⟨_, ⟨hidden, _⟩, _⟩
        simp [Start.visible, hidden] at seen
  · refine load_bytes_kept bytes ?_ (fun created => by cases set.symm.trans created.1) (by simp [set])
    simp only [load, set]
    split <;> rfl

/-- The start leaves all of this key in the file, whether or not it gets through. -/
def Start.Fills (start : Start) (key : SigningKey) : Prop :=
  ∃ written, start.fills = some written ∧ 32 ≤ written ∧ start.secret = key

theorem Start.Completes.fills (completes : start.Completes) : start.Fills start.secret := by
  obtain ⟨directory, wrote, _⟩ := completes
  exact ⟨32, by simp [Start.fills, directory, wrote], Nat.le_refl _, rfl⟩

theorem load_eq_ok_iff : (load decode config start disk).2 = some (.ok key) ↔
    match config.privateKeyBase64 with
    | some text => decode text = .ok key.seed
    | none =>
      start.metadata = true ∧ start.read = .done ∧ disk.map KeyFile.bytes = some key.seed ∨
        start.visible disk = none ∧ start.Completes ∧ start.secret = key := by
  unfold load
  rcases Option.eq_none_or_eq_some config.privateKeyBase64 with set | ⟨text, set⟩
  · simp only [set]
    rcases Option.eq_none_or_eq_some (start.visible disk) with seen | ⟨file, seen⟩
    · have unseen : ¬(start.metadata = true ∧ start.read = .done ∧
          disk.map KeyFile.bytes = some key.seed) := by
        rintro ⟨visible, _, there⟩
        rw [Start.visible, if_pos visible] at seen
        simp [seen] at there
      have completes := writeToFile_completes config.keyFile start disk
      simp only [seen, unseen, false_or, true_and, ← completes]
      cases (writeToFile config.keyFile start start.secret disk).2 with
      | none => simp
      | some ended => cases ended <;> simp [Except.map]
    · have visible : start.metadata = true := by
        by_contra hidden
        simp [Start.visible, hidden] at seen
      rw [Start.visible, if_pos visible] at seen
      simp only [Start.visible, visible, seen, if_true, true_and, Option.map_some, reduceCtorEq,
        false_and, or_false, Option.some.injEq, loadFromFile]
      cases start.read with
      | done => simp [toKey_eq_ok_iff]
      | stopped error => cases error <;> simp
  · simp only [set]
    cases decode text with
    | error e => simp
    | ok bytes => simp [toKey_eq_ok_iff]

/-- The file after any starts is what one of them made, and none since has opened it unseen. -/
theorem file_after_iff (unset : config.privateKeyBase64 = none) (starts : List Start) :
    ((starting decode config).after starts none).map KeyFile.bytes = some key.seed ↔
      ∃ before maker since, starts = before ++ maker :: since ∧
        maker.visible ((starting decode config).after before none) = none ∧ maker.Fills key ∧
        ∀ later ∈ since, ¬later.Overwrites := by
  have kept (since : List Start) (first last : List UInt8) :
      Kept (fun start (_ : List UInt8) => config.privateKeyBase64 = none ∧ start.Overwrites)
        (fun _ bytes => bytes) since first last ↔
      first = last ∧ ∀ later ∈ since, ¬later.Overwrites := by
    induction since with
    | nil => simp [Kept]
    | cons start since ih =>
      rw [Kept, ih, List.forall_mem_cons]
      simp only [unset, true_and]
      exact and_left_comm
  have law (start : Start) (disk : Option KeyFile) (bytes : List UInt8) (_ : True) :
      Option.map KeyFile.bytes ((starting decode config).step start disk).2 = some bytes ↔
        Creates config start disk bytes ∨ ∃ old, Option.map KeyFile.bytes disk = some old ∧
          ¬(config.privateKeyBase64 = none ∧ start.Overwrites) ∧ old = bytes :=
    load_bytes_iff bytes
  rw [slot_after_iff (starting decode config) (fun _ _ _ => trivial) law trivial rfl starts key.seed]
  constructor
  · rintro ⟨before, maker, since, first, split, ⟨_, unseen, written, fills, same⟩, held⟩
    obtain ⟨rfl, spared⟩ := (kept since first key.seed).mp held
    obtain ⟨all, mine⟩ := take_eq_seed_iff.mp same
    exact ⟨before, maker, since, split, unseen, ⟨written, fills, all, mine⟩, spared⟩
  · rintro ⟨before, maker, since, split, unseen, ⟨written, fills, all, mine⟩, spared⟩
    have same : maker.secret.seed.take written = key.seed := take_eq_seed_iff.mpr ⟨all, mine⟩
    exact ⟨before, maker, since, key.seed, split, ⟨unset, unseen, written, fills, same⟩,
      (kept since key.seed key.seed).mpr ⟨rfl, spared⟩⟩

theorem load_holds (unset : config.privateKeyBase64 = none)
    (returned : (load decode config start disk).2 = some (.ok key)) :
    (load decode config start disk).1.map KeyFile.bytes = some key.seed := by
  rw [load_eq_ok_iff, unset] at returned
  rw [load_bytes_iff]
  rcases returned with ⟨visible, _, there⟩ | ⟨unseen, completes, rfl⟩
  · exact .inr ⟨key.seed, there, fun overwrites => (by simp [overwrites.2.1] at visible), rfl⟩
  · obtain ⟨written, fills, all, _⟩ := completes.fills
    exact .inl ⟨unset, unseen, written, fills, take_eq_seed_iff.mpr ⟨all, rfl⟩⟩

theorem after_holds (decode : String → Except String (List UInt8)) (config : IdentityConfig)
    {starts : List Start} (spared : ∀ start ∈ starts, ¬start.Overwrites) {disk : Option KeyFile}
    {bytes : List UInt8} (there : disk.map KeyFile.bytes = some bytes) :
    ((starting decode config).after starts disk).map KeyFile.bytes = some bytes := by
  induction starts generalizing disk with
  | nil => exact there
  | cons start starts ih =>
    obtain ⟨spare, spared⟩ := List.forall_mem_cons.mp spared
    exact ih spared (load_bytes_iff bytes |>.mpr
      (.inr ⟨bytes, there, fun overwrites => spare overwrites.2, rfl⟩))

theorem load_same {key' : SigningKey} (unset : config.privateKeyBase64 = none)
    (there : disk.map KeyFile.bytes = some key.seed) (spare : ¬start.Overwrites)
    (returned : (load decode config start disk).2 = some (.ok key')) : key' = key := by
  rw [load_eq_ok_iff, unset] at returned
  rcases returned with ⟨_, _, same⟩ | ⟨unseen, completes, _⟩
  · exact SigningKey.ext (Option.some.inj (same.symm.trans there))
  · obtain ⟨written, fills, _⟩ := completes.fills
    cases hidden : start.metadata with
    | false => exact absurd ⟨hidden, by simp [fills]⟩ spare
    | true =>
      rw [Start.visible, if_pos hidden] at unseen
      simp [unseen] at there

/-- A start returns the key of the variable, or of the last start that got to write the file, if all
of it got there and the file can be read; or its own, if it sees no file. So the key changes between
two starts only if one after the first could not see the file and wrote over it. -/
theorem identity_traced (decode : String → Except String (List UInt8)) (config : IdentityConfig) :
    let linker := starting decode config
    (∀ starts start key, (linker.step start (linker.after starts none)).1 = some (.ok key) ↔
      match config.privateKeyBase64 with
      | some text => decode text = .ok key.seed
      | none =>
        (start.metadata = true ∧ start.read = .done ∧
          ∃ before maker since, starts = before ++ maker :: since ∧
            maker.visible (linker.after before none) = none ∧ maker.Fills key ∧
            ∀ later ∈ since, ¬later.Overwrites) ∨
        (start.visible (linker.after starts none) = none ∧ start.Completes ∧ start.secret = key)) ∧
    ∀ before first between last key key',
      (linker.step first (linker.after before none)).1 = some (.ok key) →
      (∀ later ∈ between ++ [last], ¬later.Overwrites) →
      (linker.step last (linker.after (before ++ first :: between) none)).1 = some (.ok key') →
      key' = key := by
  refine ⟨fun starts start key => ?_, fun before first between last key key' returned spared again => ?_⟩
  · refine load_eq_ok_iff.trans ?_
    rcases Option.eq_none_or_eq_some config.privateKeyBase64 with unset | ⟨text, set⟩
    · simp only [unset, file_after_iff unset]
    · simp only [set]
  · rcases Option.eq_none_or_eq_some config.privateKeyBase64 with unset | ⟨text, set⟩
    · have held := load_holds unset returned
      rw [Machine.after_append, Machine.after] at again
      have kept := after_holds decode config
        (fun later member => spared later (List.mem_append_left _ member)) held
      exact load_same unset kept (spared last (by simp)) again
    · have one := load_eq_ok_iff.mp returned
      have two := load_eq_ok_iff.mp again
      simp only [set] at one two
      exact SigningKey.ext (Except.ok.inj (two.symm.trans one))

end H2hcLinker.Identity
