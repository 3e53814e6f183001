import H2hcLinker.Noninterference
import H2hcLinker.Publish

/-! What the publish requests for other DNAs can change in a space's op store. All spaces share one
table, so an op is there for every space; an id is left alone as long as the others do not store it. -/
namespace H2hcLinker.Publish

open HashTable Interleaving

variable {codec : HashCodec} {lib : OpLibrary} {state : AppState} {dna : DnaHash} {id : OpId}

/-- The requests for the DNA, and the cleanup task. -/
def Concerns (codec : HashCodec) (dna : DnaHash) : Task → Bool
  | .request path _ =>
    match codec.dnaOfStr path with
    | .ok found => found = dna
    | .error _ => false
  | .cleaner => true

def Section.stores (id : OpId) : Section → Bool
  | .insert record _ _ _ => record.opId = id
  | _ => false

/-- The task that stored an op under the id last. -/
def lastStorer (id : OpId) (h : List (Task × Section)) : Option Task :=
  (h.reverse.find? fun entry => entry.2.stores id).map Prod.fst

theorem lastStorer_snoc (h : List (Task × Section)) (t : Task) (act : Section) :
    lastStorer id (h ++ [(t, act)]) = if act.stores id then some t else lastStorer id h := by
  unfold lastStorer
  rw [List.reverse_append, List.reverse_singleton, List.singleton_append, List.find?_cons]
  cases act.stores id <;> rfl

/-- No request for another DNA stored an op under the id, or one for the DNA did since. -/
def Own (codec : HashCodec) (dna : DnaHash) (id : OpId) (h : List (Task × Section)) : Prop :=
  ∀ t ∈ lastStorer id h, Concerns codec dna t = true

instance (h : List (Task × Section)) : Decidable (Own codec dna id h) :=
  inferInstanceAs (Decidable (∀ t ∈ lastStorer id h, Concerns codec dna t = true))

/-- The tables agree on the ids that are the DNA's own. -/
def AgreeOnOwn (codec : HashCodec) (dna : DnaHash) (h : List (Task × Section))
    (left right : TempOpStoreInner) : Prop :=
  ∀ id, Own codec dna id h → left.ops.lookup id = right.ops.lookup id

/-- The sections that a task may hold. -/
def Holds : Task → Section → Prop
  | .request _ _, .cleanup => False
  | .request _ _, _ => True
  | .cleaner, .cleanup => True
  | .cleaner, _ => False

theorem holds_nextOp (path : String) (n : Nat) (ops : List SignedDhtOp) (acc : Progress) :
    Holds (.request path n) (nextOp ops acc) := by
  cases ops <;> trivial

theorem body_holds (t : Task) (request : Request) :
    ∀ act ∈ Request.body codec t request, Holds t act := by
  intro act member
  rcases mem_body member with ⟨path, n, rfl, ⟨e, rfl⟩ | ⟨ops, rfl⟩⟩ | ⟨rfl, rfl⟩
  · trivial
  · exact holds_nextOp path n ops .start
  · trivial

theorem perform_holds (t : Task) (act : Section) (input : Input) (inner : TempOpStoreInner)
    (holds : Holds t act) : ∀ new ∈ (perform lib state act input inner).2, Holds t new := by
  intro new member
  cases t with
  | request path n =>
    cases perform_follows member with
    | refused signedOp later acc e => exact holds_nextOp path n later _
    | processed signedOp later acc record op => trivial
    | stored record op later acc => exact holds_nextOp path n later _
    | published acc => trivial
  | cleaner => cases perform_follows member <;> cases holds

/-- Storing an op by another request gives its id away; storing one by an own request takes it. -/
theorem own_snoc {h : List (Task × Section)} {t : Task} {act : Section} :
    Own codec dna id (h ++ [(t, act)]) ↔
      if act.stores id then Concerns codec dna t = true else Own codec dna id h := by
  unfold Own
  rw [lastStorer_snoc]
  split
  · simp
  · rfl

theorem agreeOnOwn_unwinds (codec : HashCodec) (lib : OpLibrary) (state : AppState) (dna : DnaHash) :
    Unwinds (program codec lib state) (Concerns codec dna) Holds (AgreeOnOwn codec dna) where
  call := body_holds
  turn := perform_holds
  seen h t act input left right concerns holds agree := by
    cases act with
    | insert record processed later acc =>
      refine ⟨rfl, ?_⟩
      intro id own
      change (left.insert record).ops.lookup id = (right.insert record).ops.lookup id
      rw [lookup_insert, lookup_insert]
      split
      · rfl
      next other =>
        rw [own_snoc] at own
        have elsewhere : ¬record.opId = id := fun same => other same.symm
        simp only [Section.stores, elsewhere, decide_false, Bool.false_eq_true, if_false] at own
        exact agree id own
    | cleanup =>
      refine ⟨rfl, ?_⟩
      intro id own
      change (left.cleanupExpired input.now).ops.lookup id = (right.cleanupExpired input.now).ops.lookup id
      rw [lookup_cleanupExpired, lookup_cleanupExpired, agree id (own_snoc.mp own)]
    | _ => exact ⟨rfl, fun id own => agree id (own_snoc.mp own)⟩
  hidden h t act input left right hides holds agree := by
    cases act with
    | insert record processed later acc =>
      intro id own
      rw [own_snoc] at own
      change (left.insert record).ops.lookup id = right.ops.lookup id
      rw [lookup_insert]
      split
      next same =>
        subst same
        simp [Section.stores, hides] at own
      next other =>
        have elsewhere : ¬record.opId = id := fun same => other same.symm
        simp only [Section.stores, elsewhere, decide_false, Bool.false_eq_true, if_false] at own
        exact agree id own
    | cleanup =>
      cases t with
      | request path n => cases holds
      | cleaner => cases hides
    | _ => exact fun id own => agree id (own_snoc.mp own)

/-- Two runs that differ in the requests for other DNAs only: the store of the DNA's space answers the
same about every id that is the DNA's own in both. -/
theorem published_ops_isolated (codec : HashCodec) (lib : OpLibrary) (state : AppState) (dna : DnaHash)
    (left right : List (Event Task Request Input))
    (agree : visibleEvents (Concerns codec dna) left = visibleEvents (Concerns codec dna) right)
    (opIds : List OpId)
    (own : ∀ id ∈ opIds, Own codec dna id ((program codec lib state).history left (.start .default)) ∧
      Own codec dna id ((program codec lib state).history right (.start .default))) :
    let inner := ((program codec lib state).execute left (.start .default)).shared
    let inner' := ((program codec lib state).execute right (.start .default)).shared
    (createStore dna).retrieveOps opIds inner = (createStore dna).retrieveOps opIds inner' ∧
      (createStore dna).filterOutExistingOps opIds inner =
        (createStore dna).filterOutExistingOps opIds inner' := by
  obtain ⟨alone, here, there⟩ := related_runs (agreeOnOwn_unwinds codec lib state dna) agree
    (s := .default) fun _ _ => rfl
  have same : ∀ id ∈ opIds,
      ((program codec lib state).execute left (.start .default)).shared.ops.lookup id =
        ((program codec lib state).execute right (.start .default)).shared.ops.lookup id := by
    intro id member
    rw [here id (own id member).1, there id (own id member).2]
  exact ⟨TempOpStore.retrieveOps_congr _ same, TempOpStore.filterOutExistingOps_congr _ same⟩

def otherDna : DnaHash := ⟨[132, 45, 36] ++ List.replicate 32 2 ++ [32, 73, 61, 253]⟩

def otherDnaText : String := "uhC0kAgICAgICAgICAgICAgICAgICAgICAgICAgICAgICAgICAgIgST39"

/-- Reads two DNAs. -/
def twoDnaCodec : HashCodec where
  dnaOfStr text :=
    if text = sampleDnaText then .ok sampleDna
    else if text = otherDnaText then .ok otherDna
    else .error "BadPrefix"
  agentOfStr := sampleCodec.agentOfStr
  agentOfRaw39 := sampleCodec.agentOfRaw39
  dnaToStr dna := if dna = otherDna then otherDnaText else sampleDnaText
  agentToStr := sampleCodec.agentToStr

/-- Ops of one byte; every signature reads as 64 zeros. -/
def byteOps : OpLibrary where
  base64Decode text :=
    if text = "AQ==" then .ok [1] else if text = "Ag==" then .ok [2] else .ok (List.replicate 64 0)
  externDecode bytes := .ok (.chainOp 0 bytes)
  decode bytes := .ok (.chainOp 0 bytes)
  opId
    | .chainOp _ encoded | .warrantOp _ encoded => ⟨encoded⟩
  basisLoc _ := 0

/-- A request that publishes one op, at the given time, with no peers around. -/
def publishes (path opData : String) (n now : Nat) : List (Event Task Request Input) :=
  .call (.request path n) (.publish [⟨opData, ""⟩]) ::
    List.replicate 4 (.turn (.request path n) ⟨now, fun _ _ => .ok 0⟩)

/-- The op of the own request is there whether or not the other DNA has one. -/
theorem published_ops_isolated_otherPublishes :
    let left := publishes sampleDnaText "AQ==" 0 0
    let right := publishes sampleDnaText "AQ==" 0 0 ++ publishes otherDnaText "Ag==" 1 5
    (createStore sampleDna).retrieveOps [⟨[1]⟩]
        ((program twoDnaCodec byteOps ⟨true, true⟩).execute left (.start .default)).shared =
      (createStore sampleDna).retrieveOps [⟨[1]⟩]
        ((program twoDnaCodec byteOps ⟨true, true⟩).execute right (.start .default)).shared :=
  (published_ops_isolated twoDnaCodec byteOps ⟨true, true⟩ sampleDna _ _ (by rfl) [⟨[1]⟩]
    (by decide +kernel)).1

/-- Another DNA publishes an op, and the space serves it. -/
theorem published_ops_shared :
    ¬∀ (codec : HashCodec) (lib : OpLibrary) (state : AppState) (dna : DnaHash)
      (left right : List (Event Task Request Input)),
      visibleEvents (Concerns codec dna) left = visibleEvents (Concerns codec dna) right →
      ∀ opIds, (createStore dna).retrieveOps opIds
          ((program codec lib state).execute left (.start .default)).shared =
        (createStore dna).retrieveOps opIds
          ((program codec lib state).execute right (.start .default)).shared := by
  intro always
  have same := always twoDnaCodec byteOps ⟨true, true⟩ sampleDna [] (publishes otherDnaText "Ag==" 0 0)
    (by rfl) [⟨[2]⟩]
  exact absurd same (by decide +kernel)

end H2hcLinker.Publish
