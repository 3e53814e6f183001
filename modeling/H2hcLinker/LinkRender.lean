import H2hcLinker.DhtQueries

/-! A peer's condensed links rendered with the hashes of their actions, and the endpoint that
serves them. -/
namespace H2hcLinker.Dht

structure Link where
  author : AgentPubKey
  base : AnyLinkableHash
  target : AnyLinkableHash
  timestamp : Int
  zomeIndex : UInt8
  linkType : UInt8
  tag : List UInt8
  createLinkHash : ActionHash
  deriving DecidableEq

/-- The link that an action creates, under the hash of that action. -/
def CreateLink.link (H : Hashing) (create : CreateLink) : Link where
  author := create.author
  base := create.baseAddress
  target := create.targetAddress
  timestamp := create.timestamp
  zomeIndex := create.zomeIndex
  linkType := create.linkType
  tag := create.tag
  createLinkHash := H.action (.createLink create)

/-- The full action: a tag that the wire form lacks is the query's, or empty. -/
def WireCreateLink.createLink (wire : WireCreateLink) (base : AnyLinkableHash)
    (queryTag : Option (List UInt8)) : CreateLink where
  author := wire.author
  timestamp := wire.timestamp
  actionSeq := wire.actionSeq
  prevAction := wire.prevAction
  baseAddress := base
  targetAddress := wire.targetAddress
  zomeIndex := wire.zomeIndex
  linkType := wire.linkType
  tag := (wire.tag.or queryTag).getD []
  weight := wire.weight

def renderLink (H : Hashing) (base : AnyLinkableHash) (queryTag : Option (List UInt8))
    (wire : WireCreateLink) : Link where
  author := wire.author
  base := base
  target := wire.targetAddress
  timestamp := wire.timestamp
  zomeIndex := wire.zomeIndex
  linkType := wire.linkType
  tag := (wire.tag.or queryTag).getD []
  createLinkHash := H.action (.createLink (wire.createLink base queryTag))

def wireLinkOpsToLinks (H : Hashing) (ops : WireLinkOps) (base : AnyLinkableHash)
    (queryTag : Option (List UInt8)) : List Link :=
  ops.creates.map (renderLink H base queryTag)

/-- The libraries of the links endpoint: the hash parsers with the conversions to a linkable hash,
base64, and whether `serde_json::to_value` succeeds on the links. -/
structure LinkLibraries extends LocationCodec where
  externalOfStr : String → Except String AnyLinkableHash
  linkableOfAgent : AgentPubKey → AnyLinkableHash
  linkableOfEntry : EntryHash → AnyLinkableHash
  linkableOfAction : ActionHash → AnyLinkableHash
  base64Decode : String → Option (List UInt8)
  serialises : List Link → Bool

def parseAnyLinkableHash (libs : LinkLibraries) (s : String) : Except LinkerError AnyLinkableHash :=
  match libs.agentOfStr s with
  | .ok hash => .ok (libs.linkableOfAgent hash)
  | .error _ =>
    match libs.entryOfStr s with
    | .ok hash => .ok (libs.linkableOfEntry hash)
    | .error _ =>
      match libs.actionOfStr s with
      | .ok hash => .ok (libs.linkableOfAction hash)
      | .error _ =>
        match libs.externalOfStr s with
        | .ok hash => .ok hash
        | .error _ => .error (.requestMalformed ("Invalid linkable hash: " ++ s))

structure LinksQuery where
  base : String
  linkType : Option UInt16
  tag : Option String
  zomeIndex : Option UInt8

def LinksQuery.decodedTag (libs : LinkLibraries) (query : LinksQuery) :
    Except LinkerError (Option (List UInt8)) :=
  match query.tag with
  | none => .ok none
  | some text =>
    match libs.base64Decode text with
    | none => .error (.requestMalformed "Invalid tag encoding")
    | some bytes => .ok (some bytes)

/-- `type_query` of the links endpoint. -/
def LinksQuery.typeQuery (query : LinksQuery) : Except LinkerError LinkTypeFilter :=
  match query.zomeIndex, query.linkType with
  -- The cast to a byte drops the upper half of the type.
  | some zome, some linkType => .ok (.types [(zome, [linkType.toUInt8])])
  | some zome, none => .ok (.dependencies [zome])
  | none, some _ =>
    .error (.requestMalformed "zome_index is required when filtering by link type")
  | none, none => .ok (.types [])

/-- The request that the endpoint makes of its path and parameters. -/
def linksRequest (libs : LinkLibraries) (dnaText : String) (query : LinksQuery) :
    Except LinkerError (DnaHash × WireLinkKey) := do
  let dna ← parseDnaHash libs.toDhtHashCodec dnaText
  let base ← parseAnyLinkableHash libs query.base
  let tag ← query.decodedTag libs
  let typeQuery ← query.typeQuery
  return (dna, { base, typeQuery, tag, after := none, before := none, author := none })

/-- The answer is the JSON array of these links. -/
def dhtGetLinks (H : Hashing) (libs : LinkLibraries) (dhtQuery : Option DhtQueries)
    (dnaText : String) (query : LinksQuery) : Except LinkerError (List Link) :=
  match dhtQuery with
  | none => .error (.internal "DHT queries not available")
  | some q =>
    match linksRequest libs dnaText query with
    | .error e => .error e
    | .ok (dna, key) =>
      match q.getLinks libs.toLocationCodec dna key with
      | .error e => .error e
      | .ok none => .ok []
      | .ok (some ops) =>
        let links := wireLinkOpsToLinks H ops key.base key.tag
        if libs.serialises links then .ok links else .ok []

/-- The link is that of the reassembled action. -/
theorem renderLink_eq_link (H : Hashing) (base : AnyLinkableHash) (queryTag : Option (List UInt8))
    (wire : WireCreateLink) :
    renderLink H base queryTag wire = (wire.createLink base queryTag).link H := rfl

/-- A link action at `base` as an authority sends it to a query for `queryTag`: a tag is only left
out when the query names it. -/
structure CondensedLink (base : AnyLinkableHash) (queryTag : Option (List UInt8)) where
  create : CreateLink
  signature : Signature
  validationStatus : ValidationStatus
  keepsTag : Bool
  onBase : create.baseAddress = base
  omitted : keepsTag = false → queryTag = some create.tag

variable {base : AnyLinkableHash} {queryTag : Option (List UInt8)}

def CondensedLink.wire (condensed : CondensedLink base queryTag) : WireCreateLink where
  author := condensed.create.author
  timestamp := condensed.create.timestamp
  actionSeq := condensed.create.actionSeq
  prevAction := condensed.create.prevAction
  targetAddress := condensed.create.targetAddress
  zomeIndex := condensed.create.zomeIndex
  linkType := condensed.create.linkType
  tag := if condensed.keepsTag then some condensed.create.tag else none
  signature := condensed.signature
  validationStatus := condensed.validationStatus
  weight := condensed.create.weight

theorem CondensedLink.tag_recovered (condensed : CondensedLink base queryTag) :
    (condensed.wire.tag.or queryTag).getD [] = condensed.create.tag := by
  unfold wire
  split
  next kept => rfl
  next dropped =>
    have asked := condensed.omitted (Bool.eq_false_of_not_eq_true dropped)
    exact congrArg (·.getD []) asked

/-- Nothing of the action is lost on the wire. -/
theorem CondensedLink.createLink_wire (condensed : CondensedLink base queryTag) :
    condensed.wire.createLink base queryTag = condensed.create := by
  have tag := condensed.tag_recovered
  obtain ⟨create, _, _, _, onBase, _⟩ := condensed
  subst onBase
  rw [WireCreateLink.createLink, tag]
  rfl

/-- Whatever the deletes, each link is its action's, in order, and carries that action's hash. -/
theorem wireLinkOpsToLinks_condensed (H : Hashing) (base : AnyLinkableHash)
    (queryTag : Option (List UInt8)) (sources : List (CondensedLink base queryTag))
    (deletes : List WireDeleteLink) :
    wireLinkOpsToLinks H ⟨sources.map (·.wire), deletes⟩ base queryTag =
      sources.map fun source => source.create.link H := by
  rw [wireLinkOpsToLinks, List.map_map]
  apply List.map_congr_left
  intro source _
  rw [Function.comp_apply, renderLink_eq_link, source.createLink_wire]

/-- A link whose tag the query names, and one that keeps its own. -/
def sampleLinks : List (CondensedLink ⟨[9]⟩ (some [170])) :=
  [⟨⟨⟨[1]⟩, 1000000, 5, ⟨[2]⟩, ⟨[9]⟩, ⟨[7]⟩, 0, 0, [170], []⟩, [187], .valid, false, rfl, fun _ => rfl⟩,
    ⟨⟨⟨[1]⟩, 2000000, 6, ⟨[3]⟩, ⟨[9]⟩, ⟨[8]⟩, 0, 0, [170, 1], []⟩, [188], .rejected, true, rfl,
      fun omitted => nomatch omitted⟩]

theorem wireLinkOpsToLinks_condensed_sampleLinks :
    (wireLinkOpsToLinks numberedHashing ⟨sampleLinks.map (·.wire), []⟩ ⟨[9]⟩ (some [170])).map
      (·.tag) = [[170], [170, 1]] := by
  rw [wireLinkOpsToLinks_condensed numberedHashing ⟨[9]⟩ (some [170]) sampleLinks []]
  rfl

/-- A reply reaches the client through the rendering, whole. -/
theorem dhtGetLinks_eq {H : Hashing} {libs : LinkLibraries} {q : DhtQueries} {dnaText : String}
    {query : LinksQuery} {dna : DnaHash} {key : WireLinkKey} {ops : WireLinkOps}
    (serialises : ∀ links, libs.serialises links = true)
    (asked : linksRequest libs dnaText query = .ok (dna, key))
    (replied : q.getLinks libs.toLocationCodec dna key = .ok (some ops)) :
    dhtGetLinks H libs (some q) dnaText query = .ok (wireLinkOpsToLinks H ops key.base key.tag) := by
  simp only [dhtGetLinks, asked, replied, serialises, if_true]

/-- The creates that their authority holds valid. -/
def WireLinkOps.validCreates (ops : WireLinkOps) : List WireCreateLink :=
  ops.creates.filter (·.validationStatus = .valid)

theorem validCreates_length_eq_iff (ops : WireLinkOps) :
    ops.validCreates.length = ops.creates.length ↔
      ∀ create ∈ ops.creates, create.validationStatus = .valid := by
  rw [WireLinkOps.validCreates, List.length_filter_eq_length_iff]
  simp only [decide_eq_true_eq]

/-- The verdict of a create plays no part, so the links are those of the valid creates only where
there are no others. -/
theorem wireLinkOpsToLinks_eq_valid_iff (H : Hashing) (ops : WireLinkOps) (base : AnyLinkableHash)
    (queryTag : Option (List UInt8)) :
    wireLinkOpsToLinks H ops base queryTag = ops.validCreates.map (renderLink H base queryTag) ↔
      ∀ create ∈ ops.creates, create.validationStatus = .valid := by
  rw [← validCreates_length_eq_iff]
  constructor
  · intro same
    have lengths := congrArg List.length same
    rw [wireLinkOpsToLinks, List.length_map, List.length_map] at lengths
    exact lengths.symm
  · intro lengths
    have whole : ops.validCreates = ops.creates := List.filter_sublist.eq_of_length lengths
    rw [whole, wireLinkOpsToLinks]

/-- The endpoint serves exactly the valid creates of a reply when it holds no others. -/
theorem dhtGetLinks_serves_valid_iff (H : Hashing) (libs : LinkLibraries) (q : DhtQueries)
    (dnaText : String) (query : LinksQuery) (dna : DnaHash) (key : WireLinkKey) (ops : WireLinkOps)
    (serialises : ∀ links, libs.serialises links = true)
    (asked : linksRequest libs dnaText query = .ok (dna, key))
    (replied : q.getLinks libs.toLocationCodec dna key = .ok (some ops)) :
    dhtGetLinks H libs (some q) dnaText query =
        .ok (ops.validCreates.map (renderLink H key.base key.tag)) ↔
      ∀ create ∈ ops.creates, create.validationStatus = .valid := by
  rw [dhtGetLinks_eq serialises asked replied, Except.ok.injEq, wireLinkOpsToLinks_eq_valid_iff]

/-- Reads one DNA and one base, which is an entry's. -/
def oneBaseLibraries : LinkLibraries where
  dnaOfStr text := if text = "dna" then .ok ⟨[4]⟩ else .error "BadPrefix"
  agentOfStr _ := .error "BadPrefix"
  agentOfRaw39 _ := none
  dnaToStr _ := "dna"
  agentToStr _ := ""
  entryOfStr text := if text = "entry" then .ok ⟨[9]⟩ else .error "BadPrefix"
  actionOfStr _ := .error "BadPrefix"
  getLoc _ := 0
  linkableLoc _ := 0
  agentLoc _ := 0
  externalOfStr _ := .error "BadPrefix"
  linkableOfAgent agent := ⟨agent.raw⟩
  linkableOfEntry entry := ⟨entry.raw⟩
  linkableOfAction action := ⟨action.raw⟩
  base64Decode _ := none
  serialises _ := true

/-- One authority, which answers link queries with `ops`. -/
def oneAuthority (ops : WireLinkOps) : DhtQueries where
  getOrCreateSpace _ := .ok ()
  nearLocation _ _ := .ok [⟨⟨[6]⟩, some "wss://peer", false, fun _ => true⟩]
  sendGetRequest _ _ _ := .reply none
  sendGetLinksRequest _ _ _ := .reply (some ops)
  sendCountLinksRequest _ _ _ := .reply none
  sendGetAgentActivityRequest _ _ _ _ := .reply none
  sendMustGetAgentActivityRequest _ _ _ _ := .reply none

def entryLinks : LinksQuery := ⟨"entry", none, none, none⟩

def entryLinkKey : WireLinkKey := ⟨⟨[9]⟩, .types [], none, none, none, none⟩

/-- A reply with one create of this verdict. -/
def judgedLink (status : ValidationStatus) : WireLinkOps :=
  ⟨[⟨⟨[1]⟩, 1000000, 5, ⟨[2]⟩, ⟨[7]⟩, 0, 0, some [170], [170], status, []⟩], []⟩

theorem oneAuthority_asked :
    linksRequest oneBaseLibraries "dna" entryLinks = .ok (⟨[4]⟩, entryLinkKey) := rfl

theorem oneAuthority_replies (status : ValidationStatus) :
    (oneAuthority (judgedLink status)).getLinks oneBaseLibraries.toLocationCodec ⟨[4]⟩
      entryLinkKey = .ok (some (judgedLink status)) := rfl

theorem dhtGetLinks_serves_validLink :
    dhtGetLinks numberedHashing oneBaseLibraries (some (oneAuthority (judgedLink .valid))) "dna"
        entryLinks =
      .ok ((judgedLink .valid).validCreates.map (renderLink numberedHashing ⟨[9]⟩ none)) :=
  (dhtGetLinks_serves_valid_iff numberedHashing oneBaseLibraries _ "dna" entryLinks _ _ _
    (fun _ => rfl) oneAuthority_asked (oneAuthority_replies .valid)).mpr (by decide)

/-- A link that its authority rejected is served. -/
theorem dhtGetLinks_serves_rejectedLink :
    ¬∀ (H : Hashing) (libs : LinkLibraries) (q : DhtQueries) (dnaText : String)
      (query : LinksQuery) (dna : DnaHash) (key : WireLinkKey) (ops : WireLinkOps),
      (∀ links, libs.serialises links = true) →
      linksRequest libs dnaText query = .ok (dna, key) →
      q.getLinks libs.toLocationCodec dna key = .ok (some ops) →
      dhtGetLinks H libs (some q) dnaText query =
        .ok (ops.validCreates.map (renderLink H key.base key.tag)) := by
  intro always
  have served := always numberedHashing oneBaseLibraries _ "dna" entryLinks _ _ _ (fun _ => rfl)
    oneAuthority_asked (oneAuthority_replies .rejected)
  rw [dhtGetLinks_eq (fun _ => rfl) oneAuthority_asked (oneAuthority_replies .rejected)] at served
  cases served

end H2hcLinker.Dht
