import H2hcLinker.LinkRender

/-! The endpoint that counts links, and which links a request for one link type is about: the
parameter has sixteen bits, a link type eight. -/
namespace H2hcLinker.Dht

/-- The request that the counting endpoint makes of its path and parameters. -/
def countLinksRequest (libs : LinkLibraries) (dnaText : String) (query : LinksQuery) :
    Except LinkerError (DnaHash × WireLinkQuery) := do
  let dna ← parseDnaHash libs.toDhtHashCodec dnaText
  let base ← parseAnyLinkableHash libs query.base
  let tagPrefix ← query.decodedTag libs
  let linkType ← query.typeQuery
  return (dna, { base, linkType, tagPrefix, before := none, after := none, author := none })

/-- The answer is the JSON of the response; none stands for the number 0. `serialises` is whether
`serde_json::to_value` succeeds. -/
def dhtCountLinks (libs : LinkLibraries) (serialises : CountLinksResponse → Bool)
    (dhtQuery : Option DhtQueries) (dnaText : String) (query : LinksQuery) :
    Except LinkerError (Option CountLinksResponse) :=
  match dhtQuery with
  | none => .error (.internal "DHT queries not available")
  | some q =>
    match countLinksRequest libs dnaText query with
    | .error e => .error e
    | .ok (dna, wireQuery) =>
      match q.countLinks libs.toLocationCodec dna wireQuery with
      | .error e => .error e
      | .ok none => .ok none
      | .ok (some response) => if serialises response then .ok (some response) else .ok none

/-- The same parameters as the two endpoints send them. -/
def WireLinkKey.countQuery (key : WireLinkKey) : WireLinkQuery where
  base := key.base
  linkType := key.typeQuery
  tagPrefix := key.tag
  before := key.before
  after := key.after
  author := key.author

/-- The endpoints accept the same requests, refuse the others alike, and ask for the same. -/
theorem countLinksRequest_eq (libs : LinkLibraries) (dnaText : String) (query : LinksQuery) :
    countLinksRequest libs dnaText query =
      (linksRequest libs dnaText query).map fun request => (request.1, request.2.countQuery) := by
  unfold countLinksRequest linksRequest
  cases parseDnaHash libs.toDhtHashCodec dnaText with
  | error e => rfl
  | ok dna =>
    cases parseAnyLinkableHash libs query.base with
    | error e => rfl
    | ok base =>
      cases query.decodedTag libs with
      | error e => rfl
      | ok tag => cases query.typeQuery <;> rfl

theorem linksRequest_typeQuery {libs : LinkLibraries} {dnaText : String} {query : LinksQuery}
    {dna : DnaHash} {key : WireLinkKey} (accepted : linksRequest libs dnaText query = .ok (dna, key)) :
    query.typeQuery = .ok key.typeQuery := by
  unfold linksRequest at accepted
  cases dnaRead : parseDnaHash libs.toDhtHashCodec dnaText with
  | error e => simp [dnaRead, bind, Except.bind] at accepted
  | ok dna =>
    cases baseRead : parseAnyLinkableHash libs query.base with
    | error e => simp [dnaRead, baseRead, bind, Except.bind] at accepted
    | ok base =>
      cases tagRead : query.decodedTag libs with
      | error e => simp [dnaRead, baseRead, tagRead, bind, Except.bind] at accepted
      | ok tag =>
        cases filter : query.typeQuery with
        | error e => simp [dnaRead, baseRead, tagRead, filter, bind, Except.bind] at accepted
        | ok typeQuery =>
          simp only [dnaRead, baseRead, tagRead, filter, bind, Except.bind, pure, Except.pure,
            Except.ok.injEq, Prod.mk.injEq] at accepted
          rw [← accepted.2]

/-- What the counting endpoint accepts, the other one accepts with the same filter. -/
theorem countLinksRequest_ok {libs : LinkLibraries} {dnaText : String} {query : LinksQuery}
    {dna : DnaHash} {wireQuery : WireLinkQuery}
    (accepted : countLinksRequest libs dnaText query = .ok (dna, wireQuery)) :
    ∃ key, linksRequest libs dnaText query = .ok (dna, key) ∧ wireQuery = key.countQuery := by
  rw [countLinksRequest_eq] at accepted
  cases asked : linksRequest libs dnaText query with
  | error e => rw [asked] at accepted; cases accepted
  | ok request => rw [asked] at accepted; cases accepted; exact ⟨request.2, rfl, rfl⟩

/-- Which links a filter lets through, by their zome and type. -/
abbrev LinkMatch := LinkTypeFilter → UInt8 → UInt8 → Bool

/-- `LinkTypeFilter::single_type` is about one type of one zome. -/
def LinkMatch.SingleType (admits : LinkMatch) : Prop :=
  ∀ zome linkType zome' linkType', admits (.types [(zome, [linkType])]) zome' linkType' = true ↔
    zome' = zome ∧ linkType' = linkType

/-- The filter is about the links of this zome whose type is this number. -/
structure LinkMatch.Exact (admits : LinkMatch) (filter : LinkTypeFilter) (zome : UInt8)
    (linkType : UInt16) : Prop where
  admitted (links : List Link) :
    (links.filter fun link => admits filter link.zomeIndex link.linkType) =
      links.filter fun link => link.zomeIndex = zome ∧ link.linkType.toNat = linkType.toNat
  unmatched (wide : ∀ type : UInt8, type.toNat ≠ linkType.toNat) (links : List Link) :
    (links.filter fun link => admits filter link.zomeIndex link.linkType) = []

/-- Whichever of the endpoints accepts the request, its filter is exact, and they build the same. -/
structure LinkMatch.RequestExact (admits : LinkMatch) (libs : LinkLibraries) (dnaText : String)
    (query : LinksQuery) (zome : UInt8) (linkType : UInt16) : Prop where
  links (dna : DnaHash) (key : WireLinkKey) (accepted : linksRequest libs dnaText query = .ok (dna, key)) :
    admits.Exact key.typeQuery zome linkType
  counts (dna : DnaHash) (wireQuery : WireLinkQuery)
    (accepted : countLinksRequest libs dnaText query = .ok (dna, wireQuery)) :
    admits.Exact wireQuery.linkType zome linkType
  same (dna dna' : DnaHash) (key : WireLinkKey) (wireQuery : WireLinkQuery)
    (accepted : linksRequest libs dnaText query = .ok (dna, key))
    (counted : countLinksRequest libs dnaText query = .ok (dna', wireQuery)) :
    wireQuery.linkType = key.typeQuery

theorem LinkMatch.Exact.iff {admits : LinkMatch} {filter : LinkTypeFilter} {zome : UInt8}
    {linkType : UInt16} (exact : admits.Exact filter zome linkType) (link : Link) :
    admits filter link.zomeIndex link.linkType = true ↔
      link.zomeIndex = zome ∧ link.linkType.toNat = linkType.toNat := by
  have alone := exact.admitted [link]
  by_cases admitted : admits filter link.zomeIndex link.linkType = true <;>
    by_cases wanted : link.zomeIndex = zome ∧ link.linkType.toNat = linkType.toNat <;>
    simp_all

/-- The cast keeps a number that a byte can hold. -/
theorem toUInt8_toNat_eq_iff (linkType : UInt16) :
    linkType.toUInt8.toNat = linkType.toNat ↔ linkType.toNat < 256 := by
  rw [UInt16.toNat_toUInt8]
  omega

variable {admits : LinkMatch} {zome : UInt8} {linkType : UInt16}

theorem LinkMatch.SingleType.exact (single : admits.SingleType) (fits : linkType.toNat < 256) :
    admits.Exact (.types [(zome, [linkType.toUInt8])]) zome linkType where
  admitted links := by
    apply List.filter_congr
    intro link _
    rw [Bool.eq_iff_iff, single, decide_eq_true_eq, ← UInt8.toNat_inj (a := link.linkType),
      (toUInt8_toNat_eq_iff linkType).mpr fits]
  unmatched wide := absurd ((toUInt8_toNat_eq_iff linkType).mpr fits) (wide _)

/-- A link of the type that is left after the cast. -/
def castLink (zome : UInt8) (linkType : UInt16) : Link :=
  ⟨⟨[]⟩, ⟨[]⟩, ⟨[]⟩, 0, zome, linkType.toUInt8, [], ⟨[]⟩⟩

theorem LinkMatch.SingleType.exact_iff (single : admits.SingleType) :
    admits.Exact (.types [(zome, [linkType.toUInt8])]) zome linkType ↔ linkType.toNat < 256 := by
  constructor
  · intro exact
    have admitted := (single zome linkType.toUInt8 zome linkType.toUInt8).mpr ⟨rfl, rfl⟩
    have asked := (exact.iff (castLink zome linkType)).mp admitted
    exact (toUInt8_toNat_eq_iff linkType).mp asked.2
  · exact single.exact

/-- The filter of a request that either endpoint accepts is exact for the types that a link can
have, and for no others. -/
theorem linkFilter_exact_iff (admits : LinkMatch) (single : admits.SingleType)
    (libs : LinkLibraries) (dnaText : String) (query : LinksQuery) (zome : UInt8) (linkType : UInt16)
    (inZome : query.zomeIndex = some zome) (ofType : query.linkType = some linkType)
    (accepted : (∃ request, linksRequest libs dnaText query = .ok request) ∨
      ∃ request, countLinksRequest libs dnaText query = .ok request) :
    admits.RequestExact libs dnaText query zome linkType ↔ linkType.toNat < 256 := by
  have built : query.typeQuery = .ok (.types [(zome, [linkType.toUInt8])]) := by
    simp only [LinksQuery.typeQuery, inZome, ofType]
  have filter {dna : DnaHash} {key : WireLinkKey}
      (asked : linksRequest libs dnaText query = .ok (dna, key)) :
      key.typeQuery = .types [(zome, [linkType.toUInt8])] := by
    have read := linksRequest_typeQuery asked
    rw [built] at read
    exact (Except.ok.inj read).symm
  constructor
  · intro exact
    have asked : ∃ dna key, linksRequest libs dnaText query = .ok (dna, key) := by
      rcases accepted with ⟨⟨dna, key⟩, asked⟩ | ⟨⟨dna, wireQuery⟩, counted⟩
      · exact ⟨dna, key, asked⟩
      · obtain ⟨key, asked, _⟩ := countLinksRequest_ok counted
        exact ⟨dna, key, asked⟩
    obtain ⟨dna, key, asked⟩ := asked
    have whole := exact.links dna key asked
    rw [filter asked] at whole
    exact single.exact_iff.mp whole
  · intro fits
    refine ⟨?links, ?counts, ?same⟩
    case links =>
      intro dna key asked
      rw [filter asked]
      exact single.exact fits
    case counts =>
      intro dna wireQuery counted
      obtain ⟨key, asked, rfl⟩ := countLinksRequest_ok counted
      rw [show key.countQuery.linkType = key.typeQuery from rfl, filter asked]
      exact single.exact fits
    case same =>
      intro dna dna' key wireQuery asked counted
      obtain ⟨key', asked', rfl⟩ := countLinksRequest_ok counted
      exact (filter asked').trans (filter asked).symm

/-- A list without types is about every link, as the endpoints use it. -/
def listedTypes : LinkMatch
  | .types [], _, _ => true
  | .types types, zome, linkType => types.any fun entry => entry.1 = zome ∧ linkType ∈ entry.2
  | .dependencies zomes, zome, _ => decide (zome ∈ zomes)

theorem listedTypes_single : listedTypes.SingleType := by
  intro zome linkType zome' linkType'
  simp only [listedTypes, List.any_cons, List.any_nil, Bool.or_false, List.mem_singleton,
    decide_eq_true_eq]
  exact and_congr_left fun _ => eq_comm

def typedLinks (linkType : UInt16) : LinksQuery := ⟨"entry", some linkType, none, some 0⟩

theorem linkFilter_exact_widest :
    listedTypes.RequestExact oneBaseLibraries "dna" (typedLinks 255) 0 255 :=
  (linkFilter_exact_iff listedTypes listedTypes_single oneBaseLibraries "dna" (typedLinks 255) 0 255
    rfl rfl (.inl ⟨_, rfl⟩)).mpr (by decide)

/-- A request for the type 257 gets the links of type 1. -/
theorem linkFilter_not_exact :
    ¬∀ (admits : LinkMatch) (libs : LinkLibraries) (dnaText : String) (query : LinksQuery)
      (zome : UInt8) (linkType : UInt16),
      admits.SingleType → query.zomeIndex = some zome → query.linkType = some linkType →
      admits.RequestExact libs dnaText query zome linkType := by
  intro always
  have exact := always listedTypes oneBaseLibraries "dna" (typedLinks 257) 0 257 listedTypes_single
    rfl rfl
  have request := exact.links ⟨[4]⟩ _ rfl
  have admitted := (request.iff (castLink 0 257)).mp rfl
  exact absurd admitted.2 (by decide)

end H2hcLinker.Dht
