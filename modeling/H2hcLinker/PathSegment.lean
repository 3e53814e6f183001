import H2hcLinker.CanonicalJson
import Mathlib.Data.List.TakeWhile

/-! Percent-encoding of a path segment, read back, and the url that the linker deregisters at. -/
namespace H2hcLinker.Registration

open PrefixCode

/-- Letters, digits and four marks. -/
def Unreserved (c : Char) : Prop :=
  ('A' ≤ c ∧ c ≤ 'Z') ∨ ('a' ≤ c ∧ c ≤ 'z') ∨ ('0' ≤ c ∧ c ≤ '9') ∨ c ∈ ['-', '.', '_', '~']

def UpperHex (c : Char) : Prop := ('0' ≤ c ∧ c ≤ '9') ∨ ('A' ≤ c ∧ c ≤ 'F')

instance (c : Char) : Decidable (Unreserved c) := inferInstanceAs (Decidable (_ ∨ _))

instance (c : Char) : Decidable (UpperHex c) := inferInstanceAs (Decidable (_ ∨ _))

/-- The byte of two hex digits, in either case. -/
def hexByte (high low : Char) : Option UInt8 :=
  match hexDigit high, hexDigit low with
  | some h, some l => some (UInt8.ofNat (h * 16 + l))
  | _, _ => none

/-- How a byte is written: as the unreserved character that it is, or as its triple. -/
inductive SegmentByte (byte : UInt8) : List Char → Prop where
  | unreserved (c : Char) (free : Unreserved c) (same : c.toNat = byte.toNat) : SegmentByte byte [c]
  | triple (high low : Char) (upper : UpperHex high ∧ UpperHex low)
      (read : hexByte high low = some byte) : SegmentByte byte ['%', high, low]

/-- Percent-decoding: a mark with two hex digits behind it is a byte, any other character its bytes. -/
def percentDecode : List Char → List UInt8
  | '%' :: high :: low :: rest =>
    match hexByte high low with
    | some byte => byte :: percentDecode rest
    | none => String.utf8EncodeChar '%' ++ percentDecode (high :: low :: rest)
  | c :: rest => String.utf8EncodeChar c ++ percentDecode rest
  | [] => []

theorem percentDecode_plain {c : Char} (mark : c ≠ '%') (rest : List Char) :
    percentDecode (c :: rest) = String.utf8EncodeChar c ++ percentDecode rest := by
  rw [percentDecode]
  rintro high low more rfl
  exact absurd rfl mark

theorem Unreserved.plain {c : Char} (free : Unreserved c) : c.toNat < 128 ∧ c ≠ '%' := by
  constructor
  · rcases free with ⟨_, upper⟩ | ⟨_, lower⟩ | ⟨_, digit⟩ | mark
    · exact Nat.lt_of_le_of_lt upper (by decide)
    · exact Nat.lt_of_le_of_lt lower (by decide)
    · exact Nat.lt_of_le_of_lt digit (by decide)
    · simp only [List.mem_cons, List.not_mem_nil, or_false] at mark
      rcases mark with rfl | rfl | rfl | rfl <;> decide
  · rintro rfl
    exact absurd free (by decide)

theorem utf8EncodeChar_ascii {c : Char} {byte : UInt8} (ascii : c.toNat < 128)
    (same : c.toNat = byte.toNat) : String.utf8EncodeChar c = [byte] := by
  have short : byte.toNat ≤ 127 := same ▸ Nat.le_of_lt_succ ascii
  simp [String.utf8EncodeChar, same, short]

/-- The decoder takes the byte from its word, whatever follows. -/
theorem SegmentByte.read {byte : UInt8} {word : List Char} (writes : SegmentByte byte word)
    (rest : List Char) : percentDecode (word ++ rest) = byte :: percentDecode rest := by
  cases writes with
  | unreserved c free same =>
    rw [List.singleton_append, percentDecode_plain free.plain.2,
      utf8EncodeChar_ascii free.plain.1 same, List.singleton_append]
  | triple high low upper read =>
    simp only [List.cons_append, List.nil_append, percentDecode, read]

theorem hexByte_upperHexDigit (byte : UInt8) :
    hexByte (upperHexDigit (byte.toNat / 16)) (upperHexDigit (byte.toNat % 16)) = some byte := by
  have digit : ∀ n < 16, hexDigit (upperHexDigit n) = some n := by decide
  have bound : byte.toNat < 256 := byte.toNat_lt
  have whole : byte.toNat / 16 * 16 + byte.toNat % 16 = byte.toNat := by omega
  rw [hexByte, digit _ (by omega), digit _ (by omega)]
  simp only [whole, UInt8.ofNat_toNat]

theorem toNat_ofNat_ascii {n : Nat} (ascii : n < 128) : (Char.ofNat n).toNat = n := by
  have valid : n.isValidChar := .inl (by omega)
  rw [Char.ofNat, dif_pos valid]
  rfl

theorem isAlphanum_iff {c : Char} : c.isAlphanum = true ↔
    ('A' ≤ c ∧ c ≤ 'Z') ∨ ('a' ≤ c ∧ c ≤ 'z') ∨ ('0' ≤ c ∧ c ≤ '9') := by
  have upper : c.isUpper = true ↔ 'A' ≤ c ∧ c ≤ 'Z' := decide_eq_true_iff
  have lower : c.isLower = true ↔ 'a' ≤ c ∧ c ≤ 'z' :=
    Bool.and_eq_true_iff.trans (and_congr decide_eq_true_iff decide_eq_true_iff)
  have digit : c.isDigit = true ↔ '0' ≤ c ∧ c ≤ '9' :=
    Bool.and_eq_true_iff.trans (and_congr decide_eq_true_iff decide_eq_true_iff)
  have kinds : c.isAlphanum = true ↔ (c.isUpper = true ∨ c.isLower = true) ∨ c.isDigit = true :=
    Bool.or_eq_true_iff.trans (or_congr_left Bool.or_eq_true_iff)
  rw [kinds, upper, lower, digit, or_assoc]

theorem isUnreserved_iff {byte : UInt8} :
    isUnreserved byte = true ↔ byte.toNat < 128 ∧ Unreserved (Char.ofNat byte.toNat) := by
  rw [isUnreserved, decide_eq_true_eq, UInt8.lt_iff_toNat_lt, isAlphanum_iff, or_assoc, or_assoc]
  simp [Unreserved]

/-- The word that the encoder writes for a byte. -/
def encodedByte (byte : UInt8) : List Char :=
  if isUnreserved byte then [Char.ofNat byte.toNat]
  else ['%', upperHexDigit (byte.toNat / 16), upperHexDigit (byte.toNat % 16)]

theorem urlEncodePathSegment_toList (s : String) :
    (urlEncodePathSegment s).toList = s.toUTF8.toList.flatMap encodedByte :=
  String.toList_ofList

theorem upperHex_upperHexDigit : ∀ n < 16, UpperHex (upperHexDigit n) := by decide

theorem encodedByte_writes (byte : UInt8) : SegmentByte byte (encodedByte byte) := by
  have bound : byte.toNat < 256 := byte.toNat_lt
  unfold encodedByte
  split
  next kept =>
    obtain ⟨ascii, free⟩ := isUnreserved_iff.mp kept
    exact .unreserved _ free (toNat_ofNat_ascii ascii)
  next =>
    exact .triple _ _ ⟨upperHex_upperHexDigit _ (by omega), upperHex_upperHexDigit _ (by omega)⟩
      (hexByte_upperHexDigit byte)

theorem urlEncodePathSegment_each (s : String) :
    Each SegmentByte s.toUTF8.toList (urlEncodePathSegment s).toList := by
  rw [urlEncodePathSegment_toList]
  exact each_flatMap encodedByte encodedByte_writes _

theorem percentDecode_urlEncodePathSegment (s : String) :
    percentDecode (urlEncodePathSegment s).toList = s.toUTF8.toList :=
  (urlEncodePathSegment_each s).decode percentDecode rfl fun _ _ rest writes => writes.read rest

example : percentDecode "%C3%A9%2F%25".toList = "é/%".toUTF8.data.toList := by decide

/-- Of its delimiters the grammar knows only the mark. -/
theorem SegmentByte.mem {byte : UInt8} {word : List Char} {c : Char} (writes : SegmentByte byte word)
    (member : c ∈ word) : c = '%' ∨ Unreserved c ∨ UpperHex c := by
  cases writes with
  | unreserved c free same =>
    rw [List.mem_singleton] at member
    exact .inr (.inl (member ▸ free))
  | triple high low upper read =>
    simp only [List.mem_cons, List.not_mem_nil, or_false] at member
    rcases member with rfl | rfl | rfl
    · exact .inl rfl
    · exact .inr (.inr upper.1)
    · exact .inr (.inr upper.2)

theorem not_mem_urlEncodePathSegment (s : String) {c : Char}
    (reserved : ¬(c = '%' ∨ Unreserved c ∨ UpperHex c)) : c ∉ (urlEncodePathSegment s).toList := by
  intro member
  obtain ⟨byte, word, writes, here⟩ := (urlEncodePathSegment_each s).mem member
  exact reserved (writes.mem here)

theorem toList_eq_data (bytes : ByteArray) : bytes.toList = bytes.data.toList := by
  have loop (i : Nat) (read : List UInt8) :
      ByteArray.toList.loop bytes i read = read.reverse ++ bytes.data.toList.drop i := by
    fun_induction ByteArray.toList.loop bytes i read with
    | case1 i read more ih =>
      have here : bytes.get! i = bytes.data.toList[i] := by
        simp [ByteArray.get!, more, ByteArray.size_data]
      rw [ih, List.drop_eq_getElem_cons more, here]
      simp
    | case2 i read done =>
      rw [List.drop_eq_nil_of_le (Nat.le_of_not_lt done), List.append_nil]
  exact loop 0 []

theorem urlEncodePathSegment_injective {s other : String}
    (same : urlEncodePathSegment s = urlEncodePathSegment other) : s = other := by
  have bytes := percentDecode_urlEncodePathSegment s
  rw [same, percentDecode_urlEncodePathSegment, toList_eq_data, toList_eq_data] at bytes
  exact (String.toByteArray_inj.mp (ByteArray.ext (Array.toList_inj.mp bytes))).symm

theorem toUTF8_eq_flatMap (s : String) : s.toUTF8.toList = s.toList.flatMap String.utf8EncodeChar := by
  rw [toList_eq_data, String.toUTF8_eq_toByteArray, ← String.utf8Encode_toList, List.utf8Encode,
    List.toList_data_toByteArray]

/-- What needs no encoding is left as it is. -/
theorem urlEncodePathSegment_unreserved {s : String} (free : ∀ c ∈ s.toList, Unreserved c) :
    urlEncodePathSegment s = s := by
  apply String.toList_injective
  rw [urlEncodePathSegment_toList, toUTF8_eq_flatMap, List.flatMap_assoc]
  have word : ∀ c ∈ s.toList, (String.utf8EncodeChar c).flatMap encodedByte = [c] := by
    intro c member
    have ascii := (free c member).plain.1
    have same : c.toNat = (UInt8.ofNat c.toNat).toNat := by simp; omega
    have kept : isUnreserved (UInt8.ofNat c.toNat) = true :=
      isUnreserved_iff.mpr ⟨same ▸ ascii, by rw [← same, Char.ofNat_toNat]; exact free c member⟩
    rw [utf8EncodeChar_ascii ascii same, List.flatMap_singleton, encodedByte, if_pos kept, ← same,
      Char.ofNat_toNat]
  rw [List.flatMap_congr word, List.flatMap_singleton']

/-- What is asked of the encoding of a string. -/
structure RoundTrips (s : String) : Prop where
  written : Each SegmentByte s.toUTF8.toList (urlEncodePathSegment s).toList
  decoded : percentDecode (urlEncodePathSegment s).toList = s.toUTF8.toList
  injective : ∀ other, urlEncodePathSegment other = urlEncodePathSegment s → other = s
  undelimited : ∀ c ∈ ['/', '?', '#', '+'], c ∉ (urlEncodePathSegment s).toList

theorem urlEncodePathSegment_roundTrips (s : String) : RoundTrips s where
  written := urlEncodePathSegment_each s
  decoded := percentDecode_urlEncodePathSegment s
  injective _ := urlEncodePathSegment_injective
  undelimited c listed := by
    refine not_mem_urlEncodePathSegment s ?_
    simp only [List.mem_cons, List.not_mem_nil, or_false] at listed
    rcases listed with rfl | rfl | rfl | rfl <;> decide

/-- The text has neither a query nor a fragment. -/
def AllPath (text : String) : Prop := '?' ∉ text.toList ∧ '#' ∉ text.toList

/-- The path that a text begins with, cut at its slashes; a query or a fragment ends it. -/
def pathSegments (text : String) : List String :=
  ((text.toList.takeWhile fun c => c ≠ '?' ∧ c ≠ '#').splitOn '/').map String.ofList

theorem AllPath.pathSegments {text : String} (allPath : AllPath text) :
    pathSegments text = (text.toList.splitOn '/').map String.ofList := by
  rw [Registration.pathSegments, List.takeWhile_eq_self_iff.mpr]
  intro c member
  rw [decide_eq_true_eq]
  exact ⟨fun query => allPath.1 (query ▸ member), fun fragment => allPath.2 (fragment ▸ member)⟩

theorem AllPath.append {text more : String} (allPath : AllPath text) (later : AllPath more) :
    AllPath (text ++ more) := by
  simp [AllPath, allPath.1, allPath.2, later.1, later.2]

theorem splitOn_linkers (service segment : String) (undelimited : '/' ∉ segment.toList) :
    (service ++ "/v1/linkers/" ++ segment).toList.splitOn '/' =
      service.toList.splitOn '/' ++ ["v1".toList, "linkers".toList, segment.toList] := by
  have linkers : (service ++ "/v1/linkers/" ++ segment).toList =
      service.toList ++ '/' :: ("v1".toList ++ '/' :: ("linkers".toList ++ '/' :: segment.toList)) := by
    simp
  rw [linkers, List.splitOn_append_cons_self, List.splitOn_append_cons_self,
    List.splitOn_append_cons_self, List.splitOn_eq_singleton undelimited]
  rfl

/-- The url is of the linker with this key. Read from where the url of the service ends it is a path,
and the last segment of it decodes to the key. A parser of urls takes a dot segment out of a path: this
one is none, unless the key is. -/
structure AddressesKey (service key segment url : String) : Prop where
  written : url = service ++ "/v1/linkers/" ++ segment
  allPath : AllPath ("/v1/linkers/" ++ segment)
  target : pathSegments ("/v1/linkers/" ++ segment) = ["", "v1", "linkers", segment]
  within : AllPath service → pathSegments url = pathSegments service ++ ["v1", "linkers", segment]
  decoded : percentDecode segment.toList = key.toUTF8.toList
  dotted : segment ∈ [".", ".."] ↔ key ∈ [".", ".."]

theorem dotted_iff (s : String) : urlEncodePathSegment s ∈ [".", ".."] ↔ s ∈ [".", ".."] := by
  have itself (dots : String) (listed : dots ∈ [".", ".."]) : urlEncodePathSegment dots = dots := by
    apply urlEncodePathSegment_unreserved
    simp only [List.mem_cons, List.not_mem_nil, or_false] at listed
    rcases listed with rfl | rfl <;> simp [Unreserved]
  constructor
  · intro listed
    rwa [← urlEncodePathSegment_injective (itself _ listed)]
  · intro listed
    rwa [itself s listed]

theorem deregister_addressesKey (quote : String → String) (client : RegistrationClient)
    (timestamp : String) :
    AddressesKey client.config.joiningServiceUrl client.identity.publicKeyBase64
      (urlEncodePathSegment client.identity.publicKeyBase64)
      (client.deregisterRequest quote timestamp).url := by
  have round := urlEncodePathSegment_roundTrips client.identity.publicKeyBase64
  have free (c : Char) (listed : c ∈ ['/', '?', '#', '+']) := round.undelimited c listed
  have allPath : AllPath ("/v1/linkers/" ++ urlEncodePathSegment client.identity.publicKeyBase64) :=
    .append (by simp [AllPath]) ⟨free '?' (by decide), free '#' (by decide)⟩
  constructor
  · rfl
  · exact allPath
  · have split := splitOn_linkers "" _ (free '/' (by decide))
    rw [String.empty_append] at split
    rw [allPath.pathSegments, split]
    simp
  · intro service
    rw [RegistrationClient.deregisterRequest, String.append_assoc, (service.append allPath).pathSegments,
      ← String.append_assoc, splitOn_linkers _ _ (free '/' (by decide)), service.pathSegments]
    simp
  · exact round.decoded
  · exact dotted_iff _

theorem deregister_url_injective {quote : String → String} {client other : RegistrationClient}
    {timestamp later : String} (same : (other.deregisterRequest quote later).url =
      (client.deregisterRequest quote timestamp).url) :
    other.config.joiningServiceUrl = client.config.joiningServiceUrl ∧
      other.identity.publicKeyBase64 = client.identity.publicKeyBase64 := by
  have free (s : String) : '/' ∉ (urlEncodePathSegment s).toList :=
    (urlEncodePathSegment_roundTrips s).undelimited '/' (by decide)
  have cut := congrArg (fun url => url.toList.splitOn '/') same
  simp only [RegistrationClient.deregisterRequest, splitOn_linkers _ _ (free _)] at cut
  obtain ⟨services, linkers⟩ := List.append_inj' cut rfl
  have segments : urlEncodePathSegment other.identity.publicKeyBase64 =
      urlEncodePathSegment client.identity.publicKeyBase64 :=
    String.toList_injective (by simpa using linkers)
  refine ⟨?_, urlEncodePathSegment_injective segments⟩
  have joined := congrArg ['/'].intercalate services
  rw [List.intercalate_splitOn, List.intercalate_splitOn] at joined
  exact String.toList_injective joined

/-- Every string comes back from its encoding as a path segment, and so a client deregisters at the url
of its own key, which is no other key's. -/
theorem pathSegment_round_trips :
    (∀ s, RoundTrips s) ∧ ∀ (quote : String → String) (client : RegistrationClient) (timestamp : String),
      AddressesKey client.config.joiningServiceUrl client.identity.publicKeyBase64
        (urlEncodePathSegment client.identity.publicKeyBase64)
        (client.deregisterRequest quote timestamp).url ∧
      ∀ (other : RegistrationClient) (later : String),
        (other.deregisterRequest quote later).url = (client.deregisterRequest quote timestamp).url →
        other.config.joiningServiceUrl = client.config.joiningServiceUrl ∧
          other.identity.publicKeyBase64 = client.identity.publicKeyBase64 := by
  refine ⟨urlEncodePathSegment_roundTrips, fun quote client timestamp => ⟨?_, ?_⟩⟩
  · exact deregister_addressesKey quote client timestamp
  · intro other later
    exact deregister_url_injective

end H2hcLinker.Registration
