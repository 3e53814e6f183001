import H2hcLinker.PrefixCode
import H2hcLinker.Registration

/-! What is signed, against the fields that it is made of. Strings are written as the JSON standard
has it, which leaves the writer a choice of escapes. -/
namespace H2hcLinker.Registration

open PrefixCode

variable {quote : String → String} {fields others : List (String × String)}

/-- The escapes of one letter. -/
def shortEscapes : List (Char × Char) :=
  [('"', '"'), ('\\', '\\'), ('/', '/'), ('b', '\x08'), ('f', '\x0c'), ('n', '\n'), ('r', '\r'),
    ('t', '\t')]

def hexDigit (c : Char) : Option Nat :=
  if '0' ≤ c ∧ c ≤ '9' then some (c.toNat - '0'.toNat)
  else if 'a' ≤ c ∧ c ≤ 'f' then some (c.toNat - 'a'.toNat + 10)
  else if 'A' ≤ c ∧ c ≤ 'F' then some (c.toNat - 'A'.toNat + 10)
  else none

/-- The UTF-16 code unit that four hex digits write. -/
def codeUnit : List Char → Option Nat
  | [a, b, c, d] =>
    match hexDigit a, hexDigit b, hexDigit c, hexDigit d with
    | some a, some b, some c, some d => some (((a * 16 + b) * 16 + c) * 16 + d)
    | _, _, _, _ => none
  | _ => none

def isHigh (unit : Nat) : Prop := 0xD800 ≤ unit ∧ unit < 0xDC00

def isLow (unit : Nat) : Prop := 0xDC00 ≤ unit ∧ unit < 0xE000

instance (unit : Nat) : Decidable (isHigh unit) := inferInstanceAs (Decidable (_ ∧ _))

/-- The code point of a surrogate pair. -/
def joinUnits (high low : Nat) : Nat := 0x10000 + (high - 0xD800) * 0x400 + (low - 0xDC00)

/-- How a character may be written in a string: as itself, by a letter, by its code unit, or by two. -/
inductive Denotes (c : Char) : List Char → Prop where
  | plain (printable : 0x20 ≤ c.toNat) (quotation : c ≠ '"') (backslash : c ≠ '\\') : Denotes c [c]
  | short (letter : Char) (named : (letter, c) ∈ shortEscapes) : Denotes c ['\\', letter]
  | unit (digits : List Char) (read : codeUnit digits = some c.toNat) :
      Denotes c ('\\' :: 'u' :: digits)
  | pair (digits more : List Char) (high low : Nat) (first : codeUnit digits = some high)
      (second : codeUnit more = some low) (surrogates : isHigh high ∧ isLow low)
      (joined : c.toNat = joinUnits high low) :
      Denotes c ('\\' :: 'u' :: digits ++ '\\' :: 'u' :: more)

/-- Between quotation marks the characters in turn. -/
def Spells (s : String) (text : List Char) : Prop :=
  After ['"'] (Closed '"' Denotes) s.toList text

/-- The writer writes every string as the standard allows. -/
def StandardQuote (quote : String → String) : Prop := ∀ s, Spells s (quote s).toList

/-- Read a code unit off a string. -/
def readUnit : List Char → Option (Nat × List Char)
  | '\\' :: 'u' :: rest => (codeUnit (rest.take 4)).map fun unit => (unit, rest.drop 4)
  | _ => none

/-- Read a character off a string. -/
def readChar (text : List Char) : Option (Char × List Char) :=
  match readUnit text with
  | some (unit, rest) =>
    if isHigh unit then
      (readUnit rest).map fun low => (Char.ofNat (joinUnits unit low.1), low.2)
    else some (Char.ofNat unit, rest)
  | none =>
    match text with
    | '\\' :: letter :: rest => (shortEscapes.lookup letter).map fun c => (c, rest)
    | c :: rest => some (c, rest)
    | [] => none

theorem readUnit_append {digits : List Char} {unit : Nat} (read : codeUnit digits = some unit)
    (rest : List Char) : readUnit ('\\' :: 'u' :: digits ++ rest) = some (unit, rest) := by
  have four : digits.length = 4 := by
    unfold codeUnit at read
    split at read
    · rfl
    · cases read
  simp [readUnit, List.take_left' four, List.drop_left' four, read]

/-- No character is a surrogate. -/
theorem not_isHigh (c : Char) : ¬isHigh c.toNat := by
  rintro ⟨low, high⟩
  rcases c.valid with below | above
  · exact absurd (Nat.lt_of_le_of_lt low below) (by decide)
  · exact absurd (above.1.trans high) (by decide)

theorem readUnit_plain {c : Char} (backslash : c ≠ '\\') (rest : List Char) :
    readUnit (c :: rest) = none := by
  unfold readUnit
  split
  next same => exact absurd (List.cons.inj same).1 backslash
  next => rfl

theorem Denotes.read {c : Char} {text : List Char} (denotes : Denotes c text) (rest : List Char) :
    readChar (text ++ rest) = some (c, rest) := by
  cases denotes with
  | plain printable quotation backslash =>
    simp only [List.cons_append, List.nil_append, readChar, readUnit_plain backslash]
    split
    next same => exact absurd (List.cons.inj same).1 backslash
    next same =>
      cases same
      rfl
    next empty => cases empty
  | short letter named =>
    simp only [shortEscapes, List.mem_cons, Prod.mk.injEq, List.not_mem_nil, or_false] at named
    rcases named with named | named | named | named | named | named | named | named
    all_goals
      obtain ⟨rfl, rfl⟩ := named
      rfl
  | unit digits read =>
    simp only [readChar, readUnit_append read, not_isHigh, if_false, Char.ofNat_toNat]
  | pair digits more high low first second surrogates joined =>
    have tail := readUnit_append second rest
    have head := readUnit_append first ('\\' :: 'u' :: more ++ rest)
    simp only [readChar, List.append_assoc, head, surrogates.1, if_true, tail, Option.map_some,
      ← joined, Char.ofNat_toNat]

theorem readable_denotes : Readable Denotes :=
  readable_of_reader readChar fun _ _ rest denotes => denotes.read rest

theorem avoids_denotes : Avoids '"' Denotes := by
  intro c text denotes
  cases denotes with
  | plain printable quotation backslash => exact ⟨c, [], rfl, quotation⟩
  | short letter named => exact ⟨'\\', [letter], rfl, by decide⟩
  | unit digits read => exact ⟨'\\', 'u' :: digits, rfl, by decide⟩
  | pair digits more high low first second surrogates joined => exact ⟨'\\', _, rfl, by decide⟩

theorem readable_spells : Readable Spells := by
  intro s s' text text' rest rest' one two same
  obtain ⟨chars, rests⟩ := (readable_denotes.closed avoids_denotes).after ['"'] _ _ text text' rest
    rest' one two same
  exact ⟨String.toList_injective chars, rests⟩

/-- A field as it stands in the object. -/
def EntryText : String × String → List Char → Prop := Both Spells (After [':'] Spells)

theorem avoids_entryText : Avoids '\x7d' EntryText := by
  rintro ⟨k, v⟩ _ ⟨_, y, ⟨x, _, rfl⟩, _, rfl⟩
  exact ⟨'"', x ++ y, rfl, by decide⟩

/-- The fields in the order of their keys, between braces. -/
theorem canonicalJson_text (standard : StandardQuote quote) (fields : List (String × String)) :
    After ['\x7b'] (Separated ',' '\x7d' EntryText) (Std.TreeMap.ofList fields).toList
      (canonicalJson quote fields).toList := by
  let word (entry : String × String) : List Char := (quote entry.1 ++ ":" ++ quote entry.2).toList
  have writes (entry : String × String) : EntryText entry (word entry) :=
    ⟨_, _, standard entry.1, ⟨_, standard entry.2, rfl⟩, by simp [word]⟩
  refine ⟨_, separated_intercalate ',' '\x7d' word writes _, ?_⟩
  simp [canonicalJson, String.toList_intercalate, word, Function.comp_def]

theorem canonicalJson_injective (standard : StandardQuote quote)
    (same : canonicalJson quote fields = canonicalJson quote others) :
    (Std.TreeMap.ofList fields).toList = (Std.TreeMap.ofList others).toList := by
  have readable := (((readable_spells.both (readable_spells.after [':'])).separated avoids_entryText
    (by decide)).after ['\x7b'] : Readable (After ['\x7b'] (Separated ',' '\x7d' EntryText)))
  have one := canonicalJson_text standard fields
  rw [same] at one
  exact readable.injective one (canonicalJson_text standard others)

/-- The signed text, and so the signed bytes, are the same for the same pairs only, in any order. -/
theorem canonicalJson_eq_iff (quote : String → String) (standard : StandardQuote quote)
    (fields others : List (String × String)) (distinct : (fields.map Prod.fst).Nodup)
    (distinct' : (others.map Prod.fst).Nodup) :
    (canonicalJson quote fields = canonicalJson quote others ↔ fields.Perm others) ∧
      ((canonicalJson quote fields).toUTF8 = (canonicalJson quote others).toUTF8 ↔
        fields.Perm others) := by
  have text : canonicalJson quote fields = canonicalJson quote others ↔ fields.Perm others := by
    refine ⟨fun same => ?_, canonicalJson_perm distinct⟩
    have entries := Std.TreeMap.equiv_iff_toList_eq.mpr (canonicalJson_injective standard same)
    rw [List.perm_ext_iff_of_nodup (.of_map _ distinct) (.of_map _ distinct')]
    rintro ⟨k, v⟩
    rw [← getElem?_ofList_iff distinct, ← getElem?_ofList_iff distinct', entries.getElem?_eq]
  exact ⟨text, String.toByteArray_inj.trans text⟩

def lowerHexDigit (n : Nat) : Char := if n < 10 then Char.ofNat (48 + n) else Char.ofNat (87 + n)

/-- What `serde_json` writes for a character. -/
def serdeEscape (c : Char) : List Char :=
  match shortEscapes.find? fun escape => escape.2 = c ∧ c ≠ '/' with
  | some escape => ['\\', escape.1]
  | none =>
    if c.toNat < 0x20 then
      ['\\', 'u', '0', '0', lowerHexDigit (c.toNat / 16), lowerHexDigit (c.toNat % 16)]
    else [c]

def serdeQuote (s : String) : String := .ofList ('"' :: (s.toList.flatMap serdeEscape ++ ['"']))

theorem serdeEscape_denotes (c : Char) : Denotes c (serdeEscape c) := by
  have digits : ∀ n < 0x20, codeUnit ['0', '0', lowerHexDigit (n / 16), lowerHexDigit (n % 16)] =
      some n := by
    decide
  unfold serdeEscape
  split
  next escape found =>
    have same := List.find?_some found
    have named := List.mem_of_find?_eq_some found
    simp only [decide_eq_true_eq] at same
    rw [← same.1]
    exact .short escape.1 named
  next unnamed =>
    split
    next control => exact .unit _ (digits _ control)
    next printable =>
      refine .plain (Nat.le_of_not_lt printable) ?_ ?_
      · rintro rfl
        simp [shortEscapes] at unnamed
      · rintro rfl
        simp [shortEscapes] at unnamed

theorem serdeQuote_standard : StandardQuote serdeQuote := fun s =>
  ⟨_, closed_flatMap '"' serdeEscape serdeEscape_denotes s.toList, by simp [serdeQuote]⟩

/-- A value that looks like the end of its field and another field is no such field. -/
theorem canonicalJson_eq_iff_imitation :
    canonicalJson serdeQuote [("a", "1\",\"b\":\"2")] ≠
      canonicalJson serdeQuote [("b", "2"), ("a", "1")] := by
  intro same
  have perm := (canonicalJson_eq_iff serdeQuote serdeQuote_standard [("a", "1\",\"b\":\"2")]
    [("b", "2"), ("a", "1")] (by decide) (by decide)).1.mp same
  exact absurd perm (by decide)

end H2hcLinker.Registration
