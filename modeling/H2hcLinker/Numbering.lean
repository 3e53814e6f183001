import Mathlib.Data.Nat.Digits.Defs
import Mathlib.Logic.Encodable.Basic
import Mathlib.Logic.Equiv.List
import Mathlib.Tactic.DeriveEncodable

/-! Countable data as bytes: the base-256 digits of a numbering, read back without loss. It
stands for serialisers and for hash functions without collisions where one is needed. -/
namespace Numbering

instance encodableUInt8 : Encodable UInt8 :=
  Encodable.ofLeftInverse UInt8.toNat UInt8.ofNat fun _ => UInt8.ofNat_toNat

instance encodableChar : Encodable Char :=
  Encodable.ofLeftInverse Char.toNat Char.ofNat Char.ofNat_toNat

instance encodableString : Encodable String :=
  Encodable.ofLeftInverse String.toList String.ofList fun _ => String.ofList_toList

variable {α : Type} [Encodable α]

def toBytes (a : α) : List UInt8 := (Nat.digits 256 (Encodable.encode a)).map UInt8.ofNat

def ofBytes (bytes : List UInt8) : Option α :=
  Encodable.decode (Nat.ofDigits 256 (bytes.map UInt8.toNat))

theorem ofBytes_toBytes (a : α) : ofBytes (toBytes a) = some a := by
  have digits : ((Nat.digits 256 (Encodable.encode a)).map UInt8.ofNat).map UInt8.toNat =
      Nat.digits 256 (Encodable.encode a) := by
    rw [List.map_map, List.map_congr_left, List.map_id]
    intro digit member
    have small : digit < 256 := Nat.digits_lt_base (by omega) member
    simp only [Function.comp_apply, UInt8.toNat_ofNat', id_eq]
    omega
  rw [ofBytes, toBytes, digits, Nat.ofDigits_digits, Encodable.encodek]

theorem toBytes_injective : Function.Injective (toBytes : α → List UInt8) := by
  intro a b same
  have read := congrArg (ofBytes (α := α)) same
  rw [ofBytes_toBytes, ofBytes_toBytes] at read
  exact Option.some.inj read

end Numbering
