/-
  Waymark.Query.Percent

  Percent encoding of text: bytes of its UTF-8 form that are not plain are written `%XX`.
-/

namespace Waymark.Query

/-! ## Encoding -/

/-- An uppercase hexadecimal digit. -/
def upperHex (n : Nat) : Char := if n < 10 then Char.ofNat (48 + n) else Char.ofNat (55 + n)

/-- The characters that are written as they are. -/
def isPlain (c : Char) : Bool := c.isAlphanum || c == '-' || c == '_' || c == '.' || c == '~'

/-- The escape of a byte. -/
def escapeByte (b : UInt8) : List Char := ['%', upperHex (b.toNat / 16), upperHex (b.toNat % 16)]

/-- What is written for a character. -/
def encodeChar (c : Char) : List Char :=
  if isPlain c then [c] else (String.utf8EncodeChar c).flatMap escapeByte

/-- The encoded form of a text. -/
def encode (s : String) : String := String.ofList (s.toList.flatMap encodeChar)

/-! ## Decoding -/

/-- The value of a hexadecimal digit of either case. -/
def hexDigit? (c : Char) : Option Nat :=
  if '0' ≤ c && c ≤ '9' then some (c.toNat - 48)
  else if 'a' ≤ c && c ≤ 'f' then some (c.toNat - 87)
  else if 'A' ≤ c && c ≤ 'F' then some (c.toNat - 55)
  else none

/-- The byte that two hexadecimal digits write. -/
def hexByte? (a b : Char) : Option UInt8 := do
  return UInt8.ofNat (16 * (← hexDigit? a) + (← hexDigit? b))

/-- The bytes of a text: `%` and two hexadecimal digits are one byte, every other character is its
    UTF-8 form. -/
def bytes : List Char → List UInt8
  | '%' :: a :: b :: s =>
    match hexByte? a b with
    | some byte => byte :: bytes s
    | none => String.utf8EncodeChar '%' ++ bytes (a :: b :: s)
  | c :: s => String.utf8EncodeChar c ++ bytes s
  | [] => []

theorem bytes_cons_of_ne {c : Char} (hc : c ≠ '%') (s : List Char) :
    bytes (c :: s) = String.utf8EncodeChar c ++ bytes s := by
  rw [bytes]
  intro a b t hp _
  exact hc hp

/-- A blank for every plus sign. -/
def plusToBlank (s : List Char) : List Char := s.map fun c => if c = '+' then ' ' else c

/-- The decoded form of a key or value: a plus sign is a blank, escapes are bytes.  If the bytes
    are no UTF-8 the escapes stay. -/
def decode (s : List Char) : String :=
  let s := plusToBlank s
  (String.fromUTF8? (bytes s).toByteArray).getD (String.ofList s)

end Waymark.Query
