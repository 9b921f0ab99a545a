/-!
# Bytes as text

`decode` turns any bytes into text: what is no part of a character becomes a replacement character,
one for each longest beginning of a character that is cut short, and one for each other byte.
-/

namespace ShapeCheck.Text

/-- What stands for bytes that are no text. -/
def replacement : Char := '\uFFFD'

/-- Whether a byte goes on with a character. -/
def isTail (b : UInt8) : Bool := 0x80 ≤ b && b ≤ 0xBF

/-- Whether a byte is the second one of a character of three or four bytes, after the first. -/
def isSecond (first b : UInt8) : Bool :=
  isTail b &&
    if first = 0xE0 then 0xA0 ≤ b
    else if first = 0xED then b ≤ 0x9F
    else if first = 0xF0 then 0x90 ≤ b
    else if first = 0xF4 then b ≤ 0x8F
    else true

/-- The low bits of the tails of a character after its first bits. -/
def joined (bits : Nat) (tails : List UInt8) : Char :=
  Char.ofNat (tails.foldl (fun n b => n * 64 + b.toNat % 64) bits)

/-- The characters of bytes. -/
def decodeBytes : List UInt8 → List Char
  | [] => []
  | [a] => [if a < 0x80 then Char.ofNat a.toNat else replacement]
  | a :: b :: rest =>
    if a < 0x80 then Char.ofNat a.toNat :: decodeBytes (b :: rest)
    else if 0xC2 ≤ a && a ≤ 0xDF && isTail b then
      joined (a.toNat % 32) [b] :: decodeBytes rest
    else if 0xE0 ≤ a && a ≤ 0xEF && isSecond a b then
      match rest with
      | c :: rest =>
        if isTail c then joined (a.toNat % 16) [b, c] :: decodeBytes rest
        else replacement :: decodeBytes (c :: rest)
      | [] => [replacement]
    else if 0xF0 ≤ a && a ≤ 0xF4 && isSecond a b then
      match rest with
      | c :: d :: rest =>
        if isTail c then
          if isTail d then joined (a.toNat % 8) [b, c, d] :: decodeBytes rest
          else replacement :: decodeBytes (d :: rest)
        else replacement :: decodeBytes (c :: d :: rest)
      | [c] => if isTail c then [replacement] else replacement :: decodeBytes [c]
      | [] => [replacement]
    else replacement :: decodeBytes (b :: rest)

/-- The text of bytes, whatever they are. -/
def decode (bytes : ByteArray) : String := String.ofList (decodeBytes bytes.toList)

end ShapeCheck.Text
