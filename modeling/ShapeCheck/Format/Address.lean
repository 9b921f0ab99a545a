import ShapeCheck.Text.Basic

/-!
# Internet addresses of version 6

Up to eight groups of hexadecimal digits with colons between.  Two colons stand for one group of
zeros or more, once at most, and the last two groups may be written as four decimal octets.

* `octet?`, `dottedQuad?`, `hexGroup?`: the parts, each giving what follows it;
* `groups`: as many groups as there are, up to a limit;
* `isAddress`: the whole address.
-/

namespace ShapeCheck.Format.Address

/-- A number from 0 to 255 without leading zeros. -/
def octet? (cs : List Char) : Option (List Char) :=
  let digits := cs.takeWhile Char.isDigit
  if digits.isEmpty ∨ 3 < digits.length then none
  else if digits.head? = some '0' ∧ 1 < digits.length then none
  else if 255 < Text.decimalValue digits then none
  else some (cs.dropWhile Char.isDigit)

/-- An octet after a dot. -/
def dotOctet? : List Char → Option (List Char)
  | '.' :: rest => octet? rest
  | _ => none

/-- Four octets with dots between. -/
def dottedQuad? (cs : List Char) : Option (List Char) :=
  (((octet? cs).bind dotOctet?).bind dotOctet?).bind dotOctet?

/-- Whether a character is a hexadecimal digit. -/
def isHexDigit (c : Char) : Bool :=
  c.isDigit || ('a' ≤ c && c ≤ 'f') || ('A' ≤ c && c ≤ 'F')

/-- One to four hexadecimal digits. -/
def hexGroup? (cs : List Char) : Option (List Char) :=
  let digits := cs.takeWhile isHexDigit
  if digits.isEmpty ∨ 4 < digits.length then none else some (cs.dropWhile isHexDigit)

/-- What follows the colon between groups; there is none before the first one. -/
def afterColon? (first : Bool) (cs : List Char) : Option (List Char) :=
  if first then some cs
  else
    match cs with
    | ':' :: rest => some rest
    | _ => none

/-- The number of groups that stand here, up to a limit, whether they end in octets, and what
follows them.  Octets take the place of two groups. -/
def groups : Nat → Bool → List Char → Nat × Bool × List Char
  | 0, _, cs => (0, false, cs)
  | limit + 1, first, cs =>
    match afterColon? first cs with
    | none => (0, false, cs)
    | some body =>
      match if 0 < limit then dottedQuad? body else none with
      | some rest => (2, true, rest)
      | none =>
        match hexGroup? body with
        | none => (0, false, cs)
        | some rest =>
          let (n, quad, rest) := groups limit false rest
          (n + 1, quad, rest)

/-- Whether the text is an address and nothing else. -/
def isAddress (cs : List Char) : Bool :=
  match groups 8 true cs with
  | (8, _, rest) => rest.isEmpty
  | (_, true, _) => false
  | (n, false, ':' :: ':' :: rest) => (groups (7 - n) true rest).2.2.isEmpty
  | _ => false

end ShapeCheck.Format.Address
