import ShapeCheck.Json.Basic
import ShapeCheck.Text.Basic

/-!
# Reading JSON

* `Json.Fault`: what is wrong with a text;
* `Json.ReadError`: a fault with its line and column, counted in bytes;
* `Json.read`: the value of a text, or the first fault.

A reader takes the characters that are left and gives a value with the characters after it.  A
fault is placed by the number of bytes left unread (`Stop`); `position` turns it into a line and a
column.  Nesting is bounded by `maxDepth`, which is what the recursion of `value` descends on.
A repeated member keeps its first place and takes its last value.
-/

namespace ShapeCheck.Json

open Text (byteLength digitValue numberOf?)

/-- What is wrong with a text. -/
inductive Fault where
  | expectedValue
  | endInValue
  | endInObject
  | endInList
  | endInString
  | invalidNumber
  | numberOutOfRange
  | trailingComma
  | trailingCharacters
  | keyMustBeString
  | invalidEscape
  | expectedCommaOrBracket
  | expectedCommaOrBrace
  | expectedColon
  | expectedIdent
  | endInHexEscape
  | loneSurrogate
  | controlCharacter
  | tooDeep
  deriving DecidableEq, Repr

/-- The words for a fault. -/
def Fault.message : Fault → String
  | expectedValue => "expected value"
  | endInValue => "EOF while parsing a value"
  | endInObject => "EOF while parsing an object"
  | endInList => "EOF while parsing a list"
  | endInString => "EOF while parsing a string"
  | invalidNumber => "invalid number"
  | numberOutOfRange => "number out of range"
  | trailingComma => "trailing comma"
  | trailingCharacters => "trailing characters"
  | keyMustBeString => "key must be a string"
  | invalidEscape => "invalid escape"
  | expectedCommaOrBracket => "expected `,` or `]`"
  | expectedCommaOrBrace => "expected `,` or `\x7d`"
  | expectedColon => "expected `:`"
  | expectedIdent => "expected ident"
  | endInHexEscape => "unexpected end of hex escape"
  | loneSurrogate => "lone leading surrogate in hex escape"
  | controlCharacter => "control character (\\u0000-\\u001F) found while parsing a string"
  | tooDeep => "recursion limit exceeded"

/-- A fault and where it was found. -/
structure ReadError where
  fault : Fault
  line : Nat
  column : Nat
  deriving DecidableEq, Repr

/-- The text of a read error. -/
def ReadError.message (e : ReadError) : String :=
  e.fault.message ++ " at line " ++ toString e.line ++ " column " ++ toString e.column

/-- A fault with the number of bytes left unread at its position. -/
structure Stop where
  fault : Fault
  left : Nat

/-- The result of a reader: a value and the characters after it. -/
abbrev Outcome (α : Type) := Except Stop (α × List Char)

/-- A fault at the start of the characters that are left. -/
def stopAt {α : Type} (fault : Fault) (rest : List Char) : Except Stop α :=
  .error ⟨fault, byteLength rest⟩

/-- A fault just behind the first byte of the characters that are left. -/
def stopAfter {α : Type} (fault : Fault) (rest : List Char) : Except Stop α :=
  .error ⟨fault, byteLength rest - 1⟩

/-- The line and the column that a number of bytes leads to. -/
def position : Nat → Nat → List Char → Nat → Nat × Nat
  | line, column, [], _ => (line, column)
  | line, column, c :: rest, offset =>
    if offset < c.utf8Size then (line, column + offset)
    else if c = '\n' then position (line + 1) 0 rest (offset - c.utf8Size)
    else position line (column + c.utf8Size) rest (offset - c.utf8Size)

/-- The four blank characters. -/
def isBlank (c : Char) : Bool := c = ' ' || c = '\n' || c = '\t' || c = '\r'

/-- The characters from the first that is not blank. -/
def skipBlank (cs : List Char) : List Char := cs.dropWhile isBlank

/-! ### Numbers -/

/-- Take digits into a number while it stays within a limit; the digits that do not fit remain. -/
def absorb (limit : Nat) : Nat → List Char → Nat × List Char
  | n, [] => (n, [])
  | n, d :: ds =>
    if limit < n * 10 + digitValue d then (n, d :: ds) else absorb limit (n * 10 + digitValue d) ds

/-- The largest whole number kept as an integer. -/
def maxInteger : Nat := 18446744073709551615

/-- The largest exponent that is taken at its value. -/
def maxExponent : Nat := 2147483647

/-- The number divided by `10 ^ k`, in steps of at most `10 ^ 308`, each rounded. -/
def scaleDown (x : Binary64) (k : Nat) : Binary64 :=
  let quotient (step : Nat) : Binary64 :=
    ((Binary64.powerOfTen? step).bind x.div?).getD Binary64.zero
  if k ≤ 308 then quotient k
  else if x.significand = 0 then x
  else scaleDown (quotient 308) (k - 308)
termination_by k

/-- The number multiplied by `10 ^ k` and rounded; `none` when it is too large. -/
def scaleUp? (x : Binary64) (k : Nat) : Option Binary64 :=
  if k ≤ 308 then (Binary64.powerOfTen? k).bind x.mul?
  else if x.significand = 0 then some x
  else none

/-- The double for `± significand · 10 ^ exponent`; `rest` is where it ends. -/
def double (negative : Bool) (significand : Nat) (exponent : Int) (rest : List Char) :
    Outcome Number :=
  let start :=
    if h : significand < 1 <<< 65 then Binary64.ofNat false significand h else Binary64.zero
  let scaled :=
    if 0 ≤ exponent then scaleUp? start exponent.toNat
    else some (scaleDown start exponent.natAbs)
  match scaled with
  | some x => .ok (.double (if negative then x.neg else x), rest)
  | none => stopAt .numberOutOfRange rest

/-- The digits of an exponent and the double that they complete. -/
def exponentDigits (negative : Bool) (significand : Nat) (before : Int) (down : Bool)
    (cs : List Char) : Outcome Number :=
  match cs with
  | [] => stopAt .endInValue []
  | c :: _ =>
    if c.isDigit then
      let ds := cs.takeWhile Char.isDigit
      let rest := cs.dropWhile Char.isDigit
      match absorb maxExponent 0 ds with
      | (n, []) => double negative significand (if down then before - n else before + n) rest
      | (_, _ :: more) =>
        if significand ≠ 0 ∧ !down then stopAt .numberOutOfRange (more ++ rest)
        else .ok (.double { Binary64.zero with negative := negative }, rest)
    else stopAfter .invalidNumber cs

/-- An exponent, after its mark. -/
def exponentPart (negative : Bool) (significand : Nat) (before : Int) :
    List Char → Outcome Number
  | '+' :: rest => exponentDigits negative significand before false rest
  | '-' :: rest => exponentDigits negative significand before true rest
  | rest => exponentDigits negative significand before false rest

/-- A fraction, after its point. -/
def fractionPart (negative : Bool) (significand : Nat) (before : Int) (cs : List Char) :
    Outcome Number :=
  let ds := cs.takeWhile Char.isDigit
  let rest := cs.dropWhile Char.isDigit
  if ds.isEmpty then
    stopAfter (if rest.isEmpty then .endInValue else .invalidNumber) rest
  else
    let (total, dropped) := absorb maxInteger significand ds
    let exponent := before - (ds.length - dropped.length : Nat)
    match rest with
    | 'e' :: more => exponentPart negative total exponent more
    | 'E' :: more => exponentPart negative total exponent more
    | _ => double negative total exponent rest

/-- A whole number without fraction or exponent: a double when it is `-0` or too large. -/
def whole (negative : Bool) (n : Nat) (rest : List Char) : Outcome Number :=
  if h : negative = false ∧ n < 18446744073709551616 then
    .ok (.integer n (by omega), rest)
  else if h : 0 < n ∧ n ≤ 9223372036854775808 then
    .ok (.integer (-(n : Int)) (by omega), rest)
  else
    double negative n 0 rest

/-- The rest of a number after its whole digits. -/
def numberTail (negative : Bool) (ds rest : List Char) : Outcome Number :=
  let (n, dropped) := absorb maxInteger 0 ds
  match rest with
  | '.' :: more => fractionPart negative n dropped.length more
  | 'e' :: more => exponentPart negative n dropped.length more
  | 'E' :: more => exponentPart negative n dropped.length more
  | _ => if dropped.isEmpty then whole negative n rest else double negative n dropped.length rest

/-- A number, after its sign. -/
def unsigned (negative : Bool) (cs : List Char) : Outcome Number :=
  match cs with
  | [] => stopAt .endInValue []
  | '0' :: rest =>
    if (rest.head?.any Char.isDigit) then stopAfter .invalidNumber rest
    else numberTail negative ['0'] rest
  | c :: _ =>
    if c.isDigit then numberTail negative (cs.takeWhile Char.isDigit) (cs.dropWhile Char.isDigit)
    else stopAfter .invalidNumber cs

/-! ### Strings -/

/-- Four hexadecimal digits; the fault covers the four bytes that stand there. -/
def fourHex (cs : List Char) : Outcome Nat :=
  let invalid : Outcome Nat :=
    if byteLength cs < 4 then stopAt .endInString []
    else .error ⟨.invalidEscape, byteLength cs - 4⟩
  match cs with
  | a :: b :: c :: d :: rest =>
    match numberOf? 16 [a, b, c, d] with
    | some n => .ok (n, rest)
    | none => invalid
  | _ => invalid

/-- One expected character of the second half of a pair of escapes. -/
def expectInPair (wanted : Char) : List Char → Except Stop (List Char)
  | [] => stopAt .endInString []
  | c :: rest => if c = wanted then .ok rest else stopAfter .endInHexEscape (c :: rest)

/-- The code after `\u`; codes of a surrogate pair are joined. -/
def unicodeEscape (cs : List Char) : Except Stop (Char × List Char) := do
  let (n, rest) ← fourHex cs
  if 0xDC00 ≤ n ∧ n ≤ 0xDFFF then
    stopAt .loneSurrogate rest
  else if n < 0xD800 ∨ 0xDBFF < n then
    .ok (Char.ofNat n, rest)
  else
    let rest ← expectInPair '\\' rest
    let rest ← expectInPair 'u' rest
    let (m, rest) ← fourHex rest
    if m < 0xDC00 ∨ 0xDFFF < m then stopAt .loneSurrogate rest
    else .ok (Char.ofNat ((n - 0xD800) * 0x400 + (m - 0xDC00) + 0x10000), rest)

/-- The character that an escape stands for. -/
def escape (cs : List Char) : Outcome Char :=
  match cs with
  | [] => stopAt .endInString []
  | 'u' :: rest => unicodeEscape rest
  | c :: rest =>
    let simple : Option Char := match c with
      | '"' => some '"'
      | '\\' => some '\\'
      | '/' => some '/'
      | 'b' => some '\x08'
      | 'f' => some '\x0c'
      | 'n' => some '\n'
      | 'r' => some '\r'
      | 't' => some '\t'
      | _ => none
    match simple with
    | some character => .ok (character, rest)
    | none => stopAfter .invalidEscape cs

/-- The characters of a string up to its closing quote; the fuel bounds their number. -/
def stringBody : Nat → List Char → List Char → Except Stop (String × List Char)
  | 0, _, rest => stopAt .endInString rest
  | fuel + 1, done, cs =>
    match cs with
    | [] => stopAt .endInString []
    | '"' :: rest => .ok (String.ofList done.reverse, rest)
    | '\\' :: rest => do
      let (c, rest) ← escape rest
      stringBody fuel (c :: done) rest
    | c :: rest =>
      if c.toNat < 32 then stopAt .controlCharacter rest else stringBody fuel (c :: done) rest

/-- A string, after its opening quote. -/
def stringTail (cs : List Char) : Outcome String := stringBody (cs.length + 1) [] cs

/-! ### Values -/

/-- The rest of a name such as `null`, and the value that it stands for. -/
def ident (value : Json) : List Char → List Char → Outcome Json
  | [], rest => .ok (value, rest)
  | _ :: _, [] => stopAt .endInValue []
  | wanted :: more, c :: rest =>
    if c = wanted then ident value more rest else stopAfter .expectedIdent (c :: rest)

/-- The elements of an array after its bracket; the fuel bounds their number. -/
def elements (element : List Char → Outcome Json) :
    Nat → List Json → List Char → Except Stop (List Json × List Char)
  | 0, _, rest => stopAfter .endInList rest
  | fuel + 1, done, cs =>
    let next (cs : List Char) : Except Stop (List Json × List Char) := do
      let (x, rest) ← element cs
      elements element fuel (x :: done) rest
    match skipBlank cs with
    | [] => stopAfter .endInList []
    | ']' :: rest => .ok (done.reverse, rest)
    | c :: rest =>
      if done.isEmpty then next (c :: rest)
      else if c = ',' then
        match skipBlank rest with
        | [] => stopAfter .endInValue []
        | ']' :: rest => stopAfter .trailingComma (']' :: rest)
        | rest => next rest
      else stopAfter .expectedCommaOrBracket (c :: rest)

/-- A colon between a name and its value. -/
def colon (cs : List Char) : Except Stop (List Char) :=
  match skipBlank cs with
  | [] => stopAfter .endInObject []
  | ':' :: rest => .ok rest
  | rest => stopAfter .expectedColon rest

/-- The members of an object after its brace; the fuel bounds their number. -/
def members (element : List Char → Outcome Json) :
    Nat → Members → List Char → Except Stop (Members × List Char)
  | 0, _, rest => stopAfter .endInObject rest
  | fuel + 1, done, cs =>
    let next (cs : List Char) : Except Stop (Members × List Char) := do
      let (name, rest) ← stringTail cs
      let rest ← colon rest
      let (x, rest) ← element rest
      members element fuel (put name x done) rest
    match skipBlank cs with
    | [] => stopAfter .endInObject []
    | '\x7d' :: rest => .ok (done, rest)
    | c :: rest =>
      if done.isEmpty then
        if c = '"' then next rest else stopAfter .keyMustBeString (c :: rest)
      else if c = ',' then
        match skipBlank rest with
        | [] => stopAfter .endInValue []
        | '"' :: rest => next rest
        | '\x7d' :: rest => stopAfter .trailingComma ('\x7d' :: rest)
        | rest => stopAfter .keyMustBeString rest
      else stopAfter .expectedCommaOrBrace (c :: rest)

/-- A number with its optional sign. -/
def signed : List Char → Outcome Number
  | '-' :: rest => unsigned true rest
  | rest => unsigned false rest

/-- A value that nests at most as deep as given. -/
def value (depth : Nat) (cs : List Char) : Outcome Json :=
  match skipBlank cs with
  | [] => stopAfter .endInValue []
  | 'n' :: rest => ident null ['u', 'l', 'l'] rest
  | 't' :: rest => ident (bool true) ['r', 'u', 'e'] rest
  | 'f' :: rest => ident (bool false) ['a', 'l', 's', 'e'] rest
  | '"' :: rest => (stringTail rest).map fun (s, rest) => (string s, rest)
  | '[' :: rest =>
    match depth with
    | 0 => stopAfter .tooDeep ('[' :: rest)
    | depth + 1 =>
      (elements (value depth) (rest.length + 1) [] rest).map fun (xs, rest) => (array xs, rest)
  | '\x7b' :: rest =>
    match depth with
    | 0 => stopAfter .tooDeep ('\x7b' :: rest)
    | depth + 1 =>
      (members (value depth) (rest.length + 1) [] rest).map fun (ms, rest) => (object ms, rest)
  | c :: rest =>
    if c = '-' || c.isDigit then
      (signed (c :: rest)).map fun (n, rest) => (number n, rest)
    else stopAfter .expectedValue (c :: rest)
termination_by structural depth

/-- The deepest nesting that is read. -/
def maxDepth : Nat := 127

/-- A value with nothing but blanks around it. -/
def document (cs : List Char) : Except Stop Json := do
  let (j, rest) ← value maxDepth cs
  match skipBlank rest with
  | [] => .ok j
  | rest => stopAfter .trailingCharacters rest

/-- The value of a text, or the first fault in it. -/
def read (text : String) : Except ReadError Json :=
  let cs := text.toList
  match document cs with
  | .ok j => .ok j
  | .error stop =>
    let (line, column) := position 1 0 cs (byteLength cs - stop.left)
    .error ⟨stop.fault, line, column⟩

end ShapeCheck.Json
