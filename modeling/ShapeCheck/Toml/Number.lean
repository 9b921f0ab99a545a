import ShapeCheck.Toml.Value

/-!
# Numbers and times of TOML documents

A word is what stands between blanks, commas and brackets.

* `grouped?`: digits with single underscores between;
* `integer?`, `float?`: numbers, to the base ten and to others;
* `date?`, `time?`, `moment?`: dates and times, in their shortest written form;
* `word?`: the value of a word.

Integers have 64 bits, a float above the largest double is refused, and of a fraction of a second
nine digits are kept.
-/

namespace ShapeCheck.Toml

open Text (decimalValue digitOf? numberOf? signed ofBits?)

/-! ### Digits -/

/-- The digits without underscores, of which each must stand between two digits. -/
def grouped? (isDigit : Char → Bool) : List Char → Option (List Char)
  | [] => none
  | [c] => if isDigit c then some [c] else none
  | c :: '_' :: rest => if isDigit c then (grouped? isDigit rest).map (c :: ·) else none
  | c :: rest => if isDigit c then (grouped? isDigit rest).map (c :: ·) else none

/-- A natural number to a base. -/
def natural? (base : Nat) (cs : List Char) : Option Nat :=
  (grouped? (fun c => (digitOf? base c).isSome) cs).bind (numberOf? base)

/-- An integer of 64 bits. -/
def bounded? (i : Int) : Option Value := (ofBits? i).map .integer

/-- The digits of a decimal number, which has no zero in front of other digits. -/
def decimal? (cs : List Char) : Option (List Char) := do
  let ds ← grouped? Char.isDigit cs
  if ds.head? = some '0' ∧ ds.length ≠ 1 then none else some ds

/-- An integer. -/
def integer? : List Char → Option Value
  | '0' :: 'x' :: rest => (natural? 16 rest).bind fun n => bounded? n
  | '0' :: 'o' :: rest => (natural? 8 rest).bind fun n => bounded? n
  | '0' :: 'b' :: rest => (natural? 2 rest).bind fun n => bounded? n
  | cs => do
    let (negative, cs) := signed cs
    let n := decimalValue (← decimal? cs)
    bounded? (if negative then -(n : Int) else n)

/-- A digit or an underscore. -/
def isGroup (c : Char) : Bool := c.isDigit || c = '_'

/-- The exponent behind its mark. -/
def exponent? (cs : List Char) : Option Int := do
  let (negative, cs) := signed cs
  let n := decimalValue (← grouped? Char.isDigit cs)
  some (if negative then -(n : Int) else n)

/-- The digits after a point and the exponent of a float, one of which has to be there. -/
def tail? : List Char → Option (List Char × Int)
  | [] => none
  | '.' :: rest => do
    let fraction ← grouped? Char.isDigit (rest.takeWhile isGroup)
    match rest.dropWhile isGroup with
    | [] => some (fraction, 0)
    | mark :: rest => if mark.toLower = 'e' then some (fraction, ← exponent? rest) else none
  | mark :: rest => do if mark.toLower = 'e' then some ([], ← exponent? rest) else none

/-- A float. -/
def float? (cs : List Char) : Option Value := do
  let (negative, cs) := signed cs
  if cs = ['i', 'n', 'f'] then some (.float (.infinite negative))
  else if cs = ['n', 'a', 'n'] then some (.float .nan)
  else
    let whole ← decimal? (cs.takeWhile isGroup)
    let (fraction, exponent) ← tail? (cs.dropWhile isGroup)
    let x := Extended.ofScientific negative (decimalValue (whole ++ fraction))
      (exponent - fraction.length)
    if x = .infinite false then none else some (.float x)

/-! ### Times -/

/-- Two digits, not above a limit. -/
def pair? (most : Nat) (a b : Char) : Option Nat :=
  let n := decimalValue [a, b]
  if a.isDigit ∧ b.isDigit ∧ n ≤ most then some n else none

/-- The days of a month. -/
def daysIn (year month : Nat) : Nat :=
  if month = 2 then
    if year % 4 = 0 ∧ (year % 100 ≠ 0 ∨ year % 400 = 0) then 29 else 28
  else if month = 4 ∨ month = 6 ∨ month = 9 ∨ month = 11 then 30
  else 31

/-- A date, and what follows it. -/
def date? : List Char → Option (List Char × List Char)
  | y :: y' :: y'' :: y''' :: '-' :: m :: m' :: '-' :: d :: d' :: rest => do
    let year := [y, y', y'', y''']
    let month ← pair? 12 m m'
    let day ← pair? 31 d d'
    if year.all Char.isDigit ∧ 1 ≤ month ∧ 1 ≤ day ∧ day ≤ daysIn (decimalValue year) month then
      some (year ++ ['-', m, m', '-', d, d'], rest)
    else none
  | _ => none

/-- The digits of a fraction that are kept: nine, without zeros at the end. -/
def keptFraction (ds : List Char) : List Char :=
  let ds := ((ds.take 9).reverse.dropWhile (· = '0')).reverse
  if ds.isEmpty then [] else '.' :: ds

/-- A time of day whose hours have a limit, and what follows it. -/
def time? (lastHour : Nat) : List Char → Option (List Char × List Char)
  | h :: h' :: ':' :: m :: m' :: ':' :: s :: s' :: rest => do
    let _ ← pair? lastHour h h'
    let _ ← pair? 59 m m'
    let _ ← pair? 60 s s'
    let clock := [h, h', ':', m, m', ':', s, s']
    match rest with
    | '.' :: rest =>
      let ds := rest.takeWhile Char.isDigit
      if ds.isEmpty then none else some (clock ++ keptFraction ds, rest.dropWhile Char.isDigit)
    | rest => some (clock, rest)
  | _ => none

/-- An offset from universal time, which must be the end of the word. -/
def offset? : List Char → Option (List Char)
  | [] => some []
  | [z] => if z.toLower = 'z' then some ['Z'] else none
  | [sign, h, h', ':', m, m'] => do
    let hours ← pair? 23 h h'
    let minutes ← pair? 59 m m'
    if sign ≠ '+' ∧ sign ≠ '-' then none
    else if hours = 0 ∧ minutes = 0 then some ['+', '0', '0', ':', '0', '0']
    else some [sign, h, h', ':', m, m']
  | _ => none

/-- Two digits of a number below a hundred. -/
def twoDigits (n : Nat) : List Char := [Nat.digitChar (n / 10 % 10), Nat.digitChar (n % 10)]

/-- An offset of at most a day, with any number of minutes, which must be the end of the word. -/
def longOffset? : List Char → Option (List Char)
  | [] => some []
  | [z] => if z.toLower = 'z' then some ['Z'] else none
  | [sign, h, h', ':', m, m'] => do
    let minutes := (← pair? 99 h h') * 60 + (← pair? 99 m m')
    if (sign ≠ '+' ∧ sign ≠ '-') ∨ 1440 < minutes then none
    else
      let sign := if minutes = 0 then '+' else sign
      some (sign :: twoDigits (minutes / 60) ++ ':' :: twoDigits (minutes % 60))
  | _ => none

/-- A time of day with an offset, if there is one. -/
def zoned? (lastHour : Nat) (offset? : List Char → Option (List Char)) (cs : List Char) :
    Option (List Char) := do
  let (clock, rest) ← time? lastHour cs
  some (clock ++ (← offset? rest))

/-- A date, a time, or both, with limits for the hours and the offset. -/
def momentWithin? (lastHour : Nat) (offset? : List Char → Option (List Char)) (cs : List Char) :
    Option (List Char) :=
  match date? cs with
  | some (day, []) => some day
  | some (day, mark :: rest) =>
    if mark = 'T' ∨ mark = 't' ∨ mark = ' ' then
      (zoned? lastHour offset? rest).map fun clock => day ++ 'T' :: clock
    else none
  | none =>
    match time? lastHour cs with
    | some (clock, []) => some clock
    | _ => none

/-- A date, a time, or both. -/
def moment? (cs : List Char) : Option (List Char) := momentWithin? 23 offset? cs

/-- A date, a time, or both, as a table can give it by a string; see `Value.settled?`. -/
def looseMoment? (cs : List Char) : Option (List Char) := momentWithin? 24 longOffset? cs

/-! ### Words -/

/-- A character of a word. -/
def isWordChar (c : Char) : Bool :=
  c.isAlphanum || c = '_' || c = '+' || c = '-' || c = '.' || c = ':'

/-- A word and what follows it.  The blank between a date and a time belongs to the word. -/
def cutWord (cs : List Char) : List Char × List Char :=
  let word := cs.takeWhile isWordChar
  match cs.dropWhile isWordChar with
  | ' ' :: c :: rest =>
    if (date? word).map Prod.snd = some [] ∧ c.isDigit then
      (word ++ ' ' :: (c :: rest).takeWhile isWordChar, (c :: rest).dropWhile isWordChar)
    else (word, ' ' :: c :: rest)
  | rest => (word, rest)

/-- The value of a word. -/
def word? (cs : List Char) : Option Value :=
  if cs = ['t', 'r', 'u', 'e'] then some (.bool true)
  else if cs = ['f', 'a', 'l', 's', 'e'] then some (.bool false)
  else
    ((moment? cs).map fun text => Value.datetime (String.ofList text)) <|> float? cs <|> integer? cs

end ShapeCheck.Toml
