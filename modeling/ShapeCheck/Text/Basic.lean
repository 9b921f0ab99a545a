/-!
# Characters, bytes and digits

* `byteLength`: how many bytes a text takes;
* `digitValue`, `decimalValue`, `digitOf?`, `numberOf?`: the numbers that digits stand for;
* `signed`, `integer?`: signs, and integers of 64 bits;
* `Read`, `push`: what readers of characters answer.
-/

namespace ShapeCheck.Text

/-- The length of a text in bytes. -/
def byteLength (cs : List Char) : Nat := cs.foldl (fun n c => n + c.utf8Size) 0

/-- The value of a decimal digit. -/
def digitValue (c : Char) : Nat := c.toNat - '0'.toNat

/-- The number that decimal digits stand for. -/
def decimalValue (ds : List Char) : Nat := ds.foldl (fun n d => n * 10 + digitValue d) 0

/-- The value of a digit to a base of at most sixteen. -/
def digitOf? (base : Nat) (c : Char) : Option Nat :=
  let n :=
    if c.isDigit then digitValue c
    else if 'a' ≤ c ∧ c ≤ 'f' then c.toNat - 'a'.toNat + 10
    else if 'A' ≤ c ∧ c ≤ 'F' then c.toNat - 'A'.toNat + 10
    else base
  if n < base then some n else none

/-- The number that digits to a base stand for. -/
def numberOf? (base : Nat) (ds : List Char) : Option Nat :=
  (ds.mapM (digitOf? base)).map fun values => values.foldl (fun n d => n * base + d) 0

/-- The character of a code point, unless it is a surrogate or too large. -/
def charOfCode? (n : Nat) : Option Char :=
  if n.isValidChar then some (Char.ofNat n) else none

/-- A sign, if there is one, and what follows. -/
def signed : List Char → Bool × List Char
  | '+' :: rest => (false, rest)
  | '-' :: rest => (true, rest)
  | cs => (false, cs)

/-- The integer, if it takes at most 64 bits. -/
def ofBits? (i : Int) : Option Int :=
  if -9223372036854775808 ≤ i ∧ i < 9223372036854775808 then some i else none

/-- An integer of 64 bits with an optional sign. -/
def integer? (cs : List Char) : Option Int :=
  let (negative, ds) := signed cs
  let n : Int := decimalValue ds
  if !ds.isEmpty && ds.all Char.isDigit then ofBits? (if negative then -n else n) else none

/-- What has been read, and what follows it. -/
abbrev Read (α : Type) := Option (α × List Char)

/-- A piece put in front of what has been read, if it is one. -/
def push {α : Type} (piece? : Option α) (r : Read (List α)) : Read (List α) :=
  match piece?, r with
  | some piece, some (done, rest) => some (piece :: done, rest)
  | _, _ => none

theorem toNat_of_isDigit {d : Char} (h : d.isDigit = true) : d.toNat = 48 + digitValue d := by
  have hd : 48 ≤ d.toNat ∧ d.toNat ≤ 57 := Char.isDigit_iff_toNat.1 h
  rw [digitValue, show '0'.toNat = 48 from rfl]
  omega

theorem digitValue_lt {d : Char} (h : d.isDigit = true) : digitValue d < 10 := by
  have hd : 48 ≤ d.toNat ∧ d.toNat ≤ 57 := Char.isDigit_iff_toNat.1 h
  have hv := toNat_of_isDigit h
  omega

theorem foldl_byteLength (cs : List Char) (n : Nat) :
    cs.foldl (fun n c => n + c.utf8Size) n = n + byteLength cs := by
  induction cs generalizing n with
  | nil => rfl
  | cons c cs ih =>
    rw [byteLength, List.foldl_cons, List.foldl_cons, ih, ih]
    omega

@[simp] theorem byteLength_nil : byteLength [] = 0 := rfl

@[simp] theorem byteLength_cons (c : Char) (cs : List Char) :
    byteLength (c :: cs) = c.utf8Size + byteLength cs := by
  rw [byteLength, List.foldl_cons, foldl_byteLength]
  omega

@[simp] theorem byteLength_append (cs ds : List Char) :
    byteLength (cs ++ ds) = byteLength cs + byteLength ds := by
  induction cs with
  | nil => simp
  | cons c cs ih => simp [ih, Nat.add_assoc]

/-- Characters of a kind in front of something that starts with none of the kind are all those at the
front. -/
theorem span_append {p : Char → Bool} {cs : List Char} (h : ∀ c ∈ cs, p c = true)
    (rest : List Char) (hr : ∀ c ∈ rest.head?, p c = false) :
    (cs ++ rest).takeWhile p = cs ∧ (cs ++ rest).dropWhile p = rest := by
  rw [List.takeWhile_append_of_pos h, List.dropWhile_append_of_pos h]
  cases rest with
  | nil => exact ⟨List.append_nil cs, rfl⟩
  | cons c rest =>
    have hc : ¬ p c = true := by simpa using hr c rfl
    rw [List.takeWhile_cons_of_neg hc, List.dropWhile_cons_of_neg hc]
    exact ⟨List.append_nil cs, rfl⟩

end ShapeCheck.Text
