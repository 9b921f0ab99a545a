/-!
# Finite doubles

A finite number of the 64-bit binary format, held exactly and compared exactly.

* `Binary64`: sign, significand and exponent, one representation for each number (and two zeros);
* `Binary64.units`: the value as an integer, counted in units of `2 ^ -1074`; the order and the
  numeric equality are those of `units`;
* `roundDiv`, `nearest?`: a quotient rounded to the nearest double, a half to the even neighbour;
* `ofInt`: an integer of at most 64 bits; `mul?`, `div?`, `powerOfTen?`: arithmetic rounded once;
* `IsWhole`, `wholePart`: numbers without a fraction.
-/

namespace ShapeCheck

/-- `± significand · 2 ^ exponent` units of `2 ^ -1074`.  A significand has at most 53 bits, and all
of them unless the exponent is zero. -/
structure Binary64 where
  negative : Bool
  significand : Nat
  exponent : Nat
  significand_lt : significand < 9007199254740992
  exponent_le : exponent ≤ 2045
  canonical : exponent = 0 ∨ 4503599627370496 ≤ significand
  deriving DecidableEq

namespace Binary64

/-- The magnitude in units of `2 ^ -1074`. -/
def magnitude (x : Binary64) : Nat := x.significand <<< x.exponent

/-- The value in units of `2 ^ -1074`. -/
def units (x : Binary64) : Int := if x.negative then -(x.magnitude : Int) else x.magnitude

/-- The units in one. -/
def one : Nat := 1 <<< 1074

/-- Positive zero. -/
def zero : Binary64 := ⟨false, 0, 0, by decide, by decide, .inl rfl⟩

/-- The number with the other sign. -/
def neg (x : Binary64) : Binary64 := { x with negative := !x.negative }

instance : Inhabited Binary64 := ⟨zero⟩

instance : LT Binary64 := ⟨fun x y => x.units < y.units⟩
instance : LE Binary64 := ⟨fun x y => x.units ≤ y.units⟩
instance (x y : Binary64) : Decidable (x < y) := inferInstanceAs (Decidable (x.units < y.units))
instance (x y : Binary64) : Decidable (x ≤ y) := inferInstanceAs (Decidable (x.units ≤ y.units))

/-- Numeric equality: both zeros are equal. -/
def eqv (x y : Binary64) : Bool := x.units == y.units

theorem lt_def {x y : Binary64} : x < y ↔ x.units < y.units := Iff.rfl
theorem le_def {x y : Binary64} : x ≤ y ↔ x.units ≤ y.units := Iff.rfl
@[simp] theorem eqv_iff {x y : Binary64} : x.eqv y = true ↔ x.units = y.units := by simp [eqv]

/-! ### Rounding -/

/-- `num / den` rounded to the nearest natural number, a half to the even neighbour. -/
def roundDiv (num den : Nat) : Nat :=
  let quotient := num / den
  let twice := 2 * (num % den)
  if twice < den ∨ (twice = den ∧ quotient % 2 = 0) then quotient else quotient + 1

theorem roundDiv_le {num den m : Nat} (hd : 0 < den) (h : num ≤ m * den) :
    roundDiv num den ≤ m := by
  have hq : num / den ≤ m := Nat.div_le_of_le_mul (by rw [Nat.mul_comm]; exact h)
  unfold roundDiv
  simp only
  split
  · exact hq
  · rcases Nat.lt_or_eq_of_le hq with hlt | heq
    · exact hlt
    · have hdm := Nat.div_add_mod num den
      rw [heq, Nat.mul_comm] at hdm
      omega

theorem le_roundDiv {num den m : Nat} (hd : 0 < den) (h : m * den ≤ num) :
    m ≤ roundDiv num den := by
  have hq : m ≤ num / den := (Nat.le_div_iff_mul_le hd).2 h
  unfold roundDiv
  simp only
  split <;> omega

/-- The number with these parts, when they are in range and canonical. -/
def ofParts? (negative : Bool) (significand exponent : Nat) : Option Binary64 :=
  if h : significand < 9007199254740992 ∧ exponent ≤ 2045 ∧
      (exponent = 0 ∨ 4503599627370496 ≤ significand) then
    some ⟨negative, significand, exponent, h.1, h.2.1, h.2.2⟩
  else
    none

/-- The double nearest to `± num / den` units; `none` beyond the largest one. -/
def nearest? (negative : Bool) (num den : Nat) : Option Binary64 :=
  let exponent := (num / den).log2 - 52
  let significand := roundDiv num (den <<< exponent)
  if significand = 1 <<< 53 then
    ofParts? negative (1 <<< 52) (exponent + 1)
  else
    ofParts? negative significand exponent

theorem ofParts?_isSome {negative : Bool} {m e : Nat} (hm : m < 9007199254740992) (he : e ≤ 2045)
    (hc : e = 0 ∨ 4503599627370496 ≤ m) : (ofParts? negative m e).isSome := by
  simp only [ofParts?, dif_pos (And.intro hm (And.intro he hc)), Option.isSome_some]

/-- The bits of a magnitude that is sure to be in range. -/
def rangeBits : Nat := 2097

/-- Every quotient of at most `rangeBits` bits has a nearest double. -/
theorem nearest?_isSome (negative : Bool) {num den : Nat} (hd : 0 < den)
    (h : num / den < 1 <<< rangeBits) : (nearest? negative num den).isSome := by
  rw [Nat.shiftLeft_eq, Nat.one_mul] at h
  have hlog : (num / den).log2 - 52 ≤ 2044 := by
    rcases Nat.eq_zero_or_pos (num / den) with h0 | hpos
    · rw [h0]; decide
    · have hbits : (num / den).log2 < rangeBits := (Nat.log2_lt (Nat.ne_of_gt hpos)).2 h
      have hrange : rangeBits = 2097 := rfl
      omega
  have hdpos : 0 < den <<< ((num / den).log2 - 52) := by
    rw [Nat.shiftLeft_eq]
    exact Nat.mul_pos hd (Nat.two_pow_pos _)
  have hup : num ≤ 2 ^ 53 * den <<< ((num / den).log2 - 52) := by
    rw [Nat.shiftLeft_eq]
    have hlt : num / den < 2 ^ ((num / den).log2 + 1) := Nat.lt_log2_self
    have hmono : (2 : Nat) ^ ((num / den).log2 + 1) ≤ 2 ^ (53 + ((num / den).log2 - 52)) :=
      Nat.pow_le_pow_right (by decide) (by omega)
    have hle : num < den * 2 ^ (53 + ((num / den).log2 - 52)) := by
      rw [Nat.mul_comm]
      exact (Nat.div_lt_iff_lt_mul hd).1 (Nat.lt_of_lt_of_le hlt hmono)
    rw [Nat.pow_add] at hle
    calc num ≤ den * (2 ^ 53 * 2 ^ ((num / den).log2 - 52)) := Nat.le_of_lt hle
      _ = 2 ^ 53 * (den * 2 ^ ((num / den).log2 - 52)) := by
        rw [Nat.mul_left_comm]
  have hsig := roundDiv_le hdpos hup
  have hlow : (num / den).log2 - 52 = 0 ∨
      2 ^ 52 ≤ roundDiv num (den <<< ((num / den).log2 - 52)) := by
    rcases Nat.eq_zero_or_pos ((num / den).log2 - 52) with h0 | hpos
    · exact .inl h0
    · refine .inr (le_roundDiv hdpos ?_)
      have hne : num / den ≠ 0 := by
        intro h0
        rw [h0] at hpos
        exact absurd hpos (by decide)
      have hself := Nat.log2_self_le hne
      rw [Nat.shiftLeft_eq]
      calc 2 ^ 52 * (den * 2 ^ ((num / den).log2 - 52))
          = 2 ^ (52 + ((num / den).log2 - 52)) * den := by
            rw [Nat.pow_add, Nat.mul_left_comm, Nat.mul_comm]
        _ = 2 ^ (num / den).log2 * den := by
            rw [show 52 + ((num / den).log2 - 52) = (num / den).log2 by omega]
        _ ≤ num / den * den := Nat.mul_le_mul_right _ hself
        _ ≤ num := Nat.div_mul_le_self _ _
  unfold nearest?
  simp only
  split
  · exact ofParts?_isSome (by decide) (by omega) (.inr (by decide))
  · rename_i hne
    have hne : roundDiv num (den <<< ((num / den).log2 - 52)) ≠ 9007199254740992 := hne
    exact ofParts?_isSome (by omega) (by omega) hlow

theorem shiftLeft_lt {n a b c : Nat} (h : n < 1 <<< a) (hc : a + b ≤ c) : n <<< b < 1 <<< c := by
  rw [Nat.shiftLeft_eq, Nat.one_mul] at h
  rw [Nat.shiftLeft_eq, Nat.shiftLeft_eq, Nat.one_mul]
  calc n * 2 ^ b < 2 ^ a * 2 ^ b := Nat.mul_lt_mul_of_pos_right h (Nat.two_pow_pos _)
    _ = 2 ^ (a + b) := (Nat.pow_add 2 a b).symm
    _ ≤ 2 ^ c := Nat.pow_le_pow_right (by decide) hc

/-- The double nearest to a natural number of at most 65 bits. -/
def ofNat (negative : Bool) (n : Nat) (h : n < 1 <<< 65) : Binary64 :=
  (nearest? negative (n <<< 1074) 1).get <| by
    refine nearest?_isSome negative (by decide) ?_
    rw [Nat.div_one]
    exact shiftLeft_lt h (by decide)

/-- The double nearest to an integer of at most 64 bits. -/
def ofInt (i : Int) (h : -9223372036854775808 ≤ i ∧ i < 18446744073709551616) : Binary64 :=
  ofNat (i < 0) i.natAbs (by
    have hlimit : 1 <<< 65 = 36893488147419103232 := rfl
    omega)

/-! ### Arithmetic rounded once -/

/-- The product, rounded to the nearest double. -/
def mul? (x y : Binary64) : Option Binary64 :=
  nearest? (x.negative != y.negative) (x.magnitude * y.magnitude) one

/-- The quotient, rounded to the nearest double; meant for a divisor other than zero. -/
def div? (x y : Binary64) : Option Binary64 :=
  nearest? (x.negative != y.negative) (x.magnitude <<< 1074) y.magnitude

/-- The double nearest to `10 ^ k`. -/
def powerOfTen? (k : Nat) : Option Binary64 := nearest? false (Nat.pow 10 k <<< 1074) 1

/-! ### Numbers without a fraction -/

/-- The number has no fraction. -/
def IsWhole (x : Binary64) : Prop := x.magnitude % one = 0

instance (x : Binary64) : Decidable x.IsWhole := inferInstanceAs (Decidable (_ = _))

/-- The magnitude without its fraction. -/
def wholePart (x : Binary64) : Nat := x.magnitude / one

end Binary64

end ShapeCheck
