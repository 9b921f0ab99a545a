import ShapeCheck.Proofs.Number

/-!
# Integers as doubles

The double that an integer is read as stands for an integer again: the one that is left when all but
the 53 leading binary digits are rounded away.

* `Binary64.roundNat`, `Binary64.rounded`: a natural number, an integer, with 53 binary digits;
* `Binary64.roundNat_mul_two_pow`: a number that has no more digits is left as it is;
* `Binary64.roundNat_nearest`: no number with so few digits is nearer;
* `Binary64.rounded_mono`: rounding keeps the order, but may make different integers equal;
* `Binary64.units_ofInt`: the double of an integer stands for the rounded integer.
-/

namespace ShapeCheck

namespace Binary64

/-! ### Quotients -/

theorem roundDiv_mul_mul (a b : Nat) {k : Nat} (hk : 0 < k) :
    roundDiv (a * k) (b * k) = roundDiv a b := by
  have hlt : 2 * (a % b * k) < b * k ↔ 2 * (a % b) < b := by
    rw [← Nat.mul_assoc]
    exact Nat.mul_lt_mul_right hk
  have heq : 2 * (a % b * k) = b * k ↔ 2 * (a % b) = b := by
    rw [← Nat.mul_assoc]
    exact Nat.mul_left_inj hk.ne'
  simp only [roundDiv, Nat.mul_div_mul_right _ _ hk, Nat.mul_mod_mul_right, hlt, heq]

@[simp] theorem roundDiv_zero (d : Nat) : roundDiv 0 d = 0 := by
  simp [roundDiv, eq_comm]

theorem roundDiv_mul_cancel {n d : Nat} (hd : 0 < d) (h : d ∣ n) : roundDiv n d * d = n := by
  obtain ⟨q, rfl⟩ := h
  rw [Nat.mul_comm d q, roundDiv_mul_right q hd]

theorem roundDiv_mono {a b d : Nat} (hd : 0 < d) (h : a ≤ b) : roundDiv a d ≤ roundDiv b d := by
  have hq : a / d ≤ b / d := Nat.div_le_div_right h
  have ha := Nat.div_add_mod a d
  have hb := Nat.div_add_mod b d
  rcases Nat.lt_or_eq_of_le hq with hlt | heq
  · -- the smaller quotient is rounded to the larger one at most
    have hle : roundDiv a d ≤ a / d + 1 := by
      refine roundDiv_le hd ?_
      rw [Nat.add_one_mul, Nat.mul_comm]
      have hr := Nat.mod_lt a hd
      omega
    have hge : b / d ≤ roundDiv b d := le_roundDiv hd (Nat.div_mul_le_self b d)
    omega
  · -- with one quotient it is the remainders that are in order
    rw [heq] at ha
    have hr : a % d ≤ b % d := by omega
    unfold roundDiv
    simp only [heq]
    split <;> split <;> omega

/-- No multiple of the divisor is nearer than the rounded one. -/
theorem roundDiv_nearest (n q : Nat) {d : Nat} (hd : 0 < d) :
    ((n : Int) - (roundDiv n d * d : Nat)).natAbs ≤ ((n : Int) - (q * d : Nat)).natAbs := by
  have hn := Nat.div_add_mod n d
  have hlt := Nat.mod_lt n hd
  rw [Nat.mul_comm] at hn
  -- the multiples on both sides of `n` are the nearest ones
  have hq : q * d ≤ n / d * d ∨ (n / d + 1) * d ≤ q * d := by
    rcases Nat.lt_or_ge (n / d) q with h | h
    · exact .inr (Nat.mul_le_mul_right d h)
    · exact .inl (Nat.mul_le_mul_right d h)
  unfold roundDiv
  simp only
  split
  · rw [Nat.add_one_mul] at hq
    omega
  · rw [Nat.add_one_mul] at hq ⊢
    omega

/-! ### Natural numbers -/

/-- The binary digits of a number beyond 53. -/
def excess (n : Nat) : Nat := n.log2 - 52

/-- A number rounded to 53 binary digits, a half to the even neighbour. -/
def roundNat (n : Nat) : Nat := roundDiv n (2 ^ excess n) * 2 ^ excess n

theorem log2_mul_two_pow {n : Nat} (hn : n ≠ 0) (k : Nat) : (n * 2 ^ k).log2 = n.log2 + k := by
  have hk : n * 2 ^ k ≠ 0 := Nat.mul_ne_zero hn (Nat.two_pow_pos k).ne'
  refine (Nat.log2_eq_iff hk).2 ⟨?_, ?_⟩
  · rw [Nat.pow_add]
    exact Nat.mul_le_mul_right _ (Nat.log2_self_le hn)
  · rw [Nat.add_right_comm, Nat.pow_add]
    exact Nat.mul_lt_mul_of_pos_right Nat.lt_log2_self (Nat.two_pow_pos k)

theorem excess_of_lt {m : Nat} (hm : m < 2 ^ 53) (hne : m ≠ 0) (k : Nat) :
    excess (m * 2 ^ k) ≤ k := by
  have hl : m.log2 < 53 := (Nat.log2_lt hne).2 hm
  rw [excess, log2_mul_two_pow hne]
  omega

/-- A number of 53 binary digits at most is left as it is, with any number of zeros behind it. -/
theorem roundNat_mul_two_pow {m : Nat} (hm : m < 2 ^ 53) (k : Nat) :
    roundNat (m * 2 ^ k) = m * 2 ^ k := by
  by_cases hne : m = 0
  · simp [roundNat, hne]
  · have hle : excess (m * 2 ^ k) ≤ k := excess_of_lt hm hne k
    exact roundDiv_mul_cancel (Nat.two_pow_pos _)
      (Dvd.dvd.mul_left (Nat.pow_dvd_pow 2 hle) m)

theorem roundNat_of_le {n : Nat} (h : n ≤ 2 ^ 53) : roundNat n = n := by
  rcases Nat.lt_or_eq_of_le h with hlt | rfl
  · simpa using roundNat_mul_two_pow hlt 0
  · exact roundNat_mul_two_pow (m := 1) (by decide) 53

/-- Zeros behind a number stay there. -/
theorem roundNat_scale (n k : Nat) : roundNat (n * 2 ^ k) = roundNat n * 2 ^ k := by
  rcases Nat.lt_or_ge n (2 ^ 53) with hlt | hge
  · rw [roundNat_mul_two_pow hlt, roundNat_of_le hlt.le]
  · have hn : n ≠ 0 := by omega
    have hlog : 53 ≤ n.log2 := (Nat.le_log2 hn).2 hge
    have he : excess (n * 2 ^ k) = excess n + k := by
      rw [excess, excess, log2_mul_two_pow hn]
      omega
    rw [roundNat, roundNat, he, Nat.pow_add, roundDiv_mul_mul _ _ (Nat.two_pow_pos k),
      Nat.mul_assoc]

theorem log2_mono {a b : Nat} (h : a ≤ b) : a.log2 ≤ b.log2 := by
  rw [Nat.log2_eq_log_two, Nat.log2_eq_log_two]
  exact Nat.log_mono_right h

/-- Rounding does not go below the leading digit. -/
theorem two_pow_log2_le_roundNat {n : Nat} (hn : n ≠ 0) : 2 ^ n.log2 ≤ roundNat n := by
  have he : n.log2 = n.log2 - excess n + excess n := by
    unfold excess
    omega
  have hle : 2 ^ (n.log2 - excess n) * 2 ^ excess n ≤ n := by
    rw [← Nat.pow_add, ← he]
    exact Nat.log2_self_le hn
  rw [he, Nat.pow_add]
  exact Nat.mul_le_mul_right _ (le_roundDiv (Nat.two_pow_pos _) hle)

/-- Rounding goes up to the next power of two at most. -/
theorem roundNat_le_two_pow (n : Nat) : roundNat n ≤ 2 ^ (n.log2 + 1) := by
  have he : n.log2 + 1 = n.log2 + 1 - excess n + excess n := by
    unfold excess
    omega
  have hle : n ≤ 2 ^ (n.log2 + 1 - excess n) * 2 ^ excess n := by
    rw [← Nat.pow_add, ← he]
    exact Nat.lt_log2_self.le
  rw [he, Nat.pow_add]
  exact Nat.mul_le_mul_right _ (roundDiv_le (Nat.two_pow_pos _) hle)

theorem roundNat_mono {a b : Nat} (h : a ≤ b) : roundNat a ≤ roundNat b := by
  rcases Nat.lt_or_eq_of_le (log2_mono h) with hlt | heq
  · -- a power of two lies between numbers of different lengths
    have hb : b ≠ 0 := by
      rintro rfl
      rw [Nat.log2_zero] at hlt
      omega
    exact (roundNat_le_two_pow a).trans
      ((Nat.pow_le_pow_right (by decide) hlt).trans (two_pow_log2_le_roundNat hb))
  · have he : excess a = excess b := by rw [excess, excess, heq]
    rw [roundNat, roundNat, he]
    exact Nat.mul_le_mul_right _ (roundDiv_mono (Nat.two_pow_pos _) h)

/-- No number of 53 binary digits, with zeros behind them, is nearer than the rounded number. -/
theorem roundNat_nearest (n : Nat) {m : Nat} (hm : m < 2 ^ 53) (k : Nat) :
    ((n : Int) - roundNat n).natAbs ≤ ((n : Int) - (m * 2 ^ k : Nat)).natAbs := by
  have hpos : 0 < 2 ^ excess n := Nat.two_pow_pos _
  rcases Nat.lt_or_ge k (excess n) with hlt | hle
  · -- a number of fewer digits in all is below the leading digit of `n`, which is a multiple
    have hn : n ≠ 0 := by
      rintro rfl
      exact absurd hlt (Nat.not_lt_zero k)
    have hlog : n.log2 = 52 + excess n := by
      unfold excess at hlt ⊢
      omega
    have hself : 2 ^ 52 * 2 ^ excess n ≤ n := by
      rw [← Nat.pow_add, ← hlog]
      exact Nat.log2_self_le hn
    have hmk : m * 2 ^ k ≤ 2 ^ 52 * 2 ^ excess n := by
      calc m * 2 ^ k ≤ 2 ^ 53 * 2 ^ k := Nat.mul_le_mul_right _ hm.le
        _ = 2 ^ 52 * 2 ^ (k + 1) := by ring
        _ ≤ 2 ^ 52 * 2 ^ excess n :=
          Nat.mul_le_mul_left _ (Nat.pow_le_pow_right (by decide) hlt)
    have hr := roundDiv_nearest n (2 ^ 52) hpos
    rw [roundNat]
    omega
  · obtain ⟨q, hq⟩ := Dvd.dvd.mul_left (Nat.pow_dvd_pow 2 hle) m
    rw [hq, Nat.mul_comm (2 ^ excess n) q]
    exact roundDiv_nearest n q hpos

/-! ### Integers -/

/-- An integer rounded to 53 binary digits, a half to the even neighbour. -/
def rounded (i : Int) : Int := if i < 0 then -(roundNat i.natAbs : Int) else roundNat i.natAbs

theorem rounded_of_natAbs_le {i : Int} (h : i.natAbs ≤ 2 ^ 53) : rounded i = i := by
  rw [rounded, roundNat_of_le h]
  split <;> omega

theorem rounded_mono {i j : Int} (h : i ≤ j) : rounded i ≤ rounded j := by
  unfold rounded
  split <;> split
  · have hm := roundNat_mono (show j.natAbs ≤ i.natAbs by omega)
    omega
  · omega
  · omega
  · have hm := roundNat_mono (show i.natAbs ≤ j.natAbs by omega)
    omega

theorem lt_of_rounded_lt {i j : Int} (h : rounded i < rounded j) : i < j :=
  lt_of_not_ge fun hle => absurd (rounded_mono hle) (not_le.2 h)

-- Rounding makes two integers equal, and a half goes to the even neighbour.
example : rounded 9007199254740993 = rounded 9007199254740992 ∧
    rounded (-9007199254740995) = -9007199254740996 := by decide +kernel

theorem magnitude_eq_roundNat_mul {negative : Bool} {n k : Nat} {x : Binary64}
    (h : nearest? negative (n <<< k) 1 = some x) :
    x.negative = negative ∧ x.magnitude = roundNat n * (1 <<< k) := by
  obtain ⟨hn, hm⟩ := magnitude_of_nearest? h
  refine ⟨hn, ?_⟩
  rw [hm, Nat.div_one, Nat.one_mul, Nat.shiftLeft_eq, Nat.one_shiftLeft, ← roundNat_scale, roundNat,
    excess]

theorem magnitude_ofNat (negative : Bool) (n : Nat) (h : n < 1 <<< 65) :
    (ofNat negative n h).negative = negative ∧
      (ofNat negative n h).magnitude = roundNat n * one :=
  magnitude_eq_roundNat_mul (nearest?_ofNat negative n h)

/-- The double that an integer is read as stands for the rounded integer. -/
theorem units_ofInt (i : Int) (h : -9223372036854775808 ≤ i ∧ i < 18446744073709551616) :
    (ofInt i h).units = rounded i * (one : Int) := by
  obtain ⟨hn, hm⟩ := magnitude_ofNat (decide (i < 0)) i.natAbs (by
    have hlimit : 1 <<< 65 = 36893488147419103232 := rfl
    omega)
  rw [units, ofInt, hn, hm, rounded]
  by_cases hi : i < 0
  · simp [hi]
  · simp [hi]

theorem one_pos : 0 < (one : Int) := by
  rw [one, Nat.one_shiftLeft]
  exact_mod_cast Nat.two_pow_pos 1074

section Order

variable {i j : Int} {hi : -9223372036854775808 ≤ i ∧ i < 18446744073709551616}
  {hj : -9223372036854775808 ≤ j ∧ j < 18446744073709551616}

theorem ofInt_le_ofInt_iff : ofInt i hi ≤ ofInt j hj ↔ rounded i ≤ rounded j := by
  rw [le_def, units_ofInt, units_ofInt]
  exact Int.mul_le_mul_right one_pos

theorem ofInt_lt_ofInt_iff : ofInt i hi < ofInt j hj ↔ rounded i < rounded j := by
  rw [lt_def, units_ofInt, units_ofInt]
  exact Int.mul_lt_mul_right one_pos

theorem units_ofInt_eq_iff : (ofInt i hi).units = (ofInt j hj).units ↔ rounded i = rounded j := by
  rw [units_ofInt, units_ofInt]
  exact Int.mul_eq_mul_right_iff one_pos.ne'

end Order

end Binary64

end ShapeCheck
