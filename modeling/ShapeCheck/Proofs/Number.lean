import Mathlib.Tactic
import ShapeCheck.Schema.Checker

/-!
# Numbers of documents and values

An integer of a document is rounded to a double before it is used.  Rounding keeps two things: an
integer has no fraction, and its sign.

* `Json.Number.IsWhole`, `Json.Number.IsNonneg`: a number without a fraction, a number from zero on,
  both said of the number as it is written;
* `Json.Number.toBinary64_isWhole_iff`, `Json.Number.zero_le_units_iff`: the same of its double.
-/

namespace ShapeCheck

namespace Binary64

/-- A quotient without a remainder is not changed by rounding. -/
theorem roundDiv_mul_right (q : Nat) {d : Nat} (hd : 0 < d) : roundDiv (q * d) d = q := by
  unfold roundDiv
  simp only [Nat.mul_div_cancel q hd, Nat.mul_mod_left]
  exact if_pos (.inl (by omega))

theorem magnitude_of_ofParts? {negative : Bool} {significand exponent : Nat} {x : Binary64}
    (h : ofParts? negative significand exponent = some x) :
    x.negative = negative ∧ x.magnitude = significand * 2 ^ exponent := by
  unfold ofParts? at h
  split at h
  · obtain rfl := Option.some.inj h
    exact ⟨rfl, Nat.shiftLeft_eq _ _⟩
  · simp at h

/-- The double nearest to a quotient is a rounded quotient, scaled by a power of two. -/
theorem magnitude_of_nearest? {negative : Bool} {num den : Nat} {x : Binary64}
    (h : nearest? negative num den = some x) :
    x.negative = negative ∧
      x.magnitude = roundDiv num (den * 2 ^ ((num / den).log2 - 52)) *
        2 ^ ((num / den).log2 - 52) := by
  unfold nearest? at h
  simp only [Nat.shiftLeft_eq, Nat.one_mul] at h
  split at h
  · rename_i hs
    obtain ⟨hn, hm⟩ := magnitude_of_ofParts? h
    refine ⟨hn, ?_⟩
    rw [hm, hs, Nat.pow_succ]
    ring
  · exact magnitude_of_ofParts? h

/-- A multiple of a power of two stays one when it is rounded to a multiple of another: the other
power is the larger one, or nothing is rounded. -/
theorem two_pow_dvd_roundDiv (n k e : Nat) : 2 ^ k ∣ roundDiv (n * 2 ^ k) (2 ^ e) * 2 ^ e := by
  rcases le_total k e with hle | hle
  · exact Dvd.dvd.mul_left (Nat.pow_dvd_pow 2 hle) _
  · obtain ⟨q, hq⟩ := Dvd.dvd.mul_left (Nat.pow_dvd_pow 2 hle) n
    have hr : roundDiv (n * 2 ^ k) (2 ^ e) = q := by
      rw [hq, Nat.mul_comm, roundDiv_mul_right q (Nat.two_pow_pos e)]
    rw [hr, Nat.mul_comm, ← hq]
    exact Dvd.intro_left n rfl

/-- The leading digits of a number other than zero are not zero. -/
theorem roundDiv_log2_pos {n : Nat} (hpos : 0 < n) (k : Nat) :
    0 < roundDiv (n * 2 ^ k) (2 ^ ((n * 2 ^ k).log2 - 52)) * 2 ^ ((n * 2 ^ k).log2 - 52) := by
  have hne : n * 2 ^ k ≠ 0 := Nat.mul_ne_zero hpos.ne' (Nat.two_pow_pos k).ne'
  have hle : 2 ^ ((n * 2 ^ k).log2 - 52) ≤ n * 2 ^ k :=
    (Nat.pow_le_pow_right (by decide) (Nat.sub_le _ _)).trans (Nat.log2_self_le hne)
  exact Nat.mul_pos (le_roundDiv (Nat.two_pow_pos _) (by rwa [Nat.one_mul])) (Nat.two_pow_pos _)

/-- A number of whole units is rounded to one of the same sign, and to zero only if it is zero. -/
theorem dvd_magnitude_of_nearest? {negative : Bool} {n k : Nat} {x : Binary64}
    (h : nearest? negative (n <<< k) 1 = some x) :
    x.negative = negative ∧ 1 <<< k ∣ x.magnitude ∧ (0 < n → 0 < x.magnitude) := by
  obtain ⟨hn, hm⟩ := magnitude_of_nearest? h
  rw [Nat.div_one, Nat.one_mul, Nat.shiftLeft_eq] at hm
  refine ⟨hn, ?_, fun hpos => ?_⟩
  · rw [hm, Nat.one_shiftLeft]
    exact two_pow_dvd_roundDiv n k _
  · rw [hm]
    exact roundDiv_log2_pos hpos k

theorem nearest?_ofNat (negative : Bool) (n : Nat) (h : n < 1 <<< 65) :
    nearest? negative (n <<< 1074) 1 = some (ofNat negative n h) := by
  rw [ofNat, Option.some_get]

/-- Rounding an integer leaves no fraction. -/
theorem ofInt_isWhole (i : Int) (h : -9223372036854775808 ≤ i ∧ i < 18446744073709551616) :
    (ofInt i h).IsWhole := by
  unfold IsWhole one
  exact Nat.mod_eq_zero_of_dvd (dvd_magnitude_of_nearest? (nearest?_ofNat _ _ _)).2.1

/-- Rounding an integer keeps its sign. -/
theorem zero_le_units_ofInt (i : Int) (h : -9223372036854775808 ≤ i ∧ i < 18446744073709551616) :
    0 ≤ (ofInt i h).units ↔ 0 ≤ i := by
  have hx : nearest? (decide (i < 0)) (i.natAbs <<< 1074) 1 = some (ofInt i h) :=
    nearest?_ofNat _ _ _
  obtain ⟨hn, -, hp⟩ := dvd_magnitude_of_nearest? hx
  rw [units, hn]
  by_cases hi : i < 0
  · have hm := hp (by omega)
    simp only [hi, decide_true, if_true]
    omega
  · simp only [hi, decide_false, Bool.false_eq_true, if_false]
    omega

end Binary64

namespace Json.Number

/-- The number has no fraction. -/
def IsWhole : Number → Prop
  | integer _ _ => True
  | double x => x.IsWhole

/-- The number is zero or more. -/
def IsNonneg : Number → Prop
  | integer i _ => 0 ≤ i
  | double x => 0 ≤ x.units

@[simp] theorem toBinary64_isWhole_iff (n : Number) : n.toBinary64.IsWhole ↔ n.IsWhole := by
  cases n with
  | integer i h => exact iff_of_true (Binary64.ofInt_isWhole i h) trivial
  | double x => rfl

@[simp] theorem zero_le_units_iff (n : Number) : 0 ≤ n.toBinary64.units ↔ n.IsNonneg := by
  cases n with
  | integer i h => exact Binary64.zero_le_units_ofInt i h
  | double x => rfl

end Json.Number

/-- The numbers that a rule takes: all of them, or those without a fraction. -/
theorem Checker.number?_eq_some_iff {integral : Bool} {v : Json} {x : Binary64} :
    Checker.number? integral v = some x ↔
      ∃ n : Json.Number, v = .number n ∧ (integral = true → n.IsWhole) ∧ x = n.toBinary64 := by
  unfold Checker.number?
  cases v with
  | number n =>
    simp only [Json.toBinary64?, Option.filter_eq_some_iff, Option.some.injEq, Bool.or_eq_true,
      Bool.not_eq_true', decide_eq_true_eq, Json.number.injEq]
    constructor
    · rintro ⟨rfl, h⟩
      refine ⟨n, rfl, fun hi => ?_, rfl⟩
      simpa [hi] using h
    · rintro ⟨m, rfl, h, rfl⟩
      refine ⟨rfl, ?_⟩
      cases integral with
      | false => exact .inl rfl
      | true => exact .inr ((Json.Number.toBinary64_isWhole_iff n).2 (h rfl))
  | _ => simp [Json.toBinary64?]

end ShapeCheck
