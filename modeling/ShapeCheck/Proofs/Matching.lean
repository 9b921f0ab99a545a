import Mathlib.Logic.Function.Iterate
import ShapeCheck.Pattern.Basic

/-!
# Where expressions match

What the sets of positions that matching computes stand for.

* `Regex.Leads`: an expression leads from one position of a text to another;
* `Regex.isMatch_iff`: a text is matched if and only if the expression leads from some position of
  it to another one;
* `Regex.Spells`: the texts that an expression without conditions takes;
* `Regex.isMatch_anchored_iff`: an expression that is held to both ends of the text matches what it
  spells.

Positions are bits of a number.  Repetition without a limit goes on for one round more than there
are positions behind the first, which is enough: a round that stays where it is can be left out.
-/

namespace ShapeCheck.Pattern

variable {text : List Char}

/-! ### Bits -/

theorem testBit_succ_two_mul_add (n i : Nat) (b : Bool) :
    (2 * n + b.toNat).testBit (i + 1) = n.testBit i := by
  rw [Nat.testBit_succ]
  cases b <;> simp only [Bool.toNat_false, Bool.toNat_true] <;> congr 1 <;> omega

theorem testBit_zero_two_mul_add (n : Nat) (b : Bool) : (2 * n + b.toNat).testBit 0 = b := by
  rw [Nat.testBit_zero]
  cases b <;> simp only [Bool.toNat_false, Bool.toNat_true] <;> simp

theorem testBit_positionsOf (test : Char → Bool) (text : List Char) (i : Nat) :
    (positionsOf test text).testBit i = text[i]?.any test := by
  induction text generalizing i with
  | nil => simp [positionsOf]
  | cons c rest ih =>
    rw [positionsOf]
    cases i with
    | zero => rw [testBit_zero_two_mul_add, List.getElem?_cons_zero, Option.any_some]
    | succ i => rw [testBit_succ_two_mul_add, ih, List.getElem?_cons_succ]

/-- The character before a position, the first of which has the one given. -/
def charBefore (before : Option Char) (text : List Char) : Nat → Option Char
  | 0 => before
  | i + 1 => text[i]?

theorem testBit_positionsBetween (test : Option Char → Option Char → Bool)
    (before : Option Char) (text : List Char) (i : Nat) :
    (positionsBetween test before text).testBit i =
      (decide (i ≤ text.length) && test (charBefore before text i) text[i]?) := by
  induction text generalizing before i with
  | nil =>
    cases i with
    | zero => cases h : test before none <;> simp [positionsBetween, charBefore, h]
    | succ i => cases h : test before none <;> simp [positionsBetween, Nat.testBit_succ, h]
  | cons c rest ih =>
    rw [positionsBetween]
    cases i with
    | zero => rw [testBit_zero_two_mul_add]; simp [charBefore]
    | succ i =>
      rw [testBit_succ_two_mul_add, ih, List.getElem?_cons_succ, List.length_cons]
      cases i <;> simp [charBefore]

/-! ### Rounds -/

/-- A relation followed a number of times. -/
def Rounds (R : Nat → Nat → Prop) : Nat → Nat → Nat → Prop
  | 0, i, j => j = i
  | k + 1, i, j => ∃ m, R i m ∧ Rounds R k m j

section

variable {R : Nat → Nat → Prop} {n : Nat} {f : Nat → Nat}

theorem Rounds.le (hR : ∀ i j, R i j → i ≤ j) {k i j : Nat} (h : Rounds R k i j) : i ≤ j := by
  induction k generalizing i with
  | zero => exact Nat.le_of_eq h.symm
  | succ k ih =>
    obtain ⟨m, hm, h⟩ := h
    exact Nat.le_trans (hR i m hm) (ih h)

theorem Rounds.append {k l i j m : Nat} (h : Rounds R k i j) (h' : Rounds R l j m) :
    Rounds R (k + l) i m := by
  induction k generalizing i with
  | zero =>
    obtain rfl := h
    rwa [Nat.zero_add]
  | succ k ih =>
    obtain ⟨p, hp, h⟩ := h
    rw [Nat.succ_add]
    exact ⟨p, hp, ih h⟩

theorem Rounds.split {k l i m : Nat} (h : Rounds R (k + l) i m) :
    ∃ j, Rounds R k i j ∧ Rounds R l j m := by
  induction k generalizing i with
  | zero => exact ⟨i, rfl, by rwa [Nat.zero_add] at h⟩
  | succ k ih =>
    rw [Nat.succ_add] at h
    obtain ⟨p, hp, h⟩ := h
    obtain ⟨j, h₁, h₂⟩ := ih h
    exact ⟨j, ⟨p, hp, h₁⟩, h₂⟩

/-- Rounds that stay where they are can be left out. -/
theorem Rounds.shorten (hR : ∀ i j, R i j → i ≤ j) {k i j : Nat} (h : Rounds R k i j) :
    ∃ l ≤ j - i, Rounds R l i j := by
  induction k generalizing i with
  | zero => exact ⟨0, Nat.zero_le _, h⟩
  | succ k ih =>
    obtain ⟨m, hm, h⟩ := h
    obtain ⟨l, hl, h'⟩ := ih h
    have him := hR i m hm
    have hmj := Rounds.le hR h
    -- a round that does not stay uses up a position
    rcases Nat.eq_or_lt_of_le him with rfl | hlt
    · exact ⟨l, hl, h'⟩
    · exact ⟨l + 1, by omega, m, hm, h'⟩

/-- Rounds of which each may stay where it is. -/
theorem rounds_or_stay_iff {k i j : Nat} :
    Rounds (fun i j => j = i ∨ R i j) k i j ↔ ∃ l ≤ k, Rounds R l i j := by
  induction k generalizing i with
  | zero =>
    constructor
    · exact fun h => ⟨0, Nat.le_refl 0, h⟩
    · rintro ⟨l, hl, h⟩
      obtain rfl := Nat.le_zero.1 hl
      exact h
  | succ k ih =>
    constructor
    · rintro ⟨m, hm, h⟩
      obtain ⟨l, hl, h⟩ := ih.1 h
      rcases hm with rfl | hm
      · exact ⟨l, Nat.le_succ_of_le hl, h⟩
      · exact ⟨l + 1, Nat.succ_le_succ hl, m, hm, h⟩
    · rintro ⟨l, hl, h⟩
      cases l with
      | zero => exact ⟨i, .inl rfl, ih.2 ⟨0, Nat.zero_le k, h⟩⟩
      | succ l =>
        obtain ⟨m, hm, h⟩ := h
        exact ⟨m, .inr hm, ih.2 ⟨l, Nat.le_of_succ_le_succ hl, h⟩⟩

/-- A function on sets of positions up to `n` that follows a relation. -/
def Follows (n : Nat) (R : Nat → Nat → Prop) (f : Nat → Nat) : Prop :=
  ∀ s, (∀ i, s.testBit i = true → i ≤ n) →
    ∀ j, (f s).testBit j = true ↔ ∃ i, s.testBit i = true ∧ R i j

/-- A relation that does not lead out of the positions up to `n`, nor back. -/
def Onward (n : Nat) (R : Nat → Nat → Prop) : Prop := ∀ i j, R i j → i ≤ j ∧ (i ≤ n → j ≤ n)

theorem Follows.le (hf : Follows n R f) (hR : Onward n R) {s : Nat}
    (hs : ∀ i, s.testBit i = true → i ≤ n) : ∀ i, (f s).testBit i = true → i ≤ n := by
  intro j hj
  obtain ⟨i, hi, hij⟩ := (hf s hs j).1 hj
  exact (hR i j hij).2 (hs i hi)

theorem iterate_eq (f : Nat → Nat) (k s : Nat) : iterate f k s = f^[k] s := by
  induction k generalizing s with
  | zero => rfl
  | succ k ih =>
    rw [iterate, Function.iterate_succ_apply]
    split
    · rename_i h
      rw [h, Function.iterate_fixed h]
    · exact ih _

theorem spread_eq (f : Nat → Nat) (k s : Nat) : spread f k s = (fun s => s ||| f s)^[k] s := by
  induction k generalizing s with
  | zero => rfl
  | succ k ih =>
    rw [spread, Function.iterate_succ_apply]
    split
    · rename_i h
      rw [h, Function.iterate_fixed (f := fun s => s ||| f s) h]
    · exact ih _

theorem Onward.rounds (hR : Onward n R) (k : Nat) : Onward n (Rounds R k) := by
  induction k with
  | zero => exact fun i j h => ⟨Nat.le_of_eq h.symm, fun hi => h ▸ hi⟩
  | succ k ih =>
    rintro i j ⟨m, hm, h⟩
    have h₁ := hR i m hm
    have h₂ := ih m j h
    exact ⟨Nat.le_trans h₁.1 h₂.1, fun hi => h₂.2 (h₁.2 hi)⟩

theorem Onward.stay (hR : Onward n R) : Onward n fun i j => j = i ∨ R i j := by
  rintro i j (rfl | h)
  · exact ⟨Nat.le_refl _, id⟩
  · exact hR i j h

theorem Follows.iterate (hR : Onward n R) (hf : Follows n R f) (k : Nat) :
    Follows n (Rounds R k) f^[k] := by
  induction k with
  | zero => exact fun s _ j => ⟨fun h => ⟨j, h, rfl⟩, fun ⟨_, hi, h⟩ => h ▸ hi⟩
  | succ k ih =>
    intro s hs j
    rw [Function.iterate_succ_apply, ih (f s) (hf.le hR hs)]
    constructor
    · rintro ⟨m, hm, h⟩
      obtain ⟨i, hi, him⟩ := (hf s hs m).1 hm
      exact ⟨i, hi, m, him, h⟩
    · rintro ⟨i, hi, m, him, h⟩
      exact ⟨m, (hf s hs m).2 ⟨i, hi, him⟩, h⟩

theorem Follows.stay (hf : Follows n R f) :
    Follows n (fun i j => j = i ∨ R i j) fun s => s ||| f s := by
  intro s hs j
  rw [Nat.testBit_or, Bool.or_eq_true, hf s hs j]
  constructor
  · rintro (h | ⟨i, hi, h⟩)
    · exact ⟨j, h, .inl rfl⟩
    · exact ⟨i, hi, .inr h⟩
  · rintro ⟨i, hi, rfl | h⟩
    · exact .inl hi
    · exact .inr ⟨i, hi, h⟩

/-- A number of rounds and up to some more. -/
theorem Follows.spread_iterate (hR : Onward n R) (hf : Follows n R f) (least more : Nat) :
    Follows n (fun i j => ∃ k ≤ more, Rounds R (least + k) i j)
      fun s => spread f more (Pattern.iterate f least s) := by
  intro s hs j
  have hfirst := hf.iterate hR least
  have hmore := hf.stay.iterate hR.stay more
  have hb := hfirst.le (hR.rounds least) hs
  simp only [iterate_eq, spread_eq]
  rw [hmore _ hb]
  constructor
  · rintro ⟨m, hm, h⟩
    obtain ⟨i, hi, him⟩ := (hfirst s hs m).1 hm
    obtain ⟨k, hk, h⟩ := rounds_or_stay_iff.1 h
    exact ⟨i, hi, k, hk, him.append h⟩
  · rintro ⟨i, hi, k, hk, h⟩
    obtain ⟨m, him, h⟩ := h.split
    exact ⟨m, (hfirst s hs m).2 ⟨i, hi, him⟩, rounds_or_stay_iff.2 ⟨k, hk, h⟩⟩

end

/-! ### Expressions -/

/-- An atom leads from one position of a text to another. -/
def Atom.Leads (text : List Char) : Atom → Nat → Nat → Prop
  | look l, i, j => j = i ∧ i ≤ text.length ∧ l.holds (charBefore none text i) text[i]? = true
  | one s, i, j => j = i + 1 ∧ ∃ c, text[i]? = some c ∧ s.has c.toNat = true

theorem Atom.onward_leads (a : Atom) : Onward text.length (a.Leads text) := by
  intro i j h
  cases a with
  | look l => exact ⟨Nat.le_of_eq h.1.symm, fun _ => h.1 ▸ h.2.1⟩
  | one s =>
    obtain ⟨rfl, c, hc, -⟩ := h
    obtain ⟨hi, -⟩ := List.getElem?_eq_some_iff.1 hc
    exact ⟨Nat.le_succ i, fun _ => hi⟩

theorem Atom.follows_ends (a : Atom) :
    Follows text.length (a.Leads text) (a.mask text).ends := by
  intro s _ j
  cases a with
  | look l =>
    have hm : (Mask.ends (Atom.mask text (look l)) s) =
        s &&& positionsBetween l.holds none text := rfl
    rw [hm, Nat.testBit_and, testBit_positionsBetween]
    simp only [Bool.and_eq_true, decide_eq_true_eq]
    constructor
    · exact fun ⟨hj, h⟩ => ⟨j, hj, rfl, h⟩
    · rintro ⟨i, hi, rfl, h⟩
      exact ⟨hi, h⟩
  | one cs =>
    have hm : (Mask.ends (Atom.mask text (one cs)) s) =
        (s &&& positionsOf (fun c => cs.has c.toNat) text) <<< 1 := rfl
    rw [hm, Nat.testBit_shiftLeft, Nat.testBit_and, testBit_positionsOf]
    simp only [Bool.and_eq_true, decide_eq_true_eq, Option.any_eq_true]
    constructor
    · rintro ⟨hj, hs, c, hc, h⟩
      exact ⟨j - 1, hs, by omega, c, hc, h⟩
    · rintro ⟨i, hi, rfl, c, hc, h⟩
      rw [Nat.add_sub_cancel]
      exact ⟨Nat.le_add_left 1 i, hi, c, hc, h⟩

namespace Regex

/-- An expression leads from one position of a text to another.  A repetition that may be taken
fewer times than it has to be is taken as often as it has to be. -/
def Leads (text : List Char) : Regex Atom → Nat → Nat → Prop
  | empty, i, j => j = i
  | atom a, i, j => a.Leads text i j
  | seq r s, i, j => ∃ k, r.Leads text i k ∧ s.Leads text k j
  | alt r s, i, j => r.Leads text i j ∨ s.Leads text i j
  | times r least most, i, j =>
    ∃ k, least ≤ k ∧ (∀ m ∈ most, k ≤ max least m) ∧ Rounds (r.Leads text) k i j

theorem onward_leads (r : Regex Atom) : Onward text.length (r.Leads text) := by
  induction r with
  | empty => exact fun i j h => ⟨Nat.le_of_eq h.symm, fun hi => h ▸ hi⟩
  | atom a => exact a.onward_leads
  | seq r s ihr ihs =>
    rintro i j ⟨k, h₁, h₂⟩
    exact ⟨Nat.le_trans (ihr i k h₁).1 (ihs k j h₂).1, fun hi => (ihs k j h₂).2 ((ihr i k h₁).2 hi)⟩
  | alt r s ihr ihs =>
    rintro i j (h | h)
    · exact ihr i j h
    · exact ihs i j h
  | times r least most ih =>
    rintro i j ⟨k, -, -, h⟩
    exact ih.rounds k i j h

/-- The ends that are computed are the positions that an expression leads to. -/
theorem follows_ends (r : Regex Atom) :
    Follows text.length (r.Leads text) ((r.map (Atom.mask text)).ends text.length) := by
  induction r with
  | empty => exact fun s _ j => ⟨fun h => ⟨j, h, rfl⟩, fun ⟨_, hi, h⟩ => h ▸ hi⟩
  | atom a => exact a.follows_ends
  | seq r s ihr ihs =>
    intro starts hs j
    rw [Regex.map, ends, ihs _ (ihr.le r.onward_leads hs)]
    constructor
    · rintro ⟨k, hk, h⟩
      obtain ⟨i, hi, hik⟩ := (ihr starts hs k).1 hk
      exact ⟨i, hi, k, hik, h⟩
    · rintro ⟨i, hi, k, hik, h⟩
      exact ⟨k, (ihr starts hs k).2 ⟨i, hi, hik⟩, h⟩
  | alt r s ihr ihs =>
    intro starts hs j
    rw [Regex.map, ends, Nat.testBit_or, Bool.or_eq_true, ihr starts hs, ihs starts hs,
      ← exists_or]
    simp only [← and_or_left]
    rfl
  | times r least most ih =>
    intro starts hs j
    cases most with
    | none =>
      refine (ih.spread_iterate r.onward_leads least (text.length + 1) starts hs j).trans
        (exists_congr fun i => and_congr_right fun hi => ⟨?_, ?_⟩)
      · rintro ⟨k, -, h⟩
        exact ⟨least + k, Nat.le_add_right .., by simp, h⟩
      · rintro ⟨k, hk, -, h⟩
        rw [← Nat.add_sub_cancel' hk] at h
        -- only the rounds behind those that have to be taken can be left out
        obtain ⟨m, hm, h'⟩ := h.split
        obtain ⟨l, hl, h''⟩ := h'.shorten fun i j h => (r.onward_leads i j h).1
        have hj := (r.onward_leads.rounds _ i j h).2 (hs i hi)
        exact ⟨l, by omega, hm.append h''⟩
    | some most =>
      refine (ih.spread_iterate r.onward_leads least (most - least) starts hs j).trans
        (exists_congr fun i => and_congr_right fun hi => ⟨?_, ?_⟩)
      · rintro ⟨k, hk, h⟩
        refine ⟨least + k, Nat.le_add_right .., ?_, h⟩
        rintro m ⟨rfl⟩
        omega
      · rintro ⟨k, hk, hm, h⟩
        have := hm most rfl
        rw [← Nat.add_sub_cancel' hk] at h
        exact ⟨k - least, by omega, h⟩

/-- A text is matched if and only if the expression leads from some position of it to another. -/
theorem isMatch_iff {r : Regex Atom} :
    r.isMatch text = true ↔ ∃ i j, i ≤ text.length ∧ r.Leads text i j := by
  have hbits (i : Nat) : (1 <<< (text.length + 1) - 1).testBit i = true ↔ i ≤ text.length := by
    rw [Nat.one_shiftLeft, Nat.testBit_two_pow_sub_one, decide_eq_true_eq, Nat.lt_succ_iff]
  have hends : ∀ j, _ ↔ ∃ i, _ ∧ r.Leads text i j :=
    r.follows_ends _ fun i hi => (hbits i).1 hi
  rw [isMatch, bne_iff_ne]
  constructor
  · intro h
    obtain ⟨j, hj⟩ := Nat.exists_testBit_of_ne_zero h
    obtain ⟨i, hi, hij⟩ := (hends j).1 hj
    exact ⟨i, j, (hbits i).1 hi, hij⟩
  · rintro ⟨i, j, hi, hij⟩ h
    have := (hends j).2 ⟨i, (hbits i).2 hi, hij⟩
    simp [h] at this

/-! ### Expressions without conditions -/

/-- The texts that an expression over sets of characters takes. -/
def Spells : Regex CharSet → List Char → Prop
  | empty, w => w = []
  | atom s, w => ∃ c, w = [c] ∧ s.has c.toNat = true
  | seq r s, w => ∃ x y, w = x ++ y ∧ r.Spells x ∧ s.Spells y
  | alt r s, w => r.Spells w ∨ s.Spells w
  | times r least most, w =>
    ∃ ws : List (List Char), least ≤ ws.length ∧ (∀ m ∈ most, ws.length ≤ max least m) ∧
      w = ws.flatten ∧ ∀ x ∈ ws, r.Spells x

theorem spells_seq_iff {r s : Regex CharSet} {w : List Char} :
    (seq r s).Spells w ↔ ∃ x y, w = x ++ y ∧ r.Spells x ∧ s.Spells y := Iff.rfl

theorem spells_alt_iff {r s : Regex CharSet} {w : List Char} :
    (alt r s).Spells w ↔ r.Spells w ∨ s.Spells w := Iff.rfl

/-- An expression over sets of characters as one over atoms. -/
def ofSets (r : Regex CharSet) : Regex Atom := r.map .one

/-- A text in front of what is taken makes no difference. -/
def Takes (R : List Char → Nat → Nat → Prop) (spells : List Char → Prop) : Prop :=
  ∀ before after j, R (before ++ after) before.length j ↔
    ∃ w rest, after = w ++ rest ∧ j = before.length + w.length ∧ spells w

theorem takes_rounds {R : List Char → Nat → Nat → Prop} {spells : List Char → Prop}
    (h : Takes R spells) (k : Nat) :
    Takes (fun text => Rounds (R text) k)
      fun w => ∃ ws : List (List Char), ws.length = k ∧ w = ws.flatten ∧ ∀ x ∈ ws, spells x := by
  induction k with
  | zero =>
    intro before after j
    constructor
    · exact fun hj => ⟨[], after, rfl, hj, [], rfl, rfl, by simp⟩
    · rintro ⟨w, rest, rfl, rfl, ws, hk, rfl, -⟩
      obtain rfl := List.length_eq_zero_iff.1 hk
      rfl
  | succ k ih =>
    intro before after j
    constructor
    · rintro ⟨m, hm, hr⟩
      -- the other rounds start behind what the first one takes
      obtain ⟨w, rest, rfl, rfl, hw⟩ := (h before after m).1 hm
      rw [← List.append_assoc, ← List.length_append] at hr
      obtain ⟨w', rest', rfl, rfl, ws, rfl, rfl, hws⟩ := (ih (before ++ w) rest j).1 hr
      refine ⟨w ++ ws.flatten, rest', by simp, by simp [Nat.add_assoc], w :: ws, rfl, rfl, ?_⟩
      exact List.forall_mem_cons.2 ⟨hw, hws⟩
    · rintro ⟨w, rest, rfl, rfl, ws, hk, rfl, hws⟩
      cases ws with
      | nil => simp at hk
      | cons x ws =>
        obtain ⟨hx, hws⟩ := List.forall_mem_cons.1 hws
        refine ⟨before.length + x.length, (h _ _ _).2 ⟨x, ws.flatten ++ rest, by simp, rfl, hx⟩, ?_⟩
        have hr := (ih (before ++ x) (ws.flatten ++ rest) _).2
          ⟨ws.flatten, rest, rfl, rfl, ws, by simpa using hk, rfl, hws⟩
        simpa [Nat.add_assoc] using hr

theorem takes_ofSets (r : Regex CharSet) : Takes (fun text => r.ofSets.Leads text) r.Spells := by
  induction r with
  | empty =>
    intro before after j
    constructor
    · exact fun h => ⟨[], after, rfl, h, rfl⟩
    · rintro ⟨w, rest, rfl, rfl, rfl⟩
      rfl
  | atom s =>
    intro before after j
    constructor
    · rintro ⟨rfl, c, hc, h⟩
      rw [List.getElem?_append_right (Nat.le_refl _), Nat.sub_self, ← List.head?_eq_getElem?] at hc
      obtain ⟨rest, rfl⟩ := List.head?_eq_some_iff.1 hc
      exact ⟨[c], rest, rfl, rfl, c, rfl, h⟩
    · rintro ⟨w, rest, rfl, rfl, c, rfl, h⟩
      exact ⟨rfl, c, by simp, h⟩
  | seq r s ihr ihs =>
    intro before after j
    constructor
    · rintro ⟨k, hk, hs⟩
      obtain ⟨x, rest, rfl, rfl, hx⟩ := (ihr before after k).1 hk
      rw [← List.append_assoc, ← List.length_append] at hs
      obtain ⟨y, rest', rfl, rfl, hy⟩ := (ihs (before ++ x) rest j).1 hs
      exact ⟨x ++ y, rest', by simp, by simp [Nat.add_assoc], x, y, rfl, hx, hy⟩
    · rintro ⟨w, rest, rfl, rfl, x, y, rfl, hx, hy⟩
      refine ⟨before.length + x.length, (ihr _ _ _).2 ⟨x, y ++ rest, by simp, rfl, hx⟩, ?_⟩
      have hs := (ihs (before ++ x) (y ++ rest) _).2 ⟨y, rest, rfl, rfl, hy⟩
      change s.ofSets.Leads _ _ _
      simpa [Nat.add_assoc] using hs
  | alt r s ihr ihs =>
    intro before after j
    refine (or_congr (ihr before after j) (ihs before after j)).trans ?_
    simp only [← exists_or, ← and_or_left]
    rfl
  | times r least most ih =>
    intro before after j
    constructor
    · rintro ⟨k, hk, hm, h⟩
      obtain ⟨w, rest, rfl, rfl, ws, rfl, rfl, hws⟩ := (takes_rounds ih k before after j).1 h
      exact ⟨_, rest, rfl, rfl, ws, hk, hm, rfl, hws⟩
    · rintro ⟨w, rest, rfl, rfl, ws, hk, hm, rfl, hws⟩
      have hrounds := (takes_rounds ih ws.length before _ _).2
        ⟨_, rest, rfl, rfl, ws, rfl, rfl, hws⟩
      exact ⟨ws.length, hk, hm, hrounds⟩

/-! ### Sequences -/

theorem leads_seqAll_cons {r : Regex Atom} {rs : List (Regex Atom)} {i j : Nat} :
    (seqAll (r :: rs)).Leads text i j ↔ ∃ k, r.Leads text i k ∧ (seqAll rs).Leads text k j := by
  cases rs with
  | nil =>
    constructor
    · exact fun h => ⟨j, h, rfl⟩
    · rintro ⟨k, h, rfl⟩
      exact h
  | cons s rs => rfl

theorem leads_seqAll_append {rs ss : List (Regex Atom)} {i j : Nat} :
    (seqAll (rs ++ ss)).Leads text i j ↔
      ∃ k, (seqAll rs).Leads text i k ∧ (seqAll ss).Leads text k j := by
  induction rs generalizing i with
  | nil =>
    constructor
    · exact fun h => ⟨i, rfl, h⟩
    · rintro ⟨k, rfl, h⟩
      exact h
  | cons r rs ih =>
    rw [List.cons_append, leads_seqAll_cons]
    constructor
    · rintro ⟨k, hk, h⟩
      obtain ⟨m, hm, h⟩ := ih.1 h
      exact ⟨m, leads_seqAll_cons.2 ⟨k, hk, hm⟩, h⟩
    · rintro ⟨m, hm, h⟩
      obtain ⟨k, hk, hm⟩ := leads_seqAll_cons.1 hm
      exact ⟨k, hk, ih.2 ⟨m, hm, h⟩⟩

theorem ofSets_seqAll (rs : List (Regex CharSet)) :
    (seqAll rs).ofSets = seqAll (rs.map ofSets) := by
  induction rs with
  | nil => rfl
  | cons r rs ih =>
    cases rs with
    | nil => rfl
    | cons s rs => exact congrArg (seq r.ofSets) ih

/-- Parts with the conditions that the text starts and ends with them. -/
def anchored (rs : List (Regex CharSet)) : Regex Atom :=
  seqAll (atom (.look .textStart) :: rs.map ofSets ++ [atom (.look .textEnd)])

theorem leads_anchored_iff {rs : List (Regex CharSet)} {i j : Nat} :
    (anchored rs).Leads text i j ↔ i = 0 ∧ j = text.length ∧ (seqAll rs).ofSets.Leads text i j := by
  have hstart {k : Nat} : (atom (.look .textStart)).Leads text i k ↔ k = i ∧ i = 0 := by
    change k = i ∧ i ≤ text.length ∧ (charBefore none text i).isNone = true ↔ _
    cases i with
    | zero => simp [charBefore]
    | succ i =>
      simp only [charBefore, Option.isNone_iff_eq_none, List.getElem?_eq_none_iff]
      omega
  have hend {k : Nat} :
      (seqAll [atom (.look .textEnd)]).Leads text k j ↔ j = k ∧ k = text.length := by
    change j = k ∧ k ≤ text.length ∧ text[k]?.isNone = true ↔ _
    rw [Option.isNone_iff_eq_none, List.getElem?_eq_none_iff]
    omega
  rw [anchored, List.cons_append, leads_seqAll_cons, ofSets_seqAll]
  constructor
  · rintro ⟨k, hk, h⟩
    obtain ⟨m, hm, hj⟩ := leads_seqAll_append.1 h
    obtain ⟨rfl, rfl⟩ := hend.1 hj
    obtain ⟨rfl, rfl⟩ := hstart.1 hk
    exact ⟨rfl, rfl, hm⟩
  · rintro ⟨rfl, rfl, h⟩
    exact ⟨0, hstart.2 ⟨rfl, rfl⟩, leads_seqAll_append.2 ⟨_, h, hend.2 ⟨rfl, rfl⟩⟩⟩

/-- An expression that is held to both ends of the text matches what it spells. -/
theorem isMatch_anchored_iff {rs : List (Regex CharSet)} :
    (anchored rs).isMatch text = true ↔ (seqAll rs).Spells text := by
  have htakes := takes_ofSets (seqAll rs) [] text text.length
  simp only [isMatch_iff, leads_anchored_iff]
  constructor
  · rintro ⟨_, _, -, rfl, rfl, h⟩
    obtain ⟨w, rest, hw, hlen, h⟩ := htakes.1 h
    have hrest : rest = [] := by
      rw [hw, List.length_append] at hlen
      simpa using hlen
    rwa [hw, hrest, List.append_nil]
  · intro h
    refine ⟨0, text.length, Nat.zero_le _, rfl, rfl, htakes.2 ⟨text, [], ?_, ?_, h⟩⟩
    · exact (List.append_nil text).symm
    · exact (Nat.zero_add _).symm

end Regex

end ShapeCheck.Pattern
