import ShapeCheck.Proofs.Expressions

/-!
# Internet addresses of version 4

The grammar of dotted quads, apart from the pattern by which they are told.

* `IsOctet`: one to three digits of a number up to 255, zeros in front included;
* `IsQuad`: four of them with dots between;
* `spells_octet_iff`: the alternatives of the pattern share their first digits, and together they
  spell the octets;
* `ipAddress_recognizes_quads`: a text has the format of addresses if and only if it is a quad.
-/

namespace ShapeCheck.DottedQuad

open Pattern
open Text (decimalValue digitValue digitValue_lt toNat_of_isDigit)

/-! ### The grammar -/

/-- One to three digits of a number up to 255. -/
structure IsOctet (w : List Char) : Prop where
  ne_nil : w ≠ []
  length_le : w.length ≤ 3
  digits : ∀ c ∈ w, c.isDigit = true
  value_le : decimalValue w ≤ 255

/-- Four octets with dots between. -/
def IsQuad (w : List Char) : Prop :=
  ∃ octets : List (List Char), octets.length = 4 ∧ (∀ octet ∈ octets, IsOctet octet) ∧
    w = ['.'].intercalate octets

/-! ### Octets -/

/-- The digits up to one of them. -/
def digitSet (last : Nat) : CharSet := .range 0x30 (0x30 + last)

/-- The expression of an octet. -/
def octet : Regex CharSet :=
  .altAll [.seqAll [.char '2', .char '5', .atom (digitSet 5)],
    .seqAll [.char '2', .atom (digitSet 4), .atom (digitSet 9)],
    .seqAll [.times (.atom (.unionAll [.single 0x30, .single 0x31])) 0 (some 1),
      .atom (digitSet 9), .times (.atom (digitSet 9)) 0 (some 1)]]

/-- A digit up to one of them. -/
def UpTo (last : Nat) (c : Char) : Prop := c.isDigit = true ∧ digitValue c ≤ last

theorem upTo_iff {last : Nat} (hl : last ≤ 9) {c : Char} :
    UpTo last c ↔ 0x30 ≤ c.toNat ∧ c.toNat ≤ 0x30 + last := by
  constructor
  · rintro ⟨hd, hv⟩
    have := toNat_of_isDigit hd
    omega
  · intro h
    have hd : c.isDigit = true := Char.isDigit_iff_toNat.2 (show 0x30 ≤ _ ∧ _ ≤ 0x39 by omega)
    have := toNat_of_isDigit hd
    exact ⟨hd, by omega⟩

theorem eq_of_digitValue {c d : Char} (hc : c.isDigit = true) (hd : d.isDigit = true)
    (h : digitValue c = digitValue d) : c = d := by
  rw [← Char.toNat_inj, toNat_of_isDigit hc, toNat_of_isDigit hd, h]

theorem spells_digit_iff {last : Nat} (hl : last ≤ 9) {w : List Char} :
    (Regex.atom (digitSet last)).Spells w ↔ ∃ c, w = [c] ∧ UpTo last c := by
  simp only [Regex.Spells, digitSet, CharSet.has, Bool.and_eq_true, decide_eq_true_eq, upTo_iff hl]

theorem spells_bit_iff {w : List Char} :
    (Regex.atom (.unionAll [.single 0x30, .single 0x31])).Spells w ↔ ∃ c, w = [c] ∧ UpTo 1 c := by
  simp only [Regex.Spells, CharSet.unionAll, CharSet.single, CharSet.has, Bool.or_eq_true,
    Bool.and_eq_true, decide_eq_true_eq, upTo_iff (by decide : 1 ≤ 9)]
  refine exists_congr fun c => and_congr_right fun _ => ?_
  omega

/-- What the three alternatives spell; the last one has a digit more in front, behind, or both. -/
theorem spells_octet_cases {w : List Char} :
    octet.Spells w ↔ (∃ c, UpTo 5 c ∧ w = ['2', '5', c]) ∨
      (∃ b c, UpTo 4 b ∧ UpTo 9 c ∧ w = ['2', b, c]) ∨
      ∃ front b back, (front = [] ∨ ∃ a, front = [a] ∧ UpTo 1 a) ∧ UpTo 9 b ∧
        (back = [] ∨ ∃ c, back = [c] ∧ UpTo 9 c) ∧ w = front ++ b :: back := by
  simp only [octet, Regex.altAll, Regex.seqAll, Regex.spells_alt_iff, Regex.spells_seq_iff,
    Regex.spells_char_iff, Regex.spells_optional_iff, spells_bit_iff,
    spells_digit_iff (by decide : 5 ≤ 9), spells_digit_iff (by decide : 4 ≤ 9),
    spells_digit_iff (Nat.le_refl 9)]
  refine or_congr ?_ (or_congr ?_ ?_)
  · constructor
    · rintro ⟨_, _, rfl, rfl, _, _, rfl, rfl, c, rfl, hc⟩
      exact ⟨c, hc, rfl⟩
    · rintro ⟨c, hc, rfl⟩
      exact ⟨_, _, rfl, rfl, _, _, rfl, rfl, c, rfl, hc⟩
  · constructor
    · rintro ⟨_, _, rfl, rfl, _, _, rfl, ⟨b, rfl, hb⟩, c, rfl, hc⟩
      exact ⟨b, c, hb, hc, rfl⟩
    · rintro ⟨b, c, hb, hc, rfl⟩
      exact ⟨_, _, rfl, rfl, _, _, rfl, ⟨b, rfl, hb⟩, c, rfl, hc⟩
  · constructor
    · rintro ⟨front, _, rfl, hfront, _, back, rfl, ⟨b, rfl, hb⟩, hback⟩
      exact ⟨front, b, back, hfront, hb, hback, rfl⟩
    · rintro ⟨front, b, back, hfront, hb, hback, rfl⟩
      exact ⟨front, _, rfl, hfront, _, back, rfl, ⟨b, rfl, hb⟩, hback⟩

/-- The alternatives together spell the octets. -/
theorem spells_octet_iff {w : List Char} : octet.Spells w ↔ IsOctet w := by
  have hone (c : Char) : decimalValue [c] = digitValue c := Nat.zero_add _
  have htwo (b c : Char) : decimalValue [b, c] = digitValue b * 10 + digitValue c :=
    congrArg (fun n => n * 10 + digitValue c) (hone b)
  have hthree (a b c : Char) :
      decimalValue [a, b, c] = (digitValue a * 10 + digitValue b) * 10 + digitValue c :=
    congrArg (fun n => n * 10 + digitValue c) (htwo a b)
  have hfixed : digitValue '2' = 2 ∧ digitValue '5' = 5 := by decide
  rw [spells_octet_cases]
  constructor
  · rintro (⟨c, ⟨hc, hc'⟩, rfl⟩ | ⟨b, c, ⟨hb, hb'⟩, ⟨hc, hc'⟩, rfl⟩ |
      ⟨_, b, _, rfl | ⟨a, rfl, ha, ha'⟩, ⟨hb, hb'⟩, rfl | ⟨c, rfl, hc, hc'⟩, rfl⟩)
    · exact ⟨by simp, by simp, by simp [hc], by rw [hthree]; omega⟩
    · exact ⟨by simp, by simp, by simp [hb, hc], by rw [hthree]; omega⟩
    · exact ⟨by simp, by simp, by simp [hb], by rw [List.nil_append, hone]; omega⟩
    · exact ⟨by simp, by simp, by simp [hb, hc], by rw [List.nil_append, htwo]; omega⟩
    · exact ⟨by simp, by simp, by simp [ha, hb], by rw [List.singleton_append, htwo]; omega⟩
    · exact ⟨by simp, by simp, by simp [ha, hb, hc],
        by rw [List.singleton_append, hthree]; omega⟩
  · rintro ⟨hn, hl, hd, hv⟩
    have hnine {c : Char} (hc : c ∈ w) : UpTo 9 c :=
      ⟨hd c hc, Nat.le_of_lt_succ (digitValue_lt (hd c hc))⟩
    match w, hn, hl with
    | [b], _, _ => exact .inr (.inr ⟨[], b, [], .inl rfl, hnine (by simp), .inl rfl, rfl⟩)
    | [b, c], _, _ =>
      exact .inr (.inr ⟨[], b, [c], .inl rfl, hnine (by simp), .inr ⟨c, rfl, hnine (by simp)⟩, rfl⟩)
    | [a, b, c], _, _ =>
      obtain ⟨ha, ha'⟩ := hnine (c := a) (by simp)
      obtain ⟨hb, hb'⟩ := hnine (c := b) (by simp)
      obtain ⟨hc, hc'⟩ := hnine (c := c) (by simp)
      rw [hthree] at hv
      -- the first digits decide which alternative it is
      obtain h | ⟨h, h'⟩ | ⟨h, h', h''⟩ : digitValue a ≤ 1 ∨ (digitValue a = 2 ∧ digitValue b ≤ 4) ∨
          (digitValue a = 2 ∧ digitValue b = 5 ∧ digitValue c ≤ 5) := by omega
      · exact .inr (.inr ⟨[a], b, [c], .inr ⟨a, rfl, ha, h⟩, ⟨hb, hb'⟩, .inr ⟨c, rfl, hc, hc'⟩, rfl⟩)
      · obtain rfl := eq_of_digitValue ha (by decide) (h.trans hfixed.1.symm)
        exact .inr (.inl ⟨b, c, ⟨hb, h'⟩, ⟨hc, hc'⟩, rfl⟩)
      · obtain rfl := eq_of_digitValue ha (by decide) (h.trans hfixed.1.symm)
        obtain rfl := eq_of_digitValue hb (by decide) (h'.trans hfixed.2.symm)
        exact .inl ⟨c, ⟨hc, h''⟩, rfl⟩

/-! ### The pattern -/

/-- The parts of the pattern of addresses. -/
def parts : List (Regex CharSet) := [.times (.seq octet (.char '.')) 3 (some 3), octet]

theorem regex?_quadSource : regex? Format.quadSource = some (Regex.anchored parts) := by
  decide +kernel

/-- A text has the format of addresses if and only if it is a quad. -/
theorem ipAddress_recognizes_quads (s : String) :
    Formats.builtin.check? "ip-address" s = some true ↔ IsQuad s.toList := by
  rw [Format.check?_builtin_iff rfl regex?_quadSource, parts, Regex.spells_separated_iff, IsQuad]
  simp only [Regex.seqAll, Regex.Spells, spells_octet_iff]
  constructor
  · rintro ⟨octets, _, hs, hl, hoctets, rfl⟩
    exact ⟨octets, hl, hoctets, hs.trans (List.append_nil _)⟩
  · rintro ⟨octets, hl, hoctets, hs⟩
    exact ⟨octets, [], hs.trans (List.append_nil _).symm, hl, hoctets, rfl⟩

end ShapeCheck.DottedQuad
