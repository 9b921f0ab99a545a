import ShapeCheck.Proofs.Expressions

/-!
# Mail addresses

The grammar of mail addresses, apart from the pattern and the lengths by which they are told.

* `IsLocal`, `IsDomain`, `IsLiteral`: what stands before the sign and behind it;
* `IsAddress`: a mail address, with the limits of its length;
* `emailSource_spells`: the texts that the pattern of mail addresses takes;
* `email_recognizes_addresses`: a text has the format of mail addresses if and only if it is one.
-/

namespace ShapeCheck.MailAddress

open Pattern
open Text (byteLength)

/-! ### The grammar -/

/-- A letter or a digit. -/
def IsPlain (c : Char) : Prop := IsLetter c ∨ c.isDigit = true

/-- The signs that may stand before the at sign. -/
def signs : List Char := "!#$%&'*+/=?^_`\x7b|\x7d~-".toList

/-- A letter, a digit or a sign. -/
def IsAtomChar (c : Char) : Prop := IsPlain c ∨ c ∈ signs

instance (c : Char) : Decidable (IsPlain c) := inferInstanceAs (Decidable (_ ∨ _))

instance (c : Char) : Decidable (IsAtomChar c) := inferInstanceAs (Decidable (_ ∨ _))

/-- What stands before the at sign: runs of letters, digits and signs, with dots between. -/
def IsLocal (w : List Char) : Prop := IsChain IsAtomChar '.' w

/-- The mark of names in other scripts, in any case. -/
def IsScriptMark (w : List Char) : Prop :=
  ∃ x ∈ ['x', 'X'], ∃ n ∈ ['n', 'N'], w = [x, n, '-', '-']

/-- A label of a domain but the last: runs of letters and digits with hyphens between, behind the
mark of other scripts if it has one. -/
def IsInnerLabel (w : List Char) : Prop :=
  ∃ mark body, (mark = [] ∨ IsScriptMark mark) ∧ IsChain IsPlain '-' body ∧ w = mark ++ body

/-- The last label of a domain, which starts with a letter. -/
def IsLastLabel (w : List Char) : Prop := (∃ c ∈ w.head?, IsLetter c) ∧ IsChain IsPlain '-' w

/-- The labels of a domain, of which there are at least two. -/
def AreLabels (labels : List (List Char)) : Prop :=
  ∃ inner last, labels = inner ++ [last] ∧ inner ≠ [] ∧ (∀ label ∈ inner, IsInnerLabel label) ∧
    IsLastLabel last

/-- A domain by name: labels of less than 64 bytes each, with dots between. -/
def IsDomain (w : List Char) : Prop :=
  ∃ labels, AreLabels labels ∧ (∀ label ∈ labels, byteLength label < 64) ∧
    w = ['.'].intercalate labels

/-- A domain by number: four numbers up to 255 in brackets, without leading zeros and with dots
between. -/
def IsLiteral (w : List Char) : Prop :=
  ∃ octets : List Nat, octets.length = 4 ∧ (∀ n ∈ octets, n ≤ 255) ∧
    w = '[' :: ['.'].intercalate (octets.map (Nat.toDigits 10)) ++ [']']

/-- A mail address: at most 254 bytes, with at most 64 before the at sign. -/
def IsAddress (w : List Char) : Prop :=
  ∃ before domain, w = before ++ '@' :: domain ∧ byteLength w ≤ 254 ∧ byteLength before ≤ 64 ∧
    IsLocal before ∧ (IsDomain domain ∨ IsLiteral domain)

/-! ### Sets of the pattern -/

/-- Letters and digits. -/
def plainSet : CharSet := .folded (.unionAll [.range 0x61 0x7A, .range 0x30 0x39])

/-- Letters, digits and signs. -/
def atomSet : CharSet :=
  .folded (.unionAll (.range 0x61 0x7A :: .range 0x30 0x39 :: signs.map fun c => .single c.toNat))

/-- The digits from one to another. -/
def digitSet (first last : Nat) : CharSet := .folded (.range (0x30 + first) (0x30 + last))

theorem isDigit_iff {c : Char} : c.isDigit = true ↔ 0x30 ≤ c.toNat ∧ c.toNat ≤ 0x39 := by
  simp only [Char.isDigit, Bool.and_eq_true, decide_eq_true_eq]
  exact Iff.rfl

theorem has_plainSet_iff (c : Char) : plainSet.has c.toNat = true ↔ IsPlain c := by
  simp only [plainSet, CharSet.has_folded_unionAll_iff, List.mem_cons, List.not_mem_nil, or_false,
    exists_eq_or_imp, exists_eq_left, CharSet.has_folded_letters_iff, IsPlain, isDigit_iff]
  rw [CharSet.has_folded_caseless_iff (by omega)]

/-- Signs are ASCII characters and no letters. -/
theorem signs_caseless : ∀ c ∈ signs, c.toNat < 0x41 ∨ (0x5A < c.toNat ∧ c.toNat < 0x61) ∨
    (0x7A < c.toNat ∧ c.toNat < 128) :=
  List.all_iff_forall_prop.1 (by decide +kernel)

theorem has_atomSet_iff (c : Char) : atomSet.has c.toNat = true ↔ IsAtomChar c := by
  have hsign : (∃ s ∈ signs.map fun c => CharSet.single c.toNat,
      (CharSet.folded s).has c.toNat = true) ↔ c ∈ signs := by
    simp only [List.mem_map, exists_exists_and_eq_and, CharSet.single]
    constructor
    · rintro ⟨d, hd, h⟩
      rw [CharSet.has_folded_caseless_iff (by have := signs_caseless d hd; omega)] at h
      rwa [Char.toNat_inj.1 (by omega : c.toNat = d.toNat)]
    · intro hc
      refine ⟨c, hc, ?_⟩
      rw [CharSet.has_folded_caseless_iff (by have := signs_caseless c hc; omega)]
      exact ⟨Nat.le_refl _, Nat.le_refl _⟩
  rw [atomSet, CharSet.has_folded_unionAll_iff, IsAtomChar, ← has_plainSet_iff, ← hsign, plainSet,
    CharSet.has_folded_unionAll_iff]
  simp only [List.mem_cons, List.not_mem_nil, or_false, exists_eq_or_imp, exists_eq_left, or_assoc]

theorem has_digitSet_iff {first last : Nat} (hl : last ≤ 9) {c : Char} :
    (digitSet first last).has c.toNat = true ↔
      ∃ k, first ≤ k ∧ k ≤ last ∧ c = Nat.digitChar k := by
  have hdigit : ∀ k ≤ 9, (Nat.digitChar k).toNat = 0x30 + k := by decide
  rw [digitSet, CharSet.has_folded_caseless_iff (by omega)]
  constructor
  · intro h
    refine ⟨c.toNat - 0x30, by omega, by omega, Char.toNat_inj.1 ?_⟩
    rw [hdigit _ (by omega)]
    omega
  · rintro ⟨k, hk, hk', rfl⟩
    rw [hdigit k (by omega)]
    omega

/-! ### Numbers -/

/-- The expression of a number up to 255 without leading zeros. -/
def octet : Regex CharSet :=
  .altAll [.seqAll [.char '2', .char '5', .atom (digitSet 0 5)],
    .seqAll [.char '2', .atom (digitSet 0 4), .atom (digitSet 0 9)],
    .seqAll [.char '1', .times (.atom (digitSet 0 9)) 2 (some 2)],
    .seqAll [.times (.atom (digitSet 1 9)) 0 (some 1), .atom (digitSet 0 9)]]

theorem spells_digit_iff (first : Nat) {last : Nat} (hl : last ≤ 9) (w : List Char) :
    (Regex.atom (digitSet first last)).Spells w ↔
      ∃ k, w = [Nat.digitChar k] ∧ first ≤ k ∧ k ≤ last := by
  simp only [Regex.Spells, has_digitSet_iff hl]
  constructor
  · rintro ⟨c, rfl, k, hk, hk', rfl⟩
    exact ⟨k, rfl, hk, hk'⟩
  · rintro ⟨k, rfl, hk, hk'⟩
    exact ⟨_, rfl, k, hk, hk', rfl⟩

theorem toDigits_snoc {n d : Nat} (hn : 0 < n) (hd : d ≤ 9) :
    Nat.toDigits 10 (10 * n + d) = Nat.toDigits 10 n ++ [Nat.digitChar d] := by
  rw [← Nat.toDigits_append_toDigits (by decide) hn (Nat.lt_succ_of_le hd),
    Nat.toDigits_of_lt_base (Nat.lt_succ_of_le hd)]

theorem spells_octet_cases {w : List Char} :
    octet.Spells w ↔ (∃ k ≤ 5, w = ['2', '5', Nat.digitChar k]) ∨
      (∃ i ≤ 4, ∃ j ≤ 9, w = ['2', Nat.digitChar i, Nat.digitChar j]) ∨
      (∃ i ≤ 9, ∃ j ≤ 9, w = ['1', Nat.digitChar i, Nat.digitChar j]) ∨
      (∃ j ≤ 9, w = [Nat.digitChar j]) ∨
      ∃ i ≤ 9, 1 ≤ i ∧ ∃ j ≤ 9, w = [Nat.digitChar i, Nat.digitChar j] := by
  have hpair (w : List Char) : (Regex.times (.atom (digitSet 0 9)) 2 (some 2)).Spells w ↔
      ∃ i ≤ 9, ∃ j ≤ 9, w = [Nat.digitChar i, Nat.digitChar j] := by
    rw [Regex.spells_times_iff (spells_digit_iff 0 (Nat.le_refl 9))]
    constructor
    · rintro ⟨ks, hl, hm, rfl, hks⟩
      match ks, Nat.le_antisymm (hm 2 rfl) hl with
      | [i, j], _ => exact ⟨i, (hks i (by simp)).2, j, (hks j (by simp)).2, rfl⟩
    · rintro ⟨i, hi, j, hj, rfl⟩
      exact ⟨[i, j], Nat.le_refl 2, by simp, rfl, by simp [hi, hj]⟩
  simp only [octet, Regex.altAll, Regex.seqAll, Regex.spells_alt_iff, Regex.spells_seq_iff,
    Regex.spells_char_iff, Regex.spells_optional_iff, hpair,
    spells_digit_iff 0 (by decide : 5 ≤ 9), spells_digit_iff 0 (by decide : 4 ≤ 9),
    spells_digit_iff 0 (Nat.le_refl 9), spells_digit_iff 1 (Nat.le_refl 9)]
  refine or_congr ?_ (or_congr ?_ (or_congr ?_ ?_))
  · constructor
    · rintro ⟨_, _, rfl, rfl, _, _, rfl, rfl, k, rfl, -, hk⟩
      exact ⟨k, hk, rfl⟩
    · rintro ⟨k, hk, rfl⟩
      exact ⟨_, _, rfl, rfl, _, _, rfl, rfl, k, rfl, Nat.zero_le k, hk⟩
  · constructor
    · rintro ⟨_, _, rfl, rfl, _, _, rfl, ⟨i, rfl, -, hi⟩, j, rfl, -, hj⟩
      exact ⟨i, hi, j, hj, rfl⟩
    · rintro ⟨i, hi, j, hj, rfl⟩
      exact ⟨_, _, rfl, rfl, _, _, rfl, ⟨i, rfl, Nat.zero_le i, hi⟩, j, rfl, Nat.zero_le j, hj⟩
  · constructor
    · rintro ⟨_, _, rfl, rfl, i, hi, j, hj, rfl⟩
      exact ⟨i, hi, j, hj, rfl⟩
    · rintro ⟨i, hi, j, hj, rfl⟩
      exact ⟨_, _, rfl, rfl, i, hi, j, hj, rfl⟩
  · constructor
    · rintro ⟨_, _, rfl, rfl | ⟨i, rfl, hi', hi⟩, j, rfl, -, hj⟩
      · exact .inl ⟨j, hj, rfl⟩
      · exact .inr ⟨i, hi, hi', j, hj, rfl⟩
    · rintro (⟨j, hj, rfl⟩ | ⟨i, hi, hi', j, hj, rfl⟩)
      · exact ⟨[], _, rfl, .inl rfl, j, rfl, Nat.zero_le j, hj⟩
      · exact ⟨_, _, rfl, .inr ⟨i, rfl, hi', hi⟩, j, rfl, Nat.zero_le j, hj⟩

theorem spells_octet_iff {w : List Char} :
    octet.Spells w ↔ ∃ n, w = Nat.toDigits 10 n ∧ n ≤ 255 := by
  rw [spells_octet_cases]
  have hone {n : Nat} (hn : n ≤ 9) : Nat.toDigits 10 n = [Nat.digitChar n] :=
    Nat.toDigits_of_lt_base (Nat.lt_succ_of_le hn)
  have htwo {i j : Nat} (hi : 1 ≤ i) (hi' : i ≤ 9) (hj : j ≤ 9) :
      Nat.toDigits 10 (10 * i + j) = [Nat.digitChar i, Nat.digitChar j] := by
    rw [toDigits_snoc hi hj, hone hi']
    rfl
  have hthree {h i j : Nat} (hh : 1 ≤ h) (hh' : h ≤ 9) (hi : i ≤ 9) (hj : j ≤ 9) :
      Nat.toDigits 10 (10 * (10 * h + i) + j) =
        [Nat.digitChar h, Nat.digitChar i, Nat.digitChar j] := by
    rw [toDigits_snoc (by omega) hj, htwo hh hh' hi]
    rfl
  constructor
  · rintro (⟨k, hk, rfl⟩ | ⟨i, hi, j, hj, rfl⟩ | ⟨i, hi, j, hj, rfl⟩ | ⟨j, hj, rfl⟩ |
      ⟨i, hi, hi', j, hj, rfl⟩)
    · exact ⟨_, (hthree (h := 2) (i := 5) (by decide) (by decide) (by decide) (by omega)).symm,
        by omega⟩
    · exact ⟨_, (hthree (h := 2) (by decide) (by decide) (by omega) hj).symm, by omega⟩
    · exact ⟨_, (hthree (h := 1) (by decide) (by decide) hi hj).symm, by omega⟩
    · exact ⟨_, (hone hj).symm, by omega⟩
    · exact ⟨_, (htwo hi' hi hj).symm, by omega⟩
  · rintro ⟨n, rfl, hn⟩
    obtain hn' | hn' | ⟨hl, hl'⟩ : n ≤ 9 ∨ 255 < n ∨ 10 ≤ n ∧ n ≤ 255 := by omega
    · exact .inr (.inr (.inr (.inl ⟨n, hn', hone hn'⟩)))
    · omega
    · obtain ⟨i, j, hj, rfl⟩ : ∃ i j, j ≤ 9 ∧ n = 10 * i + j := ⟨n / 10, n % 10, by omega, by omega⟩
      by_cases hi : i ≤ 9
      · exact .inr (.inr (.inr (.inr ⟨i, hi, by omega, j, hj, htwo (by omega) hi hj⟩)))
      · obtain ⟨h, i, hi', rfl⟩ : ∃ h k, k ≤ 9 ∧ i = 10 * h + k :=
          ⟨i / 10, i % 10, by omega, by omega⟩
        have hw := hthree (h := h) (by omega) (by omega) hi' hj
        obtain rfl | rfl : h = 1 ∨ h = 2 := by omega
        · exact .inr (.inr (.inl ⟨i, hi', j, hj, hw⟩))
        · by_cases hi5 : i = 5
          · subst hi5
            exact .inl ⟨j, by omega, hw⟩
          · exact .inr (.inl ⟨i, by omega, j, hj, hw⟩)

/-! ### The pattern -/

/-- The expression of the mark of names in other scripts. -/
def scriptMark : Regex CharSet :=
  .seqAll [.atom (.unionAll [.single 0x78, .single 0x58]),
    .atom (.unionAll [.single 0x6E, .single 0x4E]), .char '-', .char '-']

/-- The expression of a label but the last, with the dot behind it. -/
def innerLabel : Regex CharSet :=
  .seqAll [.times scriptMark 0 (some 1), .times (.atom plainSet) 1 none, .marked plainSet '-',
    .char '.']

/-- The expression of a domain by name. -/
def domain : Regex CharSet :=
  .seqAll [.times innerLabel 1 none, .atom (.folded (.range 0x61 0x7A)),
    .times (.atom plainSet) 0 none, .marked plainSet '-']

/-- The expression of a domain by number. -/
def literal : Regex CharSet :=
  .seqAll [.char '[', .times (.seq octet (.char '.')) 3 (some 3), octet, .char ']']

/-- The parts of the pattern of mail addresses. -/
def parts : List (Regex CharSet) :=
  [.times (.atom atomSet) 1 none, .marked atomSet '.', .char '@', .alt domain literal]

theorem regex?_emailSource : regex? Format.emailSource = some (Regex.anchored parts) := by
  apply regex?_of_toList
  case h =>
    unfold Format.emailSource
    repeat first | with_reducible apply toList_append_of | exact String.toList_ofList
  decide +kernel

theorem spells_scriptMark_iff {w : List Char} : scriptMark.Spells w ↔ IsScriptMark w := by
  have hletter (a b : Char) (w : List Char) :
      (Regex.atom (.unionAll [.single a.toNat, .single b.toNat])).Spells w ↔
        ∃ c ∈ [a, b], w = [c] := by
    simp only [Regex.Spells, CharSet.has_unionAll_iff, List.mem_cons, List.not_mem_nil, or_false,
      exists_eq_or_imp, exists_eq_left, CharSet.single, CharSet.has, Bool.and_eq_true,
      decide_eq_true_eq]
    constructor
    · rintro ⟨c, rfl, h | h⟩
      · exact .inl (congrArg (fun c => [c]) (Char.toNat_inj.1 (by omega)))
      · exact .inr (congrArg (fun c => [c]) (Char.toNat_inj.1 (by omega)))
    · rintro (rfl | rfl)
      · exact ⟨a, rfl, .inl ⟨Nat.le_refl _, Nat.le_refl _⟩⟩
      · exact ⟨b, rfl, .inr ⟨Nat.le_refl _, Nat.le_refl _⟩⟩
  have hx := hletter 'x' 'X'
  have hn := hletter 'n' 'N'
  simp only [scriptMark, Regex.seqAll, Regex.spells_seq_iff, Regex.spells_char_iff]
  constructor
  · rintro ⟨x, _, rfl, h, n, _, rfl, h', _, _, rfl, rfl, rfl⟩
    obtain ⟨x, hx, rfl⟩ := (hx _).1 h
    obtain ⟨n, hn, rfl⟩ := (hn _).1 h'
    exact ⟨x, hx, n, hn, rfl⟩
  · rintro ⟨x, hx', n, hn', rfl⟩
    exact ⟨[x], _, rfl, (hx _).2 ⟨x, hx', rfl⟩, [n], _, rfl, (hn _).2 ⟨n, hn', rfl⟩, _, _, rfl, rfl,
      rfl⟩

theorem spells_innerLabel_iff {w : List Char} :
    innerLabel.Spells w ↔ ∃ label, w = label ++ ['.'] ∧ IsInnerLabel label := by
  rw [innerLabel, Regex.spells_seqAll_cons_iff]
  simp only [Regex.spells_chain_iff has_plainSet_iff, Regex.spells_optional_iff,
    spells_scriptMark_iff]
  simp only [Regex.seqAll, Regex.spells_char_iff]
  constructor
  · rintro ⟨mark, _, rfl, hmark, body, _, rfl, hbody, rfl⟩
    exact ⟨mark ++ body, (List.append_assoc ..).symm, mark, body, hmark, hbody, rfl⟩
  · rintro ⟨_, rfl, mark, body, hmark, hbody, rfl⟩
    exact ⟨mark, _, List.append_assoc .., hmark, body, _, rfl, hbody, rfl⟩

theorem spells_lastLabel_iff {w : List Char} :
    (Regex.seqAll [.atom (.folded (.range 0x61 0x7A)), .times (.atom plainSet) 0 none,
      .marked plainSet '-']).Spells w ↔ IsLastLabel w := by
  simp only [Regex.seqAll, Regex.spells_seq_iff, Regex.spells_marked_iff has_plainSet_iff,
    Regex.spells_many_iff, has_plainSet_iff, IsLastLabel, isChain_iff]
  constructor
  · rintro ⟨_, _, rfl, ⟨c, rfl, hc⟩, run, _, rfl, ⟨-, hrun⟩, runs, hruns, rfl⟩
    rw [CharSet.has_folded_letters_iff] at hc
    exact ⟨⟨c, rfl, hc⟩, c :: run, runs,
      ⟨by simp, List.forall_mem_cons.2 ⟨.inl hc, hrun⟩⟩, hruns, rfl⟩
  · rintro ⟨⟨c, hc, hletter⟩, run, runs, ⟨hne, hrun⟩, hruns, rfl⟩
    obtain ⟨d, run, rfl⟩ := List.exists_cons_of_ne_nil hne
    obtain rfl : d = c := by simpa using hc
    exact ⟨[d], _, rfl, ⟨d, rfl, CharSet.has_folded_letters_iff.2 hletter⟩, run, _, rfl,
      ⟨Nat.zero_le _, (List.forall_mem_cons.1 hrun).2⟩, runs, hruns, rfl⟩

theorem spells_domain_iff {w : List Char} :
    domain.Spells w ↔ ∃ labels, AreLabels labels ∧ w = ['.'].intercalate labels := by
  simp only [domain, Regex.spells_seqAll_cons_iff (r := .times innerLabel 1 none),
    spells_lastLabel_iff, Regex.spells_times_iff fun _ => spells_innerLabel_iff]
  constructor
  · rintro ⟨_, last, rfl, ⟨inner, hl, -, rfl, hinner⟩, hlast⟩
    exact ⟨inner ++ [last], ⟨inner, last, rfl, List.length_pos_iff.1 hl, hinner, hlast⟩,
      (intercalate_concat '.' inner last).symm⟩
  · rintro ⟨_, ⟨inner, last, rfl, hne, hinner, hlast⟩, rfl⟩
    exact ⟨_, last, intercalate_concat '.' inner last,
      ⟨inner, List.length_pos_iff.2 hne, by simp, rfl, hinner⟩, hlast⟩

theorem spells_literal_iff {w : List Char} : literal.Spells w ↔ IsLiteral w := by
  rw [literal, Regex.spells_seqAll_cons_iff]
  simp only [Regex.spells_separated_iff, spells_octet_iff, Regex.spells_char_iff,
    forall_exists_eq_iff]
  simp only [Regex.seqAll, Regex.spells_char_iff]
  constructor
  · rintro ⟨_, _, rfl, rfl, _, _, rfl, hl, ⟨octets, rfl, hle⟩, rfl⟩
    rw [List.length_map] at hl
    exact ⟨octets, hl, hle, rfl⟩
  · rintro ⟨octets, hl, hle, rfl⟩
    rw [← List.length_map (Nat.toDigits 10)] at hl
    exact ⟨['['], _, rfl, rfl, _, _, rfl, hl, ⟨octets, rfl, hle⟩, rfl⟩

/-- The texts that the pattern of mail addresses takes. -/
theorem emailSource_spells {s : String} :
    Format.emailShape.accepts s = true ↔ ∃ before domain, s.toList = before ++ '@' :: domain ∧
      IsLocal before ∧
      ((∃ labels, AreLabels labels ∧ domain = ['.'].intercalate labels) ∨ IsLiteral domain) := by
  rw [Format.emailShape, Format.accepts_ofSource_iff regex?_emailSource, parts,
    Regex.spells_chain_iff has_atomSet_iff]
  simp only [Regex.seqAll, Regex.spells_seq_iff (r := .char '@'), Regex.spells_char_iff,
    Regex.spells_alt_iff, spells_domain_iff, spells_literal_iff]
  constructor
  · rintro ⟨before, _, hs, hbefore, _, domain, rfl, rfl, hdomain⟩
    exact ⟨before, domain, hs, hbefore, hdomain⟩
  · rintro ⟨before, domain, hs, hbefore, hdomain⟩
    exact ⟨before, _, hs, hbefore, _, domain, rfl, rfl, hdomain⟩

/-! ### Lengths -/

/-- The text is cut at the last of a character. -/
theorem cutAtLast?_eq_some_iff {mark : Char} {cs before after : List Char} :
    Format.cutAtLast? mark cs = some (before, after) ↔
      cs = before ++ mark :: after ∧ mark ∉ after := by
  have hcut := List.takeWhile_append_dropWhile (p := fun c => decide (c ≠ mark)) (l := cs.reverse)
  unfold Format.cutAtLast?
  constructor
  · intro h
    split at h
    · exact absurd h (by simp)
    · rename_i c rest hrest
      obtain ⟨rfl, rfl⟩ := Prod.mk.inj (Option.some.inj h)
      have hc : c = mark := by
        have := List.head?_dropWhile_not (fun c => decide (c ≠ mark)) cs.reverse
        rw [hrest] at this
        simpa using this
      rw [hrest, hc] at hcut
      refine ⟨?_, fun hm => ?_⟩
      · simpa using (congrArg List.reverse hcut).symm
      · have := List.all_takeWhile (p := fun c => decide (c ≠ mark)) (l := cs.reverse)
        rw [List.all_eq_true] at this
        simpa using this mark (by simpa using hm)
  · rintro ⟨rfl, hm⟩
    have hafter : ∀ c ∈ after.reverse, decide (c ≠ mark) = true := fun c hc =>
      decide_eq_true fun h => hm (h ▸ List.mem_reverse.1 hc)
    have hrev : (before ++ mark :: after).reverse = after.reverse ++ mark :: before.reverse := by
      simp
    rw [hrev, List.dropWhile_append_of_pos hafter, List.takeWhile_append_of_pos hafter]
    simp

theorem pieces_eq_splitOn (mark : Char) (cs : List Char) :
    Format.pieces mark cs = cs.splitOn mark := by
  induction cs with
  | nil => rfl
  | cons c rest ih =>
    obtain ⟨first, more, h⟩ := List.exists_cons_of_ne_nil (List.splitOn_ne_nil mark rest)
    rw [Format.pieces, List.splitOn_cons_eq_if_modifyHead, ih, h]
    simp only [beq_iff_eq]
    rfl

theorem byteLength_le_of_mem_pieces {mark : Char} {cs piece : List Char}
    (h : piece ∈ Format.pieces mark cs) : byteLength piece ≤ byteLength cs := by
  induction cs generalizing piece with
  | nil =>
    obtain rfl : piece = [] := by simpa [Format.pieces] using h
    exact Nat.le_refl _
  | cons c rest ih =>
    rw [Format.pieces] at h
    rw [Text.byteLength_cons]
    split at h
    · obtain rfl : piece = [c] := by simpa using h
      simp
    · rename_i first more hrest
      have hfirst := ih (hrest ▸ List.mem_cons_self)
      have hmore (p : List Char) (hp : p ∈ more) := ih (hrest ▸ List.mem_cons_of_mem first hp)
      split at h
      · rcases List.mem_cons.1 h with rfl | h
        · simp
        · rcases List.mem_cons.1 h with rfl | h
          · omega
          · have := hmore piece h
            omega
      · rcases List.mem_cons.1 h with rfl | h
        · rw [Text.byteLength_cons]
          omega
        · have := hmore piece h
          omega

/-- Domains by number are too short for a piece of 64 bytes. -/
theorem byteLength_literal_lt {w : List Char} (h : IsLiteral w) : byteLength w < 64 := by
  obtain ⟨octets, hl, hle, rfl⟩ := h
  have hdigits : ∀ n < 256, byteLength (Nat.toDigits 10 n) ≤ 3 := by decide +kernel
  match octets, hl with
  | [a, b, c, d], _ =>
    have ha := hdigits a (Nat.lt_succ_of_le (hle a (by simp)))
    have hb := hdigits b (Nat.lt_succ_of_le (hle b (by simp)))
    have hc := hdigits c (Nat.lt_succ_of_le (hle c (by simp)))
    have hd := hdigits d (Nat.lt_succ_of_le (hle d (by simp)))
    have hmark : '['.utf8Size = 1 ∧ ']'.utf8Size = 1 ∧ '.'.utf8Size = 1 := by decide
    simp only [List.map_cons, List.map_nil, List.intercalate_cons_cons, List.intercalate_singleton,
      List.cons_append, Text.byteLength_cons, Text.byteLength_append, Text.byteLength_nil]
    omega

/-! ### Addresses -/

theorem IsScriptMark.of_mem {w : List Char} (h : IsScriptMark w) {c : Char} (hc : c ∈ w) :
    IsPlain c ∨ c = '-' := by
  obtain ⟨x, hx, n, hn, rfl⟩ := h
  have hplain : ∀ c ∈ ['x', 'X'] ++ ['n', 'N'], IsPlain c :=
    List.all_iff_forall_prop.1 (by decide)
  simp only [List.mem_cons, List.not_mem_nil, or_false] at hc
  rcases hc with rfl | rfl | rfl | rfl
  · exact .inl (hplain c (List.mem_append_left _ hx))
  · exact .inl (hplain c (List.mem_append_right _ hn))
  · exact .inr rfl
  · exact .inr rfl

/-- Labels consist of letters, digits and hyphens. -/
theorem AreLabels.of_mem {labels : List (List Char)} (h : AreLabels labels) {label : List Char}
    (hl : label ∈ labels) {c : Char} (hc : c ∈ label) : IsPlain c ∨ c = '-' := by
  obtain ⟨inner, last, rfl, -, hinner, -, hlast⟩ := h
  rcases List.mem_append.1 hl with hl | hl
  · obtain ⟨mark, body, hmark, hbody, rfl⟩ := hinner label hl
    rcases List.mem_append.1 hc with hc | hc
    · rcases hmark with rfl | hmark
      · simp at hc
      · exact hmark.of_mem hc
    · exact hbody.of_mem hc
  · obtain rfl : label = last := by simpa using hl
    exact hlast.of_mem hc

theorem mem_intercalate_cases {c mark : Char} {ws : List (List Char)}
    (h : c ∈ [mark].intercalate ws) : c = mark ∨ ∃ w ∈ ws, c ∈ w := by
  cases ws with
  | nil => simp at h
  | cons w ws =>
    rw [intercalate_cons] at h
    rcases List.mem_append.1 h with h | h
    · exact .inr ⟨w, List.mem_cons_self, h⟩
    · obtain ⟨v, hv, h⟩ := List.mem_flatMap.1 h
      rcases List.mem_cons.1 h with rfl | h
      · exact .inl rfl
      · exact .inr ⟨v, List.mem_cons_of_mem _ hv, h⟩

theorem at_not_mem_intercalate_labels {labels : List (List Char)} (h : AreLabels labels) :
    '@' ∉ ['.'].intercalate labels := by
  intro hat
  rcases mem_intercalate_cases hat with hdot | ⟨label, hl, hat⟩
  · exact absurd hdot (by decide)
  · exact absurd (h.of_mem hl hat) (by decide)

theorem at_not_mem_literal {w : List Char} (h : IsLiteral w) : '@' ∉ w := by
  obtain ⟨octets, -, -, rfl⟩ := h
  intro hat
  rcases List.mem_append.1 hat with hat | hat
  · rcases List.mem_cons.1 hat with hat | hat
    · exact absurd hat (by decide)
    · rcases mem_intercalate_cases hat with hdot | ⟨w, hw, hat⟩
      · exact absurd hdot (by decide)
      · obtain ⟨n, -, rfl⟩ := List.mem_map.1 hw
        exact absurd (Nat.isDigit_of_mem_toDigits (by decide) (by decide) hat) (by decide)
  · exact absurd hat (by decide)

/-- The at sign of an address is the last one. -/
theorem at_not_mem_domain {domain : List Char}
    (h : (∃ labels, AreLabels labels ∧ domain = ['.'].intercalate labels) ∨ IsLiteral domain) :
    '@' ∉ domain := by
  rcases h with ⟨labels, hl, rfl⟩ | h
  · exact at_not_mem_intercalate_labels hl
  · exact at_not_mem_literal h

/-- The pieces of a domain are its labels. -/
theorem pieces_intercalate_labels {labels : List (List Char)} (h : AreLabels labels) :
    Format.pieces '.' (['.'].intercalate labels) = labels := by
  have hne : labels ≠ [] := by
    obtain ⟨inner, last, rfl, -⟩ := h
    simp
  rw [pieces_eq_splitOn]
  have hdot : ∀ label ∈ labels, '.' ∉ label := fun label hl hdot =>
    absurd (h.of_mem hl hdot) (by decide)
  exact List.splitOn_intercalate '.' hdot hne

/-- The limit of labels concerns domains by name alone. -/
theorem all_pieces_iff {domain : List Char}
    (h : (∃ labels, AreLabels labels ∧ domain = ['.'].intercalate labels) ∨ IsLiteral domain) :
    (Format.pieces '.' domain).all (byteLength · < 64) = true ↔
      IsDomain domain ∨ IsLiteral domain := by
  rw [List.all_eq_true]
  simp only [decide_eq_true_eq]
  constructor
  · intro hall
    rcases h with ⟨labels, hl, rfl⟩ | h
    · rw [pieces_intercalate_labels hl] at hall
      exact .inl ⟨labels, hl, hall, rfl⟩
    · exact .inr h
  · rintro (⟨labels, hl, hall, rfl⟩ | h)
    · rwa [pieces_intercalate_labels hl]
    · exact fun piece hp =>
        Nat.lt_of_le_of_lt (byteLength_le_of_mem_pieces hp) (byteLength_literal_lt h)

theorem isEmail_iff (s : String) : Format.isEmail s = true ↔ IsAddress s.toList := by
  unfold Format.isEmail
  constructor
  · intro h
    split at h
    · exact absurd h (by simp)
    · rename_i before domain hcut
      simp only [Bool.and_eq_true, decide_eq_true_eq] at h
      obtain ⟨⟨⟨hs, hbefore⟩, hpieces⟩, hshape⟩ := h
      obtain ⟨before', domain', hs', hlocal, hdomain⟩ := emailSource_spells.1 hshape
      -- the text is cut where the pattern has its sign
      rw [cutAtLast?_eq_some_iff.2 ⟨hs', at_not_mem_domain hdomain⟩] at hcut
      obtain ⟨rfl, rfl⟩ := Prod.mk.inj (Option.some.inj hcut)
      exact ⟨_, _, hs', hs, hbefore, hlocal, (all_pieces_iff hdomain).1 hpieces⟩
  · rintro ⟨before, domain, hs, hlen, hbefore, hlocal, hdomain⟩
    have hshape : (∃ labels, AreLabels labels ∧ domain = ['.'].intercalate labels) ∨
        IsLiteral domain := hdomain.imp_left fun ⟨labels, hl, _, h⟩ => ⟨labels, hl, h⟩
    rw [cutAtLast?_eq_some_iff.2 ⟨hs, at_not_mem_domain hshape⟩]
    simp only [Bool.and_eq_true, decide_eq_true_eq]
    exact ⟨⟨⟨hlen, hbefore⟩, (all_pieces_iff hshape).2 hdomain⟩,
      emailSource_spells.2 ⟨before, domain, hs, hlocal, hshape⟩⟩

/-- A text has the format of mail addresses if and only if it is a mail address. -/
theorem email_recognizes_addresses (s : String) :
    Formats.builtin.check? "email" s = some true ↔ IsAddress s.toList := by
  have hget : Formats.builtin.get? "email" = some (.predicate Format.isEmail) := rfl
  rw [Formats.check?, hget, ← isEmail_iff]
  exact ⟨fun h => Option.some.inj h, fun h => congrArg some h⟩

end ShapeCheck.MailAddress
