import Mathlib
import ShapeCheck.Format.Builtin
import ShapeCheck.Proofs.CaseMapping
import ShapeCheck.Proofs.Matching

/-!
# What common expressions spell

* `IsLetter`: the letters of patterns that ignore case;
* `Regex.spells_times_iff`: copies of an expression whose words are known;
* `IsChain`, `Regex.spells_chain_iff`: runs of characters with a mark between them;
* `Regex.spells_separated_iff`: a number of words with a mark between them;
* `regex?_of_toList`: what a pattern text stands for;
* `Format.accepts_ofSource_iff`, `Format.check?_builtin_iff`: the format of a pattern text that is held
  to both ends.
-/

namespace ShapeCheck.Pattern

open Unicode (fold)

/-! ### Sets -/

/-- The letters of ASCII, and the two that differ from them in case only: long s and the Kelvin
sign. -/
def IsLetter (c : Char) : Prop := c.isAlpha = true ∨ c = '\u017F' ∨ c = '\u212A'

instance (c : Char) : Decidable (IsLetter c) := inferInstanceAs (Decidable (_ ∨ _))

namespace CharSet

theorem has_unionAll_iff {ss : List CharSet} {c : Nat} :
    (unionAll ss).has c = true ↔ ∃ s ∈ ss, s.has c = true := by
  induction ss with
  | nil => simp [unionAll, has]
  | cons s rest ih =>
    cases rest with
    | nil => simp [unionAll]
    | cons t rest =>
      rw [unionAll, has, Bool.or_eq_true, ih]
      · simp
      · exact List.cons_ne_nil _ _

theorem has_folded_iff {s : CharSet} {c : Nat} :
    (folded s).has c = true ↔ ∃ n, fold n = fold c ∧ s.has n = true := by
  simp only [has, List.any_eq_true, Unicode.mem_orbit_iff]

theorem has_folded_unionAll_iff {ss : List CharSet} {c : Nat} :
    (folded (unionAll ss)).has c = true ↔ ∃ s ∈ ss, (folded s).has c = true := by
  simp only [has_folded_iff, has_unionAll_iff]
  constructor
  · rintro ⟨n, hn, s, hs, h⟩
    exact ⟨s, hs, n, hn, h⟩
  · rintro ⟨s, hs, n, hn, h⟩
    exact ⟨n, hn, s, hs, h⟩

theorem has_folded_range_iff {a b c : Nat} (h : ∀ n, a ≤ n → n ≤ b → fold n = n) :
    (folded (range a b)).has c = true ↔ a ≤ fold c ∧ fold c ≤ b := by
  rw [has_folded_iff]
  simp only [has, Bool.and_eq_true, decide_eq_true_eq]
  constructor
  · rintro ⟨n, hn, ha, hb⟩
    rw [h n ha hb] at hn
    exact ⟨hn ▸ ha, hn ▸ hb⟩
  · exact fun hc => ⟨fold c, Unicode.fold_fold c, hc⟩

theorem fold_eq_self_of_lt {n : Nat} (h : n < 128) (hn : n < 0x41 ∨ 0x5A < n) : fold n = n := by
  have hall : ∀ n < 128, n < 0x41 ∨ 0x5A < n → fold n = n := by decide +kernel
  exact hall n h hn

theorem has_folded_letters_iff {c : Char} :
    (folded (range 0x61 0x7A)).has c.toNat = true ↔ IsLetter c := by
  rw [has_folded_range_iff fun n ha hb => fold_eq_self_of_lt (by omega) (by omega)]
  have halpha : c.isAlpha = true ↔
      (0x41 ≤ c.toNat ∧ c.toNat ≤ 0x5A) ∨ (0x61 ≤ c.toNat ∧ c.toNat ≤ 0x7A) := by
    simp only [Char.isAlpha, Char.isUpper, Char.isLower, Bool.or_eq_true, Bool.and_eq_true,
      decide_eq_true_eq]
    exact Iff.rfl
  constructor
  · intro h
    -- what folds to a letter is this letter, its capital, or one of the two beyond ASCII
    rcases Unicode.fold_ascii_cases (c := c.toNat) (by omega) with hc | hc | hc | hc
    · exact .inl (halpha.2 (.inr (by omega)))
    · exact .inl (halpha.2 (.inl ⟨hc.1, hc.2.1⟩))
    · exact .inr (.inl (Char.toNat_inj.1 hc.1))
    · exact .inr (.inr (Char.toNat_inj.1 hc.1))
  · rintro (h | rfl | rfl)
    · have hall : ∀ n < 128, (0x41 ≤ n ∧ n ≤ 0x5A) ∨ (0x61 ≤ n ∧ n ≤ 0x7A) →
          0x61 ≤ fold n ∧ fold n ≤ 0x7A := by decide +kernel
      have hc := halpha.1 h
      exact hall c.toNat (by omega) hc
    · decide +kernel
    · decide +kernel

/-- Ranges of ASCII characters that are no letters are closed under case. -/
theorem has_folded_caseless_iff {a b : Nat} {c : Nat} (hb : b < 0x41 ∨ 0x5A < a ∧ b < 0x61 ∨
    0x7A < a ∧ b < 128) : (folded (range a b)).has c = true ↔ a ≤ c ∧ c ≤ b := by
  rw [has_folded_range_iff fun n hn hn' => fold_eq_self_of_lt (by omega) (by omega)]
  constructor
  · intro h
    rcases Unicode.fold_ascii_cases (c := c) (by omega) with hc | hc | hc | hc <;> omega
  · intro h
    rw [fold_eq_self_of_lt (by omega) (by omega)]
    exact h

end CharSet

/-! ### Copies -/

theorem forall_exists_eq_iff {α β : Type} {f : α → β} {P : α → Prop} {ys : List β} :
    (∀ y ∈ ys, ∃ x, y = f x ∧ P x) ↔ ∃ xs : List α, ys = xs.map f ∧ ∀ x ∈ xs, P x := by
  constructor
  · intro h
    induction ys with
    | nil => exact ⟨[], rfl, by simp⟩
    | cons y ys ih =>
      obtain ⟨⟨x, rfl, hx⟩, hys⟩ := List.forall_mem_cons.1 h
      obtain ⟨xs, rfl, hxs⟩ := ih hys
      exact ⟨x :: xs, rfl, List.forall_mem_cons.2 ⟨hx, hxs⟩⟩
  · rintro ⟨xs, rfl, hxs⟩ y hy
    obtain ⟨x, hx, rfl⟩ := List.mem_map.1 hy
    exact ⟨x, rfl, hxs x hx⟩

namespace Regex

/-- The expression of one character. -/
def char (c : Char) : Regex CharSet := atom (.single c.toNat)

theorem spells_char_iff {c : Char} {w : List Char} : (char c).Spells w ↔ w = [c] := by
  simp only [char, Spells, CharSet.single, CharSet.has, Bool.and_eq_true, decide_eq_true_eq]
  constructor
  · rintro ⟨d, rfl, h⟩
    rw [Char.toNat_inj.1 (by omega : d.toNat = c.toNat)]
  · rintro rfl
    exact ⟨c, rfl, Nat.le_refl _, Nat.le_refl _⟩

theorem spells_seqAll_cons_iff {r : Regex CharSet} {rs : List (Regex CharSet)} {w : List Char} :
    (seqAll (r :: rs)).Spells w ↔ ∃ x y, w = x ++ y ∧ r.Spells x ∧ (seqAll rs).Spells y := by
  cases rs with
  | nil =>
    constructor
    · exact fun h => ⟨w, [], (List.append_nil w).symm, h, rfl⟩
    · rintro ⟨x, y, rfl, h, rfl⟩
      rwa [List.append_nil]
  | cons s rs => rfl

/-- Copies of an expression whose words are known. -/
theorem spells_times_iff {α : Type} {r : Regex CharSet} {f : α → List Char} {P : α → Prop}
    (h : ∀ w, r.Spells w ↔ ∃ x, w = f x ∧ P x) {least : Nat} {most : Option Nat} {w : List Char} :
    (times r least most).Spells w ↔ ∃ xs : List α, least ≤ xs.length ∧
      (∀ m ∈ most, xs.length ≤ max least m) ∧ w = xs.flatMap f ∧ ∀ x ∈ xs, P x := by
  simp only [Spells, h, forall_exists_eq_iff]
  constructor
  · rintro ⟨ws, hl, hm, rfl, xs, rfl, hxs⟩
    rw [List.length_map] at hl hm
    exact ⟨xs, hl, hm, rfl, hxs⟩
  · rintro ⟨xs, hl, hm, rfl, hxs⟩
    rw [← List.length_map f] at hl hm
    exact ⟨xs.map f, hl, hm, rfl, xs, rfl, hxs⟩

theorem spells_optional_iff {r : Regex CharSet} {w : List Char} :
    (times r 0 (some 1)).Spells w ↔ w = [] ∨ r.Spells w := by
  rw [spells_times_iff (f := id) (P := r.Spells) fun w => by simp]
  constructor
  · rintro ⟨xs, -, hm, rfl, hxs⟩
    have hlen := hm 1 rfl
    match xs, hlen with
    | [], _ => exact .inl rfl
    | [x], _ => exact .inr (by simpa using hxs)
  · rintro (rfl | h)
    · exact ⟨[], Nat.zero_le _, by simp, rfl, by simp⟩
    · exact ⟨[w], Nat.zero_le _, by simp, by simp, by simpa using h⟩

/-- Any number of characters of a set, from a least number on. -/
theorem spells_many_iff {s : CharSet} {least : Nat} {w : List Char} :
    (times (atom s) least none).Spells w ↔
      least ≤ w.length ∧ ∀ c ∈ w, s.has c.toNat = true := by
  rw [spells_times_iff (f := fun c => [c]) (P := fun c => s.has c.toNat = true) fun _ => Iff.rfl]
  simp only [List.flatMap_singleton']
  constructor
  · rintro ⟨xs, hl, -, rfl, hxs⟩
    exact ⟨hl, hxs⟩
  · exact fun ⟨hl, hw⟩ => ⟨w, hl, by simp, rfl, hw⟩

end Regex

/-! ### Chains -/

/-- A run of characters of a kind. -/
def IsRun (P : Char → Prop) (w : List Char) : Prop := w ≠ [] ∧ ∀ c ∈ w, P c

/-- One or more runs of characters of a kind, with a mark between each and the next. -/
def IsChain (P : Char → Prop) (mark : Char) (w : List Char) : Prop :=
  ∃ runs : List (List Char), runs ≠ [] ∧ (∀ run ∈ runs, IsRun P run) ∧ w = [mark].intercalate runs

theorem intercalate_cons (mark : Char) (run : List Char) (runs : List (List Char)) :
    [mark].intercalate (run :: runs) = run ++ runs.flatMap fun run => mark :: run := by
  induction runs generalizing run with
  | nil => simp
  | cons next runs ih => rw [List.intercalate_cons_cons, ih]; simp

theorem intercalate_concat (mark : Char) (runs : List (List Char)) (last : List Char) :
    [mark].intercalate (runs ++ [last]) = (runs.flatMap fun run => run ++ [mark]) ++ last := by
  induction runs with
  | nil => simp
  | cons run runs ih =>
    rw [List.cons_append, List.intercalate_cons_of_ne_nil (by simp), ih]
    simp

theorem isChain_iff {P : Char → Prop} {mark : Char} {w : List Char} :
    IsChain P mark w ↔ ∃ (run : List Char) (runs : List (List Char)), IsRun P run ∧
      (∀ run ∈ runs, IsRun P run) ∧ w = run ++ runs.flatMap fun run => mark :: run := by
  constructor
  · rintro ⟨runs, hne, hruns, rfl⟩
    obtain ⟨run, runs, rfl⟩ := List.exists_cons_of_ne_nil hne
    obtain ⟨hrun, hruns⟩ := List.forall_mem_cons.1 hruns
    exact ⟨run, runs, hrun, hruns, intercalate_cons mark run runs⟩
  · rintro ⟨run, runs, hrun, hruns, rfl⟩
    exact ⟨run :: runs, by simp, List.forall_mem_cons.2 ⟨hrun, hruns⟩,
      (intercalate_cons mark run runs).symm⟩

theorem IsChain.of_mem {P : Char → Prop} {mark c : Char} {w : List Char} (h : IsChain P mark w)
    (hc : c ∈ w) : P c ∨ c = mark := by
  obtain ⟨run, runs, hrun, hruns, rfl⟩ := isChain_iff.1 h
  rcases List.mem_append.1 hc with hc | hc
  · exact .inl (hrun.2 c hc)
  · obtain ⟨next, hnext, hc⟩ := List.mem_flatMap.1 hc
    rcases List.mem_cons.1 hc with rfl | hc
    · exact .inr rfl
    · exact .inl ((hruns next hnext).2 c hc)

namespace Regex

/-- Runs of characters of a set, each after a mark. -/
def marked (s : CharSet) (mark : Char) : Regex CharSet :=
  times (seq (char mark) (times (atom s) 1 none)) 0 none

theorem spells_marked_iff {s : CharSet} {P : Char → Prop} {mark : Char} {w : List Char}
    (hs : ∀ c : Char, s.has c.toNat = true ↔ P c) :
    (marked s mark).Spells w ↔
      ∃ runs : List (List Char), (∀ run ∈ runs, IsRun P run) ∧
        w = runs.flatMap fun run => mark :: run := by
  rw [marked, spells_times_iff (f := fun run => mark :: run) (P := IsRun P)]
  · constructor
    · rintro ⟨runs, -, -, rfl, hruns⟩
      exact ⟨runs, hruns, rfl⟩
    · rintro ⟨runs, hruns, rfl⟩
      exact ⟨runs, Nat.zero_le _, by simp, rfl, hruns⟩
  · intro w
    simp only [spells_seq_iff, spells_char_iff, spells_many_iff, hs, Nat.succ_le_iff,
      List.length_pos_iff]
    constructor
    · rintro ⟨_, run, rfl, rfl, hrun⟩
      exact ⟨run, rfl, hrun⟩
    · rintro ⟨run, rfl, hrun⟩
      exact ⟨[mark], run, rfl, rfl, hrun⟩

/-- A run of characters of a set, and more of them after marks, in front of other parts. -/
theorem spells_chain_iff {s : CharSet} {P : Char → Prop} {mark : Char}
    {rs : List (Regex CharSet)} {w : List Char} (hs : ∀ c : Char, s.has c.toNat = true ↔ P c) :
    (seqAll (times (atom s) 1 none :: marked s mark :: rs)).Spells w ↔
      ∃ x y, w = x ++ y ∧ IsChain P mark x ∧ (seqAll rs).Spells y := by
  simp only [spells_seqAll_cons_iff, spells_many_iff, spells_marked_iff hs, hs, isChain_iff,
    Nat.succ_le_iff, List.length_pos_iff]
  constructor
  · rintro ⟨run, _, rfl, hrun, _, y, rfl, ⟨runs, hruns, rfl⟩, hy⟩
    exact ⟨_, y, (List.append_assoc ..).symm, ⟨run, runs, hrun, hruns, rfl⟩, hy⟩
  · rintro ⟨_, y, rfl, ⟨run, runs, hrun, hruns, rfl⟩, hy⟩
    exact ⟨run, _, List.append_assoc .., hrun, _, y, rfl, ⟨runs, hruns, rfl⟩, hy⟩

/-- Words with a mark between each and the next, in front of other parts: all but the last word are
counted copies with the mark behind. -/
theorem spells_separated_iff {r : Regex CharSet} {mark : Char} {n : Nat} {rs : List (Regex CharSet)}
    {w : List Char} :
    (seqAll (times (seq r (char mark)) n (some n) :: r :: rs)).Spells w ↔
      ∃ (words : List (List Char)) (y : List Char), w = [mark].intercalate words ++ y ∧
        words.length = n + 1 ∧ (∀ word ∈ words, r.Spells word) ∧ (seqAll rs).Spells y := by
  have hmarked (w : List Char) :
      (seq r (char mark)).Spells w ↔ ∃ word, w = word ++ [mark] ∧ r.Spells word := by
    simp only [spells_seq_iff, spells_char_iff]
    constructor
    · rintro ⟨word, _, rfl, h, rfl⟩
      exact ⟨word, rfl, h⟩
    · rintro ⟨word, rfl, h⟩
      exact ⟨word, _, rfl, h, rfl⟩
  simp only [spells_seqAll_cons_iff (r := times _ _ _), spells_seqAll_cons_iff (r := r),
    spells_times_iff hmarked]
  constructor
  · rintro ⟨_, _, rfl, ⟨words, hl, hm, rfl, hwords⟩, last, y, rfl, hlast, hy⟩
    refine ⟨words ++ [last], y, by rw [intercalate_concat, List.append_assoc], ?_, ?_, hy⟩
    · have hle := hm n rfl
      rw [List.length_append, List.length_singleton]
      omega
    · rw [List.forall_mem_append]
      exact ⟨hwords, by simpa using hlast⟩
  · rintro ⟨words, y, rfl, hl, hwords, hy⟩
    obtain rfl | ⟨words, last, rfl⟩ := List.eq_nil_or_concat' words
    · simp at hl
    rw [List.length_append, List.length_singleton, Nat.add_right_cancel_iff] at hl
    rw [List.forall_mem_append] at hwords
    refine ⟨_, _, by rw [intercalate_concat, List.append_assoc],
      ⟨words, Nat.le_of_eq hl.symm, by simp [hl], rfl, hwords.1⟩, last, y, rfl, ?_, hy⟩
    simpa using hwords.2

end Regex

end ShapeCheck.Pattern

namespace ShapeCheck.Pattern

/-! ### Pattern texts -/

theorem toList_append_of {s t : String} {cs ds : List Char} (hs : s.toList = cs)
    (ht : t.toList = ds) : (s ++ t).toList = cs ++ ds := by
  rw [String.toList_append, hs, ht]

/-- What a pattern text stands for, from its characters as they are written. To get them from the
bytes of the text takes longer than to read the pattern. -/
theorem regex?_of_toList {source : String} {cs : List Char} {r : Regex Atom}
    (h : source.toList = cs)
    (hr : ((run? (cs.length + 1) ⟨{}, .empty, [], []⟩ cs).bind fun p =>
      if p.height ≤ maxHeight ∧ p.outline.fits then some p.regex else none) = some r) :
    regex? source = some r := by
  subst h
  exact hr

end ShapeCheck.Pattern

namespace ShapeCheck.Format

open Pattern

/-- The format of a pattern text that is held to both ends. -/
theorem accepts_ofSource_iff {source s : String} {rs : List (Regex CharSet)}
    (h : regex? source = some (Regex.anchored rs)) :
    (ofSource source).accepts s = true ↔ (Regex.seqAll rs).Spells s.toList := by
  have hc : ∃ p, compile? source = some p ∧ p.regex = Regex.anchored rs := by
    unfold compile?
    split
    · rename_i r hr
      exact ⟨_, rfl, Option.some.inj (hr.symm.trans h)⟩
    · rename_i hr
      rw [hr] at h
      exact absurd h (by simp)
  obtain ⟨p, hp, hr⟩ := hc
  rw [ofSource, ofSource?, hp, ← Regex.isMatch_anchored_iff, ← hr]
  rfl

theorem get?_builtin (name : String) :
    Formats.builtin.get? name = (patternFormats ++ predicateFormats).lookup name :=
  Table.get?_ofList (by decide) name

/-- A standard format whose pattern is held to both ends of the text. -/
theorem check?_builtin_iff {name source s : String} {rs : List (Regex CharSet)}
    (hn : (patternFormats ++ predicateFormats).lookup name = some (ofSource source))
    (h : regex? source = some (Regex.anchored rs)) :
    Formats.builtin.check? name s = some true ↔ (Regex.seqAll rs).Spells s.toList := by
  rw [Formats.check?, get?_builtin, hn, Option.map_some, Option.some_inj, accepts_ofSource_iff h]

end ShapeCheck.Format
