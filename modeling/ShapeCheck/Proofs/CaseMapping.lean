import Mathlib.Data.Bool.AllAny
import ShapeCheck.Unicode.CaseFold
import ShapeCheck.Unicode.Lowercase

/-!
# Case mappings

What the tables of case say of all characters.

* `CaseRun.Maps`: what a run sends where;
* `mem_orbit_iff`: the orbit of a code point is its class under folding;
* `lowerCase_lowerCase`: lower case is lower case already.

The tables are ascending, and none of their runs covers an image (`CaseRun.spares`).  This is
checked run by run; the statements on all code points follow.
-/

namespace ShapeCheck.Unicode

/-! ### Runs -/

namespace CaseRun

/-- Whether a run sends one code point to another. -/
def Maps (r : CaseRun) (c d : Nat) : Prop :=
  ∃ k, k % r.step = 0 ∧ k ≤ r.last - r.first ∧ c = r.first + k ∧ d = r.image + k

/-- Whether a run covers no image of another one, by where they lie, or since it goes over every
second code point and the images are the others. -/
def spares (q r : CaseRun) : Bool :=
  (r.image + (r.last - r.first)).blt q.first || q.last.blt r.image ||
    (q.step.beq 2 && (r.step.beq 2 || r.first.beq r.last) && ((r.image + q.first) % 2).beq 1)

theorem preimage?_eq_some_iff {r : CaseRun} {c d : Nat} (hr : r.first ≤ r.last) :
    r.preimage? d = some c ↔ r.Maps c d := by
  unfold preimage? Maps
  constructor
  · intro h
    split at h
    · rename_i hd
      obtain ⟨hi, hm, hl⟩ := hd
      exact ⟨d - r.image, hm, by omega, (Option.some.inj h).symm, by omega⟩
    · exact absurd h (by simp)
  · rintro ⟨k, hk, hl, rfl, rfl⟩
    rw [Nat.add_sub_cancel_left, if_pos ⟨Nat.le_add_right .., hk, by omega⟩]

theorem not_covers_of_spares {q r : CaseRun} {c d : Nat} (hq : q.spares r = true)
    (h : r.Maps c d) :
    ¬ (q.first ≤ d ∧ d ≤ q.last ∧ (d - q.first) % q.step = 0) := by
  obtain ⟨k, hk, hl, -, rfl⟩ := h
  rintro ⟨h₁, h₂, h₃⟩
  simp only [spares, Bool.or_eq_true, Bool.and_eq_true, Nat.blt_eq, Nat.beq_eq] at hq
  obtain (hq | hq) | ⟨⟨hs, hp⟩, hp'⟩ := hq
  · omega
  · omega
  · -- what the run covers and the image differ by an odd number
    rw [hs] at h₃
    rcases hp with hp | hp
    · rw [hp] at hk
      omega
    · omega

end CaseRun

/-! ### Tables -/

/-- Whether runs ascend from a least code point on. -/
def ascending (least : Nat) : List CaseRun → Bool
  | [] => true
  | r :: rest => least.ble r.first && r.first.ble r.last && ascending (r.last + 1) rest

/-- Whether no run of a table covers an image. -/
def imagesSpared (rs : List CaseRun) : Bool := rs.all fun r => rs.all fun q => q.spares r

section

variable {rs : List CaseRun} {r : CaseRun} {c d least : Nat}

theorem first_le_last_of_ascending (h : ascending least rs = true) (hr : r ∈ rs) :
    least ≤ r.first ∧ r.first ≤ r.last := by
  induction rs generalizing least with
  | nil => simp at hr
  | cons q rest ih =>
    simp only [ascending, Bool.and_eq_true, Nat.ble_eq] at h
    obtain ⟨⟨hl, hq⟩, hrest⟩ := h
    rcases List.mem_cons.1 hr with rfl | hr
    · exact ⟨hl, hq⟩
    · have := ih hrest hr
      omega

/-- A code point is left as it is, or some run sends it to its image. -/
theorem mapped_cases (rs : List CaseRun) (c : Nat) :
    mapped rs c = c ∨ ∃ r ∈ rs, r.Maps c (mapped rs c) := by
  induction rs with
  | nil => exact .inl rfl
  | cons r rest ih =>
    rw [mapped]
    split
    · exact .inl rfl
    · rename_i hf
      split
      · rename_i hl
        split
        · rename_i hm
          exact .inr ⟨r, List.mem_cons_self, c - r.first, hm, by omega, by omega, rfl⟩
        · exact .inl rfl
      · exact ih.imp_right fun ⟨q, hq, h⟩ => ⟨q, List.mem_cons_of_mem _ hq, h⟩

theorem mapped_of_maps (h : ascending least rs = true) (hr : r ∈ rs) (hm : r.Maps c d) :
    mapped rs c = d := by
  induction rs generalizing least with
  | nil => simp at hr
  | cons q rest ih =>
    have hb := first_le_last_of_ascending h hr
    simp only [ascending, Bool.and_eq_true, Nat.ble_eq] at h
    obtain ⟨⟨hl, hq⟩, hrest⟩ := h
    obtain ⟨k, hk, hle, rfl, rfl⟩ := hm
    rw [mapped]
    rcases List.mem_cons.1 hr with rfl | hr
    · rw [if_neg (by omega), if_pos (by omega), Nat.add_sub_cancel_left, if_pos hk]
    · have := (first_le_last_of_ascending hrest hr).1
      rw [if_neg (by omega), if_neg (by omega)]
      exact ih hrest hr

/-- Images are left as they are. -/
theorem mapped_of_image (h : ascending least rs = true) (hs : imagesSpared rs = true) (hr : r ∈ rs)
    (hm : r.Maps c d) : mapped rs d = d := by
  rcases mapped_cases rs d with hd | ⟨q, hq, k, hk, hle, hd, -⟩
  · exact hd
  · have hb := (first_le_last_of_ascending h hr).2
    have hb' := (first_le_last_of_ascending h hq).2
    -- a run that sends the image further would cover it
    have hspared := List.all_eq_true.1 (List.all_eq_true.1 hs r hr) q hq
    refine absurd ?_ (CaseRun.not_covers_of_spares hspared hm)
    exact ⟨by omega, by omega, by rwa [hd, Nat.add_sub_cancel_left]⟩

theorem mapped_mapped (h : ascending least rs = true) (hs : imagesSpared rs = true) (c : Nat) :
    mapped rs (mapped rs c) = mapped rs c := by
  rcases mapped_cases rs c with hc | ⟨r, hr, hm⟩
  · rw [hc, hc]
  · exact mapped_of_image h hs hr hm

end

/-! ### Folding -/

theorem ascending_foldRuns : ascending 0 foldRuns = true := by decide +kernel

theorem imagesSpared_foldRuns : imagesSpared foldRuns = true := by decide +kernel

@[simp] theorem fold_fold (c : Nat) : fold (fold c) = fold c :=
  mapped_mapped ascending_foldRuns imagesSpared_foldRuns c

/-- The orbit of a code point is its class under folding. -/
theorem mem_orbit_iff {c d : Nat} : d ∈ orbit c ↔ fold d = fold c := by
  have hle {r : CaseRun} (hr : r ∈ foldRuns) : r.first ≤ r.last :=
    (first_le_last_of_ascending ascending_foldRuns hr).2
  rw [orbit, List.mem_cons, List.mem_filterMap]
  constructor
  · rintro (rfl | ⟨r, hr, hd⟩)
    · exact fold_fold c
    · exact mapped_of_maps ascending_foldRuns hr ((CaseRun.preimage?_eq_some_iff (hle hr)).1 hd)
  · intro h
    rcases mapped_cases foldRuns d with hd | ⟨r, hr, hm⟩
    · exact .inl (hd.symm.trans h)
    · change r.Maps d (fold d) at hm
      rw [h] at hm
      exact .inr ⟨r, hr, (CaseRun.preimage?_eq_some_iff (hle hr)).2 hm⟩

/-- The runs of the table that lead to ASCII. -/
theorem asciiRuns_foldRuns : ∀ r ∈ foldRuns, r.image < 128 →
    r ∈ [⟨0x41, 0x5A, 1, 0x61⟩, ⟨0x17F, 0x17F, 1, 0x73⟩, ⟨0x212A, 0x212A, 1, 0x6B⟩] := by
  decide +kernel

/-- What folds to an ASCII character is that character, or else a letter. -/
theorem fold_ascii_cases {c : Nat} (h : fold c < 128) :
    c = fold c ∨ (0x41 ≤ c ∧ c ≤ 0x5A ∧ fold c = c + 0x20) ∨ (c = 0x17F ∧ fold c = 0x73) ∨
      (c = 0x212A ∧ fold c = 0x6B) := by
  rcases mapped_cases foldRuns c with hc | ⟨r, hr, k, -, hk, hc, hd⟩
  · exact .inl hc.symm
  · change fold c = r.image + k at hd
    have hmem := asciiRuns_foldRuns r hr (by omega)
    simp only [List.mem_cons, List.not_mem_nil, or_false] at hmem
    rcases hmem with rfl | rfl | rfl
    all_goals
      simp only at hk hc hd
      omega

/-! ### Lower case -/

/-- The characters that lower case leaves alone wherever they stand. -/
def IsLower (c : Char) : Prop := c ≠ 'Σ' ∧ c ≠ 'İ' ∧ mapped lowerRuns c.toNat = c.toNat

instance (c : Char) : Decidable (IsLower c) := inferInstanceAs (Decidable (_ ∧ _ ∧ _))

/-- Whether the images of a run are characters, and none of those that lower case sees to apart. -/
def CaseRun.givesChars (r : CaseRun) : Bool :=
  let last := r.image + (r.last - r.first)
  (last.blt 0xD800 || (Nat.ble 0xE000 r.image && last.blt 0x110000)) &&
    (last.blt 0x3A3 || Nat.blt 0x3A3 r.image) && (last.blt 0x130 || Nat.blt 0x130 r.image)

theorem ascending_lowerRuns : ascending 0 lowerRuns = true := by decide +kernel

theorem imagesSpared_lowerRuns : imagesSpared lowerRuns = true := by decide +kernel

theorem givesChars_lowerRuns : (lowerRuns.all CaseRun.givesChars) = true := by decide +kernel

theorem isLower_of_maps {r : CaseRun} (hr : r ∈ lowerRuns) {c d : Nat} (hm : r.Maps c d) :
    IsLower (Char.ofNat d) := by
  have hg := List.all_eq_true.1 givesChars_lowerRuns r hr
  have hd := mapped_of_image ascending_lowerRuns imagesSpared_lowerRuns hr hm
  obtain ⟨k, -, hk, -, rfl⟩ := hm
  simp only [CaseRun.givesChars, Bool.and_eq_true, Bool.or_eq_true, Nat.blt_eq, Nat.ble_eq] at hg
  have hv : (r.image + k).isValidChar := by
    unfold Nat.isValidChar
    omega
  have ht : (Char.ofNat (r.image + k)).toNat = r.image + k := by
    rw [Char.ofNat, dif_pos hv]
    rfl
  refine ⟨fun h => ?_, fun h => ?_, by rw [ht, hd]⟩
  · have := congrArg Char.toNat h
    rw [ht] at this
    change _ = 0x3A3 at this
    omega
  · have := congrArg Char.toNat h
    rw [ht] at this
    change _ = 0x130 at this
    omega

theorem lowerChar_of_isLower {c : Char} (h : IsLower c) (before after : List Char) :
    lowerChar before c after = [c] := by
  rw [lowerChar, if_neg h.1, if_neg h.2.1, h.2.2, Char.ofNat_toNat]

/-- What a character becomes is left alone afterwards. -/
theorem isLower_of_mem_lowerChar {c d : Char} {before after : List Char}
    (h : d ∈ lowerChar before c after) : IsLower d := by
  unfold lowerChar at h
  split at h
  · have hd : d = 'ς' ∨ d = 'σ' := by
      split at h <;> simp_all
    rcases hd with rfl | rfl <;> decide +kernel
  · rename_i hs
    split at h
    · have hd : d = 'i' ∨ d = '\u0307' := by simpa using h
      rcases hd with rfl | rfl <;> decide +kernel
    · rename_i hi
      obtain rfl := List.mem_singleton.1 h
      rcases mapped_cases lowerRuns c.toNat with hc | ⟨r, hr, hm⟩
      · rw [hc, Char.ofNat_toNat]
        exact ⟨hs, hi, hc⟩
      · exact isLower_of_maps hr hm

theorem isLower_of_mem_lowerChars {cs before : List Char} {d : Char}
    (h : d ∈ lowerChars before cs) : IsLower d := by
  induction cs generalizing before with
  | nil => exact absurd h (by simp [lowerChars])
  | cons c rest ih =>
    rw [lowerChars, List.mem_append] at h
    exact h.elim isLower_of_mem_lowerChar ih

theorem lowerChars_of_isLower {cs : List Char} (h : ∀ c ∈ cs, IsLower c) (before : List Char) :
    lowerChars before cs = cs := by
  induction cs generalizing before with
  | nil => rfl
  | cons c rest ih =>
    rw [lowerChars, lowerChar_of_isLower (h c List.mem_cons_self),
      ih fun c hc => h c (List.mem_cons_of_mem _ hc), List.singleton_append]

theorem lowerCase_of_isLower {s : String} (h : ∀ c ∈ s.toList, IsLower c) : lowerCase s = s := by
  rw [lowerCase, lowerChars_of_isLower h, String.ofList_toList]

theorem isLower_of_mem_lowerCase {s : String} {c : Char} (h : c ∈ (lowerCase s).toList) :
    IsLower c := by
  rw [lowerCase, String.toList_ofList] at h
  exact isLower_of_mem_lowerChars h

/-- What holds of the first 128 code points holds of every ASCII character. -/
theorem forall_ascii {P : Char → Prop} (h : ∀ n < 128, P (Char.ofNat n)) {c : Char}
    (hc : c.toNat < 128) : P c :=
  Char.ofNat_toNat c ▸ h c.toNat hc

/-- An ASCII character in lower case, whatever stands around it. -/
theorem lowerChar_ascii {c : Char} (h : c.toNat < 128) (before after : List Char) :
    lowerChar before c after = [c.toLower] := by
  have hm : Char.ofNat (mapped lowerRuns c.toNat) = c.toLower :=
    forall_ascii (P := fun c => Char.ofNat (mapped lowerRuns c.toNat) = c.toLower)
      (by decide +kernel) h
  rw [lowerChar, if_neg (by rintro rfl; revert h; decide),
    if_neg (by rintro rfl; revert h; decide), hm]

theorem lowerChars_ascii {cs : List Char} (h : ∀ c ∈ cs, c.toNat < 128) (before : List Char) :
    lowerChars before cs = cs.map Char.toLower := by
  induction cs generalizing before with
  | nil => rfl
  | cons c rest ih =>
    rw [lowerChars, lowerChar_ascii (h c List.mem_cons_self),
      ih fun c hc => h c (List.mem_cons_of_mem _ hc), List.singleton_append, List.map_cons]

/-- An ASCII text in lower case. -/
theorem lowerCase_ascii {s : String} (h : ∀ c ∈ s.toList, c.toNat < 128) :
    lowerCase s = String.ofList (s.toList.map Char.toLower) := by
  rw [lowerCase, lowerChars_ascii h]

/-- Lower case is lower case already. -/
@[simp] theorem lowerCase_lowerCase (s : String) : lowerCase (lowerCase s) = lowerCase s :=
  lowerCase_of_isLower fun _ => isLower_of_mem_lowerCase

end ShapeCheck.Unicode
