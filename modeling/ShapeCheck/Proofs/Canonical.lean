import Mathlib.Data.List.Flatten
import Mathlib.Data.List.Induction
import Mathlib.Data.String.Basic
import ShapeCheck.Proofs.Locator

/-!
# Canonical locators

A locator that is read and written again loses characters at most: empty names, zeros in front of an
index and backslashes that are not needed. If there are none of these, it comes back as it was.

* `Spelling.IsCanonical`: a step that is written without any of them;
* `Spelling.rewritten`: what extending writes for the step that is meant;
* `rewritten_sublist`, `rewritten_eq_chars_iff`: single steps;
* `canonical_iff_rebuilt`: whole locators.
-/

namespace ShapeCheck.Locator

open Text (decimalValue digitValue digitValue_lt toNat_of_isDigit)

/-! ### Lists put together from parts -/

/-- Parts that lose members make up the same list only if none of them loses any: what one part
loses, no later part makes up for. -/
theorem flatMap_eq_flatMap_iff {α β : Type} {f g : α → List β} {xs : List α}
    (h : ∀ x ∈ xs, (f x).Sublist (g x)) :
    xs.flatMap f = xs.flatMap g ↔ ∀ x ∈ xs, f x = g x := by
  constructor
  · intro he
    induction xs with
    | nil => exact List.forall_mem_nil _
    | cons x xs ih =>
      rw [List.forall_mem_cons] at h ⊢
      rw [List.flatMap_cons, List.flatMap_cons] at he
      have hx : (f x).length = (g x).length := by
        have hl := congrArg List.length he
        rw [List.length_append, List.length_append] at hl
        have h₁ := h.1.length_le
        have h₂ := (List.Sublist.flatMap_right xs h.2).length_le
        omega
      have hfx : f x = g x := h.1.eq_of_length hx
      rw [hfx, List.append_cancel_left_eq] at he
      exact ⟨hfx, ih h.2 he⟩
  · intro he
    rw [List.flatMap_def, List.map_congr_left he, ← List.flatMap_def]

/-! ### Digits -/

theorem toDigits_digitValue {d : Char} (h : d.isDigit = true) :
    Nat.toDigits 10 (digitValue d) = [d] := by
  have hc : Nat.digitChar (digitValue d) = d := by
    rw [← Char.toNat_inj, Nat.toNat_digitChar_of_lt_ten (digitValue_lt h), toNat_of_isDigit h]
  rw [Nat.toDigits_of_lt_base (digitValue_lt h), hc]

theorem decimalValue_concat (ds : List Char) (d : Char) :
    decimalValue (ds ++ [d]) = 10 * decimalValue ds + digitValue d := by
  rw [decimalValue, List.foldl_append, List.foldl_cons, List.foldl_nil, Nat.mul_comm]
  rfl

/-- Digits without a zero in front of others. -/
def Unpadded (ds : List Char) : Prop := ds.head? = some '0' → ds = ['0']

theorem toDigits_decimalValue {ds : List Char} (hn : ds ≠ []) (hd : ∀ d ∈ ds, d.isDigit = true)
    (hs : Unpadded ds) : Nat.toDigits 10 (decimalValue ds) = ds := by
  induction ds using List.reverseRecOn with
  | nil => exact absurd rfl hn
  | append_singleton es d ih =>
    have hdd : d.isDigit = true := hd d (by simp)
    rw [decimalValue_concat]
    by_cases he : es = []
    · subst he
      rw [List.nil_append, show decimalValue [] = 0 from rfl, Nat.mul_zero, Nat.zero_add,
        toDigits_digitValue hdd]
    · have hz : es.head? ≠ some '0' := by
        intro h
        have h1 := hs (by rw [List.head?_append, h]; rfl)
        rw [List.append_eq_singleton_iff] at h1
        simp [he] at h1
      have hes := ih he (fun c hc => hd c (by simp [hc])) fun h => absurd h hz
      -- the digits so far do not start with a zero, so that their number is none
      have hp : 0 < decimalValue es := by
        rw [Nat.pos_iff_ne_zero]
        intro h0
        rw [h0, Nat.toDigits_zero] at hes
        exact hz (hes ▸ rfl)
      rw [← Nat.toDigits_append_toDigits (by decide) hp (digitValue_lt hdd), hes,
        toDigits_digitValue hdd]

theorem toDigits_decimalValue_sublist {ds : List Char} (hn : ds ≠ [])
    (hd : ∀ d ∈ ds, d.isDigit = true) : (Nat.toDigits 10 (decimalValue ds)).Sublist ds := by
  induction ds with
  | nil => exact absurd rfl hn
  | cons d ds ih =>
    by_cases hs : Unpadded (d :: ds)
    · rw [toDigits_decimalValue hn hd hs]
    · simp only [Unpadded, List.head?_cons, Option.some.injEq, Classical.not_imp,
        List.cons.injEq, not_and] at hs
      obtain ⟨rfl, hds⟩ := hs
      -- the zero adds nothing to the number
      exact (ih (hds rfl) fun c hc => hd c (List.mem_cons_of_mem _ hc)).cons _

theorem toDigits_decimalValue_eq_iff {ds : List Char} (hn : ds ≠ [])
    (hd : ∀ d ∈ ds, d.isDigit = true) :
    Nat.toDigits 10 (decimalValue ds) = ds ↔ Unpadded ds := by
  refine ⟨fun h hz => ?_, toDigits_decimalValue hn hd⟩
  cases ds with
  | nil => cases hz
  | cons d ds =>
    obtain rfl : d = '0' := by simpa using hz
    by_contra hne
    have hds : ds ≠ [] := fun he => hne (he ▸ rfl)
    have hl := (toDigits_decimalValue_sublist hds
      fun c hc => hd c (List.mem_cons_of_mem _ hc)).length_le
    have hv : decimalValue ('0' :: ds) = decimalValue ds := rfl
    rw [← hv, h, List.length_cons] at hl
    omega

/-! ### Single steps -/

/-- A backslash stands only where it is needed. -/
def Item.IsCanonical : Item → Prop
  | plain _ _ _ => True
  | escaped c => c = '\'' ∨ c = '\\'

theorem Item.escaped_sublist (x : Item) : (Locator.escaped x.char).Sublist x.chars := by
  cases x with
  | plain c hq hb => simp [char, chars, Locator.escaped, hq, hb]
  | escaped c =>
    rw [char, chars, Locator.escaped]
    split
    · rfl
    · exact List.sublist_cons_self _ _

theorem Item.escaped_eq_chars_iff (x : Item) :
    Locator.escaped x.char = x.chars ↔ x.IsCanonical := by
  cases x with
  | plain c hq hb => simp [char, chars, Locator.escaped, IsCanonical, hq, hb]
  | escaped c =>
    rw [char, chars, Locator.escaped, IsCanonical]
    split <;> simp [*]

namespace Spelling

/-- A step written without an empty name, a zero in front of an index, or a backslash that is not
needed. -/
def IsCanonical : Spelling → Prop
  | name xs => xs ≠ [] ∧ ∀ x ∈ xs, x.IsCanonical
  | number ds _ _ _ => Unpadded ds

/-- What extending writes for the step that is meant. -/
def rewritten (x : Spelling) : List Char := if x.segment.IsEmpty then [] else x.segment.chars

theorem rewritten_name_nil : (name []).rewritten = [] := if_pos rfl

theorem rewritten_name {xs : List Item} (h : xs ≠ []) : (name xs).rewritten =
    '[' :: '\'' :: (xs.flatMap (fun x => Locator.escaped x.char) ++ ['\'', ']']) := by
  have hne : ¬ (name xs).segment.IsEmpty := by
    intro he
    simp [segment, Segment.IsEmpty, h] at he
  rw [rewritten, if_neg hne]
  simp [segment, Segment.chars, List.flatMap_map]

theorem rewritten_number (ds : List Char) (hn hd hs) :
    (number ds hn hd hs).rewritten = '[' :: (Nat.toDigits 10 (decimalValue ds) ++ [']']) := by
  rw [rewritten, if_neg (by rintro ⟨⟩)]
  rfl

theorem rewritten_sublist (x : Spelling) : x.rewritten.Sublist x.chars := by
  cases x with
  | name xs =>
    by_cases h : xs = []
    · rw [h, rewritten_name_nil]
      exact List.nil_sublist _
    · rw [rewritten_name h, chars]
      exact (((List.Sublist.flatMap_right xs fun x _ => x.escaped_sublist).append_right
        _).cons_cons _).cons_cons _
  | number ds hn hd hs =>
    rw [rewritten_number, chars]
    exact ((toDigits_decimalValue_sublist hn hd).append_right _).cons_cons _

theorem rewritten_eq_chars_iff (x : Spelling) : x.rewritten = x.chars ↔ x.IsCanonical := by
  cases x with
  | name xs =>
    by_cases h : xs = []
    · simp [h, rewritten_name_nil, chars, IsCanonical]
    · rw [rewritten_name h, chars, List.cons_inj_right, List.cons_inj_right,
        List.append_cancel_right_eq,
        flatMap_eq_flatMap_iff fun x _ => x.escaped_sublist]
      simp only [Item.escaped_eq_chars_iff, IsCanonical, h, ne_eq, not_false_eq_true, true_and]
  | number ds hn hd hs =>
    rw [rewritten_number, chars, List.cons_inj_right, List.append_cancel_right_eq,
      toDigits_decimalValue_eq_iff hn hd, IsCanonical]

end Spelling

/-! ### Whole locators -/

theorem toList_extendAll_segments (xs : List Spelling) :
    (extendAll root (xs.map Spelling.segment)).toList = '$' :: xs.flatMap Spelling.rewritten := by
  rw [toList_extendAll, show root.toList = ['$'] by decide, List.singleton_append,
    List.cons_inj_right]
  induction xs with
  | nil => rfl
  | cons x xs ih =>
    rw [List.map_cons, List.flatMap_cons, ← ih, Spelling.rewritten]
    by_cases h : x.segment.IsEmpty
    · rw [if_pos h, List.filter_cons_of_neg (by simpa using h), List.nil_append]
    · rw [if_neg h, List.filter_cons_of_pos (by simpa using h), List.flatMap_cons]

theorem utf8ByteSize_le_of_sublist {s t : String} (h : s.toList.Sublist t.toList) :
    s.utf8ByteSize ≤ t.utf8ByteSize := by
  rw [← String.ofList_toList (s := s), ← String.ofList_toList (s := t),
    String.utf8ByteSize_ofList, String.utf8ByteSize_ofList]
  exact String.utf8Len_le_of_sublist h

/-- The steps of a locator, written again, take some of its characters, so that they never take more
bytes; they take all of them if and only if each step of the locator is canonical. -/
theorem canonical_iff_rebuilt {s : String} {ss : List Segment} (h : parse s = .ok ss) :
    (extendAll root ss).toList.Sublist s.toList ∧
      (extendAll root ss).utf8ByteSize ≤ s.utf8ByteSize ∧
      ∃ xs, (∀ ys, spelled ys = s ↔ ys = xs) ∧
        (extendAll root ss = s ↔ ∀ x ∈ xs, x.IsCanonical) := by
  obtain ⟨xs, rfl, rfl⟩ := exists_spelled_of_parse h
  have hs : (extendAll root (xs.map Spelling.segment)).toList.Sublist (spelled xs).toList := by
    rw [toList_extendAll_segments, toList_spelled]
    exact (List.Sublist.flatMap_right xs fun x _ => x.rewritten_sublist).cons_cons _
  refine ⟨hs, utf8ByteSize_le_of_sublist hs, xs, fun ys => spelled_inj, ?_⟩
  rw [← String.toList_inj, toList_extendAll_segments, toList_spelled, List.cons_inj_right,
    flatMap_eq_flatMap_iff fun x _ => x.rewritten_sublist]
  simp only [Spelling.rewritten_eq_chars_iff]

/-- Three steps that come back shorter. -/
theorem paddedLocator_rebuilt :
    parse "$[007]['\\d']['']" = .ok [.index 7, .key "d", .key ""] ∧
      extendAll root [.index 7, .key "d", .key ""] = "$[7]['d']" ∧
      (extendAll root [.index 7, .key "d", .key ""]).toList.Sublist "$[007]['\\d']['']".toList ∧
      (extendAll root [.index 7, .key "d", .key ""]).utf8ByteSize ≤
        "$[007]['\\d']['']".utf8ByteSize ∧
      ∃ xs, (∀ ys, spelled ys = "$[007]['\\d']['']" ↔ ys = xs) ∧
        (extendAll root [.index 7, .key "d", .key ""] = "$[007]['\\d']['']" ↔
          ∀ x ∈ xs, x.IsCanonical) := by
  have hp : parse "$[007]['\\d']['']" = .ok [.index 7, .key "d", .key ""] :=
    parse_spelled [.number ['0', '0', '7'] (by simp) (by simp) (by decide), .name [.escaped 'd'],
      .name []]
  exact ⟨hp, by decide, canonical_iff_rebuilt hp⟩

end ShapeCheck.Locator
