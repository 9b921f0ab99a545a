import ShapeCheck.Proofs.Spelling

/-!
# Locators read back

What is written step by step is read back step by step.

* `Segment.Fits`: a step that can be read back: an index has to stay below the limit;
* `Segment.spelling`: such a step as it is written;
* `extendAll`: a locator further by several steps;
* `parse_extendAll`: of the steps behind a locator, reading gives all but the empty ones, after
  those of the locator itself;
* `parse_extendAll_root`: so it does of the steps that lead away from the root;
* `parse_undoes_extend`: reading undoes extending, from any locator.
-/

namespace ShapeCheck.Locator

open Text (decimalValue digitValue)

/-! ### Single steps -/

/-- A character of a name, with a backslash if it needs one. -/
def Item.ofChar (c : Char) : Item :=
  if h : c = '\'' ∨ c = '\\' then .escaped c
  else .plain c (fun hq => h (.inl hq)) (fun hb => h (.inr hb))

@[simp] theorem Item.char_ofChar (c : Char) : (Item.ofChar c).char = c := by
  rw [ofChar]
  split <;> rfl

@[simp] theorem Item.chars_ofChar (c : Char) : (Item.ofChar c).chars = Locator.escaped c := by
  rw [ofChar, Locator.escaped]
  split <;> rfl

theorem decimalValue_toDigits (n : Nat) : decimalValue (Nat.toDigits 10 n) = n := by
  have h : decimalValue (Nat.toDigits 10 n) = Nat.ofDigitChars 10 (Nat.toDigits 10 n) 0 := by
    simp only [decimalValue, digitValue, Nat.ofDigitChars, Nat.mul_comm]
  rw [h, Nat.ofDigitChars_ten_toDigits]

/-- A step that can be read back. -/
def Segment.Fits : Segment → Prop
  | key _ => True
  | index n => n < indexLimit

/-- A step that can be read back, as it is written. -/
def Segment.spelling : (s : Segment) → s.Fits → Spelling
  | key name, _ => .name (name.toList.map Item.ofChar)
  | index n, h => .number (Nat.toDigits 10 n) Nat.toDigits_ne_nil
      (fun _ hc => Nat.isDigit_of_mem_toDigits (by decide) (by decide) hc)
      ((decimalValue_toDigits n).symm ▸ h)

@[simp] theorem Segment.chars_spelling {s : Segment} (h : s.Fits) :
    (s.spelling h).chars = s.chars := by
  cases s with
  | key name => simp [spelling, chars, Spelling.chars, List.flatMap_map]
  | index n => rfl

@[simp] theorem Segment.segment_spelling {s : Segment} (h : s.Fits) :
    (s.spelling h).segment = s := by
  cases s with
  | key name =>
    have hc : Item.char ∘ Item.ofChar = id := funext Item.char_ofChar
    simp [spelling, Spelling.segment, hc]
  | index n => simp [spelling, Spelling.segment, decimalValue_toDigits]

/-! ### Several steps -/

/-- A locator further by several steps. -/
def extendAll (locator : String) (ss : List Segment) : String := ss.foldl extend locator

@[simp] theorem extendAll_nil (locator : String) : extendAll locator [] = locator := rfl

@[simp] theorem extendAll_cons (locator : String) (s : Segment) (ss : List Segment) :
    extendAll locator (s :: ss) = extendAll (extend locator s) ss := rfl

@[simp] theorem extendAll_append (locator : String) (ss ts : List Segment) :
    extendAll locator (ss ++ ts) = extendAll (extendAll locator ss) ts :=
  List.foldl_append

/-- Empty steps leave no trace in the text. -/
theorem toList_extendAll (locator : String) (ss : List Segment) :
    (extendAll locator ss).toList =
      locator.toList ++ (ss.filter fun s => ¬ s.IsEmpty).flatMap Segment.chars := by
  induction ss generalizing locator with
  | nil => simp
  | cons s ss ih =>
    rw [extendAll_cons, ih]
    by_cases h : s.IsEmpty
    · rw [extend, if_pos h, List.filter_cons_of_neg (by simpa using h)]
    · rw [extend_of_not_isEmpty h, List.filter_cons_of_pos (by simpa using h), List.flatMap_cons,
        String.toList_append, Segment.text, String.toList_ofList, List.append_assoc]

/-- What is written behind a locator is read behind what the locator gives. -/
theorem parse_append_chars {locator : String} {before : List Segment}
    (h : parse locator = .ok before) {ss : List Segment} (hs : ∀ s ∈ ss, s.Fits) :
    parse (locator ++ String.ofList (ss.flatMap Segment.chars)) = .ok (before ++ ss) := by
  obtain ⟨xs, rfl, rfl⟩ := exists_spelled_of_parse h
  obtain ⟨ys, hc, rfl⟩ : ∃ ys : List Spelling,
      ys.flatMap Spelling.chars = ss.flatMap Segment.chars ∧ ys.map Spelling.segment = ss := by
    refine ⟨ss.pmap Segment.spelling hs, ?_, ?_⟩
    · simp only [List.flatMap_def, List.map_pmap, Segment.chars_spelling, List.pmap_eq_map]
    · simp only [List.map_pmap, Segment.segment_spelling, List.pmap_eq_map, List.map_id']
  rw [← hc, ← spelled_append, parse_spelled, List.map_append]

/-- Of the steps behind a locator, reading gives all but the empty ones. -/
theorem parse_extendAll {locator : String} {before : List Segment}
    (h : parse locator = .ok before) {ss : List Segment} (hs : ∀ s ∈ ss, s.Fits) :
    parse (extendAll locator ss) = .ok (before ++ ss.filter fun s => ¬ s.IsEmpty) := by
  have ht : extendAll locator ss =
      locator ++ String.ofList ((ss.filter fun s => ¬ s.IsEmpty).flatMap Segment.chars) := by
    rw [← String.toList_inj, toList_extendAll, String.toList_append, String.toList_ofList]
  rw [ht]
  exact parse_append_chars h fun s hf => hs s (List.mem_filter.1 hf).1

/-- Of the steps that lead away from the root, reading gives all but the empty ones. -/
theorem parse_extendAll_root {ss : List Segment} (h : ∀ s ∈ ss, s.Fits) :
    parse (extendAll root ss) = .ok (ss.filter fun s => ¬ s.IsEmpty) :=
  parse_extendAll (parse_spelled []) h

/-- Reading undoes extending, from any locator: a step is read behind the steps of the locator, the
empty name leaves it as it is, and of several steps all but the empty ones are read. -/
theorem parse_undoes_extend {locator : String} {before : List Segment}
    (h : parse locator = .ok before) :
    (∀ s : Segment, s.Fits → ¬ s.IsEmpty → parse (extend locator s) = .ok (before ++ [s])) ∧
      extend locator (.key "") = locator ∧
      ∀ ss : List Segment, (∀ s ∈ ss, s.Fits) →
        parse (extendAll locator ss) = .ok (before ++ ss.filter fun s => ¬ s.IsEmpty) ∧
        parse (extendAll root ss) = .ok (ss.filter fun s => ¬ s.IsEmpty) := by
  refine ⟨fun s hf hn => ?_, extend_empty locator, fun ss hs => ⟨parse_extendAll h hs,
    parse_extendAll_root hs⟩⟩
  have hone : ∀ t ∈ [s], t.Fits := by simpa using hf
  have hs := parse_extendAll h hone
  rwa [List.filter_cons_of_pos (by simpa using hn), List.filter_nil, extendAll_cons,
    extendAll_nil] at hs

/-- Steps of all sorts: an empty name, the last index, and a name that looks like two steps. -/
def oddSteps : List Segment := [.key "", .index 18446744073709551615, .key "\\'][0]['"]

/-- The locator need not be written the way that extending writes. -/
theorem paddedLocator_extended :
    parse "$[007]['\\d']" = .ok [.index 7, .key "d"] ∧
      (∀ s ∈ oddSteps, s.Fits) ∧
      parse (extend "$[007]['\\d']" (.key "it's")) = .ok [.index 7, .key "d", .key "it's"] ∧
      extend "$[007]['\\d']" (.key "") = "$[007]['\\d']" ∧
      parse (extendAll "$[007]['\\d']" oddSteps) =
        .ok [.index 7, .key "d", .index 18446744073709551615, .key "\\'][0]['"] ∧
      parse (extendAll root oddSteps) = .ok [.index 18446744073709551615, .key "\\'][0]['"] := by
  have hp : parse "$[007]['\\d']" = .ok [.index 7, .key "d"] :=
    parse_spelled [.number ['0', '0', '7'] (by simp) (by simp) (by decide), .name [.escaped 'd']]
  have hs : ∀ s ∈ oddSteps, s.Fits := by simp [oddSteps, Segment.Fits, indexLimit]
  obtain ⟨hone, hnone, hall⟩ := parse_undoes_extend hp
  exact ⟨hp, hs, hone (.key "it's") trivial (by decide), hnone, (hall oddSteps hs).1,
    (hall oddSteps hs).2⟩

end ShapeCheck.Locator
