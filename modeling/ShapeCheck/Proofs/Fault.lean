import ShapeCheck.Proofs.Spelling
import ShapeCheck.Proofs.TextBytes

/-!
# Where a locator goes wrong

The offset of a fault splits a text that is no locator. What stands before it could have gone on to
a locator, with one exception: an index that is too large and not closed is blamed where it ends.

* `Blameless`: a text that something can follow so that both make up a locator;
* `LeavesLargeIndexOpen`: the exception;
* `parseChars_stops`: what stands before the first problem;
* `fault_blameless_iff`: the text before the offset of a fault is blameless but for the exception.
-/

namespace ShapeCheck.Locator

open Text (byteLength byteLength_toList decimalValue digitValue)

/-- Something can follow the text so that both make up a locator. -/
def Blameless (before : String) : Prop := ∃ more ss, parse (before ++ more) = .ok ss

/-- After some steps, the text has an index that is too large and not closed. -/
def LeavesLargeIndexOpen (s : String) : Prop :=
  ∃ (xs : List Spelling) (ds rest : List Char),
    s.toList = (spelled xs).toList ++ '[' :: (ds ++ rest) ∧ OpenLargeIndex ds rest

/-! ### Too large an index -/

theorem decimalValue_le_append (ds es : List Char) :
    decimalValue ds ≤ decimalValue (ds ++ es) := by
  have h (n : Nat) : n ≤ es.foldl (fun n d => n * 10 + digitValue d) n := by
    induction es generalizing n with
    | nil => exact Nat.le_refl n
    | cons e es ih =>
      calc
        n ≤ n * 10 + digitValue e := by omega
        _ ≤ es.foldl (fun n d => n * 10 + digitValue d) (n * 10 + digitValue e) := ih _
  rw [decimalValue, decimalValue, List.foldl_append]
  exact h _

theorem OpenLargeIndex.ne_nil {ds rest : List Char} (h : OpenLargeIndex ds rest) : ds ≠ [] := by
  rintro rfl
  exact absurd h.large (by decide)

/-- Nothing that follows makes the index small enough. -/
theorem OpenLargeIndex.not_read {ds rest : List Char} (h : OpenLargeIndex ds rest)
    (more : List Char) : ∃ fault, segment? ('[' :: (ds ++ more)) = .error fault := by
  -- the digits that follow belong to the index
  obtain ⟨es, last, rfl, hes, hlast⟩ : ∃ es last, more = es ++ last ∧
      (∀ e ∈ es, e.isDigit = true) ∧ ∀ c ∈ last.head?, c.isDigit = false :=
    ⟨more.takeWhile Char.isDigit, more.dropWhile Char.isDigit,
      List.takeWhile_append_dropWhile.symm, isDigit_of_mem_takeWhile, not_isDigit_of_dropWhile⟩
  have hd : ∀ d ∈ ds ++ es, d.isDigit = true := by
    rw [List.forall_mem_append]
    exact ⟨h.digits, hes⟩
  have hn : ds ++ es ≠ [] := by simp [h.ne_nil]
  have hl : ¬ decimalValue (ds ++ es) < indexLimit :=
    Nat.not_lt.2 (Nat.le_trans h.large (decimalValue_le_append ds es))
  rw [← List.append_assoc]
  by_cases hc : last.head? = some ']'
  · obtain ⟨tail, rfl⟩ : ∃ tail, last = ']' :: tail := List.head?_eq_some_iff.1 hc
    exact ⟨_, by rw [segment?_closedIndex hn hd, if_neg hl]⟩
  · refine ⟨_, segment?_openIndex hn hd fun c hm => ⟨hlast c hm, ?_⟩⟩
    rintro rfl
    exact hc hm

theorem OpenLargeIndex.not_blameless {ds rest : List Char} (h : OpenLargeIndex ds rest)
    (xs : List Spelling) {before : String}
    (hb : before.toList = (spelled xs).toList ++ '[' :: ds) : ¬ Blameless before := by
  rintro ⟨more, ss, hp⟩
  obtain ⟨fault, hf⟩ := h.not_read more.toList
  rw [parse_eq_ok_iff, String.toList_append, hb, toList_spelled, List.cons_append, List.cons_append,
    parseChars, List.append_assoc, List.cons_append, segments?_flatMap_chars_append,
    segments?_of_error (List.cons_ne_nil _ _) hf] at hp
  cases hp

theorem OpenLargeIndex.parseChars_eq {ds rest : List Char} (h : OpenLargeIndex ds rest)
    (xs : List Spelling) :
    parseChars ((spelled xs).toList ++ '[' :: (ds ++ rest)) = .error rest := by
  rw [toList_spelled, List.cons_append, parseChars, segments?_flatMap_chars_append,
    segments?_of_error (List.cons_ne_nil _ _) (segment?_openIndex h.ne_nil h.digits h.ends)]
  rfl

/-! ### The first problem -/

theorem blameless_of_begins {before : List Char} (h : Spelling.Begins before)
    (xs : List Spelling) :
    Blameless (String.ofList ('$' :: (xs.flatMap Spelling.chars ++ before))) := by
  obtain ⟨more, x, hx⟩ := h
  refine ⟨String.ofList more, (xs ++ [x]).map Spelling.segment, ?_⟩
  have hs : String.ofList ('$' :: (xs.flatMap Spelling.chars ++ before)) ++ String.ofList more =
      spelled (xs ++ [x]) := by
    rw [← String.ofList_append, spelled, List.cons_append, List.append_assoc, hx,
      List.flatMap_append, List.flatMap_singleton]
  rw [hs, parse_spelled]

/-- What stands before the first problem is blameless, or it ends with an index that is too large
and not closed. -/
theorem parseChars_stops {cs rest : List Char} (h : parseChars cs = .error rest) :
    ∃ before, cs = before ++ rest ∧ (Blameless (String.ofList before) ∨
      ∃ (xs : List Spelling) (ds : List Char), before = (spelled xs).toList ++ '[' :: ds ∧
        OpenLargeIndex ds rest) := by
  rw [parseChars.eq_def] at h
  split at h
  · rename_i body
    obtain ⟨xs, last, rfl, hl⟩ : DescribesSteps body (.error rest) := h ▸ segments?_describes body
    have hd : DescribesStep last (.error rest) := hl ▸ segment?_describes last
    rcases hd with ⟨before, rfl, hb⟩ | ⟨ds, rfl, ho⟩
    · exact ⟨'$' :: (xs.flatMap Spelling.chars ++ before), by simp,
        .inl (blameless_of_begins hb xs)⟩
    · exact ⟨(spelled xs).toList ++ '[' :: ds, by simp, .inr ⟨xs, ds, rfl, ho⟩⟩
  · cases h
    exact ⟨[], rfl, .inl ⟨spelled [], [], parse_spelled []⟩⟩

/-- Where too large an index is left open, reading stops behind its digits, and what stands before
that has them at its end. -/
theorem LeavesLargeIndexOpen.not_blameless {s : String} (h : LeavesLargeIndexOpen s)
    {before rest : List Char} (hr : parseChars s.toList = .error rest)
    (hs : s.toList = before ++ rest) : ¬ Blameless (String.ofList before) := by
  obtain ⟨xs, ds, tail, hx, ho⟩ := h
  obtain rfl : tail = rest := by
    rw [hx, ho.parseChars_eq] at hr
    exact Except.error.inj hr
  have hb : before = (spelled xs).toList ++ '[' :: ds := by
    rw [hs, ← List.cons_append, ← List.append_assoc] at hx
    exact List.append_cancel_right hx
  exact ho.not_blameless xs (by rw [String.toList_ofList, hb])

theorem parse_eq_error_iff {s : String} {f : Fault} : parse s = .error f ↔
    ∃ rest, parseChars s.toList = .error rest ∧
      f = ⟨s, byteLength s.toList - byteLength rest⟩ := by
  rw [parse]
  cases parseChars s.toList <;> simp [eq_comm]

/-- A fault names the text it is about, and its offset splits the text so that what stands before it
is blameless, unless the text has an index that is too large and not closed. -/
theorem fault_blameless_iff {s : String} {f : Fault} (h : parse s = .error f) :
    f.locator = s ∧ ∃ before after, s = before ++ after ∧ before.utf8ByteSize = f.offset ∧
      (Blameless before ↔ ¬ LeavesLargeIndexOpen s) := by
  obtain ⟨rest, hr, rfl⟩ := parse_eq_error_iff.1 h
  obtain ⟨before, hs, hb⟩ := parseChars_stops hr
  refine ⟨rfl, String.ofList before, String.ofList rest, ?_, ?_, ?_⟩
  · rw [← String.ofList_append, ← hs, String.ofList_toList]
  · rw [← byteLength_toList, String.toList_ofList, hs, Text.byteLength_append, Nat.add_sub_cancel]
  · refine ⟨fun hbl ho => ho.not_blameless hr hs hbl, fun hn => ?_⟩
    rcases hb with hb | ⟨xs, ds, rfl, ho⟩
    · exact hb
    · exact absurd ⟨xs, ds, rest, by simpa using hs, ho⟩ hn

/-- The fault stands behind a name that has an escaped quote in it. -/
theorem unclosedName_blameless :
    parse "$[12]['it\\'s'x" = .error ⟨"$[12]['it\\'s'x", 13⟩ ∧
      ∃ before after, "$[12]['it\\'s'x" = before ++ after ∧ before.utf8ByteSize = 13 ∧
        (Blameless before ↔ ¬ LeavesLargeIndexOpen "$[12]['it\\'s'x") := by
  have hp : parse "$[12]['it\\'s'x" = .error ⟨"$[12]['it\\'s'x", 13⟩ := by
    have hi : segment? "[12]['it\\'s'x".toList = .ok (.index 12, "['it\\'s'x".toList) := rfl
    have hn : segment? "['it\\'s'x".toList = .error ['x'] := rfl
    have hr : segments? "[12]['it\\'s'x".toList = .error ['x'] := by
      rw [segments?_of_ok hi, segments?_of_error (by decide) hn, Except.map]
    exact parse_eq_error_iff.2 ⟨['x'], hr, rfl⟩
  exact ⟨hp, (fault_blameless_iff hp).2⟩

/-- An index that is too large and not closed is blamed where it ends, and nothing that follows it
makes up a locator. -/
theorem openLargeIndex_blamed_late :
    parse "$[99999999999999999999" = .error ⟨"$[99999999999999999999", 22⟩ ∧
      ¬ ∃ before after, "$[99999999999999999999" = before ++ after ∧ before.utf8ByteSize = 22 ∧
        Blameless before := by
  have ho : OpenLargeIndex (List.replicate 20 '9') [] := ⟨by simp, by decide, by simp⟩
  refine ⟨parse_eq_error_iff.2 ⟨[], ho.parseChars_eq [], rfl⟩, ?_⟩
  rintro ⟨before, after, hs, hb, hbl⟩
  have ha : after = "" := by
    have hl := congrArg String.utf8ByteSize hs
    have hw : "$[99999999999999999999".utf8ByteSize = 22 := rfl
    rw [String.utf8ByteSize_append, hb, hw] at hl
    exact String.utf8ByteSize_eq_zero_iff.1 (by omega)
  rw [ha, String.append_empty] at hs
  exact ho.not_blameless [] (hs ▸ by decide) hbl

end ShapeCheck.Locator
