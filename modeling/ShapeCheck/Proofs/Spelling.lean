import ShapeCheck.Locator

/-!
# Locators as written

The grammar of locators, apart from their reader, and what the reader makes of it.

* `Item`: a character of a name as written, `Spelling`: a step as written;
* `spelled`: the locator that spellings make up;
* `scanName_describes`, `segment?_describes`, `segments?_describes`: what reading a name, a step and
  all steps says of the text, also where it fails;
* `parse_reads_spelled`: a text is read as a locator if and only if spellings make it up, which they
  do in one way only, and read are the steps that they stand for.
-/

namespace ShapeCheck.Locator

open Text (decimalValue)

/-- Parts that are told apart from what follows them make up a list in one way only. -/
theorem flatMap_inj_of_append_inj {α β : Type} {f : α → List β} (hn : ∀ x, f x ≠ [])
    (hf : ∀ x y cs ds, f x ++ cs = f y ++ ds → x = y ∧ cs = ds) {xs ys : List α}
    (h : xs.flatMap f = ys.flatMap f) : xs = ys := by
  induction xs generalizing ys with
  | nil =>
    cases ys with
    | nil => rfl
    | cons y ys => exact absurd h.symm (by simp [hn])
  | cons x xs ih =>
    cases ys with
    | nil => exact absurd h (by simp [hn])
    | cons y ys =>
      rw [List.flatMap_cons, List.flatMap_cons] at h
      obtain ⟨rfl, hr⟩ := hf x y _ _ h
      rw [ih hr]

/-! ### Characters of a name -/

/-- A character of a name as written: as it is, or after a backslash. -/
inductive Item where
  | plain (c : Char) (notQuote : c ≠ '\'') (notBackslash : c ≠ '\\')
  | escaped (c : Char)

namespace Item

/-- The characters that are written. -/
def chars : Item → List Char
  | plain c _ _ => [c]
  | escaped c => ['\\', c]

/-- The character that is meant. -/
def char : Item → Char
  | plain c _ _ => c
  | escaped c => c

theorem scanName_chars_append (x : Item) (rest : List Char) :
    scanName (x.chars ++ rest) = (scanName rest).push x.char := by
  cases x with
  | plain c hq hb =>
    simp only [chars, char, List.cons_append, List.nil_append]
    rw [scanName]
    · exact hq
    · exact fun h _ => hb h
    · exact fun _ _ h _ => hb h
  | escaped c => simp only [chars, char, List.cons_append, List.nil_append, scanName]

theorem scanName_closed (xs : List Item) (rest : List Char) :
    scanName (xs.flatMap chars ++ '\'' :: rest) = .closed (xs.map char) rest := by
  induction xs with
  | nil => rfl
  | cons x xs ih =>
    rw [List.flatMap_cons, List.append_assoc, scanName_chars_append, ih, NameEnd.push,
      List.map_cons]

theorem chars_ne_nil (x : Item) : x.chars ≠ [] := by
  cases x <;> exact List.cons_ne_nil _ _

/-- A plain character is no backslash, so that the first character tells two items apart. -/
theorem chars_append_inj (x y : Item) (cs ds : List Char) (h : x.chars ++ cs = y.chars ++ ds) :
    x = y ∧ cs = ds := by
  cases x with
  | plain c hq hb =>
    cases y with
    | plain d => simpa [chars] using h
    | escaped d => simp [chars, hb] at h
  | escaped c =>
    cases y with
    | plain d hq hb => simp [chars, Ne.symm hb] at h
    | escaped d => simpa [chars] using h

end Item

/-- What the end of a name says of the characters that were scanned for it. -/
def NameEnd.Describes (cs : List Char) : NameEnd → Prop
  | closed name rest =>
    ∃ xs : List Item, cs = xs.flatMap Item.chars ++ '\'' :: rest ∧ xs.map Item.char = name
  | unclosed => ∃ xs : List Item, cs = xs.flatMap Item.chars
  | danglingEscape => ∃ xs : List Item, cs = xs.flatMap Item.chars ++ ['\\']

theorem NameEnd.Describes.push {cs : List Char} {e : NameEnd} (h : e.Describes cs) (x : Item) :
    (e.push x.char).Describes (x.chars ++ cs) := by
  cases e with
  | closed name rest =>
    obtain ⟨xs, rfl, rfl⟩ := h
    exact ⟨x :: xs, by rw [List.flatMap_cons, List.append_assoc], rfl⟩
  | unclosed =>
    obtain ⟨xs, rfl⟩ := h
    exact ⟨x :: xs, rfl⟩
  | danglingEscape =>
    obtain ⟨xs, rfl⟩ := h
    exact ⟨x :: xs, by rw [List.flatMap_cons, List.append_assoc]⟩

theorem scanName_describes (cs : List Char) : (scanName cs).Describes cs := by
  fun_induction scanName cs with
  | case1 => exact ⟨[], rfl⟩
  | case2 rest => exact ⟨[], rfl, rfl⟩
  | case3 => exact ⟨[], rfl⟩
  | case4 c rest ih => exact ih.push (.escaped c)
  | case5 c rest hq hd hb ih =>
    have hc : c ≠ '\\' := by
      intro hc
      cases rest with
      | nil => exact hd hc rfl
      | cons d rest => exact hb d rest hc rfl
    exact ih.push (.plain c hq hc)

/-! ### Digits of an index -/

theorem isDigit_of_mem_takeWhile {cs : List Char} :
    ∀ d ∈ cs.takeWhile Char.isDigit, d.isDigit = true :=
  List.all_eq_true.1 List.all_takeWhile

theorem not_isDigit_of_dropWhile {cs : List Char} :
    ∀ c ∈ (cs.dropWhile Char.isDigit).head?, c.isDigit = false := by
  intro c hc
  have h := List.head?_dropWhile_not Char.isDigit cs
  rw [hc] at h
  exact h

/-- A quote is no digit, so that an index is not taken for a name. -/
theorem digits_append_ne_quote {ds : List Char} (hn : ds ≠ []) (hd : ∀ d ∈ ds, d.isDigit = true)
    (rest body : List Char) : ds ++ rest ≠ '\'' :: body := by
  intro h
  cases ds with
  | nil => exact hn rfl
  | cons d ds =>
    rw [List.cons_append, List.cons.injEq] at h
    have hq : Char.isDigit '\'' = true := h.1 ▸ hd d List.mem_cons_self
    exact absurd hq (by decide)

/-- A closed index is read if it is small enough. -/
theorem segment?_closedIndex {ds : List Char} (hn : ds ≠ []) (hd : ∀ d ∈ ds, d.isDigit = true)
    (rest : List Char) :
    segment? ('[' :: (ds ++ ']' :: rest)) =
      if decimalValue ds < indexLimit then .ok (.index (decimalValue ds), rest)
      else .error (ds ++ ']' :: rest) := by
  obtain ⟨ht, hw⟩ := Text.span_append hd (']' :: rest) (by simp)
  rw [segment?]
  · simp only [ht, hw, List.isEmpty_iff, hn, if_false]
  · exact fun body h => digits_append_ne_quote hn hd _ body h

/-- An index that is not closed is not read. -/
theorem segment?_openIndex {ds rest : List Char} (hn : ds ≠ []) (hd : ∀ d ∈ ds, d.isDigit = true)
    (hr : ∀ c ∈ rest.head?, c.isDigit = false ∧ c ≠ ']') :
    segment? ('[' :: (ds ++ rest)) = .error rest := by
  obtain ⟨ht, hw⟩ := Text.span_append hd rest fun c hc => (hr c hc).1
  rw [segment?]
  · simp only [ht, hw, List.isEmpty_iff, hn, if_false]
    split
    · exact absurd rfl (hr _ rfl).2
    · rfl
  · exact fun body h => digits_append_ne_quote hn hd _ body h

/-! ### Steps -/

/-- A step as written: a name in quotes, or the digits of an index below the limit. -/
inductive Spelling where
  | name (xs : List Item)
  | number (ds : List Char) (nonempty : ds ≠ []) (digits : ∀ d ∈ ds, d.isDigit = true)
    (small : decimalValue ds < indexLimit)

namespace Spelling

/-- The characters that are written. -/
def chars : Spelling → List Char
  | name xs => '[' :: '\'' :: (xs.flatMap Item.chars ++ ['\'', ']'])
  | number ds _ _ _ => '[' :: (ds ++ [']'])

/-- The step that is meant. -/
def segment : Spelling → Segment
  | name xs => .key (String.ofList (xs.map Item.char))
  | number ds _ _ _ => .index (decimalValue ds)

/-- A written step is read as the step that is meant, whatever follows it. -/
theorem segment?_chars_append (x : Spelling) (rest : List Char) :
    segment? (x.chars ++ rest) = .ok (x.segment, rest) := by
  cases x with
  | name xs =>
    simp only [chars, List.cons_append, List.append_assoc, List.nil_append, segment?]
    rw [Item.scanName_closed]
    rfl
  | number ds hn hd hs =>
    simp only [chars, List.cons_append, List.append_assoc, List.nil_append]
    rw [segment?_closedIndex hn hd, if_pos hs, segment]

theorem chars_ne_nil (x : Spelling) : x.chars ≠ [] := by
  cases x <;> exact List.cons_ne_nil _ _

/-- No written step is the beginning of another. -/
theorem chars_append_inj (x y : Spelling) (cs ds : List Char) (h : x.chars ++ cs = y.chars ++ ds) :
    x = y ∧ cs = ds := by
  have hr : (Except.ok (x.segment, cs) : Except (List Char) _) = .ok (y.segment, ds) := by
    rw [← segment?_chars_append, ← segment?_chars_append, h]
  obtain ⟨hs, rfl⟩ : x.segment = y.segment ∧ cs = ds := by simpa using hr
  have hc : x.chars = y.chars := List.append_cancel_right h
  refine ⟨?_, rfl⟩
  -- a name and an index do not mean the same step
  cases x with
  | name xs =>
    cases y with
    | name ys =>
      simp only [chars, List.cons.injEq, true_and, List.append_cancel_right_eq] at hc
      rw [flatMap_inj_of_append_inj Item.chars_ne_nil Item.chars_append_inj hc]
    | number => cases hs
  | number ds =>
    cases y with
    | name => cases hs
    | number es =>
      simp only [chars, List.cons.injEq, true_and, List.append_cancel_right_eq] at hc
      subst hc
      rfl

/-- A shortest index. -/
def zero : Spelling := number ['0'] (List.cons_ne_nil _ _) (by simp) (by decide)

/-- The characters are the beginning of a written step. -/
def Begins (before : List Char) : Prop := ∃ more, ∃ x : Spelling, before ++ more = x.chars

end Spelling

/-- Digits of an index that is too large and not closed, in front of a rest. -/
structure OpenLargeIndex (ds rest : List Char) : Prop where
  digits : ∀ d ∈ ds, d.isDigit = true
  large : indexLimit ≤ decimalValue ds
  ends : ∀ c ∈ rest.head?, c.isDigit = false ∧ c ≠ ']'

/-- What reading a step says of the text: that it is a spelling and what follows, or else the
beginning of one and what follows, unless too large an index is not closed. -/
def DescribesStep (cs : List Char) : Except (List Char) (Segment × List Char) → Prop
  | .ok (s, rest) => ∃ x : Spelling, cs = x.chars ++ rest ∧ x.segment = s
  | .error rest => (∃ before, cs = before ++ rest ∧ Spelling.Begins before) ∨
      ∃ ds, cs = '[' :: (ds ++ rest) ∧ OpenLargeIndex ds rest

theorem segment?_describes (cs : List Char) : DescribesStep cs (segment? cs) := by
  have hquote : Spelling.Begins ['[', '\''] := ⟨['\'', ']'], .name [], rfl⟩
  have hbracket : Spelling.Begins ['['] := ⟨['0', ']'], .zero, rfl⟩
  fun_cases segment? cs with
  | case1 body name rest hs =>
    obtain ⟨xs, rfl, rfl⟩ : (NameEnd.closed name (']' :: rest)).Describes body :=
      hs ▸ scanName_describes body
    exact ⟨.name xs, by simp [Spelling.chars], rfl⟩
  | case2 body name rest _ hs =>
    obtain ⟨xs, rfl, rfl⟩ : (NameEnd.closed name rest).Describes body :=
      hs ▸ scanName_describes body
    exact .inl ⟨'[' :: '\'' :: (xs.flatMap Item.chars ++ ['\'']), by simp, [']'], .name xs,
      by simp [Spelling.chars]⟩
  | case3 body hs => exact .inl ⟨['[', '\''], rfl, hquote⟩
  | case4 body hs =>
    obtain ⟨xs, rfl⟩ : NameEnd.danglingEscape.Describes body := hs ▸ scanName_describes body
    exact .inl ⟨'[' :: '\'' :: xs.flatMap Item.chars, rfl, ['\'', ']'], .name xs, rfl⟩
  | case5 body _ _ h => exact .inl ⟨['['], rfl, hbracket⟩
  | case6 body _ ds hn rest hr hs =>
    refine ⟨.number ds (by simpa using hn) isDigit_of_mem_takeWhile hs, ?_, rfl⟩
    have hb : ds ++ ']' :: rest = body := hr ▸ List.takeWhile_append_dropWhile
    simp [Spelling.chars, hb]
  | case7 body _ ds hn rest hr hs => exact .inl ⟨['['], rfl, hbracket⟩
  | case8 body _ ds hn hr =>
    have hb : ds ++ body.dropWhile Char.isDigit = body := List.takeWhile_append_dropWhile
    by_cases hs : decimalValue ds < indexLimit
    · refine .inl ⟨'[' :: ds, by rw [List.cons_append, hb], [']'],
        .number ds (by simpa using hn) isDigit_of_mem_takeWhile hs, rfl⟩
    · refine .inr ⟨ds, by rw [hb], isDigit_of_mem_takeWhile, Nat.le_of_not_lt hs, fun c hc => ?_⟩
      refine ⟨not_isDigit_of_dropWhile c hc, ?_⟩
      rintro rfl
      obtain ⟨rest, hw⟩ := List.head?_eq_some_iff.1 hc
      exact hr rest hw
  | case9 cs => exact .inl ⟨[], rfl, ['[', '0', ']'], .zero, rfl⟩

/-! ### Locators -/

theorem segments?_nil : segments? [] = .ok [] := by
  rw [segments?]
  rfl

theorem segments?_of_ok {cs rest : List Char} {s : Segment} (h : segment? cs = .ok (s, rest)) :
    segments? cs = (segments? rest).map (s :: ·) := by
  have hc : cs.isEmpty = false := by
    cases cs with
    | nil => cases h
    | cons c cs => rfl
  rw [segments?, hc]
  simp only [Bool.false_eq_true, if_false]
  split
  · rename_i hf
    rw [h] at hf
    cases hf
  · rename_i hs
    rw [h] at hs
    cases hs
    cases segments? rest <;> rfl

theorem segments?_of_error {cs fault : List Char} (hn : cs ≠ []) (h : segment? cs = .error fault) :
    segments? cs = .error fault := by
  have hc : cs.isEmpty = false := by simpa using hn
  rw [segments?, hc]
  simp only [Bool.false_eq_true, if_false]
  split
  · rename_i hf
    rw [h] at hf
    cases hf
    rfl
  · rename_i hs
    rw [h] at hs
    cases hs

/-- Written steps are read one after the other, whatever follows them. -/
theorem segments?_flatMap_chars_append (xs : List Spelling) (rest : List Char) :
    segments? (xs.flatMap Spelling.chars ++ rest) =
      (segments? rest).map (xs.map Spelling.segment ++ ·) := by
  induction xs with
  | nil => cases h : segments? rest <;> simp [h, Except.map]
  | cons x xs ih =>
    rw [List.flatMap_cons, List.append_assoc, segments?_of_ok (x.segment?_chars_append _), ih]
    cases segments? rest <;> rfl

/-- What reading all steps says of the text: that it consists of spellings, or else that it does up
to a step that is not read. -/
def DescribesSteps (cs : List Char) : Except (List Char) (List Segment) → Prop
  | .ok ss => ∃ xs : List Spelling, cs = xs.flatMap Spelling.chars ∧ xs.map Spelling.segment = ss
  | .error rest => ∃ (xs : List Spelling) (last : List Char),
      cs = xs.flatMap Spelling.chars ++ last ∧ segment? last = .error rest

theorem segments?_describes (cs : List Char) : DescribesSteps cs (segments? cs) := by
  fun_induction segments? cs with
  | case1 cs hc => exact ⟨[], by simpa using hc, rfl⟩
  | case2 cs _ fault hf => exact ⟨[], cs, rfl, hf⟩
  | case3 cs _ s rest hs _ fault hf ih =>
    obtain ⟨x, rfl, -⟩ : DescribesStep cs (.ok (s, rest)) := hs ▸ segment?_describes cs
    obtain ⟨xs, last, rfl, hl⟩ : DescribesSteps rest (.error fault) := hf ▸ ih
    exact ⟨x :: xs, last, by rw [List.flatMap_cons, List.append_assoc], hl⟩
  | case4 cs _ s rest hs _ more hm ih =>
    obtain ⟨x, rfl, rfl⟩ : DescribesStep cs (.ok (s, rest)) := hs ▸ segment?_describes cs
    obtain ⟨xs, rfl, rfl⟩ : DescribesSteps rest (.ok more) := hm ▸ ih
    exact ⟨x :: xs, rfl, rfl⟩

/-- The locator that spellings make up. -/
def spelled (xs : List Spelling) : String := String.ofList ('$' :: xs.flatMap Spelling.chars)

@[simp] theorem toList_spelled (xs : List Spelling) :
    (spelled xs).toList = '$' :: xs.flatMap Spelling.chars := String.toList_ofList

theorem spelled_append (xs ys : List Spelling) :
    spelled (xs ++ ys) = spelled xs ++ String.ofList (ys.flatMap Spelling.chars) := by
  rw [spelled, spelled, List.flatMap_append, ← List.cons_append, String.ofList_append]

theorem spelled_inj {xs ys : List Spelling} : spelled xs = spelled ys ↔ xs = ys := by
  refine ⟨fun h => ?_, fun h => h ▸ rfl⟩
  have hc := congrArg String.toList h
  simp only [toList_spelled, List.cons.injEq, true_and] at hc
  exact flatMap_inj_of_append_inj Spelling.chars_ne_nil Spelling.chars_append_inj hc

theorem parse_eq_ok_iff {s : String} {ss : List Segment} :
    parse s = .ok ss ↔ parseChars s.toList = .ok ss := by
  rw [parse]
  cases parseChars s.toList <;> simp

theorem parse_spelled (xs : List Spelling) :
    parse (spelled xs) = .ok (xs.map Spelling.segment) := by
  have h := segments?_flatMap_chars_append xs []
  rw [List.append_nil, segments?_nil] at h
  rw [parse_eq_ok_iff, toList_spelled, parseChars, h]
  simp [Except.map]

theorem exists_spelled_of_parse {s : String} {ss : List Segment} (h : parse s = .ok ss) :
    ∃ xs, spelled xs = s ∧ xs.map Spelling.segment = ss := by
  rw [parse_eq_ok_iff, parseChars.eq_def] at h
  split at h
  · rename_i cs hs
    obtain ⟨xs, rfl, hx⟩ : DescribesSteps cs (.ok ss) := h ▸ segments?_describes cs
    exact ⟨xs, by rw [spelled, ← hs, String.ofList_toList], hx⟩
  · cases h

/-- A text is read as a locator if and only if spellings make it up, which they do in one way only,
and read are the steps that they stand for, in their order. -/
theorem parse_reads_spelled :
    (∀ s ss, parse s = .ok ss ↔ ∃ xs, spelled xs = s ∧ xs.map Spelling.segment = ss) ∧
      ∀ xs ys, spelled xs = spelled ys ↔ xs = ys := by
  refine ⟨fun s ss => ⟨exists_spelled_of_parse, ?_⟩, fun xs ys => spelled_inj⟩
  rintro ⟨xs, rfl, rfl⟩
  exact parse_spelled xs

end ShapeCheck.Locator
