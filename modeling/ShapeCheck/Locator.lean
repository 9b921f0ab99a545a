import ShapeCheck.Text.Basic

/-!
# Locators

A locator is a text that leads from the root of a value to a place in it: `$`, then `['name']` for
a member and `[n]` for an element, with a backslash before a quote or a backslash in a name.

* `Segment`: one step, and `Segment.text`, its written form;
* `extend`: a locator one step further; the empty name leaves it as it is;
* `parse`: the steps of a text, or the byte offset of the first problem.

Reading goes segment by segment (`segment?`); what is left of the text gets shorter each time.
-/

namespace ShapeCheck.Locator

open Text (byteLength decimalValue)

/-- One step of a locator. -/
inductive Segment where
  | key (name : String)
  | index (n : Nat)
  deriving DecidableEq, Repr

/-- The locator of the whole value. -/
def root : String := "$"

/-- A character of a name, with a backslash if it needs one. -/
def escaped (c : Char) : List Char := if c = '\'' ∨ c = '\\' then ['\\', c] else [c]

/-- The written characters of a step. -/
def Segment.chars : Segment → List Char
  | key name => ['[', '\''] ++ name.toList.flatMap escaped ++ ['\'', ']']
  | index n => '[' :: Nat.toDigits 10 n ++ [']']

/-- The written form of a step. -/
def Segment.text (s : Segment) : String := String.ofList s.chars

/-- The step that leaves every locator as it is. -/
def Segment.IsEmpty (s : Segment) : Prop := s = .key ""

instance (s : Segment) : Decidable s.IsEmpty := inferInstanceAs (Decidable (_ = _))

/-- A locator one step further. -/
def extend (locator : String) (s : Segment) : String :=
  if s.IsEmpty then locator else locator ++ s.text

/-- A locator further by a member name. -/
def withKey (locator name : String) : String := extend locator (.key name)

/-- A locator further by an element index. -/
def withIndex (locator : String) (n : Nat) : String := extend locator (.index n)

@[simp] theorem extend_empty (locator : String) : extend locator (.key "") = locator := by
  simp [extend, Segment.IsEmpty]

theorem extend_of_not_isEmpty {s : Segment} (h : ¬ s.IsEmpty) (locator : String) :
    extend locator s = locator ++ s.text := if_neg h

/-! ### Reading -/

/-- How the characters of a name end. -/
inductive NameEnd where
  | closed (name rest : List Char)
  | unclosed
  | danglingEscape

/-- One more character in front of a name. -/
def NameEnd.push (c : Char) : NameEnd → NameEnd
  | closed name rest => closed (c :: name) rest
  | unclosed => unclosed
  | danglingEscape => danglingEscape

/-- The characters of a name up to its closing quote, backslashes removed. -/
def scanName : List Char → NameEnd
  | [] => .unclosed
  | '\'' :: rest => .closed [] rest
  | ['\\'] => .danglingEscape
  | '\\' :: c :: rest => (scanName rest).push c
  | c :: rest => (scanName rest).push c

/-- Indexes stay below this number. -/
def indexLimit : Nat := 18446744073709551616

/-- One segment and what follows it, or what is left of the text at the problem. -/
def segment? : List Char → Except (List Char) (Segment × List Char)
  | '[' :: '\'' :: body =>
    match scanName body with
    | .closed name (']' :: rest) => .ok (.key (String.ofList name), rest)
    | .closed _ rest => .error rest
    | .unclosed => .error body
    | .danglingEscape => .error ['\\']
  | '[' :: body =>
    let digits := body.takeWhile Char.isDigit
    if digits.isEmpty then .error body
    else
      match body.dropWhile Char.isDigit with
      | ']' :: rest =>
        if decimalValue digits < indexLimit then .ok (.index (decimalValue digits), rest)
        else .error body
      | rest => .error rest
  | cs => .error cs

theorem length_of_scanName {cs name rest : List Char} (h : scanName cs = .closed name rest) :
    rest.length < cs.length := by
  fun_induction scanName cs generalizing name with
  | case1 => simp at h
  | case2 rest' =>
    simp only [NameEnd.closed.injEq] at h
    simp [h.2]
  | case3 => simp at h
  | case4 c rest' ih =>
    cases hs : scanName rest' with
    | closed n r =>
      simp only [hs, NameEnd.push, NameEnd.closed.injEq] at h
      have := ih (h.2 ▸ hs)
      simp only [List.length_cons]
      omega
    | unclosed => simp [hs, NameEnd.push] at h
    | danglingEscape => simp [hs, NameEnd.push] at h
  | case5 c rest' _ _ _ ih =>
    cases hs : scanName rest' with
    | closed n r =>
      simp only [hs, NameEnd.push, NameEnd.closed.injEq] at h
      have := ih (h.2 ▸ hs)
      simp only [List.length_cons]
      omega
    | unclosed => simp [hs, NameEnd.push] at h
    | danglingEscape => simp [hs, NameEnd.push] at h

theorem length_of_segment? {cs rest : List Char} {s : Segment}
    (h : segment? cs = .ok (s, rest)) : rest.length < cs.length := by
  unfold segment? at h
  split at h
  · split at h
    · rename_i hs
      simp only [Except.ok.injEq, Prod.mk.injEq] at h
      have := length_of_scanName hs
      simp only [List.length_cons, ← h.2] at this ⊢
      omega
    all_goals simp at h
  · rename_i body _
    simp only at h
    split at h
    · simp at h
    · split at h
      · rename_i hd
        split at h
        · simp only [Except.ok.injEq, Prod.mk.injEq] at h
          have hle := (List.dropWhile_suffix (l := body) Char.isDigit).length_le
          rw [hd, h.2] at hle
          simp only [List.length_cons] at hle ⊢
          omega
        · simp at h
      · simp at h
  · simp at h

/-- All segments, or what is left of the text at the first problem. -/
def segments? (cs : List Char) : Except (List Char) (List Segment) :=
  if cs.isEmpty then .ok []
  else
    match h : segment? cs with
    | .error fault => .error fault
    | .ok (s, rest) =>
      have := length_of_segment? h
      match segments? rest with
      | .error fault => .error fault
      | .ok more => .ok (s :: more)
termination_by cs.length

/-- A text that is no locator, with the byte offset of the first problem. -/
structure Fault where
  locator : String
  offset : Nat
  deriving DecidableEq, Repr

/-- The segments after the root, or what is left of the text at the first problem. -/
def parseChars : List Char → Except (List Char) (List Segment)
  | '$' :: rest => segments? rest
  | cs => .error cs

/-- The steps of a locator, or the byte offset of the first problem. -/
def parse (text : String) : Except Fault (List Segment) :=
  match parseChars text.toList with
  | .ok ss => .ok ss
  | .error rest => .error ⟨text, byteLength text.toList - byteLength rest⟩

end ShapeCheck.Locator
