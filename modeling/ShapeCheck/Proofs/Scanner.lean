import Mathlib.Logic.Relation
import ShapeCheck.Proofs.Fault
import ShapeCheck.Proofs.TextBytes

/-!
# Reading a locator by positions

The reader of locators once more, as a machine that keeps a position in bytes and slices the text
there. Bytes are looked at one by one between steps, and characters inside a name, so that the
position has to be between two characters whenever the text is sliced. It always is, and the machine
reads what `parse` reads.

* `State`, `turn`: the machine and what it does in one turn, which may be to crash;
* `run`, `scan?`: all turns, and the whole reader;
* `Sound`: the text falls into what has been read, the step that is being read, and what is left;
* `keeps_turn`: a turn keeps this, and never crashes; `agrees_run`: so does a run;
* `positions_safe`: the positions and offsets of the machine.
-/

namespace ShapeCheck.Locator

open Text

namespace Scanner

/-! ### The machine -/

/-- How the characters of a name end, and how many bytes before. -/
inductive NameStop where
  | closed (name : List Char) (offset : Nat)
  | unclosed
  | danglingEscape (offset : Nat)

/-- The characters of a name one by one, behind those of `name`, which take `offset` bytes. -/
def scanKey (name : List Char) (offset : Nat) : List Char → NameStop
  | [] => .unclosed
  | '\'' :: _ => .closed name offset
  | ['\\'] => .danglingEscape offset
  | '\\' :: c :: rest => scanKey (name ++ [c]) (offset + '\\'.utf8Size + c.utf8Size) rest
  | c :: rest => scanKey (name ++ [c]) (offset + c.utf8Size) rest

/-- What is to be read next. -/
inductive Stage where
  | step
  | opened
  | name
  | nameEnd (name : String)
  | digits (first : Nat)
  deriving DecidableEq

/-- A position in bytes, what is to be read there, and the steps that have been read. -/
structure State where
  pos : Nat
  stage : Stage
  steps : List Segment
  deriving DecidableEq

/-- Nothing has been read. -/
def start : State := ⟨0, .step, []⟩

/-- The machine goes on, or stops with all steps or the position of the first problem, or slices the
text where it must not. -/
inductive Turn where
  | goes (next : State)
  | stops (answer : Except Nat (List Segment))
  | crashes
  deriving DecidableEq

/-- At the beginning of a step, or at the end of the text. -/
def turnStep (text : String) (st : State) : Turn :=
  if h : st.pos < text.toByteArray.size then
    if text.toByteArray[st.pos] = '['.toUInt8 then .goes ⟨st.pos + 1, .opened, st.steps⟩
    else .stops (.error st.pos)
  else .stops (.ok st.steps)

/-- Behind a bracket. -/
def turnOpened (text : String) (st : State) : Turn :=
  if text.toByteArray[st.pos]? = some '\''.toUInt8 then .goes ⟨st.pos + 1, .name, st.steps⟩
  else .goes ⟨st.pos, .digits st.pos, st.steps⟩

/-- At the beginning of a name. -/
def turnName (text : String) (st : State) : Turn :=
  match slice? text st.pos text.utf8ByteSize with
  | none => .crashes
  | some cs =>
    match scanKey [] 0 cs with
    | .closed name offset => .goes ⟨st.pos + offset + 1, .nameEnd (String.ofList name), st.steps⟩
    | .unclosed => .stops (.error st.pos)
    | .danglingEscape offset => .stops (.error (st.pos + offset))

/-- Behind the quote that ends a name. -/
def turnNameEnd (text : String) (st : State) (key : String) : Turn :=
  if text.toByteArray[st.pos]? = some ']'.toUInt8 then
    .goes ⟨st.pos + 1, .step, st.steps ++ [.key key]⟩
  else .stops (.error st.pos)

/-- Behind the digits of an index, in front of a bracket. -/
def turnIndex (text : String) (st : State) (first : Nat) : Turn :=
  match slice? text first st.pos with
  | none => .crashes
  | some ds =>
    if decimalValue ds < indexLimit then
      .goes ⟨st.pos + 1, .step, st.steps ++ [.index (decimalValue ds)]⟩
    else .stops (.error first)

/-- Among the digits of an index, or behind them. -/
def turnDigits (text : String) (st : State) (first : Nat) : Turn :=
  if text.toByteArray[st.pos]?.any isDigitByte then .goes ⟨st.pos + 1, .digits first, st.steps⟩
  else if first = st.pos ∨ text.toByteArray[st.pos]? ≠ some ']'.toUInt8 then .stops (.error st.pos)
  else turnIndex text st first

/-- One turn, on the text behind the root. -/
def turn (text : String) (st : State) : Turn :=
  match st.stage with
  | .step => turnStep text st
  | .opened => turnOpened text st
  | .name => turnName text st
  | .nameEnd key => turnNameEnd text st key
  | .digits first => turnDigits text st first

/-- A turn leads from one state to another. -/
def Goes (text : String) (st next : State) : Prop := turn text st = .goes next

instance (text : String) (st next : State) : Decidable (Goes text st next) :=
  inferInstanceAs (Decidable (_ = _))

/-- No turn starts behind the end of the text, and the position moves, except from a bracket to the
digits behind it. -/
theorem Goes.advances {text : String} {st next : State} (h : Goes text st next) :
    (st.pos ≤ text.utf8ByteSize ∧ st.pos < next.pos) ∨
      st.stage = .opened ∧ next = ⟨st.pos, .digits st.pos, st.steps⟩ := by
  have hle {b : UInt8} (hb : text.toByteArray[st.pos]? = some b) :
      st.pos ≤ text.utf8ByteSize := by
    obtain ⟨hlt, -⟩ := getElem?_eq_some_iff.1 hb
    exact Nat.le_of_lt (String.size_toByteArray ▸ hlt)
  rw [Goes, turn] at h
  cases hst : st.stage with
  | step =>
    rw [hst] at h
    simp only [turnStep] at h
    split at h
    · rename_i hlt
      split at h
      · cases h
        exact .inl ⟨Nat.le_of_lt (String.size_toByteArray ▸ hlt), Nat.lt_succ_self _⟩
      · cases h
    · cases h
  | opened =>
    rw [hst] at h
    simp only [turnOpened] at h
    split at h
    · rename_i hb
      cases h
      exact .inl ⟨hle hb, Nat.lt_succ_self _⟩
    · cases h
      exact .inr ⟨rfl, rfl⟩
  | name =>
    rw [hst] at h
    simp only [turnName] at h
    split at h
    · cases h
    · rename_i hs
      split at h
      · cases h
        exact .inl ⟨(isBoundary_of_slice? hs).1.le, by simp only; omega⟩
      · cases h
      · cases h
  | nameEnd key =>
    rw [hst] at h
    simp only [turnNameEnd] at h
    split at h
    · rename_i hb
      cases h
      exact .inl ⟨hle hb, Nat.lt_succ_self _⟩
    · cases h
  | digits first =>
    rw [hst] at h
    simp only [turnDigits] at h
    split at h
    · rename_i hd
      obtain ⟨b, hb, -⟩ := (Option.any_eq_true _ _).1 hd
      cases h
      exact .inl ⟨hle hb, Nat.lt_succ_self _⟩
    split at h
    · cases h
    · rename_i hb
      have hbracket := Classical.not_not.1 (not_or.1 hb).2
      rw [turnIndex] at h
      split at h
      · cases h
      · split at h
        · cases h
          exact .inl ⟨hle hbracket, Nat.lt_succ_self _⟩
        · cases h

/-- What is left to do: the bytes from the position on, and a turn that does not move it. -/
def State.left (text : String) (st : State) : Nat :=
  2 * (text.utf8ByteSize + 1 - st.pos) + match st.stage with | .opened => 1 | _ => 0

theorem Goes.left_lt {text : String} {st next : State} (h : Goes text st next) :
    next.left text < st.left text := by
  rcases h.advances with ⟨hle, hlt⟩ | ⟨hst, rfl⟩
  · have hnext : next.left text ≤ 2 * (text.utf8ByteSize + 1 - next.pos) + 1 := by
      rw [State.left]
      split <;> omega
    have hst : 2 * (text.utf8ByteSize + 1 - st.pos) ≤ st.left text := Nat.le_add_right _ _
    omega
  · simp only [State.left, hst]
    omega

/-- All turns from a state on: the answer, or nothing if the machine crashes. -/
def run (text : String) (st : State) : Option (Except Nat (List Segment)) :=
  match h : turn text st with
  | .goes next =>
    have := Goes.left_lt h
    run text next
  | .stops answer => some answer
  | .crashes => none
termination_by st.left text

/-- The whole reader: the steps behind the root, or the offset of the first problem. -/
def scan? (text : String) : Option (Except Fault (List Segment)) :=
  match text.toList with
  | '$' :: rest => (run (String.ofList rest) start).map fun answer =>
      answer.mapError fun n => ⟨text, root.utf8ByteSize + n⟩
  | _ => some (.error ⟨text, 0⟩)

/-- The states that the machine comes to. -/
def Visits (text : String) (st : State) : Prop := Relation.ReflTransGen (Goes text) start st

theorem visits_start {text : String} : Visits text start := .refl

theorem Visits.goes {text : String} {st next : State} (h : Visits text st)
    (hg : Goes text st next) : Visits text next := .tail h hg

theorem pos_lt_of_transGen {text : String} {st next : State} (hst : st.stage = .step)
    (h : Relation.TransGen (Goes text) st next) : st.pos < next.pos := by
  induction h with
  | single h =>
    rcases h.advances with ⟨-, hlt⟩ | ⟨ho, -⟩
    · exact hlt
    · rw [hst] at ho
      cases ho
  | tail _ h ih =>
    rcases h.advances with ⟨-, hlt⟩ | ⟨-, rfl⟩
    · exact Nat.lt_trans ih hlt
    · exact ih

/-! ### Names -/

theorem scanKey_chars_append (name : List Char) (offset : Nat) (x : Item) (rest : List Char) :
    scanKey name offset (x.chars ++ rest) =
      scanKey (name ++ [x.char]) (offset + byteLength x.chars) rest := by
  cases x with
  | plain c hq hb =>
    simp only [Item.chars, Item.char, List.cons_append, List.nil_append, byteLength_cons,
      byteLength_nil, Nat.add_zero]
    rw [scanKey]
    · exact hq
    · exact fun h _ => hb h
    · exact fun _ _ h _ => hb h
  | escaped c =>
    simp only [Item.chars, Item.char, List.cons_append, List.nil_append, byteLength_cons,
      byteLength_nil, Nat.add_zero, ← Nat.add_assoc, scanKey]

theorem scanKey_flatMap_append (xs : List Item) (name : List Char) (offset : Nat)
    (rest : List Char) :
    scanKey name offset (xs.flatMap Item.chars ++ rest) =
      scanKey (name ++ xs.map Item.char) (offset + byteLength (xs.flatMap Item.chars)) rest := by
  induction xs generalizing name offset with
  | nil => simp
  | cons x xs ih =>
    rw [List.flatMap_cons, List.append_assoc, scanKey_chars_append, ih, List.append_assoc,
      List.singleton_append, ← List.map_cons, byteLength_append, Nat.add_assoc]

/-! ### Problems of a step -/

theorem segment?_of_head?_ne {cs : List Char} (h : cs.head? ≠ some '[') :
    segment? cs = .error cs := by
  unfold segment?
  split
  · exact absurd rfl h
  · exact absurd rfl h
  · rfl

/-- A name that is closed without a bracket. -/
theorem segment?_openName (xs : List Item) {rest : List Char} (h : rest.head? ≠ some ']') :
    segment? ('[' :: '\'' :: (xs.flatMap Item.chars ++ '\'' :: rest)) = .error rest := by
  rw [segment?, Item.scanName_closed]
  split
  · rename_i he
    cases he
    exact absurd rfl h
  · rename_i he
    cases he
    rfl
  · rename_i he
    cases he
  · rename_i he
    cases he

/-- An index without digits. -/
theorem segment?_noIndex {rest : List Char} (hq : rest.head? ≠ some '\'')
    (hd : rest.head?.any Char.isDigit = false) : segment? ('[' :: rest) = .error rest := by
  have ht : rest.takeWhile Char.isDigit = [] := by
    cases rest with
    | nil => rfl
    | cons c rest => exact List.takeWhile_cons_of_neg (by simpa using hd)
  rw [segment?]
  · simp only [ht, List.isEmpty_nil, if_true]
  · rintro body rfl
    exact hq rfl

/-! ### What the machine keeps -/

/-- The characters of the step that is being read, which begins behind so many bytes, and those that
are left, suit what is to be read next. -/
def Stage.Suits (offset : Nat) (opened behind : List Char) : Stage → Prop
  | .step => opened = []
  | .opened => opened = ['[']
  | .name => opened = ['[', '\'']
  | .nameEnd key => ∃ xs : List Item, String.ofList (xs.map Item.char) = key ∧
      opened = '[' :: '\'' :: (xs.flatMap Item.chars ++ ['\''])
  | .digits first => ∃ ds, opened = '[' :: ds ∧ (∀ d ∈ ds, d.isDigit = true) ∧
      first = offset + 1 ∧ (ds = [] → behind.head? ≠ some '\'')

/-- The text falls into characters that have been read, those of the step that is being read, and
those that are left. The position is in front of the last, and the steps are those of the first. -/
structure Sound (text : String) (st : State) (before opened behind : List Char) : Prop where
  toList : text.toList = before ++ opened ++ behind
  pos : st.pos = byteLength (before ++ opened)
  stage : st.stage.Suits (byteLength before) opened behind
  steps : segments? text.toList = (segments? (opened ++ behind)).map (st.steps ++ ·)

/-- The text falls into such characters. -/
def IsSound (text : String) (st : State) : Prop :=
  ∃ before opened behind, Sound text st before opened behind

/-- The answer is what reading the characters gives, with a number of bytes for the characters that
are left at the first problem. -/
def Agrees (text : String) : Except Nat (List Segment) → Prop
  | .ok ss => segments? text.toList = .ok ss
  | .error n => ∃ before fault, text.toList = before ++ fault ∧ byteLength before = n ∧
      segments? text.toList = .error fault

/-- The machine goes on soundly or stops with an answer that agrees. -/
def Turn.Keeps (text : String) : Turn → Prop
  | goes next => IsSound text next
  | stops answer => Agrees text answer
  | crashes => False

theorem isSound_start (text : String) : IsSound text start := by
  refine ⟨[], [], text.toList, ⟨rfl, rfl, rfl, ?_⟩⟩
  rw [List.nil_append]
  cases segments? text.toList <;> rfl

namespace Sound

variable {text : String} {st : State} {before opened behind : List Char}

/-- The byte at the position is that of the first character that is left. -/
theorem byte_eq_iff (h : Sound text st before opened behind) {a : Char} (ha : a.toNat < 128) :
    text.toByteArray[st.pos]? = some a.toUInt8 ↔ behind.head? = some a := by
  rw [h.pos]
  exact getElem?_toByteArray_eq_iff h.toList ha

/-- A problem in the step that is being read is the first problem of the text. -/
theorem agrees_error (h : Sound text st before opened behind) (mid fault : List Char)
    (hne : opened ++ behind ≠ []) (hs : segment? (opened ++ behind) = .error fault)
    (hm : opened ++ behind = mid ++ fault) :
    Agrees text (.error (byteLength (before ++ mid))) := by
  refine ⟨before ++ mid, fault, ?_, rfl, ?_⟩
  · rw [h.toList, List.append_assoc, hm, List.append_assoc]
  · rw [h.steps, segments?_of_error hne hs]
    rfl

/-- What is read finishes the step, which is then one of the steps. -/
theorem isSound_step (h : Sound text st before opened behind) (x : Spelling)
    (more rest : List Char) (hb : behind = more ++ rest) (hx : opened ++ more = x.chars) {n : Nat}
    (hn : n = st.pos + byteLength more) : IsSound text ⟨n, .step, st.steps ++ [x.segment]⟩ := by
  have ht : opened ++ behind = x.chars ++ rest := by rw [hb, ← List.append_assoc, hx]
  refine ⟨before ++ x.chars, [], rest, ⟨?_, ?_, rfl, ?_⟩⟩
  · rw [h.toList, List.append_assoc, ht, List.append_nil, List.append_assoc]
  · rw [hn, h.pos, ← byteLength_append, List.append_assoc, hx, List.append_nil]
  · rw [h.steps, ht, segments?_of_ok (x.segment?_chars_append rest), List.nil_append]
    cases segments? rest <;> simp [Except.map]

/-- What is read belongs to the step, which goes on. -/
theorem isSound_push (h : Sound text st before opened behind) (more rest : List Char) (next : Stage)
    (hb : behind = more ++ rest)
    (hs : next.Suits (byteLength before) (opened ++ more) rest) {n : Nat}
    (hn : n = st.pos + byteLength more) : IsSound text ⟨n, next, st.steps⟩ := by
  refine ⟨before, opened ++ more, rest, ⟨?_, ?_, hs, ?_⟩⟩
  · rw [h.toList, hb, List.append_assoc, List.append_assoc, List.append_assoc]
  · rw [hn, h.pos, ← byteLength_append, List.append_assoc]
  · rw [h.steps, hb, List.append_assoc]

theorem keeps_step (h : Sound text st before opened behind) (hst : st.stage = .step) :
    (turnStep text st).Keeps text := by
  obtain rfl : opened = [] := by simpa [hst, Stage.Suits] using h.stage
  have hbyte := getElem?_toByteArray_of_toList h.toList
  rw [← h.pos] at hbyte
  rw [turnStep]
  cases behind with
  | nil =>
    have hsize : ¬ st.pos < text.toByteArray.size := by
      rw [String.size_toByteArray, h.pos]
      exact Nat.not_lt.2 ((size_le_iff h.toList).2 rfl)
    have hsteps := h.steps
    rw [List.append_nil, segments?_nil, Except.map, List.append_nil] at hsteps
    rw [dif_neg hsize]
    exact hsteps
  | cons c rest =>
    obtain ⟨hlt, hget⟩ := getElem?_eq_some_iff.1 hbyte
    rw [dif_pos hlt, hget]
    by_cases hc : c = '['
    · rw [if_pos ((firstByte_eq_iff (by decide)).2 hc)]
      exact h.isSound_push ['['] rest .opened (by rw [hc]; rfl) rfl rfl
    · rw [if_neg (mt (firstByte_eq_iff (by decide)).1 hc), h.pos]
      exact h.agrees_error [] _ (List.cons_ne_nil _ _)
        (segment?_of_head?_ne (by simpa using hc)) rfl

theorem keeps_opened (h : Sound text st before opened behind) (hst : st.stage = .opened) :
    (turnOpened text st).Keeps text := by
  obtain rfl : opened = ['['] := by simpa [hst, Stage.Suits] using h.stage
  have hquote := h.byte_eq_iff (a := '\'') (by decide)
  rw [turnOpened]
  by_cases hq : behind.head? = some '\''
  · obtain ⟨rest, rfl⟩ := List.head?_eq_some_iff.1 hq
    rw [if_pos (hquote.2 hq)]
    exact h.isSound_push ['\''] rest .name rfl rfl rfl
  · rw [if_neg (mt hquote.1 hq)]
    refine h.isSound_push [] behind (.digits st.pos) rfl ?_ rfl
    refine ⟨[], rfl, List.forall_mem_nil _, ?_, fun _ => hq⟩
    rw [h.pos, byteLength_append]
    rfl

theorem keeps_name (h : Sound text st before opened behind) (hst : st.stage = .name) :
    (turnName text st).Keeps text := by
  obtain rfl : opened = ['[', '\''] := by simpa [hst, Stage.Suits] using h.stage
  have hslice : slice? text st.pos text.utf8ByteSize = some behind := by
    have hs := slice?_of_toList (h.toList.trans (List.append_nil _).symm)
    rwa [← h.toList, byteLength_toList, ← h.pos] at hs
  rw [turnName, hslice]
  have hdesc := scanName_describes behind
  cases hscan : scanName behind with
  | closed name rest =>
    obtain ⟨xs, rfl, rfl⟩ : (NameEnd.closed name rest).Describes behind := hscan ▸ hdesc
    simp only [scanKey_flatMap_append, scanKey]
    refine h.isSound_push (xs.flatMap Item.chars ++ ['\'']) rest
      (.nameEnd (String.ofList (xs.map Item.char))) (by simp) ⟨xs, rfl, rfl⟩ ?_
    rw [byteLength_append, Nat.add_zero, ← Nat.add_assoc]
    rfl
  | unclosed =>
    obtain ⟨xs, rfl⟩ : NameEnd.unclosed.Describes behind := hscan ▸ hdesc
    have hkey := scanKey_flatMap_append xs [] 0 []
    rw [List.append_nil] at hkey
    simp only [hkey, scanKey, h.pos]
    exact h.agrees_error _ _ (List.cons_ne_nil _ _) (by simp [segment?, hscan]) rfl
  | danglingEscape =>
    obtain ⟨xs, rfl⟩ : NameEnd.danglingEscape.Describes behind := hscan ▸ hdesc
    simp only [scanKey_flatMap_append, scanKey, h.pos, Nat.zero_add, ← byteLength_append,
      List.append_assoc]
    exact h.agrees_error ('[' :: '\'' :: xs.flatMap Item.chars) ['\\'] (List.cons_ne_nil _ _)
      (by simp [segment?, hscan]) (by simp)

theorem keeps_nameEnd (h : Sound text st before opened behind) {key : String}
    (hst : st.stage = .nameEnd key) : (turnNameEnd text st key).Keeps text := by
  obtain ⟨xs, rfl, rfl⟩ : ∃ xs : List Item, String.ofList (xs.map Item.char) = key ∧
      opened = '[' :: '\'' :: (xs.flatMap Item.chars ++ ['\'']) := by
    simpa [hst, Stage.Suits] using h.stage
  have hbracket := h.byte_eq_iff (a := ']') (by decide)
  rw [turnNameEnd]
  by_cases hb : behind.head? = some ']'
  · obtain ⟨rest, rfl⟩ := List.head?_eq_some_iff.1 hb
    rw [if_pos (hbracket.2 hb)]
    exact h.isSound_step (.name xs) [']'] rest rfl (by simp [Spelling.chars]) rfl
  · rw [if_neg (mt hbracket.1 hb), h.pos]
    refine h.agrees_error _ _ (List.cons_ne_nil _ _) ?_ rfl
    simpa using segment?_openName xs hb

theorem keeps_digit (h : Sound text st before opened behind) {first : Nat}
    (hst : st.stage = .digits first) (hd : behind.head?.any Char.isDigit = true) :
    IsSound text ⟨st.pos + 1, .digits first, st.steps⟩ := by
  obtain ⟨ds, rfl, hds, rfl, -⟩ := hst ▸ h.stage
  obtain ⟨d, hhead, hdd⟩ := (Option.any_eq_true _ _).1 hd
  obtain ⟨rest, rfl⟩ := List.head?_eq_some_iff.1 hhead
  have hone : d.utf8Size = 1 := Char.utf8Size_eq_one_iff.2 (by
    have hn := (Char.isDigit_iff_toNat.1 hdd).2
    exact Nat.le_trans hn (by decide))
  have hall : ∀ e ∈ ds ++ [d], e.isDigit = true := by
    rw [List.forall_mem_append, List.forall_mem_singleton]
    exact ⟨hds, hdd⟩
  refine h.isSound_push [d] rest (.digits (byteLength before + 1)) rfl
    ⟨ds ++ [d], rfl, hall, rfl, fun he => ?_⟩ ?_
  · simp at he
  · rw [byteLength_cons, byteLength_nil, hone]

theorem keeps_index {ds rest : List Char} (h : Sound text st before ('[' :: ds) (']' :: rest))
    (hn : ds ≠ []) (hd : ∀ d ∈ ds, d.isDigit = true) :
    (turnIndex text st (byteLength before + 1)).Keeps text := by
  have hslice : slice? text (byteLength before + 1) st.pos = some ds := by
    have ht : text.toList = before ++ ['['] ++ ds ++ ']' :: rest := by
      rw [h.toList]
      simp
    have hs := slice?_of_toList ht
    rw [List.append_assoc, List.singleton_append, ← h.pos, byteLength_append] at hs
    exact hs
  have hread := segment?_closedIndex hn hd rest
  rw [turnIndex, hslice]
  by_cases hs : decimalValue ds < indexLimit
  · simp only [if_pos hs]
    exact h.isSound_step (.number ds hn hd hs) [']'] rest rfl rfl rfl
  · rw [if_neg hs] at hread
    have hf : byteLength before + 1 = byteLength (before ++ ['[']) := by
      rw [byteLength_append]
      rfl
    simp only [if_neg hs, hf]
    exact h.agrees_error _ _ (List.cons_ne_nil _ _) hread rfl

theorem keeps_digits (h : Sound text st before opened behind) {first : Nat}
    (hst : st.stage = .digits first) : (turnDigits text st first).Keeps text := by
  have hdigit := any_isDigitByte h.toList
  rw [← h.pos] at hdigit
  have hbracket := h.byte_eq_iff (a := ']') (by decide)
  rw [turnDigits, hdigit]
  cases hany : behind.head?.any Char.isDigit with
  | true =>
    rw [if_pos rfl]
    exact h.keeps_digit hst hany
  | false =>
    obtain ⟨ds, rfl, hds, rfl, hquote⟩ := hst ▸ h.stage
    have hpos : st.pos = byteLength before + 1 + byteLength ds := by
      rw [h.pos, byteLength_append, byteLength_cons, ← Nat.add_assoc]
      rfl
    rw [if_neg Bool.false_ne_true]
    by_cases hn : ds = []
    · subst hn
      rw [if_pos (.inl hpos.symm), h.pos]
      exact h.agrees_error _ _ (List.cons_ne_nil _ _) (segment?_noIndex (hquote rfl) hany) rfl
    by_cases hb : behind.head? = some ']'
    · obtain ⟨rest, rfl⟩ := List.head?_eq_some_iff.1 hb
      have hlen := byteLength_pos hn
      rw [if_neg (not_or.2 ⟨by omega, Classical.not_not.2 (hbracket.2 hb)⟩)]
      exact h.keeps_index hn hds
    · rw [if_pos (.inr (mt hbracket.1 hb)), h.pos]
      refine h.agrees_error _ _ (List.cons_ne_nil _ _)
        (segment?_openIndex hn hds fun c hc => ?_) rfl
      rw [Option.mem_def.1 hc] at hany hb
      exact ⟨hany, fun he => hb (he ▸ rfl)⟩

end Sound

/-- A turn keeps what is sound, and it never crashes. -/
theorem keeps_turn {text : String} {st : State} (h : IsSound text st) :
    (turn text st).Keeps text := by
  obtain ⟨before, opened, behind, hs⟩ := h
  rw [turn]
  cases hst : st.stage with
  | step => exact hs.keeps_step hst
  | opened => exact hs.keeps_opened hst
  | name => exact hs.keeps_name hst
  | nameEnd key => exact hs.keeps_nameEnd hst
  | digits first => exact hs.keeps_digits hst

theorem Goes.isSound {text : String} {st next : State} (h : Goes text st next)
    (hs : IsSound text st) : IsSound text next := by
  have hk := keeps_turn hs
  rwa [h] at hk

theorem Visits.isSound {text : String} {st : State} (h : Visits text st) : IsSound text st := by
  induction h with
  | refl => exact isSound_start text
  | tail _ hg ih => exact hg.isSound ih

/-- A run comes to an end, with an answer that agrees. -/
theorem agrees_run {text : String} {st : State} (h : IsSound text st) :
    ∃ answer, run text st = some answer ∧ Agrees text answer := by
  have hk := keeps_turn h
  fun_induction run text st with
  | case1 st next hturn _ ih =>
    have hnext : IsSound text next := by rwa [hturn] at hk
    exact ih hnext (keeps_turn hnext)
  | case2 st answer hturn =>
    rw [hturn] at hk
    exact ⟨answer, rfl, hk⟩
  | case3 st hturn =>
    rw [hturn] at hk
    exact hk.elim

/-- The machine reads what reading characters gives. -/
theorem scan?_eq_parse (s : String) : scan? s = some (parse s) := by
  rw [scan?, parse]
  split
  · rename_i rest hs
    obtain ⟨answer, hrun, ha⟩ := agrees_run (isSound_start (String.ofList rest))
    rw [hrun, hs, parseChars]
    cases answer with
    | ok ss =>
      rw [Agrees, String.toList_ofList] at ha
      rw [ha]
      rfl
    | error n =>
      obtain ⟨before, fault, ht, rfl, hf⟩ := ha
      rw [String.toList_ofList] at ht hf
      have hroot : root.utf8ByteSize = 1 := rfl
      have hoffset : byteLength ('$' :: rest) - byteLength fault =
          root.utf8ByteSize + byteLength before := by
        rw [ht, byteLength_cons, byteLength_append, show '$'.utf8Size = 1 from rfl, hroot]
        omega
      simp only [hf, hoffset]
      rfl
  · rename_i hs
    have hp : parseChars s.toList = .error s.toList := by
      rw [parseChars]
      exact hs
    rw [hp]
    simp only [Nat.sub_self]

theorem isBoundary_offset {s : String} {f : Fault} (h : parse s = .error f) :
    IsBoundary s f.offset := by
  obtain ⟨rest, hr, rfl⟩ := parse_eq_error_iff.1 h
  obtain ⟨before, hs, -⟩ := parseChars_stops hr
  refine isBoundary_iff.2 ⟨before, rest, hs, ?_⟩
  rw [hs, byteLength_append, Nat.add_sub_cancel]

theorem Sound.isBoundary_pos {text : String} {st : State} {before opened behind : List Char}
    (h : Sound text st before opened behind) : IsBoundary text st.pos :=
  isBoundary_iff.2 ⟨before ++ opened, behind, h.toList, h.pos.symm⟩

theorem Sound.isBoundary_first {text : String} {st : State} {before opened behind : List Char}
    (h : Sound text st before opened behind) {first : Nat} (hst : st.stage = .digits first) :
    first ≤ st.pos ∧ IsBoundary text first := by
  obtain ⟨ds, rfl, -, rfl, -⟩ := hst ▸ h.stage
  have hf : byteLength (before ++ ['[']) = byteLength before + 1 := byteLength_append _ _
  refine ⟨?_, isBoundary_iff.2 ⟨before ++ ['['], ds ++ behind, ?_, hf⟩⟩
  · rw [h.pos, byteLength_append, byteLength_cons, ← Nat.add_assoc]
    exact Nat.le_add_right _ _
  · rw [h.toList, List.append_assoc, List.append_assoc]
    rfl

/-- The machine reads every text, as a locator or not, and never crashes. Its position stays within
the text, and it is between two characters wherever the text is sliced; so is the position of the
first digit. From one step to the next it moves. The offset of a fault is between two characters,
too. -/
theorem positions_safe (s : String) :
    scan? s = some (parse s) ∧
      (∀ rest st, s = root ++ rest → Visits rest st →
        turn rest st ≠ .crashes ∧ st.pos ≤ rest.utf8ByteSize ∧ IsBoundary rest st.pos ∧
          (∀ first, st.stage = .digits first → first ≤ st.pos ∧ IsBoundary rest first) ∧
          (st.stage = .step → ∀ next, Relation.TransGen (Goes rest) st next →
            st.pos < next.pos)) ∧
      ∀ f, parse s = .error f → f.offset ≤ s.utf8ByteSize ∧ IsBoundary s f.offset := by
  refine ⟨scan?_eq_parse s, fun rest st _ hv => ?_, fun f hf => ?_⟩
  · have hk := keeps_turn hv.isSound
    obtain ⟨before, opened, behind, hs⟩ := hv.isSound
    refine ⟨fun hc => ?_, hs.isBoundary_pos.le, hs.isBoundary_pos,
      fun first hst => hs.isBoundary_first hst, fun hst next hn => pos_lt_of_transGen hst hn⟩
    rw [hc] at hk
    exact hk
  · exact ⟨(isBoundary_offset hf).le, isBoundary_offset hf⟩

/-- A name of two bytes and an escaped quote, and an index that is not closed. -/
def openIndex : String := "['é\\''][7"

/-- The position has to skip the second byte of a character and the quote behind the backslash. -/
theorem openIndex_scanned :
    Visits openIndex ⟨10, .digits 9, [.key "é'"]⟩ ∧
      turn openIndex ⟨10, .digits 9, [.key "é'"]⟩ ≠ .crashes ∧
      10 ≤ openIndex.utf8ByteSize ∧ IsBoundary openIndex 10 ∧ 9 ≤ 10 ∧ IsBoundary openIndex 9 ∧
      Goes openIndex ⟨8, .step, [.key "é'"]⟩ ⟨9, .opened, [.key "é'"]⟩ ∧ 8 < 9 ∧
      scan? (root ++ openIndex) = some (.error ⟨root ++ openIndex, 11⟩) ∧
      11 ≤ (root ++ openIndex).utf8ByteSize ∧ IsBoundary (root ++ openIndex) 11 := by
  have hbracket : Visits openIndex ⟨1, .opened, []⟩ := visits_start.goes (by decide +kernel)
  have hname : Visits openIndex ⟨2, .name, []⟩ := hbracket.goes (by decide +kernel)
  have hend : Visits openIndex ⟨7, .nameEnd "é'", []⟩ := hname.goes (by decide +kernel)
  have hstep : Visits openIndex ⟨8, .step, [.key "é'"]⟩ := hend.goes (by decide +kernel)
  have hopened : Goes openIndex ⟨8, .step, [.key "é'"]⟩ ⟨9, .opened, [.key "é'"]⟩ := by
    decide +kernel
  have hfirst : Visits openIndex ⟨9, .digits 9, [.key "é'"]⟩ :=
    (hstep.goes hopened).goes (by decide +kernel)
  have hdigits : Visits openIndex ⟨10, .digits 9, [.key "é'"]⟩ := hfirst.goes (by decide +kernel)
  have hparse : parse (root ++ openIndex) = .error ⟨root ++ openIndex, 11⟩ := by
    have hn : segment? openIndex.toList = .ok (.key "é'", ['[', '7']) := by decide +kernel
    have hi : segment? ['[', '7'] = .error [] := by decide +kernel
    have hr : segments? openIndex.toList = .error [] := by
      rw [segments?_of_ok hn, segments?_of_error (List.cons_ne_nil _ _) hi, Except.map]
    exact parse_eq_error_iff.2 ⟨[], hr, by decide +kernel⟩
  obtain ⟨hscan, hvisits, hfaults⟩ := positions_safe (root ++ openIndex)
  obtain ⟨hcrash, hle, hpos, hslice, -⟩ := hvisits openIndex _ rfl hdigits
  obtain ⟨-, -, -, -, hmoves⟩ := hvisits openIndex _ rfl hstep
  exact ⟨hdigits, hcrash, hle, hpos, (hslice 9 rfl).1, (hslice 9 rfl).2, hopened,
    hmoves rfl _ (.single hopened), hscan.trans (congrArg some hparse), hfaults _ hparse⟩

end Scanner

end ShapeCheck.Locator
