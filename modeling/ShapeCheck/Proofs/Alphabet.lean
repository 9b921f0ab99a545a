import ShapeCheck.Proofs.DottedQuad

/-!
# The characters of formats

Which characters occur in the texts of the formats that are written for machines.

* `Regex.sets`: the sets that an expression takes its characters from;
* `Regex.occurs_iff`: if no part of the expression is idle, the characters of its words are those of
  its sets;
* `MachineFormat`: dates, times, addresses, host names and resource identifiers, with the parts of
  their patterns;
* `MachineFormat.occurs_beyond_ascii_iff`: beyond ASCII these are the decimal digits of all scripts,
  where a pattern has a class for digits, and two letters, where it ignores case.
-/

namespace ShapeCheck.Pattern

open Unicode (fold)

/-! ### Words and sets -/

namespace Regex

/-- The sets that an expression takes its characters from. -/
def sets : Regex CharSet → List CharSet
  | empty => []
  | atom s => [s]
  | seq r s => r.sets ++ s.sets
  | alt r s => r.sets ++ s.sets
  | times r _ _ => r.sets

/-- Whether no part is idle: sets have an ASCII character at least, and what is repeated may be taken
once. -/
def isTrim : Regex CharSet → Bool
  | empty => true
  | atom s => (List.range 128).any fun n => s.has (Char.ofNat n).toNat
  | seq r s => r.isTrim && s.isTrim
  | alt r s => r.isTrim && s.isTrim
  | times r least most => r.isTrim && most.all fun m => 1 ≤ max least m

theorem has_of_spells {r : Regex CharSet} {w : List Char} (h : r.Spells w) {c : Char} (hc : c ∈ w) :
    ∃ s ∈ r.sets, s.has c.toNat = true := by
  induction r generalizing w with
  | empty =>
    obtain rfl := h
    exact absurd hc (List.not_mem_nil)
  | atom s =>
    obtain ⟨d, rfl, hd⟩ := h
    obtain rfl := List.mem_singleton.1 hc
    exact ⟨s, List.mem_singleton_self s, hd⟩
  | seq r s ihr ihs =>
    obtain ⟨x, y, rfl, hx, hy⟩ := h
    rcases List.mem_append.1 hc with hc | hc
    · obtain ⟨t, ht, hct⟩ := ihr hx hc
      exact ⟨t, List.mem_append_left _ ht, hct⟩
    · obtain ⟨t, ht, hct⟩ := ihs hy hc
      exact ⟨t, List.mem_append_right _ ht, hct⟩
  | alt r s ihr ihs =>
    rcases h with hx | hx
    · obtain ⟨t, ht, hct⟩ := ihr hx hc
      exact ⟨t, List.mem_append_left _ ht, hct⟩
    · obtain ⟨t, ht, hct⟩ := ihs hx hc
      exact ⟨t, List.mem_append_right _ ht, hct⟩
  | times r least most ih =>
    obtain ⟨ws, -, -, rfl, hws⟩ := h
    obtain ⟨x, hx, hc⟩ := List.mem_flatten.1 hc
    exact ih (hws x hx) hc

/-- Copies of a word, as many as there have to be and one at least. -/
theorem spells_times_of_spells {r : Regex CharSet} {w : List Char} (h : r.Spells w) {least n : Nat}
    {most : Option Nat} (hl : least ≤ n) (hm : ∀ m ∈ most, n ≤ max least m) :
    (times r least most).Spells (List.replicate n w).flatten :=
  ⟨List.replicate n w, by simpa using hl, by simpa using hm, rfl,
    fun _ hx => List.eq_of_mem_replicate hx ▸ h⟩

theorem exists_spells {r : Regex CharSet} (h : r.isTrim = true) : ∃ w, r.Spells w := by
  induction r with
  | empty => exact ⟨[], rfl⟩
  | atom s =>
    obtain ⟨n, -, hn⟩ := List.any_eq_true.1 h
    exact ⟨[Char.ofNat n], Char.ofNat n, rfl, hn⟩
  | seq r s ihr ihs =>
    obtain ⟨hr, hs⟩ := Bool.and_eq_true_iff.1 h
    obtain ⟨x, hx⟩ := ihr hr
    obtain ⟨y, hy⟩ := ihs hs
    exact ⟨x ++ y, x, y, rfl, hx, hy⟩
  | alt r s ihr _ =>
    obtain ⟨x, hx⟩ := ihr (Bool.and_eq_true_iff.1 h).1
    exact ⟨x, .inl hx⟩
  | times r least most ih =>
    obtain ⟨x, hx⟩ := ih (Bool.and_eq_true_iff.1 h).1
    exact ⟨_, spells_times_of_spells hx (Nat.le_refl least) fun m _ => Nat.le_max_left least m⟩

theorem exists_spells_of_has {r : Regex CharSet} (h : r.isTrim = true) {s : CharSet}
    (hs : s ∈ r.sets) {c : Char} (hc : s.has c.toNat = true) : ∃ w, r.Spells w ∧ c ∈ w := by
  induction r with
  | empty => exact absurd hs (List.not_mem_nil)
  | atom t =>
    obtain rfl := List.mem_singleton.1 hs
    exact ⟨[c], ⟨c, rfl, hc⟩, List.mem_singleton_self c⟩
  | seq r t ihr iht =>
    obtain ⟨hr, ht⟩ := Bool.and_eq_true_iff.1 h
    -- the other side may take any word
    rcases List.mem_append.1 hs with hs | hs
    · obtain ⟨x, hx, hcx⟩ := ihr hr hs
      obtain ⟨y, hy⟩ := exists_spells ht
      exact ⟨x ++ y, ⟨x, y, rfl, hx, hy⟩, List.mem_append_left y hcx⟩
    · obtain ⟨x, hx⟩ := exists_spells hr
      obtain ⟨y, hy, hcy⟩ := iht ht hs
      exact ⟨x ++ y, ⟨x, y, rfl, hx, hy⟩, List.mem_append_right x hcy⟩
  | alt r t ihr iht =>
    obtain ⟨hr, ht⟩ := Bool.and_eq_true_iff.1 h
    rcases List.mem_append.1 hs with hs | hs
    · obtain ⟨x, hx, hcx⟩ := ihr hr hs
      exact ⟨x, .inl hx, hcx⟩
    · obtain ⟨x, hx, hcx⟩ := iht ht hs
      exact ⟨x, .inr hx, hcx⟩
  | times r least most ih =>
    obtain ⟨hr, hm⟩ := Bool.and_eq_true_iff.1 h
    obtain ⟨x, hx, hcx⟩ := ih hr hs
    refine ⟨_, spells_times_of_spells hx (Nat.le_max_left least 1) ?_, ?_⟩
    · rintro m ⟨rfl⟩
      have : 1 ≤ max least m := by simpa using hm
      omega
    · have hpos : max least 1 ≠ 0 := by omega
      exact List.mem_flatten.2 ⟨x, List.mem_replicate.2 ⟨hpos, rfl⟩, hcx⟩

/-- The characters of words are those of sets. -/
theorem occurs_iff {r : Regex CharSet} (h : r.isTrim = true) {c : Char} :
    (∃ w, r.Spells w ∧ c ∈ w) ↔ ∃ s ∈ r.sets, s.has c.toNat = true := by
  constructor
  · rintro ⟨w, hw, hc⟩
    exact has_of_spells hw hc
  · rintro ⟨s, hs, hc⟩
    exact exists_spells_of_has h hs hc

end Regex

/-! ### Sets of ASCII characters -/

namespace CharSet

/-- Whether a set is written with ASCII characters alone, regardless of case if that is allowed. -/
def isPlain (folds : Bool) : CharSet → Bool
  | range _ last => last.blt 128
  | union a b => a.isPlain folds && b.isPlain folds
  | folded a => folds && a.isPlain false
  | _ => false

theorem lt_of_isPlain {s : CharSet} (h : s.isPlain false = true) {n : Nat} (hn : s.has n = true) :
    n < 128 := by
  induction s with
  | range first last =>
    simp only [isPlain, Nat.blt_eq, has, Bool.and_eq_true, decide_eq_true_eq] at h hn
    omega
  | union a b iha ihb =>
    obtain ⟨ha, hb⟩ := Bool.and_eq_true_iff.1 h
    exact (Bool.or_eq_true_iff.1 hn).elim (iha ha) (ihb hb)
  | _ => simp [isPlain] at h

/-- Regardless of case, ASCII characters include the long s and the Kelvin sign. -/
theorem cases_of_isPlain {s : CharSet} {folds : Bool} (h : s.isPlain folds = true) {c : Char}
    (hc : s.has c.toNat = true) :
    c.toNat < 128 ∨ (folds = true ∧ c ∈ ['\u017F', '\u212A']) := by
  induction s with
  | union a b iha ihb =>
    obtain ⟨ha, hb⟩ := Bool.and_eq_true_iff.1 h
    exact (Bool.or_eq_true_iff.1 hc).elim (iha ha) (ihb hb)
  | folded a =>
    obtain ⟨hf, ha⟩ := Bool.and_eq_true_iff.1 h
    obtain ⟨n, hn, hs⟩ := has_folded_iff.1 hc
    have hall : ∀ n < 128, fold n < 128 := by decide +kernel
    have hlt := hall n (lt_of_isPlain ha hs)
    rw [hn] at hlt
    rcases Unicode.fold_ascii_cases hlt with h' | ⟨-, h', -⟩ | ⟨h', -⟩ | ⟨h', -⟩
    · exact .inl (by omega)
    · exact .inl (by omega)
    · obtain rfl : c = '\u017F' := Char.toNat_inj.1 h'
      exact .inr ⟨hf, by simp⟩
    · obtain rfl : c = '\u212A' := Char.toNat_inj.1 h'
      exact .inr ⟨hf, by simp⟩
  | range first last => exact .inl (lt_of_isPlain (s := range first last) h hc)
  | _ => simp [isPlain] at h

end CharSet

end ShapeCheck.Pattern

namespace ShapeCheck.Format

open Pattern

/-! ### Dates and times -/

/-- The decimal digits of all scripts. -/
def digitSet : CharSet := LetterClass.digit.unicode

/-- A decimal digit of any script. -/
def IsDecimalDigit (c : Char) : Prop := digitSet.has c.toNat = true

instance (c : Char) : Decidable (IsDecimalDigit c) := inferInstanceAs (Decidable (_ = _))

/-- The expression of two digits. -/
def twoDigits : Regex CharSet := .times (.atom digitSet) 2 (some 2)

/-- The parts of a date. -/
def dateParts : List (Regex CharSet) :=
  [.times (.atom digitSet) 4 (some 4), .char '-', twoDigits, .char '-', twoDigits]

/-- The parts of a time of day. -/
def timeParts : List (Regex CharSet) :=
  [twoDigits, .char ':', twoDigits, .char ':', twoDigits,
    .times (.seq (.char '.') (.times (.atom digitSet) 1 (some 3))) 0 (some 1)]

/-- The expression of an offset from universal time. -/
def offset : Regex CharSet :=
  .alt (.char 'Z')
    (.seqAll [.atom (.unionAll [.single 0x2B, .single 0x2D]), twoDigits, .char ':', twoDigits])

/-! ### Host names -/

/-- The letters of ASCII. -/
def letterSets : List CharSet := [.range 0x61 0x7A, .range 0x41 0x5A]

/-- The expression of a label. -/
def label : Regex CharSet :=
  .alt (.atom (.unionAll letterSets))
    (.seqAll [.atom (.unionAll letterSets),
      .times (.atom (.unionAll (letterSets ++ [.range 0x30 0x39, .single 0x2D]))) 0 none,
      .atom (.unionAll (letterSets ++ [.range 0x30 0x39]))])

/-! ### Resource identifiers -/

/-- Letters, digits and some signs, regardless of case. -/
def signedSet (signs : String) : CharSet :=
  .folded (.unionAll (.range 0x61 0x7A :: .range 0x30 0x39 ::
    signs.toList.map fun c => .single c.toNat))

/-- The expression of an unreserved character, one of some more signs, or an escaped byte. -/
def resource (more : String) : Regex CharSet :=
  .alt (.atom (signedSet ("-._~!$&'()*+,;=" ++ more)))
    (.seq (.char '%')
      (.times (.atom (.folded (.unionAll [.range 0x30 0x39, .range 0x61 0x66]))) 2 (some 2)))

/-- The expression of any number of such characters after a mark, which may be missing with them. -/
def tail (mark : Char) (more : String) : Regex CharSet :=
  .times (.seq (.char mark) (.times (resource more) 0 none)) 0 (some 1)

/-- The expression of a scheme. -/
def scheme : Regex CharSet := .times (.atom (signedSet "+.-")) 1 none

/-- The expression of an identifier with an authority. -/
def hierarchical : Regex CharSet :=
  .seqAll [scheme, .char ':', .char '/', .char '/',
    .times (.seq (.times (resource ":") 0 none) (.char '@')) 0 (some 1),
    .times (resource "") 0 none,
    .times (.seq (.char ':') (.times (.atom digitSet) 0 none)) 0 (some 1),
    tail '/' ":@/"]

/-- The expression of an identifier without an authority. -/
def rootless : Regex CharSet :=
  .seqAll [scheme, .char ':',
    .times (.seqAll [.times (.char '/') 0 (some 1), .times (resource ":@") 1 none,
      .times (resource ":@/") 0 none]) 0 (some 1)]

/-! ### Formats for machines -/

/-- The formats of texts that are written for machines. -/
inductive MachineFormat where
  | dateTime
  | date
  | time
  | ipAddress
  | hostName
  | uri
  deriving DecidableEq

namespace MachineFormat

/-- The name of a format. -/
def name : MachineFormat → String
  | dateTime => "date-time"
  | date => "date"
  | time => "time"
  | ipAddress => "ip-address"
  | hostName => "host-name"
  | uri => "uri"

/-- The pattern text of a format. -/
def source : MachineFormat → String
  | dateTime => dateTimeSource
  | date => dateSource
  | time => timeSource
  | ipAddress => quadSource
  | hostName => hostSource
  | uri => uriSource

/-- The parts of the pattern of a format. -/
def parts : MachineFormat → List (Regex CharSet)
  | dateTime => dateParts ++ .char 'T' :: timeParts ++ [offset]
  | date => dateParts
  | time => timeParts
  | ipAddress => DottedQuad.parts
  | hostName => [.times (.seq label (.char '.')) 0 none, label]
  | uri => [.alt hierarchical rootless, tail '?' ":/?@", tail '#' ":/?@"]

theorem lookup_name (f : MachineFormat) :
    (patternFormats ++ predicateFormats).lookup f.name = some (ofSource f.source) := by
  cases f <;> rfl

theorem regex?_source (f : MachineFormat) : regex? f.source = some (Regex.anchored f.parts) := by
  cases f with
  | ipAddress => exact DottedQuad.regex?_quadSource
  | uri =>
    apply regex?_of_toList
    case h =>
      unfold source uriSource resourceChar
      repeat first | with_reducible apply toList_append_of | exact String.toList_ofList
    decide +kernel
  | _ => decide +kernel

/-- The sets of a format have ASCII characters, but for digits and for letters regardless of case. -/
theorem cases_of_mem_sets (f : MachineFormat) {s : CharSet} (hs : s ∈ (Regex.seqAll f.parts).sets) :
    (f ∈ [dateTime, date, time, uri] ∧ s = digitSet) ∨ s.isPlain (f = uri) = true := by
  have hall : ∀ s ∈ (Regex.seqAll f.parts).sets,
      (f ∈ [dateTime, date, time, uri] ∧ s = digitSet) ∨ s.isPlain (f = uri) = true :=
    List.all_iff_forall_prop.1 (by cases f <;> decide +kernel)
  exact hall s hs

theorem digitSet_mem_sets {f : MachineFormat} (hf : f ∈ [dateTime, date, time, uri]) :
    digitSet ∈ (Regex.seqAll f.parts).sets := by
  revert f
  decide +kernel

/-- Some set of identifiers has both letters that differ from ASCII letters in case only. -/
theorem exists_mem_sets_uri {c : Char} (hc : c ∈ ['\u017F', '\u212A']) :
    ∃ s ∈ (Regex.seqAll uri.parts).sets, s.has c.toNat = true := by
  have hall : ∀ c ∈ ['\u017F', '\u212A'],
      ∃ s ∈ (Regex.seqAll uri.parts).sets, s.has c.toNat = true :=
    List.all_iff_forall_prop.1 (by decide +kernel)
  exact hall c hc

theorem isTrim_parts (f : MachineFormat) : (Regex.seqAll f.parts).isTrim = true := by
  cases f <;> decide +kernel

/-- What texts of a format consist of is what the sets of its pattern have. -/
theorem occurs_iff (f : MachineFormat) {c : Char} :
    (∃ s, Formats.builtin.check? f.name s = some true ∧ c ∈ s.toList) ↔
      ∃ s ∈ (Regex.seqAll f.parts).sets, s.has c.toNat = true := by
  simp only [check?_builtin_iff f.lookup_name f.regex?_source, ← Regex.occurs_iff f.isTrim_parts]
  constructor
  · rintro ⟨s, hs⟩
    exact ⟨s.toList, hs⟩
  · rintro ⟨w, hw⟩
    exact ⟨String.ofList w, by rwa [String.toList_ofList]⟩

/-- The characters beyond ASCII that occur in texts of a format. -/
theorem occurs_beyond_ascii_iff (f : MachineFormat) {c : Char} (hc : 128 ≤ c.toNat) :
    (∃ s, Formats.builtin.check? f.name s = some true ∧ c ∈ s.toList) ↔
      (f ∈ [dateTime, date, time, uri] ∧ IsDecimalDigit c) ∨
        (f = uri ∧ c ∈ ['\u017F', '\u212A']) := by
  rw [f.occurs_iff]
  constructor
  · rintro ⟨s, hs, hcs⟩
    rcases f.cases_of_mem_sets hs with ⟨hf, rfl⟩ | hplain
    · exact .inl ⟨hf, hcs⟩
    · rcases CharSet.cases_of_isPlain hplain hcs with h | ⟨hf, h⟩
      · omega
      · exact .inr ⟨of_decide_eq_true hf, h⟩
  · rintro (⟨hf, hd⟩ | ⟨rfl, hletter⟩)
    · exact ⟨digitSet, digitSet_mem_sets hf, hd⟩
    · exact exists_mem_sets_uri hletter

/-- A digit of another script occurs in dates, and in no address. -/
theorem foreignDigit_occurs : 128 ≤ '\u0663'.toNat ∧
    (∃ s, Formats.builtin.check? "date" s = some true ∧ '\u0663' ∈ s.toList) ∧
    ¬ ∃ s, Formats.builtin.check? "ip-address" s = some true ∧ '\u0663' ∈ s.toList := by
  have hc : 128 ≤ '\u0663'.toNat := by decide
  refine ⟨hc, (occurs_beyond_ascii_iff date hc).2 (.inl ⟨by decide, by decide +kernel⟩), ?_⟩
  exact fun h => absurd ((occurs_beyond_ascii_iff ipAddress hc).1 h) (by decide)

/-- Dates with digits and identifiers with letters that are no ASCII characters. -/
theorem foreignTexts_accepted :
    Formats.builtin.check? "date" "２０１２-12-10" = some true ∧
      Formats.builtin.check? "uri" "\u212A:" = some true ∧
      ¬ (∀ c ∈ "２０１２-12-10".toList, c.toNat < 128) ∧
      ¬ ∀ c ∈ "\u212A:".toList, c.toNat < 128 := by
  have accepted (f : MachineFormat) {s : String}
      (h : (Regex.anchored f.parts).isMatch s.toList = true) :
      Formats.builtin.check? f.name s = some true :=
    (check?_builtin_iff f.lookup_name f.regex?_source).2 (Regex.isMatch_anchored_iff.1 h)
  refine ⟨accepted date (by decide +kernel), accepted uri (by decide +kernel), fun h => ?_,
    fun h => ?_⟩
  · exact absurd (h '２' (by decide)) (by decide)
  · exact absurd (h '\u212A' (by decide)) (by decide)

end MachineFormat

end ShapeCheck.Format
