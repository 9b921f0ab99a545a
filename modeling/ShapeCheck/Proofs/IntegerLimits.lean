import ShapeCheck.Format.Builtin
import ShapeCheck.Proofs.Conformance
import ShapeCheck.Proofs.Frame
import ShapeCheck.Proofs.Rounding
import ShapeCheck.Proofs.Written

/-!
# Limits and choices for integers

A node for integers whose limits and choices are integers as well compares all of them as doubles.

* `Checker.IntegerKeywords`: the limits and choices of a document are integers;
* `Checker.KeepsTo`: an integer keeps to them, with all integers seen in some way;
* `Environment.integer_limits_rounded`: an integer is taken if it keeps to them with all integers
  rounded, and so as they are written if none of them is changed by rounding, as up to `2 ^ 53`;
* `Checker.KeepsTo.rounded`, `Checker.KeepsTo.lt_of_rounded`: rounding only ever lets more pass
  limits that are not exclusive, and less limits that are.
-/

namespace ShapeCheck

open Json (Members)
open Binary64 (ofInt rounded)

namespace Json

/-- The value is an integer as written. -/
def IsInteger (v : Json) (i : Int) : Prop := ∃ h, v = .number (.integer i h)

theorem isInteger_integer (i : Int) (h : -9223372036854775808 ≤ i ∧ i < 18446744073709551616) :
    (Json.number (.integer i h)).IsInteger i :=
  ⟨h, rfl⟩

end Json

namespace Checker

variable {loc key exclusiveKey : String} {ms : Members} {integral : Bool}

/-! ### Integers of a document -/

/-- The limits and choices of a document are integers. -/
structure IntegerKeywords (ms : Members) : Prop where
  minimum : Keyword ms "minimum" fun v => ∃ i, v.IsInteger i
  maximum : Keyword ms "maximum" fun v => ∃ i, v.IsInteger i
  choice : Keyword ms "enum" (Json.IsListOf fun v => ∃ i, v.IsInteger i)

/-- The integer is a limit or a choice of a document. -/
inductive Mentions (ms : Members) (i : Int) : Prop where
  | minimum {v : Json} (hl : ms.lookup "minimum" = some v) (hi : v.IsInteger i)
  | maximum {v : Json} (hl : ms.lookup "maximum" = some v) (hi : v.IsInteger i)
  | choice {vs : List Json} {v : Json} (hl : ms.lookup "enum" = some (.array vs)) (hv : v ∈ vs)
      (hi : v.IsInteger i)

/-- The key of an exclusive limit is set. -/
def IsSet (ms : Members) (key : String) : Prop := ms.lookup key = some (.bool true)

/-- An integer keeps to the limits and is one of the choices of a document, with all integers seen
in some way. -/
structure KeepsTo (see : Int → Int) (ms : Members) (i : Int) : Prop where
  minimum : ∀ v j, ms.lookup "minimum" = some v → v.IsInteger j →
    see j ≤ see i ∧ (IsSet ms "exclusiveMinimum" → see j < see i)
  maximum : ∀ v j, ms.lookup "maximum" = some v → v.IsInteger j →
    see i ≤ see j ∧ (IsSet ms "exclusiveMaximum" → see i < see j)
  choice : ∀ vs, ms.lookup "enum" = some (.array vs) →
    ∃ v ∈ vs, ∃ j, v.IsInteger j ∧ see j = see i

namespace KeepsTo

variable {see see' : Int → Int} {i j : Int} {v : Json}

/-- What counts is how the integers of the document and the integer itself are seen. -/
theorem congr (h : KeepsTo see ms i) (hm : ∀ j, Mentions ms j → see j = see' j)
    (hi : see i = see' i) : KeepsTo see' ms i := by
  refine ⟨fun v j hl hj => ?_, fun v j hl hj => ?_, fun vs hl => ?_⟩
  · rw [← hm j (.minimum hl hj), ← hi]
    exact h.minimum v j hl hj
  · rw [← hm j (.maximum hl hj), ← hi]
    exact h.maximum v j hl hj
  · obtain ⟨v, hv, j, hj, he⟩ := h.choice vs hl
    exact ⟨v, hv, j, hj, by rw [← hm j (.choice hl hv hj), ← hi, he]⟩

/-- Limits that are not exclusive, and choices, are kept when all integers are rounded. -/
theorem rounded (h : KeepsTo id ms i) (hl : ¬ IsSet ms "exclusiveMinimum")
    (hm : ¬ IsSet ms "exclusiveMaximum") : KeepsTo Binary64.rounded ms i := by
  refine ⟨fun v j hv hj => ?_, fun v j hv hj => ?_, fun vs hv => ?_⟩
  · exact ⟨Binary64.rounded_mono (h.minimum v j hv hj).1, fun he => absurd he hl⟩
  · exact ⟨Binary64.rounded_mono (h.maximum v j hv hj).1, fun he => absurd he hm⟩
  · obtain ⟨v, hm, j, hj, he⟩ := h.choice vs hv
    exact ⟨v, hm, j, hj, congrArg Binary64.rounded he⟩

/-- Exclusive limits are kept as they are written if they are kept when all integers are rounded. -/
theorem lt_of_rounded (h : KeepsTo Binary64.rounded ms i) (hj : v.IsInteger j) :
    (ms.lookup "minimum" = some v → IsSet ms "exclusiveMinimum" → j < i) ∧
      (ms.lookup "maximum" = some v → IsSet ms "exclusiveMaximum" → i < j) :=
  ⟨fun hl he => Binary64.lt_of_rounded_lt ((h.minimum v j hl hj).2 he),
    fun hl he => Binary64.lt_of_rounded_lt ((h.maximum v j hl hj).2 he)⟩

end KeepsTo

/-! ### The compiled limits and choices -/

theorem isSet_of_flag {b : Bool} (h : flag loc key ms = .ok b) : b = true ↔ IsSet ms key := by
  unfold flag at h
  rw [IsSet]
  split at h
  · rename_i hl
    obtain rfl := Checked.ok.inj h
    simp [hl]
  · rename_i b' hl
    obtain rfl := Checked.ok.inj h
    simp [hl]
  · exact absurd h (Checked.fail_ne_ok _ _ _ _ _)

theorem number?_of_isInteger {v : Json} {i : Int} {x : Binary64}
    (hx : number? integral v = some x) (hi : v.IsInteger i) : ∃ h, x = ofInt i h := by
  obtain ⟨h, rfl⟩ := hi
  obtain ⟨n, hn, -, rfl⟩ := number?_eq_some_iff.1 hx
  rw [← Json.number.inj hn]
  exact ⟨h, rfl⟩

/-- What is said of a compiled limit is said of the integer that is written. -/
theorem forall_bound_iff {b : Option Bound} (hb : bound integral loc key exclusiveKey ms = .ok b)
    (hk : Keyword ms key fun v => ∃ i, v.IsInteger i) {P : Bound → Prop} {Q : Int → Prop}
    (hPQ : ∀ j h e, (e = true ↔ IsSet ms exclusiveKey) → (P ⟨ofInt j h, e⟩ ↔ Q j)) :
    (∀ l, b = some l → P l) ↔ ∀ v j, ms.lookup key = some v → v.IsInteger j → Q j := by
  unfold bound at hb
  cases hl : ms.lookup key with
  | none =>
    rw [hl] at hb
    obtain rfl := Checked.ok.inj hb
    simp
  | some v =>
    obtain ⟨j, h, rfl⟩ := hk v hl
    rw [hl] at hb
    dsimp only at hb
    split at hb
    · rename_i x hx
      obtain ⟨h', rfl⟩ := number?_of_isInteger hx ⟨h, rfl⟩
      obtain ⟨e, he, rfl⟩ := Checked.map_eq_ok_iff.1 hb
      have hiff := hPQ j h' e (isSet_of_flag he)
      constructor
      · rintro hp v i ⟨⟩ ⟨-, ⟨⟩⟩
        exact hiff.1 (hp _ rfl)
      · rintro hq l ⟨⟩
        exact hiff.2 (hq _ j rfl ⟨h, rfl⟩)
    · exact absurd hb (Checked.fail_ne_ok _ _ _ _ _)

theorem mem_of_enumElements {α : Type} {element : Json → Option α} {message base : String} {i : Nat}
    {vs : List Json} {as : List α} (h : enumElements element message base i vs = .ok as) (a : α) :
    a ∈ as ↔ ∃ v ∈ vs, element v = some a := by
  induction vs generalizing i as with
  | nil =>
    obtain rfl := Checked.ok.inj h
    simp
  | cons v rest ih =>
    obtain ⟨⟨head, more⟩, hb, rfl⟩ := Checked.map_eq_ok_iff.1 h
    obtain ⟨hh, hm⟩ := Checked.both_eq_ok_iff.1 hb
    have hv : element v = some head := by
      cases he : element v with
      | none =>
        rw [he] at hh
        exact absurd hh (Checked.fail_ne_ok _ _ _ _ _)
      | some b =>
        rw [he] at hh
        rw [Checked.ok.inj hh]
    simp only [List.mem_cons, ih hm, exists_eq_or_imp, hv, Option.some.injEq, eq_comm (a := a)]

/-- The choices that are compiled are those that are written. -/
theorem allowed_of_enumeration {α : Type} {element : Json → Option α} {message : String}
    {allowed : Option (List α)} (h : enumeration element message loc ms = .ok allowed) :
    (ms.lookup "enum" = none ∧ allowed = none) ∨
      ∃ vs as, ms.lookup "enum" = some (.array vs) ∧ allowed = some as ∧
        ∀ a, a ∈ as ↔ ∃ v ∈ vs, element v = some a := by
  unfold enumeration at h
  split at h
  · rename_i hl
    exact .inl ⟨hl, (Checked.ok.inj h).symm⟩
  · rename_i vs hl
    obtain ⟨as, ha, rfl⟩ := Checked.map_eq_ok_iff.1 h
    exact .inr ⟨vs, as, hl, rfl, mem_of_enumElements ha⟩
  · exact absurd h (Checked.fail_ne_ok _ _ _ _ _)

section Compiled

variable {i : Int} (hi : -9223372036854775808 ≤ i ∧ i < 18446744073709551616)

theorem choice_iff {message : String} {allowed : Option (List Binary64)}
    (h : enumeration (number? integral) message loc ms = .ok allowed)
    (hk : Keyword ms "enum" (Json.IsListOf fun v => ∃ j, v.IsInteger j)) :
    (∀ as, allowed = some as → ∃ a ∈ as, a.units = (ofInt i hi).units) ↔
      ∀ vs, ms.lookup "enum" = some (.array vs) →
        ∃ v ∈ vs, ∃ j, v.IsInteger j ∧ rounded j = rounded i := by
  rcases allowed_of_enumeration h with ⟨hl, rfl⟩ | ⟨vs, as, hl, rfl, hm⟩
  · simp [hl]
  -- choices and written integers are in step, and doubles are equal if rounded integers are
  have hex : (∃ a ∈ as, a.units = (ofInt i hi).units) ↔
      ∃ v ∈ vs, ∃ j, v.IsInteger j ∧ rounded j = rounded i := by
    constructor
    · rintro ⟨a, ha, he⟩
      obtain ⟨v, hv, hx⟩ := (hm a).1 ha
      obtain ⟨vs', hvs, hall⟩ := hk _ hl
      obtain rfl := Json.array.inj hvs
      obtain ⟨j, hj⟩ := hall v hv
      obtain ⟨hr, rfl⟩ := number?_of_isInteger hx hj
      exact ⟨v, hv, j, hj, Binary64.units_ofInt_eq_iff.1 he⟩
    · rintro ⟨v, hv, j, ⟨hj, rfl⟩, he⟩
      refine ⟨ofInt j hj, (hm _).2 ⟨_, hv, ?_⟩, Binary64.units_ofInt_eq_iff.2 he⟩
      exact number?_eq_some_iff.2 ⟨_, rfl, fun _ => trivial, rfl⟩
  constructor
  · rintro hp vs' hl'
    rw [hl, Option.some.injEq, Json.array.injEq] at hl'
    exact hl' ▸ hex.1 (hp as rfl)
  · rintro hq as' ⟨⟩
    exact hex.2 (hq vs hl)

/-- The compiled rules take an integer that keeps to what is written, with all integers rounded. -/
theorem accepts_iff_keepsTo {r : NumberRules} (hr : numberRules integral loc ms = .ok r)
    (hk : IntegerKeywords ms) : r.Accepts (ofInt i hi) ↔ KeepsTo rounded ms i := by
  obtain ⟨⟨⟨least, most⟩, allowed⟩, hb, rfl⟩ := Checked.map_eq_ok_iff.1 hr
  obtain ⟨hb, hc⟩ := Checked.both_eq_ok_iff.1 hb
  obtain ⟨hl, hm⟩ := Checked.both_eq_ok_iff.1 hb
  have hleast := forall_bound_iff (P := fun b => b.IsMinimumOf (ofInt i hi))
    (Q := fun j => rounded j ≤ rounded i ∧
      (IsSet ms "exclusiveMinimum" → rounded j < rounded i)) hl hk.minimum fun j h e he => by
    rw [Bound.IsMinimumOf, Binary64.ofInt_le_ofInt_iff, Binary64.ofInt_lt_ofInt_iff, he]
  have hmost := forall_bound_iff (P := fun b => b.IsMaximumOf (ofInt i hi))
    (Q := fun j => rounded i ≤ rounded j ∧
      (IsSet ms "exclusiveMaximum" → rounded i < rounded j)) hm hk.maximum fun j h e he => by
    rw [Bound.IsMaximumOf, Binary64.ofInt_le_ofInt_iff, Binary64.ofInt_lt_ofInt_iff, he]
  have hchoice := choice_iff hi hc hk.choice
  constructor
  · intro h
    exact ⟨hleast.1 h.minimum, hmost.1 h.maximum, hchoice.1 h.choice⟩
  · intro h
    exact ⟨hleast.2 h.minimum, hmost.2 h.maximum, hchoice.2 h.choice⟩

end Compiled

end Checker

/-! ### Reports -/

/-- Custom validations that no key of a node names say nothing about it. -/
theorem Customs.messages_of_not_key {customs : Customs} {source : Members}
    (h : ∀ name ∈ customs.names, source.lookup name = none) (v : Json) :
    customs.messages source v = [] := by
  rw [messages, List.filterMap_eq_nil_iff]
  rintro ⟨name, f⟩ hm
  rw [message?, h name (List.mem_map_of_mem hm)]
  rfl

namespace Environment

open Checker (IntegerKeywords KeepsTo Mentions)

variable {c : Checker} {env : Environment} {d : Json} {n : Node} {loc : String} {i : Int}

theorem integer_violations_eq_nil_iff (env : Environment)
    (inRange : -9223372036854775808 ≤ i ∧ i < 18446744073709551616)
    (h : c.Took loc d.written n) (integer : d.written.lookup "kind" = some (.string "integer"))
    (keywords : IntegerKeywords d.written)
    (plain : ∀ name ∈ env.customs.names, d.written.lookup name = none) (loc' : String) :
    env.violations loc' n (.number (.integer i inRange)) = [] ↔
      KeepsTo rounded d.written i := by
  obtain ⟨r, hr, hn⟩ := h.integerRules integer
  have hs : env.customs.messages n.source (.number (.integer i inRange)) = [] := by
    refine Customs.messages_of_not_key (fun name hm => ?_) _
    rw [h.source, Checker.lookup_ownKeys, plain name hm, ite_self]
  have hnull : ¬ n.RefusesNull (.number (.integer i inRange)) := by
    rintro ⟨hv, -⟩
    cases hv
  rw [violations_of_not_refusesNull env loc' hnull, customViolations, hs, List.map_nil,
    List.nil_append, hn, ruleViolations, numericViolations_eq_nil_iff,
    ← Checker.accepts_iff_keepsTo inRange hr keywords]
  constructor
  · rintro ⟨m, hm, -, ha⟩
    obtain rfl := Json.number.inj hm
    exact ha
  · exact fun ha => ⟨_, rfl, fun _ => trivial, ha⟩

/-- **Integers are held to the limits and choices of a node as doubles.** A well-formed document for
integers whose limits and choices are integers gives a node that takes an integer exactly if it
keeps to them with all integers rounded, and exactly if it keeps to them as they are written when
none of the integers is changed by rounding, so also when none is beyond `2 ^ 53` on either side. -/
theorem integer_limits_rounded (wellFormed : c.WellFormed d)
    (integer : d.written.lookup "kind" = some (.string "integer"))
    (keywords : IntegerKeywords d.written)
    (plain : ∀ name ∈ env.customs.names, d.written.lookup name = none) (loc : String)
    (inRange : -9223372036854775808 ≤ i ∧ i < 18446744073709551616) :
    ∃ n, c.node loc d = .ok n ∧ ∀ loc',
      (env.violations loc' n (.number (.integer i inRange)) = [] ↔
          KeepsTo rounded d.written i) ∧
        (rounded i = i → (∀ j, Mentions d.written j → rounded j = j) →
          (env.violations loc' n (.number (.integer i inRange)) = [] ↔
            KeepsTo id d.written i)) ∧
        (i.natAbs ≤ 2 ^ 53 → (∀ j, Mentions d.written j → j.natAbs ≤ 2 ^ 53) →
          (env.violations loc' n (.number (.integer i inRange)) = [] ↔
            KeepsTo id d.written i)) := by
  obtain ⟨n, hn⟩ := Checker.exists_node_of_wellFormed wellFormed loc
  refine ⟨n, hn, fun loc' => ?_⟩
  have hiff := env.integer_violations_eq_nil_iff inRange (Checker.took_of_node hn) integer keywords
    plain loc'
  have hwritten (hi : rounded i = i) (hm : ∀ j, Mentions d.written j → rounded j = j) :
      env.violations loc' n (.number (.integer i inRange)) = [] ↔ KeepsTo id d.written i := by
    refine hiff.trans ⟨fun h => ?_, fun h => ?_⟩
    · exact h.congr hm hi
    · exact h.congr (fun j hj => (hm j hj).symm) hi.symm
  refine ⟨hiff, hwritten, fun hi hm => ?_⟩
  exact hwritten (Binary64.rounded_of_natAbs_le hi) fun j hj =>
    Binary64.rounded_of_natAbs_le (hm j hj)

/-- A limit on each side, one of them exclusive, and two choices. -/
def fewCodes : Json :=
  .object [("kind", .string "integer"), ("minimum", .number (.integer (-3) (by decide))),
    ("exclusiveMinimum", .bool true),
    ("maximum", .number (.integer 9007199254740992 (by decide))),
    ("enum", .array [.number (.integer 5 (by decide)), .number (.integer 9 (by decide))])]

theorem integerKeywords_fewCodes : IntegerKeywords fewCodes.written := by
  refine ⟨(keyword_iff_of_lookup rfl).2 ⟨_, Json.isInteger_integer _ _⟩,
    (keyword_iff_of_lookup rfl).2 ⟨_, Json.isInteger_integer _ _⟩,
    (keyword_iff_of_lookup rfl).2 ⟨_, rfl, ?_⟩⟩
  simp [Json.IsInteger]

theorem natAbs_le_of_mentions_fewCodes {j : Int} (h : Mentions fewCodes.written j) :
    j.natAbs ≤ 2 ^ 53 := by
  cases h with
  | minimum hl hi =>
    obtain rfl := Option.some.inj hl
    obtain ⟨-, ⟨⟩⟩ := hi
    decide
  | maximum hl hi =>
    obtain rfl := Option.some.inj hl
    obtain ⟨-, ⟨⟩⟩ := hi
    decide
  | choice hl hv hi =>
    obtain rfl := Json.array.inj (Option.some.inj hl)
    obtain ⟨_, rfl⟩ := hi
    simp only [List.mem_cons, Json.number.injEq, Json.Number.integer.injEq, List.not_mem_nil,
      or_false] at hv
    omega

/-- Standard formats, and a custom validation of which no document of integers has a key. -/
def strictCodes : Environment := ⟨.builtin, Table.empty.insert "code" fun _ _ => some "unknown"⟩

theorem fewCodes_rounded :
    Checker.WellFormed ⟨.builtin, true⟩ fewCodes ∧ IntegerKeywords fewCodes.written ∧
      (∀ name ∈ strictCodes.customs.names, fewCodes.written.lookup name = none) ∧
      rounded 7 = 7 ∧ (∀ j, Mentions fewCodes.written j → rounded j = j) ∧
      (7 : Int).natAbs ≤ 2 ^ 53 ∧ (∀ j, Mentions fewCodes.written j → j.natAbs ≤ 2 ^ 53) ∧
      ∃ n, Checker.node ⟨.builtin, true⟩ Locator.root fewCodes = .ok n ∧ ∀ loc,
        (strictCodes.violations loc n (.number (.integer 7 (by decide))) = [] ↔
          KeepsTo id fewCodes.written 7) := by
  have hw : Checker.WellFormed ⟨.builtin, true⟩ fewCodes := by decide +kernel
  have hp : ∀ name ∈ strictCodes.customs.names, fewCodes.written.lookup name = none := by
    intro name hm
    obtain rfl := List.mem_singleton.1 hm
    rfl
  have h7 : rounded 7 = 7 := Binary64.rounded_of_natAbs_le (by decide)
  have hle (j : Int) := natAbs_le_of_mentions_fewCodes (j := j)
  have hm (j : Int) (hj : Mentions fewCodes.written j) := Binary64.rounded_of_natAbs_le (hle j hj)
  obtain ⟨n, hn, hv⟩ := integer_limits_rounded hw rfl integerKeywords_fewCodes hp Locator.root
    (i := 7) (by decide)
  exact ⟨hw, integerKeywords_fewCodes, hp, h7, hm, by decide, hle, n, hn,
    fun loc => (hv loc).2.1 h7 hm⟩

/-- A limit that is a double, with an integer above it that is not. -/
def evenLimit : Json :=
  .object [("kind", .string "integer"),
    ("maximum", .number (.integer 9007199254740992 (by decide)))]

theorem integerKeywords_evenLimit : IntegerKeywords evenLimit.written :=
  ⟨keyword_of_lookup_none rfl, (keyword_iff_of_lookup rfl).2 ⟨_, Json.isInteger_integer _ _⟩,
    keyword_of_lookup_none rfl⟩

/-- The integer above the limit is rounded to the limit, and taken. -/
theorem evenLimit_takes_more :
    Checker.WellFormed ⟨.builtin, true⟩ evenLimit ∧
      evenLimit.written.lookup "kind" = some (.string "integer") ∧
      IntegerKeywords evenLimit.written ∧
      ∃ n, Checker.node ⟨.builtin, true⟩ Locator.root evenLimit = .ok n ∧
        ¬ (violations ⟨.builtin, .empty⟩ Locator.root n
            (.number (.integer 9007199254740993 (by decide))) = [] ↔
          KeepsTo id evenLimit.written 9007199254740993) := by
  have hw : Checker.WellFormed ⟨.builtin, true⟩ evenLimit := by decide +kernel
  obtain ⟨n, hn⟩ := Checker.exists_node_of_wellFormed hw Locator.root
  have hr : rounded 9007199254740993 = 9007199254740992 := by decide +kernel
  have hr' : rounded 9007199254740992 = 9007199254740992 :=
    Binary64.rounded_of_natAbs_le (by decide)
  have hk : KeepsTo rounded evenLimit.written 9007199254740993 := by
    refine ⟨fun v j hl _ => ?_, fun v j hl hj => ?_, fun vs hl => ?_⟩
    · cases hl
    · obtain rfl := Option.some.inj hl
      obtain ⟨-, ⟨⟩⟩ := hj
      refine ⟨by rw [hr, hr'], fun he => ?_⟩
      cases he
    · cases hl
  refine ⟨hw, rfl, integerKeywords_evenLimit, n, hn, fun h => ?_⟩
  have ht := (integer_violations_eq_nil_iff ⟨.builtin, .empty⟩ (by decide)
    (Checker.took_of_node hn) rfl integerKeywords_evenLimit (List.forall_mem_nil _)
    Locator.root).2 hk
  have hle := ((h.1 ht).maximum _ _ rfl (Json.isInteger_integer _ _)).1
  exact absurd hle (by decide)

end Environment

end ShapeCheck
