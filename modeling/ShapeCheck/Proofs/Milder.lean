import ShapeCheck.Proofs.Conformance
import ShapeCheck.Proofs.Reordering

/-!
# Milder environments

A value is accepted by what its parts are accepted by, and never by what one of them is rejected by.
So whatever an environment accepts, an environment with more formats and fewer custom validations
accepts as well.

* `Environment.Milder`: all formats of another environment and no custom validations but its own;
* `Conforms.milder`: what conforms to a node conforms to it in a milder environment;
* `Environment.acceptance_kept`: the same said of reports, with two ways to a milder environment.
-/

namespace ShapeCheck

namespace Environment

/-- The second environment has all formats of the first, and no custom validations besides those of
the first. -/
structure Milder (env env' : Environment) : Prop where
  formats : ∀ name f, env.formats.get? name = some f → env'.formats.get? name = some f
  customs : ∀ entry ∈ env'.customs.entries, entry ∈ env.customs.entries

/-! ### Ways to a milder environment -/

/-- An environment is milder than the same with a custom validation under a new name. -/
theorem milder_of_custom (env : Environment) {name : String} (f : Custom)
    (hn : name ∉ env.customs.names) :
    Milder { env with customs := env.customs.insert name f } env := by
  refine ⟨fun _ _ h => h, fun entry he => ?_⟩
  obtain ⟨key, g⟩ := entry
  have hk : key ≠ name := by
    rintro rfl
    exact hn (List.mem_map_of_mem he)
  have hg : (env.customs.insert name f).get? key = some g := by
    rw [Table.get?_insert, if_neg hk]
    exact (lookup_eq_some_iff_mem env.customs.nodup).2 he
  exact mem_of_lookup hg

/-- An environment is milder than the same without one of its formats. -/
theorem milder_of_format (env : Environment) (name : String) :
    Milder { env with formats := env.formats.erase name } env := by
  refine ⟨fun key f h => ?_, fun _ he => he⟩
  rw [Table.get?_erase] at h
  split at h
  · cases h
  · exact h

/-! ### What is accepted -/

variable {env env' : Environment}

theorem Milder.accepts_text (h : env.Milder env') {r : TextRules} {s : String}
    (hr : r.Accepts env.formats s) : r.Accepts env'.formats s := by
  refine ⟨hr.least, hr.most, hr.pattern, fun name hn => ?_, hr.choice⟩
  obtain ⟨f, hf, hs⟩ := hr.format name hn
  exact ⟨f, h.formats name f hf, hs⟩

theorem Milder.unobjected (h : env.Milder env') {source : Json.Members} {v : Json}
    (hv : env.Unobjected source v) : env'.Unobjected source v :=
  fun name f hf => hv name f (h.customs _ hf)

theorem MemberConforms.imp {properties : List (String × Node)} {additional : Additional}
    {oneOf : Option (List Node)} {name : String} {v : Json}
    (ih : ∀ child ∈ (Rules.object properties additional oneOf).children, ∀ v,
      env.Conforms child v → env'.Conforms child v)
    (h : env.MemberConforms properties additional name v) :
    env'.MemberConforms properties additional name v := by
  cases h with
  | declared hn h => exact .declared hn (ih _ (mem_children_of_declared hn) v h)
  | allowed hn => exact .allowed hn
  | additional hn h =>
    exact .additional hn (ih _ (mem_children_of_additional (List.mem_singleton_self _)) v h)

theorem ItemConforms.imp {items : Items} {v : Json}
    (ih : ∀ child ∈ items.children, ∀ v, env.Conforms child v → env'.Conforms child v)
    (h : env.ItemConforms items v) : env'.ItemConforms items v := by
  cases h with
  | free => exact .free v
  | single h => exact .single (ih _ (List.mem_singleton_self _) v h)
  | alternative hn h => exact .alternative hn (ih _ hn v h)

theorem Satisfies.milder (h : env.Milder env') {rules : Rules} {v : Json}
    (ih : ∀ child ∈ rules.children, ∀ v, env.Conforms child v → env'.Conforms child v)
    (hv : env.Satisfies rules v) : env'.Satisfies rules v := by
  cases hv with
  | string hs => exact .string (h.accepts_text hs)
  | number hx => exact .number hx
  | integer whole hx => exact .integer whole hx
  | boolean b => exact .boolean b
  | null => exact .null v
  | any => exact .any v
  | noAlternative ms => exact .noAlternative ms
  | alternative hn hc => exact .alternative hn (ih _ (mem_children_of_oneOf hn) _ hc)
  | members present each => exact .members present fun name v hm => (each name v hm).imp ih
  | array count each => exact .array count fun v hm => (each v hm).imp ih

/-- What conforms to a node conforms to it in a milder environment. -/
theorem Conforms.milder (h : env.Milder env') {n : Node} {v : Json} (hv : env.Conforms n v) :
    env'.Conforms n v := by
  -- on the node and not on the value: an alternative is asked about the value as a whole
  induction n using Node.inductionOn generalizing v with
  | step n ih =>
    obtain ⟨null, custom, satisfies⟩ := hv
    exact .mk null (h.unobjected custom) (satisfies.milder h fun m hm w hw => ih m hm hw)

/-- **What is accepted stays accepted in a milder environment**, so that a custom validation under a
new name and a format that is missing can only lead to rejection. -/
theorem acceptance_kept :
    (∀ env env' : Environment, env.Milder env' → ∀ (n : Node) (v : Json),
      env.violations Locator.root n v = [] → env'.violations Locator.root n v = []) ∧
    (∀ (env : Environment) (name : String) (f : Custom), name ∉ env.customs.names →
      ∀ (n : Node) (v : Json),
        violations { env with customs := env.customs.insert name f } Locator.root n v = [] →
          env.violations Locator.root n v = []) ∧
    ∀ (env : Environment) (name : String) (n : Node) (v : Json),
      violations { env with formats := env.formats.erase name } Locator.root n v = [] →
        env.violations Locator.root n v = [] := by
  have hm (env env' : Environment) (h : env.Milder env') (n : Node) (v : Json)
      (hv : env.violations Locator.root n v = []) : env'.violations Locator.root n v = [] := by
    rw [no_violations_iff_conforms] at hv ⊢
    exact hv.milder h
  refine ⟨hm, fun env name f hn => ?_, fun env name => ?_⟩
  · exact hm _ env (milder_of_custom env f hn)
  · exact hm _ env (milder_of_format env name)

/-- Objects to long texts. -/
def brief : Custom := fun _ v =>
  v.text?.bind fun s => if s.length ≤ 2 then none else some "too long"

/-- Texts of even length. -/
def evenTexts : Environment where
  formats := Table.empty.insert "even" (.predicate fun s => s.length % 2 == 0)
  customs := .empty

/-- Texts of even length, none of them long where this is asked for. -/
def strictTexts : Environment := { evenTexts with customs := evenTexts.customs.insert "brief" brief }

/-- One more format, and no custom validation. -/
def mildTexts : Environment where
  formats := strictTexts.formats.insert "odd" (.predicate fun s => s.length % 2 == 1)
  customs := .empty

/-- Members that are not declared are texts of even length, and brief. -/
def textsNode : Node :=
  .mk false [] (.object [] (.schema (.mk false [("format", .string "even"), ("brief", .bool true)]
    (.string ⟨none, none, none, some "even", none⟩))) none)

theorem textsNode_acceptance_kept :
    strictTexts.Milder mildTexts ∧
      strictTexts.violations Locator.root textsNode (.object [("a", .string "ab")]) = [] ∧
      mildTexts.violations Locator.root textsNode (.object [("a", .string "ab")]) = [] ∧
      evenTexts.violations Locator.root textsNode (.object [("a", .string "ab")]) = [] ∧
      strictTexts.violations Locator.root textsNode (.object [("a", .string "abcd")]) ≠ [] ∧
      mildTexts.violations Locator.root textsNode (.object [("a", .string "abcd")]) = [] := by
  have h : strictTexts.Milder mildTexts := by
    refine ⟨fun name f hf => ?_, fun entry he => absurd he List.not_mem_nil⟩
    have hn : name ≠ "odd" := by
      rintro rfl
      cases hf
    rw [mildTexts, Table.get?_insert, if_neg hn]
    exact hf
  have hv : strictTexts.violations Locator.root textsNode (.object [("a", .string "ab")]) = [] :=
    rfl
  have hn : "brief" ∉ evenTexts.customs.names := List.not_mem_nil
  have hw : violations { mildTexts with formats := mildTexts.formats.erase "odd" } Locator.root
      textsNode (.object [("a", .string "abcd")]) = [] := rfl
  exact ⟨h, hv, acceptance_kept.1 strictTexts mildTexts h _ _ hv,
    acceptance_kept.2.1 evenTexts "brief" brief hn _ _ hv, List.cons_ne_nil _ _,
    acceptance_kept.2.2 mildTexts "odd" _ _ hw⟩

end Environment

end ShapeCheck
