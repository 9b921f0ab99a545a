import ShapeCheck.Json.Printer
import ShapeCheck.Locator

/-!
# Reports

* `Violation`: what is wrong, where, and the value that is to blame;
* `Report`: violations in the order in which they were found;
* `Checked`: a value, or a report that is not empty.

`Checked` values are put together so that the violations of all parts are kept, in order
(`Checked.both`); only where a part makes sense after another alone are they chained
(`Checked.bind`).
-/

namespace ShapeCheck

/-- A single violation. The field is the keyword or member it is about, if there is one. -/
structure Violation where
  locator : String
  field : String
  message : String
  actual : Json

/-- Violations in the order in which they were found. -/
abbrev Report := List Violation

namespace Violation

/-- The locator of the field. -/
def pointer (v : Violation) : String := Locator.withKey v.locator v.field

/-- The violation on one line. -/
def display (v : Violation) : String :=
  v.pointer ++ ": " ++ v.message ++ " (actual: " ++ v.actual.compact ++ ")"

/-- The violation as an object. -/
def toJson (v : Violation) : Json :=
  .object [("locator", .string v.locator), ("field", .string v.field),
    ("message", .string v.message), ("actual", v.actual)]

/-- The violation of an object or of a list of its four parts. -/
def ofJson? : Json → Option Violation
  | .object ms => do
    let locator ← (← ms.lookup "locator").text?
    let field ← (← ms.lookup "field").text?
    let message ← (← ms.lookup "message").text?
    let actual ← ms.lookup "actual"
    some ⟨locator, field, message, actual⟩
  | .array [.string locator, .string field, .string message, actual] =>
    some ⟨locator, field, message, actual⟩
  | _ => none

end Violation

/-- A report as a list of objects. -/
def Report.toJson (r : Report) : Json := .array (r.map Violation.toJson)

/-- A value, or violations of which there is one at least. -/
inductive Checked (α : Type) where
  | ok (value : α)
  | bad (first : Violation) (rest : Report)

namespace Checked

variable {α β γ : Type}

/-- The violations. -/
def errors : Checked α → Report
  | ok _ => []
  | bad first rest => first :: rest

/-- The value, if there are no violations. -/
def value? : Checked α → Option α
  | ok a => some a
  | bad _ _ => none

/-- One violation. -/
def fail (locator field message : String) (actual : Json) : Checked α :=
  bad ⟨locator, field, message, actual⟩ []

/-- The violations of a report, or a value if there are none. -/
def ofReport (a : α) : Report → Checked α
  | [] => ok a
  | first :: rest => bad first rest

/-- The value changed. -/
def map (f : α → β) : Checked α → Checked β
  | ok a => ok (f a)
  | bad first rest => bad first rest

/-- Both values, or the violations of both. -/
def both : Checked α → Checked β → Checked (α × β)
  | ok a, ok b => ok (a, b)
  | ok _, bad first rest => bad first rest
  | bad first rest, right => bad first (rest ++ right.errors)

/-- The second value or its violations, after those of the first. -/
def andThen (left : Checked α) (right : Checked β) : Checked β :=
  (left.both right).map Prod.snd

/-- A part that makes sense after another alone. -/
def bind : Checked α → (α → Checked β) → Checked β
  | ok a, f => f a
  | bad first rest, _ => bad first rest

@[simp] theorem errors_ok (a : α) : (ok a).errors = [] := rfl
@[simp] theorem errors_bad (first : Violation) (rest : Report) :
    (bad first rest : Checked α).errors = first :: rest := rfl
@[simp] theorem value?_ok (a : α) : (ok a).value? = some a := rfl
@[simp] theorem value?_bad (first : Violation) (rest : Report) :
    (bad first rest : Checked α).value? = none := rfl

@[simp] theorem errors_map (f : α → β) (c : Checked α) : (c.map f).errors = c.errors := by
  cases c <;> rfl

@[simp] theorem value?_map (f : α → β) (c : Checked α) : (c.map f).value? = c.value?.map f := by
  cases c <;> rfl

@[simp] theorem errors_both (c : Checked α) (d : Checked β) :
    (c.both d).errors = c.errors ++ d.errors := by
  cases c <;> cases d <;> rfl

@[simp] theorem errors_andThen (c : Checked α) (d : Checked β) :
    (c.andThen d).errors = c.errors ++ d.errors := by
  simp [andThen]

@[simp] theorem errors_ofReport (a : α) (r : Report) : (ofReport a r).errors = r := by
  cases r <;> rfl

@[simp] theorem errors_fail (locator field message : String) (actual : Json) :
    (fail locator field message actual : Checked α).errors = [⟨locator, field, message, actual⟩] :=
  rfl

@[simp] theorem fail_ne_ok (locator field message : String) (actual : Json) (a : α) :
    fail locator field message actual ≠ ok a := by
  intro h
  cases h

theorem map_eq_ok_iff {f : α → β} {c : Checked α} {b : β} :
    c.map f = ok b ↔ ∃ a, c = ok a ∧ f a = b := by
  cases c <;> simp [map]

theorem both_eq_ok_iff {c : Checked α} {d : Checked β} {a : α} {b : β} :
    c.both d = ok (a, b) ↔ c = ok a ∧ d = ok b := by
  cases c <;> cases d <;> simp [both]

theorem ofReport_eq_ok_iff {a b : α} {r : Report} : ofReport a r = ok b ↔ r = [] ∧ a = b := by
  cases r <;> simp [ofReport]

/-- There is a value exactly if there are no violations. -/
theorem errors_eq_nil_iff (c : Checked α) : c.errors = [] ↔ ∃ a, c = ok a := by
  cases c <;> simp

end Checked

end ShapeCheck
