import ShapeCheck.Text.Quoted

/-!
# Events

What a program does on the way to its answer is told to a listener, which writes a line about each
event that has been asked for.

* `Level`: how important an event is;
* `Event`: an event, with its level, the part of the program that it is from, and its words;
* `Listener`: which events are shown, and the lines that are written about them;
* `Listener.lines`: what is written about a run;
* `Listener.lines_insert_iff`: when it makes no difference that more happens.
-/

namespace ShapeCheck

/-- How important an event is, the most important first. -/
inductive Level where
  | error
  | warn
  | info
  | debug
  | trace
  deriving DecidableEq, Repr

namespace Level

/-- How much has to be asked for to hear of a level. -/
def rank : Level → Nat
  | error => 1
  | warn => 2
  | info => 3
  | debug => 4
  | trace => 5

/-- The name by which a level is asked for. -/
def name : Level → String
  | error => "error"
  | warn => "warn"
  | info => "info"
  | debug => "debug"
  | trace => "trace"

theorem eq_error_of_rank_le {l : Level} (h : l.rank ≤ 1) : l = error := by
  cases l with
  | error => rfl
  | _ => exact absurd h (by decide)

end Level

/-- Something that happens while a program runs. -/
inductive Event where
  | formatRegistered (name : String) (replaced : Bool)
  | schemaRegistered (name : String) (replaced : Bool)
  | schemaRefused (name : String) (errors : Nat)
  | fileRejected (path : String) (errors : Nat)
  | directoryWalked (dir : String) (loaded : Nat)
  | directoryLoaded (dir : String) (loaded rejected : Nat)
  | alternativeMatched (loc : String) (index : Nat)
  | alternativeFailed (loc : String) (index errors : Nat)
  deriving DecidableEq, Repr

namespace Event

/-- How important an event is. -/
def level : Event → Level
  | formatRegistered _ _ => .debug
  | schemaRegistered _ _ => .debug
  | schemaRefused _ _ => .debug
  | fileRejected _ _ => .warn
  | directoryWalked _ _ => .debug
  | directoryLoaded _ _ _ => .debug
  | alternativeMatched _ _ => .trace
  | alternativeFailed _ _ _ => .trace

/-- The part of the program that an event is from. -/
def target : Event → String
  | alternativeMatched _ _ => "familiar_validator::instance"
  | alternativeFailed _ _ _ => "familiar_validator::instance"
  | _ => "familiar_validator::validator"

/-- What has happened. -/
def message : Event → String
  | formatRegistered _ _ => "Registered format"
  | schemaRegistered _ _ => "Registered schema"
  | schemaRefused _ _ => "Schema registration rejected"
  | fileRejected _ _ => "Rejected malformed schema file"
  | directoryWalked _ _ => "Walked schema directory"
  | directoryLoaded _ _ _ => "Loaded schema directory"
  | alternativeMatched _ _ => "oneOf alternative matched"
  | alternativeFailed _ _ _ => "oneOf alternative failed"

/-- What it has happened to, as names with values. -/
def fields : Event → List (String × String)
  | formatRegistered name replaced => [("name", name), ("replaced", toString replaced)]
  | schemaRegistered name replaced => [("name", name), ("replaced", toString replaced)]
  | schemaRefused name errors => [("name", name), ("errors", toString errors)]
  | fileRejected path errors => [("path", path), ("errors", toString errors)]
  | directoryWalked dir loaded => [("dir", dir), ("loaded", toString loaded)]
  | directoryLoaded dir loaded rejected =>
    [("dir", dir), ("loaded", toString loaded), ("rejected", toString rejected)]
  | alternativeMatched loc index =>
    [("path", Text.quoted loc), ("alternative", toString index)]
  | alternativeFailed loc index errors =>
    [("path", Text.quoted loc), ("alternative", toString index), ("errors", toString errors)]

/-- Events tell of work, never of errors of the program. -/
theorem level_ne_error (e : Event) : e.level ≠ .error := by
  cases e <;> exact Level.noConfusion

end Event

/-- Which events are shown, given what is asked for, and the line about an event at a time.  Who
asks for nothing hears of errors at most, and who asks for a level, of it and of all that is more
important. -/
structure Listener where
  shows : Option String → Event → Bool
  line : String → Event → String
  unasked : ∀ e, shows none e = true → e.level = .error
  asked : ∀ (l : Level) e, shows (some l.name) e = decide (e.level.rank ≤ l.rank)

namespace Listener

variable (listener : Listener) (request : Option String) (clock : Nat → String)

/-- The lines about a run, with the time of each. -/
def lines (log : List Event) : List String :=
  (log.filter (listener.shows request)).mapIdx fun i e => listener.line (clock i) e

theorem shows_unasked (e : Event) : listener.shows none e = false :=
  Bool.eq_false_iff.2 fun h => e.level_ne_error (listener.unasked e h)

/-- Who asks for nothing hears nothing. -/
@[simp] theorem lines_unasked (log : List Event) : listener.lines none clock log = [] := by
  rw [lines, List.filter_eq_nil_iff.2 fun e _ => by simp [listener.shows_unasked e]]
  rfl

@[simp] theorem length_lines (log : List Event) :
    (listener.lines request clock log).length = log.countP (listener.shows request) := by
  rw [lines, List.length_mapIdx, List.countP_eq_length_filter]

/-- What happens besides goes unnoticed exactly if nothing of it is shown. -/
theorem lines_insert_iff (before more after : List Event) :
    listener.lines request clock (before ++ more ++ after) =
        listener.lines request clock (before ++ after) ↔
      ∀ e ∈ more, listener.shows request e = false := by
  constructor
  · intro h
    -- each event that is shown takes one line
    have hl := congrArg List.length h
    simp only [length_lines, List.countP_append] at hl
    have hz : more.countP (listener.shows request) = 0 := by omega
    exact fun e he => Bool.eq_false_iff.2 (List.countP_eq_zero.1 hz e he)
  · intro h
    have hn : more.filter (listener.shows request) = [] :=
      List.filter_eq_nil_iff.2 fun e he => Bool.eq_false_iff.1 (h e he)
    simp only [lines, List.filter_append, hn, List.append_nil]

end Listener

end ShapeCheck
