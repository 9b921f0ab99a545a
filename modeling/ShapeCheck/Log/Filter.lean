import ShapeCheck.Format.Builtin
import ShapeCheck.Log.Event

/-!
# The standard listener

* `Directive`: how much is shown of what happens in a part of the program;
* `Directive.ofRequest`: the directives of a request, each of them `level`, `target` or
  `target=level`, with commas between them;
* `Directive.shown`: what they say of a part of the program, which is up to the most specific one;
* `Listener.standard`: a listener that shows what is asked for in this way.

Words of a request that are no directives are passed over, as are those on spans and fields, which
no event has.
-/

namespace ShapeCheck

/-- Of the parts of the program whose names start with a target, all is shown that is at least as
important as a limit. -/
structure Directive where
  target : List Char
  limit : Nat
  deriving DecidableEq, Repr

namespace Directive

/-- The words for limits; a number is as good as a name. -/
def limits : List (String × Nat) :=
  [("off", 0), ("error", 1), ("warn", 2), ("info", 3), ("debug", 4), ("trace", 5),
    ("0", 0), ("1", 1), ("2", 2), ("3", 3), ("4", 4), ("5", 5)]

/-- The limit that a word stands for in any case. -/
def limit? (word : List Char) : Option Nat :=
  limits.lookup (String.ofList (word.map Char.toLower))

/-- Whether a word can be a target. -/
def isTarget (word : List Char) : Bool :=
  !word.isEmpty && word.all fun c => c.isAlphanum || c = '_' || c = ':' || c = '-'

/-- A limit for everything, a target with all that happens there, or a target with a limit. -/
def ofWord? (word : List Char) : Option Directive :=
  match limit? word, Format.pieces '=' word with
  | some limit, _ => some ⟨[], limit⟩
  | none, [target] => if isTarget target then some ⟨target, 5⟩ else none
  | none, [target, []] => if isTarget target then some ⟨target, 5⟩ else none
  | none, [target, word] =>
    if isTarget target then (limit? word).map (Directive.mk target) else none
  | none, _ => none

/-- The directives of a request; where there are none, errors are shown. -/
def ofRequest (request : Option String) : List Directive :=
  match (Format.pieces ',' (request.getD "").toList).filterMap ofWord? with
  | [] => [⟨[], 1⟩]
  | ds => ds

/-- The more specific one of two directives, the later one if they are equally specific. -/
def better (d later : Directive) : Directive :=
  if d.target.length ≤ later.target.length then later else d

/-- How much directives show of a part of the program. -/
def shown (ds : List Directive) (target : List Char) : Nat :=
  ((ds.filter fun d => d.target.isPrefixOf target).foldl better ⟨[], 0⟩).limit

theorem ofRequest_none : ofRequest none = [⟨[], 1⟩] := by decide +kernel

/-- A level alone is a limit for everything. -/
theorem ofRequest_name (l : Level) : ofRequest (some l.name) = [⟨[], l.rank⟩] := by
  cases l <;> decide +kernel

theorem shown_everything (n : Nat) (target : List Char) : shown [⟨[], n⟩] target = n := rfl

/-- One part of the program can be asked for more than all others. -/
example :
    let ds := ofRequest (some "warn,familiar_validator::validator=Debug")
    shown ds "familiar_validator::validator".toList = Level.debug.rank ∧
      shown ds "familiar_validator::instance".toList = Level.warn.rank := by decide +kernel

end Directive

namespace Listener

/-- A text in a style, unless plain text is wanted. -/
def styled (plain : Bool) (style text : String) : String :=
  if plain then text else "\x1b[" ++ style ++ "m" ++ text ++ "\x1b[0m"

/-- The style of the name of a level. -/
def levelStyle : Level → String
  | .error => "31"
  | .warn => "33"
  | .info => "32"
  | .debug => "34"
  | .trace => "35"

/-- The name of a level as it stands in lines, where all names take the same room. -/
def label (l : Level) : String := "".pushn ' ' (5 - l.name.length) ++ l.name.toUpper

/-- The line about an event. -/
def describe (plain : Bool) (time : String) (e : Event) : String :=
  let fields := e.fields.map fun (name, value) =>
    " " ++ styled plain "3" name ++ styled plain "2" "=" ++ value
  styled plain "2" time ++ " " ++ styled plain (levelStyle e.level) (label e.level) ++ " " ++
    styled plain "2" e.target ++ styled plain "2" ":" ++ " " ++ e.message ++ String.join fields

/-- A listener that shows what is asked for by directives. -/
def standard (plain : Bool) : Listener where
  shows request e :=
    decide (e.level.rank ≤ Directive.shown (Directive.ofRequest request) e.target.toList)
  line := describe plain
  unasked e h := by
    rw [Directive.ofRequest_none, Directive.shown_everything, decide_eq_true_eq] at h
    exact Level.eq_error_of_rank_le h
  asked l e := by rw [Directive.ofRequest_name, Directive.shown_everything]

end Listener

end ShapeCheck
