import ShapeCheck.Pattern.Outline
import ShapeCheck.Pattern.Ranges

/-!
# Plans of machines

A plan is an outline with all that says the same in a simpler way replaced.

* `Plan`: literals, sets, conditions, repetitions, groups, sequences and alternatives;
* `Plan.ofRanges`, `Plan.repeated`, `Plan.seqAll`, `Plan.altAll`: plans put together: characters one
  after the other are one literal, single characters as alternatives are a set, and sequences as
  alternatives have their common beginning once;
* `Plan.ofOutline`: the plan of an outline;
* `Plan.shortest?`, `Plan.isZeroWidth`, `Plan.requires`: whether a match takes characters, and the
  conditions that it begins or ends with.
-/

namespace ShapeCheck.Pattern

/-- The parts of a machine and how they are put together.  A literal is a list of code points. -/
inductive Plan where
  | empty
  | literal (codes : List Nat)
  | set (ranges : List CodeRange)
  | look (l : Look)
  | times (p : Plan) (least : Nat) (most : Option Nat) (greedy : Bool)
  | group (p : Plan)
  | seq (ps : List Plan)
  | alt (ps : List Plan)

namespace Plan

mutual

/-- Equality of plans; a group differs from every other group. -/
def same : Plan → Plan → Bool
  | empty, empty => true
  | literal cs, literal ds => cs == ds
  | set rs, set ss => rs == ss
  | look l, look m => l == m
  | times p least most greedy, times q least' most' greedy' =>
    same p q && least == least' && most == most' && greedy == greedy'
  | seq ps, seq qs => sameAll ps qs
  | alt ps, alt qs => sameAll ps qs
  | _, _ => false

/-- Equality of lists of plans. -/
def sameAll : List Plan → List Plan → Bool
  | [], [] => true
  | p :: ps, q :: qs => same p q && sameAll ps qs
  | _, _ => false

end

/-! ### What a match takes -/

mutual

/-- Whether the shortest match takes a character, if it is known that there is a match. -/
def shortest? : Plan → Option Bool
  | empty => some false
  | literal _ => some true
  | set rs => if rs.isEmpty then none else some true
  | look _ => some false
  | times p least _ _ => p.shortest?.map (· && least ≠ 0)
  | group p => p.shortest?
  | seq ps => shortestSeq? ps
  | alt ps => shortestAlt? ps

/-- Whether the shortest match of plans one after the other takes a character. -/
def shortestSeq? : List Plan → Option Bool
  | [] => some false
  | p :: ps => do some ((← p.shortest?) || (← shortestSeq? ps))

/-- Whether the shortest match of each of some plans takes a character. -/
def shortestAlt? : List Plan → Option Bool
  | [] => some true
  | p :: ps => do some ((← p.shortest?) && (← shortestAlt? ps))

end

mutual

/-- No match takes a character. -/
def isZeroWidth : Plan → Bool
  | empty => true
  | literal _ => false
  | set _ => false
  | look _ => true
  | times p _ _ _ => p.isZeroWidth
  | group p => p.isZeroWidth
  | seq ps => areZeroWidth ps
  | alt ps => areZeroWidth ps

/-- No match of any of some plans takes a character. -/
def areZeroWidth : List Plan → Bool
  | [] => true
  | p :: ps => p.isZeroWidth && areZeroWidth ps

end

mutual

/-- Every match begins, or ends if `fromEnd` is set, where a condition holds. -/
def requires (fromEnd : Bool) (l : Look) : Plan → Bool
  | look m => m == l
  | times p least _ _ => least ≠ 0 && p.requires fromEnd l
  | group p => p.requires fromEnd l
  | seq ps => if fromEnd then requiresLast l ps else requiresFirst l ps
  | alt ps => !ps.isEmpty && requiresEach fromEnd l ps
  | _ => false

/-- The condition stands in front of all characters of a sequence. -/
def requiresFirst (l : Look) : List Plan → Bool
  | [] => false
  | p :: ps => p.requires false l || (p.isZeroWidth && requiresFirst l ps)

/-- The condition stands behind all characters of a sequence. -/
def requiresLast (l : Look) : List Plan → Bool
  | [] => false
  | p :: ps => requiresLast l ps || (areZeroWidth ps && p.requires true l)

/-- Each alternative has the condition. -/
def requiresEach (fromEnd : Bool) (l : Look) : List Plan → Bool
  | [] => true
  | p :: ps => p.requires fromEnd l && requiresEach fromEnd l ps

end

/-! ### Putting plans together -/

/-- The plan of a set; a single character is a literal. -/
def ofRanges (rs : List CodeRange) : Plan :=
  match rs with
  | [r] => if r.first = r.last then literal [r.first] else set rs
  | rs => set rs

/-- A plan repeated.  What takes no character need not be repeated. -/
def repeated (p : Plan) (least : Nat) (most : Option Nat) (greedy : Bool) : Plan :=
  let (least, most) :=
    if p.isZeroWidth then (min least 1, some (min (most.getD 1) 1)) else (least, most)
  if most = some 0 then empty
  else if least = 1 ∧ most = some 1 then p
  else times p least most greedy

/-- The parts of a plan in a sequence. -/
def parts : Plan → List Plan
  | empty => []
  | seq ps => ps
  | p => [p]

/-- A plan in front of others; literals that meet are joined. -/
def consPart (p : Plan) (ps : List Plan) : List Plan :=
  match p, ps with
  | literal cs, literal ds :: rest => literal (cs ++ ds) :: rest
  | p, ps => p :: ps

/-- Plans one after the other. -/
def seqAll (ps : List Plan) : Plan :=
  match (ps.flatMap parts).foldr consPart [] with
  | [] => empty
  | [p] => p
  | ps => seq ps

/-- The choices of a plan. -/
def choices : Plan → List Plan
  | alt ps => ps
  | p => [p]

/-- The range of a plan of a single character. -/
def single? : Plan → Option CodeRange
  | literal [c] => some ⟨c, c⟩
  | _ => none

/-- The ranges of a plan of a set. -/
def set? : Plan → Option (List CodeRange)
  | set rs => some rs
  | _ => none

/-- Alternatives, with those that make up a set replaced by it. -/
def merged (ps : List Plan) : Plan :=
  match ps.flatMap choices with
  | [] => set []
  | [p] => p
  | ps =>
    match (ps.mapM single?).or ((ps.mapM set?).map List.flatten) with
    | some rs => ofRanges (CodeRange.normal rs)
    | none => alt ps

/-- The parts of a plan that is a sequence. -/
def sequence? : Plan → Option (List Plan)
  | seq ps => some ps
  | _ => none

/-- The number of parts that two sequences have in common at their start. -/
def commonLength : List Plan → List Plan → Nat
  | p :: ps, q :: qs => if same p q then commonLength ps qs + 1 else 0
  | _, _ => 0

/-- Plans as alternatives.  If all are sequences, their common beginning comes first. -/
def altAll (ps : List Plan) : Plan :=
  match merged ps with
  | alt ps =>
    match ps.mapM sequence? with
    | some (first :: rest) =>
      let n := rest.foldl (fun n other => min n (commonLength first other)) first.length
      if n = 0 then alt ps
      else seqAll (first.take n ++ [merged ((first :: rest).map fun ps => seqAll (ps.drop n))])
    | _ => alt ps
  | p => p

mutual

/-- The plan of an outline. -/
def ofOutline : Outline → Plan
  | .empty => empty
  | .set s => ofRanges s.ranges
  | .look l => look l
  | .times o least most greedy => (ofOutline o).repeated least most greedy
  | .group o => group (ofOutline o)
  | .seq os => seqAll (ofOutlines os)
  | .alt os => altAll (ofOutlines os)

/-- The plans of outlines. -/
def ofOutlines : List Outline → List Plan
  | [] => []
  | o :: os => ofOutline o :: ofOutlines os

end

end Plan

end ShapeCheck.Pattern
