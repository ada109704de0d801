import QueryRewriting.Decimal.Whole
import QueryRewriting.Text.Blank
import QueryRewriting.Text.Quoted

/-! # Minimum should match

How many of the optional clauses of a boolean query have to match. A threshold is a single
requirement such as `3`, `-2`, `75%` or `-25%`, or a chain of conditions such as `2<75% 9<-3`: up to
the first bound every optional clause is required, and past a bound its requirement applies until
the next bound takes over. -/

namespace QueryRewriting

open Decimal Text

/-- A requirement on a number of clauses. A negative one says how many may be missing. -/
inductive Requirement where
  | count (n : Int64)
  | percent (p : Int64)
  deriving DecidableEq, Repr

/-- A requirement that applies to more clauses than its bound. -/
structure Condition where
  bound : UInt32
  requirement : Requirement
  deriving DecidableEq, Repr

/-- What a threshold text says. -/
inductive ThresholdRule where
  | simple (requirement : Requirement)
  | chain (conditions : List Condition)
  deriving DecidableEq, Repr

/-- A threshold with its text, which has no blanks around it. -/
structure Threshold where
  text : String
  rule : ThresholdRule
  deriving DecidableEq, Repr

/-! ## Resolution -/

/-- The nearest integer of 64 bits. -/
def saturate64 (n : Int) : Int :=
  max (-9223372036854775808) (min n 9223372036854775807)

/-- The number of clauses required out of `count`. A percentage is cut toward zero. -/
def Requirement.resolve (requirement : Requirement) (count : Int) : Int :=
  match requirement with
  | .count n => max (if n < 0 then count + n.toInt else n.toInt) 0
  | .percent p =>
    let part := (saturate64 (count * p.toInt)).tdiv 100
    max (if p < 0 then count + part else part) 0

/-- The requirement of the last condition in force; `current` is what holds before them. -/
def resolveChain (count current : Int) : List Condition → Int
  | [] => current
  | condition :: rest =>
    if count ≤ condition.bound.toNat then current
    else resolveChain count (condition.requirement.resolve count) rest

/-- The number of clauses required out of `count`, before it is cut to size. -/
def ThresholdRule.resolve (rule : ThresholdRule) (count : Int) : Int :=
  match rule with
  | .simple requirement => requirement.resolve count
  | .chain conditions => resolveChain count count conditions

/-- The number of optional clauses that have to match: never more than there are. -/
def Threshold.resolve (threshold : Threshold) (optionalClauses : Nat) : UInt32 :=
  let count : Int := saturate64 optionalClauses
  let resolved := max 0 (min (threshold.rule.resolve count) count)
  UInt32.ofNat (min resolved.toNat 4294967295)

/-! ## Reading -/

/-- Why a text is no threshold. -/
inductive ThresholdFault where
  | empty
  | notARequirement
  | notACondition
  | badBound
  | badRequirement
  | notIncreasing
  deriving DecidableEq, Repr

/-- What is said of a text that is no threshold. -/
def ThresholdFault.message : ThresholdFault → String
  | .empty => "spec must be non-empty."
  | .notARequirement => "expected N, -N, P% or -P%."
  | .notACondition => "every condition must have the form N<spec."
  | .badBound => "condition bounds must be non-negative integers."
  | .badRequirement => "condition specs must be N, -N, P% or -P%."
  | .notIncreasing => "condition bounds must be strictly increasing."

/-- A text that was meant as a threshold, and why it is none. -/
structure ThresholdError where
  text : String
  fault : ThresholdFault
  deriving DecidableEq, Repr

/-- What is said of a text that is no threshold, with the text. -/
def ThresholdError.message (e : ThresholdError) : String :=
  s!"Invalid minimum_should_match {quoted e.text}: {e.fault.message}"

/-- A number, or a number with a percent sign behind it. -/
def readRequirement? (cs : List Char) : Option Requirement :=
  match cs.reverse with
  | '%' :: reversed => (readInt64? reversed.reverse).map .percent
  | _ => (readInt64? cs).map .count

/-- Drops the blanks on both sides of every `<`. `out` is what has been kept, backwards. -/
def tighten (out : List Char) : List Char → List Char
  | [] => out.reverse
  | c :: rest =>
    if c = '<' then tighten ('<' :: out.dropWhile isBlankChar) rest
    else if isBlankChar c && out.head? == some '<' then tighten out rest
    else tighten (c :: out) rest

/-- A bound and a requirement with `<` between them. -/
def readCondition (word : List Char) : Except ThresholdFault Condition :=
  match word.dropWhile (· != '<') with
  | [] => .error .notACondition
  | _ :: requirement =>
    match readUnsigned? 32 (word.takeWhile (· != '<')) with
    | none => .error .badBound
    | some bound =>
      match readRequirement? requirement with
      | none => .error .badRequirement
      | some requirement => .ok ⟨UInt32.ofNat bound, requirement⟩

/-- Conditions with increasing bounds; `last` is the bound before them. -/
def readConditions (last : Option UInt32) :
    List (List Char) → Except ThresholdFault (List Condition)
  | [] => .ok []
  | word :: rest => do
    let condition ← readCondition word
    if last.any (condition.bound ≤ ·) then .error .notIncreasing
    else return condition :: (← readConditions (some condition.bound) rest)

/-- Reads a chain of conditions if there is a `<`, and a single requirement if there is none. -/
def ThresholdRule.read (cs : List Char) : Except ThresholdFault ThresholdRule :=
  if cs.isEmpty then .error .empty
  else if cs.contains '<' then (readConditions none (words (tighten [] cs))).map .chain
  else
    match readRequirement? cs with
    | some requirement => .ok (.simple requirement)
    | none => .error .notARequirement

/-- Reads a threshold; blanks around it are dropped. -/
def Threshold.read (text : String) : Except ThresholdError Threshold :=
  let trimmed := trim text
  match ThresholdRule.read trimmed.toList with
  | .ok rule => .ok ⟨trimmed, rule⟩
  | .error fault => .error ⟨text, fault⟩

end QueryRewriting
