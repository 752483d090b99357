import MetricWatch.Text.CombiningClass
import MetricWatch.Text.Decomposition

/-!
Canonical composition: one spelling for each text. A text is taken apart, the marks that follow a
character are put in the order of their classes, and what can stand for several characters does.
-/

namespace MetricWatch.Text

/-- Puts a character behind a text that is given last character first. A mark goes before the marks
of higher classes. -/
def insertMark (c : Char) : List Char → List Char
  | [] => [c]
  | last :: before =>
    if combiningClass c ≠ 0 && combiningClass c < combiningClass last then
      last :: insertMark c before
    else c :: last :: before

/-- A text with its marks in order. -/
def orderMarks (cs : List Char) : List Char :=
  (cs.foldl (fun done c => insertMark c done) []).reverse

/-- A text that is taken apart. -/
def decompose (cs : List Char) : List Char := orderMarks (cs.flatMap decomposition)

/-- Whether something between a character and the mark `c` keeps the two apart; `between` is given
last character first. -/
def isBlocked (between : List Char) (c : Char) : Bool :=
  between.head?.any fun last => combiningClass c ≤ combiningClass last

/-- Puts a text together again. `base` is the character that may take in others, and `between`,
last character first, what follows it and was not taken in. -/
def composeFrom (base : Char) (between : List Char) : List Char → List Char
  | [] => base :: between.reverse
  | c :: rest =>
    match if isBlocked between c then none else composite? base c with
    | some whole => composeFrom whole between rest
    | none =>
      if combiningClass c = 0 then base :: (between.reverse ++ composeFrom c [] rest)
      else composeFrom base (c :: between) rest

/-- The composed spelling of a text. -/
def compose (cs : List Char) : List Char :=
  match decompose cs with
  | [] => []
  | c :: rest => composeFrom c [] rest

end MetricWatch.Text
