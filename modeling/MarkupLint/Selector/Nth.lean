import MarkupLint.Selector.Basic

/-! # Places in a series

The places `step * n + offset`, for `n` from 0 on, among the siblings of an element. Places are
counted from 1. The number of steps to a place is a quotient, rounded to a binary number of 53
digits; a quotient halfway between two such numbers is rounded to the one whose last digit is even.
Only what is asked of a rounded quotient is computed: whether it is too large, whether it is zero
and whether it is whole.
-/
namespace MarkupLint

structure Ratio where
  dividend : Nat
  divisor : Nat
  deriving DecidableEq, Repr

namespace Ratio

def digits : Nat := 53

def places : Nat := 1074

/-- Whether a quotient is too large to be rounded: it is at least as near to `2 ^ 1024` as to the
number of 53 digits before it. -/
def isTooLarge (r : Ratio) : Bool :=
  (Nat.pow 2 1024 - Nat.pow 2 970) * r.divisor ≤ r.dividend

/-- Whether a part of the divisor is rounded away if the last digit stands at the given place after
the point. -/
def vanishes (r : Ratio) (place part : Nat) : Bool :=
  Nat.pow 2 (place + 1) * part ≤ r.divisor

def isZero (r : Ratio) : Bool := r.vanishes places r.dividend

/-- Whether a quotient is rounded to a whole number: what is left over is rounded away, or what is
missing to the next whole number is. -/
def isWhole (r : Ratio) : Bool :=
  let whole := r.dividend / r.divisor
  let left := r.dividend % r.divisor
  if left = 0 then true
  else if whole = 0 then r.isZero || r.vanishes digits (r.divisor - left)
  else
    let length := whole.log2 + 1
    digits ≤ length || r.vanishes (digits - length) left ||
      r.vanishes (digits - length) (r.divisor - left)

end Ratio

structure Nth where
  step : Int
  offset : Int
  ofType : Bool
  fromEnd : Bool
  deriving DecidableEq, Repr

namespace Nth

/-- Whether the series reaches a place: the number of steps to it is whole and not negative. The
number of steps is rounded, so that a series with a very large step or offset reaches places
between its own. -/
def reaches (n : Nth) (place : Nat) : Except SearchFault Bool :=
  let distance := place - n.offset
  let steps : Ratio := ⟨distance.natAbs, n.step.natAbs⟩
  if n.step = 0 then .ok (distance = 0)
  else if steps.isTooLarge then .error .longDistance
  else .ok (steps.isWhole && (steps.isZero || distance.sign = n.step.sign))

end Nth

end MarkupLint
