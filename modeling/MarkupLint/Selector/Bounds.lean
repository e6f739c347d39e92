import MarkupLint.Selector.Basic
import MarkupLint.Selector.Place

/-! # Bounds of inputs

An input of dates, times or numbers has a value and may have a least and a greatest one. All three
are read by the type of the input; what cannot be read counts as missing.
-/
namespace MarkupLint

namespace Bounds

inductive Kind where
  | date
  | month
  | week
  | time
  | moment
  | number
  deriving DecidableEq, Repr

def Kind.ofType? (type : String) : Option Kind :=
  [("date", date), ("month", month), ("week", week), ("time", time), ("datetime-local", moment),
    ("number", number), ("range", number)].lookup type

inductive Value where
  | units (parts : List Nat)
  | number (n : Float)

def Value.before : Value → Value → Bool
  | units a, units b => decide (a < b)
  | number a, number b => decide (a < b)
  | _, _ => false

def sign? (c : Char) : List Char → Option (List Char)
  | [] => none
  | d :: rest => if d = c then some rest else none

def pair? : List Char → Option (Nat × List Char)
  | a :: b :: rest =>
    if a.isDigit && b.isDigit then some (Text.digitsValue 10 [a, b], rest) else none
  | _ => none

def year? (cs : List Char) : Option (List Char × List Char) :=
  let digits := cs.takeWhile Char.isDigit
  if 4 ≤ digits.length then some (digits, cs.drop digits.length) else none

def yearMonth? (cs : List Char) : Option (List Char × Nat × List Char) := do
  let (year, rest) ← year? cs
  let (month, rest) ← pair? (← sign? '-' rest)
  return (year, month, rest)

def yearWeek? (cs : List Char) : Option (List Char × Nat × List Char) := do
  let (year, rest) ← year? cs
  let (week, rest) ← pair? (← sign? 'W' (← sign? '-' rest))
  return (year, week, rest)

def day? (cs : List Char) : Option (List Char × Nat × Nat × List Char) := do
  let (year, month, rest) ← yearMonth? cs
  let (day, rest) ← pair? (← sign? '-' rest)
  return (year, month, day, rest)

def clock? (cs : List Char) : Option (Nat × Nat × List Char) := do
  let (hour, rest) ← pair? cs
  let (minute, rest) ← pair? (← sign? ':' rest)
  return (hour, minute, rest)

def dayClock? (cs : List Char) : Option (List Char × Nat × Nat × Nat × Nat × List Char) := do
  let (year, month, day, rest) ← day? cs
  let (hour, minute, rest) ← clock? (← sign? 'T' rest)
  return (year, month, day, hour, minute, rest)

def decimal? (cs : List Char) : Option Float :=
  let negative := cs.head? == some '-'
  let rest := if negative then cs.tail else cs
  let whole := rest.takeWhile Char.isDigit
  let rest := rest.drop whole.length
  let make (fraction : List Char) : Option Float :=
    let n := Float.ofScientific (Text.digitsValue 10 (whole ++ fraction)) true fraction.length
    some (if negative then -n else n)
  match rest with
  | [] => if whole.isEmpty then none else make []
  | '.' :: fraction =>
    if !fraction.isEmpty && fraction.all Char.isDigit then make fraction else none
  | _ => none

def isLeap (year : Nat) : Bool := (year % 4 = 0 && year % 100 ≠ 0) || year % 400 = 0

def daysIn (year month : Nat) : Nat :=
  if month = 2 then (if isLeap year then 29 else 28)
  else if [4, 6, 9, 11].contains month then 30
  else 31

def isMonth (month : Nat) : Bool := 1 ≤ month && month ≤ 12

def isDay (year month day : Nat) : Bool :=
  1 ≤ year && isMonth month && 1 ≤ day && day ≤ daysIn year month

def isClock (hour minute : Nat) : Bool := hour ≤ 23 && minute ≤ 59

def lastWeekday (year : Nat) : Nat :=
  (365 * year + year / 4 - year / 100 + year / 400 + 6) % 7 + 1

def weeksIn (year : Nat) : Nat :=
  ((if isLeap year then 366 else 365) + 10 - lastWeekday year) / 7

/-- The weeks of a year, which must have four digits. -/
def checkedWeeksIn (year : Nat) : Except SearchFault Nat :=
  if year < 1000 then .error (.shortYear year)
  else if 9999 < year then .error (.longYear year)
  else .ok (weeksIn year)

def yearOf (digits : List Char) : Except SearchFault Nat :=
  (Text.numberOf digits).mapError .number

def unitsIf (ok : Bool) (parts : List Nat) : Option Value :=
  if ok then some (.units parts) else none

def read (kind : Kind) (text : String) : Except SearchFault (Option Value) :=
  let cs := Text.dropFinalNewline text.toList
  match kind with
  | .date =>
    match day? cs with
    | some (y, m, d, []) => (yearOf y).map fun y => unitsIf (isDay y m d) [y, m, d]
    | _ => .ok none
  | .month =>
    match yearMonth? cs with
    | some (y, m, []) => (yearOf y).map fun y => unitsIf (1 ≤ y && isMonth m) [y, m]
    | _ => .ok none
  | .week =>
    match yearWeek? cs with
    | some (y, w, []) => do
      let y ← yearOf y
      if y = 0 then return none
      let weeks ← checkedWeeksIn y
      return unitsIf (1 ≤ w && w ≤ weeks) [y, w]
    | _ => .ok none
  | .time =>
    match clock? cs with
    | some (h, m, []) => .ok (unitsIf (isClock h m) [h, m])
    | _ => .ok none
  | .moment =>
    match dayClock? cs with
    | some (y, m, d, h, i, []) =>
      (yearOf y).map fun y => unitsIf (isDay y m d && isClock h i) [y, m, d, h, i]
    | _ => .ok none
  | .number => .ok ((decimal? cs).map .number)

/-- Whether a value lies outside its bounds. The least time may come after the greatest one: the
times between them are outside then. -/
def isOutside (kind : Kind) (value : Value) (least greatest : Option Value) : Bool :=
  let below := least.any fun least => value.before least
  let above := greatest.any fun greatest => greatest.before value
  match kind, least, greatest with
  | .time, some least, some greatest =>
    if greatest.before least then below && above else below || above
  | _, _, _ => below || above

end Bounds

def Place.bound? (p : Place) (kind : Bounds.Kind) (attr : String) :
    Except SearchFault (Option Bounds.Value) :=
  match p.attribute? attr with
  | none => .ok none
  | some text => Bounds.read kind text

/-- Whether the value of an input lies inside its bounds, if it has some; a missing value does. -/
def Place.inBounds? (p : Place) : Except SearchFault (Option Bool) :=
  match p.attribute? "type" with
  | none => .error .untyped
  | some type =>
    match Bounds.Kind.ofType? (Text.lowerAscii type) with
    | none => .ok none
    | some kind => do
      let least ← p.bound? kind "min"
      let greatest ← p.bound? kind "max"
      if least.isNone && greatest.isNone then return none
      let value ← p.bound? kind "value"
      return some !value.any fun value => Bounds.isOutside kind value least greatest

end MarkupLint
