import MarkupLint.Text.Case
import MarkupLint.Text.Number

/-! # Selectors

A selector is a statement about an element and the elements around it. Lists, compounds and
combinators of the written form are disjunctions, conjunctions and statements about related
elements. A search that asks for the bounds of an input, for the group of a radio button or for a
place in a series may fail.
-/
namespace MarkupLint

inductive Relation where
  | descendant
  | child
  | adjacent
  | sibling
  deriving DecidableEq, Repr

inductive Comparison where
  | present
  /-- It is the text, or the text and a line feed. -/
  | equals
  | includes
  /-- It is the text, or the text and a hyphen begin it. -/
  | dashed
  | begins
  /-- The text ends it, a line feed aside. -/
  | ends
  | contains
  deriving DecidableEq, Repr

inductive Selector where
  | any
  | never
  | tag (name : String)
  | id (name : String)
  | cls (name : String)
  /-- An attribute compares with a text, letter case aside if `anyCase`. -/
  | attr (name : String) (how : Comparison) (value : String) (anyCase : Bool)
  | first
  | last
  | firstOfType
  | lastOfType
  | empty
  /-- It is the only thing of substance at the top. -/
  | root
  /-- It is the element that the search started from. -/
  | scope
  | both (s t : Selector)
  | either (s t : Selector)
  | not (s : Selector)
  | after (r : Relation) (s : Selector)
  | has (r : Relation) (s : Selector)
  deriving DecidableEq, Repr

namespace Selector

instance : AndOp Selector := ⟨both⟩

instance : OrOp Selector := ⟨either⟩

def anyOf : List Selector → Selector
  | [] => never
  | [s] => s
  | s :: rest => either s (anyOf rest)

def child (outer inner : Selector) : Selector := inner &&& after .child outer

def descendant (outer inner : Selector) : Selector := inner &&& after .descendant outer

def sibling (earlier later : Selector) : Selector := later &&& after .sibling earlier

def ignoresCase (name : String) : Bool := Text.lowerAscii name = "type"

def withAttr (name : String) : Selector := attr name .present "" false

def attrIs (name : String) (how : Comparison) (value : String) : Selector :=
  attr name how value (ignoresCase name)

end Selector

inductive SearchFault where
  | untyped
  /-- The group of a radio button is asked for that stands directly in a frame. -/
  | ungrouped
  | number (error : Text.LongNumber)
  | shortYear (year : Nat)
  | longYear (year : Nat)
  | longDistance
  deriving DecidableEq, Repr

def SearchFault.message? : SearchFault → Option String
  | untyped => none
  | ungrouped => none
  | number error => some error.message
  | shortYear year =>
    some ("time data '12-31-" ++ toString year ++ "' does not match format '%m-%d-%Y'")
  | longYear year =>
    some ("unconverted data remains: " ++ String.ofList ((toString year).toList.drop 4))
  | longDistance => some "integer division result too large for a float"

end MarkupLint
