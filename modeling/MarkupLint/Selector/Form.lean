import MarkupLint.Selector.Basic
import MarkupLint.Selector.Place

/-! # States of form elements

What can be asked of an element of a form that depends on the form around it or on its text.
-/
namespace MarkupLint

open Document (Element)

namespace Place

def innerText (d : Document) (p : Place) : String :=
  String.join ((p.content d).gather fun
    | .text _ s => some s
    | _ => none)

def form? (p : Place) : Option Place := p.outerInFrame.find? (·.name = "form")

/-- The place whose radio buttons belong together with one here: the form, or else the outermost
place of the frame. -/
def group? (p : Place) : Option Place := p.form?.or p.outerInFrame.getLast?

def keyword (attr : String) (p : Place) : String := Text.lowerAscii ((p.attribute? attr).getD "")

def isSubmit (p : Place) : Bool :=
  (p.name = "input" || p.name = "button") && p.keyword "type" = "submit"

/-- Whether a place is the first button of its form that sends it. A form inside the form ends the
search. -/
def isDefaultButton (d : Document) (p : Place) : Bool :=
  match p.form? with
  | none => false
  | some form =>
    ((form.descendantsInFrame d).find? fun e =>
      (element e).name = "form" || (element e).isSubmit).any fun e =>
        (element e).name ≠ "form" && some e.index = p.number?

def isUndecided (d : Document) (p : Place) : Except SearchFault Bool :=
  match p.group? with
  | none => .error .ungrouped
  | some group =>
    .ok !(group.descendantsInFrame d).any fun e =>
      let q := element e
      q.number? ≠ p.number? && q.name = "input" && q.keyword "type" = "radio" &&
        q.attribute? "name" = p.attribute? "name" && (q.attribute? "checked").isSome &&
        q.group?.map number? = some group.number?

def isUnfilled (d : Document) (p : Place) : Bool :=
  p.innerText d = "" || p.innerText d = "\n"

/-- Whether the name of a place is no name that a page defines itself: such a name has a hyphen
and no colon. -/
def isDefined (p : Place) : Bool :=
  !p.name.toList.contains '-' || p.name.toList.contains ':'

end Place

end MarkupLint
