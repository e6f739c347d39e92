import MarkupLint.Document.Basic
import MarkupLint.Rule.Id

/-! # Problems

What a lint pass delivers: a finding of a rule with the elements that it is about and where
they stand.
-/
namespace MarkupLint

open Document (Element)
open Source (Location)

structure ElementRef where
  element : Element
  location : Option Location
  deriving DecidableEq, Repr

namespace ElementRef

def name (r : ElementRef) : String := r.element.name

def same (r s : ElementRef) : Bool := r.element.same s.element

def withLocation (r : ElementRef) (location : Option Location) : ElementRef :=
  { r with location := location }

/-- References to elements, each element once, in the order of first occurrence. -/
def ofElements (elements : List Element) : List ElementRef :=
  (elements.eraseDupsBy Element.same).map fun e => ⟨e, none⟩

end ElementRef

structure Problem where
  id : String
  severity : Severity
  message : String
  url : String
  elements : List ElementRef
  deriving DecidableEq, Repr

namespace Problem

def isError (p : Problem) : Bool := p.severity = .error

def isWarning (p : Problem) : Bool := p.severity = .warning

def locations (p : Problem) : List Location := p.elements.filterMap ElementRef.location

def withElements (p : Problem) (elements : List ElementRef) : Problem :=
  { p with elements := elements }

def locate (d : Document) (p : Problem) : Problem :=
  p.withElements (p.elements.map fun r => r.withLocation (d.locationOf? r.element))

def describe (p : Problem) : String :=
  let places := ", ".intercalate (p.locations.map Location.text)
  let front := if places.isEmpty then p.id else p.id ++ " (" ++ places ++ ")"
  front ++ " " ++ p.message ++ " Documentation: " ++ p.url

end Problem

end MarkupLint
