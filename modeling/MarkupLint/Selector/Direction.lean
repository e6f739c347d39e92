import MarkupLint.Selector.Place
import MarkupLint.Text.Direction

/-! # Direction of elements

An element is written in the direction that it declares, or that its text has if it asks for
that, or else in that of the element around it.
-/
namespace MarkupLint

open Document (Content Tag)
open Text (Direction)

inductive DirectionMark where
  | fixed (direction : Direction)
  | fromText
  deriving DecidableEq, Repr

def DirectionMark.parse? (value : String) : Option DirectionMark :=
  let word := Text.lowerAscii value
  if word = "ltr" then some (fixed .leftToRight)
  else if word = "rtl" then some (fixed .rightToLeft)
  else if word = "auto" then some fromText
  else none

def undirectedNames : List String := ["bdi", "script", "style", "textarea", "iframe"]

def lendsDirection (tag : Tag) : Bool :=
  !undirectedNames.contains (Text.lowerAscii tag.name) &&
    ((Place.tagAttribute? "dir" tag).bind DirectionMark.parse?).isNone

def Document.Content.direction? : Content → Option Direction
  | .nil => none
  | .data (.text _ s) rest => (Text.direction? s).or rest.direction?
  | .data _ rest => rest.direction?
  | .element tag inner rest =>
    (if lendsDirection tag then inner.direction? else none).or rest.direction?

namespace Place

def ownTexts (d : Document) (p : Place) : List String :=
  (p.content d).topData.filterMap fun
    | .text _ s => some s
    | _ => none

def isFirstOfFrame (p : Place) : Bool :=
  p.number? = some 0 || p.holder?.any isFrame

def textInputTypes : List String := ["text", "search", "tel", "url", "email"]

def enteredText? (d : Document) (p : Place) : Option String :=
  let type := Text.lowerAscii ((p.attribute? "type").getD "")
  if p.name = "textarea" then some (String.join (p.ownTexts d))
  else if p.name = "input" && textInputTypes.contains type then
    some ((p.attribute? "value").getD "")
  else none

def ownDirection? (d : Document) (p : Place) : Option Direction :=
  let assumed := if p.isFirstOfFrame then some Direction.leftToRight else none
  match (p.attribute? "dir").bind DirectionMark.parse? with
  | some (.fixed direction) => some direction
  | some .fromText =>
    match p.enteredText? d with
    | some s => if s.isEmpty then assumed else some ((Text.direction? s).getD .leftToRight)
    | none => (p.content d).direction?.or assumed
  | none =>
    if p.isFirstOfFrame then assumed
    else if p.name = "input" && Text.lowerAscii ((p.attribute? "type").getD "") = "tel" then
      some .leftToRight
    else if p.name = "bdi" then (p.content d).direction?
    else none

/-- The direction of a place: its own or that of the nearest place around it in its frame. -/
def direction? (d : Document) (p : Place) : Option Direction :=
  (p :: p.outerInFrame).findSome? (ownDirection? d)

end Place

end MarkupLint
