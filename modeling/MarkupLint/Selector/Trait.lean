import MarkupLint.Selector.Direction
import MarkupLint.Selector.Form
import MarkupLint.Selector.Match

/-! # Traits

What a written selector asks of an element beyond its name, its attributes and its place in the
tree: its text, its direction, and its state in a form.
-/
namespace MarkupLint

open Document (Content)

/-- A test of the text of an element: one of several texts occurs in it, in the text directly in
it if `own`. -/
structure TextTest where
  own : Bool
  texts : List String
  deriving DecidableEq, Repr

inductive Trait where
  | defined
  | defaultButton
  | unfilled
  | direction (wanted : Text.Direction)
  | texts (tests : List TextTest)
  deriving DecidableEq, Repr

inductive TextView where
  | whole (text : String)
  | pieces (texts : List String)
  deriving DecidableEq, Repr

/-- Whether a text occurs in a view. The view is that of the first test of an element; a test of
the other sort looks at the single characters of a whole, or at whole pieces. -/
def TextView.finds (own : Bool) (text : String) : TextView → Bool
  | whole s =>
    if own then s.toList.any fun c => containsBy (· == ·) text.toList [c]
    else containsBy (· == ·) text.toList s.toList
  | pieces texts =>
    if own then texts.any fun s => containsBy (· == ·) text.toList s.toList
    else texts.contains text

def Document.Content.frameTexts : Content → List String
  | .nil => []
  | .data (.text _ s) rest => s :: rest.frameTexts
  | .data _ rest => rest.frameTexts
  | .element tag inner rest =>
    (if Text.lowerAscii tag.name = "iframe" then [] else inner.frameTexts) ++ rest.frameTexts

def Place.textView (d : Document) (own : Bool) (p : Place) : TextView :=
  if own then .pieces (if p.isFrame then [] else p.ownTexts d)
  else .whole (if p.isFrame then "" else String.join (p.content d).frameTexts)

def Trait.holds (d : Document) (p : Place) : Trait → Bool
  | defined => p.isDefined
  | defaultButton => p.isDefaultButton d
  | unfilled => p.isUnfilled d
  | direction wanted => p.direction? d = some wanted
  | texts [] => true
  | texts (first :: rest) =>
    let view := p.textView d first.own
    (first :: rest).all fun test => test.texts.any fun text => view.finds test.own text

end MarkupLint
