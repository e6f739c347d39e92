import MarkupLint.Document.Basic

/-! # Places of a document

A place is an element or the document around all elements. The document counts as the outermost
parent: it has no attributes, and nothing stands beside it. What an inline frame holds is a
document of its own for the questions that say so.
-/
namespace MarkupLint

open Document (Element Content Data Tag)

/-- What a selector is tested on: an element, or the document around all elements. -/
inductive Place where
  | document
  | element (e : Element)
  deriving DecidableEq, Repr

namespace Place

/-- The value of an attribute of a tag as one text; the name is compared without regard to the
case of the letters `A` to `Z`. -/
def tagAttribute? (attr : String) (tag : Tag) : Option String :=
  (tag.attributes.find? fun a => Text.lowerAscii a.1 = Text.lowerAscii attr).map fun a => a.2.join

def name : Place → String
  | document => "[document]"
  | element e => Text.lowerAscii e.name

def attribute? (attr : String) : Place → Option String
  | document => none
  | element e => tagAttribute? attr e.tag

def classes : Place → List String
  | document => []
  | element e =>
    match e.tag.attributes.find? fun a => Text.lowerAscii a.1 = "class" with
    | none => []
    | some (_, .text s) => Text.spacedWords s
    | some (_, .words ws) => ws

def number? : Place → Option Nat
  | document => none
  | element e => some e.index

def firstInside : Place → Nat
  | document => 0
  | element e => e.index + 1

def outer : Place → List Place
  | document => []
  | element e => e.parents.map element ++ [document]

def content (d : Document) : Place → Content
  | document => d.content
  | element e => e.content

def children (d : Document) : Place → List Element
  | document => d.topElements
  | element e => e.children

def descendants (d : Document) : Place → List Element
  | document => d.elements
  | element e => e.descendants

def holder? : Place → Option Place
  | document => none
  | element e =>
    match e.parent? with
    | some p => some (element p)
    | none => some document

def siblings (d : Document) (p : Place) : List Element :=
  match p.holder? with
  | some h => h.children d
  | none => []

def earlier (d : Document) (p : Place) : List Element :=
  match p with
  | document => []
  | element e => (p.siblings d).filter fun f => f.index < e.index

def later (d : Document) (p : Place) : List Element :=
  match p with
  | document => []
  | element e => (p.siblings d).filter fun f => e.index < f.index

def isSpacelessText : Data → Bool
  | .text _ s => !s.toList.all Text.isSpace
  | _ => false

def isSubstance : Data → Bool
  | .text _ s => !Text.isBlankText s
  | .cdata _ => true
  | _ => false

def isFrame (p : Place) : Bool := p.name = "iframe"

def outerInFrame (p : Place) : List Place := p.outer.takeWhile fun q => !q.isFrame

def childrenInFrame (d : Document) (p : Place) : List Element :=
  if p.isFrame then [] else p.children d

def descendantsInFrame (d : Document) (p : Place) : List Element :=
  if p.isFrame then []
  else (p.descendants d).filter fun e =>
    e.parents.all fun f => f.index < p.firstInside || !(element f).isFrame

def isEmpty (d : Document) (p : Place) : Bool :=
  !(p.content d).hasElement && !(p.content d).topData.any isSpacelessText

/-- Whether a place is an element that stands alone at the top of a document or frame. -/
def isRoot (d : Document) (p : Place) : Bool :=
  match p.holder? with
  | none => false
  | some h =>
    (h = document || h.isFrame) && (h.children d).length = 1 &&
      !(h.content d).topData.any isSubstance

end Place

end MarkupLint
