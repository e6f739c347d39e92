import MarkupLint.Document.Content
import MarkupLint.Grid.ClassList
import MarkupLint.Text.Case

/-! # Elements

What can be asked of one element: its attributes and classes, its text, and the elements above
and below it. Two elements are the same if they have the same number.
-/
namespace MarkupLint.Document

def enclosing : List Node → List Element
  | [] => []
  | n :: outer => ⟨n, outer⟩ :: enclosing outer

namespace Element

def name (e : Element) : String := e.tag.name

def same (e f : Element) : Bool := e.index == f.index

def parent? (e : Element) : Option Element :=
  match e.ancestors with
  | [] => none
  | n :: outer => some ⟨n, outer⟩

def parents (e : Element) : List Element := enclosing e.ancestors

def children (e : Element) : List Element :=
  e.content.children (e.toNode :: e.ancestors) (e.index + 1)

def descendants (e : Element) : List Element :=
  e.content.elements (e.toNode :: e.ancestors) (e.index + 1)

/-- The value of an attribute, by its exact name. -/
def value? (e : Element) (attr : String) : Option Value :=
  e.tag.attributes.lookup attr

def attribute? (e : Element) (attr : String) : Option String :=
  (e.value? attr).map Value.join

def classes (e : Element) : List String :=
  match e.value? "class" with
  | none => []
  | some (.text s) => Text.words s
  | some (.words ws) => ws

def classText (e : Element) : String := Text.unwords e.classes

def hasClass (e : Element) (c : String) : Bool := e.classes.contains c

def isColumn (e : Element) : Bool := Grid.hasColumnClass e.classes

/-- The text that counts as the text of an element of a name. -/
def countedText (name : String) (d : Data) : Option String :=
  match TextKind.ofName? name, d with
  | some kind, .text k s => if k = kind then some s else none
  | none, .text .plain s => some s
  | none, .cdata s => some s
  | _, _ => none

def text (e : Element) : String :=
  Text.strip (String.join (e.content.gather (countedText e.name)))

end Element

end MarkupLint.Document
