import MarkupLint.Selector.Basic
import MarkupLint.Selector.Place

/-! # Matching selectors

Which elements of a document a selector holds of.
-/
namespace MarkupLint

open Document (Element)

def equalBy (eq : Char → Char → Bool) : List Char → List Char → Bool
  | [], [] => true
  | p :: ps, t :: ts => eq p t && equalBy eq ps ts
  | _, _ => false

def beginsBy (eq : Char → Char → Bool) : List Char → List Char → Bool
  | [], _ => true
  | p :: ps, t :: ts => eq p t && beginsBy eq ps ts
  | _ :: _, [] => false

def containsBy (eq : Char → Char → Bool) (pattern : List Char) : List Char → Bool
  | [] => pattern.isEmpty
  | t :: ts => beginsBy eq pattern (t :: ts) || containsBy eq pattern ts

def endsBy (eq : Char → Char → Bool) (pattern text : List Char) : Bool :=
  equalBy eq pattern (text.drop (text.length - pattern.length))

/-- Whether an attribute value compares with a pattern. A pattern that is empty, or for words
one with white space, compares with nothing where a part of the value is sought. -/
def Comparison.test (how : Comparison) (anyCase : Bool) (pattern value : String) : Bool :=
  let eq : Char → Char → Bool := if anyCase then Text.sameLetter else (· == ·)
  let p := pattern.toList
  let v := value.toList
  match how with
  | present => true
  | equals => equalBy eq p v || equalBy eq p (Text.dropFinalNewline v)
  | includes =>
    !p.isEmpty && !p.any Text.isSpace && (Text.runs Text.isSpace v).any fun w => equalBy eq p w
  | dashed =>
    equalBy eq p v || equalBy eq p (Text.dropFinalNewline v) || beginsBy eq (p ++ ['-']) v
  | begins => !p.isEmpty && beginsBy eq p v
  | ends => !p.isEmpty && (endsBy eq p v || endsBy eq p (Text.dropFinalNewline v))
  | contains => !p.isEmpty && containsBy eq p v

namespace Selector

/-- Whether a selector holds of a place in a document, for a search that started from the
element of number `scope`. -/
def holds (d : Document) (scope : Nat) : Selector → Place → Bool
  | any, _ => true
  | never, _ => false
  | tag name, p => p.name = name
  | id name, p => (p.attribute? "id").getD "" = name
  | cls name, p => p.classes.contains name
  | attr name how value anyCase, p =>
    match p.attribute? name with
    | some v => how.test anyCase value v
    | none => false
  | first, p => (p.earlier d).isEmpty
  | last, p => (p.later d).isEmpty
  | firstOfType, p => !(p.earlier d).any fun f => (Place.element f).name = p.name
  | lastOfType, p => !(p.later d).any fun f => (Place.element f).name = p.name
  | empty, p => p.isEmpty d
  | root, p => p.isRoot d
  | .scope, .element e => e.index = scope
  | .scope, .document => false
  | both s t, p => s.holds d scope p && t.holds d scope p
  | either s t, p => s.holds d scope p || t.holds d scope p
  | not s, p => !s.holds d scope p
  | after .descendant s, p => p.outer.any fun q => s.holds d scope q
  | after .child s, p => p.holder?.any fun q => s.holds d scope q
  | after .sibling s, p => (p.earlier d).any fun f => s.holds d scope (.element f)
  | after .adjacent s, p => (p.earlier d).getLast?.any fun f => s.holds d scope (.element f)
  | has .descendant s, p => (p.descendants d).any fun f => s.holds d scope (.element f)
  | has .child s, p => (p.children d).any fun f => s.holds d scope (.element f)
  | has .sibling s, p => (p.later d).any fun f => s.holds d scope (.element f)
  | has .adjacent s, p => (p.later d).head?.any fun f => s.holds d scope (.element f)

def accepts (s : Selector) (d : Document) (e : Element) : Bool :=
  s.holds d e.index (.element e)

end Selector

namespace Document

def select (d : Document) (s : Selector) : List Element :=
  d.elements.filter fun e => s.holds d 0 (.element e)

def selectUnder (d : Document) (s : Selector) (base : Element) : List Element :=
  base.descendants.filter fun e => s.holds d base.index (.element e)

def selectChildren (d : Document) (s : Selector) (e : Element) : List Element :=
  e.children.filter fun c => s.accepts d c

def closest? (d : Document) (s : Selector) (e : Element) : Option Element :=
  (e :: e.parents).find? fun f => s.accepts d f

def countAround (d : Document) (s : Selector) (e : Element) : Nat :=
  e.parents.countP fun f => s.accepts d f

def countFrom (d : Document) (s : Selector) (e : Element) : Nat :=
  (e :: e.parents).countP fun f => s.accepts d f

end Document

end MarkupLint
