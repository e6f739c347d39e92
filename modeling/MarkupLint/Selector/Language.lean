import MarkupLint.Selector.Place

/-! # Languages

A language tag is a list of parts with hyphens between them. A range of languages names the first
part and further parts that must follow in order; a star stands for any part.
-/
namespace MarkupLint

namespace Language

def parts (s : String) : List String :=
  (Text.splitAt (· == '-') (Text.lower s).toList).map String.ofList

/-- The parts of a range. A star after the first part is left out; at the end it leaves an empty
part. -/
def rangeParts (range : String) : List String :=
  match parts range with
  | [] => []
  | first :: rest =>
    first :: rest.filter (· ≠ "*") ++ (if rest.getLast? = some "*" then [""] else [])

/-- Whether the further parts of a range follow in order among those of a tag. A part of one
letter is not passed over, and an empty part of a range follows nowhere. -/
def follow : List String → List String → Bool
  | [], _ => true
  | _ :: _, [] => false
  | r :: rs, s :: ss =>
    if r.isEmpty then false
    else if s = r then follow rs ss
    else if s.length = 1 then false
    else follow (r :: rs) ss

/-- Whether a language tag is in a range. The empty range holds the empty tag only, and the star
holds every other one. -/
def inRange (range tag : String) : Bool :=
  match rangeParts range, parts tag with
  | r :: rs, s :: ss =>
    if r = "*" then !(ss.isEmpty && s.isEmpty) && follow rs ss
    else r = s && follow rs ss
  | _, _ => false

end Language

namespace Place

/-- The language that a place or one around it declares; an empty one counts only if there is no
other. -/
def language? (p : Place) : Option String :=
  let declared := (p :: p.outerInFrame).filterMap (attribute? "lang")
  (declared.find? (!·.isEmpty)).or declared.head?

def top (p : Place) : Place := p.outerInFrame.getLast?.getD p

def declaredLanguage? (e : Document.Element) : Option String :=
  let p := element e
  match p.attribute? "http-equiv", p.attribute? "content" with
  | some kind, some content =>
    if p.name = "meta" && Text.lowerAscii kind = "content-language" && !content.isEmpty then
      some content
    else none
  | _, _ => none

def head? (d : Document) (p : Place) : Option Place := do
  let html ← (p.childrenInFrame d).find? fun e => (element e).name = "html"
  let head ← ((element html).childrenInFrame d).find? fun e => (element e).name = "head"
  return element head

def headLanguage? (d : Document) (head : Place) : Option String :=
  (head.children d).findSome? declaredLanguage?

end Place

end MarkupLint
