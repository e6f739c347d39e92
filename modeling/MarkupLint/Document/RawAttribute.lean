import MarkupLint.Document.Basic

/-! # Attributes as they are written

The value of an attribute read from the start tag in the text of the document, with its blanks
as they are written. The tag is cut into attributes by simple rules of its own: quotes come in
pairs, and a name is any run of characters without blanks, quotes, equals signs, slashes and
closing brackets.
-/
namespace MarkupLint.Document

/-- The length of the attribute part of a start tag: all up to the first `>` outside quotes;
`none` if a quote has no partner or the text ends before. -/
def attributePart? : Option Char → List Char → Option Nat
  | _, [] => none
  | some q, c :: cs =>
    (attributePart? (if c = q then none else some q) cs).map (· + 1)
  | none, c :: cs =>
    if c = '>' then some 0
    else (attributePart? (if Markup.isQuote c then some c else none) cs).map (· + 1)

def isTagWordChar (c : Char) : Bool := !(c == '/' || c == '>' || Text.isBlank c)

/-- The attribute part of a start tag whose name has the greatest length up to `n` for which
there is one. -/
def attributesAfter? (cs : List Char) : Nat → Option (List Char)
  | 0 => none
  | n + 1 =>
    match attributePart? none (cs.drop (n + 1)) with
    | some length => some ((cs.drop (n + 1)).take length)
    | none => attributesAfter? cs n

def startTagAttributes? (cs : List Char) : Option (List Char) :=
  match cs with
  | '<' :: rest => attributesAfter? rest (rest.takeWhile isTagWordChar).length
  | _ => none

def isRawNameChar (c : Char) : Bool :=
  !(c == '=' || c == '/' || c == '>' || Markup.isQuote c || Text.isBlank c)

def isRawValueChar (c : Char) : Bool :=
  !(c == '>' || Markup.isQuote c || Text.isBlank c)

def rawValue? (cs : List Char) : Option (List Char × Nat) :=
  let blanks := (cs.takeWhile Text.isBlank).length
  match cs.drop blanks with
  | '=' :: rest =>
    let gap := (rest.takeWhile Text.isBlank).length
    let start := blanks + 1 + gap
    match Markup.quotedValue? (cs.drop start) with
    | some inner => some (inner, start + inner.length + 2)
    | none =>
      let bare := (cs.drop start).takeWhile isRawValueChar
      if bare.isEmpty then none else some (bare, start + bare.length)
  | _ => none

/-- The attributes of the attribute part of a start tag, in order; a name that stands alone has
the empty value. The first `skip` characters belong to an attribute that has been read. -/
def rawAttributes (skip : Nat) : List Char → List (List Char × List Char)
  | [] => []
  | c :: cs =>
    match skip with
    | k + 1 => rawAttributes k cs
    | 0 =>
      if isRawNameChar c then
        let name := c :: cs.takeWhile isRawNameChar
        match rawValue? ((c :: cs).drop name.length) with
        | some (value, n) => (name, value) :: rawAttributes (name.length + n - 1) cs
        | none => (name, []) :: rawAttributes (name.length - 1) cs
      else rawAttributes 0 cs

def rawAttributeIn? (attr : String) (part : List Char) :
    Except Text.LongNumber (Option String) :=
  ((rawAttributes 0 part).find? fun a => Text.lower (String.ofList a.1) = attr).mapM fun a =>
    Text.unescape (String.ofList a.2)

/-- The value of an attribute as it is written; as the tree has it if the text of the document
or a start tag in it is missing. -/
def rawAttribute? (d : Document) (e : Element) (attr : String) :
    Except Text.LongNumber (Option String) :=
  match d.source, d.startOf? e with
  | some text, some offset =>
    match startTagAttributes? (text.toList.drop offset.toNat) with
    | some part => rawAttributeIn? attr part
    | none => .ok (e.attribute? attr)
  | _, _ => .ok (e.attribute? attr)

end MarkupLint.Document
