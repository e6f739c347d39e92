import MarkupLint.Markup.Token

/-! # The tokens of a markup text

The text is read in two passes. The first pass stops at a construct that the text ends inside,
or at a reference that cannot be read; the second pass goes on from there and reads such a
construct as text.
-/
namespace MarkupLint.Markup

open Source (Position)

structure Remainder where
  rest : List Char
  place : Position
  raw : Option String
  deriving DecidableEq, Repr

inductive Move where
  | go (tokens : List Token) (length : Nat) (raw : Option String)
  | stop (tokens : List Token) (length : Nat)
  | reject (error : MarkupError)
  deriving DecidableEq, Repr

/-- The number of a numeric reference after `&#`, and its length with the semicolon. A character
that is no hexadecimal digit must follow the number. -/
def numericReference? (cs : List Char) : Option (Except Text.LongNumber Nat × Nat) :=
  let decimal := cs.takeWhile Char.isDigit
  let hex := cs.tail.takeWhile Text.isHexDigit
  let ends (rest : List Char) : Bool := (rest.head?.map (!Text.isHexDigit ·)).getD false
  if !decimal.isEmpty && ends (cs.drop decimal.length) then
    some (Text.numberOf decimal,
      2 + decimal.length + Text.semicolonLength (cs.drop decimal.length))
  else if (cs.head? == some 'x' || cs.head? == some 'X') && !hex.isEmpty &&
      ends (cs.drop (1 + hex.length)) then
    some (.ok (Text.digitsValue 16 hex),
      3 + hex.length + Text.semicolonLength (cs.drop (1 + hex.length)))
  else none

def isReferenceNameChar (c : Char) : Bool :=
  c.isAlphanum || c == '-' || c == '.'

/-- The name of a reference after `&`. A character that is no letter or digit must follow it,
so at the end of the text the name stops before its last hyphen or point. -/
def referenceName? (cs : List Char) : Option (List Char) :=
  let name := cs.takeWhile isReferenceNameChar
  if !(name.head?.map Char.isAlpha).getD false then none
  else if name.length < cs.length then some name
  else
    let cut := ((name.reverse.dropWhile Char.isAlphanum).drop 1).reverse
    if cut.isEmpty then none else some cut

def namedText (name : List Char) : List Char :=
  (Text.referenceNamed? name).getD ('&' :: name)

def moveAtAmpersand (final : Bool) (cs : List Char) : Move :=
  match cs.tail with
  | [] => .stop [] 0
  | c :: rest =>
    if c == '#' then
      match numericReference? rest with
      | some (.ok n, length) => .go [.text (String.ofList [Text.numbered n])] length none
      | some (.error e, _) => .reject (.longNumber e)
      | none => if cs.contains ';' then .stop [.text "&#"] 2 else .stop [] 0
    else
      match referenceName? cs.tail with
      | some name =>
        .go [.text (String.ofList (namedText name))]
          (1 + name.length + Text.semicolonLength (cs.drop (1 + name.length))) none
      | none =>
        if c.isAlpha then .stop [] (if final && rest.isEmpty then 1 else 0)
        else .go [.text "&"] 1 none

/-- How much of a construct that the text ends inside is read as text: up to the next `>`, else
up to the next `<`, else one character. -/
def brokenLength (cs : List Char) : Nat :=
  match Text.indexOf (· == '>') cs.tail with
  | some n => n + 2
  | none =>
    match Text.indexOf (· == '<') cs.tail with
    | some n => n + 1
    | none => 1

def moveAtAngle (final : Bool) (raw : Option String) (place : Position) (cs : List Char) : Move :=
  match readAngle raw place cs with
  | .done tokens length raw => .go tokens length raw
  | .rejected error => .reject error
  | .incomplete =>
    if final then
      .go [.text (String.ofList (cs.take (brokenLength cs)))] (brokenLength cs) raw
    else .stop [] 0

def isMarkupStart (c : Char) : Bool := c == '&' || c == '<'

def moveAt (final : Bool) (raw : Option String) (place : Position) (cs : List Char) : Move :=
  match raw with
  | some element =>
    match Text.search (rawEnd? element) cs with
    | none => .stop [] 0
    | some (0, _) => moveAtAngle final raw place cs
    | some (n + 1, _) => .go [.text (String.ofList (cs.take (n + 1)))] (n + 1) raw
  | none =>
    match cs.head? with
    | some '<' => moveAtAngle final none place cs
    | some '&' => moveAtAmpersand final cs
    | _ =>
      let run := cs.takeWhile (!isMarkupStart ·)
      .go [.text (String.ofList run)] run.length none

def placeAfter (place : Position) (cs : List Char) : Position :=
  cs.foldl Position.after place

/-- One pass over the text. The first `skip` characters belong to tokens that have been
emitted. -/
def pass (final : Bool) (raw : Option String) (place : Position) (skip : Nat) :
    List Char → Except MarkupError (List Token × Remainder)
  | [] => .ok ([], ⟨[], place, raw⟩)
  | c :: cs =>
    match skip with
    | k + 1 => pass final raw (place.after c) k cs
    | 0 =>
      match moveAt final raw place (c :: cs) with
      | .reject error => .error error
      | .stop tokens length =>
        .ok (tokens, ⟨(c :: cs).drop length, placeAfter place ((c :: cs).take length), raw⟩)
      | .go tokens length raw =>
        (pass final raw (place.after c) (length - 1) cs).map fun r => (tokens ++ r.1, r.2)

/-- The tokens of a text. What the second pass leaves is text, except inside raw content, where
it is dropped. -/
def tokens (text : String) : Except MarkupError (List Token) := do
  let (first, left) ← pass false none Position.start 0 text.toList
  let (second, left) ← pass true left.raw left.place 0 left.rest
  let final := if left.raw.isSome || left.rest.isEmpty then []
    else [Token.text (String.ofList left.rest)]
  return first ++ second ++ final

end MarkupLint.Markup
