import MarkupLint.Text.Number
import MarkupLint.Text.Basic

/-! # Values written as data

Some settings are written as data in square brackets, braces and quotes. Only the shape of such
a value matters: nothing, a text, a list of texts, or something else.
-/
namespace MarkupLint.Settings

inductive Shape where
  | null
  | text (s : String)
  | texts (items : List String)
  | other
  deriving DecidableEq, Repr

def Shape.ofList : List Shape → Shape
  | [] => texts []
  | .text s :: rest =>
    match ofList rest with
    | texts items => texts (s :: items)
    | _ => other
  | _ :: _ => other

inductive Lexeme where
  | openList
  | closeList
  | openRecord
  | closeRecord
  | comma
  | colon
  | quoted (shape : Shape)
  | plain (shape : Shape)
  | unknown
  deriving DecidableEq, Repr

def isBlank (c : Char) : Bool := c == ' ' || c == '\t' || c == '\n' || c == '\r'

def escaped? (c : Char) : Option Char :=
  [('"', '"'), ('\\', '\\'), ('/', '/'), ('b', '\x08'), ('f', '\x0c'), ('n', '\n'), ('r', '\r'),
    ('t', '\t')].lookup c

def unit? (cs : List Char) : Option Nat :=
  let digits := (cs.take 4).takeWhile Text.isHexDigit
  if digits.length = 4 then some (Text.digitsValue 16 digits) else none

def lowSurrogate? (cs : List Char) : Option Nat :=
  if Text.startsWith "\\u" cs then
    (unit? (cs.drop 2)).filter fun n => 0xDC00 ≤ n && n ≤ 0xDFFF
  else none

/-- A piece of a quoted text: a character or half a pair of surrogates, which is no character. -/
abbrev Piece := Option Char

/-- Reads the inside of a quoted text up to its closing quote: the pieces and the length with
the quote. The first `skip` characters belong to an escape that has been read. -/
def pieces? (skip : Nat) : List Char → Option (List Piece × Nat)
  | [] => none
  | c :: cs =>
    let more (piece : Option Piece) (k : Nat) : Option (List Piece × Nat) :=
      (pieces? k cs).map fun r => (piece.toList ++ r.1, r.2 + 1)
    match skip with
    | k + 1 => more none k
    | 0 =>
      if c = '"' then some ([], 1)
      else if c.toNat < 0x20 then none
      else if c = '\\' then
        match cs with
        | 'u' :: rest =>
          match unit? rest with
          | none => none
          | some n =>
            if 0xD800 ≤ n && n ≤ 0xDBFF then
              match lowSurrogate? (rest.drop 4) with
              | some m =>
                more (some (some (Char.ofNat (0x10000 + (n - 0xD800) * 0x400 + (m - 0xDC00))))) 11
              | none => more (some none) 5
            else if 0xDC00 ≤ n && n ≤ 0xDFFF then more (some none) 5
            else more (some (some (Char.ofNat n))) 5
        | d :: _ =>
          match escaped? d with
          | some e => more (some (some e)) 1
          | none => none
        | [] => none
      else more (some (some c)) 0

def shapeOfPieces (pieces : List Piece) : Shape :=
  match pieces.mapM id with
  | some cs => .text (String.ofList cs)
  | none => .other

def wholeLength? (cs : List Char) : Option Nat :=
  match cs with
  | '0' :: _ => some 1
  | _ =>
    let digits := cs.takeWhile Char.isDigit
    if digits.isEmpty then none else some digits.length

def fractionLength (cs : List Char) : Nat :=
  match cs with
  | '.' :: rest =>
    let digits := rest.takeWhile Char.isDigit
    if digits.isEmpty then 0 else digits.length + 1
  | _ => 0

def exponentLength (cs : List Char) : Nat :=
  match cs with
  | e :: rest =>
    if e == 'e' || e == 'E' then
      let sign := if rest.head? == some '+' || rest.head? == some '-' then 1 else 0
      let digits := (rest.drop sign).takeWhile Char.isDigit
      if digits.isEmpty then 0 else 1 + sign + digits.length
    else 0
  | [] => 0

def numberLength? (cs : List Char) : Option Nat :=
  let sign := if cs.head? == some '-' then 1 else 0
  match wholeLength? (cs.drop sign) with
  | none => none
  | some n =>
    let fraction := fractionLength (cs.drop (sign + n))
    let exponent := exponentLength (cs.drop (sign + n + fraction))
    if fraction + exponent = 0 && Text.digitLimit < n then none
    else some (sign + n + fraction + exponent)

def wordShapes : List (String × Shape) :=
  [("null", .null), ("true", .other), ("false", .other), ("NaN", .other), ("Infinity", .other),
    ("-Infinity", .other)]

def plain? (cs : List Char) : Option (Lexeme × Nat) :=
  match wordShapes.find? fun w => Text.startsWith w.1 cs with
  | some w => some (.plain w.2, w.1.length)
  | none => (numberLength? cs).map fun n => (.plain .other, n)

def lexeme? (cs : List Char) : Option (Lexeme × Nat) :=
  match cs with
  | '[' :: _ => some (.openList, 1)
  | ']' :: _ => some (.closeList, 1)
  | '\x7b' :: _ => some (.openRecord, 1)
  | '\x7d' :: _ => some (.closeRecord, 1)
  | ',' :: _ => some (.comma, 1)
  | ':' :: _ => some (.colon, 1)
  | '"' :: rest => (pieces? 0 rest).map fun r => (.quoted (shapeOfPieces r.1), r.2 + 1)
  | _ => plain? cs

/-- The lexemes of written data, as far as they can be read. The first `skip` characters belong
to a lexeme that has been read. -/
def lexemesFrom (skip : Nat) : List Char → List Lexeme
  | [] => []
  | c :: cs =>
    match skip with
    | k + 1 => lexemesFrom k cs
    | 0 =>
      if isBlank c then lexemesFrom 0 cs
      else
        match lexeme? (c :: cs) with
        | some (l, n) => l :: lexemesFrom (n - 1) cs
        | none => [.unknown]

inductive Open where
  | list (items : List Shape)
  | record
  deriving DecidableEq, Repr

inductive Expect where
  | value
  | valueOrClose
  | key
  | keyOrClose
  | colon
  /-- A comma, or the end of the list or record; at the outside, the end of all. -/
  | after
  deriving DecidableEq, Repr

structure Reading where
  stack : List Open
  expect : Expect
  result : Shape
  deriving DecidableEq, Repr

def Reading.put (r : Reading) (shape : Shape) : Reading :=
  match r.stack with
  | [] => ⟨[], .after, shape⟩
  | .list items :: outer => ⟨.list (shape :: items) :: outer, .after, r.result⟩
  | .record :: outer => ⟨.record :: outer, .after, r.result⟩

def Reading.step? (r : Reading) (l : Lexeme) : Option Reading :=
  let wantsValue := r.expect = .value || r.expect = .valueOrClose
  match l, r.stack with
  | .openList, _ =>
    if wantsValue then some { r with stack := .list [] :: r.stack, expect := .valueOrClose }
    else none
  | .openRecord, _ =>
    if wantsValue then some { r with stack := .record :: r.stack, expect := .keyOrClose } else none
  | .closeList, .list items :: outer =>
    if r.expect = .valueOrClose || r.expect = .after then
      some ({ r with stack := outer }.put (Shape.ofList items.reverse))
    else none
  | .closeRecord, .record :: outer =>
    if r.expect = .keyOrClose || r.expect = .after then some ({ r with stack := outer }.put .other)
    else none
  | .comma, .list _ :: _ => if r.expect = .after then some { r with expect := .value } else none
  | .comma, .record :: _ => if r.expect = .after then some { r with expect := .key } else none
  | .colon, .record :: _ => if r.expect = .colon then some { r with expect := .value } else none
  | .quoted shape, _ =>
    if wantsValue then some (r.put shape)
    else if r.expect = .key || r.expect = .keyOrClose then some { r with expect := .colon }
    else none
  | .plain shape, _ => if wantsValue then some (r.put shape) else none
  | _, _ => none

def Shape.parse? (text : String) : Option Shape :=
  ((lexemesFrom 0 text.toList).foldlM Reading.step? ⟨[], .value, .other⟩).bind fun r =>
    if r.stack.isEmpty && r.expect = .after then some r.result else none

end MarkupLint.Settings
