/-! # Source texts

A file is read as UTF-8, and every way to end a line becomes a line feed. A place in a text is a
line and a column, both counted from 1, or an offset counted from 0. Lines end with a line feed.
-/
namespace MarkupLint.Source

def unifyLines : List Char → List Char
  | [] => []
  | '\r' :: '\n' :: cs => '\n' :: unifyLines cs
  | '\r' :: cs => '\n' :: unifyLines cs
  | c :: cs => c :: unifyLines cs

def textOf? (bytes : ByteArray) : Option String :=
  (String.fromUTF8? bytes).map fun s => String.ofList (unifyLines s.toList)

structure Location where
  line : Int
  column : Int
  deriving DecidableEq, Repr

def Location.text (l : Location) : String :=
  toString l.line ++ ":" ++ toString l.column

/-- A place met while reading a text: the line counts from 1, the column from 0. -/
structure Position where
  line : Nat
  column : Nat
  deriving DecidableEq, Repr

def Position.start : Position := ⟨1, 0⟩

def Position.after (p : Position) (c : Char) : Position :=
  if c = '\n' then ⟨p.line + 1, 0⟩ else ⟨p.line, p.column + 1⟩

def lineStartsFrom (offset : Nat) : List Char → List Nat
  | [] => []
  | c :: cs =>
    if c = '\n' then (offset + 1) :: lineStartsFrom (offset + 1) cs
    else lineStartsFrom (offset + 1) cs

structure LineIndex where
  starts : List Nat
  length : Nat
  deriving DecidableEq, Repr

namespace LineIndex

def ofChars (cs : List Char) : LineIndex :=
  ⟨0 :: lineStartsFrom 0 cs, cs.length⟩

def ofText (text : String) : LineIndex :=
  ofChars text.toList

/-- The offset of a line, counted from 1, and a column, counted from 0; `none` if there is no
such line. The column may lie outside the line. -/
def offsetOf (index : LineIndex) (line column : Int) : Option Int :=
  if line < 1 then none
  else (index.starts[(line - 1).toNat]?).map fun start => (start : Int) + column

def locationOf (index : LineIndex) (offset : Int) : Option Location :=
  if offset < 0 ∨ (index.length : Int) < offset then none
  else
    let before := index.starts.takeWhile fun start => Int.ofNat start ≤ offset
    let start := before.getLast?.getD 0
    some ⟨before.length, offset - start + 1⟩

def describe (index : LineIndex) : String :=
  "LocationIndex(" ++ toString index.starts.length ++ " lines)"

end LineIndex

end MarkupLint.Source
