import MarkupLint.Grid.Breakpoint
import MarkupLint.Text.Basic

/-! # Grid column classes

A column class such as `col-md-6` gives the width that a column has from a breakpoint on.
There are seventy of them: at each tier a bare one, an automatic one and the widths 1 to 12.
-/
namespace MarkupLint.Grid

inductive Width where
  | equal
  | auto
  | span (count : Nat)
  deriving DecidableEq, Repr

def Width.text? : Width → Option String
  | .equal => none
  | .auto => some "auto"
  | .span n => some (toString n)

def columnCount : Nat := 12

def Width.all : List Width :=
  .equal :: .auto :: (List.range columnCount).map fun n => .span (n + 1)

def hyphened (part : String) : String :=
  if part.isEmpty then "" else "-" ++ part

def className (b : Breakpoint) (w : Width) : String :=
  "col" ++ hyphened b.label ++ hyphened (w.text?.getD "")

def declarations : List (Breakpoint × Width) :=
  Breakpoint.all.flatMap fun b => Width.all.map fun w => (b, w)

def classNames : List String :=
  declarations.map fun d => className d.1 d.2

def isColumnClass (token : String) : Bool :=
  classNames.contains token

def hasColumnClass (tokens : List String) : Bool :=
  tokens.any isColumnClass

structure Column where
  token : String
  breakpoint : Breakpoint
  width : Width
  deriving DecidableEq, Repr

def Column.rank (c : Column) : Nat := c.breakpoint.rank

def readTier : List Char → Option (Breakpoint × List Char)
  | '-' :: 's' :: 'm' :: rest => some (.sm, rest)
  | '-' :: 'm' :: 'd' :: rest => some (.md, rest)
  | '-' :: 'l' :: 'g' :: rest => some (.lg, rest)
  | '-' :: 'x' :: 'l' :: rest => some (.xl, rest)
  | _ => none

def readNamedWidth (name : List Char) : Option Width :=
  if name = ['a', 'u', 't', 'o'] then some .auto
  else
    match name with
    | [c] => if '1' ≤ c ∧ c ≤ '9' then some (.span (c.toNat - '0'.toNat)) else none
    | [ten, c] =>
      if ten = '1' ∧ '0' ≤ c ∧ c ≤ '2' then some (.span (10 + (c.toNat - '0'.toNat))) else none
    | _ => none

def readWidth : List Char → Option Width
  | [] => some .equal
  | c :: name => if c = '-' then readNamedWidth name else none

/-- The tier and width that follow `col`. If a tier does not lead to the end, a width alone is
tried. -/
def readParts (parts : List Char) : Option (Breakpoint × Width) :=
  ((readTier parts).bind fun t => (readWidth t.2).map fun w => (t.1, w)).or
    ((readWidth parts).map fun w => (.none, w))

/-- Reads a column class; one line feed after it is tolerated. -/
def Column.parse? (token : String) : Option Column :=
  match Text.dropFinalNewline token.toList with
  | 'c' :: 'o' :: 'l' :: parts => (readParts parts).map fun p => ⟨token, p.1, p.2⟩
  | _ => none

end MarkupLint.Grid
