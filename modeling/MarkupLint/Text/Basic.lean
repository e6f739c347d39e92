/-! # Words and places in a text

Text is cut into words at blank characters. `isBlank` is the wide class that document text and
attribute values use; `isSpace` is the narrow class of style sheets. A recogniser looks at the text
from one place on and gives the length of what it accepts there.
-/
namespace MarkupLint.Text

/-- Whether a character is blank: the controls that move the carriage, the four information
separators, and the spaces of every script. -/
def isBlank (c : Char) : Bool :=
  let n := c.toNat
  (9 ≤ n && n ≤ 13) || (28 ≤ n && n ≤ 32) || n == 0x85 || n == 0xA0 || n == 0x1680 ||
  (0x2000 ≤ n && n ≤ 0x200A) || n == 0x2028 || n == 0x2029 || n == 0x202F || n == 0x205F ||
  n == 0x3000

def isSpace (c : Char) : Bool :=
  c == ' ' || c == '\t' || c == '\n' || c == '\r' || c == '\x0c'

def runs (sep : Char → Bool) : List Char → List (List Char)
  | [] => []
  | c :: cs =>
    if sep c then runs sep cs
    else
      match cs with
      | [] => [[c]]
      | d :: _ =>
        if sep d then [c] :: runs sep cs
        else
          match runs sep cs with
          | [] => [[c]]
          | w :: ws => (c :: w) :: ws

def words (s : String) : List String :=
  (runs isBlank s.toList).map String.ofList

def spacedWords (s : String) : List String :=
  (runs isSpace s.toList).map String.ofList

def unwords (ws : List String) : String :=
  " ".intercalate ws

def stripList (p : Char → Bool) (cs : List Char) : List Char :=
  ((cs.dropWhile p).reverse.dropWhile p).reverse

def strip (s : String) : String :=
  String.ofList (stripList isBlank s.toList)

def isBlankText (s : String) : Bool :=
  s.toList.all isBlank

/-- The parts of a list between the separators; one part more than there are separators. -/
def splitAt (sep : Char → Bool) : List Char → List (List Char)
  | [] => [[]]
  | c :: cs =>
    if sep c then [] :: splitAt sep cs
    else
      match splitAt sep cs with
      | [] => [[c]]
      | w :: ws => (c :: w) :: ws

def dropFinalNewline (cs : List Char) : List Char :=
  if cs.getLast? = some '\n' then cs.dropLast else cs

/-- The first place at which a recogniser accepts, and the length that it accepts there. -/
def search (here : List Char → Option Nat) : List Char → Option (Nat × Nat)
  | [] => (here []).map fun n => (0, n)
  | c :: cs =>
    match here (c :: cs) with
    | some n => some (0, n)
    | none => (search here cs).map fun r => (r.1 + 1, r.2)

def indexOf (p : Char → Bool) (cs : List Char) : Option Nat :=
  cs.findIdx? p

def startsWith (word : String) (cs : List Char) : Bool :=
  word.toList.isPrefixOf cs

end MarkupLint.Text
