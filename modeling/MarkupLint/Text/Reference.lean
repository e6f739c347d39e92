import MarkupLint.Text.Number
import MarkupLint.Text.ReferenceTable

/-! # Character references

A reference such as `&amp;`, `&#38;` or `&#x26;` stands for a character. Attribute values
and running text read them by different rules: in an attribute value the longest known name
at the front counts and a closing semicolon may be missing, in running text only a whole name
counts.
-/
namespace MarkupLint.Text

def ofCodes (ns : List Nat) : List Char := ns.map Char.ofNat

def referenceNamed? (name : List Char) : Option (List Char) :=
  match name with
  | [] => none
  | c :: _ =>
    match referenceNames.lookup c with
    | none => none
    | some entries => (entries.lookup (String.ofList name)).map ofCodes

/-- What a name with or without its semicolon stands for; without it, only the names that are
understood bare count. -/
def reference? (name : List Char) : Option (List Char) :=
  if name.getLast? = some ';' then referenceNamed? name.dropLast
  else if bareReferenceNames.contains (String.ofList name) then referenceNamed? name
  else none

def replacement : Char := Char.ofNat 0xFFFD

def windowsCodes : List Nat := [
  0x20AC, 0x81, 0x201A, 0x192, 0x201E, 0x2026, 0x2020, 0x2021,
  0x2C6, 0x2030, 0x160, 0x2039, 0x152, 0x8D, 0x17D, 0x8F,
  0x90, 0x2018, 0x2019, 0x201C, 0x201D, 0x2022, 0x2013, 0x2014,
  0x2DC, 0x2122, 0x161, 0x203A, 0x153, 0x9D, 0x17E, 0x178]

def isNoChar (n : Nat) : Bool :=
  (0xD800 ≤ n && n ≤ 0xDFFF) || 0x10FFFF < n

def numbered (n : Nat) : Char :=
  if n = 0 || isNoChar n then replacement
  else if 0x80 ≤ n && n ≤ 0x9F then Char.ofNat (windowsCodes.getD (n - 0x80) n)
  else Char.ofNat n

/-- Whether a number stands for nothing in an attribute value: a control or a code point that
is never a character. -/
def isDropped (n : Nat) : Bool :=
  (1 ≤ n && n ≤ 8) || n == 0xB || (0xE ≤ n && n ≤ 0x1F) || (0x7F ≤ n && n ≤ 0x9F) ||
  (0xFDD0 ≤ n && n ≤ 0xFDEF) || n % 0x10000 == 0xFFFE || n % 0x10000 == 0xFFFF

def numberedInValue (n : Nat) : List Char :=
  if n = 0 then [replacement]
  else if 0x80 ≤ n && n ≤ 0x9F then [Char.ofNat (windowsCodes.getD (n - 0x80) n)]
  else if isNoChar n then [replacement]
  else if isDropped n then []
  else [Char.ofNat n]

def isReferenceChar (c : Char) : Bool :=
  !(c == '\t' || c == '\n' || c == '\x0c' || c == ' ' || c == '<' || c == '&' || c == '#' ||
    c == ';')

/-- The longest known name of at least two characters at the front of a name, and the rest. -/
def longestReference? (name : List Char) : Nat → Option (List Char)
  | 0 => none
  | k + 1 =>
    if k + 1 < 2 then none
    else
      match reference? (name.take (k + 1)) with
      | some cs => some (cs ++ name.drop (k + 1))
      | none => longestReference? name k

def namedInValue (name : List Char) : List Char :=
  match reference? name with
  | some cs => cs
  | none => (longestReference? name (name.length - 1)).getD ('&' :: name)

def semicolonLength : List Char → Nat
  | ';' :: _ => 1
  | _ => 0

/-- The reference that begins right after an ampersand of an attribute value: what it reads as
and how many characters it takes; `none` if no reference begins there. -/
def referenceInValue? (cs : List Char) : Except LongNumber (Option (List Char × Nat)) :=
  match cs with
  | '#' :: rest =>
    let digits := rest.takeWhile Char.isDigit
    if !digits.isEmpty then
      (numberOf digits).map fun n => some (numberedInValue n,
        1 + digits.length + semicolonLength (rest.drop digits.length))
    else
      match rest with
      | x :: rest' =>
        let digits := rest'.takeWhile isHexDigit
        if (x == 'x' || x == 'X') && !digits.isEmpty then
          .ok (some (numberedInValue (digitsValue 16 digits),
            2 + digits.length + semicolonLength (rest'.drop digits.length)))
        else .ok none
      | [] => .ok none
  | _ =>
    let name := (cs.take 32).takeWhile isReferenceChar
    if name.isEmpty then .ok none
    else
      let semicolon := semicolonLength (cs.drop name.length)
      .ok (some (namedInValue (cs.take (name.length + semicolon)), name.length + semicolon))

/-- Reads the references of an attribute value; the first `skip` characters belong to a
reference that has been read. -/
def unescapeList (skip : Nat) : List Char → Except LongNumber (List Char)
  | [] => .ok []
  | c :: cs =>
    match skip with
    | k + 1 => unescapeList k cs
    | 0 =>
      if c == '&' then
        match referenceInValue? cs with
        | .error e => .error e
        | .ok (some (text, n)) => (unescapeList n cs).map (text ++ ·)
        | .ok none => (unescapeList 0 cs).map (c :: ·)
      else (unescapeList 0 cs).map (c :: ·)

def unescape (s : String) : Except LongNumber String :=
  (unescapeList 0 s.toList).map String.ofList

end MarkupLint.Text
