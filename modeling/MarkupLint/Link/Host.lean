import MarkupLint.Text.Basic
import MarkupLint.Text.Number

/-! # Numeric host addresses

Which texts are addresses of version 4 (four decimal bytes) or of version 6 (eight groups of
hexadecimal digits, one run of zero groups left out, a zone after a percent sign).
-/
namespace MarkupLint.Link

def isByte (cs : List Char) : Bool :=
  !cs.isEmpty && cs.all Char.isDigit && cs.length ≤ 3 &&
    (cs == ['0'] || cs.head? != some '0') && Text.digitsValue 10 cs ≤ 255

def isAddress4 (cs : List Char) : Bool :=
  let parts := Text.splitAt (· == '.') cs
  parts.length == 4 && parts.all isByte

def isGroup (cs : List Char) : Bool :=
  !cs.isEmpty && cs.length ≤ 4 && cs.all Text.isHexDigit

/-- The groups of a version 6 address, a version 4 address at the end counting for two groups;
`none` if that ending is not an address. -/
def groupsOf (cs : List Char) : Option (List (List Char)) :=
  let parts := Text.splitAt (· == ':') cs
  let final := parts.getLast?.getD []
  if parts.length < 3 then none
  else if final.contains '.' then
    if isAddress4 final then some (parts.dropLast ++ [['0'], ['0']]) else none
  else some parts

/-- Whether the groups spell a version 6 address. An empty group inside stands for the zero
groups left out; then an empty group at an end must touch it. -/
def areGroups (parts : List (List Char)) : Bool :=
  let inner := parts.tail.dropLast
  let front := parts.takeWhile (!·.isEmpty)
  let back := parts.reverse.takeWhile (!·.isEmpty)
  match inner.countP List.isEmpty with
  | 0 => parts.length == 8 && parts.all isGroup
  | 1 =>
    parts.length ≤ 9 && front.all isGroup && back.all isGroup &&
      front.length + back.length < 8 &&
      (!(parts.head?.getD []).isEmpty || (parts[1]?.getD ['0']).isEmpty) &&
      (!(parts.getLast?.getD []).isEmpty || (parts.reverse[1]?.getD ['0']).isEmpty)
  | _ => false

def isAddress6 (cs : List Char) : Bool :=
  let address := cs.takeWhile (· != '%')
  let zone := cs.drop (address.length + 1)
  (address.length == cs.length || (!zone.isEmpty && !zone.contains '%')) &&
    match groupsOf address with
    | some parts => areGroups parts
    | none => false

end MarkupLint.Link
