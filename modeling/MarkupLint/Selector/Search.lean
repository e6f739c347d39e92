import MarkupLint.Selector.Bounds
import MarkupLint.Selector.Language
import MarkupLint.Selector.Query

/-! # Searches

Which elements of a document a query holds of. A search tests elements one after the other and
remembers what it found out about siblings and about the language of the document, so the order of
the tests counts; and a test may fail.
-/
namespace MarkupLint

open Document (Element)

structure Memory where
  /-- For a parent and a query, the place of the last sibling of which the query was found to
  hold. -/
  later : List ((Option Nat × Query) × Option Nat)
  languages : List (Option Nat × String)

def Memory.empty : Memory := ⟨[], []⟩

abbrev Search := StateT Memory (Except SearchFault)

/-- What a search is about: the document, the number of the element it started from, and whether
it keeps to the frame of an element. -/
structure Aim where
  document : Document
  scope : Nat
  framed : Bool

namespace Aim

def around (a : Aim) (p : Place) : List Place := if a.framed then p.outerInFrame else p.outer

def children (a : Aim) (p : Place) : List Element :=
  if a.framed then p.childrenInFrame a.document else p.children a.document

def descendants (a : Aim) (p : Place) : List Element :=
  if a.framed then p.descendantsInFrame a.document else p.descendants a.document

def width (a : Aim) (p : Place) : Nat :=
  match p.holder? with
  | some h => (h.content a.document).length
  | none => 1

def position (a : Aim) (p : Place) : Nat :=
  match p.holder?, p.number? with
  | some h, some n => (h.content a.document).position n h.firstInside
  | _, _ => 0

/-- The siblings of a place up to itself, from the front or from the end, that may count for a
series. -/
def counted (a : Aim) (series : Nth) (p : Place) : List Place :=
  let before :=
    if series.fromEnd then (p.later a.document).reverse else p.earlier a.document
  ((before.map Place.element).filter fun q => !series.ofType || q.name = p.name) ++ [p]

/-- What the memory of a search says of a later sibling, given the place of the last one that was
found: the sibling stands behind the next piece, or nothing stands behind this place. -/
def recalls (a : Aim) (p : Place) (last : Nat) : Bool :=
  a.position p + 1 < last || a.position p + 1 = a.width p

end Aim

def Aim.language? (a : Aim) (p : Place) : Search (Option String) := do
  match p.language? with
  | some tag => return some tag
  | none =>
    match (← get).languages.lookup p.top.number? with
    | some tag => return some tag
    | none =>
      match p.top.head? a.document with
      | none => return none
      | some head =>
        let found := head.headLanguage? a.document
        modify fun m => { m with languages := (p.top.number?, found.getD "") :: m.languages }
        return found

namespace Query

def test : Query → Aim → Place → Search Bool
  | plain s, a, p => return s.holds a.document a.scope p
  | trait t, a, p => return t.holds a.document p
  | bounded inside, _, p => return (← p.inBounds?) = some inside
  | undecided, a, p => p.isUndecided a.document
  | language ranges, a, p => do
    let tag ← a.language? p
    return tag.any fun tag => ranges.any fun range => Language.inRange range tag
  | nth series among, a, p => do
    if ← among.test a p then
      let counted ← (a.counted series p).filterM fun q => among.test a q
      if (counted.getLast?.bind Place.number?) = p.number? then series.reaches counted.length
      else return false
    else return false
  | isFramed, a, _ => return a.framed
  | framed q, a, p => q.test { a with framed := true } p
  | both q r, a, p => do if ← q.test a p then r.test a p else return false
  | jointly q r, a, p => do
    let first ← q.test a p
    let second ← r.test a p
    return first && second
  | either q r, a, p => do if ← q.test a p then return true else r.test a p
  | denied q, a, p => return !(← q.test a p)
  | after .descendant q, a, p => (a.around p).anyM fun o => q.test a o
  | after .child q, a, p => (a.around p).head?.toList.anyM fun o => q.test a o
  | after .sibling q, a, p =>
    (p.earlier a.document).reverse.anyM fun e => q.test a (.element e)
  | after .adjacent q, a, p =>
    (p.earlier a.document).getLast?.toList.anyM fun e => q.test a (.element e)
  | has .descendant q, a, p => (a.descendants p).anyM fun e => q.test a (.element e)
  | has .child q, a, p => (a.children p).anyM fun e => q.test a (.element e)
  | has .adjacent q, a, p =>
    (p.later a.document).head?.toList.anyM fun e => q.test a (.element e)
  | has .sibling q, a, p => do
    match p.holder? with
    | none => return false
    | some h =>
      match (← get).later.lookup (h.number?, q) with
      | some last => return last.any (a.recalls p)
      | none =>
        let found ← (p.later a.document).reverse.findM? fun e => q.test a (.element e)
        let last := found.map fun e => a.position (.element e)
        modify fun m => { m with later := ((h.number?, q), last) :: m.later }
        return last.isSome

def accepts (q : Query) (d : Document) (e : Element) : Except SearchFault Bool :=
  (q.test ⟨d, e.index, false⟩ (.element e)).run' .empty

end Query

namespace Document

def search (d : Document) (q : Query) : Except SearchFault (List Element) :=
  (d.elements.filterM fun e => q.test ⟨d, 0, false⟩ (.element e)).run' .empty

def searchUnder (d : Document) (q : Query) (base : Element) : Except SearchFault (List Element) :=
  (base.descendants.filterM fun e => q.test ⟨d, base.index, false⟩ (.element e)).run' .empty

def searchFirst? (d : Document) (q : Query) : Except SearchFault (Option Element) :=
  (d.elements.findM? fun e => q.test ⟨d, 0, false⟩ (.element e)).run' .empty

def searchFirstUnder? (d : Document) (q : Query) (base : Element) :
    Except SearchFault (Option Element) :=
  (base.descendants.findM? fun e => q.test ⟨d, base.index, false⟩ (.element e)).run' .empty

def searchChildren (d : Document) (q : Query) (e : Element) : Except SearchFault (List Element) :=
  e.children.filterM fun c => q.accepts d c

def searchClosest? (d : Document) (q : Query) (e : Element) :
    Except SearchFault (Option Element) :=
  (e :: e.parents).findM? fun f => q.accepts d f

def searchCountAround (d : Document) (q : Query) (e : Element) : Except SearchFault Nat :=
  (e.parents.filterM fun f => q.accepts d f).map List.length

def searchCountFrom (d : Document) (q : Query) (e : Element) : Except SearchFault Nat :=
  ((e :: e.parents).filterM fun f => q.accepts d f).map List.length

end Document

end MarkupLint
