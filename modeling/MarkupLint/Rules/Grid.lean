import MarkupLint.Document.RawAttribute
import MarkupLint.Rule.Basic

/-! # Rules on the grid

Containers, rows and columns.
-/
namespace MarkupLint.Rules

open Document (Element)
open Selector

def columns (d : Document) : List Element :=
  (d.select (withAttr "class")).filter Element.isColumn

def isContainer (e : Element) : Bool :=
  e.hasClass "container" || e.hasClass "container-fluid"

/-- Whether a row stands outside: it has a parent that is no column, and no container is
around it. -/
def isOutsideRow (e : Element) : Bool :=
  match e.parent? with
  | none => false
  | some p => !p.isColumn && !e.parents.any isContainer

def rowsOutside : Rule :=
  .offenders "E003" "RowsOutsideContainersRule"
    ("Found one or more `.row`s that were not children of a grid column " ++
      "or descendants of a `.container` or `.container-fluid`")
    (cls "row") fun _ e => isOutsideRow e

def rowAndColumn : Rule :=
  .offenders "E005" "RowAndColumnOnSameElementRule"
    "Found both `.row` and `.col*` used on the same element"
    (cls "row") fun _ e => e.isColumn

def inputGroupOnColumn : Rule :=
  .offenders "E012" "InputGroupOnColumnRule"
    ("`.input-group` and `.col*` cannot be used directly on the same element. " ++
      "Instead, nest the `.input-group` within the `.col*`")
    (cls "input-group") fun _ e => e.isColumn

def isRowChild (e : Element) : Bool :=
  e.isColumn || e.name = "script" || e.hasClass "clearfix"

def rowChildren : Rule :=
  .offenders "E013" "RowChildrenAreColumnsRule"
    "Only columns (`.col*`) or `.clearfix` may be children of `.row`s or `.form-row`s."
    (child (cls "row") any ||| child (cls "form-row") any) fun _ e => !isRowChild e

def exemptColumns : List String := ["col", "th", "td"]

def isStrayColumn (e : Element) : Bool :=
  match e.parent? with
  | none => false
  | some p => !exemptColumns.contains e.name && !(p.hasClass "row" || p.hasClass "form-row")

def columnParents : Rule :=
  .total "E014" "ColumnParentsAreRowsRule" fun d =>
    Rule.reportAny "Columns (`.col*`) can only be children of `.row`s or `.form-row`s"
      ((columns d).filter isStrayColumn)

def redundantMessage (old new : String) : String :=
  "Since grid classes apply to devices with screen widths greater than or equal to the " ++
    "breakpoint sizes (unless overridden by grid classes targeting larger screens), " ++
    "`class=\"" ++ old ++ "\"` is redundant and can be simplified to `class=\"" ++ new ++ "\"`"

def redundantReports (d : Document) (e : Element) : Except Fault (List Report) :=
  match d.rawAttribute? e "class" with
  | .error error => .error (.number error)
  | .ok value =>
    let written := value.getD ""
    match Grid.simplify (some written) with
    | some simple => .ok [⟨redundantMessage written simple, [e]⟩]
    | none => .ok []

def redundantColumns : Rule where
  id := .text "E029"
  name := "RedundantColumnClassesRule"
  check d := Outcome.each (redundantReports d) (columns d)

def zeroWidthClass (b : Grid.Breakpoint) : String :=
  "col" ++ Grid.hyphened b.label ++ "-0"

def zeroWidth : Rule :=
  .selected "E037" "ZeroWidthColumnsRule"
    ("Column widths must be positive integers (and <= 12 by default). " ++
      "Found usage(s) of invalid nonexistent `.col*-0` classes.")
    (anyOf (Grid.Breakpoint.all.map fun b => cls (zeroWidthClass b)))

/-- Whether a character is a letter of a style keyword: one from `a` to `z` with case ignored. -/
def isStyleLetter (c : Char) : Bool :=
  c.isAlpha || [0x130, 0x131, 0x17F, 0x212A].contains c.toNat

/-- The length of a `float` declaration at the front of a style, up to its first letter. -/
def floatLength? (cs : List Char) : Option Nat :=
  if (cs.take 5).map Char.toLower = "float".toList then
    let gap := ((cs.drop 5).takeWhile Text.isBlank).length
    if (cs.drop (5 + gap)).head? = some ':' then
      let rest := (cs.drop (6 + gap)).dropWhile Text.isBlank
      if (rest.head?.map isStyleLetter).getD false then some (cs.length - rest.length + 1)
      else none
    else none
  else none

def hasFloatStyle (e : Element) : Bool :=
  (Text.search floatLength? ((e.attribute? "style").getD "").toList).isSome

def floatedColumns : Rule :=
  .total "E051" "FloatedColumnsRule" fun d =>
    Rule.reportAny "`.float-right` and `.float-left` must not be used on `.col*` elements"
      ((columns d).filter fun e => e.hasClass "float-left" || e.hasClass "float-right") ++
    Rule.reportAny "Manually added `float` styles must not be added on `.col*` elements"
      ((columns d).filter hasFloatStyle)

def floatedRows : Rule :=
  .total "E052" "FloatedRowsRule" fun d =>
    Rule.reportAny "`.float-right` and `.float-left` must not be used on `.row` elements"
      (d.select ((cls "row" &&& cls "float-right") ||| (cls "row" &&& cls "float-left"))) ++
    Rule.reportAny "Manually added `float` styles must not be added on `.row` elements"
      ((d.select (cls "row" &&& withAttr "style")).filter hasFloatStyle)

/-- Whether a column only makes room: it is not the last child, may hold something, and holds
neither an element nor text. -/
def isSpacer (d : Document) (e : Element) : Bool :=
  !last.accepts d e && !Document.isVoid e.name && e.children.isEmpty && e.text.isEmpty

def emptySpacers : Rule :=
  .total "W009" "EmptySpacerColumnsRule" fun d =>
    ((columns d).filter (isSpacer d)).map fun e =>
      ⟨"Using empty spacer columns isn't necessary with Bootstrap's grid.", [e]⟩

def gridRules : List Rule :=
  [rowsOutside, rowAndColumn, inputGroupOnColumn, rowChildren, columnParents, redundantColumns,
    zeroWidth, floatedColumns, floatedRows, emptySpacers]

end MarkupLint.Rules
