import MarkupLint.Text.Case

/-! # Breakpoints

The screen widths at which grid classes begin to apply, from the smallest up.
-/
namespace MarkupLint.Grid

/-- A responsive tier; `none` is the base tier, which holds on every screen. -/
inductive Breakpoint where
  | none
  | sm
  | md
  | lg
  | xl
  deriving DecidableEq, Repr

namespace Breakpoint

def all : List Breakpoint := [none, sm, md, lg, xl]

def rank : Breakpoint → Nat
  | none => 0
  | sm => 1
  | md => 2
  | lg => 3
  | xl => 4

def label : Breakpoint → String
  | none => ""
  | sm => "sm"
  | md => "md"
  | lg => "lg"
  | xl => "xl"

def title : Breakpoint → String
  | none => "NONE"
  | sm => "SM"
  | md => "MD"
  | lg => "LG"
  | xl => "XL"

/-- The tier that a label names, in any case; no label names the base tier. The error is the
label in capitals. -/
def ofLabel (label : Option String) : Except String Breakpoint :=
  match label with
  | Option.none => .ok none
  | some text =>
    if text.isEmpty then .ok none
    else
      match all.find? (fun b => b.title == Text.upper text) with
      | some b => .ok b
      | Option.none => .error (Text.upper text)

end Breakpoint

end MarkupLint.Grid
