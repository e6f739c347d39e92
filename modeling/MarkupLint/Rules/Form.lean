import MarkupLint.Rule.Basic

/-! # Rules on forms

Input groups, check boxes, radio buttons and other form controls.
-/
namespace MarkupLint.Rules

open Document (Element)
open Selector

def wrongControl (name : String) : String :=
  "`.input-group` contains a `<" ++ name ++ ">`; " ++
    "only text-based `<input>`s are permitted in an `.input-group`"

def inputGroupControls : Rule :=
  .total "E006" "InputGroupControlTypesRule" fun d =>
    Rule.reportAny (wrongControl "select")
      (d.select (descendant (cls "input-group") (tag "select"))) ++
    Rule.reportAny (wrongControl "textarea")
      (d.select (descendant (cls "input-group") (tag "textarea")))

def inputGroupSizing : Rule :=
  .selected "E009" "InputGroupSizingRule"
    ("Button and input sizing within `.input-group`s can cause issues. " ++
      "Instead, use input group sizing classes `.input-group-lg` or `.input-group-sm`")
    (descendant (cls "input-group" &&& .not (cls "input-group-lg")) (cls "btn-lg") |||
      descendant (cls "input-group" &&& .not (cls "input-group-sm")) (cls "btn-sm"))

def multipleControls : Rule :=
  .offenders "E010" "MultipleFormControlsRule"
    "Input groups cannot contain multiple `.form-control`s"
    (cls "input-group") fun d e => 1 < (d.selectUnder (cls "form-control") e).length

def mixedInputGroup : Rule :=
  .selected "E011" "InputGroupMixedWithFormGroupRule"
    ("`.input-group` and `.form-group`/`.row`/`.form-row` cannot be used directly on " ++
      "the same element. Instead, nest the `.input-group` within the " ++
      "`.form-group`/`.row`/`.form-row`")
    (anyOf [cls "input-group" &&& cls "form-group", cls "input-group" &&& cls "row",
      cls "input-group" &&& cls "form-row"])

def inputOf (type : String) : Selector := tag "input" &&& attrIs "type" .equals type

/-- The class of a check box or radio button must wrap a label with such an input. -/
def blockChoice (id name kind : String) : Rule :=
  .offenders id name
    ("Incorrect markup used with the `." ++ kind ++ "` class. The correct markup structure is `." ++
      kind ++ ">label>input[type=\"" ++ kind ++ "\"]`")
    (cls kind) fun d e => !(has .child (tag "label" &&& has .child (inputOf kind))).accepts d e

/-- The inline class of a check box or radio button belongs on a label around such an input. -/
def inlineChoice (id name kind : String) : Rule :=
  .total id name fun d =>
    Rule.reportAny ("`." ++ kind ++ "-inline` should only be used on `<label>` elements")
      (d.select (cls (kind ++ "-inline") &&& .not (tag "label"))) ++
    Rule.reportAny ("Incorrect markup used with the `." ++ kind ++ "-inline` class. " ++
        "The correct markup structure is `label." ++ kind ++ "-inline>input[type=\"" ++ kind ++
        "\"]`")
      ((d.select (cls (kind ++ "-inline"))).filter fun e =>
        (d.selectChildren (inputOf kind) e).isEmpty)

def blockCheckboxes : Rule := blockChoice "E017" "BlockCheckboxesRule" "checkbox"

def blockRadios : Rule := blockChoice "E018" "BlockRadiosRule" "radio"

def inlineCheckboxes : Rule := inlineChoice "E019" "InlineCheckboxesRule" "checkbox"

def inlineRadios : Rule := inlineChoice "E020" "InlineRadiosRule" "radio"

def feedback : Rule :=
  .offenders "E028" "FeedbackWithoutHasFeedbackRule"
    ("`.form-control-feedback` must have `.form-group.has-feedback` or have it as an ancestor")
    (cls "form-control-feedback")
    fun d e => (d.closest? (cls "form-group" &&& cls "has-feedback") e).isNone

def inlineFormGroup : Rule :=
  .selected "E035" "FormGroupWithFormInlineRule"
    ("Neither `.form-inline` should be used directly on a `.form-group`. " ++
      "Instead, nest the `.form-group` within the `.form-inline`.")
    (cls "form-group" &&& cls "form-inline")

def textualTypes : List String :=
  ["color", "email", "number", "password", "search", "tel", "text", "url", "date", "month",
    "week", "time"]

def formControls : Rule :=
  .total "E042" "FormControlOnWrongControlRule" fun d =>
    Rule.reportAny
      "`.form-control` should only be used on `<input>`s, `<textarea>`s, and `<select>`s."
      (d.select (cls "form-control" &&&
        .not (anyOf [tag "input", tag "textarea", tag "select"]))) ++
    Rule.reportAny
      ("`.form-control` cannot be used on non-textual `<input>`s, such as those whose " ++
        "`type` is: `file`, `checkbox`, `radio`, `range`, `button`")
      (d.select (tag "input" &&& cls "form-control" &&&
        .not (anyOf (textualTypes.map fun t => attrIs "type" .equals t))))

def inputGroupParts : Rule :=
  .offenders "E044" "InputGroupAddonChildrenRule"
    ("`.input-group` must have a `.form-control` and either an " ++
      "`.input-group-prepend` or `.input-group-append`.")
    (cls "input-group") fun d e =>
      (d.selectChildren (cls "form-control") e).isEmpty ||
        (d.selectChildren (cls "input-group-prepend" ||| cls "input-group-append") e).isEmpty

def nestedFormGroups : Rule :=
  .selected "E050" "NestedFormGroupsRule" "`.form-group`s should not be nested."
    (child (cls "form-group") (cls "form-group"))

def untypedInputs : Rule :=
  .selected "W017" "InputsMissingTypeRule"
    "Found one or more `<input>`s missing a `type` attribute."
    (tag "input" &&& .not (withAttr "type"))

def formRules : List Rule :=
  [inputGroupControls, inputGroupSizing, multipleControls, mixedInputGroup, blockCheckboxes,
    blockRadios, inlineCheckboxes, inlineRadios, feedback, inlineFormGroup, formControls,
    inputGroupParts, nestedFormGroups, untypedInputs]

end MarkupLint.Rules
