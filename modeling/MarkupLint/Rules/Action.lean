import MarkupLint.Rule.Basic

/-! # Rules on buttons, tooltips and popovers -/
namespace MarkupLint.Rules

open Selector

def dropdownToggleLast : Rule :=
  .selected "E016" "DropdownToggleLastRule"
    "`.btn.dropdown-toggle` must be the last button in a button group."
    (sibling (cls "btn" &&& cls "dropdown-toggle") (cls "btn"))

/-- The inputs of a type in a label of a button group, given the test on the label. -/
def groupInput (label : Selector) (type : String) : Selector :=
  child (child (attrIs "data-toggle" .equals "buttons") (tag "label" &&& label))
    (tag "input" &&& attrIs "type" .equals type)

def mismatchedInput (type : String) : Selector :=
  (groupInput (.not (cls "active")) type &&& withAttr "checked") |||
    (groupInput (cls "active") type &&& .not (withAttr "checked"))

def checkedActive : Rule :=
  .selected "E021" "ButtonsCheckedActiveRule"
    ("`.active` class used without the `checked` attribute (or vice-versa) " ++
      "in a button group using the button.js plugin")
    (mismatchedInput "checkbox" ||| mismatchedInput "radio")

def buttonElements : Rule :=
  .selected "E047" "BtnElementsRule"
    "`.btn` should only be used on `<a>`, `<button>`, `<input>`, or `<label>` elements."
    (cls "btn" &&& .not (anyOf [tag "a", tag "button", tag "input", tag "label"]))

def buttonType : Rule :=
  .selected "W007" "ButtonTypeRule"
    "Found one or more `<button>`s missing a `type` attribute."
    (tag "button" &&& .not (anyOf [attrIs "type" .equals "submit", attrIs "type" .equals "reset",
      attrIs "type" .equals "button"]))

def disabledClass : Rule :=
  .selected "W016" "DisabledClassOnButtonRule"
    ("Using the `.disabled` class on a `<button>` or `<input>` only changes the " ++
      "appearance of the element. It doesn't prevent the user from interacting with " ++
      "the element (for example, clicking on it or focusing it). If you want to truly " ++
      "disable the element, use the `disabled` attribute instead.")
    ((tag "button" &&& cls "btn" &&& cls "disabled") |||
      (tag "input" &&& cls "btn" &&& cls "disabled"))

def navigationButtons : Rule :=
  .selected "E043" "NavbarNavAnchorButtonsRule"
    ("Button classes (`.btn`, `.btn-*`, `.navbar-btn`) cannot be used on `<a>`s " ++
      "within `.navbar-nav`s.")
    (descendant (cls "navbar-nav") (tag "a" &&& cls "btn") |||
      descendant (cls "navbar-nav") (tag "a" &&& cls "navbar-btn"))

def toggles (plugin : String) : Selector := attrIs "data-toggle" .equals plugin

def disabledTooltips : Rule :=
  .selected "W006" "TooltipsOnDisabledElementsRule"
    ("Tooltips and popovers on disabled elements cannot be triggered by user " ++
      "interaction unless the element becomes enabled. To have tooltips and popovers " ++
      "be triggerable by the user even when their associated element is disabled, put " ++
      "the disabled element inside a wrapper `<div>` and apply the tooltip or popover " ++
      "to the wrapper `<div>` instead.")
    (anyOf [withAttr "disabled" &&& toggles "tooltip", cls "disabled" &&& toggles "tooltip",
      withAttr "disabled" &&& toggles "popover", cls "disabled" &&& toggles "popover"])

def unboundToggle (plugin : String) : Selector :=
  descendant (cls "btn-group")
    (toggles plugin &&& .not (attrIs "data-container" .equals "body"))

def groupTooltips : Rule :=
  .selected "W008" "TooltipsInButtonGroupsRule"
    ("Tooltips and popovers within button groups should have their `container` set to " ++
      "`'body'`. Found tooltips/popovers that might lack this setting.")
    (unboundToggle "tooltip" ||| unboundToggle "popover")

def actionRules : List Rule :=
  [dropdownToggleLast, checkedActive, buttonElements, buttonType, disabledClass,
    navigationButtons, disabledTooltips, groupTooltips]

end MarkupLint.Rules
