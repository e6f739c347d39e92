import MarkupLint.Rule.Basic

/-! # Retired classes

The classes that only version 3 of Bootstrap has.
-/
namespace MarkupLint.Rules

open Selector

def numbers (first last : Nat) : List Nat :=
  (List.range (last + 1 - first)).map (· + first)

def retiredGridClasses : List String :=
  (["xs", "sm", "md", "lg"].flatMap fun screen =>
    ["offset", "pull", "push"].flatMap fun modifier =>
      (numbers 0 12).map fun n => "col-" ++ screen ++ "-" ++ modifier ++ "-" ++ toString n) ++
  (numbers 1 12).map fun n => "col-xs-" ++ toString n

def retiredVisibilityClasses : List String :=
  ["lg", "md", "print", "sm", "xs"].flatMap fun target =>
    ["hidden-" ++ target, "visible-" ++ target, "visible-" ++ target ++ "-block",
      "visible-" ++ target ++ "-inline", "visible-" ++ target ++ "-inline-block"]

/-- The other retired classes. Words that are still in use are left out. -/
def retiredComponentClasses : List String := [
  "affix", "alert-dismissable", "blockquote-reverse", "bottom", "bottom-left",
  "bottom-right", "btn-default", "btn-group-justified", "btn-group-xs", "btn-xs", "caption",
  "caret", "carousel-control", "center-block", "checkbox", "checkbox-inline",
  "control-label", "danger", "divider", "dl-horizontal", "dropdown-backdrop",
  "dropdown-menu-left", "form-control-static", "form-group-lg", "form-group-sm",
  "form-horizontal", "gradient", "has-error", "has-success", "has-warning", "help-block",
  "hidden", "hide", "icon-bar", "icon-next", "icon-prev", "img-circle", "img-responsive",
  "img-rounded", "input-lg", "input-sm", "label", "label-danger", "label-default",
  "label-info", "label-primary", "label-success", "label-warning",
  "list-group-item-heading", "list-group-item-text", "media-bottom", "media-heading",
  "media-left", "media-list", "media-middle", "media-object", "media-right", "navbar-btn",
  "navbar-default", "navbar-fixed-bottom", "navbar-fixed-top", "navbar-form",
  "navbar-header", "navbar-inverse", "navbar-left", "navbar-link", "navbar-right",
  "navbar-static-top", "navbar-toggle", "nav-divider", "nav-stacked", "nav-tabs-justified",
  "page-header", "pager", "panel", "panel-body", "panel-collapse", "panel-danger",
  "panel-default", "panel-footer", "panel-group", "panel-heading", "panel-info",
  "panel-primary", "panel-success", "panel-title", "panel-warning", "popover-content",
  "popover-title", "progress-bar-danger", "progress-bar-info", "progress-bar-success",
  "progress-bar-warning", "progress-striped", "pull-left", "pull-right", "radio",
  "radio-inline", "row-no-gutters", "success", "table-condensed", "thumbnail",
  "tooltip-arrow", "warning", "well", "well-lg", "well-sm"]

def retiredClasses : List String :=
  retiredComponentClasses ++ retiredGridClasses ++ retiredVisibilityClasses

def isRetired (c : String) : Bool := retiredClasses.contains c

def retired : Rule :=
  .offenders "W901" "Bootstrap3ClassesRule" "Found usage of CSS classes specific to Bootstrap 3."
    (withAttr "class") fun _ e => e.classes.any isRetired

def retiredRules : List Rule := [retired]

end MarkupLint.Rules
