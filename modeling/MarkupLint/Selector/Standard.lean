import MarkupLint.Selector.Query

/-! # Queries of the markup standard

The pseudo-classes that stand for a query about links, media and the elements of forms. They keep
to the frame of an element.
-/
namespace MarkupLint.Query

open Selector (tag attrIs withAttr)

def named (names : List String) : Selector := .anyOf (names.map tag)

def typed (types : List String) (untyped : Bool) : Selector :=
  .anyOf ((if untyped then [.not (withAttr "type"), attrIs "type" .equals ""] else []) ++
    types.map (attrIs "type" .equals))

def filled (attr : String) : Selector := withAttr attr &&& .not (attrIs attr .equals "")

def unfilled (attr : String) : Selector := .not (withAttr attr) ||| attrIs attr .equals ""

def link : Selector := named ["a", "area"] &&& withAttr "href"

def opened : Selector := named ["details", "dialog"] &&& withAttr "open"

def muted : Selector := named ["video", "audio"] &&& withAttr "muted"

def checked : Selector :=
  (tag "input" &&& typed ["checkbox", "radio"] false &&& withAttr "checked") |||
    (tag "option" &&& withAttr "selected")

def control : Selector :=
  (tag "input" &&& .not (attrIs "type" .equals "hidden")) |||
    named ["button", "select", "textarea", "fieldset"]

def disableable : Selector := control ||| named ["optgroup", "option"]

def disabledSet : Selector := tag "fieldset" &&& withAttr "disabled"

/-- The elements that are disabled, by themselves or by what is around them. The first legend of a
field set is left out. -/
def disabled : Query :=
  framed (anyOf [
    plain (disableable &&& withAttr "disabled"),
    plain (tag "option") &&& after .child (plain (tag "optgroup" &&& withAttr "disabled")),
    plain control &&& after .child (plain disabledSet),
    plain control &&& after .descendant
      (plain (.not (tag "legend" &&& .firstOfType)) &&& after .child (plain disabledSet))])

def enabled : Query := plain disableable &&& denied disabled

def entry : Selector := named ["input", "select", "textarea"]

def placeholderShown : Query :=
  plain (tag "input" &&&
      typed ["text", "search", "url", "tel", "email", "password", "number"] true &&&
      filled "placeholder" &&& unfilled "value") |||
    (trait .unfilled &&& plain (tag "textarea" &&& filled "placeholder"))

def readWrite : Query :=
  framed ((plain ((tag "textarea" ||| (tag "input" &&&
        typed ["date", "datetime-local", "email", "month", "number", "password", "search", "tel",
          "text", "time", "url", "week"] true)) &&&
      .not (withAttr "readonly")) &&& denied disabled) |||
    plain (attrIs "contenteditable" .equals "" |||
      .attr "contenteditable" .equals "true" true))

def initial : Query :=
  framed (plain checked |||
    (plain (named ["button", "input"] &&& attrIs "type" .equals "submit") &&&
      (after .descendant (plain (tag "form")) &&& trait .defaultButton)))

def indeterminate : Query :=
  framed (plain ((tag "input" &&& attrIs "type" .equals "checkbox" &&& withAttr "indeterminate") |||
      (tag "input" &&& attrIs "type" .equals "radio" &&& unfilled "name" &&&
        .not (withAttr "checked")) |||
      (tag "progress" &&& .not (withAttr "value"))) |||
    (plain (tag "input" &&& attrIs "type" .equals "radio" &&& filled "name" &&&
      .not (withAttr "checked")) &&& undecided))

/-- The inputs with a bound whose value is inside, or outside. The bounds are read before the type
is looked at. -/
def withinBounds (inside : Bool) : Query :=
  plain (tag "input") &&& (bounded inside &&&
    plain (typed ["date", "month", "week", "time", "datetime-local", "number", "range"] false &&&
      (withAttr "min" ||| withAttr "max")))

def standard : List (String × Query) :=
  [("link", plain link), ("any-link", plain link), ("open", plain opened), ("muted", plain muted),
    ("checked", plain checked), ("default", initial), ("indeterminate", indeterminate),
    ("disabled", disabled), ("enabled", enabled),
    ("required", plain (entry &&& withAttr "required")),
    ("optional", plain (entry &&& .not (withAttr "required"))),
    ("placeholder-shown", placeholderShown), ("read-write", readWrite),
    ("read-only", denied readWrite), ("in-range", withinBounds true),
    ("out-of-range", withinBounds false)]

end MarkupLint.Query
