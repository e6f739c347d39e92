import MarkupLint.Rule.Basic

/-! # Rules on cards, alerts, images, media objects and navigation bars -/
namespace MarkupLint.Rules

open Document (Element)
open Selector

/-- A part of a card has exactly one card among itself and the elements around it. -/
def cardPart (id name part message : String) : Rule :=
  .offenders id name message (cls part) fun d e => d.countFrom (cls "card") e ≠ 1

def cardBody : Rule :=
  cardPart "E023" "CardBodyWithoutCardRule" "card-body"
    "`.card-body` must have `.card` or have it as an ancestor."

def cardHeader : Rule :=
  cardPart "E024" "CardHeaderWithoutCardRule" "card-header"
    "`.card-header` must have one `.card` ancestor."

def cardFooter : Rule :=
  cardPart "E025" "CardFooterWithoutCardRule" "card-footer"
    "`.card-footer` must have one `.card` ancestor."

def cardTitle : Rule :=
  cardPart "E026" "CardTitleWithoutCardRule" "card-title"
    "`.card-title` must have one `.card` ancestor."

def dismissibleAlert : Rule :=
  .selected "E033" "AlertMissingDismissibleRule"
    "`.alert` with dismiss button must have class `.alert-dismissible`"
    (cls "alert" &&& .not (cls "alert-dismissible") &&&
      has .descendant (attrIs "data-dismiss" .equals "alert"))

def standsWithin (d : Document) (s : Selector) (e : Element) : Bool :=
  (e.parent?.bind (d.closest? s)).isSome

def mediaPulls : Rule :=
  .offenders "E038" "MediaPullsRule"
    "`.media-left` and `.media-right` should not be used outside of `.media` objects."
    (cls "media-left" ||| cls "media-right") fun d e => !standsWithin d (cls "media") e

def navbarPulls : Rule :=
  .offenders "E039" "NavbarPullsRule"
    "`.navbar-left` and `.navbar-right` should not be used outside of navbars."
    (cls "navbar-left" ||| cls "navbar-right") fun d e => !standsWithin d (cls "navbar") e

def fluidImages : Rule :=
  .selected "E045" "ImgFluidOnNonImgsRule" "`.img-fluid` should only be used on `<img>`s"
    (cls "img-fluid" &&& .not (tag "img"))

def componentRules : List Rule :=
  [cardBody, cardHeader, cardFooter, cardTitle, dismissibleAlert, mediaPulls, navbarPulls,
    fluidImages]

end MarkupLint.Rules
