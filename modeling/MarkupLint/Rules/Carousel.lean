import MarkupLint.Rule.Basic

/-! # Rules on carousels -/
namespace MarkupLint.Rules

open Document (Element)
open Selector

def carouselStructure : Rule :=
  .total "E041" "CarouselStructureRule" fun d =>
    Rule.reportAny "`.carousel` must have exactly one `.carousel-inner` child."
      ((d.select (cls "carousel")).filter fun e =>
        (d.selectChildren (cls "carousel-inner") e).length ≠ 1) ++
    Rule.reportAny "`.carousel-inner` must have exactly one `.item.active` child."
      ((d.select (cls "carousel-inner")).filter fun e =>
        (d.selectChildren (cls "item" &&& cls "active") e).length ≠ 1)

def carouselControls : Selector :=
  child (cls "carousel-indicators") (tag "li") ||| cls "carousel-control"

def controlTarget (e : Element) : String :=
  let href := (e.attribute? "href").getD ""
  if href.isEmpty then (e.attribute? "data-target").getD "" else href

/-- The elements that a target selects; a malformed one selects nothing. -/
def targetElements (d : Document) (target : String) : Except Fault (List Element) :=
  if target.isEmpty then .ok []
  else
    match d.find target with
    | .error (.selector .malformed) => .ok []
    | found => found

def controlReports (d : Document) (e : Element) : Except Fault (List Report) := do
  let found ← targetElements d (controlTarget e)
  if found.isEmpty || !found.all (·.hasClass "carousel") then
    return [⟨"Carousel controls and indicators should use `href` or `data-target` to " ++
      "reference an element with class `.carousel`.", [e]⟩]
  else return []

def controlTargets : Rule where
  id := .text "W014"
  name := "CarouselControlsRule"
  check d := Outcome.each (controlReports d) (d.select carouselControls)

def carouselRules : List Rule := [carouselStructure, controlTargets]

end MarkupLint.Rules
