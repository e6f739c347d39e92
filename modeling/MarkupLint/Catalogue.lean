import MarkupLint.Registry
import MarkupLint.Rules.Action
import MarkupLint.Rules.Carousel
import MarkupLint.Rules.Component
import MarkupLint.Rules.Form
import MarkupLint.Rules.Grid
import MarkupLint.Rules.Head
import MarkupLint.Rules.Library
import MarkupLint.Rules.Modal
import MarkupLint.Rules.Retired

/-! # The catalogue of rules -/
namespace MarkupLint

def catalogue (settings : Settings) : List Rule :=
  Rules.headRules ++ Rules.libraryRules settings ++ Rules.gridRules ++ Rules.formRules ++
    Rules.actionRules ++ Rules.modalRules ++ Rules.carouselRules ++ Rules.componentRules ++
    Rules.retiredRules

def builtIn? (settings : Settings) (id : String) : Option Rule :=
  (catalogue settings).find? fun r => r.id = .text id

def Registry.standard (settings : Settings) : Registry :=
  ((Builder.empty settings).registerAll (catalogue settings)).1.build

end MarkupLint
