import MarkupLint.Rule.Basic

/-! # Rules on modal dialogs -/
namespace MarkupLint.Rules

open Document (Element)
open Selector

def modalsInside : Rule :=
  .selected "E022" "ModalsWithinOtherComponentsRule"
    ("Modal markup should not be placed within other components, so as to avoid the " ++
      "component's styles interfering with the modal's appearance or functionality")
    (descendant (cls "table") (cls "modal") ||| descendant (cls "navbar") (cls "modal"))

def modalParts : List (String × String) :=
  [("modal-dialog", "modal"), ("modal-content", "modal-dialog"),
    ("modal-header", "modal-content"), ("modal-body", "modal-content"),
    ("modal-footer", "modal-content"), ("modal-title", "modal-header")]

def misplacedMessage (part holder : String) : String :=
  "`." ++ part ++ "` must be a child of `." ++ holder ++ "`"

def wrongParent? (d : Document) (holder : String) (e : Element) : Option Element :=
  e.parent?.filter fun p => !(cls holder).accepts d p

/-- The wrong parents of a part of a modal, each once, in the order of their parts. -/
def wrongParents (d : Document) (part holder : String) : List Element :=
  ((d.select (cls part)).filterMap (wrongParent? d holder)).eraseDupsBy Element.same

def modalStructure : Rule :=
  .total "E032" "ModalStructureRule" fun d =>
    modalParts.flatMap fun p =>
      Rule.reportAny (misplacedMessage p.1 p.2) (wrongParents d p.1 p.2)

def modalTabIndex : Rule :=
  .selected "E046" "ModalTabIndexRule" "`.modal` elements must have a `tabindex` attribute."
    (cls "modal" &&& .not (withAttr "tabindex"))

def modalRole : Rule :=
  .selected "E048" "ModalRoleRule" "`.modal` must have a `role=\"dialog\"` attribute."
    (cls "modal" &&& .not (attrIs "role" .equals "dialog"))

def modalDialogRole : Rule :=
  .selected "E049" "ModalDialogRoleRule"
    "`.modal-dialog` must have a `role=\"document\"` attribute."
    (cls "modal-dialog" &&& .not (attrIs "role" .equals "document"))

def remoteModals : Rule :=
  .selected "W004" "RemoteModalsRule"
    "Found one or more modals using the removed `remote` option"
    (attrIs "data-toggle" .equals "modal" &&& withAttr "data-remote")

def modalRules : List Rule :=
  [modalsInside, modalStructure, modalTabIndex, modalRole, modalDialogRole, remoteModals]

end MarkupLint.Rules
