import MarkupLint.Rule.Basic

/-! # Formulas of written selectors

The rules look for elements by formulas, while a search reads a written selector, remembers what it
has found and may fail. A query means a formula if its tests always succeed, leave the memory of the
search alone and answer as the formula does. Then the search finds just what the formula selects.
-/
namespace MarkupLint

open Document (Element)

variable {q r : Query} {s t : Selector} {text : String}

/-- The tests of a query answer as a selector does, whatever the search remembers. -/
def Query.Means (q : Query) (s : Selector) : Prop :=
  ∀ (d : Document) (scope : Nat) (p : Place), q.test ⟨d, scope, false⟩ p = pure (s.holds d scope p)

namespace Query.Means

theorem plain (s : Selector) : (Query.plain s).Means s := fun _ _ _ => rfl

theorem both (hq : q.Means s) (hr : r.Means t) : (q.both r).Means (s.both t) := by
  intro d scope p
  rw [Query.test, hq, pure_bind, Selector.holds]
  cases h : s.holds d scope p with
  | true => rw [if_pos rfl, hr, Bool.true_and]
  | false => rw [if_neg Bool.false_ne_true, Bool.false_and]

theorem either (hq : q.Means s) (hr : r.Means t) : (q.either r).Means (s.either t) := by
  intro d scope p
  rw [Query.test, hq, pure_bind, Selector.holds]
  cases h : s.holds d scope p with
  | true => rw [if_pos rfl, Bool.true_or]
  | false => rw [if_neg Bool.false_ne_true, hr, Bool.false_or]

/-- The innermost place around an element is the one that holds it. -/
theorem afterChild (hq : q.Means s) : (Query.after .child q).Means (.after .child s) := by
  have hfirst : ∀ p : Place, p.outer.head? = p.holder? := by
    intro p
    cases p with
    | document => rfl
    | element e =>
      obtain ⟨node, ancestors⟩ := e
      cases ancestors <;> rfl
  intro d scope p
  have htests : (fun o => q.test ⟨d, scope, false⟩ o) = fun o => pure (s.holds d scope o) :=
    funext fun o => hq d scope o
  change p.outer.head?.toList.anyM (fun o => q.test ⟨d, scope, false⟩ o) = _
  rw [htests, List.anyM_pure, hfirst, Selector.holds]
  cases p.holder? <;> simp

end Query.Means

theorem filterAuxM_pure {α : Type} (p : α → Bool) (as acc : List α) :
    List.filterAuxM (fun a => (pure (p a) : Search Bool)) as acc =
      pure ((as.filter p).reverse ++ acc) := by
  induction as generalizing acc with
  | nil => rfl
  | cons a as ih =>
    rw [List.filterAuxM, pure_bind, ih]
    cases h : p a <;> simp [h]

namespace Document

theorem search_of_means (h : q.Means s) (d : Document) : d.search q = .ok (d.select s) := by
  have htests : (fun e : Element => q.test ⟨d, 0, false⟩ (.element e)) =
      fun e => pure (s.holds d 0 (.element e)) := funext fun e => h d 0 (.element e)
  rw [search, htests, List.filterM, filterAuxM_pure, pure_bind, List.append_nil,
    List.reverse_reverse]
  rfl

theorem find_of_means (hparse : Selector.parse text = .ok q) (h : q.Means s) (d : Document) :
    d.find text = .ok (d.select s) := by
  rw [find, hparse]
  change (d.search q).mapError Fault.search = _
  rw [search_of_means h]
  rfl

end Document

end MarkupLint
