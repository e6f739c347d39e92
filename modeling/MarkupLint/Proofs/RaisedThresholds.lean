import Mathlib.Data.List.Lex
import MarkupLint.Rules.Library

/-! # Raised thresholds

Two rules compare the versions in links with a threshold from the settings. Versions are ordered by
lists of numbers, so what is older than one threshold is older than every later one. Two runs of a
rule with different thresholds read the same links and fail at the same one; where the second
threshold is not the older one, the second run reports all that the first one does.
-/
namespace MarkupLint

open Document (Element)

namespace Link.Version

variable {v m₁ m₂ : Version}

theorem older_iff : v.older m₁ = true ↔ v.key < m₁.key := decide_eq_true_iff

theorem not_older_iff : m₂.older m₁ = false ↔ m₁.key ≤ m₂.key := by
  rw [← not_lt, ← older_iff, Bool.not_eq_true]

theorem older_of_not_older (h : v.older m₁ = true) (hm : m₂.older m₁ = false) :
    v.older m₂ = true :=
  older_iff.mpr (lt_of_lt_of_le (older_iff.mp h) (not_older_iff.mp hm))

theorem not_older_total (m₁ m₂ : Version) : m₂.older m₁ = false ∨ m₁.older m₂ = false := by
  rw [not_older_iff, not_older_iff]
  exact le_total _ _

end Link.Version

open Link (Version)

/-- Two computations fail alike or have related values. -/
inductive Alike {α β : Type} (R : α → β → Prop) : Except Fault α → Except Fault β → Prop where
  | fault (f : Fault) : Alike R (.error f) (.error f)
  | value {a : α} {b : β} (h : R a b) : Alike R (.ok a) (.ok b)

namespace Alike

variable {α β γ δ : Type} {R : α → β → Prop} {S : γ → δ → Prop} {x : Except Fault α}
  {y : Except Fault β} {f : α → Except Fault γ} {g : β → Except Fault δ}

theorem refl (x : Except Fault α) : Alike Eq x x := by
  cases x with
  | error f => exact fault f
  | ok a => exact value rfl

theorem bind (h : Alike R x y) (hfg : ∀ a b, R a b → Alike S (f a) (g b)) :
    Alike S (x >>= f) (y >>= g) := by
  cases h with
  | fault f => exact fault f
  | value h => exact hfg _ _ h

end Alike

section Kept

variable {about : Element → Report → Prop} {rs rs' ss ss' : List Report}

/-- Every element of some reports is named again by a report that tells the right thing of it. -/
def Kept (about : Element → Report → Prop) (rs ss : List Report) : Prop :=
  ∀ r ∈ rs, ∀ e ∈ r.elements, ∃ s ∈ ss, about e s

theorem kept_nil (ss : List Report) : Kept about [] ss := nofun

theorem Kept.append (h : Kept about rs ss) (h' : Kept about rs' ss') :
    Kept about (rs ++ rs') (ss ++ ss') := by
  intro r hr e he
  rcases List.mem_append.mp hr with hr | hr
  · obtain ⟨s, hs, habout⟩ := h r hr e he
    exact ⟨s, List.mem_append_left _ hs, habout⟩
  · obtain ⟨s, hs, habout⟩ := h' r hr e he
    exact ⟨s, List.mem_append_right _ hs, habout⟩

theorem kept_one {e : Element} {r s : Report} (hr : r.elements = [e]) (hs : about e s) :
    Kept about [r] [s] := by
  intro r' hr' x hx
  obtain rfl := List.mem_singleton.mp hr'
  rw [hr] at hx
  obtain rfl := List.mem_singleton.mp hx
  exact ⟨s, List.mem_singleton_self s, hs⟩

def reportIf (x : Except Fault Bool) (r : Report) : Except Fault (List Report) := do
  if ← x then return [r] else return []

theorem reportIf_alike {about : Element → Report → Prop} {x y : Except Fault Bool} {e : Element}
    {r s : Report} (h : Alike (fun a b => a = true → b = true) x y) (hr : r.elements = [e])
    (hs : about e s) :
    Alike (Kept about) (reportIf x r) (reportIf y s) := by
  refine h.bind fun a b hab => ?_
  cases a with
  | false => cases b <;> exact .value (kept_nil _)
  | true =>
    rw [hab rfl]
    exact .value (kept_one hr hs)

/-- Items that are inspected alike end two runs at the same place. -/
theorem Outcome.each_kept {α : Type} {inspect inspect' : α → Except Fault (List Report)}
    (h : ∀ a, Alike (Kept about) (inspect a) (inspect' a)) (items : List α) :
    (each inspect items).fault = (each inspect' items).fault ∧
      Kept about (each inspect items).reports (each inspect' items).reports := by
  induction items with
  | nil => exact ⟨rfl, kept_nil _⟩
  | cons a items ih =>
    have ha := h a
    rw [each, each]
    generalize inspect a = x at ha
    generalize inspect' a = y at ha
    cases ha with
    | fault f => exact ⟨rfl, kept_nil _⟩
    | value hkept => exact ⟨ih.1, hkept.append ih.2⟩

end Kept

namespace Rules

variable {minimum minimum₁ minimum₂ : String} {m m₁ m₂ : Version}

def oldJQueryReport (minimum : String) (e : Element) : Report :=
  ⟨"Found what might be an outdated version of jQuery; Bootstrap requires jQuery v" ++
    minimum ++ " or higher", [e]⟩

def outdatedReport (current version : String) (e : Element) : Report :=
  ⟨"Bootstrap version does not seem to match the version this bootlint version " ++
    "is for (" ++ current ++ "); saw what appears to be usage of Bootstrap " ++ version, [e]⟩

def jqueryReports (minimum : String) (e : Element) : Except Fault (List Report) :=
  reportIf (loadsOldJQuery minimum e) (oldJQueryReport minimum e)

def bootstrapReports (current : String) (e : Element) : Except Fault (List Report) := do
  match ← (Link.versionIn? (bootstrapLink e)).mapError Fault.link with
  | none => return []
  | some version => reportIf (isOutdated version current) (outdatedReport current version e)

theorem check_jquery (settings : Settings) (d : Document) :
    (jquery settings).check d =
      if (jqueryScripts d).isEmpty then .ofExcept ((bootstrapScripts d).map missingReports)
      else Outcome.each (jqueryReports settings.minJQueryVersion) (jqueryScripts d) := rfl

theorem bootstrapReports_some {version : String} {e : Element}
    (h : Link.versionIn? (bootstrapLink e) = .ok (some version)) (current : String) :
    bootstrapReports current e =
      reportIf (isOutdated version current) (outdatedReport current version e) := by
  have hread : (Link.versionIn? (bootstrapLink e)).mapError Fault.link = .ok (some version) := by
    rw [h]
    rfl
  rw [bootstrapReports, hread]
  exact pure_bind (some version) _

theorem isOutdated_eq (hm : Version.parse minimum = .ok (some m)) (version : String) :
    isOutdated version minimum = match Version.parse version with
      | .error e => .error (.number e)
      | .ok none => .ok false
      | .ok (some v) => .ok (v.older m) := by
  rw [isOutdated, Link.isOlderThan, hm]
  cases Version.parse version with
  | error e => rfl
  | ok found =>
    cases found with
    | none => rfl
    | some v => rfl

section Comparisons

variable (h₁ : Version.parse minimum₁ = .ok (some m₁)) (h₂ : Version.parse minimum₂ = .ok (some m₂))
  (hm : m₂.older m₁ = false)

include h₁ h₂ hm

theorem isOutdated_alike (version : String) :
    Alike (fun a b => a = true → b = true) (isOutdated version minimum₁)
      (isOutdated version minimum₂) := by
  rw [isOutdated_eq h₁, isOutdated_eq h₂]
  cases Version.parse version with
  | error e => exact .fault _
  | ok found =>
    cases found with
    | none => exact .value fun h => h
    | some v => exact .value fun h => Link.Version.older_of_not_older h hm

theorem loadsOldJQuery_alike (e : Element) :
    Alike (fun a b => a = true → b = true) (loadsOldJQuery minimum₁ e)
      (loadsOldJQuery minimum₂ e) := by
  refine (Alike.refl _).bind fun segments _ hsegments => ?_
  subst hsegments
  split
  · split
    · exact isOutdated_alike h₁ h₂ hm _
    · exact .value fun h => h
  · exact .value fun h => h

theorem jqueryReports_alike (e : Element) :
    Alike (Kept fun x s => s = oldJQueryReport minimum₂ x) (jqueryReports minimum₁ e)
      (jqueryReports minimum₂ e) :=
  reportIf_alike (loadsOldJQuery_alike h₁ h₂ hm e) rfl rfl

theorem bootstrapReports_alike (e : Element) :
    Alike (Kept fun x s => ∃ version, Link.versionIn? (bootstrapLink x) = .ok (some version) ∧
      s = outdatedReport minimum₂ version x) (bootstrapReports minimum₁ e)
      (bootstrapReports minimum₂ e) := by
  cases hlink : Link.versionIn? (bootstrapLink e) with
  | error f =>
    rw [bootstrapReports, bootstrapReports, hlink]
    exact .fault _
  | ok found =>
    cases found with
    | none =>
      rw [bootstrapReports, bootstrapReports, hlink]
      exact .value (kept_nil _)
    | some version =>
      rw [bootstrapReports_some hlink, bootstrapReports_some hlink]
      exact reportIf_alike (isOutdated_alike h₁ h₂ hm version) rfl ⟨version, hlink, rfl⟩

end Comparisons

theorem jquery_keeps {settings₁ settings₂ : Settings}
    (h₁ : Version.parse settings₁.minJQueryVersion = .ok (some m₁))
    (h₂ : Version.parse settings₂.minJQueryVersion = .ok (some m₂))
    (hm : m₂.older m₁ = false) (d : Document) :
    ((jquery settings₁).check d).fault = ((jquery settings₂).check d).fault ∧
      Kept (fun e s => s = oldJQueryReport settings₂.minJQueryVersion e)
        ((jquery settings₁).check d).reports ((jquery settings₂).check d).reports := by
  rw [check_jquery, check_jquery]
  split
  · refine ⟨rfl, fun r hr e he => ?_⟩
    cases hfound : bootstrapScripts d with
    | error f =>
      rw [hfound] at hr
      cases hr
    | ok scripts =>
      rw [hfound] at hr
      obtain rfl := List.mem_singleton.mp hr
      cases he
  · exact Outcome.each_kept (jqueryReports_alike h₁ h₂ hm) _

theorem outdatedBootstrap_keeps {settings₁ settings₂ : Settings}
    (h₁ : Version.parse settings₁.currentBootstrapVersion = .ok (some m₁))
    (h₂ : Version.parse settings₂.currentBootstrapVersion = .ok (some m₂))
    (hm : m₂.older m₁ = false) (d : Document) :
    ((outdatedBootstrap settings₁).check d).fault = ((outdatedBootstrap settings₂).check d).fault ∧
      Kept (fun e s => ∃ version, Link.versionIn? (bootstrapLink e) = .ok (some version) ∧
          s = outdatedReport settings₂.currentBootstrapVersion version e)
        ((outdatedBootstrap settings₁).check d).reports
        ((outdatedBootstrap settings₂).check d).reports :=
  Outcome.each_kept (bootstrapReports_alike h₁ h₂ hm) _

/-- Whether a rule on the versions in links fails does not depend on its threshold, as long as that
is a version. What it reports as outdated it also reports with a threshold that is not older. -/
theorem raised_thresholds_keep_findings (settings₁ settings₂ : Settings) (d : Document) :
    (∀ m₁ m₂, Version.parse settings₁.minJQueryVersion = .ok (some m₁) →
      Version.parse settings₂.minJQueryVersion = .ok (some m₂) →
        ((jquery settings₁).check d).fault = ((jquery settings₂).check d).fault ∧
        (m₂.older m₁ = false → ∀ r ∈ ((jquery settings₁).check d).reports, ∀ e ∈ r.elements,
          oldJQueryReport settings₂.minJQueryVersion e ∈ ((jquery settings₂).check d).reports)) ∧
    ∀ m₁ m₂, Version.parse settings₁.currentBootstrapVersion = .ok (some m₁) →
      Version.parse settings₂.currentBootstrapVersion = .ok (some m₂) →
        ((outdatedBootstrap settings₁).check d).fault =
          ((outdatedBootstrap settings₂).check d).fault ∧
        (m₂.older m₁ = false → ∀ r ∈ ((outdatedBootstrap settings₁).check d).reports,
          ∀ e ∈ r.elements, ∃ version, Link.versionIn? (bootstrapLink e) = .ok (some version) ∧
            outdatedReport settings₂.currentBootstrapVersion version e ∈
              ((outdatedBootstrap settings₂).check d).reports) := by
  constructor
  · intro m₁ m₂ h₁ h₂
    constructor
    · rcases Link.Version.not_older_total m₁ m₂ with hm | hm
      · exact (jquery_keeps h₁ h₂ hm d).1
      · exact (jquery_keeps h₂ h₁ hm d).1.symm
    · intro hm r hr e he
      obtain ⟨s, hs, rfl⟩ := (jquery_keeps h₁ h₂ hm d).2 r hr e he
      exact hs
  · intro m₁ m₂ h₁ h₂
    constructor
    · rcases Link.Version.not_older_total m₁ m₂ with hm | hm
      · exact (outdatedBootstrap_keeps h₁ h₂ hm d).1
      · exact (outdatedBootstrap_keeps h₂ h₁ hm d).1.symm
    · intro hm r hr e he
      obtain ⟨s, hs, version, hversion, rfl⟩ := (outdatedBootstrap_keeps h₁ h₂ hm d).2 r hr e he
      exact ⟨version, hversion, hs⟩

/-- Thresholds that are a release candidate and a post-release. -/
def earlySettings : Settings :=
  { minJQueryVersion := "3.0.0rc1", currentBootstrapVersion := "3.3.7.post1" }

def laterSettings : Settings :=
  { minJQueryVersion := "v3.0+local.1", currentBootstrapVersion := "4.0.0.dev0" }

def agedLinksText : String :=
  "<script src=\"//x.org/2.2.4/jquery.min.js\"></script>" ++
    "<script src=\"/3.3.7/bootstrap.js\"></script>"

def agedLinks : Document where
  content :=
    .element ⟨"script", [("src", .text "//x.org/2.2.4/jquery.min.js")], some ⟨1, 0⟩⟩ .nil
      (.element ⟨"script", [("src", .text "/3.3.7/bootstrap.js")], some ⟨1, 51⟩⟩ .nil .nil)
  source := some agedLinksText

theorem raised_thresholds_keep_findings_aged_links :
    (Document.read none agedLinksText).toOption = some agedLinks ∧
      ((jquery earlySettings).check agedLinks).reports.length = 1 ∧
      ((outdatedBootstrap earlySettings).check agedLinks).reports.length = 1 ∧
      (∃ m₁ m₂, Version.parse earlySettings.minJQueryVersion = .ok (some m₁) ∧
        Version.parse laterSettings.minJQueryVersion = .ok (some m₂) ∧ m₂.older m₁ = false ∧
        ∀ r ∈ ((jquery earlySettings).check agedLinks).reports, ∀ e ∈ r.elements,
          oldJQueryReport laterSettings.minJQueryVersion e ∈
            ((jquery laterSettings).check agedLinks).reports) ∧
      ∃ m₁ m₂, Version.parse earlySettings.currentBootstrapVersion = .ok (some m₁) ∧
        Version.parse laterSettings.currentBootstrapVersion = .ok (some m₂) ∧
        m₂.older m₁ = false ∧
        ((outdatedBootstrap earlySettings).check agedLinks).fault =
          ((outdatedBootstrap laterSettings).check agedLinks).fault ∧
        ∀ r ∈ ((outdatedBootstrap earlySettings).check agedLinks).reports, ∀ e ∈ r.elements,
          ∃ version, Link.versionIn? (bootstrapLink e) = .ok (some version) ∧
            outdatedReport laterSettings.currentBootstrapVersion version e ∈
              ((outdatedBootstrap laterSettings).check agedLinks).reports := by
  obtain ⟨hjquery, hbootstrap⟩ :=
    raised_thresholds_keep_findings earlySettings laterSettings agedLinks
  refine ⟨by decide +kernel, by decide +kernel, by decide +kernel,
    ⟨⟨0, [3, 0, 0], some (.candidate, 1), none, none, none⟩,
      ⟨0, [3, 0], none, none, none, some [.word "local", .number 1]⟩, rfl, rfl, by decide, ?_⟩,
    ⟨0, [3, 3, 7], none, some 1, none, none⟩, ⟨0, [4, 0, 0], none, none, some 0, none⟩, rfl, rfl,
      by decide, (hbootstrap _ _ rfl rfl).1, ?_⟩
  · exact (hjquery _ _ rfl rfl).2 (by decide)
  · exact (hbootstrap _ _ rfl rfl).2 (by decide)

end Rules

end MarkupLint
