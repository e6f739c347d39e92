import MarkupLint.Proofs.FindingOrder
import MarkupLint.Proofs.SourceIndependence
import MarkupLint.Proofs.StartTags
import MarkupLint.Proofs.TreeGrowth

/-! # Locations of elements

In a document that was read from a text, every element has a location: that of the `<` of its start
tag. Elements follow each other in the text as they do in the tree, so no two of them share a
location, and what a pass over the text delivers refers to each element by a location of its own.
-/
namespace MarkupLint

open Document (Element Content)
open Source (Location locationAfter)

namespace Document

variable {mode : ValueMode} {reader : Option String} {text : String} {c : Content} {d : Document}
  {e f : Element}

/-- The start tag of an element stands at an offset of a text, and its location is that of the
offset. -/
structure StartsAt (d : Document) (text : List Char) (e : Element) (o : Nat) : Prop where
  start : d.startOf? e = some (o : Int)
  inside : o < text.length
  opens : Markup.OpensAt text o
  location : d.locationOf? e = some (locationAfter (text.take o))

theorem places_tokenTags (mode : ValueMode) (ts : List Markup.Token) :
    (ts.flatMap (tokenTags mode)).map Tag.place = (Markup.startPlaces ts).map some := by
  induction ts with
  | nil => rfl
  | cons t ts ih =>
    rw [List.flatMap_cons, List.map_append, ih]
    cases t <;> rfl

theorem parse_places (h : Content.parse mode text = .ok c) :
    ∃ os : List Nat, os.Pairwise (· < ·) ∧ (∀ o ∈ os, Markup.OpensAt text.toList o) ∧
      c.tags.map Tag.place =
        os.map fun o => some (Markup.placeAfter .start (text.toList.take o)) := by
  unfold Content.parse at h
  cases ht : Markup.tokens text with
  | error fault =>
    rw [ht] at h
    cases h
  | ok ts =>
    rw [ht] at h
    obtain rfl := Except.ok.inj h
    obtain ⟨os, hasc, hopens, hplaces⟩ := Markup.startPlaces_tokens ht
    refine ⟨os, hasc, hopens, ?_⟩
    rw [Content.tags_ofTokens, places_tokenTags, hplaces, List.map_map]
    rfl

theorem read_ok (h : Document.read reader text = .ok d) :
    Content.parse .split text = .ok d.content ∧ d.source = some text := by
  unfold Document.read readContent at h
  dsimp only at h
  split at h
  · cases hp : Content.parse .split text with
    | error fault =>
      rw [hp] at h
      cases h
    | ok content =>
      rw [hp] at h
      obtain rfl := Except.ok.inj h
      exact ⟨rfl, rfl⟩
  · cases h

theorem lt_length_of_opensAt {cs : List Char} {o : Nat} (h : Markup.OpensAt cs o) :
    o < cs.length :=
  (List.getElem?_eq_some_iff.mp h.1).1

theorem read_starts (h : Document.read reader text = .ok d) :
    ∃ os : List Nat, os.Pairwise (· < ·) ∧ (∀ o ∈ os, Markup.OpensAt text.toList o) ∧
      d.elements.map d.startOf? = os.map fun o : Nat => some (o : Int) := by
  obtain ⟨hparse, hsource⟩ := read_ok h
  obtain ⟨os, hasc, hopens, hplaces⟩ := parse_places hparse
  refine ⟨os, hasc, hopens, ?_⟩
  have hstart : d.startOf? = (fun place : Option Source.Position =>
      place.bind fun p => (Source.LineIndex.ofText text).offsetOf p.line p.column) ∘
        fun e => e.tag.place := by
    funext e
    simp only [startOf?, hsource, Function.comp_apply]
    cases e.tag.place <;> rfl
  have htags : d.elements.map (fun e => e.tag.place) = d.content.tags.map Tag.place := by
    rw [← d.content.map_tag_elements [] 0, List.map_map]
    rfl
  rw [hstart, ← List.map_map, htags, hplaces, List.map_map]
  apply List.map_congr_left
  intro o ho
  have hle := Nat.le_of_lt (lt_length_of_opensAt (hopens o ho))
  have hplace : Markup.placeAfter .start (text.toList.take o) = _ :=
    Source.foldl_after_start (text.toList.take o)
  simp only [Function.comp_apply, Option.bind_some, hplace]
  exact Source.LineIndex.offsetOf_eq hle

theorem startsAt_of_start (h : Document.read reader text = .ok d) (he : e ∈ d.elements) :
    ∃ o, d.StartsAt text.toList e o := by
  obtain ⟨os, -, hopens, hstarts⟩ := read_starts h
  have hmem : d.startOf? e ∈ os.map fun o : Nat => some (o : Int) :=
    hstarts ▸ List.mem_map_of_mem he
  obtain ⟨o, ho, hstart⟩ := List.mem_map.mp hmem
  have hlt := lt_length_of_opensAt (hopens o ho)
  refine ⟨o, hstart.symm, hlt, hopens o ho, ?_⟩
  unfold locationOf?
  rw [(read_ok h).2, ← hstart]
  exact Source.LineIndex.locationOf_eq (Nat.le_of_lt hlt)

theorem starts_ascending (h : Document.read reader text = .ok d) :
    d.elements.Pairwise fun e f =>
      ∃ o p, d.startOf? e = some o ∧ d.startOf? f = some p ∧ o < p := by
  obtain ⟨os, hasc, -, hstarts⟩ := read_starts h
  have hpairs : (os.map fun o : Nat => some (o : Int)).Pairwise fun a b =>
      ∃ o p, a = some o ∧ b = some p ∧ o < p := by
    refine List.pairwise_map.mpr (hasc.imp ?_)
    intro o p hlt
    exact ⟨o, p, rfl, rfl, Int.ofNat_lt.mpr hlt⟩
  rw [← hstarts] at hpairs
  exact List.pairwise_map.mp hpairs

/-- A location says at which offset it stands. -/
theorem offset_of_locationAfter {cs : List Char} {o p : Nat} (ho : o ≤ cs.length)
    (hp : p ≤ cs.length) (h : locationAfter (cs.take o) = locationAfter (cs.take p)) : o = p := by
  simp only [locationAfter, Location.mk.injEq] at h
  have hline : 1 + (cs.take o).count '\n' = 1 + (cs.take p).count '\n' := by omega
  have hcolumn : Source.sinceBreak (cs.take o) = Source.sinceBreak (cs.take p) := by omega
  have hoffset := Source.LineIndex.offsetOf_eq ho
  rw [hline, hcolumn, Source.LineIndex.offsetOf_eq hp] at hoffset
  exact (Int.ofNat_inj.mp (Option.some.inj hoffset)).symm

theorem eq_of_location_eq (h : Document.read reader text = .ok d) (he : e ∈ d.elements)
    (hf : f ∈ d.elements) (hl : d.locationOf? e = d.locationOf? f) : e = f := by
  obtain ⟨o, heo⟩ := startsAt_of_start h he
  obtain ⟨p, hfp⟩ := startsAt_of_start h hf
  rw [heo.location, hfp.location] at hl
  have hop : o = p := offset_of_locationAfter (Nat.le_of_lt heo.inside)
    (Nat.le_of_lt hfp.inside) (Option.some.inj hl)
  have hn : (d.elements.map d.startOf?).Nodup := by
    refine List.pairwise_map.mpr ((starts_ascending h).imp ?_)
    rintro a b ⟨i, j, ha, hb, hlt⟩ hab
    rw [ha, hb] at hab
    exact absurd (Option.some.inj hab) (Int.ne_of_lt hlt)
  apply List.inj_on_of_nodup_map hn he hf
  rw [heo.start, hfp.start, hop]

end Document

/-- A rule reports elements of the documents that it is given. -/
def Rule.ReportsOwn (r : Rule) : Prop :=
  ∀ (d : Document), ∀ report ∈ (r.check d).reports, ∀ e ∈ report.elements, e ∈ d.elements

def Registry.ReportsOwn (reg : Registry) : Prop := ∀ e ∈ reg.entries, e.rule.ReportsOwn

section Owners

theorem Rule.ListsInOrder.reportsOwn {r : Rule} (h : r.ListsInOrder) : r.ReportsOwn :=
  fun d report hr _ he => (h d report hr).subset he

theorem Rules.duplicateScripts_reportsOwn : Rules.duplicateScripts.ReportsOwn := by
  intro d report hr e he
  rcases bootstrapScripts_cases d with h | h
  · rw [check_duplicateScripts_ok h] at hr
    dsimp only [Outcome.ok, duplicateReports] at hr
    split at hr
    · cases hr
    · obtain rfl := List.mem_singleton.mp hr
      rcases List.mem_append.mp he with he | he
      · exact (namedScripts_inOrder _ d).subset he
      · exact (namedScripts_inOrder _ d).subset he
  · rw [check_duplicateScripts_error h] at hr
    cases hr

theorem Rules.modalStructure_reportsOwn : Rules.modalStructure.ReportsOwn := by
  intro d report hr e he
  obtain ⟨x, -, hr⟩ := List.mem_flatMap.mp hr
  unfold Rule.reportAny at hr
  split at hr
  · cases hr
  · obtain rfl := List.mem_singleton.mp hr
    dsimp only at he
    rw [wrongParents_eq] at he
    obtain ⟨y, hy, rfl⟩ := List.mem_map.mp ((eraseDups_sublist _).subset he)
    exact (misplaced_spans hy).1

theorem catalogue_reportsOwn (settings : Settings) : ∀ r ∈ catalogue settings, r.ReportsOwn := by
  intro r hr
  by_cases hscripts : r.id = .text "E007"
  · have heq : r = Rules.duplicateScripts :=
      catalogue_eq_of_id hr (by simp [catalogue, Rules.libraryRules]) hscripts
    exact heq ▸ Rules.duplicateScripts_reportsOwn
  · by_cases hparts : r.id = .text "E032"
    · have heq : r = Rules.modalStructure :=
        catalogue_eq_of_id hr (by simp [catalogue, Rules.modalRules]) hparts
      exact heq ▸ Rules.modalStructure_reportsOwn
    · exact (catalogue_listsInOrder settings r hr hscripts hparts).reportsOwn

theorem Registry.standard_reportsOwn (settings : Settings) :
    (Registry.standard settings).ReportsOwn := by
  intro e he
  obtain ⟨r, hr, hre⟩ := Registry.mem_ofRules_origin he
  obtain ⟨rfl, -⟩ := entry_spec hre
  exact catalogue_reportsOwn settings _ hr

end Owners

section Delivery

variable {l : Linter} {text : String} {disabled : Option Disabled} {result : PassResult}

theorem Linter.lintText_ok (h : l.lintText text disabled = .ok result) :
    ∃ d, Document.read (some l.settings.reader) text = .ok d ∧
      result = l.lintDocument d disabled := by
  unfold lintText at h
  cases hd : Document.read (some l.settings.reader) text with
  | error fault =>
    rw [hd] at h
    cases h
  | ok d =>
    rw [hd] at h
    exact ⟨d, rfl, (Except.ok.inj h).symm⟩

theorem Linter.lintDocument_refs {d : Document} (hown : l.registry.ReportsOwn)
    (hs : d.hasSource = true) {p : Problem} (hp : p ∈ (l.lintDocument d disabled).problems)
    {r : ElementRef} (hr : r ∈ p.elements) :
    r.element ∈ d.elements ∧ r.location = d.locationOf? r.element := by
  unfold lintDocument at hp
  dsimp only at hp
  rw [if_pos hs] at hp
  obtain ⟨q, hq, rfl⟩ := List.mem_map.mp hp
  obtain ⟨e, he, hqe⟩ := mem_runEntries hq
  obtain ⟨report, hreport, rfl⟩ := List.mem_map.mp hqe
  obtain ⟨s, hs, rfl⟩ := List.mem_map.mp hr
  obtain ⟨x, hx, rfl⟩ := List.mem_map.mp hs
  have hentry : e ∈ l.registry.entries := (List.mem_filter.mp he).1
  exact ⟨hown e hentry d report hreport x ((eraseDups_sublist _).subset hx), rfl⟩

end Delivery

/-- In a document that was read from a text, the start tag of every element begins with `<` and a
letter at an offset of its own, and the offsets ascend in document order; its location is made of
the line feeds before the offset and of the characters since the last one. Every reference that a
pass over the text delivers has the location of its element, and different elements never share
one, whatever rules are registered that report elements of the document, as all built-in rules
do. -/
theorem locations_point_at_elements (text : String) :
    (∀ reader d, Document.read reader text = .ok d →
      (∀ e ∈ d.elements, ∃ o, d.StartsAt text.toList e o) ∧
        d.elements.Pairwise fun e f =>
          ∃ o p, d.startOf? e = some o ∧ d.startOf? f = some p ∧ o < p) ∧
    (∀ settings, (Linter.standard settings).registry.ReportsOwn) ∧
    ∀ (l : Linter) disabled result, l.registry.ReportsOwn → l.lintText text disabled = .ok result →
      (∀ p ∈ result.problems, ∀ r ∈ p.elements, r.location.isSome) ∧
        ∀ p ∈ result.problems, ∀ r ∈ p.elements, ∀ q ∈ result.problems, ∀ s ∈ q.elements,
          r.location = s.location → r.element = s.element := by
  refine ⟨fun reader d h => ?_, Registry.standard_reportsOwn, ?_⟩
  · exact ⟨fun e he => Document.startsAt_of_start h he, Document.starts_ascending h⟩
  · intro l disabled result hown h
    obtain ⟨d, hread, rfl⟩ := Linter.lintText_ok h
    have hs : d.hasSource = true := by
      rw [Document.hasSource, (Document.read_ok hread).2]
      rfl
    constructor
    · intro p hp r hr
      obtain ⟨he, hl⟩ := Linter.lintDocument_refs hown hs hp hr
      obtain ⟨o, ho⟩ := Document.startsAt_of_start hread he
      rw [hl, ho.location]
      rfl
    · intro p hp r hr q hq s hs' heq
      obtain ⟨hre, hrl⟩ := Linter.lintDocument_refs hown hs hp hr
      obtain ⟨hse, hsl⟩ := Linter.lintDocument_refs hown hs hq hs'
      rw [hrl, hsl] at heq
      exact Document.eq_of_location_eq hread hre hse heq

/-- A comment and a start tag with line feeds in them, a button below, and a tag that the text ends
inside. -/
def lateButton : String := "<!--\n--><p\nid=x>\n <br class=btn><i"

def buttonLinter : Linter := ⟨⟨[⟨"E047", .error, "", Rules.buttonElements⟩]⟩, {}⟩

theorem locations_point_at_elements_late_button :
    (∃ d, Document.read none lateButton = .ok d ∧ d.elements.length = 2 ∧
      ∀ e ∈ d.elements, ∃ o, d.StartsAt lateButton.toList e o) ∧
    ∃ result, buttonLinter.lintText lateButton none = .ok result ∧
      result.problems.map (fun p => p.elements.length) = [1] ∧
      ∀ p ∈ result.problems, ∀ r ∈ p.elements, r.location.isSome := by
  obtain ⟨hplaced, -, hdelivered⟩ := locations_point_at_elements lateButton
  constructor
  · have hcount : (Document.read none lateButton).map (fun d => d.elements.length) = .ok 2 := by
      decide +kernel
    cases hread : Document.read none lateButton with
    | error fault =>
      rw [hread] at hcount
      cases hcount
    | ok d =>
      rw [hread] at hcount
      exact ⟨d, rfl, Except.ok.inj hcount, (hplaced none d hread).1⟩
  · have hcount : (buttonLinter.lintText lateButton none).map
        (fun result => result.problems.map fun p => p.elements.length) = .ok [1] := by
      decide +kernel
    have hown : buttonLinter.registry.ReportsOwn := by
      intro e he
      obtain rfl := List.mem_singleton.mp he
      exact Rule.selected_listsInOrder.reportsOwn
    cases hlint : buttonLinter.lintText lateButton none with
    | error fault =>
      rw [hlint] at hcount
      cases hcount
    | ok result =>
      rw [hlint] at hcount
      exact ⟨result, rfl, Except.ok.inj hcount, (hdelivered _ _ _ hown hlint).1⟩

end MarkupLint
