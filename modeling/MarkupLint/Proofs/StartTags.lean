import MarkupLint.Markup.TokenStream
import MarkupLint.Proofs.LinePlaces

/-! # Where start tags are read

A pass moves forward by at least one character and keeps count of lines and columns as it goes. A
move reads a start tag only where `<` and a letter stand, and gives it the place counted so far. So
the start tags of a text have ascending offsets, and each has the place that comes after the text
before it.
-/
namespace MarkupLint.Markup

open Source (Position)

variable {final : Bool} {raw raw' : Option String} {place : Position} {skip n o : Nat} {c : Char}
  {cs : List Char} {ts us : List Token} {r : Remainder}

def startPlaces (ts : List Token) : List Position :=
  ts.filterMap fun
    | .startTag _ _ _ place => some place
    | _ => none

def OpensAt (cs : List Char) (o : Nat) : Prop :=
  cs[o]? = some '<' ∧ ∃ c, cs[o + 1]? = some c ∧ c.isAlpha = true

theorem startPlaces_append (ts us : List Token) :
    startPlaces (ts ++ us) = startPlaces ts ++ startPlaces us :=
  List.filterMap_append

theorem opensAt_succ : OpensAt (c :: cs) (o + 1) ↔ OpensAt cs o := Iff.rfl

theorem opensAt_drop {k : Nat} : OpensAt (cs.drop k) o ↔ OpensAt cs (k + o) := by
  simp only [OpensAt, List.getElem?_drop, Nat.add_assoc]

theorem placeAfter_append (place : Position) (as bs : List Char) :
    placeAfter place (as ++ bs) = placeAfter (placeAfter place as) bs :=
  List.foldl_append

section Readings

theorem readStartTag_places (h : readStartTag place cs = .done ts n raw) :
    startPlaces ts = [] ∨ startPlaces ts = [place] := by
  -- the three outcomes with tokens: a start tag, a closed start tag, and the text of a broken one
  unfold readStartTag at h
  dsimp only at h
  split at h
  · cases h
  · split at h
    · cases h
      exact Or.inr rfl
    · cases h
  · split at h
    · cases h
      exact Or.inr rfl
    · cases h
  · split at h
    · cases h
    · cases h
      exact Or.inl rfl

theorem readBogusComment_places (h : readBogusComment cs = .done ts n raw) :
    startPlaces ts = [] := by
  unfold readBogusComment at h
  split at h <;> cases h
  rfl

theorem readEndTag_places (h : readEndTag raw cs = .done ts n raw') : startPlaces ts = [] := by
  unfold readEndTag at h
  split at h
  · cases h
  · dsimp only at h
    split at h
    · cases h
      rfl
    · split at h <;> cases h <;> rfl
    · cases h
      rfl
    · split at h
      · split at h <;> cases h
        rfl
      · split at h
        · cases h
          rfl
        · exact readBogusComment_places h

theorem readComment_places (h : readComment cs = .done ts n raw) : startPlaces ts = [] := by
  unfold readComment at h
  split at h <;> cases h
  rfl

theorem readInstruction_places (h : readInstruction cs = .done ts n raw) :
    startPlaces ts = [] := by
  unfold readInstruction at h
  split at h <;> cases h
  rfl

theorem readSection_places (h : readSection cs = .done ts n raw) : startPlaces ts = [] := by
  unfold readSection at h
  dsimp only at h
  split at h
  · cases h
  · split at h
    · cases h
    · split at h
      · cases h
      · split at h
        · split at h <;> cases h
          rfl
        · split at h
          · split at h <;> cases h
            rfl
          · cases h

theorem readDeclaration_places (h : readDeclaration cs = .done ts n raw) :
    startPlaces ts = [] := by
  unfold readDeclaration at h
  split at h
  · exact readSection_places h
  · split at h
    · split at h <;> cases h
      rfl
    · exact readBogusComment_places h

theorem readAngle_places (hc : cs[0]? = some '<')
    (h : readAngle raw place cs = .done ts n raw') :
    startPlaces ts = [] ∨ startPlaces ts = [place] ∧ OpensAt cs 0 := by
  unfold readAngle at h
  split at h
  · cases h
  · next c rest htail =>
    split at h
    · next halpha =>
      refine (readStartTag_places h).imp_right fun hp => ⟨hp, hc, c, ?_, halpha⟩
      rw [Nat.zero_add, ← List.getElem?_tail, htail]
      rfl
    · left
      split at h
      · exact readEndTag_places h
      · split at h
        · exact readComment_places h
        · split at h
          · exact readInstruction_places h
          · split at h
            · exact readDeclaration_places h
            · cases h
              rfl

end Readings

section Moves

theorem moveAtAngle_go (hc : cs[0]? = some '<')
    (h : moveAtAngle final raw place cs = .go ts n raw') :
    startPlaces ts = [] ∨ startPlaces ts = [place] ∧ OpensAt cs 0 := by
  unfold moveAtAngle at h
  split at h
  · next hr =>
    cases h
    exact readAngle_places hc hr
  · cases h
  · split at h
    · cases h
      exact Or.inl rfl
    · cases h

theorem moveAtAngle_stop (h : moveAtAngle final raw place cs = .stop ts n) :
    startPlaces ts = [] := by
  unfold moveAtAngle at h
  split at h
  · cases h
  · cases h
  · split at h <;> cases h
    rfl

theorem moveAtAmpersand_go (h : moveAtAmpersand final cs = .go ts n raw) :
    startPlaces ts = [] := by
  unfold moveAtAmpersand at h
  split at h
  · cases h
  · split at h
    · split at h
      · cases h
        rfl
      · cases h
      · split at h <;> cases h
    · split at h
      · cases h
        rfl
      · split at h <;> cases h
        rfl

theorem moveAtAmpersand_stop (h : moveAtAmpersand final cs = .stop ts n) :
    startPlaces ts = [] := by
  unfold moveAtAmpersand at h
  split at h
  · cases h
    rfl
  · split at h
    · split at h
      · cases h
      · cases h
      · split at h <;> cases h <;> rfl
    · split at h
      · cases h
      · split at h <;> cases h
        rfl

theorem rawEnd_opens {element : String} (h : rawEnd? element cs = some n) : cs[0]? = some '<' := by
  unfold rawEnd? at h
  split at h
  · next hs =>
    obtain ⟨rest, rfl⟩ := List.isPrefixOf_iff_prefix.mp hs
    rfl
  · cases h

theorem search_here {here : List Char → Option Nat} (h : Text.search here cs = some (0, n)) :
    here cs = some n := by
  cases cs with
  | nil =>
    obtain ⟨m, hm, heq⟩ := Option.map_eq_some_iff.mp h
    cases heq
    exact hm
  | cons c cs =>
    unfold Text.search at h
    split at h
    · next hm =>
      cases h
      exact hm
    · obtain ⟨m, -, heq⟩ := Option.map_eq_some_iff.mp h
      cases heq

/-- A move that goes on reads at most one start tag, and that one where the move begins. -/
theorem moveAt_go (h : moveAt final raw place cs = .go ts n raw') :
    startPlaces ts = [] ∨ startPlaces ts = [place] ∧ OpensAt cs 0 := by
  unfold moveAt at h
  split at h
  · split at h
    · cases h
    · next hs => exact moveAtAngle_go (rawEnd_opens (search_here hs)) h
    · cases h
      exact Or.inl rfl
  · split at h
    · next hc =>
      rw [List.head?_eq_getElem?] at hc
      exact moveAtAngle_go hc h
    · exact Or.inl (moveAtAmpersand_go h)
    · cases h
      exact Or.inl rfl

theorem moveAt_stop (h : moveAt final raw place cs = .stop ts n) : startPlaces ts = [] := by
  unfold moveAt at h
  split at h
  · split at h
    · cases h
      rfl
    · exact moveAtAngle_stop h
    · cases h
  · split at h
    · exact moveAtAngle_stop h
    · exact moveAtAmpersand_stop h
    · cases h

end Moves

/-- What a pass from a place on leaves behind: start tags at ascending offsets before the one where
it stops, each with the place that comes after the characters before it. -/
structure Passed (place : Position) (cs : List Char) (ts : List Token) (r : Remainder)
    (os : List Nat) (stop : Nat) : Prop where
  places : startPlaces ts = os.map fun o => placeAfter place (cs.take o)
  ascending : os.Pairwise (· < ·)
  opens : ∀ o ∈ os, OpensAt cs o
  before : ∀ o ∈ os, o < stop
  rest : r.rest = cs.drop stop
  place : r.place = placeAfter place (cs.take stop)

namespace Passed

variable {os : List Nat} {stop : Nat}

theorem back (h : Passed (place.after c) cs ts r os stop) :
    Passed place (c :: cs) ts r (os.map (· + 1)) (stop + 1) where
  places := by
    rw [h.places, List.map_map]
    rfl
  ascending := List.pairwise_map.mpr (h.ascending.imp Nat.succ_lt_succ)
  opens := List.forall_mem_map.mpr fun o ho => opensAt_succ.mpr (h.opens o ho)
  before := List.forall_mem_map.mpr fun o ho => Nat.succ_lt_succ (h.before o ho)
  rest := h.rest
  place := h.place

theorem prepend (h : Passed place cs ts r os stop) (hu : startPlaces us = []) :
    Passed place cs (us ++ ts) r os stop :=
  { h with places := by rw [startPlaces_append, hu, List.nil_append, h.places] }

theorem prependTag (h : Passed place cs ts r os stop) (hu : startPlaces us = [place])
    (ho : OpensAt cs 0) (hpos : ∀ o ∈ os, 0 < o) (hs : 0 < stop) :
    Passed place cs (us ++ ts) r (0 :: os) stop where
  places := by
    rw [startPlaces_append, hu, h.places]
    rfl
  ascending := List.pairwise_cons.mpr ⟨hpos, h.ascending⟩
  opens := List.forall_mem_cons.mpr ⟨ho, h.opens⟩
  before := List.forall_mem_cons.mpr ⟨hs, h.before⟩
  rest := h.rest
  place := h.place

theorem append {r' : Remainder} {os' : List Nat} {stop' : Nat}
    (h : Passed place cs ts r os stop) (h' : Passed r.place r.rest us r' os' stop') :
    Passed place cs (ts ++ us) r' (os ++ os'.map (stop + ·)) (stop + stop') where
  places := by
    rw [startPlaces_append, h.places, h'.places, h.rest, h.place, List.map_append, List.map_map]
    congr 1
    apply List.map_congr_left
    intro o _
    rw [Function.comp_apply, List.take_add, placeAfter_append]
  ascending := by
    refine List.pairwise_append.mpr ⟨h.ascending, ?_, ?_⟩
    · exact List.pairwise_map.mpr (h'.ascending.imp fun hlt => by omega)
    · intro o ho p hp
      obtain ⟨q, -, rfl⟩ := List.mem_map.mp hp
      have := h.before o ho
      omega
  opens := by
    refine List.forall_mem_append.mpr ⟨h.opens, List.forall_mem_map.mpr fun o ho => ?_⟩
    have hopen := h'.opens o ho
    rw [h.rest] at hopen
    exact opensAt_drop.mp hopen
  before := by
    refine List.forall_mem_append.mpr ⟨fun o ho => ?_, List.forall_mem_map.mpr fun o ho => ?_⟩
    · have := h.before o ho
      omega
    · have := h'.before o ho
      omega
  rest := by rw [h'.rest, h.rest, List.drop_drop]
  place := by rw [h'.place, h.place, h.rest, List.take_add, placeAfter_append]

end Passed

/-- By induction on the text: a skipped character moves all offsets by one, and so does one that is
read, with what is read there in front. -/
theorem pass_passed (h : pass final raw place skip cs = .ok (ts, r)) :
    ∃ os stop, Passed place cs ts r os stop := by
  induction cs generalizing raw place skip ts r with
  | nil =>
    cases h
    exact ⟨[], 0, rfl, List.Pairwise.nil, by simp, by simp, rfl, rfl⟩
  | cons c cs ih =>
    unfold pass at h
    split at h
    · obtain ⟨os, stop, hp⟩ := ih h
      exact ⟨_, _, hp.back⟩
    · split at h
      · cases h
      · next tokens length hm =>
        cases h
        refine ⟨[], length, ?_, List.Pairwise.nil, by simp, by simp, rfl, rfl⟩
        exact moveAt_stop hm
      · next tokens length next hm =>
        cases hrest : pass final next (place.after c) (length - 1) cs with
        | error e =>
          rw [hrest] at h
          cases h
        | ok result =>
          rw [hrest] at h
          cases h
          obtain ⟨os, stop, hp⟩ := ih hrest
          rcases moveAt_go hm with hnone | ⟨htag, hopen⟩
          · exact ⟨_, _, hp.back.prepend hnone⟩
          · refine ⟨_, _, hp.back.prependTag htag hopen ?_ (Nat.succ_pos stop)⟩
            exact List.forall_mem_map.mpr fun o _ => Nat.succ_pos o

/-- The start tags of a text stand at ascending offsets, each with `<` and a letter there and with
the place that comes after the text before it. -/
theorem startPlaces_tokens {text : String} (h : tokens text = .ok ts) :
    ∃ os : List Nat, os.Pairwise (· < ·) ∧ (∀ o ∈ os, OpensAt text.toList o) ∧
      startPlaces ts = os.map fun o => placeAfter .start (text.toList.take o) := by
  unfold tokens at h
  cases hfirst : pass false none .start 0 text.toList with
  | error e =>
    rw [hfirst] at h
    cases h
  | ok first =>
    rw [hfirst] at h
    change (pass true first.2.raw first.2.place 0 first.2.rest >>= _) = _ at h
    cases hsecond : pass true first.2.raw first.2.place 0 first.2.rest with
    | error e =>
      rw [hsecond] at h
      cases h
    | ok second =>
      rw [hsecond] at h
      obtain ⟨os, _, hp⟩ := pass_passed hfirst
      obtain ⟨os', _, hp'⟩ := pass_passed hsecond
      have hboth := hp.append hp'
      refine ⟨_, hboth.ascending, hboth.opens, ?_⟩
      -- what the second pass leaves is text
      obtain rfl := Except.ok.inj h
      rw [startPlaces_append, hboth.places]
      split <;> exact List.append_nil _

end MarkupLint.Markup
