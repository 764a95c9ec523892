import Mathlib.Data.List.Forall2
import Conduit.Proofs.Checks
import Conduit.Proofs.Text
import Conduit.Routing.Pattern

/-! # Classified patterns

A pattern counts by the list of its classified segments, so `{id}` and `:id` coincide. Reading it
succeeds exactly when the list is legal. -/

namespace Conduit.Routing

/-- The classified segments of a pattern, whether they make a legal pattern or not. -/
def segmentsOf (pattern : String) : List Segment :=
  (Text.pathSegments pattern).map Segment.classify

/-- Parameters and wildcards have names, and a wildcard ends the pattern. -/
def Legal : List Segment → Prop
  | [] => True
  | .literal _ :: rest => Legal rest
  | .param name :: rest => name ≠ "" ∧ Legal rest
  | .wildcard name :: rest => name ≠ "" ∧ rest = []

instance Legal.decidable : (pattern : List Segment) → Decidable (Legal pattern)
  | [] => .isTrue trivial
  | .literal _ :: rest => decidable rest
  | .param name :: rest =>
    have := decidable rest
    inferInstanceAs (Decidable (name ≠ "" ∧ Legal rest))
  | .wildcard name :: rest => inferInstanceAs (Decidable (name ≠ "" ∧ rest = []))

theorem legal_head {s : Segment} {rest : List Segment} (h : Legal (s :: rest)) : Legal [s] := by
  cases s with
  | literal t => trivial
  | param name => exact ⟨h.1, trivial⟩
  | wildcard name => exact ⟨h.1, rfl⟩

theorem legal_tail {s : Segment} {rest : List Segment} (h : Legal (s :: rest)) : Legal rest := by
  cases s with
  | literal t => exact h
  | param name => exact h.2
  | wildcard name => exact h.2 ▸ trivial

/-- The parts that reading a legal pattern of these texts gives. -/
def partsOf (texts : List String) : List Part :=
  texts.map fun text => ⟨text, Segment.classify text⟩

theorem Segment.classify_eq_literal {text other : String}
    (h : Segment.classify text = .literal other) : other = text := by
  unfold Segment.classify at h
  dsimp only at h
  split at h
  · cases h
  · split at h
    · cases h
    · cases h
    · exact (Segment.literal.inj h).symm

theorem legal_cons_iff (pattern : String) (s : Segment) (rest : List Segment) :
    Legal (s :: rest) ↔ s.fault? pattern rest.isEmpty = none ∧ Legal rest := by
  cases s with
  | literal text => simp [Legal, Segment.fault?]
  | param name => simp [Legal, Segment.fault?]
  | wildcard name =>
      cases rest with
      | nil => simp [Legal, Segment.fault?]
      | cons s rest => by_cases h : name = "" <;> simp [Legal, Segment.fault?, h]

theorem classifyAll_eq_ok_iff (pattern : String) (texts : List String) (parts : List Part) :
    classifyAll pattern texts = .ok parts ↔
      Legal (texts.map Segment.classify) ∧ parts = partsOf texts := by
  induction texts generalizing parts with
  | nil => simp [classifyAll, Legal, partsOf, eq_comm]
  | cons text rest ih =>
      rw [List.map_cons, legal_cons_iff pattern]
      have hlast : (rest.map Segment.classify).isEmpty = rest.isEmpty := by
        cases rest <;> rfl
      rw [hlast]
      cases hfault : (Segment.classify text).fault? pattern rest.isEmpty with
      | some fault => simp [classifyAll, hfault]
      | none =>
          simp only [classifyAll, hfault, map_eq_ok_iff, ih, true_and]
          constructor
          · rintro ⟨_, ⟨hlegal, rfl⟩, rfl⟩
            exact ⟨hlegal, rfl⟩
          · rintro ⟨hlegal, rfl⟩
            exact ⟨_, ⟨hlegal, rfl⟩, rfl⟩

/-- Reading a pattern succeeds exactly if its classified segments are legal. -/
theorem parsePattern_eq_ok_iff (pattern : String) (parts : List Part) :
    parsePattern pattern = .ok parts ↔
      Legal (segmentsOf pattern) ∧ parts = partsOf (Text.pathSegments pattern) :=
  classifyAll_eq_ok_iff pattern _ parts

/-! ## How patterns are written -/

/-- What a piece of a pattern stands for by the way it is written. -/
inductive Spells : String → Segment → Prop
  | braced (name : String) : Spells ("\x7b" ++ name ++ "\x7d") (.param name)
  | colon (name : String) : Spells (":" ++ name) (.param name)
  | star (name : String) : Spells ("*" ++ name) (.wildcard name)
  | plain (text : String) (hbraced : ∀ name, text ≠ "\x7b" ++ name ++ "\x7d")
      (hcolon : ∀ name, text ≠ ":" ++ name) (hstar : ∀ name, text ≠ "*" ++ name) :
      Spells text (.literal text)

/-- The pattern is written as pieces between slashes, and those that are not empty spell these
segments in order. -/
def Writes (pattern : String) (segments : List Segment) : Prop :=
  ∃ pieces : List String, pieces ≠ [] ∧ (∀ piece ∈ pieces, '/' ∉ piece.toList) ∧
    pattern = "/".intercalate pieces ∧ List.Forall₂ Spells (pieces.filter (· ≠ "")) segments

theorem bracedName_eq_some_iff (cs name : List Char) :
    bracedName cs = some name ↔ cs = '\x7b' :: (name ++ ['\x7d']) := by
  constructor
  · intro h
    unfold bracedName at h
    split at h
    · rename_i rest
      split at h
      · rename_i hlast
        cases h
        rw [List.dropLast_append_getLast? _ hlast]
      · cases h
    · cases h
  · rintro rfl
    simp [bracedName]

theorem spells_classify (text : String) : Spells text (Segment.classify text) := by
  unfold Segment.classify
  dsimp only
  split
  · rename_i name hname
    have htext : text = "\x7b" ++ String.ofList name ++ "\x7d" := by
      rw [← String.toList_inj, (bracedName_eq_some_iff _ _).mp hname]
      simp
    exact htext ▸ .braced _
  · rename_i hnone
    split
    · rename_i name hcs
      have htext : text = ":" ++ String.ofList name := by
        rw [← String.toList_inj, hcs]
        simp
      exact htext ▸ .colon _
    · rename_i name hcs
      have htext : text = "*" ++ String.ofList name := by
        rw [← String.toList_inj, hcs]
        simp
      exact htext ▸ .star _
    · rename_i hcolon hstar
      refine .plain text ?_ (fun name hname => ?_) fun name hname => ?_
      · rintro name rfl
        have hbraced : bracedName ("\x7b" ++ name ++ "\x7d").toList = some name.toList :=
          (bracedName_eq_some_iff _ _).mpr (by simp)
        rw [hnone] at hbraced
        cases hbraced
      · exact hcolon name.toList (by simp [hname])
      · exact hstar name.toList (by simp [hname])

theorem classify_eq_iff {text : String} {s : Segment} :
    Segment.classify text = s ↔ Spells text s := by
  refine ⟨fun h => h ▸ spells_classify text, fun h => ?_⟩
  cases h with
  | braced name =>
      have hbraced : bracedName ("\x7b" ++ name ++ "\x7d").toList = some name.toList :=
        (bracedName_eq_some_iff _ _).mpr (by simp)
      simp only [Segment.classify, hbraced, String.ofList_toList]
  | colon name => simp [Segment.classify, bracedName]
  | star name => simp [Segment.classify, bracedName]
  | plain text hbraced hcolon hstar =>
      have hspells := spells_classify text
      generalize Segment.classify text = s at hspells ⊢
      cases hspells with
      | braced name => exact absurd rfl (hbraced name)
      | colon name => exact absurd rfl (hcolon name)
      | star name => exact absurd rfl (hstar name)
      | plain => rfl

theorem writes_iff {pattern : String} {segments : List Segment} :
    Writes pattern segments ↔ segmentsOf pattern = segments := by
  have hspells : ∀ texts : List String,
      List.Forall₂ Spells texts segments ↔ texts.map Segment.classify = segments := by
    intro texts
    simp only [← List.forall₂_eq_eq_eq, List.forall₂_map_left_iff, classify_eq_iff]
  constructor
  · rintro ⟨pieces, hne, hpieces, hpattern, hsegments⟩
    have hsplit : Text.splitAt '/' pattern = pieces :=
      Text.splitAt_eq_iff.mpr ⟨hne, hpieces, hpattern⟩
    rw [segmentsOf, Text.pathSegments, hsplit]
    exact (hspells _).mp hsegments
  · intro hsegments
    obtain ⟨hne, hpieces, hpattern⟩ := Text.splitAt_eq_iff.mp (Eq.refl (Text.splitAt '/' pattern))
    exact ⟨_, hne, hpieces, hpattern, (hspells _).mpr hsegments⟩

end Conduit.Routing
