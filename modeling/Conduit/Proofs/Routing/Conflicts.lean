import Conduit.Proofs.Routing.Registrations

/-! # Patterns that exclude each other

A node has one place for a parameter and one for a wildcard, so the patterns of a tree agree on the
names there. An insertion is refused exactly if its pattern is not legal, or conflicts with one that
is registered: no node stands in the way that does not lead to a registration. -/

namespace Conduit.Routing

def Segment.shareSlot : Segment → Segment → Bool
  | .param _, .param _ => true
  | .wildcard _, .wildcard _ => true
  | _, _ => false

theorem Segment.shareSlot_comm (s t : Segment) : s.shareSlot t = t.shareSlot s := by
  cases s <;> cases t <;> rfl

/-- Where the patterns first differ, both have a parameter or both have a wildcard. -/
def conflict : List Segment → List Segment → Bool
  | s :: p, t :: q => if s = t then conflict p q else s.shareSlot t
  | _, _ => false

theorem conflict_comm (p q : List Segment) : conflict p q = conflict q p := by
  induction p generalizing q with
  | nil => cases q <;> rfl
  | cons s p ih =>
      cases q with
      | nil => rfl
      | cons t q =>
          by_cases hst : s = t
          · simp only [conflict, hst, if_true, ih q]
          · simp only [conflict, if_neg hst, if_neg (Ne.symm hst), Segment.shareSlot_comm s t]

namespace Node

variable {α : Type} {n c d : Node α} {text : String} {s t : Segment} {pattern : String}
  {verbs : Verbs α}

/-! ## What a child says about its node -/

theorem into?_of_child? (hn : n.Tidy) (hc : n.child? text s = some c) :
    n.into? c.segment = some c := by
  cases s with
  | literal t =>
      obtain ⟨hmem, htext⟩ := mem_of_findIn hc
      rw [hn.literal c hmem, into?_literal hn, htext]
      exact hc
  | param name =>
      obtain ⟨other, -, hsegment⟩ := hn.param c hc
      have hparam : n.param = some c := hc
      simp [into?, hsegment, child?, hparam, Option.filter]
  | wildcard name =>
      obtain ⟨⟨other, -, hsegment⟩, -⟩ := hn.wildcard c hc
      have hwildcard : n.wildcard = some c := hc
      simp [into?, hsegment, child?, hwildcard, Option.filter]

/-- A child under another name keeps the segment from its slot. -/
theorem shareSlot_of_child? (hn : n.Tidy)
    (hc : n.child? text (Segment.classify text) = some c)
    (hne : c.segment ≠ Segment.classify text) :
    c.segment.shareSlot (Segment.classify text) = true := by
  cases hs : Segment.classify text with
  | literal t =>
      rw [hs] at hc hne
      obtain ⟨hmem, htext⟩ := mem_of_findIn hc
      rw [hn.literal c hmem, htext, Segment.classify_eq_literal hs] at hne
      exact absurd rfl hne
  | param name =>
      rw [hs] at hc
      obtain ⟨other, -, hsegment⟩ := hn.param c hc
      rw [hsegment]
      rfl
  | wildcard name =>
      rw [hs] at hc
      obtain ⟨⟨other, -, hsegment⟩, -⟩ := hn.wildcard c hc
      rw [hsegment]
      rfl

theorem shareSlot_of_into? (hslot : (n.childFor text s).segment = s) (hts : t ≠ s)
    (hinto : n.into? t = some c) : t.shareSlot s = false := by
  have hfree := filter_child?_eq_none hslot hts
  cases t with
  | literal a => cases s <;> rfl
  | param a =>
      cases s with
      | param b =>
          have hnone : n.into? (.param a) = none := hfree
          rw [hnone] at hinto
          cases hinto
      | literal b => rfl
      | wildcard b => rfl
  | wildcard a =>
      cases s with
      | wildcard b =>
          have hnone : n.into? (.wildcard a) = none := hfree
          rw [hnone] at hinto
          cases hinto
      | literal b => rfl
      | param b => rfl

/-! ## Every node leads to a registration -/

/-- Below every child of the node, and of all nodes below it, something is registered. -/
inductive Fruitful : Node α → Prop
  | mk {n : Node α} (children : ∀ text s c, n.child? text s = some c → Fruitful c)
      (bear : ∀ text s c, n.child? text s = some c → ∃ key, (at? key c).isSome) : Fruitful n

theorem Fruitful.child (h : n.Fruitful) (hc : n.child? text s = some c) : c.Fruitful := by
  obtain ⟨children, -⟩ := h
  exact children text s c hc

theorem Fruitful.bears (h : n.Fruitful) (hc : n.child? text s = some c) :
    ∃ key, (at? key c).isSome := by
  obtain ⟨-, bear⟩ := h
  exact bear text s c hc

theorem IsLeaf.fruitful (h : n.IsLeaf) : n.Fruitful := by
  refine .mk (fun text s c hc => ?_) (fun text s c hc => ?_)
  · rw [h.child?_eq_none] at hc
    cases hc
  · rw [h.child?_eq_none] at hc
    cases hc

theorem fruitful_root : (root : Node α).Fruitful := (isLeaf_leaf _ _).fruitful

theorem Fruitful.childFor (h : n.Fruitful) : (n.childFor text s).Fruitful := by
  cases hc : n.child? text s with
  | none => exact childFor_of_none hc ▸ (isLeaf_leaf text s).fruitful
  | some c => exact childFor_of_some hc ▸ h.child hc

@[simp] theorem child?_addVerbs (n : Node α) (verbs : Verbs α) (text : String) (s : Segment) :
    (n.addVerbs verbs).child? text s = n.child? text s := by
  unfold addVerbs
  cases n.verbs <;> cases s <;> rfl

theorem eq_or_child?_of_withChild (hn : n.Tidy)
    (hd : (n.withChild c s).child? text t = some d) : d = c ∨ n.child? text t = some d := by
  cases s with
  | literal a =>
      cases t with
      | literal b =>
          simp only [withChild, child?, literal?, findIn_putIn c hn.sorted] at hd
          split at hd
          · exact .inl (Option.some.inj hd).symm
          · exact .inr hd
      | param b => exact .inr hd
      | wildcard b => exact .inr hd
  | param a =>
      cases t with
      | literal b => exact .inr hd
      | param b => exact .inl (Option.some.inj hd).symm
      | wildcard b => exact .inr hd
  | wildcard a =>
      cases t with
      | literal b => exact .inr hd
      | param b => exact .inr hd
      | wildcard b => exact .inl (Option.some.inj hd).symm

theorem Fruitful.withChild (hn : n.Tidy) (h : n.Fruitful) (hc : c.Fruitful)
    (hbears : ∃ key, (at? key c).isSome) : (n.withChild c s).Fruitful := by
  refine .mk (fun text t d hd => ?_) (fun text t d hd => ?_)
  · rcases eq_or_child?_of_withChild hn hd with rfl | hd
    · exact hc
    · exact h.child hd
  · rcases eq_or_child?_of_withChild hn hd with rfl | hd
    · exact hbears
    · exact h.bears hd

theorem Fruitful.put {texts : List String} (hn : n.WellFormed) (h : n.Fruitful)
    (hnone : (put pattern verbs (partsOf texts) n).2 = none) :
    (put pattern verbs (partsOf texts) n).1.Fruitful := by
  induction texts generalizing n with
  | nil =>
      refine .mk (fun text s c hc => ?_) (fun text s c hc => ?_)
      · exact h.child ((child?_addVerbs n verbs text s).symm.trans hc)
      · exact h.bears ((child?_addVerbs n verbs text s).symm.trans hc)
  | cons text rest ih =>
      rw [partsOf, List.map_cons, ← partsOf] at hnone ⊢
      by_cases hs : (n.childFor text (Segment.classify text)).segment = Segment.classify text
      · rw [put_cons_of_eq hs] at hnone ⊢
        refine Fruitful.withChild hn.tidy h (ih hn.childFor h.childFor hnone) ?_
        refine ⟨rest.map Segment.classify, ?_⟩
        rw [at?_put hn.childFor hnone, if_pos rfl]
        rfl
      · rw [put_cons_of_ne hs] at hnone
        cases hnone

theorem Fruitful.insert (hn : n.WellFormed) (h : n.Fruitful) (pattern : String)
    (verbs : Verbs α) : (n.insert pattern verbs).1.Fruitful := by
  cases hfault : (n.insert pattern verbs).2 with
  | some fault =>
      rw [insert_eq_self_of_fault hfault]
      exact h
  | none =>
      unfold Node.insert at hfault ⊢
      cases hparse : parsePattern pattern with
      | error fault => exact h
      | ok parts =>
          obtain ⟨-, rfl⟩ := (parsePattern_eq_ok_iff pattern parts).mp hparse
          simp only [hparse] at hfault ⊢
          exact h.put hn hfault

/-! ## When an insertion is refused -/

/-- Putting verbs at a place fails exactly if a conflicting pattern is registered. -/
theorem put_eq_none_iff {texts : List String} (hn : n.WellFormed) (h : n.Fruitful) :
    (put pattern verbs (partsOf texts) n).2 = none ↔
      ∀ q, (at? q n).isSome → conflict q (texts.map Segment.classify) = false := by
  induction texts generalizing n with
  | nil =>
      refine iff_of_true rfl fun q _ => ?_
      cases q <;> rfl
  | cons text rest ih =>
      rw [partsOf, List.map_cons, ← partsOf, List.map_cons]
      by_cases hs : (n.childFor text (Segment.classify text)).segment = Segment.classify text
      · rw [put_cons_of_eq hs, ih hn.childFor h.childFor]
        constructor
        · intro hclear q hq
          cases q with
          | nil => rfl
          | cons t q =>
              by_cases hts : t = Segment.classify text
              · subst hts
                rw [at?_cons_eq hs] at hq
                rw [conflict, if_pos rfl]
                exact hclear q hq
              · obtain ⟨found, hfound⟩ := Option.isSome_iff_exists.mp hq
                obtain ⟨c, hinto, -⟩ := Option.bind_eq_some_iff.mp hfound
                rw [conflict, if_neg hts]
                exact shareSlot_of_into? hs hts hinto
        · intro hclear q hq
          have hconflict := hclear (Segment.classify text :: q) (by rwa [at?_cons_eq hs])
          rwa [conflict, if_pos rfl] at hconflict
      · rw [put_cons_of_ne hs]
        refine iff_of_false (by simp) fun hclear => ?_
        -- The child in the way leads to a registration, which is in conflict.
        cases hc : n.child? text (Segment.classify text) with
        | none => exact hs (by rw [childFor_of_none hc]; rfl)
        | some c =>
            rw [childFor_of_some hc] at hs
            obtain ⟨key, hkey⟩ := h.bears hc
            have hheld : (at? (c.segment :: key) n).isSome := by
              rwa [at?, into?_of_child? hn.tidy hc, Option.bind_some]
            have hfree := hclear _ hheld
            rw [conflict, if_neg hs, shareSlot_of_child? hn.tidy hc hs] at hfree
            cases hfree

/-- An insertion succeeds exactly if its pattern is legal and conflicts with no registered one. -/
theorem insert_eq_none_iff (hn : n.WellFormed) (h : n.Fruitful) :
    (n.insert pattern verbs).2 = none ↔
      Legal (segmentsOf pattern) ∧
        ∀ q, (at? q n).isSome → conflict q (segmentsOf pattern) = false := by
  unfold Node.insert
  cases hparse : parsePattern pattern with
  | error fault =>
      refine iff_of_false (by simp) ?_
      rintro ⟨hlegal, -⟩
      have hok := (parsePattern_eq_ok_iff pattern _).mpr ⟨hlegal, rfl⟩
      rw [hparse] at hok
      cases hok
  | ok parts =>
      obtain ⟨hlegal, rfl⟩ := (parsePattern_eq_ok_iff pattern parts).mp hparse
      simp only [put_eq_none_iff hn h, hlegal, true_and]
      rfl

/-! ## Looking up patterns -/

theorem legal_of_at? {key : List Segment} (hn : n.WellFormed) (h : (at? key n).isSome) :
    Legal key := by
  induction key generalizing n with
  | nil => trivial
  | cons s key ih =>
      obtain ⟨verbs, hverbs⟩ := Option.isSome_iff_exists.mp h
      obtain ⟨c, hinto, hheld⟩ := Option.bind_eq_some_iff.mp hverbs
      obtain ⟨hc, hsegment⟩ := Option.filter_eq_some_iff.mp hinto
      have hsegment : c.segment = s := of_decide_eq_true hsegment
      have hkey : Legal key := ih (hn.child hc) (by rw [hheld]; rfl)
      cases s with
      | literal t => exact hkey
      | param name =>
          obtain ⟨other, hother, hname⟩ := hn.tidy.param c hc
          obtain rfl := Segment.param.inj (hname.symm.trans hsegment)
          exact ⟨hother, hkey⟩
      | wildcard name =>
          obtain ⟨⟨other, hother, hname⟩, -, hleaf⟩ := hn.tidy.wildcard c hc
          obtain rfl := Segment.wildcard.inj (hname.symm.trans hsegment)
          refine ⟨hother, ?_⟩
          cases key with
          | nil => rfl
          | cons t key =>
              rw [at?_of_isLeaf hleaf] at hheld
              cases hheld

theorem findParts_partsOf (n : Node α) (texts : List String) :
    findParts (partsOf texts) n = at? (texts.map Segment.classify) n := by
  induction texts generalizing n with
  | nil => rfl
  | cons text rest ih =>
      rw [partsOf, List.map_cons, ← partsOf, List.map_cons, at?, into?_classify, findParts]
      cases hc : n.child? text (Segment.classify text) with
      | none => rfl
      | some c =>
          by_cases hs : c.segment = Segment.classify text
          · simp [hs, ih, Option.filter]
          · simp [hs, Option.filter]

theorem findPattern_eq_at? (hn : n.WellFormed) (pattern : String) :
    n.findPattern pattern = at? (segmentsOf pattern) n := by
  rw [findPattern]
  cases hparse : parsePattern pattern with
  | error fault =>
      cases hheld : at? (segmentsOf pattern) n with
      | none => rfl
      | some verbs =>
          have hlegal := legal_of_at? hn (by rw [hheld]; rfl)
          have hok := (parsePattern_eq_ok_iff pattern _).mpr ⟨hlegal, rfl⟩
          rw [hparse] at hok
          cases hok
  | ok parts =>
      obtain ⟨-, rfl⟩ := (parsePattern_eq_ok_iff pattern parts).mp hparse
      exact findParts_partsOf n _

end Node

end Conduit.Routing
