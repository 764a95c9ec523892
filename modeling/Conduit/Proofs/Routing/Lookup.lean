import Conduit.Proofs.Routing.Shape

/-! # What a tree holds

A tree maps classified patterns to verbs. An insertion adds verbs under one pattern and changes
what no other holds. -/

namespace Conduit.Routing.Node

variable {α : Type}

variable {pattern : String} {verbs : Verbs α}

/-- The child that a segment of a pattern leads to, under the name that it has there. -/
def into? (n : Node α) (s : Segment) : Option (Node α) :=
  (n.child? (segmentName s) s).filter (·.segment = s)

/-- What is registered under a classified pattern. -/
def at? : List Segment → Node α → Option (Verbs α)
  | [], n => n.verbs
  | s :: rest, n => (n.into? s).bind (at? rest)

theorem into?_literal {n : Node α} (hn : n.Tidy) (text : String) :
    n.into? (.literal text) = n.literal? text := by
  simp only [into?, child?, segmentName, literal?]
  cases hc : findIn text n.literals with
  | none => rfl
  | some c =>
      obtain ⟨hmem, htext⟩ := mem_of_findIn hc
      simp [hn.literal c hmem, htext]

theorem at?_of_isLeaf {n : Node α} (hn : n.IsLeaf) (s : Segment) (rest : List Segment) :
    at? (s :: rest) n = none := by
  simp [at?, into?, hn.child?_eq_none]

/-- A literal's name is its text, so the child for a segment is found by the text too. -/
theorem into?_classify (n : Node α) (text : String) :
    n.into? (Segment.classify text) =
      (n.child? text (Segment.classify text)).filter (·.segment = Segment.classify text) := by
  cases hk : Segment.classify text with
  | literal t => rw [into?, segmentName, Segment.classify_eq_literal hk]
  | param name => rfl
  | wildcard name => rfl

theorem at?_cons_eq {n : Node α} {text : String}
    (h : (n.childFor text (Segment.classify text)).segment = Segment.classify text)
    (key : List Segment) :
    at? (Segment.classify text :: key) n = at? key (n.childFor text (Segment.classify text)) := by
  rw [at?, into?_classify]
  cases hc : n.child? text (Segment.classify text) with
  | none =>
      rw [childFor_of_none hc]
      cases key with
      | nil => rfl
      | cons s key => simp [at?_of_isLeaf (isLeaf_leaf _ _)]
  | some c =>
      rw [childFor_of_some hc] at h ⊢
      simp [Option.filter, h]

theorem filter_child?_eq_none {n : Node α} {text : String} {s q : Segment}
    (hslot : (n.childFor text s).segment = s) (hq : q ≠ s) :
    (n.child? text s).filter (·.segment = q) = none := by
  simp only [Option.filter_eq_none_iff, decide_eq_true_eq]
  intro c hc hcq
  rw [childFor_of_some hc] at hslot
  exact hq (hcq.symm.trans hslot)

theorem into?_withChild_self {n c : Node α} {s : Segment} (hn : n.Tidy) (hs : c.segment = s)
    (hliteral : ∀ t, s = .literal t → c.text = t) : (n.withChild c s).into? s = some c := by
  cases s with
  | literal t => simp [into?, child?, segmentName, literal?, withChild,
      findIn_putIn c hn.sorted, hliteral t rfl, hs]
  | param name => simp [into?, child?, withChild, hs]
  | wildcard name => simp [into?, child?, withChild, hs]

theorem into?_withChild_of_ne {n c : Node α} {text : String} {s q : Segment} (hn : n.Tidy)
    (hs : c.segment = s) (hliteral : ∀ t, s = .literal t → c.text = t)
    (hslot : (n.childFor text s).segment = s) (hq : q ≠ s) :
    (n.withChild c s).into? q = n.into? q := by
  have hc : ¬ c.segment = q := fun h => hq (h.symm.trans hs)
  have hfree := filter_child?_eq_none hslot hq
  cases s with
  | literal t =>
      cases q with
      | literal u =>
          have hut : ¬ u = t := fun h => hq (h ▸ rfl)
          simp [into?, child?, segmentName, literal?, withChild, findIn_putIn c hn.sorted,
            hliteral t rfl, hut]
      | param name => simp [into?, child?, withChild]
      | wildcard name => simp [into?, child?, withChild]
  | param name =>
      cases q with
      | literal u => simp [into?, child?, literal?, withChild]
      | param other =>
          have hfree' : n.into? (.param other) = none := hfree
          rw [hfree']
          simp [into?, child?, withChild, Option.filter, hc]
      | wildcard other => simp [into?, child?, withChild]
  | wildcard name =>
      cases q with
      | literal u => simp [into?, child?, literal?, withChild]
      | param other => simp [into?, child?, withChild]
      | wildcard other =>
          have hfree' : n.into? (.wildcard other) = none := hfree
          rw [hfree']
          simp [into?, child?, withChild, Option.filter, hc]

/-- Verbs put under a key are added to what is there; every other key holds what it held. -/
theorem at?_put {texts : List String} {n : Node α} (hn : n.WellFormed)
    (h : (put pattern verbs (partsOf texts) n).2 = none) (q : List Segment) :
    at? q (put pattern verbs (partsOf texts) n).1 =
      if q = texts.map Segment.classify then
        some ((at? (texts.map Segment.classify) n).elim verbs (·.merge verbs))
      else at? q n := by
  induction texts generalizing n q with
  | nil =>
      cases q with
      | nil => simp [partsOf, put, at?]
      | cons s q =>
          have hsame : (n.addVerbs verbs).into? s = n.into? s := by
            unfold addVerbs
            cases n.verbs <;> cases s <;> rfl
          simp [partsOf, put, at?, hsame]
  | cons text rest ih =>
      rw [partsOf, List.map_cons, ← partsOf] at h ⊢
      by_cases hs : (n.childFor text (Segment.classify text)).segment = Segment.classify text
      · rw [put_cons_of_eq hs] at h ⊢
        have hliteral : ∀ t, Segment.classify text = .literal t →
            (put pattern verbs (partsOf rest)
              (n.childFor text (Segment.classify text))).1.text = t := by
          intro t ht
          rw [put_text, ht, childFor_literal_text, Segment.classify_eq_literal ht]
        cases q with
        | nil => simp [at?]
        | cons s q =>
            have hsegment : (put pattern verbs (partsOf rest)
                (n.childFor text (Segment.classify text))).1.segment = Segment.classify text := by
              rw [put_segment, hs]
            by_cases hq : s = Segment.classify text
            · subst hq
              rw [at?, into?_withChild_self hn.tidy hsegment hliteral, Option.bind_some,
                ih hn.childFor h, List.map_cons, at?_cons_eq hs, at?_cons_eq hs]
              simp
            · rw [at?, into?_withChild_of_ne hn.tidy hsegment hliteral hs hq, List.map_cons,
                if_neg (by simp [hq]), at?]
      · rw [put_cons_of_ne hs] at h
        cases h

end Conduit.Routing.Node
