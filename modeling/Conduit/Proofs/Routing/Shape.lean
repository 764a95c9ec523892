import Conduit.Proofs.Routing.Children
import Conduit.Proofs.Routing.Patterns

/-! # The shape of the tree

Insertion keeps a tree well formed, and one that is refused leaves it exactly as it was. -/

namespace Conduit.Routing.Node

variable {α : Type}

/-! ## Well-formed nodes -/

/-- No way leads on from the node. -/
structure IsLeaf (n : Node α) : Prop where
  literals : n.literals = []
  param : n.param = none
  wildcard : n.wildcard = none

/-- Each child of the node stands in the slot of its kind. -/
structure Tidy (n : Node α) : Prop where
  sorted : Sorted n.literals
  literal : ∀ c ∈ n.literals, c.segment = .literal c.text
  param : ∀ c, n.param = some c → ∃ name, name ≠ "" ∧ c.segment = .param name
  wildcard : ∀ c, n.wildcard = some c →
    (∃ name, name ≠ "" ∧ c.segment = .wildcard name) ∧ c.verbs.isSome ∧ c.IsLeaf

/-- The node and all nodes below it are tidy. -/
inductive WellFormed : Node α → Prop
  | mk {n : Node α} (tidy : Tidy n) (literals : ∀ c ∈ n.literals, WellFormed c)
      (param : ∀ c, n.param = some c → WellFormed c) : WellFormed n

theorem WellFormed.tidy {n : Node α} : n.WellFormed → n.Tidy
  | .mk tidy _ _ => tidy

theorem isLeaf_leaf (text : String) (s : Segment) : (leaf text s : Node α).IsLeaf :=
  ⟨rfl, rfl, rfl⟩

theorem IsLeaf.child?_eq_none {n : Node α} (h : n.IsLeaf) (text : String) (s : Segment) :
    n.child? text s = none := by
  cases s with
  | literal t => simp [child?, literal?, h.literals, findIn]
  | param name => exact h.param
  | wildcard name => exact h.wildcard

theorem IsLeaf.wellFormed {n : Node α} (h : n.IsLeaf) : n.WellFormed := by
  obtain ⟨hliterals, hparam, hwildcard⟩ := h
  refine .mk ⟨?_, ?_, ?_, ?_⟩ ?_ ?_ <;> simp [hliterals, hparam, hwildcard, Sorted]

theorem wellFormed_root : (root : Node α).WellFormed := (isLeaf_leaf _ _).wellFormed

theorem WellFormed.child {n c : Node α} {text : String} {s : Segment} (h : n.WellFormed)
    (hc : n.child? text s = some c) : c.WellFormed := by
  obtain ⟨tidy, literals, param⟩ := h
  cases s with
  | literal t => exact literals c (mem_of_findIn hc).1
  | param name => exact param c hc
  | wildcard name => exact (tidy.wildcard c hc).2.2.wellFormed

/-! ## What stays of a node -/

@[simp] theorem withChild_segment (n c : Node α) (s : Segment) :
    (n.withChild c s).segment = n.segment := by cases s <;> rfl

@[simp] theorem withChild_text (n c : Node α) (s : Segment) :
    (n.withChild c s).text = n.text := by cases s <;> rfl

@[simp] theorem withChild_verbs (n c : Node α) (s : Segment) :
    (n.withChild c s).verbs = n.verbs := by cases s <;> rfl

@[simp] theorem addVerbs_segment (n : Node α) (verbs : Verbs α) :
    (n.addVerbs verbs).segment = n.segment := by
  unfold addVerbs
  split <;> rfl

@[simp] theorem addVerbs_text (n : Node α) (verbs : Verbs α) :
    (n.addVerbs verbs).text = n.text := by
  unfold addVerbs
  split <;> rfl

@[simp] theorem addVerbs_verbs (n : Node α) (verbs : Verbs α) :
    (n.addVerbs verbs).verbs = some (n.verbs.elim verbs (·.merge verbs)) := by
  unfold addVerbs
  split <;> simp [*]

theorem IsLeaf.addVerbs {n : Node α} (h : n.IsLeaf) (verbs : Verbs α) :
    (n.addVerbs verbs).IsLeaf := by
  unfold Node.addVerbs
  split
  · exact ⟨h.literals, h.param, h.wildcard⟩
  · exact ⟨h.literals, h.param, h.wildcard⟩

theorem WellFormed.addVerbs {n : Node α} (h : n.WellFormed) (verbs : Verbs α) :
    (n.addVerbs verbs).WellFormed := by
  obtain ⟨⟨sorted, literal, param, wildcard⟩, literals, params⟩ := h
  unfold Node.addVerbs
  split
  · exact .mk ⟨sorted, literal, param, wildcard⟩ literals params
  · exact .mk ⟨sorted, literal, param, wildcard⟩ literals params

theorem withChild_of_child? {n c : Node α} {text : String} {s : Segment}
    (hc : n.child? text s = some c) : n.withChild c s = n := by
  cases n with
  | mk _ _ _ literals param wildcard =>
      cases s with
      | literal t =>
          have htext : c.text = text := (mem_of_findIn hc).2
          have hput : putIn c literals = literals := putIn_of_findIn (htext ▸ hc)
          simp only [withChild, hput]
      | param name =>
          have hparam : param = some c := hc
          simp only [withChild, ← hparam]
      | wildcard name =>
          have hwildcard : wildcard = some c := hc
          simp only [withChild, ← hwildcard]

/-! ## One step of an insertion -/

section Put

variable {pattern text : String} {s : Segment} {verbs : Verbs α} {rest : List Part}
  {n : Node α}

/-- The child that an insertion goes on below: the one that is there, or a new one. -/
def childFor (n : Node α) (text : String) (s : Segment) : Node α :=
  (n.child? text s).getD (leaf text s)

theorem childFor_of_some {c : Node α} (hc : n.child? text s = some c) :
    n.childFor text s = c := by simp [childFor, hc]

theorem childFor_of_none (hc : n.child? text s = none) :
    n.childFor text s = leaf text s := by simp [childFor, hc]

theorem put_cons_of_eq (h : (n.childFor text s).segment = s) :
    put pattern verbs (⟨text, s⟩ :: rest) n =
      (n.withChild (put pattern verbs rest (n.childFor text s)).1 s,
        (put pattern verbs rest (n.childFor text s)).2) := by
  simp only [put]
  exact if_pos h

/-- A child of another name stops the way, and stays where it was. -/
theorem put_cons_of_ne (h : (n.childFor text s).segment ≠ s) :
    put pattern verbs (⟨text, s⟩ :: rest) n =
      (n, some (.conflictingName pattern (n.childFor text s).text (segmentName s))) := by
  cases hc : n.child? text s with
  | none => simp [childFor_of_none hc, leaf] at h
  | some c =>
      rw [childFor_of_some hc] at h ⊢
      simp only [put, hc, Option.getD_some, if_neg h, withChild_of_child? hc]

@[simp] theorem put_segment (parts : List Part) :
    (put pattern verbs parts n).1.segment = n.segment := by
  cases parts with
  | nil => simp [put]
  | cons part rest =>
      by_cases h : (n.childFor part.text part.segment).segment = part.segment
      · rw [put_cons_of_eq h, withChild_segment]
      · rw [put_cons_of_ne h]

@[simp] theorem put_text (parts : List Part) :
    (put pattern verbs parts n).1.text = n.text := by
  cases parts with
  | nil => simp [put]
  | cons part rest =>
      by_cases h : (n.childFor part.text part.segment).segment = part.segment
      · rw [put_cons_of_eq h, withChild_text]
      · rw [put_cons_of_ne h]

theorem put_of_isLeaf (hn : n.IsLeaf) (parts : List Part) :
    (put pattern verbs parts n).2 = none := by
  induction parts generalizing n with
  | nil => rfl
  | cons part rest ih =>
      obtain ⟨text, s⟩ := part
      have hchild := childFor_of_none (hn.child?_eq_none text s)
      rw [put_cons_of_eq (by rw [hchild]; rfl), hchild]
      exact ih (isLeaf_leaf text s)

theorem put_eq_self_of_fault {parts : List Part} {fault : PatternError}
    (h : (put pattern verbs parts n).2 = some fault) : (put pattern verbs parts n).1 = n := by
  induction parts generalizing n with
  | nil => simp [put] at h
  | cons part rest ih =>
      obtain ⟨text, s⟩ := part
      by_cases hs : (n.childFor text s).segment = s
      · rw [put_cons_of_eq hs] at h ⊢
        cases hc : n.child? text s with
        | none =>
            -- A new child is a leaf, which refuses nothing.
            rw [childFor_of_none hc, put_of_isLeaf (isLeaf_leaf text s)] at h
            cases h
        | some c =>
            rw [childFor_of_some hc] at h ⊢
            rw [ih h]
            exact withChild_of_child? hc
      · rw [put_cons_of_ne hs]

end Put

/-! ## Insertion keeps a tree well formed -/

section Step

variable {n c : Node α} {text : String} {s : Segment}

theorem childFor_literal_text (t : String) : (n.childFor text (.literal t)).text = text := by
  cases hc : n.child? text (.literal t) with
  | none => rw [childFor_of_none hc]; rfl
  | some c =>
      rw [childFor_of_some hc]
      exact (mem_of_findIn hc).2

theorem WellFormed.childFor (hn : n.WellFormed) : (n.childFor text s).WellFormed := by
  cases hc : n.child? text s with
  | none => exact childFor_of_none hc ▸ (isLeaf_leaf text s).wellFormed
  | some c => exact childFor_of_some hc ▸ hn.child hc

/-- A child may be put in the slot of its segment. A literal goes by its text; a wildcard has to
hold verbs and to lead nowhere. -/
theorem WellFormed.withChild (hn : n.WellFormed) (hc : c.WellFormed) (hs : c.segment = s)
    (hlegal : Legal [s]) (hliteral : ∀ t, s = .literal t → c.text = t)
    (hwildcard : ∀ name, s = .wildcard name → c.verbs.isSome ∧ c.IsLeaf) :
    (n.withChild c s).WellFormed := by
  obtain ⟨⟨sorted, literal, param, wildcard⟩, literals, params⟩ := hn
  cases s with
  | literal t =>
      have htext : c.text = t := hliteral t rfl
      refine .mk ⟨sorted_putIn c sorted, ?_, param, wildcard⟩ ?_ params
      · intro d hd
        rcases mem_putIn hd with rfl | hd
        · rw [hs, htext]
        · exact literal d hd
      · intro d hd
        rcases mem_putIn hd with rfl | hd
        · exact hc
        · exact literals d hd
  | param name =>
      refine .mk ⟨sorted, literal, ?_, wildcard⟩ literals ?_
      · intro d hd
        obtain rfl := Option.some.inj hd
        exact ⟨name, hlegal.1, hs⟩
      · intro d hd
        exact Option.some.inj hd ▸ hc
  | wildcard name =>
      refine .mk ⟨sorted, literal, param, ?_⟩ literals params
      intro d hd
      obtain rfl := Option.some.inj hd
      exact ⟨⟨name, hlegal.1, hs⟩, hwildcard name rfl⟩

end Step

variable {pattern : String} {verbs : Verbs α}

theorem WellFormed.put {texts : List String} {n : Node α} (hn : n.WellFormed)
    (hlegal : Legal (texts.map Segment.classify)) :
    (put pattern verbs (partsOf texts) n).1.WellFormed := by
  induction texts generalizing n with
  | nil => exact hn.addVerbs verbs
  | cons text rest ih =>
      by_cases h : (n.childFor text (Segment.classify text)).segment = Segment.classify text
      · rw [partsOf, List.map_cons, ← partsOf, put_cons_of_eq h]
        refine hn.withChild (ih hn.childFor (legal_tail hlegal)) ?_ (legal_head hlegal) ?_ ?_
        · rw [put_segment, h]
        · intro t ht
          rw [put_text, ht, childFor_literal_text, Segment.classify_eq_literal ht]
        · intro name hname
          -- A wildcard ends the pattern, so the verbs are put right below it.
          have hend : rest = [] := by
            rw [List.map_cons, hname] at hlegal
            exact List.map_eq_nil_iff.mp hlegal.2
          subst hend
          refine ⟨by simp [partsOf, Node.put], IsLeaf.addVerbs ?_ verbs⟩
          rw [hname]
          cases hc : n.child? text (.wildcard name) with
          | none => exact childFor_of_none hc ▸ isLeaf_leaf text _
          | some c => exact childFor_of_some hc ▸ (hn.tidy.wildcard c hc).2.2
      · rw [partsOf, List.map_cons, ← partsOf, put_cons_of_ne h]
        exact hn

theorem WellFormed.insert {n : Node α} (hn : n.WellFormed) (pattern : String)
    (verbs : Verbs α) : (n.insert pattern verbs).1.WellFormed := by
  unfold Node.insert
  cases hparse : parsePattern pattern with
  | error fault => exact hn
  | ok parts =>
      obtain ⟨hlegal, rfl⟩ := (parsePattern_eq_ok_iff pattern parts).mp hparse
      exact hn.put hlegal

theorem insert_eq_self_of_fault {n : Node α} {pattern : String} {verbs : Verbs α}
    {fault : PatternError} (h : (n.insert pattern verbs).2 = some fault) :
    (n.insert pattern verbs).1 = n := by
  unfold Node.insert at h ⊢
  cases hparse : parsePattern pattern with
  | error fault => rfl
  | ok parts =>
      simp only [hparse] at h ⊢
      exact put_eq_self_of_fault h

end Conduit.Routing.Node
