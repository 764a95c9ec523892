import Mathlib.Data.String.Basic
import Conduit.Routing.Tree

/-! # Literal children

Literal children are kept in strictly increasing order of their texts. In such a list the search
finds a child exactly if it is there, and putting a child in its place disturbs no other. -/

namespace Conduit.Routing.Node

variable {α : Type}

def Sorted (children : List (Node α)) : Prop :=
  children.Pairwise fun a b => a.text < b.text

section Equations

variable {text : String} {c child : Node α} {rest : List (Node α)}

theorem findIn_cons_of_eq (h : text = c.text) : findIn text (c :: rest) = some c := by
  rw [findIn, if_pos h.symm]

theorem findIn_cons_of_lt (h : text < c.text) : findIn text (c :: rest) = none := by
  rw [findIn, if_neg h.ne', if_pos h]

theorem findIn_cons_of_gt (h : c.text < text) :
    findIn text (c :: rest) = findIn text rest := by
  rw [findIn, if_neg h.ne, if_neg h.not_gt]

theorem putIn_cons_of_eq (h : child.text = c.text) : putIn child (c :: rest) = child :: rest := by
  rw [putIn, if_pos h.symm]

theorem putIn_cons_of_lt (h : child.text < c.text) :
    putIn child (c :: rest) = child :: c :: rest := by
  rw [putIn, if_neg h.ne', if_pos h]

theorem putIn_cons_of_gt (h : c.text < child.text) :
    putIn child (c :: rest) = c :: putIn child rest := by
  rw [putIn, if_neg h.ne, if_neg h.not_gt]

end Equations

theorem mem_of_findIn {text : String} {children : List (Node α)} {child : Node α}
    (h : findIn text children = some child) : child ∈ children ∧ child.text = text := by
  induction children with
  | nil => simp [findIn] at h
  | cons c rest ih =>
      rcases lt_trichotomy text c.text with hlt | heq | hgt
      · simp [findIn_cons_of_lt hlt] at h
      · rw [findIn_cons_of_eq heq] at h
        obtain rfl := Option.some.inj h
        exact ⟨List.mem_cons_self, heq.symm⟩
      · rw [findIn_cons_of_gt hgt] at h
        exact ⟨List.mem_cons_of_mem c (ih h).1, (ih h).2⟩

/-- The search misses no child: those behind the place of a text have greater texts. -/
theorem findIn_eq_some_iff {text : String} {children : List (Node α)} (hs : Sorted children)
    (child : Node α) :
    findIn text children = some child ↔ child ∈ children ∧ child.text = text := by
  refine ⟨mem_of_findIn, ?_⟩
  rintro ⟨hmem, rfl⟩
  induction children with
  | nil => simp at hmem
  | cons c rest ih =>
      obtain ⟨hc, hrest⟩ := List.pairwise_cons.mp hs
      rcases List.mem_cons.mp hmem with rfl | hmem
      · exact findIn_cons_of_eq rfl
      · rw [findIn_cons_of_gt (hc child hmem), ih hrest hmem]

theorem mem_putIn {child c : Node α} {children : List (Node α)} (h : c ∈ putIn child children) :
    c = child ∨ c ∈ children := by
  induction children with
  | nil => simpa [putIn] using h
  | cons first rest ih =>
      rcases lt_trichotomy child.text first.text with hlt | heq | hgt
      · rw [putIn_cons_of_lt hlt] at h
        exact List.mem_cons.mp h
      · rw [putIn_cons_of_eq heq] at h
        exact (List.mem_cons.mp h).imp id (List.mem_cons_of_mem first)
      · rw [putIn_cons_of_gt hgt] at h
        rcases List.mem_cons.mp h with rfl | h
        · exact .inr List.mem_cons_self
        · exact (ih h).imp id (List.mem_cons_of_mem first)

theorem sorted_putIn (child : Node α) {children : List (Node α)} (hs : Sorted children) :
    Sorted (putIn child children) := by
  induction children with
  | nil => exact List.pairwise_singleton _ _
  | cons c rest ih =>
      obtain ⟨hc, hrest⟩ := List.pairwise_cons.mp hs
      rcases lt_trichotomy child.text c.text with hlt | heq | hgt
      · rw [putIn_cons_of_lt hlt]
        refine List.pairwise_cons.mpr ⟨?_, hs⟩
        intro d hd
        rcases List.mem_cons.mp hd with rfl | hd
        · exact hlt
        · exact hlt.trans (hc d hd)
      · rw [putIn_cons_of_eq heq]
        exact List.pairwise_cons.mpr ⟨fun d hd => heq ▸ hc d hd, hrest⟩
      · rw [putIn_cons_of_gt hgt]
        refine List.pairwise_cons.mpr ⟨?_, ih hrest⟩
        intro d hd
        rcases mem_putIn hd with rfl | hd
        · exact hgt
        · exact hc d hd

theorem findIn_putIn (child : Node α) {children : List (Node α)} (hs : Sorted children)
    (text : String) :
    findIn text (putIn child children) =
      if text = child.text then some child else findIn text children := by
  induction children with
  | nil =>
      by_cases h : text = child.text
      · rw [putIn, findIn_cons_of_eq h, if_pos h]
      · rcases lt_or_gt_of_ne h with hlt | hgt
        · rw [putIn, findIn_cons_of_lt hlt, if_neg h, findIn]
        · rw [putIn, findIn_cons_of_gt hgt, if_neg h]
  | cons c rest ih =>
      obtain ⟨hc, hrest⟩ := List.pairwise_cons.mp hs
      rcases lt_trichotomy child.text c.text with hlt | heq | hgt
      · rw [putIn_cons_of_lt hlt]
        rcases lt_trichotomy text child.text with h | h | h
        · rw [findIn_cons_of_lt h, if_neg h.ne, findIn_cons_of_lt (h.trans hlt)]
        · rw [findIn_cons_of_eq h, if_pos h]
        · rw [findIn_cons_of_gt h, if_neg h.ne']
      · rw [putIn_cons_of_eq heq]
        rcases lt_trichotomy text child.text with h | h | h
        · rw [findIn_cons_of_lt h, if_neg h.ne, findIn_cons_of_lt (heq ▸ h)]
        · rw [findIn_cons_of_eq h, if_pos h]
        · rw [findIn_cons_of_gt h, if_neg h.ne', findIn_cons_of_gt (heq ▸ h)]
      · rw [putIn_cons_of_gt hgt]
        rcases lt_trichotomy text c.text with h | h | h
        · rw [findIn_cons_of_lt h, if_neg (h.trans hgt).ne, findIn_cons_of_lt h]
        · rw [findIn_cons_of_eq h, if_neg (h ▸ hgt.ne), findIn_cons_of_eq h]
        · rw [findIn_cons_of_gt h, findIn_cons_of_gt h, ih hrest]

theorem putIn_of_findIn {child : Node α} {children : List (Node α)}
    (h : findIn child.text children = some child) : putIn child children = children := by
  induction children with
  | nil => simp [findIn] at h
  | cons c rest ih =>
      rcases lt_trichotomy child.text c.text with hlt | heq | hgt
      · simp [findIn_cons_of_lt hlt] at h
      · rw [findIn_cons_of_eq heq] at h
        rw [putIn_cons_of_eq heq, Option.some.inj h]
      · rw [findIn_cons_of_gt hgt] at h
        rw [putIn_cons_of_gt hgt, ih h]

end Conduit.Routing.Node
