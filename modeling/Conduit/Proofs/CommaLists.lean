import Conduit.Proofs.Text

/-! # Lists written with commas

What a text lists is told by a grammar that leaves room for blanks around every item and for items
that are not there. The reader finds in a text exactly what it lists. So it does not show in what is
found how the items are spaced, nor over how many texts they are spread. -/

namespace Conduit.Text

/-! ## The grammar -/

/-- What an item keeps in any list: it is not empty, ends in no blank, and has no comma. -/
structure IsItem (s : String) : Prop where
  ne_empty : s ≠ ""
  trim_eq : trim s = s
  comma_not_mem : ',' ∉ s.toList

/-- A list is blank, or an item between blanks, or two lists with a comma between them. -/
inductive Lists : String → List String → Prop
  | blank {s : String} (h : trim s = "") : Lists s []
  | item {front item back : String} (hfront : trim front = "") (h : IsItem item)
      (hback : trim back = "") : Lists (front ++ item ++ back) [item]
  | comma {s t : String} {items more : List String} (hs : Lists s items) (ht : Lists t more) :
      Lists (s ++ "," ++ t) (items ++ more)

/-- Several texts list what each of them lists, one after the other. -/
inductive ListsAll : List String → List String → Prop
  | nil : ListsAll [] []
  | cons {s : String} {rest items more : List String} (hs : Lists s items)
      (hrest : ListsAll rest more) : ListsAll (s :: rest) (items ++ more)

/-! ## The reader -/

theorem commaItems_append (front back : String) :
    commaItems (front ++ "," ++ back) = commaItems front ++ commaItems back := by
  simp only [commaItems, show "," = String.singleton ',' from rfl, splitAt_append, List.map_append,
    List.filter_append]

theorem comma_not_mem_of_blank {s : String} (h : trim s = "") : ',' ∉ s.toList := by
  intro hmem
  exact absurd ((trim_eq_empty_iff s).mp h ',' hmem) (by decide)

theorem commaItems_of_not_mem {s : String} (h : ',' ∉ s.toList) :
    commaItems s = if trim s = "" then [] else [trim s] := by
  have hpieces : splitAt ',' s = [s] := by
    apply splitAt_eq_iff.mpr
    refine ⟨by simp, ?_, by simp [joinWith]⟩
    intro p hp
    rw [List.mem_singleton.mp hp]
    exact h
  rw [commaItems, hpieces]
  by_cases hblank : trim s = ""
  · simp [hblank]
  · simp [hblank]

/-! ## The reader follows the grammar -/

theorem Lists.commaItems_eq {s : String} {items : List String} (h : Lists s items) :
    commaItems s = items := by
  induction h with
  | blank h => rw [commaItems_of_not_mem (comma_not_mem_of_blank h), if_pos h]
  | @item front item back hfront h hback =>
      have htrim : trim (front ++ item ++ back) = item :=
        (trim_append_of_blank hfront hback).trans h.trim_eq
      have hcomma : ',' ∉ (front ++ item ++ back).toList := by
        simp [comma_not_mem_of_blank hfront, h.comma_not_mem, comma_not_mem_of_blank hback]
      rw [commaItems_of_not_mem hcomma, htrim, if_neg h.ne_empty]
  | comma _ _ hs ht => rw [commaItems_append, hs, ht]

theorem lists_of_not_mem {s : String} (h : ',' ∉ s.toList) : Lists s (commaItems s) := by
  rw [commaItems_of_not_mem h]
  by_cases hblank : trim s = ""
  · rw [if_pos hblank]
    exact .blank hblank
  · rw [if_neg hblank]
    obtain ⟨front, back, hfront, hback, hs⟩ := exists_eq_trim s
    have hitem : IsItem (trim s) := by
      refine ⟨hblank, trim_trim s, ?_⟩
      intro hcomma
      exact h (mem_of_mem_trim hcomma)
    have hlists := Lists.item hfront hitem hback
    rwa [← hs] at hlists

theorem lists_joinWith {parts : List String} (h : ∀ p ∈ parts, ',' ∉ p.toList) :
    Lists (joinWith "," parts) (commaItems (joinWith "," parts)) := by
  induction parts with
  | nil => exact .blank rfl
  | cons p parts ih =>
      have hp : ',' ∉ p.toList := h p List.mem_cons_self
      have hparts : ∀ q ∈ parts, ',' ∉ q.toList := by
        intro q hq
        exact h q (List.mem_cons_of_mem p hq)
      cases parts with
      | nil =>
          rw [joinWith, String.intercalate_singleton]
          exact lists_of_not_mem hp
      | cons q parts =>
          rw [joinWith, String.intercalate_cons_cons, ← joinWith, commaItems_append]
          exact .comma (lists_of_not_mem hp) (ih hparts)

theorem lists_commaItems (s : String) : Lists s (commaItems s) := by
  obtain ⟨-, hpieces, hs⟩ := splitAt_eq_iff.mp (rfl : splitAt ',' s = splitAt ',' s)
  rw [hs]
  exact lists_joinWith hpieces

theorem lists_iff {s : String} {items : List String} : Lists s items ↔ commaItems s = items := by
  constructor
  · exact Lists.commaItems_eq
  · rintro rfl
    exact lists_commaItems s

theorem listsAll_iff {texts items : List String} :
    ListsAll texts items ↔ texts.flatMap commaItems = items := by
  constructor
  · intro h
    induction h with
    | nil => rfl
    | cons hs _ ih => rw [List.flatMap_cons, hs.commaItems_eq, ih]
  · rintro rfl
    induction texts with
    | nil => exact .nil
    | cons s texts ih =>
        rw [List.flatMap_cons]
        exact .cons (lists_commaItems s) ih

/-- Blanks and items that are not there do not show. -/
example : commaItems " ,chat.v2 ,\t, chat.v1" = ["chat.v2", "chat.v1"] := by decide

end Conduit.Text
