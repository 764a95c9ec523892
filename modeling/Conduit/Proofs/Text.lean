import Mathlib.Data.List.DropRight
import Conduit.Text

/-! # Blanks and separators

What is left when the blanks at both ends are gone has none to remove. A text falls into the pieces
that it was joined from, as long as none of them contains the separator. Slashes at the ends of a
path do not show in its segments. -/

namespace Conduit.Text

/-! ## Blanks at the ends -/

theorem dropEndWhile_eq_rdropWhile (p : Char → Bool) (cs : List Char) :
    dropEndWhile p cs = cs.rdropWhile p := rfl

theorem rdropWhile_append (p : Char → Bool) (front back : List Char) :
    (front ++ back).rdropWhile p =
      if back.rdropWhile p = [] then front.rdropWhile p else front ++ back.rdropWhile p := by
  simp only [List.rdropWhile, List.reverse_append, List.dropWhile_append, List.isEmpty_iff,
    List.reverse_eq_nil_iff]
  split <;> simp

theorem dropWhile_rdropWhile (p : Char → Bool) (cs : List Char) :
    (cs.rdropWhile p).dropWhile p = (cs.dropWhile p).rdropWhile p := by
  induction cs with
  | nil => simp
  | cons c cs ih =>
      have hcons : (c :: cs).rdropWhile p =
          if cs.rdropWhile p = [] then [c].rdropWhile p else c :: cs.rdropWhile p :=
        rdropWhile_append p [c] cs
      by_cases hc : p c = true
      · rw [List.dropWhile_cons_of_pos hc, ← ih, hcons]
        split
        · rename_i hnil
          simp [List.rdropWhile_singleton, hc, hnil]
        · rw [List.dropWhile_cons_of_pos hc]
      · rw [List.dropWhile_cons_of_neg hc, hcons]
        split
        · simp [List.rdropWhile_singleton, hc]
        · rw [List.dropWhile_cons_of_neg hc]

theorem trimList_trimList (cs : List Char) : trimList (trimList cs) = trimList cs := by
  simp only [trimList, dropEndWhile_eq_rdropWhile, dropWhile_rdropWhile,
    List.dropWhile_idempotent, List.rdropWhile_idempotent]

@[simp]
theorem trim_trim (s : String) : trim (trim s) = trim s := by
  simp only [trim, String.toList_ofList, trimList_trimList]

theorem trimList_sublist (cs : List Char) : (trimList cs).Sublist cs :=
  (List.rdropWhile_prefix isBlank _).sublist.trans (List.dropWhile_suffix isBlank).sublist

theorem mem_of_mem_trim {c : Char} {s : String} (h : c ∈ (trim s).toList) : c ∈ s.toList := by
  rw [trim, String.toList_ofList] at h
  exact (trimList_sublist s.toList).mem h

/-- Nothing is left of a text of blanks, and of no other. -/
theorem trim_eq_empty_iff (s : String) : trim s = "" ↔ ∀ c ∈ s.toList, isBlank c = true := by
  have hempty : trim s = "" ↔ trimList s.toList = [] := by
    rw [trim, ← String.toList_inj, String.toList_ofList]
    rfl
  rw [hempty, trimList, dropEndWhile_eq_rdropWhile, List.rdropWhile_eq_nil_iff]
  constructor
  · intro h c hc
    by_contra hblank
    -- The first character that is no blank would stay at the front.
    have hne : s.toList.dropWhile isBlank ≠ [] := by
      intro hnil
      exact hblank (List.dropWhile_eq_nil_iff.mp hnil c hc)
    have hhead := List.head_dropWhile_not isBlank hne
    rw [h _ (List.head_mem hne)] at hhead
    cases hhead
  · intro h c hc
    exact h c ((List.dropWhile_suffix isBlank).subset hc)

theorem trimList_append_of_blank {front cs back : List Char}
    (hfront : ∀ c ∈ front, isBlank c = true) (hback : ∀ c ∈ back, isBlank c = true) :
    trimList (front ++ cs ++ back) = trimList cs := by
  rw [trimList, trimList, dropEndWhile_eq_rdropWhile, dropEndWhile_eq_rdropWhile,
    List.append_assoc, List.dropWhile_append_of_pos hfront, List.dropWhile_append]
  split
  · rename_i hempty
    rw [List.isEmpty_iff.mp hempty, List.dropWhile_eq_nil_iff.mpr hback]
  · rw [rdropWhile_append, if_pos (List.rdropWhile_eq_nil_iff.mpr hback)]

theorem trimList_cons_of_not_blank {c : Char} (hc : isBlank c = false) (cs : List Char) :
    trimList (c :: cs) = c :: cs.rdropWhile isBlank := by
  have hfront : (c :: cs).dropWhile isBlank = c :: cs := by simp [hc]
  have hlast : [c].rdropWhile isBlank = [c] := by simp [List.rdropWhile_singleton, hc]
  rw [trimList, dropEndWhile_eq_rdropWhile, hfront, ← List.singleton_append, rdropWhile_append,
    hlast]
  split
  · rename_i hnil
    rw [hnil]
  · rfl

theorem exists_eq_trimList (cs : List Char) :
    ∃ front back, (∀ c ∈ front, isBlank c = true) ∧ (∀ c ∈ back, isBlank c = true) ∧
      cs = front ++ trimList cs ++ back := by
  refine ⟨cs.takeWhile isBlank, (cs.dropWhile isBlank).rtakeWhile isBlank,
    fun c => List.mem_takeWhile_imp, fun c => List.mem_rtakeWhile_imp, ?_⟩
  rw [trimList, dropEndWhile_eq_rdropWhile, List.append_assoc, List.rdropWhile_append_rtakeWhile,
    List.takeWhile_append_dropWhile]

theorem trim_append_of_blank {front s back : String} (hfront : trim front = "")
    (hback : trim back = "") : trim (front ++ s ++ back) = trim s := by
  rw [trim_eq_empty_iff] at hfront hback
  rw [trim, trim, String.toList_append, String.toList_append,
    trimList_append_of_blank hfront hback]

theorem exists_eq_trim (s : String) :
    ∃ front back, trim front = "" ∧ trim back = "" ∧ s = front ++ trim s ++ back := by
  obtain ⟨front, back, hfront, hback, hs⟩ := exists_eq_trimList s.toList
  refine ⟨String.ofList front, String.ofList back, ?_, ?_, ?_⟩
  · rwa [trim_eq_empty_iff, String.toList_ofList]
  · rwa [trim_eq_empty_iff, String.toList_ofList]
  · rw [← String.toList_inj]
    simpa [trim] using hs

theorem trim_of_not_blank {s : String} (h : ∀ c ∈ s.toList, isBlank c = false) : trim s = s := by
  obtain ⟨front, back, hfront, hback, hs⟩ := exists_eq_trim s
  have hempty : ∀ t : String, trim t = "" → (∀ c ∈ t.toList, c ∈ s.toList) → t = "" := by
    intro t ht hsub
    rw [trim_eq_empty_iff] at ht
    rw [← String.toList_inj]
    refine List.eq_nil_iff_forall_not_mem.mpr fun c hc => ?_
    exact absurd (ht c hc) (by simp [h c (hsub c hc)])
  have hfront := hempty front hfront (by rw [hs]; simp +contextual)
  have hback := hempty back hback (by rw [hs]; simp +contextual)
  rw [hfront, hback] at hs
  simpa using hs.symm

/-! ## Marks at the ends -/

section Marks

variable (c : Char) (s front back : String)

theorem trimEndOf_eq_rdropWhile :
    trimEndOf c s = String.ofList (s.toList.rdropWhile (· == c)) := rfl

theorem trimStartOf_append : trimStartOf c (front ++ back) =
    if trimStartOf c front = "" then trimStartOf c back else trimStartOf c front ++ back := by
  simp only [trimStartOf, String.toList_append, List.dropWhile_append, List.isEmpty_iff,
    String.ofList_eq_empty_iff]
  split
  · rfl
  · rw [String.ofList_append, String.ofList_toList]

theorem trimEndOf_append : trimEndOf c (front ++ back) =
    if trimEndOf c back = "" then trimEndOf c front else front ++ trimEndOf c back := by
  simp only [trimEndOf_eq_rdropWhile, String.toList_append, rdropWhile_append,
    String.ofList_eq_empty_iff]
  split
  · rfl
  · rw [String.ofList_append, String.ofList_toList]

@[simp]
theorem trimStartOf_trimStartOf : trimStartOf c (trimStartOf c s) = trimStartOf c s := by
  rw [trimStartOf, trimStartOf, String.toList_ofList, List.dropWhile_idempotent]

@[simp]
theorem trimEndOf_trimEndOf : trimEndOf c (trimEndOf c s) = trimEndOf c s := by
  simp only [trimEndOf_eq_rdropWhile, String.toList_ofList, List.rdropWhile_idempotent]

theorem trimStartOf_trimEndOf : trimStartOf c (trimEndOf c s) = trimEndOf c (trimStartOf c s) := by
  simp only [trimStartOf, trimEndOf_eq_rdropWhile, String.toList_ofList, dropWhile_rdropWhile]

/-- From either end, nothing is left of a text of marks and of no other. -/
theorem trimEndOf_eq_empty_iff : trimEndOf c s = "" ↔ trimStartOf c s = "" := by
  simp only [trimStartOf, trimEndOf_eq_rdropWhile, String.ofList_eq_empty_iff,
    List.rdropWhile_eq_nil_iff, List.dropWhile_eq_nil_iff]

@[simp]
theorem trimEndOf_trimStartOf_eq_empty_iff :
    trimEndOf c (trimStartOf c s) = "" ↔ trimStartOf c s = "" := by
  rw [trimEndOf_eq_empty_iff, trimStartOf_trimStartOf]

end Marks

theorem stripLead_eq_some_iff {lead s rest : String} :
    stripLead lead s = some rest ↔ s = lead ++ rest := by
  rw [stripLead, Option.map_eq_some_iff]
  constructor
  · rintro ⟨cs, hcs, rfl⟩
    rw [List.isPrefixOf?_eq_some_iff_append_eq] at hcs
    rw [← String.toList_inj, String.toList_append, String.toList_ofList, hcs]
  · rintro rfl
    refine ⟨rest.toList, ?_, String.ofList_toList⟩
    rw [List.isPrefixOf?_eq_some_iff_append_eq, String.toList_append]

/-! ## The first separator -/

section First

variable {sep : Char}

theorem splitFirstList_eq_none_iff {cs : List Char} : splitFirstList sep cs = none ↔ sep ∉ cs := by
  induction cs with
  | nil => simp [splitFirstList]
  | cons c cs ih =>
      by_cases hc : c = sep
      · simp [splitFirstList, hc]
      · simp [splitFirstList, hc, Ne.symm hc, ih]

theorem splitFirstList_eq_some_iff {cs before after : List Char} :
    splitFirstList sep cs = some (before, after) ↔ cs = before ++ sep :: after ∧ sep ∉ before := by
  induction cs generalizing before with
  | nil => simp [splitFirstList]
  | cons c cs ih =>
      by_cases hc : c = sep
      · subst hc
        cases before with
        | nil => simp [splitFirstList, eq_comm]
        | cons d before =>
            simp only [splitFirstList, if_true]
            refine iff_of_false (by simp) ?_
            rintro ⟨heq, hnot⟩
            exact hnot (List.mem_cons.mpr (.inl (List.cons.inj heq).1))
      · cases before with
        | nil => simp [splitFirstList, hc]
        | cons d before =>
            simp only [splitFirstList, if_neg hc, Option.map_eq_some_iff, Prod.exists,
              Prod.mk.injEq, List.cons.injEq, List.cons_append, List.mem_cons, not_or]
            constructor
            · rintro ⟨first, rest, hsplit, ⟨rfl, rfl⟩, rfl⟩
              obtain ⟨rfl, hnot⟩ := ih.mp hsplit
              exact ⟨⟨rfl, rfl⟩, Ne.symm hc, hnot⟩
            · rintro ⟨⟨rfl, rfl⟩, -, hnot⟩
              exact ⟨before, after, ih.mpr ⟨rfl, hnot⟩, ⟨rfl, rfl⟩, rfl⟩

theorem splitFirst_eq_none_iff {s : String} : splitFirst sep s = none ↔ sep ∉ s.toList := by
  rw [splitFirst, Option.map_eq_none_iff, splitFirstList_eq_none_iff]

theorem splitFirst_eq_some_iff {s before after : String} :
    splitFirst sep s = some (before, after) ↔
      s.toList = before.toList ++ sep :: after.toList ∧ sep ∉ before.toList := by
  rw [← splitFirstList_eq_some_iff, splitFirst, Option.map_eq_some_iff]
  constructor
  · rintro ⟨⟨first, rest⟩, hsplit, hparts⟩
    obtain ⟨rfl, rfl⟩ := Prod.mk.inj hparts
    simpa using hsplit
  · intro hsplit
    exact ⟨_, hsplit, by simp⟩

end First

/-! ## Pieces between separators -/

section Pieces

variable {sep : Char}

theorem not_mem_of_mem_splitOn {cs piece : List Char} (h : piece ∈ cs.splitOn sep) :
    sep ∉ piece := by
  induction cs generalizing piece with
  | nil =>
      obtain rfl : piece = [] := by simpa using h
      exact List.not_mem_nil
  | cons c cs ih =>
      rw [List.splitOn_eq_splitOnP, List.splitOnP_cons_eq_if_modifyHead] at h
      rw [List.splitOn_eq_splitOnP] at ih
      by_cases hc : c = sep
      · rw [if_pos (by simpa using hc)] at h
        rcases List.mem_cons.mp h with rfl | h
        · exact List.not_mem_nil
        · exact ih h
      · rw [if_neg (by simpa using hc)] at h
        cases hpieces : cs.splitOnP (· == sep) with
        | nil => exact absurd hpieces (List.splitOnP_ne_nil _ _)
        | cons first rest =>
            rw [hpieces] at ih h
            rcases List.mem_cons.mp h with rfl | h
            · exact List.not_mem_cons_of_ne_of_not_mem (Ne.symm hc) (ih List.mem_cons_self)
            · exact ih (List.mem_cons_of_mem first h)

theorem not_mem_of_mem_splitAt {s piece : String} (h : piece ∈ splitAt sep s) :
    sep ∉ piece.toList := by
  obtain ⟨cs, hcs, rfl⟩ := List.mem_map.mp h
  rw [String.toList_ofList]
  exact not_mem_of_mem_splitOn hcs

theorem subset_of_mem_splitOn {cs piece : List Char} (h : piece ∈ cs.splitOn sep) :
    piece ⊆ cs := by
  obtain ⟨i, hi, rfl⟩ := List.getElem_of_mem h
  have hpiece : (cs.splitOn sep)[i] ∈ (cs.splitOn sep).intersperse [sep] := by
    rw [List.getElem_eq_getElem_intersperse_two_mul hi]
    exact List.getElem_mem _
  have hjoin : ((cs.splitOn sep).intersperse [sep]).flatten = cs := List.intercalate_splitOn sep
  intro c hc
  have hflat : c ∈ ((cs.splitOn sep).intersperse [sep]).flatten :=
    List.mem_flatten.mpr ⟨_, hpiece, hc⟩
  rwa [hjoin] at hflat

theorem trim_of_mem_splitAt {s piece : String} (hs : trim s = "") (h : piece ∈ splitAt sep s) :
    trim piece = "" := by
  rw [trim_eq_empty_iff] at hs ⊢
  obtain ⟨cs, hcs, rfl⟩ := List.mem_map.mp h
  intro c hc
  rw [String.toList_ofList] at hc
  exact hs c (subset_of_mem_splitOn hcs hc)

theorem mem_of_mem_commaItems {c : Char} {s item : String} (hitem : item ∈ commaItems s)
    (hc : c ∈ item.toList) : c ∈ s.toList := by
  rw [commaItems] at hitem
  obtain ⟨piece, hpiece, rfl⟩ := List.mem_map.mp (List.mem_of_mem_filter hitem)
  obtain ⟨cs, hcs, rfl⟩ := List.mem_map.mp hpiece
  have hmem := mem_of_mem_trim hc
  rw [String.toList_ofList] at hmem
  exact subset_of_mem_splitOn hcs hmem

theorem mem_joinWith {c : Char} {mark : String} {parts : List String}
    (h : c ∈ (joinWith mark parts).toList) : c ∈ mark.toList ∨ ∃ p ∈ parts, c ∈ p.toList := by
  rw [joinWith, String.toList_intercalate] at h
  induction parts with
  | nil => simp at h
  | cons p rest ih =>
      cases rest with
      | nil => exact .inr ⟨p, List.mem_cons_self, by simpa using h⟩
      | cons q rest =>
          rw [List.map_cons, List.map_cons, List.intercalate_cons_cons, List.mem_append,
            List.mem_append] at h
          rcases h with (hp | hmark) | hrest
          · exact .inr ⟨p, List.mem_cons_self, hp⟩
          · exact .inl hmark
          · refine (ih hrest).imp id ?_
            rintro ⟨part, hpart, hc⟩
            exact ⟨part, List.mem_cons_of_mem p hpart, hc⟩

/-- Pieces without the separator come back from the text that they are joined to. -/
theorem splitAt_joinWith {parts : List String} (h : ∀ p ∈ parts, sep ∉ p.toList)
    (hne : parts ≠ []) : splitAt sep (joinWith (String.singleton sep) parts) = parts := by
  have hsplit : List.splitOn sep ([sep].intercalate (parts.map String.toList)) =
      parts.map String.toList := by
    refine List.splitOn_intercalate sep ?_ (by simpa using hne)
    intro piece hpiece
    obtain ⟨p, hp, rfl⟩ := List.mem_map.mp hpiece
    exact h p hp
  rw [splitAt, joinWith, String.toList_intercalate, String.toList_singleton, hsplit, List.map_map]
  simp

theorem splitAt_append (front back : String) :
    splitAt sep (front ++ String.singleton sep ++ back) =
      splitAt sep front ++ splitAt sep back := by
  have hsplit := List.splitOnP_append_cons (p := (· == sep)) front.toList back.toList
    (beq_self_eq_true sep)
  simp only [splitAt, String.toList_append, String.toList_singleton, List.append_assoc,
    List.singleton_append, List.splitOn_eq_splitOnP]
  rw [hsplit, List.map_append]

/-- The pieces of a text are those without the separator that it is joined from. -/
theorem splitAt_eq_iff {s : String} {parts : List String} :
    splitAt sep s = parts ↔ parts ≠ [] ∧ (∀ p ∈ parts, sep ∉ p.toList) ∧
      s = joinWith (String.singleton sep) parts := by
  constructor
  · rintro rfl
    refine ⟨?_, fun p => not_mem_of_mem_splitAt, ?_⟩
    · simp [splitAt, List.splitOn_eq_splitOnP]
    · rw [← String.toList_inj, joinWith, String.toList_intercalate, String.toList_singleton,
        splitAt, List.map_map]
      simp [Function.comp_def, List.intercalate_splitOn]
  · rintro ⟨hne, hparts, rfl⟩
    exact splitAt_joinWith hparts hne

end Pieces

/-! ## Segments of a path -/

theorem pathSegments_append (front back : String) :
    pathSegments (front ++ "/" ++ back) = pathSegments front ++ pathSegments back := by
  rw [pathSegments, show "/" = String.singleton '/' from rfl, splitAt_append, List.filter_append]
  rfl

theorem pathSegments_empty : pathSegments "" = [] := by decide

theorem pathSegments_slash_append (path : String) :
    pathSegments ("/" ++ path) = pathSegments path := by
  have h := pathSegments_append "" path
  simpa [pathSegments_empty] using h

theorem pathSegments_append_slash (path : String) :
    pathSegments (path ++ "/") = pathSegments path := by
  have h := pathSegments_append path ""
  simpa [pathSegments_empty] using h

@[simp]
theorem pathSegments_trimStartOf (path : String) :
    pathSegments (trimStartOf '/' path) = pathSegments path := by
  obtain ⟨cs, rfl⟩ : ∃ cs, path = String.ofList cs := ⟨path.toList, by simp⟩
  induction cs with
  | nil => rfl
  | cons c cs ih =>
      rw [String.ofList_cons, trimStartOf_append]
      by_cases hc : c = '/'
      · subst hc
        rw [if_pos (by decide), ih]
        exact (pathSegments_slash_append _).symm
      · have hkept : trimStartOf '/' (String.singleton c) = String.singleton c := by
          simp [trimStartOf, hc]
        rw [hkept, if_neg (by simp)]

@[simp]
theorem pathSegments_trimEndOf (path : String) :
    pathSegments (trimEndOf '/' path) = pathSegments path := by
  obtain ⟨cs, rfl⟩ : ∃ cs, path = String.ofList cs := ⟨path.toList, by simp⟩
  induction cs using List.reverseRecOn with
  | nil => rfl
  | append_singleton cs c ih =>
      rw [String.ofList_append, trimEndOf_append]
      by_cases hc : c = '/'
      · subst hc
        rw [if_pos (by decide), ih]
        exact (pathSegments_append_slash _).symm
      · have hkept : trimEndOf '/' (String.ofList [c]) = String.ofList [c] := by
          simp [trimEndOf_eq_rdropWhile, List.rdropWhile_singleton, hc]
        rw [hkept, if_neg (by simp)]

end Conduit.Text
