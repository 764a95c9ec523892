import Mathlib.Data.List.Basic
import Mathlib.Data.List.Induction
import Conduit.Proofs.Spec.Inheritance

/-! # The walk along a base

A route is merged into its base by a cursor that walks the base and never passes its end. What it
writes is put together from the route's own tokens, each once and in their order, and from tokens of
the base at ever greater positions. A spec that inherits from a complete base is therefore complete
itself, and inherits nothing more from it. -/

namespace Conduit

namespace Spec

/-! ## The cursor -/

/-- The tokens of a base from one position up to another, if the base reaches that far. -/
def segment? (base : List Token) (first last : ℕ) : Option (List Token) :=
  if first ≤ last ∧ last ≤ base.length then some ((base.drop first).take (last - first)) else none

/-- How far a route has been merged. -/
structure Walk where
  /-- The position in the base of what is copied next. -/
  cursor : ℕ
  /-- Whether the last token of the route was a `...`. -/
  following : Bool
  written : List Token

namespace Walk

/-- Merges one more token of the route. It fails where a segment lies beyond the base. -/
def step? (base : List Token) (w : Walk) (t : Token) : Option Walk :=
  if t.isEllipsis then some { w with following := true }
  else if w.following then
    (segment? base w.cursor base.length).bind fun ahead =>
      match ahead.findIdx? (fun u => u.key == t.key) with
      | some offset =>
        (segment? base w.cursor (w.cursor + offset)).map fun copied =>
          ⟨w.cursor + offset + 1, false, w.written ++ copied ++ [t]⟩
      | none => some ⟨w.cursor, false, w.written ++ [t]⟩
  else some ⟨min (w.cursor + 1) base.length, false, w.written ++ [t]⟩

/-- The walk of a route from the start of the base. -/
def along? (base route : List Token) : Option Walk :=
  route.foldlM (step? base) ⟨0, false, []⟩

/-- What has been written, and behind a `...` what is left of the base. -/
def finish? (base : List Token) (w : Walk) : Option (List Token) :=
  if w.following && decide (w.cursor < base.length) then
    (segment? base w.cursor base.length).map (w.written ++ ·)
  else some w.written

end Walk

theorem segment?_ahead {base : List Token} {cursor : ℕ} (h : cursor ≤ base.length) :
    segment? base cursor base.length = some (base.drop cursor) := by
  rw [segment?, if_pos ⟨h, Nat.le_refl _⟩, ← List.length_drop, List.take_length]

theorem segment?_of_drop {base before after : List Token} {cursor : ℕ} (h : cursor ≤ base.length)
    (hdrop : base.drop cursor = before ++ after) :
    segment? base cursor (cursor + before.length) = some before := by
  have hlength : base.length - cursor = before.length + after.length := by
    rw [← List.length_drop, hdrop, List.length_append]
  rw [segment?, if_pos (by omega), hdrop, Nat.add_sub_cancel_left, List.take_left]

theorem findIdx?_key {key : String} {before after : List Token} {u : Token} (hkey : u.key = key)
    (hfirst : key ∉ before.map Token.key) :
    (before ++ u :: after).findIdx? (fun v => v.key == key) = some before.length := by
  have hbefore : before.findIdx? (fun v => v.key == key) = none := by
    rw [List.findIdx?_eq_none_iff]
    intro v hv
    rw [beq_eq_false_iff_ne]
    rintro rfl
    exact hfirst (List.mem_map_of_mem hv)
  rw [List.findIdx?_append, hbefore, List.findIdx?_cons, hkey, beq_self_eq_true]
  simp

theorem findIdx?_key_eq_none {key : String} {ahead : List Token}
    (habsent : key ∉ ahead.map Token.key) :
    ahead.findIdx? (fun v => v.key == key) = none := by
  rw [List.findIdx?_eq_none_iff]
  intro v hv
  rw [beq_eq_false_iff_ne]
  rintro rfl
  exact habsent (List.mem_map_of_mem hv)

/-! ## One step -/

theorem Walk.step?_of_takes {base copied rest : List Token} {w : Walk} {t : Token}
    (hinside : w.cursor ≤ base.length) (ht : t.isEllipsis = false)
    (htakes : Takes t w.following (base.drop w.cursor) copied rest) :
    ∃ cursor ≤ base.length, step? base w t = some ⟨cursor, false, w.written ++ copied ++ [t]⟩ ∧
      base.drop cursor = rest ∧ (base.take w.cursor ++ copied).Sublist (base.take cursor) := by
  obtain ⟨cursor, following, written⟩ := w
  simp only at hinside htakes ⊢
  generalize hahead : base.drop cursor = ahead at htakes
  cases htakes with
  | kept =>
      refine ⟨min (cursor + 1) base.length, Nat.min_le_right _ _, ?_, ?_, ?_⟩
      · simp [step?, ht]
      · rw [← hahead, List.drop_drop]
        rcases Nat.le_total (cursor + 1) base.length with hle | hle
        · rw [Nat.min_eq_left hle]
        · rw [Nat.min_eq_right hle, List.drop_length, List.drop_eq_nil_of_le hle]
      · rw [List.append_nil]
        exact (List.take_prefix_take_left (Nat.le_min.mpr ⟨Nat.le_succ _, hinside⟩)).sublist
  | @found before u after hkey hfirst =>
      have hbase : base = (base.take cursor ++ copied ++ [u]) ++ rest := by
        rw [List.append_assoc, List.append_assoc, List.singleton_append, ← hahead,
          List.take_append_drop]
      have hlength : (base.take cursor ++ copied ++ [u]).length = cursor + copied.length + 1 := by
        simp [List.length_take, Nat.min_eq_left hinside, Nat.add_assoc]
      refine ⟨cursor + copied.length + 1, ?_, ?_, ?_, ?_⟩
      · rw [hbase, List.length_append, hlength]
        exact Nat.le_add_right _ _
      · simp [step?, ht, segment?_ahead hinside, hahead, findIdx?_key hkey hfirst,
          segment?_of_drop hinside hahead]
      · rw [hbase, ← hlength, List.drop_left]
      · nth_rewrite 2 [hbase]
        rw [← hlength, List.take_left]
        exact List.sublist_append_left _ _
  | missing habsent =>
      refine ⟨cursor, hinside, ?_, hahead, by rw [List.append_nil]⟩
      simp [step?, ht, segment?_ahead hinside, hahead, findIdx?_key_eq_none habsent]

/-! ## The whole walk -/

/-- What has been written is put together from the tokens of the route, each but `...` once, and
from tokens of the base before the cursor, none twice and all in order. -/
def Woven (base route : List Token) (cursor : ℕ) (written : List Token) : Prop :=
  ∃ picks : List (Fin base.length), picks.Pairwise (· < ·) ∧ (∀ i ∈ picks, i.val < cursor) ∧
    Interleaves (own route) (picks.map base.get) written

theorem woven_of_sublist {base route taken written : List Token} {cursor : ℕ}
    (htaken : taken.Sublist (base.take cursor)) (h : Interleaves (own route) taken written) :
    Woven base route cursor written := by
  obtain ⟨places, rfl, hincreasing⟩ := List.sublist_eq_map_getElem htaken
  have hlength : (base.take cursor).length ≤ base.length := List.length_take_le' _ _
  refine ⟨places.map (Fin.castLE hlength), ?_, ?_, ?_⟩
  · rw [List.pairwise_map]
    exact hincreasing
  · intro i hi
    obtain ⟨place, -, rfl⟩ := List.mem_map.mp hi
    exact Nat.lt_of_lt_of_le place.isLt (List.length_take_le _ _)
  · rw [List.map_map]
    have hget : places.map (base.get ∘ Fin.castLE hlength) =
        places.map fun i => (base.take cursor)[i] := by
      refine List.map_congr_left fun place _ => ?_
      simp [List.getElem_take]
    rw [hget]
    exact h

/-- Where a walk stands when it has merged the front of a route. -/
structure Progress (base front : List Token) (w : Walk) : Prop where
  inside : w.cursor ≤ base.length
  written : ∃ taken, taken.Sublist (base.take w.cursor) ∧ Interleaves (own front) taken w.written
  /-- What is left of the route is merged into what is left of the base. -/
  ahead : ∀ back, merge false (front ++ back) base =
    w.written ++ merge w.following back (base.drop w.cursor)

namespace Progress

variable {base front : List Token} {w : Walk}

theorem step (h : Progress base front w) (t : Token) :
    ∃ next, Walk.step? base w t = some next ∧ Progress base (front ++ [t]) next := by
  obtain ⟨taken, htaken, hwritten⟩ := h.written
  cases ht : t.isEllipsis with
  | true =>
      refine ⟨{ w with following := true }, by rw [Walk.step?, if_pos ht], h.inside, ?_, ?_⟩
      · refine ⟨taken, htaken, ?_⟩
        rw [own_append, own_cons_of_ellipsis ht]
        simpa [own] using hwritten
      · intro back
        rw [List.append_assoc, List.singleton_append, h.ahead, merge_of_ellipsis ht]
  | false =>
      obtain ⟨copied, rest, htakes, hmerge⟩ := exists_takes ht w.following (base.drop w.cursor)
      obtain ⟨cursor, hinside, hstep, rfl, hcopied⟩ := Walk.step?_of_takes h.inside ht htakes
      refine ⟨_, hstep, hinside, ?_, ?_⟩
      · refine ⟨taken ++ copied, (htaken.append_right copied).trans hcopied, ?_⟩
        rw [own_append, own_cons ht, List.append_assoc]
        have hmore : Interleaves [t] (copied ++ []) (copied ++ [t]) :=
          (Interleaves.of_right copied).append (.left t .nil)
        rw [List.append_nil] at hmore
        exact hwritten.append hmore
      · intro back
        rw [List.append_assoc, List.singleton_append, h.ahead, hmerge]
        simp only [List.append_assoc, List.singleton_append]

theorem finish? (h : Progress base front w) :
    w.finish? base = some (merge false front base) := by
  have hmerge := h.ahead []
  rw [List.append_nil] at hmerge
  rw [hmerge, Walk.finish?, segment?_ahead h.inside, merge]
  cases w.following with
  | false => simp
  | true =>
      by_cases hleft : w.cursor < base.length
      · simp [hleft]
      · simp [hleft, List.drop_eq_nil_of_le (Nat.le_of_not_lt hleft)]

end Progress

/-- No segment of a walk lies beyond the base, whatever the route. -/
theorem exists_progress (base route : List Token) :
    ∃ w, Walk.along? base route = some w ∧ Progress base route w := by
  induction route using List.reverseRecOn with
  | nil =>
      refine ⟨⟨0, false, []⟩, rfl, Nat.zero_le _, ⟨[], List.nil_sublist _, .nil⟩, fun back => ?_⟩
      simp
  | append_singleton front t ih =>
      obtain ⟨w, hwalk, hprogress⟩ := ih
      obtain ⟨next, hstep, hnext⟩ := hprogress.step t
      refine ⟨next, ?_, hnext⟩
      rw [Walk.along?, List.foldlM_append, ← Walk.along?, hwalk]
      simpa using hstep

theorem woven_merge (base route : List Token) :
    Woven base route base.length (merge false route base) := by
  obtain ⟨taken, htaken, hwoven⟩ := exists_interleaves false route base
  rw [← List.take_length (l := base)] at htaken
  exact woven_of_sublist htaken hwoven

/-! ## Inheriting -/

/-- What a route comes to over its base. -/
structure InheritsFrom (route base merged : Spec) : Prop where
  empty : route.isEmpty = true → merged = base
  alone : route.isEmpty = false → route.inherits = false → merged = route
  woven : route.inherits = true →
    Woven base.tokens route.tokens base.tokens.length merged.tokens
  /-- The cursor stays inside the base at every token of the route, and what it has written up to
  there is woven already. -/
  walked : ∀ front, front <+: route.tokens → ∃ w, Walk.along? base.tokens front = some w ∧
    w.cursor ≤ base.tokens.length ∧ Woven base.tokens front w.cursor w.written
  /-- The end of the walk is what is merged. -/
  finished : route.inherits = true →
    ((Walk.along? base.tokens route.tokens).bind fun w => w.finish? base.tokens) =
      some merged.tokens
  complete : base.inherits = false → merged.inherits = false
  /-- Inheriting again adds nothing. -/
  settled : base.inherits = false → merged.inherit base = merged

theorem inherit_of_isEmpty {route : Spec} (h : route.isEmpty = true) (base : Spec) :
    route.inherit base = base := by
  rw [inherit, if_pos h]

theorem inherit_of_inherits {route : Spec} (h : route.inherits = true) (base : Spec) :
    route.inherit base = ⟨merge false route.tokens base.tokens⟩ := by
  obtain ⟨t, ht, -⟩ := (inherits_iff route).mp h
  rw [inherit, if_neg, if_pos h]
  rw [isEmpty, List.isEmpty_iff]
  exact List.ne_nil_of_mem ht

theorem inherit_of_alone {route : Spec} (hempty : route.isEmpty = false)
    (halone : route.inherits = false) (base : Spec) : route.inherit base = route := by
  rw [inherit, if_neg (by simp [hempty]), if_neg (by simp [halone])]

/-- Behind a `...` some token of the base is copied, unless there is none. -/
theorem eq_nil_of_merge_eq_nil {following : Bool} {route base : List Token}
    (hfollows : following = true ∨ ∃ t ∈ route, t.isEllipsis = true)
    (h : merge following route base = []) : base = [] := by
  induction route generalizing following base with
  | nil =>
      obtain rfl : following = true := by simpa using hfollows
      exact h
  | cons t route ih =>
      cases ht : t.isEllipsis with
      | true =>
          rw [merge_of_ellipsis ht] at h
          exact ih (.inl rfl) h
      | false =>
          obtain ⟨copied, rest, -, hmerge⟩ := exists_takes ht following base
          simp [hmerge] at h

/-- A spec without `...` that is empty only if its base is takes nothing from the base. -/
theorem inherit_of_closed {merged base : Spec} (hclosed : merged.inherits = false)
    (hempty : merged.isEmpty = true → merged = base) : merged.inherit base = merged := by
  cases hmerged : merged.isEmpty with
  | true => rw [inherit_of_isEmpty hmerged, hempty hmerged]
  | false => exact inherit_of_alone hmerged hclosed base

theorem eq_of_isEmpty_inherit {route base : Spec} (h : (route.inherit base).isEmpty = true) :
    route.inherit base = base := by
  cases hempty : route.isEmpty with
  | true => exact inherit_of_isEmpty hempty base
  | false =>
      cases hinherits : route.inherits with
      | true =>
          rw [inherit_of_inherits hinherits, isEmpty, List.isEmpty_iff] at h
          have hbase : base.tokens = [] :=
            eq_nil_of_merge_eq_nil (.inr ((inherits_iff route).mp hinherits)) h
          rw [inherit_of_inherits hinherits]
          exact congrArg Spec.mk (h.trans hbase.symm)
      | false =>
          rw [inherit_of_alone hempty hinherits, hempty] at h
          cases h

theorem inheritsFrom_inherit (route base : Spec) : InheritsFrom route base (route.inherit base) := by
  have hcomplete : base.inherits = false → (route.inherit base).inherits = false := by
    intro hbase
    by_contra hmerged
    rw [inherits_of_inherit (eq_true_of_ne_false hmerged)] at hbase
    cases hbase
  refine
    { empty := fun hempty => inherit_of_isEmpty hempty base
      alone := fun hempty halone => inherit_of_alone hempty halone base
      woven := fun hinherits => ?_
      walked := fun front _ => ?_
      finished := fun hinherits => ?_
      complete := hcomplete
      settled := fun hbase => inherit_of_closed (hcomplete hbase) eq_of_isEmpty_inherit }
  · rw [inherit_of_inherits hinherits]
    exact woven_merge base.tokens route.tokens
  · obtain ⟨w, hwalk, hprogress⟩ := exists_progress base.tokens front
    obtain ⟨taken, htaken, hwritten⟩ := hprogress.written
    exact ⟨w, hwalk, hprogress.inside, woven_of_sublist htaken hwritten⟩
  · obtain ⟨w, hwalk, hprogress⟩ := exists_progress base.tokens route.tokens
    rw [inherit_of_inherits hinherits, hwalk]
    exact hprogress.finish?

end Spec

end Conduit
