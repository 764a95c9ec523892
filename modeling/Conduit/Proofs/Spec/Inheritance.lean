import Mathlib.Data.List.Basic
import Conduit.Spec

/-! # Inheritance

Merging puts tokens of the route and of the base together, each in their order; a `...` of the route
is never among them, so a merged spec asks for more only if its base does. -/

namespace Conduit

/-! ## Two lists put together -/

/-- The third list is put together from the other two, each in its order. -/
inductive Interleaves {α : Type*} : List α → List α → List α → Prop
  | nil : Interleaves [] [] []
  | left (x : α) {xs ys zs : List α} : Interleaves xs ys zs → Interleaves (x :: xs) ys (x :: zs)
  | right (y : α) {xs ys zs : List α} : Interleaves xs ys zs → Interleaves xs (y :: ys) (y :: zs)

namespace Interleaves

variable {α : Type*} {xs ys zs xs' ys' zs' : List α}

theorem of_right (ys : List α) : Interleaves [] ys ys := by
  induction ys with
  | nil => exact .nil
  | cons y ys ih => exact .right y ih

theorem append (h : Interleaves xs ys zs) (h' : Interleaves xs' ys' zs') :
    Interleaves (xs ++ xs') (ys ++ ys') (zs ++ zs') := by
  induction h with
  | nil => exact h'
  | left x _ ih => exact .left x ih
  | right y _ ih => exact .right y ih

theorem perm (h : Interleaves xs ys zs) : zs.Perm (xs ++ ys) := by
  induction h with
  | nil => exact .refl _
  | left x _ ih => exact ih.cons x
  | right y _ ih => exact (ih.cons y).trans List.perm_middle.symm

end Interleaves

/-! ## Tokens of a base -/

theorem Token.isEllipsis_iff (t : Token) : t.isEllipsis = true ↔ t = ⟨"...", ""⟩ := by
  obtain ⟨key, value⟩ := t
  simp [isEllipsis]

namespace Spec

theorem inherits_iff (s : Spec) : s.inherits = true ↔ ∃ t ∈ s.tokens, t.isEllipsis = true :=
  List.any_eq_true

theorem eq_of_cutAt {key : String} {base before after : List Token}
    (h : cutAt key base = some (before, after)) : ∃ t, base = before ++ t :: after ∧ t.key = key := by
  induction base generalizing before with
  | nil => simp [cutAt] at h
  | cons t base ih =>
      rw [cutAt] at h
      split at h
      · rename_i hkey
        obtain ⟨rfl, rfl⟩ := Prod.mk.inj (Option.some.inj h)
        exact ⟨t, rfl, hkey⟩
      · obtain ⟨⟨front, rest⟩, hcut, hparts⟩ := Option.map_eq_some_iff.mp h
        obtain ⟨rfl, rfl⟩ := Prod.mk.inj hparts
        obtain ⟨found, rfl, hkey⟩ := ih hcut
        exact ⟨found, rfl, hkey⟩

theorem not_mem_of_cutAt {key : String} {base before after : List Token}
    (h : cutAt key base = some (before, after)) : key ∉ before.map Token.key := by
  induction base generalizing before with
  | nil => simp [cutAt] at h
  | cons t base ih =>
      rw [cutAt] at h
      split at h
      · obtain ⟨rfl, rfl⟩ := Prod.mk.inj (Option.some.inj h)
        simp
      · rename_i hkey
        obtain ⟨⟨front, rest⟩, hcut, hparts⟩ := Option.map_eq_some_iff.mp h
        obtain ⟨rfl, rfl⟩ := Prod.mk.inj hparts
        rw [List.map_cons, List.mem_cons, not_or]
        exact ⟨Ne.symm hkey, ih hcut⟩

theorem not_mem_of_cutAt_eq_none {key : String} {base : List Token} (h : cutAt key base = none) :
    key ∉ base.map Token.key := by
  induction base with
  | nil => simp
  | cons t base ih =>
      rw [cutAt] at h
      split at h
      · cases h
      · rename_i hkey
        rw [List.map_cons, List.mem_cons, not_or]
        exact ⟨Ne.symm hkey, ih (Option.map_eq_none_iff.mp h)⟩

/-! ## One token of a route -/

/-- What a token of the route that is no `...` does to what is left of the base: it is written
behind the tokens that it copies, and the base goes on at those that it leaves. -/
inductive Takes (t : Token) : Bool → (base copied rest : List Token) → Prop
  | kept (base) : Takes t false base [] (base.drop 1)
  | found {before u after} (hkey : u.key = t.key) (hfirst : t.key ∉ before.map Token.key) :
      Takes t true (before ++ u :: after) before after
  | missing {base} (habsent : t.key ∉ base.map Token.key) : Takes t true base [] base

theorem merge_of_ellipsis {t : Token} (ht : t.isEllipsis = true) (following : Bool)
    (route base : List Token) : merge following (t :: route) base = merge true route base := by
  rw [merge, if_pos ht]

theorem exists_takes {t : Token} (ht : t.isEllipsis = false) (following : Bool)
    (base : List Token) : ∃ copied rest, Takes t following base copied rest ∧
      ∀ route, merge following (t :: route) base = copied ++ t :: merge false route rest := by
  cases following with
  | false =>
      refine ⟨[], base.drop 1, .kept base, fun route => ?_⟩
      rw [merge, if_neg (by simp [ht])]
      rfl
  | true =>
      cases hcut : cutAt t.key base with
      | none =>
          refine ⟨[], base, .missing (not_mem_of_cutAt_eq_none hcut), fun route => ?_⟩
          rw [merge, if_neg (by simp [ht]), if_pos rfl, hcut]
          rfl
      | some parts =>
          obtain ⟨before, after⟩ := parts
          obtain ⟨u, rfl, hkey⟩ := eq_of_cutAt hcut
          refine ⟨before, after, .found hkey (not_mem_of_cutAt hcut), fun route => ?_⟩
          rw [merge, if_neg (by simp [ht]), if_pos rfl, hcut]

theorem Takes.sublist {t : Token} {following : Bool} {base copied rest : List Token}
    (h : Takes t following base copied rest) : (copied ++ rest).Sublist base := by
  cases h with
  | kept => exact List.drop_sublist 1 base
  | found => exact (List.Sublist.refl copied).append (List.sublist_cons_self _ _)
  | missing => exact List.Sublist.refl base

/-! ## What is merged -/

def own (route : List Token) : List Token := route.filter fun t => !t.isEllipsis

theorem own_append (front back : List Token) : own (front ++ back) = own front ++ own back :=
  List.filter_append front back

theorem own_cons_of_ellipsis {t : Token} (ht : t.isEllipsis = true) (route : List Token) :
    own (t :: route) = own route :=
  List.filter_cons_of_neg (by simp [ht])

theorem own_cons {t : Token} (ht : t.isEllipsis = false) (route : List Token) :
    own (t :: route) = t :: own route :=
  List.filter_cons_of_pos (by simp [ht])

theorem exists_interleaves (following : Bool) (route base : List Token) :
    ∃ taken, taken.Sublist base ∧ Interleaves (own route) taken (merge following route base) := by
  induction route generalizing following base with
  | nil =>
      cases following with
      | true => exact ⟨base, .refl base, .of_right base⟩
      | false => exact ⟨[], List.nil_sublist base, .nil⟩
  | cons t route ih =>
      cases ht : t.isEllipsis with
      | true =>
          rw [merge_of_ellipsis ht, own_cons_of_ellipsis ht]
          exact ih true base
      | false =>
          obtain ⟨copied, rest, htakes, hmerge⟩ := exists_takes ht following base
          obtain ⟨taken, htaken, hwoven⟩ := ih false rest
          rw [hmerge, own_cons ht]
          refine ⟨copied ++ taken, ?_, (Interleaves.of_right copied).append (.left t hwoven)⟩
          exact ((List.Sublist.refl copied).append htaken).trans htakes.sublist

theorem mem_of_mem_merge {t : Token} {following : Bool} {route base : List Token}
    (h : t ∈ merge following route base) : t ∈ route ∧ t.isEllipsis = false ∨ t ∈ base := by
  obtain ⟨taken, htaken, hwoven⟩ := exists_interleaves following route base
  rcases List.mem_append.mp (hwoven.perm.mem_iff.mp h) with hown | hbase
  · obtain ⟨hmem, hother⟩ := List.mem_filter.mp hown
    exact .inl ⟨hmem, by simpa using hother⟩
  · exact .inr (htaken.subset hbase)

/-- A route inherits no `...` but from a base that has one. -/
theorem inherits_of_inherit {route base : Spec} (h : (route.inherit base).inherits = true) :
    base.inherits = true := by
  rw [inherit] at h
  split at h
  · exact h
  · split at h
    · rw [inherits_iff] at h ⊢
      obtain ⟨t, ht, hellipsis⟩ := h
      rcases mem_of_mem_merge ht with ⟨-, hother⟩ | hbase
      · rw [hellipsis] at hother
        cases hother
      · exact ⟨t, hbase, hellipsis⟩
    · rename_i hcloses
      exact absurd h hcloses

end Spec

end Conduit
