import Mathlib.Data.Finset.Card
import Mathlib.Data.String.Basic
import Conduit.Json.Basic

/-! # Ordered members

Members that are put into their places one by one stand in strictly increasing order of their keys.
Under each key there is the value that was put there last. -/

namespace Conduit.Json

variable {α : Type} {key k : String} {value v : α} {members rest : List (String × α)}

/-- Members in strictly increasing order of their keys. -/
def Ordered (members : List (String × α)) : Prop := (members.map (·.1)).Pairwise (· < ·)

theorem Ordered.nodup (h : Ordered members) : (members.map (·.1)).Nodup :=
  h.imp fun hlt => hlt.ne

theorem lookup_cons_eq_ite (name : String) :
    ((k, v) :: rest).lookup name = if name = k then some v else rest.lookup name := by
  rw [List.lookup_cons]
  by_cases h : name = k
  · simp [h]
  · rw [beq_eq_false_iff_ne.mpr h, if_neg h]

theorem isSome_lookup_iff {name : String} :
    (members.lookup name).isSome = true ↔ name ∈ members.map (·.1) := by
  simp only [List.lookup_isSome_iff, beq_iff_eq, List.mem_map, eq_comm (a := name)]

/-! ## One member -/

theorem putMember_cons_of_lt (h : key < k) :
    putMember key value ((k, v) :: rest) = (key, value) :: (k, v) :: rest := by
  rw [putMember, if_neg h.ne, if_pos h]

theorem putMember_cons_of_eq (h : key = k) :
    putMember key value ((k, v) :: rest) = (key, value) :: rest := by
  rw [putMember, if_pos h]

theorem putMember_cons_of_gt (h : k < key) :
    putMember key value ((k, v) :: rest) = (k, v) :: putMember key value rest := by
  rw [putMember, if_neg h.ne', if_neg h.not_gt]

theorem mem_keys_putMember (name : String) :
    name ∈ (putMember key value members).map (·.1) ↔ name = key ∨ name ∈ members.map (·.1) := by
  induction members with
  | nil => simp [putMember]
  | cons member rest ih =>
      obtain ⟨k, v⟩ := member
      rcases lt_trichotomy key k with hlt | rfl | hgt
      · rw [putMember_cons_of_lt hlt, List.map_cons, List.mem_cons]
      · rw [putMember_cons_of_eq rfl]
        simp
      · rw [putMember_cons_of_gt hgt, List.map_cons, List.mem_cons, ih, List.map_cons,
          List.mem_cons, or_left_comm]

theorem Ordered.putMember (h : Ordered members) (key : String) (value : α) :
    Ordered (putMember key value members) := by
  induction members with
  | nil => exact List.pairwise_singleton _ _
  | cons member rest ih =>
      obtain ⟨k, v⟩ := member
      obtain ⟨hk, hrest⟩ := List.pairwise_cons.mp h
      rcases lt_trichotomy key k with hlt | rfl | hgt
      · rw [putMember_cons_of_lt hlt]
        refine List.pairwise_cons.mpr ⟨fun name hname => ?_, h⟩
        rcases List.mem_cons.mp hname with rfl | hname
        · exact hlt
        · exact hlt.trans (hk name hname)
      · rw [putMember_cons_of_eq rfl]
        exact h
      · rw [putMember_cons_of_gt hgt]
        refine List.pairwise_cons.mpr ⟨fun name hname => ?_, ih hrest⟩
        rcases (mem_keys_putMember name).mp hname with rfl | hname
        · exact hgt
        · exact hk name hname

theorem lookup_putMember (name : String) :
    (putMember key value members).lookup name =
      if name = key then some value else members.lookup name := by
  induction members with
  | nil => rw [putMember, lookup_cons_eq_ite]
  | cons member rest ih =>
      obtain ⟨k, v⟩ := member
      rcases lt_trichotomy key k with hlt | rfl | hgt
      · rw [putMember_cons_of_lt hlt, lookup_cons_eq_ite]
      · rw [putMember_cons_of_eq rfl, lookup_cons_eq_ite, lookup_cons_eq_ite]
        split <;> rfl
      · rw [putMember_cons_of_gt hgt, lookup_cons_eq_ite, ih, lookup_cons_eq_ite]
        by_cases hname : name = k
        · rw [if_pos hname, if_pos hname, if_neg (hname ▸ hgt.ne)]
        · rw [if_neg hname, if_neg hname]

/-! ## All members -/

theorem orderMembers_concat :
    orderMembers (members ++ [(key, value)]) = putMember key value (orderMembers members) := by
  rw [orderMembers, orderMembers, List.foldl_append]
  rfl

theorem ordered_orderMembers (members : List (String × α)) : Ordered (orderMembers members) := by
  induction members using List.reverseRecOn with
  | nil => exact List.Pairwise.nil
  | append_singleton members member ih =>
      rw [orderMembers_concat]
      exact ih.putMember member.1 member.2

/-- The last of several values under one key is found. -/
theorem lookup_orderMembers (members : List (String × α)) (name : String) :
    (orderMembers members).lookup name = members.reverse.lookup name := by
  induction members using List.reverseRecOn with
  | nil => rfl
  | append_singleton members member ih =>
      obtain ⟨key, value⟩ := member
      rw [orderMembers_concat, lookup_putMember, ih, List.reverse_append, List.reverse_singleton,
        List.singleton_append, lookup_cons_eq_ite]

theorem lookup_eq_some_iff_mem (h : (members.map (·.1)).Nodup) :
    members.lookup key = some value ↔ (key, value) ∈ members := by
  induction members with
  | nil => simp
  | cons member rest ih =>
      obtain ⟨k, v⟩ := member
      obtain ⟨hk, hrest⟩ := List.nodup_cons.mp h
      rw [lookup_cons_eq_ite, List.mem_cons, Prod.mk.injEq]
      by_cases hkey : key = k
      · subst hkey
        have hnot : (key, value) ∉ rest := fun hmem => hk (List.mem_map.mpr ⟨_, hmem, rfl⟩)
        simp [hnot, eq_comm]
      · rw [if_neg hkey, ih hrest]
        simp [hkey]

theorem mem_keys_orderMembers (members : List (String × α)) (name : String) :
    name ∈ (orderMembers members).map (·.1) ↔ name ∈ members.map (·.1) := by
  induction members using List.reverseRecOn with
  | nil => rfl
  | append_singleton members member ih =>
      rw [orderMembers_concat, mem_keys_putMember, ih, List.map_append, List.mem_append, or_comm]
      simp

theorem toFinset_keys_orderMembers (members : List (String × α)) :
    ((orderMembers members).map (·.1)).toFinset = (members.map (·.1)).toFinset := by
  ext name
  rw [List.mem_toFinset, List.mem_toFinset, mem_keys_orderMembers]

/-- There are as many members as there are different keys. -/
theorem length_orderMembers (members : List (String × α)) :
    (orderMembers members).length = (members.map (·.1)).toFinset.card := by
  have hnodup := (ordered_orderMembers members).nodup
  rw [← toFinset_keys_orderMembers, List.toFinset_card_of_nodup hnodup, List.length_map]

/-! ## Objects by their members -/

/-- An object with these members and no others. -/
structure HasMembers (j : Json) (members : List (String × Json)) : Prop where
  isObject : j.isObject = true
  get?_eq_some_iff : ∀ key value, j.get? key = some value ↔ (key, value) ∈ members

theorem object_hasMembers {members : List (String × Json)} (h : (members.map (·.1)).Nodup) :
    (object members).HasMembers members := by
  refine ⟨rfl, fun key value => ?_⟩
  have hreverse : (members.reverse.map (·.1)).Nodup := by
    rw [List.map_reverse]
    exact List.nodup_reverse.mpr h
  rw [object, get?, lookup_orderMembers, lookup_eq_some_iff_mem hreverse, List.mem_reverse]

end Conduit.Json
