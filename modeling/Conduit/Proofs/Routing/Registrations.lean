import Conduit.Proofs.Routing.Lookup

/-! # Registered patterns

A run of insertions is told by the ones that succeeded. The tree that it leaves holds, under each
classified pattern, the verbs of those insertions, the first value of a verb winning. -/

namespace Conduit.Routing

variable {α : Type}

abbrev Insertion (α : Type) := String × Verbs α

/-- A registration, by its classified pattern and its verbs. -/
abbrev Registration (α : Type) := List Segment × Verbs α

namespace Node

/-- The tree after a run of insertions, successful or refused. -/
def insertAll (n : Node α) (calls : List (Insertion α)) : Node α :=
  calls.foldl (fun n call => (n.insert call.1 call.2).1) n

/-- The insertions of a run that succeeded, in order. -/
def registrations (n : Node α) : List (Insertion α) → List (Registration α)
  | [] => []
  | (pattern, verbs) :: rest =>
    let (after, fault) := n.insert pattern verbs
    if fault.isNone then (segmentsOf pattern, verbs) :: after.registrations rest
    else after.registrations rest

end Node

/-- Adds verbs to those known, which win. -/
def addTo (known : Option (Verbs α)) (verbs : Verbs α) : Option (Verbs α) :=
  some (known.elim verbs (·.merge verbs))

/-- The verbs that registrations store under a classified pattern, if it is among them. -/
def stored (registered : List (Registration α)) (pattern : List Segment) : Option (Verbs α) :=
  ((registered.filter (·.1 = pattern)).map (·.2)).foldl addTo none

theorem foldl_addTo_isSome (verbs : List (Verbs α)) (known : Option (Verbs α)) :
    (verbs.foldl addTo known).isSome ↔ known.isSome ∨ verbs ≠ [] := by
  induction verbs generalizing known with
  | nil => simp
  | cons v rest ih =>
      rw [List.foldl_cons, ih]
      simp [addTo]

theorem stored_isSome_iff (registered : List (Registration α)) (pattern : List Segment) :
    (stored registered pattern).isSome ↔ pattern ∈ registered.map (·.1) := by
  rw [stored, foldl_addTo_isSome]
  simp [List.filter_eq_nil_iff]

namespace Node

theorem wellFormed_insertAll {n : Node α} (hn : n.WellFormed) (calls : List (Insertion α)) :
    (n.insertAll calls).WellFormed := by
  induction calls generalizing n with
  | nil => exact hn
  | cons call rest ih => exact ih (hn.insert call.1 call.2)

theorem at?_insert {n : Node α} (hn : n.WellFormed) {pattern : String} {verbs : Verbs α}
    (h : (n.insert pattern verbs).2 = none) (q : List Segment) :
    at? q (n.insert pattern verbs).1 =
      if q = segmentsOf pattern then addTo (at? q n) verbs else at? q n := by
  unfold Node.insert at h ⊢
  cases hparse : parsePattern pattern with
  | error fault => simp [hparse] at h
  | ok parts =>
      obtain ⟨-, rfl⟩ := (parsePattern_eq_ok_iff pattern parts).mp hparse
      simp only [hparse] at h ⊢
      rw [at?_put hn h, segmentsOf]
      split
      · rename_i hq
        rw [hq, addTo]
      · rfl

theorem at?_insertAll {n : Node α} (hn : n.WellFormed) (calls : List (Insertion α))
    (q : List Segment) :
    at? q (n.insertAll calls) =
      (((n.registrations calls).filter (·.1 = q)).map (·.2)).foldl addTo (at? q n) := by
  induction calls generalizing n with
  | nil => rfl
  | cons call rest ih =>
      obtain ⟨pattern, verbs⟩ := call
      have hafter := hn.insert pattern verbs
      rw [insertAll, List.foldl_cons, ← insertAll, ih hafter, registrations]
      cases hfault : (n.insert pattern verbs).2 with
      | none =>
          simp only [hfault, Option.isNone_none, if_true]
          rw [at?_insert hn hfault]
          by_cases hq : segmentsOf pattern = q
          · simp [hq]
          · simp [hq, Ne.symm hq]
      | some fault =>
          simp only [hfault, Option.isNone_some, Bool.false_eq_true, if_false]
          rw [insert_eq_self_of_fault hfault]

/-- What the tree holds after a run is what the successful insertions store. -/
theorem at?_root_insertAll (calls : List (Insertion α)) (q : List Segment) :
    at? q (root.insertAll calls) = stored (root.registrations calls) q := by
  rw [at?_insertAll wellFormed_root, stored]
  cases q with
  | nil => rfl
  | cons s q =>
      have hroot : at? (s :: q) (root : Node α) = none := at?_of_isLeaf (isLeaf_leaf _ _) s q
      rw [hroot]

end Node

end Conduit.Routing
