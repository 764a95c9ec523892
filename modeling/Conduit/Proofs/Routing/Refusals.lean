import Conduit.Proofs.Routing.Registrations

/-! # Refused insertions

Below a node that an insertion creates nothing stands in its way. What refuses a pattern is
therefore met before anything has been created: a node that was there under another name, behind
nodes that were there under theirs. -/

namespace Conduit.Routing.Node

variable {α : Type} {n : Node α} {pattern : String} {verbs : Verbs α} {parts : List Part}
  {fault : PatternError}

/-! ## What stands in the way -/

/-- Going down along the parts by nodes that are there, one is met in the place of the next part
that has another name. -/
inductive Blocked (pattern : String) : List Part → Node α → PatternError → Prop
  | here {part : Part} {rest : List Part} {n child : Node α}
      (there : n.child? part.text part.segment = some child)
      (other : child.segment ≠ part.segment) :
      Blocked pattern (part :: rest) n
        (.conflictingName pattern child.text (segmentName part.segment))
  | behind {part : Part} {rest : List Part} {n child : Node α} {fault : PatternError}
      (there : n.child? part.text part.segment = some child)
      (same : child.segment = part.segment) (blocked : Blocked pattern rest child fault) :
      Blocked pattern (part :: rest) n fault

theorem put_eq_some_iff :
    (put pattern verbs parts n).2 = some fault ↔ Blocked pattern parts n fault := by
  constructor
  · intro h
    induction parts generalizing n with
    | nil => cases h
    | cons part rest ih =>
        obtain ⟨text, s⟩ := part
        by_cases hs : (n.childFor text s).segment = s
        · rw [put_cons_of_eq hs] at h
          cases hc : n.child? text s with
          | none =>
              rw [childFor_of_none hc, put_of_isLeaf (isLeaf_leaf text s)] at h
              cases h
          | some c =>
              rw [childFor_of_some hc] at h hs
              exact .behind hc hs (ih h)
        · rw [put_cons_of_ne hs] at h
          cases hc : n.child? text s with
          | none => exact absurd (by rw [childFor_of_none hc]; rfl) hs
          | some c =>
              rw [childFor_of_some hc] at h hs
              cases h
              exact .here hc hs
  · intro h
    induction h with
    | here there other =>
        rw [put_cons_of_ne (by rwa [childFor_of_some there]), childFor_of_some there]
    | behind there same _ ih =>
        rw [put_cons_of_eq (by rwa [childFor_of_some there]), childFor_of_some there]
        exact ih

/-- Why a tree has no place for a pattern. -/
inductive Refuses (n : Node α) (pattern : String) : PatternError → Prop
  | unreadable {fault : PatternError} (unread : parsePattern pattern = .error fault) :
      Refuses n pattern fault
  | blocked {parts : List Part} {fault : PatternError} (read : parsePattern pattern = .ok parts)
      (blocked : Blocked pattern parts n fault) : Refuses n pattern fault

theorem insert_eq_some_iff :
    (n.insert pattern verbs).2 = some fault ↔ Refuses n pattern fault := by
  rw [insert]
  cases hparse : parsePattern pattern with
  | error cause =>
      constructor
      · rintro ⟨⟩
        exact .unreadable hparse
      · rintro (hunread | ⟨hread, -⟩)
        · rw [hparse] at hunread
          cases hunread
          rfl
        · rw [hparse] at hread
          cases hread
  | ok parts =>
      simp only [put_eq_some_iff]
      constructor
      · exact .blocked hparse
      · rintro (hunread | ⟨hread, hblocked⟩)
        · rw [hparse] at hunread
          cases hunread
        · rw [hparse] at hread
          cases hread
          exact hblocked

/-! ## Runs of insertions -/

/-- The insertions of a run that succeed. -/
def accepted (n : Node α) : List (Insertion α) → List (Insertion α)
  | [] => []
  | (pattern, verbs) :: rest =>
    let (after, fault) := n.insert pattern verbs
    if fault.isNone then (pattern, verbs) :: after.accepted rest else after.accepted rest

theorem insertAll_accepted (n : Node α) (calls : List (Insertion α)) :
    n.insertAll (n.accepted calls) = n.insertAll calls := by
  induction calls generalizing n with
  | nil => rfl
  | cons call rest ih =>
      obtain ⟨pattern, verbs⟩ := call
      have hcons : n.insertAll ((pattern, verbs) :: rest) =
          (n.insert pattern verbs).1.insertAll rest := rfl
      rw [accepted, hcons]
      cases hfault : (n.insert pattern verbs).2 with
      | none =>
          simp only [hfault, Option.isNone_none, if_true]
          exact ih _
      | some fault =>
          simp only [hfault, Option.isNone_some, Bool.false_eq_true, if_false]
          rw [insert_eq_self_of_fault hfault]
          exact ih n

/-- Whatever refuses an insertion, the tree stays as it was, at every node and in every slot. So a
run of insertions leaves what the accepted ones leave alone. -/
theorem refusal_leaves_tree (n : Node α) :
    (∀ pattern verbs fault, (n.insert pattern verbs).2 = some fault →
      (n.insert pattern verbs).1 = n) ∧
    (∀ pattern verbs fault, (n.insert pattern verbs).2 = some fault ↔ Refuses n pattern fault) ∧
    ∀ calls, n.insertAll (n.accepted calls) = n.insertAll calls :=
  ⟨fun _ _ _ => insert_eq_self_of_fault, fun _ _ _ => insert_eq_some_iff, n.insertAll_accepted⟩

/-- Two routes behind a literal, under a parameter and a wildcard. -/
def namedTree : Node ℕ :=
  root.insertAll [("/a/:id/b", Verbs.empty.set .get 1), ("/a/*rest", Verbs.empty.set .get 2)]

/-- Another name for the parameter is refused with what it was to lead to. -/
theorem namedTree_stays :
    (namedTree.insert "/a/{key}/c/d" (Verbs.empty.set .put 3)).2 =
      some (.conflictingName "/a/{key}/c/d" ":id" "key") ∧
    (namedTree.insert "/a/{key}/c/d" (Verbs.empty.set .put 3)).1 = namedTree := by
  have hrefused : (namedTree.insert "/a/{key}/c/d" (Verbs.empty.set .put 3)).2 =
      some (.conflictingName "/a/{key}/c/d" ":id" "key") := by decide
  exact ⟨hrefused, (refusal_leaves_tree namedTree).1 _ _ _ hrefused⟩

end Conduit.Routing.Node
