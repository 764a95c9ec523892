import Conduit.Proofs.ByteOrder
import Conduit.Proofs.Routing.Conflicts

/-! # What every node of a tree keeps to

Whatever insertions are made, successful or refused, no node of the tree has a child in the wrong
slot or two children for one segment, and its literal children stand in the order of their bytes, so
that they can be searched by halves. No node is there for nothing: something is registered at it or
below it. -/

namespace Conduit.Routing.Node

variable {α : Type} {n c d t : Node α} {text : String} {s : Segment}

/-! ## Searching by halves -/

/-- The child of that text, looked for in the half that the child in the middle points to. -/
def bisect (text : String) (children : List (Node α)) : Option (Node α) :=
  match h : children.drop (children.length / 2) with
  | [] => none
  | c :: behind =>
    if c.text = text then some c
    else if text < c.text then bisect text (children.take (children.length / 2))
    else bisect text behind
  termination_by children.length
  decreasing_by
    all_goals
      have hlength := congrArg List.length h
      simp only [List.length_drop, List.length_cons] at hlength
      first | (rw [List.length_take]; omega) | omega

section Middle

variable {front behind : List (Node α)}

theorem mem_front_of_lt (hs : Sorted (front ++ c :: behind)) (hd : d ∈ front ++ c :: behind)
    (hlt : d.text < c.text) : d ∈ front := by
  obtain ⟨-, hrest, -⟩ := List.pairwise_append.mp hs
  rcases List.mem_append.mp hd with hd | hd
  · exact hd
  · rcases List.mem_cons.mp hd with rfl | hd
    · exact absurd hlt (lt_irrefl _)
    · exact absurd hlt ((List.pairwise_cons.mp hrest).1 d hd).not_gt

theorem mem_behind_of_gt (hs : Sorted (front ++ c :: behind)) (hd : d ∈ front ++ c :: behind)
    (hgt : c.text < d.text) : d ∈ behind := by
  obtain ⟨-, -, hfront⟩ := List.pairwise_append.mp hs
  rcases List.mem_append.mp hd with hd | hd
  · exact absurd hgt (hfront d hd c List.mem_cons_self).not_gt
  · rcases List.mem_cons.mp hd with rfl | hd
    · exact absurd hgt (lt_irrefl _)
    · exact hd

end Middle

theorem eq_of_text_eq {children : List (Node α)} (hs : Sorted children) (hc : c ∈ children)
    (hd : d ∈ children) (htext : d.text = c.text) : d = c := by
  have hfound := (findIn_eq_some_iff hs d).mpr ⟨hd, htext⟩
  rw [(findIn_eq_some_iff hs c).mpr ⟨hc, rfl⟩] at hfound
  exact (Option.some.inj hfound).symm

/-- Among ordered children the search by halves misses none. -/
theorem bisect_eq_some_iff {children : List (Node α)} (hs : Sorted children) :
    bisect text children = some d ↔ d ∈ children ∧ d.text = text := by
  fun_induction bisect text children with
  | case1 children h =>
      have hlength := congrArg List.length h
      rw [List.length_drop, List.length_nil] at hlength
      have hempty : children = [] := List.length_eq_zero_iff.mp (by omega)
      simp [hempty]
  | case2 children c behind h heq =>
      have hc : c ∈ children := by
        apply List.mem_of_mem_drop (i := children.length / 2)
        rw [h]
        exact List.mem_cons_self
      constructor
      · intro hd
        obtain rfl := Option.some.inj hd
        exact ⟨hc, heq⟩
      · rintro ⟨hd, htext⟩
        rw [eq_of_text_eq hs hc hd (htext.trans heq.symm)]
  | case3 children c behind h hne hlt ih =>
      have hparts : children.take (children.length / 2) ++ c :: behind = children := by
        rw [← h, List.take_append_drop]
      rw [ih (hs.sublist (List.take_sublist _ _))]
      constructor
      · rintro ⟨hd, htext⟩
        exact ⟨List.mem_of_mem_take hd, htext⟩
      · rintro ⟨hd, rfl⟩
        rw [← hparts] at hs hd
        exact ⟨mem_front_of_lt hs hd hlt, rfl⟩
  | case4 children c behind h hne hlt ih =>
      have hparts : children.take (children.length / 2) ++ c :: behind = children := by
        rw [← h, List.take_append_drop]
      rw [← hparts] at hs ⊢
      obtain ⟨-, hrest, -⟩ := List.pairwise_append.mp hs
      rw [ih (List.pairwise_cons.mp hrest).2]
      constructor
      · rintro ⟨hd, htext⟩
        exact ⟨List.mem_append_right _ (List.mem_cons_of_mem c hd), htext⟩
      · rintro ⟨hd, rfl⟩
        exact ⟨mem_behind_of_gt hs hd (lt_of_le_of_ne (not_lt.mp hlt) hne), rfl⟩

theorem bisect_eq_findIn {children : List (Node α)} (hs : Sorted children) :
    bisect text children = findIn text children := by
  apply Option.ext
  intro d
  rw [bisect_eq_some_iff hs, findIn_eq_some_iff hs]

/-! ## The nodes of a tree -/

/-- The node stands in a slot of another. -/
inductive Child : Node α → Node α → Prop
  | literal {c n : Node α} (h : c ∈ n.literals) : Child c n
  | param {c n : Node α} (h : n.param = some c) : Child c n
  | wildcard {c n : Node α} (h : n.wildcard = some c) : Child c n

/-- The node is another or stands somewhere below it. -/
inductive Within : Node α → Node α → Prop
  | self (n : Node α) : Within n n
  | under {d c n : Node α} (child : Child c n) (within : Within d c) : Within d n

def Below (d n : Node α) : Prop := ∃ c, Child c n ∧ Within d c

theorem child_of_child? (h : n.child? text s = some c) : Child c n := by
  cases s with
  | literal t => exact .literal (mem_of_findIn h).1
  | param name => exact .param h
  | wildcard name => exact .wildcard h

theorem Child.exists_child? (hn : n.Tidy) (h : Child c n) : ∃ text s, n.child? text s = some c := by
  cases h with
  | literal hc =>
      exact ⟨c.text, .literal c.text, (findIn_eq_some_iff hn.sorted c).mpr ⟨hc, rfl⟩⟩
  | param hc => exact ⟨"", .param "", hc⟩
  | wildcard hc => exact ⟨"", .wildcard "", hc⟩

theorem Below.exists_parent (h : Below d n) : ∃ m, Within m n ∧ Child d m := by
  obtain ⟨c, hc, hwithin⟩ := h
  induction hwithin generalizing n with
  | self => exact ⟨n, .self n, hc⟩
  | under child _ ih =>
      obtain ⟨m, hm, hd⟩ := ih child
      exact ⟨m, .under hc hm, hd⟩

theorem WellFormed.within (h : Within d n) (hn : n.WellFormed) : d.WellFormed := by
  induction h with
  | self => exact hn
  | under child _ ih =>
      obtain ⟨text, s, hc⟩ := child.exists_child? hn.tidy
      exact ih (hn.child hc)

theorem Fruitful.within (h : Within d n) (hn : n.WellFormed) (hfruitful : n.Fruitful) :
    d.Fruitful := by
  induction h with
  | self => exact hfruitful
  | under child _ ih =>
      obtain ⟨text, s, hc⟩ := child.exists_child? hn.tidy
      exact ih (hn.child hc) (hfruitful.child hc)

theorem exists_within_of_at? {key : List Segment} (h : (at? key n).isSome) :
    ∃ d, Within d n ∧ d.verbs.isSome := by
  induction key generalizing n with
  | nil => exact ⟨n, .self n, h⟩
  | cons s key ih =>
      obtain ⟨verbs, hverbs⟩ := Option.isSome_iff_exists.mp h
      obtain ⟨c, hinto, hheld⟩ := Option.bind_eq_some_iff.mp hverbs
      obtain ⟨hc, -⟩ := Option.filter_eq_some_iff.mp hinto
      obtain ⟨d, hd, hregistered⟩ := ih (n := c) (by rw [hheld]; rfl)
      exact ⟨d, .under (child_of_child? hc) hd, hregistered⟩

theorem Fruitful.exists_within (hn : n.Tidy) (hfruitful : n.Fruitful) (h : Child c n) :
    ∃ d, Within d c ∧ d.verbs.isSome := by
  obtain ⟨text, s, hc⟩ := h.exists_child? hn
  obtain ⟨key, hkey⟩ := hfruitful.bears hc
  exact exists_within_of_at? hkey

/-! ## All nodes of a tree -/

/-- The children of a node stand where they are looked for. -/
structure InOrder (n : Node α) : Prop where
  increasing : (n.literals.map fun c => Utf8.encode c.text).Pairwise (· < ·)
  nodup : (n.literals.map (·.text)).Nodup
  found : ∀ text c, n.literal? text = some c ↔ c ∈ n.literals ∧ c.text = text
  halved : ∀ text, bisect text n.literals = n.literal? text
  literal : ∀ c ∈ n.literals, c.segment = .literal c.text
  param : ∀ c, n.param = some c → ∃ name, name ≠ "" ∧ c.segment = .param name
  /-- A wildcard ends its pattern: it leads nowhere, and something is registered at it. -/
  wildcard : ∀ c, n.wildcard = some c →
    (∃ name, name ≠ "" ∧ c.segment = .wildcard name) ∧ c.IsLeaf ∧ c.verbs.isSome

theorem Tidy.inOrder (hn : n.Tidy) : n.InOrder := by
  refine ⟨?_, ?_, ?_, ?_, hn.literal, hn.param, ?_⟩
  · apply List.pairwise_map.mpr
    apply hn.sorted.imp
    intro a b hlt
    exact Utf8.encode_lt_encode_iff.mpr hlt
  · apply List.pairwise_map.mpr
    apply hn.sorted.imp
    intro a b hlt
    exact hlt.ne
  · intro text c
    exact findIn_eq_some_iff hn.sorted c
  · intro text
    exact bisect_eq_findIn hn.sorted
  · intro c hc
    obtain ⟨hname, hverbs, hleaf⟩ := hn.wildcard c hc
    exact ⟨hname, hleaf, hverbs⟩

/-- All nodes of a tree are in order, and none but the root is there for nothing. -/
structure AllInOrder (t : Node α) : Prop where
  inOrder : ∀ n, Within n t → n.InOrder
  alive : ∀ n, Below n t → ∃ d, Within d n ∧ d.verbs.isSome

theorem WellFormed.allInOrder (ht : t.WellFormed) (hfruitful : t.Fruitful) : t.AllInOrder := by
  constructor
  · intro n hn
    exact (ht.within hn).tidy.inOrder
  · intro n hn
    obtain ⟨m, hm, hchild⟩ := hn.exists_parent
    exact (hfruitful.within hm ht).exists_within (ht.within hm).tidy hchild

theorem fruitful_insertAll (hn : n.WellFormed) (hfruitful : n.Fruitful)
    (calls : List (Insertion α)) : (n.insertAll calls).Fruitful := by
  induction calls generalizing n with
  | nil => exact hfruitful
  | cons call calls ih =>
      exact ih (hn.insert call.1 call.2) (hfruitful.insert hn call.1 call.2)

/-- Whatever insertions are made, successful or refused, the tree that they leave has all its nodes
in order and none of them for nothing. -/
theorem allInOrder_insertAll (calls : List (Insertion α)) : (root.insertAll calls).AllInOrder :=
  (wellFormed_insertAll wellFormed_root calls).allInOrder
    (fruitful_insertAll wellFormed_root fruitful_root calls)

/-- Three patterns in two orders of letters, one of them with no verbs, and two that are refused. -/
def mixedCalls : List (Insertion ℕ) :=
  [("/b/:id/x", Verbs.empty.set .get 1), ("/a/*rest", Verbs.empty), ("/b/{key}/y/z", .empty),
    ("/é", Verbs.empty.set .put 2), ("/*all/a", .empty)]

/-- The node for `b` stands between the others, and what it is there for is two nodes below it. -/
theorem mixedCalls_allInOrder :
    ((root.insertAll mixedCalls).literals.map (·.text) = ["a", "b", "é"]) ∧
    ∃ n, (root.insertAll mixedCalls).literal? "b" = some n ∧ n.verbs = none ∧ n.InOrder ∧
      ∃ d, Within d n ∧ d.verbs.isSome := by
  have htree : (root.insertAll mixedCalls).AllInOrder := allInOrder_insertAll mixedCalls
  obtain ⟨n, hn⟩ := Option.isSome_iff_exists.mp
    (by decide : ((root.insertAll mixedCalls).literal? "b").isSome)
  have hchild : Child n (root.insertAll mixedCalls) := .literal (mem_of_findIn hn).1
  refine ⟨by decide, n, hn, ?_, ?_, ?_⟩
  · have hverbs : ((root.insertAll mixedCalls).literal? "b").bind (·.verbs) = none := by rfl
    rwa [hn] at hverbs
  · exact htree.inOrder n (.under hchild (.self n))
  · exact htree.alive n ⟨n, hchild, .self n⟩

end Conduit.Routing.Node
