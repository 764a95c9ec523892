import Mathlib.Data.Set.Card
import Conduit.Proofs.Routing.Store
import Conduit.Proofs.Routing.Verbs

/-! # The count of a router

A router counts every verb that an accepted call brings. One that its pattern has already keeps its
value and is counted all the same, so the count is that of the registered verbs exactly if no
accepted call brings a verb again. A single route never does, and the count is zero exactly if
nothing is registered. -/

namespace Conduit.Routing

variable {α : Type}

namespace Verbs

theorem mem_allowed_iff {t : Verbs α} {verb : Verb} : verb ∈ t.allowed ↔ (t.get? verb).isSome := by
  cases verb <;> simp [allowed, Verb.all]

theorem nodup_allowed (t : Verbs α) : t.allowed.Nodup := List.Nodup.filter _ (by decide)

end Verbs

/-! ## What was brought -/

/-- The verbs of a registration, each with its pattern. -/
def Registration.pairs (entry : Registration α) : List (Verb × List Segment) :=
  entry.2.allowed.map (·, entry.1)

namespace Store

variable {store : Store α} {entry : Registration α} {pattern : List Segment} {verb : Verb}

/-- The verbs that the accepted registrations brought, one by one. -/
def brought (store : Store α) : List (Verb × List Segment) := store.flatMap Registration.pairs

theorem brought_concat (store : Store α) (entry : Registration α) :
    (store ++ [entry]).brought = store.brought ++ entry.pairs := by
  simp [brought]

theorem mem_pairs_iff :
    (verb, pattern) ∈ entry.pairs ↔ entry.1 = pattern ∧ (entry.2.get? verb).isSome := by
  rw [Registration.pairs, List.mem_map]
  constructor
  · rintro ⟨v, hv, heq⟩
    obtain ⟨rfl, rfl⟩ := Prod.mk.inj heq
    exact ⟨rfl, Verbs.mem_allowed_iff.mp hv⟩
  · rintro ⟨rfl, hv⟩
    exact ⟨verb, Verbs.mem_allowed_iff.mpr hv, rfl⟩

theorem nodup_pairs (entry : Registration α) : entry.pairs.Nodup :=
  entry.2.nodup_allowed.map fun _ _ h => congrArg Prod.fst h

theorem mem_brought_iff : (verb, pattern) ∈ store.brought ↔ (store.value? pattern verb).isSome := by
  induction store with
  | nil => simp [brought, value?]
  | cons entry rest ih =>
      rw [brought, List.flatMap_cons, ← brought, List.mem_append, mem_pairs_iff, ih, value?, value?,
        List.findSome?_cons]
      by_cases h : entry.1 = pattern
      · cases hvalue : entry.2.get? verb <;> simp [h]
      · simp [h]

end Store

/-! ## What is registered -/

namespace Router

variable {r : Router α} {store : Store α}

/-- The methods that are registered, each with the classified pattern that it is registered at. -/
def held (r : Router α) : Set (Method × List Segment) :=
  {pair | ∃ pattern, segmentsOf pattern = pair.2 ∧ r.contains pair.1 pattern = true}

/-- The call brings no verb that its pattern has already. -/
def BringsNew (r : Router α) (call : Command α) : Prop :=
  ∀ verb ∈ call.verbs.allowed, r.contains verb.method call.pattern = false

theorem StandsFor.contains_iff (h : r.StandsFor store) (method : Method) (pattern : String) :
    r.contains method pattern = true ↔
      ∃ verb : Verb, verb.method = method ∧ (verb, segmentsOf pattern) ∈ store.brought := by
  rw [h.contains, Store.contains]
  cases hverb : method.verb? with
  | none =>
      refine iff_of_false (by simp) ?_
      rintro ⟨verb, rfl, -⟩
      rw [verb.verb?_method] at hverb
      cases hverb
  | some verb =>
      obtain rfl := Method.verb?_eq_some_iff.mp hverb
      rw [Option.bind_some, ← Store.mem_brought_iff]
      constructor
      · intro hmem
        exact ⟨verb, rfl, hmem⟩
      · rintro ⟨other, hother, hmem⟩
        rwa [← Verb.method_injective hother]

theorem StandsFor.bringsNew_iff (h : r.StandsFor store) (call : Command α) :
    r.BringsNew call ↔ store.brought.Disjoint call.registration.pairs := by
  constructor
  · rintro hnew ⟨verb, pattern⟩ hbrought hpair
    obtain ⟨rfl, hverb⟩ := Store.mem_pairs_iff.mp hpair
    have hfree := hnew verb (Verbs.mem_allowed_iff.mpr hverb)
    have hheld := (h.contains_iff verb.method call.pattern).mpr ⟨verb, rfl, hbrought⟩
    rw [hfree] at hheld
    cases hheld
  · intro hdisjoint verb hverb
    rw [Bool.eq_false_iff]
    intro hheld
    obtain ⟨other, hother, hmem⟩ := (h.contains_iff _ _).mp hheld
    obtain rfl := Verb.method_injective hother
    exact hdisjoint hmem (Store.mem_pairs_iff.mpr ⟨rfl, Verbs.mem_allowed_iff.mp hverb⟩)

theorem bringsNew_of_route {method : Method} {pattern : String} {value : α}
    (h : (r.perform (.route method pattern value)).2 = none) :
    r.BringsNew (.route method pattern value) := by
  intro verb hverb
  obtain rfl : method = verb.method := by
    rw [Command.verbs, Verbs.mem_allowed_iff] at hverb
    by_contra hmethod
    simp [hmethod] at hverb
  rw [perform, route] at h
  split at h
  · cases h
  · rename_i hfree
    exact Bool.eq_false_iff.mpr hfree

/-! ## Runs of calls -/

theorem StandsFor.count_perform (h : r.StandsFor store) (hcount : r.count = store.brought.length)
    (call : Command α) : (r.perform call).1.count = (store.perform call).brought.length := by
  obtain ⟨hnone, hcall, hstore⟩ | ⟨-, hself, hstore⟩ := h.perform_cases call
  · rw [hcall] at hnone ⊢
    rw [count_insert hnone, hstore, Store.brought_concat, List.length_append, hcount,
      Registration.pairs, List.length_map]
    rfl
  · rw [hself, hstore, hcount]

theorem StandsFor.count_performAll (h : r.StandsFor store)
    (hcount : r.count = store.brought.length) (calls : List (Command α)) :
    (r.performAll calls).count = (store.performAll calls).brought.length := by
  induction calls generalizing r store with
  | nil => exact hcount
  | cons call rest ih => exact ih (h.perform call) (h.count_perform hcount call)

theorem exists_segmentsOf_of_mem_performAll {calls : List (Command α)}
    {pair : Verb × List Segment} (h : pair ∈ (Store.performAll [] calls).brought) :
    ∃ pattern, segmentsOf pattern = pair.2 := by
  induction calls using List.reverseRecOn with
  | nil => cases h
  | append_singleton calls call ih =>
      rw [Store.performAll, List.foldl_concat, ← Store.performAll] at h
      obtain ⟨-, -, hstore⟩ | ⟨-, -, hstore⟩ :=
        (standsFor_empty.performAll calls).perform_cases call
      · rw [hstore, Store.brought_concat, List.mem_append] at h
        rcases h with h | h
        · exact ih h
        · exact ⟨call.pattern, (Store.mem_pairs_iff.mp h).1⟩
      · rw [hstore] at h
        exact ih h

theorem held_performAll (calls : List (Command α)) :
    (empty.performAll calls).held =
      ((Store.performAll [] calls).brought.toFinset.image fun pair => (pair.1.method, pair.2) :
        Finset (Method × List Segment)) := by
  have hstands : (empty.performAll calls).StandsFor (Store.performAll [] calls) :=
    standsFor_empty.performAll calls
  ext ⟨method, key⟩
  simp only [held, Set.mem_ofPred_eq, hstands.contains_iff, Finset.coe_image, Set.mem_image,
    Finset.mem_coe, List.mem_toFinset, Prod.mk.injEq, Prod.exists]
  constructor
  · rintro ⟨pattern, rfl, verb, hmethod, hmem⟩
    exact ⟨verb, _, hmem, hmethod, rfl⟩
  · rintro ⟨verb, _, hmem, hmethod, rfl⟩
    obtain ⟨pattern, hpattern⟩ := exists_segmentsOf_of_mem_performAll hmem
    exact ⟨pattern, hpattern, verb, hmethod, hpattern ▸ hmem⟩

theorem ncard_held_performAll (calls : List (Command α)) :
    (empty.performAll calls).held.ncard =
      (Store.performAll [] calls).brought.toFinset.card := by
  have hinjective : Function.Injective fun pair : Verb × List Segment =>
      (pair.1.method, pair.2) := by
    rintro ⟨verb, key⟩ ⟨verb', key'⟩ h
    obtain ⟨hmethod, hkey⟩ := Prod.mk.inj h
    exact Prod.ext (Verb.method_injective hmethod) hkey
  rw [held_performAll, Set.ncard_coe_finset, Finset.card_image_of_injective _ hinjective]

theorem forall_prefix_concat_iff {β : Type} {p : List β → β → Prop} {xs : List β} {last : β} :
    (∀ before x, before ++ [x] <+: xs ++ [last] → p before x) ↔
      p xs last ∧ ∀ before x, before ++ [x] <+: xs → p before x := by
  simp only [List.prefix_concat_iff]
  constructor
  · intro h
    exact ⟨h xs last (.inl rfl), fun before x hpre => h before x (.inr hpre)⟩
  · rintro ⟨hlast, hrest⟩ before x (heq | hpre)
    · obtain ⟨rfl, rfl⟩ := List.append_singleton_inj.mp heq
      exact hlast
    · exact hrest before x hpre

/-- No verb is brought twice for one pattern exactly if every accepted call brings new ones. -/
theorem nodup_brought_iff (calls : List (Command α)) :
    (Store.performAll [] calls).brought.Nodup ↔ ∀ before call, before ++ [call] <+: calls →
      ((empty.performAll before).perform call).2 = none →
        (empty.performAll before).BringsNew call := by
  induction calls using List.reverseRecOn with
  | nil => simp [Store.performAll, Store.brought]
  | append_singleton calls last ih =>
      have hstands : (empty.performAll calls).StandsFor (Store.performAll [] calls) :=
        standsFor_empty.performAll calls
      rw [forall_prefix_concat_iff, ← ih, Store.performAll, List.foldl_concat,
        ← Store.performAll]
      obtain ⟨hnone, -, hstore⟩ | ⟨hsome, -, hstore⟩ := hstands.perform_cases last
      · have hpairs := Store.nodup_pairs last.registration
        rw [hstore, Store.brought_concat, List.nodup_append', hstands.bringsNew_iff]
        tauto
      · rw [hstore]
        tauto

/-! ## Count and registrations -/

/-- What the count of a router says of what is registered in it after a run of calls. -/
structure Counted (calls : List (Command α)) : Prop where
  /-- Each verb of each accepted call counts, whether its pattern has it already or not. -/
  count : (empty.performAll calls).count = (Store.performAll [] calls).brought.length
  finite : (empty.performAll calls).held.Finite
  le : (empty.performAll calls).held.ncard ≤ (empty.performAll calls).count
  exact_iff : (empty.performAll calls).count = (empty.performAll calls).held.ncard ↔
    ∀ before call, before ++ [call] <+: calls →
      ((empty.performAll before).perform call).2 = none →
        (empty.performAll before).BringsNew call
  routes : (∀ call ∈ calls, ∃ method pattern value, call = .route method pattern value) →
    (empty.performAll calls).count = (empty.performAll calls).held.ncard
  isEmpty_iff : (empty.performAll calls).isEmpty = true ↔ (empty.performAll calls).held = ∅

/-- After any calls on an empty router, refused ones included, the count is at least the number of
registered verbs, each with its classified pattern. It is that number exactly if no accepted call
brings a verb that its pattern has, as no single route does, and it is zero exactly if nothing is
registered. -/
theorem counted (calls : List (Command α)) : Counted calls := by
  have hcount : (empty.performAll calls).count = (Store.performAll [] calls).brought.length :=
    standsFor_empty.count_performAll rfl calls
  have hexact : (empty.performAll calls).count = (empty.performAll calls).held.ncard ↔
      ∀ before call, before ++ [call] <+: calls →
        ((empty.performAll before).perform call).2 = none →
          (empty.performAll before).BringsNew call := by
    rw [hcount, ncard_held_performAll, ← nodup_brought_iff]
    exact eq_comm.trans Multiset.toFinset_card_eq_card_iff_nodup
  refine ⟨hcount, ?_, ?_, hexact, fun hroutes => hexact.mpr ?_, ?_⟩
  · rw [held_performAll]
    exact Finset.finite_toSet _
  · rw [hcount, ncard_held_performAll]
    exact List.toFinset_card_le _
  · intro before call hpre hnone
    obtain ⟨method, pattern, value, rfl⟩ := hroutes call (hpre.subset (by simp))
    exact bringsNew_of_route hnone
  · rw [isEmpty, beq_iff_eq, hcount, held_performAll, Finset.coe_eq_empty, Finset.image_eq_empty,
      List.toFinset_eq_empty_iff, List.length_eq_zero_iff]

/-- One verb at one pattern, inserted twice in two spellings. -/
def insertedTwice : List (Command ℕ) :=
  [.insert "/a/:id" (Verbs.empty.set .get 1), .insert "a/{id}/" (Verbs.empty.set .get 2)]

/-- It keeps its first value and counts as two. -/
theorem insertedTwice_counted_twice :
    (empty.performAll insertedTwice).count = 2 ∧ (empty.performAll insertedTwice).held.ncard = 1 ∧
    ((empty.performAll insertedTwice).root.findPattern "/a/:id").bind (·.get? .get) = some 1 := by
  refine ⟨by decide, ?_, by decide⟩
  rw [ncard_held_performAll]
  decide

end Router

end Conduit.Routing
