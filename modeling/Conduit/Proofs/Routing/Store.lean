import Conduit.Proofs.Routing.Conflicts
import Conduit.Proofs.Routing.Verbs
import Conduit.Routing.Router

/-! # A router as a store

A router stands for a map: each classified pattern that was accepted has at most one value for each
verb, the one that it was given first. The map is told by the registrations that it accepted, in
order, without a tree. Router and store accept the same calls and answer the same lookups. -/

namespace Conduit.Routing

variable {α : Type}

/-! ## Calls -/

/-- A call that registers something under a pattern. -/
inductive Command (α : Type)
  | insert (pattern : String) (verbs : Verbs α)
  | route (method : Method) (pattern : String) (value : α)

namespace Command

def pattern : Command α → String
  | insert pattern _ => pattern
  | route _ pattern _ => pattern

/-- The values that the call brings. A route brings one, if its method is a verb. -/
def verbs : Command α → Verbs α
  | insert _ verbs => verbs
  | route method _ value => ⟨fun verb => if method = verb.method then some value else none⟩

def registration (call : Command α) : Registration α := (segmentsOf call.pattern, call.verbs)

end Command

namespace Router

def perform (r : Router α) : Command α → Router α × Option PatternError
  | .insert pattern verbs => r.insert pattern verbs
  | .route method pattern value => r.route method pattern value

def performAll (r : Router α) (calls : List (Command α)) : Router α :=
  calls.foldl (fun r call => (r.perform call).1) r

end Router

/-! ## The store -/

/-- The registrations that were accepted, in order. -/
abbrev Store (α : Type) := List (Registration α)

namespace Store

/-- The value that the verb was given first under the pattern. -/
def value? (store : Store α) (pattern : List Segment) (verb : Verb) : Option α :=
  store.findSome? fun entry => if entry.1 = pattern then entry.2.get? verb else none

/-- What is stored under the pattern, if it was accepted: a value for some of the verbs. -/
def values? (store : Store α) (pattern : List Segment) : Option (Verb → Option α) :=
  if pattern ∈ store.map (·.1) then some (store.value? pattern) else none

/-- Whether the pattern has a value for the method; a method that is no verb has none. -/
def contains (store : Store α) (method : Method) (pattern : List Segment) : Bool :=
  (method.verb?.bind (store.value? pattern)).isSome

/-- The call asks for nothing that a value is stored for already. -/
def IsNew (store : Store α) : Command α → Prop
  | .insert _ _ => True
  | .route method pattern _ => store.contains method (segmentsOf pattern) = false

/-- The calls that are accepted. -/
structure Admits (store : Store α) (call : Command α) : Prop where
  legal : Legal (segmentsOf call.pattern)
  clear : ∀ pattern ∈ store.map (·.1), conflict pattern (segmentsOf call.pattern) = false
  isNew : store.IsNew call

instance (store : Store α) (call : Command α) : Decidable (store.IsNew call) :=
  match call with
  | .insert _ _ => .isTrue trivial
  | .route method pattern _ =>
    inferInstanceAs (Decidable (store.contains method (segmentsOf pattern) = false))

instance (store : Store α) (call : Command α) : Decidable (store.Admits call) :=
  decidable_of_iff
    (Legal (segmentsOf call.pattern) ∧
      (∀ pattern ∈ store.map (·.1), conflict pattern (segmentsOf call.pattern) = false) ∧
      store.IsNew call)
    ⟨fun ⟨legal, clear, isNew⟩ => ⟨legal, clear, isNew⟩,
      fun ⟨legal, clear, isNew⟩ => ⟨legal, clear, isNew⟩⟩

def perform (store : Store α) (call : Command α) : Store α :=
  if store.Admits call then store ++ [call.registration] else store

def performAll (store : Store α) (calls : List (Command α)) : Store α :=
  calls.foldl perform store

end Store

/-! ## First values -/

theorem foldl_addTo_get? (verbs : List (Verbs α)) (known : Option (Verbs α)) (verb : Verb) :
    (verbs.foldl addTo known).bind (·.get? verb) =
      (known.bind (·.get? verb)).or (verbs.findSome? (·.get? verb)) := by
  induction verbs generalizing known with
  | nil => simp
  | cons v rest ih =>
      rw [List.foldl_cons, ih, List.findSome?_cons]
      cases known with
      | none => cases hv : v.get? verb <;> simp [addTo, hv]
      | some k =>
          cases hk : k.get? verb with
          | none => cases hv : v.get? verb <;> simp [addTo, Verbs.merge, hk, hv]
          | some value => simp [addTo, Verbs.merge, hk]

theorem stored_get? (store : Store α) (pattern : List Segment) (verb : Verb) :
    (stored store pattern).bind (·.get? verb) = store.value? pattern verb := by
  rw [stored, foldl_addTo_get?, Store.value?]
  simp only [Option.bind_none, Option.none_or]
  induction store with
  | nil => rfl
  | cons entry rest ih =>
      by_cases hentry : entry.1 = pattern
      · simp [hentry, List.findSome?_cons, ih]
      · simp [hentry, ih]

theorem map_get?_stored (store : Store α) (pattern : List Segment) :
    (stored store pattern).map Verbs.get? = store.values? pattern := by
  rw [Store.values?]
  cases hstored : stored store pattern with
  | none =>
      have hnot : pattern ∉ store.map (·.1) := by
        rw [← stored_isSome_iff, hstored]
        simp
      rw [if_neg hnot, Option.map_none]
  | some verbs =>
      have hmem : pattern ∈ store.map (·.1) := by
        rw [← stored_isSome_iff, hstored]
        rfl
      rw [if_pos hmem, Option.map_some]
      congr 1
      funext verb
      rw [← stored_get?, hstored, Option.bind_some]

theorem stored_append (store : Store α) (entry : Registration α) (pattern : List Segment) :
    stored (store ++ [entry]) pattern =
      if pattern = entry.1 then addTo (stored store pattern) entry.2 else stored store pattern := by
  by_cases h : pattern = entry.1
  · simp [stored, h]
  · simp [stored, h, Ne.symm h]

/-! ## The router stands for the store -/

/-- The tree holds exactly what is stored, and nothing is in its way that was not accepted. -/
structure Router.StandsFor (r : Router α) (store : Store α) : Prop where
  wellFormed : r.root.WellFormed
  fruitful : r.root.Fruitful
  holds : ∀ pattern, Node.at? pattern r.root = stored store pattern

namespace Router

variable {r : Router α} {store : Store α}

theorem standsFor_empty : (empty : Router α).StandsFor [] := by
  refine ⟨Node.wellFormed_root, Node.fruitful_root, fun pattern => ?_⟩
  cases pattern with
  | nil => rfl
  | cons s rest => exact Node.at?_of_isLeaf (Node.isLeaf_leaf _ _) s rest

theorem StandsFor.findPattern (h : r.StandsFor store) (pattern : String) :
    r.root.findPattern pattern = stored store (segmentsOf pattern) := by
  rw [Node.findPattern_eq_at? h.wellFormed, h.holds]

theorem StandsFor.contains (h : r.StandsFor store) (method : Method) (pattern : String) :
    r.contains method pattern = store.contains method (segmentsOf pattern) := by
  rw [Router.contains, h.findPattern, Store.contains]
  cases hverb : method.verb? with
  | none => cases stored store (segmentsOf pattern) <;> simp [Verbs.getMethod?, hverb]
  | some verb =>
      rw [Option.bind_some, ← stored_get?]
      cases stored store (segmentsOf pattern) <;> simp [Verbs.getMethod?, hverb]

theorem StandsFor.isSome_at?_iff (h : r.StandsFor store) (pattern : List Segment) :
    (Node.at? pattern r.root).isSome ↔ pattern ∈ store.map (·.1) := by
  rw [h.holds, stored_isSome_iff]

theorem insert_eq (r : Router α) (pattern : String) (verbs : Verbs α) :
    (r.insert pattern verbs).1.root = (r.root.insert pattern verbs).1 ∧
      (r.insert pattern verbs).2 = (r.root.insert pattern verbs).2 := by
  rw [insert]
  rcases r.root.insert pattern verbs with ⟨root, _ | fault⟩ <;> exact ⟨rfl, rfl⟩

theorem count_insert {r : Router α} {pattern : String} {verbs : Verbs α}
    (h : (r.insert pattern verbs).2 = none) :
    (r.insert pattern verbs).1.count = r.count + verbs.allowed.length := by
  rw [insert] at h ⊢
  rcases hinsert : r.root.insert pattern verbs with ⟨root, _ | fault⟩
  · rfl
  · rw [hinsert] at h
    cases h

theorem StandsFor.insert_eq_none_iff (h : r.StandsFor store) (pattern : String)
    (verbs : Verbs α) :
    (r.insert pattern verbs).2 = none ↔ Legal (segmentsOf pattern) ∧
      ∀ q ∈ store.map (·.1), conflict q (segmentsOf pattern) = false := by
  rw [(insert_eq r pattern verbs).2, Node.insert_eq_none_iff h.wellFormed h.fruitful]
  simp only [h.isSome_at?_iff]

theorem StandsFor.insert (h : r.StandsFor store) {pattern : String} {verbs : Verbs α}
    (hnone : (r.insert pattern verbs).2 = none) :
    (r.insert pattern verbs).1.StandsFor (store ++ [(segmentsOf pattern, verbs)]) := by
  obtain ⟨hroot, hfault⟩ := insert_eq r pattern verbs
  rw [hfault] at hnone
  refine ⟨?_, ?_, fun q => ?_⟩
  · rw [hroot]
    exact h.wellFormed.insert pattern verbs
  · rw [hroot]
    exact h.fruitful.insert h.wellFormed pattern verbs
  · rw [hroot, Node.at?_insert h.wellFormed hnone, h.holds, stored_append]

theorem insert_eq_self_of_fault {pattern : String} {verbs : Verbs α} {fault : PatternError}
    (h : (r.insert pattern verbs).2 = some fault) : (r.insert pattern verbs).1 = r := by
  rw [insert] at h ⊢
  cases hinsert : r.root.insert pattern verbs with
  | mk root found =>
      rw [hinsert] at h
      cases found with
      | none => cases h
      | some found =>
          have hroot := Node.insert_eq_self_of_fault (congrArg Prod.snd hinsert)
          rw [hinsert] at hroot
          obtain rfl : root = r.root := hroot
          rfl

theorem StandsFor.perform_eq_none_iff (h : r.StandsFor store) (call : Command α) :
    (r.perform call).2 = none ↔ store.Admits call := by
  cases call with
  | insert pattern verbs =>
      rw [perform, h.insert_eq_none_iff]
      exact ⟨fun ⟨legal, clear⟩ => ⟨legal, clear, trivial⟩, fun ⟨legal, clear, _⟩ => ⟨legal, clear⟩⟩
  | route method pattern value =>
      rw [perform, route, h.contains]
      cases hcontains : store.contains method (segmentsOf pattern) with
      | true =>
          refine iff_of_false (by simp) fun hadmits => ?_
          have hnew : store.contains method (segmentsOf pattern) = false := hadmits.isNew
          rw [hcontains] at hnew
          cases hnew
      | false =>
          rw [if_neg (by simp), h.insert_eq_none_iff]
          exact ⟨fun ⟨legal, clear⟩ => ⟨legal, clear, hcontains⟩,
            fun ⟨legal, clear, _⟩ => ⟨legal, clear⟩⟩

theorem perform_eq_self_of_fault {call : Command α} {fault : PatternError}
    (h : (r.perform call).2 = some fault) : (r.perform call).1 = r := by
  cases call with
  | insert pattern verbs => exact insert_eq_self_of_fault h
  | route method pattern value =>
      rw [perform, route] at h ⊢
      split
      · rfl
      · rename_i hcontains
        rw [if_neg hcontains] at h
        exact insert_eq_self_of_fault h

theorem perform_of_none {call : Command α} (h : (r.perform call).2 = none) :
    r.perform call = r.insert call.pattern call.verbs := by
  cases call with
  | insert pattern verbs => rfl
  | route method pattern value =>
      rw [perform, route] at h ⊢
      split
      · rename_i hcontains
        rw [if_pos hcontains] at h
        cases h
      · rw [Verbs.empty_setMethod]
        rfl

/-- A call enters what it registers in both, or it changes neither. -/
theorem StandsFor.perform_cases (h : r.StandsFor store) (call : Command α) :
    ((r.perform call).2 = none ∧ r.perform call = r.insert call.pattern call.verbs ∧
      store.perform call = store ++ [call.registration]) ∨
    ((r.perform call).2 ≠ none ∧ (r.perform call).1 = r ∧ store.perform call = store) := by
  have hadmits := h.perform_eq_none_iff call
  cases hfault : (r.perform call).2 with
  | none => exact .inl ⟨rfl, perform_of_none hfault, if_pos (hadmits.mp hfault)⟩
  | some fault =>
      have hrefused : ¬ store.Admits call := by
        rw [← hadmits, hfault]
        simp
      exact .inr ⟨by simp, perform_eq_self_of_fault hfault, if_neg hrefused⟩

theorem StandsFor.perform (h : r.StandsFor store) (call : Command α) :
    (r.perform call).1.StandsFor (store.perform call) := by
  obtain ⟨hnone, hcall, hstore⟩ | ⟨-, hself, hstore⟩ := h.perform_cases call
  · rw [hcall] at hnone ⊢
    rw [hstore]
    exact h.insert hnone
  · rw [hself, hstore]
    exact h

theorem StandsFor.performAll (h : r.StandsFor store) (calls : List (Command α)) :
    (r.performAll calls).StandsFor (store.performAll calls) := by
  induction calls generalizing r store with
  | nil => exact h
  | cons call rest ih => exact ih (h.perform call)

/-- After any sequence of calls on an empty router, a call is accepted exactly if the store of the
calls before it admits it, and a pattern is found with exactly the values that the store has under
its classified segments, the ones that it is written of. -/
theorem performAll_refines_store (calls : List (Command α)) :
    (∀ pattern segments, Writes pattern segments ↔ segmentsOf pattern = segments) ∧
    (∀ call, ((empty.performAll calls).perform call).2 = none ↔
      (Store.performAll [] calls).Admits call) ∧
    (∀ pattern, ((empty.performAll calls).root.findPattern pattern).map Verbs.get? =
      (Store.performAll [] calls).values? (segmentsOf pattern)) ∧
    ∀ method pattern, (empty.performAll calls).contains method pattern =
      (Store.performAll [] calls).contains method (segmentsOf pattern) := by
  have h : (empty.performAll calls).StandsFor (Store.performAll [] calls) :=
    standsFor_empty.performAll calls
  refine ⟨fun _ _ => writes_iff, h.perform_eq_none_iff, fun pattern => ?_, h.contains⟩
  rw [h.findPattern, map_get?_stored]

/-- The same pattern in another spelling has its verb already and keeps the first value, a method
that is no verb stores nothing, and another name excludes the pattern. -/
example :
    let store : Store ℕ := Store.performAll [] [.route ⟨"GET"⟩ "/a/:id" 1,
      .route ⟨"GET"⟩ "a/\x7bid\x7d/" 2, .route ⟨"TRACE"⟩ "/a/:id" 3, .insert "/a/:x/b" .empty,
      .insert "/a/:id" ⟨fun _ => some 4⟩]
    store.map (·.1) = List.replicate 3 [.literal "a", .param "id"] ∧
      Verb.all.map (store.value? [.literal "a", .param "id"]) =
        [some 1, some 4, some 4, some 4, some 4, some 4, some 4] := by decide

end Router

end Conduit.Routing
