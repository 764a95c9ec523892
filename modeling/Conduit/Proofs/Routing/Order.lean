import Conduit.Proofs.Routing.Matching
import Conduit.Proofs.Routing.Store
import Conduit.Proofs.Routing.Verbs

/-! # The order of registrations

Routes can be registered together if each has a legal pattern and no two of them get in each other's
way. That says nothing of their order, and neither does what they store, so every order of the same
routes is accepted and leads to a router that matches alike. -/

namespace Conduit.Routing

variable {α : Type}

structure Route (α : Type) where
  method : Method
  pattern : String
  value : α

namespace Route

abbrev command (a : Route α) : Command α := .route a.method a.pattern a.value

def store (routes : List (Route α)) : Store α := routes.map (·.command.registration)

/-- The routes can be registered together: their patterns do not conflict, and they do not give one
verb two values under one pattern. -/
structure Compatible (a b : Route α) : Prop where
  clear : conflict (segmentsOf a.pattern) (segmentsOf b.pattern) = false
  distinct : segmentsOf a.pattern = segmentsOf b.pattern →
    ∀ verb, a.method.verb? = some verb → b.method.verb? ≠ some verb

theorem Compatible.symm {a b : Route α} (h : a.Compatible b) : b.Compatible a := by
  refine ⟨?_, fun hpattern verb hb ha => h.distinct hpattern.symm verb ha hb⟩
  rw [conflict_comm]
  exact h.clear

end Route

namespace Router

/-- Registers routes in order: the router afterwards, if every one of them is accepted. -/
def routeAll (r : Router α) : List (Route α) → Option (Router α)
  | [] => some r
  | a :: rest =>
    match r.route a.method a.pattern a.value with
    | (after, none) => after.routeAll rest
    | (_, some _) => none

end Router

/-! ## Which routes are accepted -/

section Accepted

variable {routes : List (Route α)} {pattern : List Segment} {verb : Verb}

theorem get?_registration (a : Route α) (verb : Verb) :
    a.command.registration.2.get? verb =
      if a.method.verb? = some verb then some a.value else none := by
  simp only [Method.verb?_eq_some_iff]
  rfl

theorem value?_store_cons (a : Route α) (rest : List (Route α)) :
    Store.value? (Route.store (a :: rest)) pattern verb =
      if segmentsOf a.pattern = pattern ∧ a.method.verb? = some verb then some a.value
      else Store.value? (Route.store rest) pattern verb := by
  rw [Store.value?, Route.store, List.map_cons, List.findSome?_cons, get?_registration]
  have hpattern : a.command.registration.1 = segmentsOf a.pattern := rfl
  rw [hpattern]
  by_cases h : segmentsOf a.pattern = pattern
  · by_cases hverb : a.method.verb? = some verb
    · simp [h, hverb]
    · simp [h, hverb, Store.value?, Route.store]
  · simp [h, Store.value?, Route.store]

theorem value?_eq_none_iff :
    Store.value? (Route.store routes) pattern verb = none ↔
      ∀ a ∈ routes, segmentsOf a.pattern = pattern → a.method.verb? ≠ some verb := by
  induction routes with
  | nil => simp [Store.value?, Route.store]
  | cons a rest ih =>
      rw [value?_store_cons, List.forall_mem_cons, ← ih]
      split
      · rename_i hown
        exact iff_of_false (by simp) fun h => h.1 hown.1 hown.2
      · rename_i hother
        exact ⟨fun h => ⟨fun hpattern hverb => hother ⟨hpattern, hverb⟩, h⟩, And.right⟩

theorem admits_route_iff (b : Route α) :
    Store.Admits (Route.store routes) b.command ↔
      Legal (segmentsOf b.pattern) ∧ ∀ a ∈ routes, a.Compatible b := by
  have hnew : Store.IsNew (Route.store routes) b.command ↔ ∀ a ∈ routes,
      segmentsOf a.pattern = segmentsOf b.pattern →
        ∀ verb, a.method.verb? = some verb → b.method.verb? ≠ some verb := by
    show Store.contains _ _ _ = false ↔ _
    rw [Store.contains, Option.isSome_eq_false_iff, Option.isNone_iff_eq_none,
      Option.bind_eq_none_iff]
    simp only [value?_eq_none_iff]
    constructor
    · intro h a ha hpattern verb hverb hb
      exact h verb hb a ha hpattern hverb
    · intro h verb hb a ha hpattern hverb
      exact h a ha hpattern verb hverb hb
  have hpatterns : ∀ p : List Segment → Prop,
      (∀ pattern ∈ (Route.store routes).map (·.1), p pattern) ↔
        ∀ a ∈ routes, p (segmentsOf a.pattern) := by
    intro p
    simp [Route.store, Command.registration, Command.pattern]
  constructor
  · rintro ⟨legal, clear, isNew⟩
    exact ⟨legal, fun a ha => ⟨(hpatterns _).mp clear a ha, hnew.mp isNew a ha⟩⟩
  · rintro ⟨legal, compatible⟩
    exact ⟨legal, (hpatterns _).mpr fun a ha => (compatible a ha).clear,
      hnew.mpr fun a ha => (compatible a ha).distinct⟩

structure Registrable (routes : List (Route α)) : Prop where
  legal : ∀ a ∈ routes, Legal (segmentsOf a.pattern)
  compatible : routes.Pairwise Route.Compatible

theorem registrable_nil : Registrable ([] : List (Route α)) := ⟨by simp, List.Pairwise.nil⟩

theorem Registrable.perm {others : List (Route α)} (h : Registrable routes)
    (hperm : routes.Perm others) : Registrable others := by
  refine ⟨fun a ha => h.legal a (hperm.mem_iff.mpr ha), ?_⟩
  exact (hperm.pairwise_iff fun h => h.symm).mp h.compatible

theorem Registrable.of_append {rest : List (Route α)} (h : Registrable (routes ++ rest)) :
    Registrable routes := by
  refine ⟨fun a ha => h.legal a (List.mem_append_left rest ha), ?_⟩
  exact (List.pairwise_append.mp h.compatible).1

theorem registrable_concat_iff (b : Route α) :
    Registrable (routes ++ [b]) ↔
      Registrable routes ∧ Store.Admits (Route.store routes) b.command := by
  rw [admits_route_iff]
  constructor
  · intro h
    obtain ⟨-, -, hcompatible⟩ := List.pairwise_append.mp h.compatible
    refine ⟨h.of_append, h.legal b (by simp), fun a ha => ?_⟩
    exact hcompatible a ha b List.mem_cons_self
  · rintro ⟨h, hlegal, hcompatible⟩
    refine ⟨fun a ha => ?_, List.pairwise_append.mpr ⟨h.compatible, by simp, ?_⟩⟩
    · rcases List.mem_append.mp ha with ha | ha
      · exact h.legal a ha
      · obtain rfl := List.mem_singleton.mp ha
        exact hlegal
    · intro a ha c hc
      obtain rfl := List.mem_singleton.mp hc
      exact hcompatible a ha

end Accepted

namespace Router

variable {r after : Router α} {done routes : List (Route α)}

theorem StandsFor.route_concat {a : Route α} (h : r.StandsFor (Route.store done))
    (hnone : (r.route a.method a.pattern a.value).2 = none) :
    (r.route a.method a.pattern a.value).1.StandsFor (Route.store (done ++ [a])) := by
  have hstep := h.perform a.command
  rw [Store.perform, if_pos ((h.perform_eq_none_iff a.command).mp hnone)] at hstep
  rwa [Route.store, List.map_append]

theorem StandsFor.routeAll_isSome_iff (h : r.StandsFor (Route.store done))
    (hdone : Registrable done) : (r.routeAll routes).isSome ↔ Registrable (done ++ routes) := by
  induction routes generalizing r done with
  | nil => simpa [routeAll] using hdone
  | cons a rest ih =>
      have hadmits := h.perform_eq_none_iff a.command
      have hnext := h.route_concat (a := a)
      rw [Router.perform] at hadmits
      rw [routeAll, List.append_cons]
      rcases hroute : r.route a.method a.pattern a.value with ⟨after, _ | fault⟩
      · rw [hroute] at hadmits hnext
        exact ih (hnext rfl) ((registrable_concat_iff a).mpr ⟨hdone, hadmits.mp rfl⟩)
      · rw [hroute] at hadmits
        refine iff_of_false (by simp) fun hall => ?_
        have hlast := ((registrable_concat_iff a).mp hall.of_append).2
        cases hadmits.mpr hlast

theorem StandsFor.routeAll (h : r.StandsFor (Route.store done))
    (hafter : r.routeAll routes = some after) :
    after.StandsFor (Route.store (done ++ routes)) := by
  induction routes generalizing r done with
  | nil =>
      obtain rfl := Option.some.inj hafter
      rwa [List.append_nil]
  | cons a rest ih =>
      have hnext := h.route_concat (a := a)
      rw [Router.routeAll] at hafter
      rw [List.append_cons]
      rcases hroute : r.route a.method a.pattern a.value with ⟨next, _ | fault⟩
      · rw [hroute] at hafter hnext
        exact ih (hnext rfl) hafter
      · rw [hroute] at hafter
        cases hafter

end Router

/-! ## What the routes store -/

section Stored

variable {routes others : List (Route α)} {pattern : List Segment} {verb : Verb} {value : α}

theorem value?_eq_some_iff (h : routes.Pairwise Route.Compatible) :
    Store.value? (Route.store routes) pattern verb = some value ↔
      ∃ a ∈ routes, segmentsOf a.pattern = pattern ∧ a.method.verb? = some verb ∧
        a.value = value := by
  induction routes with
  | nil => simp [Store.value?, Route.store]
  | cons a rest ih =>
      obtain ⟨ha, hrest⟩ := List.pairwise_cons.mp h
      rw [value?_store_cons]
      split
      · rename_i hown
        obtain ⟨rfl, hverb⟩ := hown
        constructor
        · intro hvalue
          exact ⟨a, List.mem_cons_self, rfl, hverb, Option.some.inj hvalue⟩
        · rintro ⟨b, hb, hpattern, hverb', rfl⟩
          rcases List.mem_cons.mp hb with rfl | hb
          · rfl
          · exact absurd hverb' ((ha b hb).distinct hpattern.symm verb hverb)
      · rename_i hother
        rw [ih hrest]
        constructor
        · rintro ⟨b, hb, hvalue⟩
          exact ⟨b, List.mem_cons_of_mem a hb, hvalue⟩
        · rintro ⟨b, hb, hpattern, hverb, hvalue⟩
          rcases List.mem_cons.mp hb with rfl | hb
          · exact absurd ⟨hpattern, hverb⟩ hother
          · exact ⟨b, hb, hpattern, hverb, hvalue⟩

theorem stored_perm (h : routes.Pairwise Route.Compatible) (hperm : routes.Perm others)
    (pattern : List Segment) :
    stored (Route.store routes) pattern = stored (Route.store others) pattern := by
  have hothers : others.Pairwise Route.Compatible :=
    (hperm.pairwise_iff fun h => h.symm).mp h
  have hvalue : Store.value? (Route.store routes) pattern =
      Store.value? (Route.store others) pattern := by
    funext verb
    refine Option.ext fun value => ?_
    rw [value?_eq_some_iff h, value?_eq_some_iff hothers]
    simp only [hperm.mem_iff]
  have hmem : pattern ∈ (Route.store routes).map (·.1) ↔
      pattern ∈ (Route.store others).map (·.1) := ((hperm.map _).map _).mem_iff
  have hinjective : Function.Injective (@Verbs.get? α) := fun ⟨_⟩ ⟨_⟩ h => congrArg _ h
  refine Option.map_injective hinjective ?_
  simp only [map_get?_stored, Store.values?, hvalue, hmem]

end Stored

/-! ## Another order -/

/-- If every route of a list is accepted in order, so is every route in any other order, and the two
routers match every path alike, for all methods and for each. -/
theorem routeAll_perm {routes others : List (Route α)} {r : Router α}
    (hr : Router.empty.routeAll routes = some r) (hperm : routes.Perm others) :
    ∃ r', Router.empty.routeAll others = some r' ∧
      ∀ path, r'.matchPath path = r.matchPath path ∧
        ∀ method, r'.matchRoute method path = r.matchRoute method path := by
  have hempty : (Router.empty : Router α).StandsFor (Route.store []) := Router.standsFor_empty
  have haccepted : Registrable routes := by
    rw [← List.nil_append routes, ← hempty.routeAll_isSome_iff registrable_nil, hr]
    rfl
  obtain ⟨r', hr'⟩ : ∃ r', Router.empty.routeAll others = some r' := by
    rw [← Option.isSome_iff_exists, hempty.routeAll_isSome_iff registrable_nil]
    exact haccepted.perm hperm
  have hstands : r.StandsFor (Route.store routes) := hempty.routeAll hr
  have hstands' : r'.StandsFor (Route.store others) := hempty.routeAll hr'
  have hpath : ∀ path, r'.matchPath path = r.matchPath path := by
    intro path
    have hroot : r'.root.matchPath path = r.root.matchPath path := by
      refine Node.matchPath_congr hstands'.wellFormed hstands.wellFormed (fun pattern => ?_) path
      rw [hstands'.holds, hstands.holds, stored_perm haccepted.compatible hperm]
    rw [Router.matchPath, Router.matchPath, hroot]
  refine ⟨r', hr', fun path => ⟨hpath path, fun method => ?_⟩⟩
  rw [Router.matchRoute, Router.matchRoute, hpath]

/-- Two spellings of one parameter beside a wildcard. -/
def spelledRoutes : List (Route ℕ) :=
  [⟨⟨"GET"⟩, "/a/:id", 1⟩, ⟨⟨"POST"⟩, "/a/{id}/", 2⟩, ⟨⟨"GET"⟩, "/a/*rest", 3⟩]

theorem spelledRoutes_reverse :
    spelledRoutes.Perm spelledRoutes.reverse ∧
      ∃ r, Router.empty.routeAll spelledRoutes = some r ∧
        ∃ r', Router.empty.routeAll spelledRoutes.reverse = some r' ∧
          ∀ path, r'.matchPath path = r.matchPath path ∧
            ∀ method, r'.matchRoute method path = r.matchRoute method path := by
  have hperm : spelledRoutes.Perm spelledRoutes.reverse := (List.reverse_perm _).symm
  obtain ⟨r, hr⟩ : ∃ r, Router.empty.routeAll spelledRoutes = some r :=
    Option.isSome_iff_exists.mp (by decide)
  exact ⟨hperm, r, hr, routeAll_perm hr hperm⟩

end Conduit.Routing
