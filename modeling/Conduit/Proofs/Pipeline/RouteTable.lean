import Conduit.Proofs.Pipeline.Registration
import Conduit.Proofs.Routing.Order
import Conduit.Proofs.Routing.Verbs

/-! # The list of routes and the router

A registrar keeps its routes twice: in a list, as they were registered, and in the router, where
requests find them. The router has a place for every verb and for no other method, so a route for
another method is listed and never found, nor is it counted or taken for a duplicate. -/

namespace Conduit

open Routing (Router Verbs Route Store Registrable Command segmentsOf)

/-! ## What the router counts -/

namespace Routing

variable {α : Type}

theorem Router.count_route {r : Router α} {method : Method} {pattern : String} {value : α}
    (h : (r.route method pattern value).2 = none) :
    (r.route method pattern value).1.count =
      r.count + if method.verb?.isSome then 1 else 0 := by
  have hperform : (r.perform (.route method pattern value)).2 = none := h
  have hinsert : r.route method pattern value =
      r.insert pattern (Verbs.empty.setMethod method value) := by
    rw [Verbs.empty_setMethod]
    exact perform_of_none hperform
  rw [hinsert] at h ⊢
  rw [Router.count_insert h, Verbs.length_allowed_setMethod]

end Routing

/-! ## One record of the registrations -/

def RouteInfo.ofRoute (a : Route Chain) : RouteInfo :=
  ⟨a.method, a.pattern, a.value.spec.text, a.value.stageNames⟩

def Attempt.entered? (a : Attempt) : Option (Route Chain) :=
  match a.result with
  | .ok chain => some ⟨a.method, a.path, chain⟩
  | .error _ => none

namespace Registrar

/-- Router and list of the registrar both tell that these routes were entered, in this order. -/
structure Entered (r : Registrar) (routes : List (Route Chain)) : Prop where
  stands : r.router.StandsFor (Route.store routes)
  registrable : Registrable routes
  listed : r.routes = routes.map RouteInfo.ofRoute
  count : r.router.count = routes.countP (·.method.verb?.isSome)

variable {r : Registrar} {routes : List (Route Chain)}

theorem entered_ofRegistry (registry : Registry) (options : ChainOptions) (base : Spec) :
    { ofRegistry registry with options := options, defaultSpec := base : Registrar }.Entered [] :=
  ⟨Router.standsFor_empty, Routing.registrable_nil, rfl, rfl⟩

theorem Entered.withLead (h : r.Entered routes) (lead : String) :
    { r with lead := lead : Registrar }.Entered routes :=
  ⟨h.stands, h.registrable, h.listed, h.count⟩

theorem Entered.register (h : r.Entered routes) (method : Method) (path : String) (op : Operation)
    (spec : String) :
    (r.register method path op spec).1.Entered (routes ++
      (Attempt.mk method (joinPath r.lead path) (r.register method path op spec).2).entered?.toList) := by
  generalize hregister : r.register method path op spec = answer
  have hregisters := r.registers method path op spec
  rw [hregister] at hregisters
  cases hregisters with
  | refused e => simpa [Attempt.entered?] using h
  | @accepted chain router hprepared hrouted =>
      have hnone : (r.router.route method (joinPath r.lead path) chain).2 = none := by rw [hrouted]
      have hcount := Router.count_route hnone
      have hstands := h.stands.route_concat (a := ⟨method, joinPath r.lead path, chain⟩) hnone
      have hadmits := (h.stands.perform_eq_none_iff (.route method (joinPath r.lead path) chain)).mp
        hnone
      rw [hrouted] at hcount hstands
      simp only [Attempt.entered?, Option.toList_some]
      refine ⟨hstands, (Routing.registrable_concat_iff _).mpr ⟨h.registrable, hadmits⟩, ?_, ?_⟩
      · simp [h.listed, RouteInfo.ofRoute]
      · rw [hcount, h.count, List.countP_append, List.countP_singleton]

end Registrar

theorem RouteScript.entered_run {r : Registrar} {routes : List (Route Chain)} (script : RouteScript)
    (h : r.Entered routes) :
    (script.run r).1.Entered (routes ++ (script.run r).2.filterMap Attempt.entered?) := by
  induction script generalizing r routes with
  | done => simpa [run] using h
  | register method path op spec rest ih =>
      have hstep := ih (h.register method path op spec)
      rw [List.append_assoc] at hstep
      simpa only [run, List.filterMap_eq_flatMap_toList, List.flatMap_cons] using hstep
  | group lead body rest ihbody ihrest =>
      have hbody := ihbody (h.withLead (Registrar.joinPath r.lead lead))
      have hrest := ihrest (hbody.withLead r.lead)
      rw [List.append_assoc, ← List.filterMap_append] at hrest
      exact hrest

/-! ## The two records compared -/

namespace Registrar

/-- How list and router tell of the routes that were entered. -/
structure Corresponds (r : Registrar) (routes : List (Route Chain)) : Prop where
  listed : r.routes = routes.map RouteInfo.ofRoute
  /-- A route for a verb is found at its pattern, with the chain that it was answered with. -/
  held : ∀ a ∈ routes, a.method.verb?.isSome → r.router.contains a.method a.pattern = true ∧
    (r.router.root.findPattern a.pattern).bind (·.getMethod? a.method) = some a.value
  /-- No verb is listed twice at one pattern, in whatever spelling. -/
  distinct : routes.Pairwise fun a b => a.method.verb?.isSome → a.method = b.method →
    segmentsOf a.pattern ≠ segmentsOf b.pattern
  /-- Nothing else is found, so no route for another method is. -/
  contains_iff : ∀ method pattern, r.router.contains method pattern = true ↔
    method.verb?.isSome ∧ ∃ a ∈ routes, a.method = method ∧
      segmentsOf a.pattern = segmentsOf pattern
  count : r.router.count = routes.countP (·.method.verb?.isSome)
  /-- So the router counts as many as are listed exactly if all are for verbs. -/
  count_eq_iff : r.router.count = r.routes.length ↔ ∀ a ∈ routes, a.method.verb?.isSome

variable {r : Registrar} {routes : List (Route Chain)}

theorem Entered.contains_iff (h : r.Entered routes) (method : Method) (pattern : String) :
    r.router.contains method pattern = true ↔ method.verb?.isSome ∧ ∃ a ∈ routes,
      a.method = method ∧ segmentsOf a.pattern = segmentsOf pattern := by
  rw [h.stands.contains, Store.contains]
  cases hverb : method.verb? with
  | none => simp
  | some verb =>
      obtain rfl := Method.verb?_eq_some_iff.mp hverb
      rw [Option.bind_some, Option.isSome_iff_exists]
      simp only [Routing.value?_eq_some_iff h.registrable.compatible, Option.isSome_some, true_and]
      constructor
      · rintro ⟨chain, a, ha, hpattern, hmethod, -⟩
        exact ⟨a, ha, Method.verb?_eq_some_iff.mp hmethod, hpattern⟩
      · rintro ⟨a, ha, hmethod, hpattern⟩
        exact ⟨a.value, a, ha, hpattern, Method.verb?_eq_some_iff.mpr hmethod, rfl⟩

theorem Entered.findPattern (h : r.Entered routes) {a : Route Chain} (ha : a ∈ routes)
    (hverb : a.method.verb?.isSome) {pattern : String}
    (hpattern : segmentsOf pattern = segmentsOf a.pattern) :
    (r.router.root.findPattern pattern).bind (·.getMethod? a.method) = some a.value := by
  obtain ⟨verb, hverb⟩ := Option.isSome_iff_exists.mp hverb
  have hvalue : Store.value? (Route.store routes) (segmentsOf a.pattern) verb = some a.value :=
    (Routing.value?_eq_some_iff h.registrable.compatible).mpr ⟨a, ha, rfl, hverb, rfl⟩
  rw [h.stands.findPattern, hpattern]
  simpa only [Verbs.getMethod?, hverb, Option.bind_some, Routing.stored_get?] using hvalue

theorem Entered.distinct (h : r.Entered routes) :
    routes.Pairwise fun a b => a.method.verb?.isSome → a.method = b.method →
      segmentsOf a.pattern ≠ segmentsOf b.pattern := by
  refine h.registrable.compatible.imp fun {a b} hcompatible hsome hmethod hpattern => ?_
  obtain ⟨verb, hverb⟩ := Option.isSome_iff_exists.mp hsome
  exact hcompatible.distinct hpattern verb hverb (hmethod ▸ hverb)

theorem Entered.corresponds (h : r.Entered routes) : r.Corresponds routes where
  listed := h.listed
  held a ha hverb := ⟨(h.contains_iff _ _).mpr ⟨hverb, a, ha, rfl, rfl⟩, h.findPattern ha hverb rfl⟩
  distinct := h.distinct
  contains_iff := h.contains_iff
  count := h.count
  count_eq_iff := by rw [h.count, h.listed, List.length_map, List.countP_eq_length]

end Registrar

namespace RouteScript

/-- After any registrations, refused ones and groups included, the list has the routes of the
answered ones in order, and the router has those of them that are for verbs: each at its pattern
with the chain of its answer, no verb twice at one pattern, and each counted once. -/
theorem routes_correspond (registry : Registry) (options : ChainOptions) (base : Spec)
    (script : RouteScript) :
    (script.run { Registrar.ofRegistry registry with options, defaultSpec := base }).1.Corresponds
      ((script.run { Registrar.ofRegistry registry with options, defaultSpec := base }).2.filterMap
        Attempt.entered?) := by
  have h := script.entered_run (Registrar.entered_ofRegistry registry options base)
  rw [List.nil_append] at h
  exact h.corresponds

/-- A route for a method that is no verb, registered twice. -/
def traced : RouteScript :=
  register ⟨"TRACE"⟩ "/x" quiet "handle" <|
    register ⟨"TRACE"⟩ "/x" quiet "handle" done

/-- Both times it is answered with a chain and listed, and the router has nothing. -/
theorem traced_not_in_router :
    (traced.run (.ofRegistry .empty)).2.map (·.fault?) = [none, none] ∧
    (traced.run (.ofRegistry .empty)).1.routes =
      [⟨⟨"TRACE"⟩, "/x", "handle", ["handle"]⟩, ⟨⟨"TRACE"⟩, "/x", "handle", ["handle"]⟩] ∧
    (traced.run (.ofRegistry .empty)).1.router.contains ⟨"TRACE"⟩ "/x" = false ∧
    (traced.run (.ofRegistry .empty)).1.router.count = 0 := by
  decide +kernel

end RouteScript

end Conduit
