import Conduit.Proofs.Notices
import Conduit.Proofs.Routing.Matching
import Conduit.Proofs.Routing.Store
import Conduit.Proofs.Routing.Verbs
import Conduit.Proofs.WebSocket.Handshake
import Conduit.Server.Dispatch

/-! # What becomes of a request

The patterns and chains that were registered decide about a request, together with its method, its
path and the length of its body: it is refused in one of three ways, or it is given to one chain. -/

namespace Conduit

open Routing (Router Verbs Store Command Matches FirstMatch)

/-! ## What the router finds -/

theorem Routing.FirstMatch.not_missed {patterns : List (List Routing.Segment)}
    {path : List String} {pattern : List Routing.Segment} {captures : List (String × String)}
    (h : FirstMatch patterns path pattern captures) :
    ¬ ∀ q ∈ patterns, ∀ others, ¬ Matches q path others :=
  fun hmiss => hmiss pattern h.mem captures h.matched

namespace Routing.Router

variable {α : Type} {r : Router α} {store : Store α}

/-- A path finds the values that are stored under its first pattern, or nothing if it has none. -/
theorem StandsFor.matchPath_cases (h : r.StandsFor store) (path : String) :
    (∀ pattern ∈ store.map (·.1), ∀ captures,
        ¬ Matches pattern (Text.pathSegments path) captures) ∧ r.matchPath path = none ∨
    ∃ pattern captures verbs,
      FirstMatch (store.map (·.1)) (Text.pathSegments path) pattern captures ∧
      r.matchPath path = some (verbs, ⟨captures⟩) ∧ verbs.get? = store.value? pattern := by
  have hsearch := Node.answers_search h.wellFormed (Text.pathSegments path) .empty
  simp only [h.holds] at hsearch
  rw [matchPath, Node.matchPath]
  generalize Text.pathSegments path = segments at hsearch ⊢
  generalize Node.search segments _ Params.empty = result at hsearch ⊢
  cases hsearch with
  | hit pattern verbs captures hheld hmatch hfirst =>
      right
      refine ⟨pattern, captures, verbs, ⟨?_, hmatch, ?_⟩, rfl, ?_⟩
      · exact (stored_isSome_iff store pattern).mp (by rw [hheld]; rfl)
      · intro q hq hne c hc
        exact (hfirst q c ((stored_isSome_iff store q).mpr hq) hc).resolve_left hne
      · funext verb
        rw [← stored_get?, hheld, Option.bind_some]
  | miss hnone =>
      left
      refine ⟨fun q hq captures => ?_, rfl⟩
      exact hnone q captures ((stored_isSome_iff store q).mpr hq)

theorem matchRoute_of_matchPath {path : String} {verbs : Verbs α} {params : Params}
    (h : r.matchPath path = some (verbs, params)) (method : Method) :
    r.matchRoute method path = (verbs.getMethod? method).map (·, params) := by
  rw [matchRoute, h]
  cases hvalue : verbs.getMethod? method <;> simp [hvalue]

theorem matchRoute_of_none {path : String} (h : r.matchPath path = none) (method : Method) :
    r.matchRoute method path = none := by
  rw [matchRoute, h]
  rfl

end Routing.Router

/-! ## Decisions -/

namespace Server

inductive Disposition
  | notFound
  /-- Only these verbs are allowed on the path. -/
  | methodNotAllowed (allowed : List Verb)
  | tooLarge
  /-- The chain is run on the exchange. -/
  | run (chain : Chain) (x : Exchange)

/-- What is registered decides about a request with the whole of its body. -/
inductive Decides (store : Store Chain) (limit : ℕ) (fresh : RequestId) (method : Method)
    (uri : Uri) (headers : Headers) (bytes : Bytes) : Disposition → Prop
  /-- No pattern matches the path. -/
  | notFound
      (hnone : ∀ pattern ∈ store.map (·.1), ∀ captures,
        ¬ Matches pattern (Text.pathSegments uri.path) captures) :
      Decides store limit fresh method uri headers bytes .notFound
  /-- The first pattern that matches has no chain for the method. -/
  | methodNotAllowed {pattern captures}
      (hfirst : FirstMatch (store.map (·.1)) (Text.pathSegments uri.path) pattern captures)
      (hnone : method.verb?.bind (store.value? pattern) = none) :
      Decides store limit fresh method uri headers bytes
        (.methodNotAllowed (Verb.all.filter fun verb => (store.value? pattern verb).isSome))
  /-- It has one, and the body is longer than the limit. -/
  | tooLarge {pattern captures chain}
      (hfirst : FirstMatch (store.map (·.1)) (Text.pathSegments uri.path) pattern captures)
      (hchain : method.verb?.bind (store.value? pattern) = some chain)
      (hlong : limit < bytes.length) :
      Decides store limit fresh method uri headers bytes .tooLarge
  /-- It has one, and the body is within the limit. -/
  | run {pattern captures chain}
      (hfirst : FirstMatch (store.map (·.1)) (Text.pathSegments uri.path) pattern captures)
      (hchain : method.verb?.bind (store.value? pattern) = some chain)
      (hshort : bytes.length ≤ limit) :
      Decides store limit fresh method uri headers bytes
        (.run chain ⟨method, uri, headers, bytes, ⟨captures⟩,
          (Exchange.suppliedId? headers).getD fresh, [], none⟩)

section Decisions

variable {store : Store Chain} {limit : ℕ} {fresh : RequestId} {method : Method} {uri : Uri}
  {headers : Headers} {bytes : Bytes}

theorem Decides.unique {d d' : Disposition}
    (h : Decides store limit fresh method uri headers bytes d)
    (h' : Decides store limit fresh method uri headers bytes d') : d = d' := by
  cases h with
  | notFound hnone =>
      cases h' with
      | notFound => rfl
      | methodNotAllowed hfirst => exact absurd hnone hfirst.not_missed
      | tooLarge hfirst => exact absurd hnone hfirst.not_missed
      | run hfirst => exact absurd hnone hfirst.not_missed
  | methodNotAllowed hfirst hnone =>
      cases h' with
      | notFound hmiss => exact absurd hmiss hfirst.not_missed
      | methodNotAllowed hfirst' =>
          obtain ⟨rfl, rfl⟩ := hfirst.unique hfirst'
          rfl
      | tooLarge hfirst' hchain =>
          obtain ⟨rfl, rfl⟩ := hfirst.unique hfirst'
          cases hnone.symm.trans hchain
      | run hfirst' hchain =>
          obtain ⟨rfl, rfl⟩ := hfirst.unique hfirst'
          cases hnone.symm.trans hchain
  | tooLarge hfirst hchain hlong =>
      cases h' with
      | notFound hmiss => exact absurd hmiss hfirst.not_missed
      | methodNotAllowed hfirst' hnone =>
          obtain ⟨rfl, rfl⟩ := hfirst.unique hfirst'
          cases hnone.symm.trans hchain
      | tooLarge => rfl
      | run hfirst' hchain' hshort => exact absurd hlong (Nat.not_lt.mpr hshort)
  | run hfirst hchain hshort =>
      cases h' with
      | notFound hmiss => exact absurd hmiss hfirst.not_missed
      | methodNotAllowed hfirst' hnone =>
          obtain ⟨rfl, rfl⟩ := hfirst.unique hfirst'
          cases hnone.symm.trans hchain
      | tooLarge hfirst' hchain' hlong => exact absurd hlong (Nat.not_lt.mpr hshort)
      | run hfirst' hchain' =>
          obtain ⟨rfl, rfl⟩ := hfirst.unique hfirst'
          obtain rfl := Option.some.inj (hchain.symm.trans hchain')
          rfl

end Decisions

/-! ## Carrying them out -/

/-- The request is answered with an error before any stage is run. -/
structure Refuses (served : Served) (status : Status) (code : String) : Prop where
  calls : served.calls = []
  session : served.session = none
  status : served.response.status = status
  /-- The body is an envelope's JSON, where a client finds the code. -/
  envelope : ∃ e : Envelope, e.code = code ∧ served.response.body = Utf8.encode e.toJson.text ∧
    (e.toJson.get? "error").bind (Json.get? "code") = some (.str code)

/-- What the server does with a request for the path, and how that agrees with what its router
finds. A body that is too long is answered for by the server, whatever the chain is. -/
def Disposition.CarriedOut (s : Server) (fresh : RequestId) (now : Int) (method : Method)
    (path : String) (served : Served) : Disposition → Prop
  | .notFound => s.router.matchPath path = none ∧ Refuses served .notFound "NOT_FOUND"
  | .methodNotAllowed allowed =>
    (∃ verbs params, s.router.matchPath path = some (verbs, params) ∧
      verbs.getMethod? method = none) ∧
    allowed = (Verb.all.filter fun verb => (s.router.matchRoute verb.method path).isSome) ∧
    Refuses served .methodNotAllowed "METHOD_NOT_ALLOWED" ∧
    served.response.headers.getAll "allow" =
      [Utf8.encode (Text.joinWith ", " (allowed.map Verb.name))]
  | .tooLarge =>
    (s.router.matchRoute method path).isSome ∧ served.response = s.bodyTooLarge fresh ∧
    Refuses served .payloadTooLarge "PAYLOAD_TOO_LARGE"
  | .run chain x =>
    s.router.matchRoute method path = some (chain, x.params) ∧
    served = serve chain now (WebSocket.isUpgradeRequest x.headers) x ∧
    served.calls = (chain.run now x).calls

theorem serve_calls (chain : Chain) (now : Int) (upgradable : Bool) (x : Exchange) :
    (serve chain now upgradable x).calls = (chain.run now x).calls := by
  rw [serve]
  split
  · rfl
  · rfl
  · split <;> rfl

theorem refuses_envelope (e : Envelope) (status : Status) (headers : Headers) :
    Refuses ⟨[], { e.response status with headers }, none⟩ status e.code :=
  ⟨rfl, rfl, rfl, e, rfl, rfl, e.code_toJson⟩

theorem refuses_errorResponse (category : ErrorCategory) (code message : String) (id : RequestId) :
    Refuses ⟨[], errorResponse category code message id, none⟩ category.status code :=
  refuses_envelope ((Envelope.ofParts category code message).withRequestId id) category.status _

theorem refuses_bodyTooLarge (s : Server) (id : RequestId) :
    Refuses ⟨[], s.bodyTooLarge id, none⟩ .payloadTooLarge "PAYLOAD_TOO_LARGE" :=
  refuses_envelope ((Envelope.ofParts .validation "PAYLOAD_TOO_LARGE" _).withRequestId id)
    .payloadTooLarge _

theorem Refuses.withHeaders {r : Response} {status : Status} {code : String}
    (h : Refuses ⟨[], r, none⟩ status code) (headers : Headers) :
    Refuses ⟨[], { r with headers }, none⟩ status code :=
  ⟨rfl, rfl, h.status, h.envelope⟩

theorem visible_allowed (verbs : List Verb) :
    Header.Visible (Text.joinWith ", " (verbs.map Verb.name)) := by
  have hname : ∀ verb : Verb, ∀ c ∈ verb.name.toList, Header.IsVisibleCode c.toNat := by
    intro verb
    cases verb <;> simp [Header.IsVisibleCode, Verb.name]
  have hcomma : ∀ c ∈ ", ".toList, Header.IsVisibleCode c.toNat := by
    simp [Header.IsVisibleCode]
  intro c hc
  rcases Text.mem_joinWith hc with hmark | ⟨name, hverb, hc⟩
  · exact hcomma c hmark
  · obtain ⟨verb, -, rfl⟩ := List.mem_map.mp hverb
    exact hname verb c hc

section Handling

variable {s : Server} {fresh : RequestId} {now : Int} {method : Method} {uri : Uri}
  {headers : Headers} {bytes : Bytes}

theorem refuses_unmatched_of_none {path : String} (h : s.router.matchPath path = none) :
    Refuses ⟨[], s.unmatched fresh method path, none⟩ .notFound "NOT_FOUND" := by
  simp only [unmatched, h]
  exact refuses_errorResponse ..

theorem refuses_unmatched_of_some {path : String} {verbs : Verbs Chain} {params : Params}
    (h : s.router.matchPath path = some (verbs, params)) :
    Refuses ⟨[], s.unmatched fresh method path, none⟩ .methodNotAllowed "METHOD_NOT_ALLOWED" ∧
    (s.unmatched fresh method path).headers.getAll "allow" =
      [Utf8.encode (Text.joinWith ", " (verbs.allowed.map Verb.name))] := by
  simp only [unmatched, h]
  constructor
  · exact (refuses_errorResponse ..).withHeaders _
  · exact Headers.getAll_insertText_self (visible_allowed _)

theorem handle_of_matchRoute_none (h : s.router.matchRoute method uri.path = none) :
    s.handle fresh now ⟨method, uri, headers, .complete bytes⟩ =
      ⟨[], s.unmatched fresh method uri.path, none⟩ := by
  simp only [handle, h]

theorem handle_of_limit_lt {chain : Chain} {params : Params}
    (h : s.router.matchRoute method uri.path = some (chain, params))
    (hlong : s.maxBodySize < bytes.length) :
    s.handle fresh now ⟨method, uri, headers, .complete bytes⟩ =
      ⟨[], s.bodyTooLarge fresh, none⟩ := by
  simp only [handle, h, collect, BodyArrival.bytes, hlong, if_true]

theorem handle_of_length_le {chain : Chain} {params : Params}
    (h : s.router.matchRoute method uri.path = some (chain, params))
    (hshort : bytes.length ≤ s.maxBodySize) :
    s.handle fresh now ⟨method, uri, headers, .complete bytes⟩ =
      serve chain now (WebSocket.isUpgradeRequest headers)
        ⟨method, uri, headers, bytes, params, (Exchange.suppliedId? headers).getD fresh, [],
          none⟩ := by
  simp only [handle, h, collect, BodyArrival.bytes, Nat.not_lt.mpr hshort, if_false]
  rfl

end Handling

theorem exists_decides (s : Server) {store : Store Chain} (h : s.router.StandsFor store)
    (fresh : RequestId) (now : Int) (method : Method) (uri : Uri) (headers : Headers)
    (bytes : Bytes) :
    ∃ d, Decides store s.maxBodySize fresh method uri headers bytes d ∧
      d.CarriedOut s fresh now method uri.path
        (s.handle fresh now ⟨method, uri, headers, .complete bytes⟩) := by
  rcases h.matchPath_cases uri.path with ⟨hmiss, hnone⟩ | ⟨pattern, captures, verbs, hfirst, hfound,
    hverbs⟩
  · have hroute := Router.matchRoute_of_none hnone method
    refine ⟨.notFound, .notFound hmiss, hnone, ?_⟩
    rw [handle_of_matchRoute_none hroute]
    exact refuses_unmatched_of_none hnone
  · have hroute := Router.matchRoute_of_matchPath hfound
    have hvalue : verbs.getMethod? method = method.verb?.bind (store.value? pattern) := by
      rw [Verbs.getMethod?, hverbs]
    cases hchain : method.verb?.bind (store.value? pattern) with
    | none =>
        rw [hchain] at hvalue
        refine ⟨_, .methodNotAllowed hfirst hchain, ⟨verbs, _, hfound, hvalue⟩, ?_, ?_⟩
        · refine List.filter_congr fun verb _ => ?_
          rw [hroute, Verbs.getMethod?_method, hverbs, Option.isSome_map]
        · rw [handle_of_matchRoute_none (by rw [hroute, hvalue]; rfl), ← hverbs]
          exact refuses_unmatched_of_some hfound
    | some chain =>
        rw [hchain] at hvalue
        have hselected : s.router.matchRoute method uri.path = some (chain, ⟨captures⟩) := by
          rw [hroute, hvalue]
          rfl
        rcases Nat.lt_or_ge s.maxBodySize bytes.length with hlong | hshort
        · refine ⟨.tooLarge, .tooLarge hfirst hchain hlong, by rw [hselected]; rfl, ?_⟩
          rw [handle_of_limit_lt hselected hlong]
          exact ⟨rfl, refuses_bodyTooLarge s fresh⟩
        · refine ⟨_, .run hfirst hchain hshort, hselected, ?_, ?_⟩
          · exact handle_of_length_le hselected hshort
          · rw [handle_of_length_le hselected hshort, serve_calls]

/-- Whatever routes were registered or refused, a request that arrives whole is decided in one way:
no pattern matches its path; the first one that does has no chain for its method; it has one and the
body is too long; or the chain is run, once, on the exchange of the request with the captured
parameters. The server does what is decided, and tells the allowed verbs where there are some. -/
theorem dispatch (calls : List (Command Chain)) (limit : ℕ) (fresh : RequestId) (now : Int)
    (method : Method) (uri : Uri) (headers : Headers) (bytes : Bytes) :
    (∃! d, Decides (Store.performAll [] calls) limit fresh method uri headers bytes d) ∧
    ∀ d, Decides (Store.performAll [] calls) limit fresh method uri headers bytes d →
      d.CarriedOut ⟨Router.empty.performAll calls, limit⟩ fresh now method uri.path
        ((Server.mk (Router.empty.performAll calls) limit).handle fresh now
          ⟨method, uri, headers, .complete bytes⟩) := by
  have hstands : (Router.empty.performAll calls).StandsFor (Store.performAll [] calls) :=
    Router.standsFor_empty.performAll calls
  obtain ⟨d, hdecides, hcarried⟩ :=
    exists_decides ⟨_, limit⟩ hstands fresh now method uri headers bytes
  refine ⟨⟨d, hdecides, fun d' hd' => hd'.unique hdecides⟩, fun d' hd' => ?_⟩
  rw [hd'.unique hdecides]
  exact hcarried

/-- Two verbs under a parameter, in two spellings, and a third under the wildcard behind it. -/
def shadowed : List (Command Chain) :=
  [.route ⟨"GET"⟩ "/a/:id" bare, .route ⟨"POST"⟩ "/a/\x7bid\x7d" bare, .route ⟨"PUT"⟩ "/a/*rest" bare]
where
  bare : Chain := ⟨.empty, [], ⟨.ofShapes .unit .unit .unit, .ofResult fun _ _ => .ok (.value .null)⟩⟩
  id : RequestId := ⟨List.replicate 32 (Fin.last 15), List.length_replicate⟩
  uri : Uri := ⟨none, "", "/a/1", none⟩
  served : Served :=
    (Server.mk (Router.empty.performAll shadowed) 4).handle id 0 ⟨⟨"PUT"⟩, uri, .empty, .complete []⟩

/-- The wildcard never gets the path, so its verb is not allowed there. -/
theorem shadowed_dispatch :
    Decides (Store.performAll [] shadowed) 4 shadowed.id ⟨"PUT"⟩ shadowed.uri .empty []
      (.methodNotAllowed [.get, .post]) ∧
    shadowed.served.response.status.code = 405 ∧
    (∃ body : Json, shadowed.served.response.body = Utf8.encode body.text ∧
      (body.get? "error").bind (Json.get? "code") = some (.str "METHOD_NOT_ALLOWED")) ∧
    shadowed.served.response.headers.getAll "allow" = [Utf8.encode "GET, POST"] := by
  have hpatterns : (Store.performAll [] shadowed).map (·.1) =
      [[.literal "a", .param "id"], [.literal "a", .param "id"],
        [.literal "a", .wildcard "rest"]] := by decide +kernel
  have hpath : Text.pathSegments shadowed.uri.path = ["a", "1"] := by decide +kernel
  have hallowed : (Verb.all.filter fun verb => (Store.value? (Store.performAll [] shadowed)
      [.literal "a", .param "id"] verb).isSome) = [.get, .post] := by decide +kernel
  have hvalue : (Method.verb? ⟨"PUT"⟩).bind
      (Store.value? (Store.performAll [] shadowed) [.literal "a", .param "id"]) = none := by
    rw [← Option.isNone_iff_eq_none]
    decide +kernel
  have hfirst : FirstMatch ((Store.performAll [] shadowed).map (·.1))
      (Text.pathSegments shadowed.uri.path) [.literal "a", .param "id"] [("id", "1")] := by
    rw [hpatterns, hpath]
    refine ⟨List.mem_cons_self, .literal "a" (.param "id" "1" .nil), fun q hq hne c _ => ?_⟩
    have hlast : q = [.literal "a", .wildcard "rest"] := by simpa [hne] using hq
    rw [hlast]
    exact Routing.precedes_cons_of_rank_eq rfl
      (Routing.precedes_cons_of_rank_lt (by decide) [] [])
  have hdecides : Decides (Store.performAll [] shadowed) 4 shadowed.id ⟨"PUT"⟩ shadowed.uri .empty
      [] (.methodNotAllowed [.get, .post]) := by
    rw [← hallowed]
    exact .methodNotAllowed hfirst hvalue
  obtain ⟨-, -, ⟨-, -, hstatus, e, -, hbody, hcode⟩, hallow⟩ :=
    (dispatch shadowed 4 shadowed.id 0 ⟨"PUT"⟩ shadowed.uri .empty []).2 _ hdecides
  exact ⟨hdecides, congrArg Status.code hstatus, ⟨e.toJson, hbody, hcode⟩, hallow⟩

end Server

end Conduit
