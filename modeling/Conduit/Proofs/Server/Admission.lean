import Conduit.Proofs.Server.Dispatch

/-! # Requests that come to a chain

The router has a chain for a request, and its body arrives whole and within the server's limit; or
the request is refused for one reason. This holds however the body arrives, so these are the ways
out of the server before a chain is run. -/

namespace Conduit.Server

/-! ## The ways into a chain and past it -/

/-- The request comes to the chain as this exchange. -/
structure Admits (s : Server) (fresh : RequestId) (req : Inbound) (chain : Chain) (x : Exchange) :
    Prop where
  route : s.router.matchRoute req.method req.uri.path = some (chain, x.params)
  body : req.body = .complete x.body
  short : x.body.length ≤ s.maxBodySize
  exchange : x = { Exchange.ofRequest fresh req.method req.uri req.headers x.body with
    params := x.params }

/-- The request comes to no chain and is answered with this error. -/
inductive Refusal (s : Server) (req : Inbound) : Envelope → Prop
  | notFound (hpath : s.router.matchPath req.uri.path = none) :
      Refusal s req (.ofParts .notFound "NOT_FOUND" s!"no route for {req.uri.path}")
  | methodNotAllowed {verbs params}
      (hpath : s.router.matchPath req.uri.path = some (verbs, params))
      (hmethod : verbs.getMethod? req.method = none) :
      Refusal s req (.ofParts .methodNotAllowed "METHOD_NOT_ALLOWED"
        s!"{req.method.name} is not allowed on {req.uri.path}")
  | tooLarge {chain params}
      (hroute : s.router.matchRoute req.method req.uri.path = some (chain, params))
      (hlong : s.maxBodySize < req.body.bytes.length) :
      Refusal s req (.ofParts .validation "PAYLOAD_TOO_LARGE"
        s!"request body exceeds {s.maxBodySize} bytes")
  | unread {chain params bytes reason}
      (hroute : s.router.matchRoute req.method req.uri.path = some (chain, params))
      (hbody : req.body = .failed bytes reason) (hshort : bytes.length ≤ s.maxBodySize) :
      Refusal s req (.ofParts .validation "BODY_READ_ERROR"
        s!"failed to read request body: {reason}")
  | endless {chain params bytes}
      (hroute : s.router.matchRoute req.method req.uri.path = some (chain, params))
      (hbody : req.body = .endless bytes) (hshort : bytes.length ≤ s.maxBodySize) :
      Refusal s req (.ofParts .timeout "REQUEST_TIMEOUT" "request exceeded its time budget")

section Ways

variable {s : Server} {fresh : RequestId} {now : Int} {req : Inbound} {chain chain' : Chain}
  {x x' : Exchange} {e : Envelope}

theorem Admits.chain_eq {params : Params} (h : s.Admits fresh req chain x)
    (hroute : s.router.matchRoute req.method req.uri.path = some (chain', params)) :
    chain = chain' := by
  have hsame := h.route.symm.trans hroute
  rw [Option.some.injEq, Prod.mk.injEq] at hsame
  exact hsame.1

theorem Admits.unique (h : s.Admits fresh req chain x) (h' : s.Admits fresh req chain' x') :
    chain = chain' ∧ x = x' := by
  have hroute := h.route.symm.trans h'.route
  have hbody := h.body.symm.trans h'.body
  simp only [Option.some.injEq, Prod.mk.injEq] at hroute
  simp only [BodyArrival.complete.injEq] at hbody
  refine ⟨hroute.1, ?_⟩
  rw [h.exchange, h'.exchange, hroute.2, hbody]

theorem Refusal.not_admits (h : Refusal s req e) : ¬ s.Admits fresh req chain x := by
  intro hadmits
  cases h with
  | notFound hpath =>
      cases (Routing.Router.matchRoute_of_none hpath req.method).symm.trans hadmits.route
  | methodNotAllowed hpath hmethod =>
      have hroute := Routing.Router.matchRoute_of_matchPath hpath req.method
      rw [hmethod] at hroute
      cases hroute.symm.trans hadmits.route
  | tooLarge _ hlong =>
      rw [hadmits.body] at hlong
      exact absurd hlong (Nat.not_lt.mpr hadmits.short)
  | unread _ hbody => cases hbody.symm.trans hadmits.body
  | endless _ hbody => cases hbody.symm.trans hadmits.body

theorem admits_or_refusal (s : Server) (fresh : RequestId) (req : Inbound) :
    (∃ chain x, s.Admits fresh req chain x) ∨ ∃ e, Refusal s req e := by
  cases hroute : s.router.matchRoute req.method req.uri.path with
  | none =>
      right
      cases hpath : s.router.matchPath req.uri.path with
      | none => exact ⟨_, .notFound hpath⟩
      | some found =>
          obtain ⟨verbs, params⟩ := found
          have hmethod := Routing.Router.matchRoute_of_matchPath hpath req.method
          rw [hroute, eq_comm, Option.map_eq_none_iff] at hmethod
          exact ⟨_, .methodNotAllowed hpath hmethod⟩
  | some found =>
      obtain ⟨chain, params⟩ := found
      rcases Nat.lt_or_ge s.maxBodySize req.body.bytes.length with hlong | hshort
      · exact .inr ⟨_, .tooLarge hroute hlong⟩
      · cases hbody : req.body with
        | complete bytes =>
            rw [hbody] at hshort
            exact .inl ⟨chain, { Exchange.ofRequest fresh req.method req.uri req.headers bytes with
              params }, hroute, hbody, hshort, rfl⟩
        | failed bytes reason =>
            rw [hbody] at hshort
            exact .inr ⟨_, .unread hroute hbody hshort⟩
        | endless bytes =>
            rw [hbody] at hshort
            exact .inr ⟨_, .endless hroute hbody hshort⟩

/-! ## What the server does on each -/

theorem Admits.handle (h : s.Admits fresh req chain x) :
    s.handle fresh now req = serve chain now (WebSocket.isUpgradeRequest req.headers) x := by
  obtain ⟨method, uri, headers, body⟩ := req
  obtain rfl : body = .complete x.body := h.body
  rw [handle_of_length_le h.route h.short]
  exact congrArg (serve chain now _) h.exchange.symm

theorem handle_of_lt_length {params : Params}
    (hroute : s.router.matchRoute req.method req.uri.path = some (chain, params))
    (hlong : s.maxBodySize < req.body.bytes.length) :
    s.handle fresh now req = ⟨[], s.bodyTooLarge fresh, none⟩ := by
  simp only [handle, hroute, collect, hlong, if_true]

theorem handle_of_unmatched (hroute : s.router.matchRoute req.method req.uri.path = none) :
    s.handle fresh now req = ⟨[], s.unmatched fresh req.method req.uri.path, none⟩ := by
  simp only [handle, hroute]

theorem collect_of_failed {bytes : Bytes} {reason : String}
    (hbody : req.body = .failed bytes reason) (hshort : bytes.length ≤ s.maxBodySize) :
    s.collect fresh req.body = .error (errorResponse .validation "BODY_READ_ERROR"
      s!"failed to read request body: {reason}" fresh) := by
  rw [hbody, collect]
  exact if_neg (Nat.not_lt.mpr hshort)

theorem collect_of_endless {bytes : Bytes} (hbody : req.body = .endless bytes)
    (hshort : bytes.length ≤ s.maxBodySize) :
    s.collect fresh req.body = .error (timedOut fresh) := by
  rw [hbody, collect]
  exact if_neg (Nat.not_lt.mpr hshort)

theorem handle_of_collect_error {params : Params} {r : Response}
    (hroute : s.router.matchRoute req.method req.uri.path = some (chain, params))
    (hcollect : s.collect fresh req.body = .error r) :
    s.handle fresh now req = ⟨[], r, none⟩ := by
  simp only [handle, hroute, hcollect]

end Ways

end Conduit.Server
