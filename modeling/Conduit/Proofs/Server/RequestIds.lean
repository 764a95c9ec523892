import Conduit.Proofs.Json.Members
import Conduit.Proofs.Pipeline.Positions
import Conduit.Proofs.Server.Admission
import Conduit.Proofs.Uuid

/-! # The id of an answer

Eight ways lead out of the server, and on each of them an id is made, taken over or written on its
own. There is one id for every answer all the same: its only id line has it, and every error that
the server or a stage tells has it too. It is the one that the client sent, if that was well formed
and the request came to a chain. -/

namespace Conduit

open Exchange (requestIdHeader suppliedId?)

/-! ## An id in the body and in the head of a response -/

theorem Envelope.get?_requestId (e : Envelope) (id : RequestId) :
    (e.withRequestId id).toJson.get? "request_id" = some (.str id.text) := by
  rw [toJson, Json.object, Json.get?, Json.lookup_orderMembers]
  rfl

namespace Server

/-- A response tells an error under an id, in its one id line and in its body. -/
structure Tells (r : Response) (e : Envelope) (id : RequestId) : Prop where
  line : r.headers.getAll requestIdHeader = [Utf8.encode id.text]
  body : r.body = Utf8.encode (e.withRequestId id).toJson.text
  member : (e.withRequestId id).toJson.get? "request_id" = some (.str id.text)

theorem headers_stamp (r : Response) (id : RequestId) :
    (stamp r id).headers = r.headers.insertText requestIdHeader id.text := by
  rw [stamp]

theorem body_stamp (r : Response) (id : RequestId) : (stamp r id).body = r.body := by
  rw [stamp]

theorem getAll_stamp (r : Response) (id : RequestId) :
    (stamp r id).headers.getAll requestIdHeader = [Utf8.encode id.text] := by
  rw [headers_stamp]
  exact Headers.getAll_insertText_self (Uuid.visible_text id)

theorem tells_stamp (e : Envelope) (status : Status) (id : RequestId) :
    Tells (stamp ((e.withRequestId id).response status) id) e id := by
  refine ⟨getAll_stamp _ id, ?_, e.get?_requestId id⟩
  rw [body_stamp, Envelope.response, Response.json, Response.withBody]

theorem tells_errorResponse (category : ErrorCategory) (code message : String) (id : RequestId) :
    Tells (errorResponse category code message id) (.ofParts category code message) id :=
  tells_stamp (.ofParts category code message) category.status id

theorem Tells.insertText {r : Response} {e : Envelope} {id : RequestId} {name : String}
    (h : Tells r e id) (hne : name ≠ requestIdHeader) (text : String) :
    Tells { r with headers := r.headers.insertText name text } e id :=
  ⟨(Headers.getAll_insertText_of_ne hne).trans h.line, h.body, h.member⟩

section Answers

variable {s : Server} {fresh : RequestId} {now : Int} {req : Inbound} {chain : Chain}
  {x : Exchange} {e : Envelope} {upgradable : Bool}

/-! ## Answers to requests that come to no chain -/

theorem tells_unmatched_of_none {path : String} {method : Method}
    (hpath : s.router.matchPath path = none) :
    Tells (s.unmatched fresh method path)
      (.ofParts .notFound "NOT_FOUND" s!"no route for {path}") fresh := by
  simp only [unmatched, hpath]
  exact tells_errorResponse ..

theorem tells_unmatched_of_some {path : String} {method : Method} {verbs : Routing.Verbs Chain}
    {params : Params} (hpath : s.router.matchPath path = some (verbs, params)) :
    Tells (s.unmatched fresh method path)
      (.ofParts .methodNotAllowed "METHOD_NOT_ALLOWED"
        s!"{method.name} is not allowed on {path}") fresh := by
  have hne : "allow" ≠ requestIdHeader := by decide
  simp only [unmatched, hpath]
  exact (tells_errorResponse ..).insertText hne _

theorem Refusal.handle (h : Refusal s req e) :
    ∃ r, s.handle fresh now req = ⟨[], r, none⟩ ∧ Tells r e fresh := by
  cases h with
  | notFound hpath =>
      have hroute := Routing.Router.matchRoute_of_none hpath req.method
      exact ⟨_, handle_of_unmatched hroute, tells_unmatched_of_none hpath⟩
  | methodNotAllowed hpath hmethod =>
      have hroute := Routing.Router.matchRoute_of_matchPath hpath req.method
      rw [hmethod] at hroute
      exact ⟨_, handle_of_unmatched hroute, tells_unmatched_of_some hpath⟩
  | tooLarge hroute hlong =>
      exact ⟨_, handle_of_lt_length hroute hlong, tells_stamp (.ofParts ..) _ _⟩
  | unread hroute hbody hshort =>
      exact ⟨_, handle_of_collect_error hroute (collect_of_failed hbody hshort),
        tells_errorResponse ..⟩
  | endless hroute hbody hshort =>
      exact ⟨_, handle_of_collect_error hroute (collect_of_endless hbody hshort),
        tells_errorResponse ..⟩

/-! ## Answers to requests that come to a chain -/

/-- The run of a chain is answered with this error. -/
inductive Failure (chain : Chain) (now : Int) (upgradable : Bool) (x : Exchange) :
    Envelope → Prop
  | timedOut (hreply : (chain.run now x).reply = none) :
      Failure chain now upgradable x
        (.ofParts .timeout "REQUEST_TIMEOUT" "request exceeded its time budget")
  | aborted {j step e} (hstep : chain.stepAt now x j = some step) (hflow : step.flow = .abort e) :
      Failure chain now upgradable x (e.envelope none)
  | notUpgradable {r session} (hreply : (chain.run now x).reply = some (.upgrade r session))
      (hupgradable : upgradable = false) :
      Failure chain now upgradable x
        (.ofParts .internal "UPGRADE_UNAVAILABLE" "connection cannot be upgraded")

theorem getAll_serve :
    (serve chain now upgradable x).response.headers.getAll requestIdHeader =
      [Utf8.encode x.requestId.text] := by
  rw [serve]
  split
  · exact getAll_stamp ..
  · exact getAll_stamp ..
  · split <;> exact getAll_stamp ..

theorem Failure.serve (h : Failure chain now upgradable x e) :
    Tells (serve chain now upgradable x).response e x.requestId := by
  cases h with
  | timedOut hreply =>
      simp only [Server.serve, hreply]
      exact tells_errorResponse ..
  | aborted hstep hflow =>
      have hreply := Chain.reply_of_abort hstep hflow
      simp only [Server.serve, hreply]
      exact tells_stamp (PipelineError.envelope _ none) _ _
  | notUpgradable hreply hupgradable =>
      simp only [Server.serve, hreply, hupgradable]
      exact tells_errorResponse ..

theorem serve_of_not_failure (h : ∀ e, ¬ Failure chain now upgradable x e) :
    ∃ reply, (chain.run now x).reply = some reply ∧
      (serve chain now upgradable x).response = stamp reply.toResponse x.requestId := by
  cases hreply : (chain.run now x).reply with
  | none => exact absurd (.timedOut hreply) (h _)
  | some reply =>
      refine ⟨reply, rfl, ?_⟩
      cases reply with
      | response r => simp only [serve, hreply, Reply.toResponse]
      | upgrade r session =>
          cases hupgradable : upgradable with
          | true => simp only [serve, hreply, if_true, Reply.toResponse]
          | false => exact absurd (.notUpgradable hreply hupgradable) (h _)

/-! ## The id that a client sends -/

theorem suppliedId?_of_spelling {headers : Headers} {line : Bytes} {rest : List Bytes}
    {value : String} {id : RequestId} (hlines : headers.getAll requestIdHeader = line :: rest)
    (hvalue : Header.text? line = some value) (hid : id.Spelling (Text.trim value)) :
    suppliedId? headers = some id := by
  have htext : headers.text? requestIdHeader = some value := by
    rw [Headers.text?, Headers.get?, hlines]
    exact hvalue
  rw [suppliedId?, htext, Option.bind_some, RequestId.parse?, Uuid.parse?_eq_some_iff]
  exact hid

theorem Admits.requestId (h : s.Admits fresh req chain x) :
    x.requestId = (suppliedId? req.headers).getD fresh :=
  congrArg Exchange.requestId h.exchange

theorem Admits.getAll (h : s.Admits fresh req chain x) :
    (s.handle fresh now req).response.headers.getAll requestIdHeader =
      [Utf8.encode x.requestId.text] := by
  rw [h.handle]
  exact getAll_serve

/-- A line that some answer had is understood when it is sent back. -/
theorem Admits.getAll_of_returned {r : Response} {id : RequestId} (h : s.Admits fresh req chain x)
    (hline : r.headers.getAll requestIdHeader = [Utf8.encode id.text])
    (hsent : req.headers.get? requestIdHeader = r.headers.get? requestIdHeader) :
    (s.handle fresh now req).response.headers.getAll requestIdHeader =
      r.headers.getAll requestIdHeader := by
  have htext : req.headers.text? requestIdHeader = some id.text := by
    rw [Headers.text?, hsent, Headers.get?, hline, List.head?_cons, Option.bind_some]
    exact Header.text?_of_visible (Uuid.visible_text id)
  have hsupplied : suppliedId? req.headers = some id := by
    rw [suppliedId?, htext, Option.bind_some, RequestId.parse?_text]
  rw [h.getAll, h.requestId, hsupplied, Option.getD_some, hline]

end Answers

/-! ## One id for every answer -/

/-- A request is answered under an id, whichever way it goes. -/
structure AnsweredUnder (s : Server) (fresh : RequestId) (now : Int) (req : Inbound)
    (id : RequestId) : Prop where
  /-- There is one id line, whatever lines the chain's response had. It has the only spelling of
  the id that is canonical. -/
  line : ∃ text, (∀ spelling, id.Canonical spelling ↔ spelling = text) ∧
    (s.handle fresh now req).response.headers.getAll requestIdHeader = [Utf8.encode text]
  refused : ∀ e, Refusal s req e → Tells (s.handle fresh now req).response e id
  failed : ∀ chain x e, s.Admits fresh req chain x →
    Failure chain now (WebSocket.isUpgradeRequest req.headers) x e →
    Tells (s.handle fresh now req).response e id
  replied : ∀ chain x, s.Admits fresh req chain x →
    (∀ e, ¬ Failure chain now (WebSocket.isUpgradeRequest req.headers) x e) →
    ∃ reply, (chain.run now x).reply = some reply ∧
      (s.handle fresh now req).response = stamp reply.toResponse id
  supplied : ∀ chain x line rest value client, s.Admits fresh req chain x →
    req.headers.getAll requestIdHeader = line :: rest → Header.text? line = some value →
    client.Spelling (Text.trim value) → id = client
  /-- Whoever sends the line back, to whatever server, is answered with it. -/
  returned : ∀ s' fresh' now' req' chain' x', Admits s' fresh' req' chain' x' →
    req'.headers.get? requestIdHeader =
      (s.handle fresh now req).response.headers.get? requestIdHeader →
    (s'.handle fresh' now' req').response.headers.getAll requestIdHeader =
      (s.handle fresh now req).response.headers.getAll requestIdHeader

section Exits

variable {s : Server} {fresh : RequestId} {now : Int} {req : Inbound}

theorem Refusal.answeredUnder {e : Envelope} (h : Refusal s req e) :
    s.AnsweredUnder fresh now req fresh := by
  have htells : ∀ e, Refusal s req e → Tells (s.handle fresh now req).response e fresh := by
    intro e hrefusal
    obtain ⟨r, hr, htells⟩ := hrefusal.handle
    rw [hr]
    exact htells
  have hline := (htells e h).line
  refine ⟨⟨_, fun _ => Uuid.canonical_iff, hline⟩, htells, fun chain x e' hadmits => ?_,
    fun chain x hadmits => ?_, fun chain x line rest value client hadmits => ?_,
    fun s' fresh' now' req' chain' x' hadmits' => hadmits'.getAll_of_returned hline⟩
  · exact absurd hadmits h.not_admits
  · exact absurd hadmits h.not_admits
  · exact absurd hadmits h.not_admits

theorem Admits.answeredUnder {chain : Chain} {x : Exchange} (h : s.Admits fresh req chain x) :
    s.AnsweredUnder fresh now req x.requestId := by
  refine ⟨⟨_, fun _ => Uuid.canonical_iff, h.getAll⟩, fun e hrefusal => ?_,
    fun chain' x' e h' hfailure => ?_, fun chain' x' h' hnone => ?_,
    fun chain' x' line rest value client _ hlines hvalue hclient => ?_,
    fun s' fresh' now' req' chain' x' hadmits' => hadmits'.getAll_of_returned h.getAll⟩
  · exact absurd h hrefusal.not_admits
  · obtain ⟨rfl, rfl⟩ := h'.unique h
    rw [h'.handle]
    exact hfailure.serve
  · obtain ⟨rfl, rfl⟩ := h'.unique h
    rw [h'.handle]
    exact serve_of_not_failure hnone
  · rw [h.requestId, suppliedId?_of_spelling hlines hvalue hclient, Option.getD_some]

end Exits

/-- Every answer of the server is under one id: its one id line says the id in its canonical text,
and so does every error that the server or an aborting stage tells. A well-formed id that the
client sent is that id if the request came to a chain, and the line of an answer is good for sending
back. -/
theorem exists_answeredUnder (s : Server) (fresh : RequestId) (now : Int) (req : Inbound) :
    ∃ id, s.AnsweredUnder fresh now req id := by
  rcases admits_or_refusal s fresh req with ⟨chain, x, hadmits⟩ | ⟨e, hrefusal⟩
  · exact ⟨x.requestId, hadmits.answeredUnder⟩
  · exact ⟨fresh, hrefusal.answeredUnder⟩

end Server

end Conduit
