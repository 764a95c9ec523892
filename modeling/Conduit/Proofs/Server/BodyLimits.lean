import Conduit.Proofs.Pipeline.FrameLimit
import Conduit.Proofs.Pipeline.HandlerGate
import Conduit.Proofs.Pipeline.Sent
import Conduit.Proofs.Server.RequestIds

/-! # Two limits on bodies

The server refuses a body above its limit before a chain is run. A chain has a limit of its own,
which its decoders go by: what one of them could not decode waits for the next handler, and that
one ends the run without being called. Either way no handler gets to see a body above the lower
limit. -/

namespace Conduit

/-! ## A body above a decoder's limit -/

namespace Contract

variable {contract : Contract} {x x' : Exchange} {limit : ℕ}

theorem decodeForm_of_limit_lt (h : limit < x.body.length) :
    contract.decodeForm x limit = .error (.tooLarge limit x.body.length) := by
  rw [decodeForm, if_pos h]

theorem decodeQuery_of_uri (h : x.uri = x'.uri) :
    contract.decodeQuery x = contract.decodeQuery x' := by
  rw [decodeQuery, decodeQuery, Exchange.query?, Exchange.query?, h]

end Contract

namespace Decoder

variable {d : Decoder} {x : Exchange}

/-- The decoder reads the body, as a form or as JSON. -/
def ReadsBody (d : Decoder) : Prop := d.form = true ∨ d.json = true

theorem of_source_error {selected : Bool} {decode : Except ExtractionError Json}
    {e : ExtractionError} (h : source selected decode = .error e) :
    selected = true ∧ decode = .error e := by
  cases selected with
  | false => cases h
  | true =>
      cases decode with
      | ok value => cases h
      | error fault =>
          cases h
          exact ⟨rfl, rfl⟩

/-- A body above the limit is not decoded. Its size is the reason, unless the query comes first. -/
theorem decode_of_limit_lt (contract : Contract) (hreads : d.ReadsBody)
    (hlong : d.limit < x.body.length) :
    ∃ e, d.decode contract x = .error e ∧
      ((d.query = true → ∃ value, contract.decodeQuery x = .ok value) →
        e = .tooLarge d.limit x.body.length) := by
  have hform : source true (contract.decodeForm x d.limit) =
      .error (.tooLarge d.limit x.body.length) := by
    rw [Contract.decodeForm_of_limit_lt hlong]
    rfl
  have hjson : source true (contract.decodeJson x.body d.limit .body) =
      .error (.tooLarge d.limit x.body.length) := by
    rw [Contract.decodeJson_of_limit_lt hlong]
    rfl
  rw [decode]
  cases hquery : source d.query (contract.decodeQuery x) with
  | error e =>
      refine ⟨e, rfl, fun hdecodes => ?_⟩
      obtain ⟨hselected, herror⟩ := of_source_error hquery
      obtain ⟨value, hvalue⟩ := hdecodes hselected
      cases hvalue.symm.trans herror
  | ok query =>
      refine ⟨.tooLarge d.limit x.body.length, ?_, fun _ => rfl⟩
      cases hselected : d.form with
      | true =>
          rw [hform]
          rfl
      | false =>
          rw [hreads.resolve_left (by simp [hselected]), hjson]
          rfl

end Decoder

/-! ## What waits for a handler -/

namespace Chain

/-- The handler at `j` waits for what the decoder at `i` makes of the body. -/
structure HandlesBody (c : Chain) (i j : ℕ) (d : Decoder) : Prop where
  stage : c.stages[j]? = some .handle
  last : c.LastDecoder i j d
  reads : d.ReadsBody

variable {c : Chain} {now : Int} {x : Exchange} {i j : ℕ} {d : Decoder} {ctx : Context}

/-- What a decoder could not decode is there at every later position up to the next decoder. A
handler in between would have ended the run. -/
theorem dueRequest_of_undecoded {e : ExtractionError} (hlast : c.LastDecoder i j d)
    (hdecodes : c.DecodesTo now x i d (.error e)) (hj : j ≤ c.stages.length)
    (hctx : c.contextAt now x j = some ctx) : ctx.dueRequest = .error (.decode e) := by
  induction j generalizing ctx with
  | zero => exact absurd hlast.lt (Nat.not_lt_zero i)
  | succ j ih =>
      have hstage : c.stages[j]? = some c.stages[j] := List.getElem?_eq_getElem hj
      obtain ⟨before, hbefore, hflow, rfl⟩ := contextAt_of_contextAt_succ hstage hctx
      rcases Nat.lt_succ_iff_lt_or_eq.mp hlast.lt with hlt | rfl
      · have hreq : ∀ d', c.stages[j]? ≠ some (.req d') := hlast.last j hlt (Nat.lt_succ_self j)
        have hlast' : c.LastDecoder i j d :=
          ⟨hlt, hlast.stage, fun m him hmj => hlast.last m him (Nat.lt_succ_of_lt hmj)⟩
        have hdue := ih hlast' (Nat.le_of_succ_le hj) hbefore
        by_cases hhandle : c.stages[j] = .handle
        · rw [hhandle, Stage.run_handle_of_error hdue] at hflow
          cases hflow
        · rw [Stage.run_dueRequest_of_ne (fun d' h => hreq d' (hstage.trans (congrArg some h)))
            hhandle]
          exact hdue
      · obtain ⟨ctx, hctx, hresult⟩ := hdecodes
        obtain rfl : ctx = before := Option.some.inj (hctx.symm.trans hbefore)
        rw [hlast.stage, Option.some.injEq] at hstage
        rw [← hstage, Stage.run_req_dueRequest, hresult]
        rfl

theorem HandlesBody.lt (h : c.HandlesBody i j d) : j < c.stages.length :=
  (List.getElem?_eq_some_iff.mp h.stage).1

theorem exists_contextAt_of_lt (hj : j ≤ c.stages.length) (hctx : c.contextAt now x j = some ctx)
    (hi : i < j) : ∃ before, c.contextAt now x i = some before := by
  have hreached : (c.contextAt now x j).isSome := by rw [hctx, Option.isSome_some]
  obtain ⟨step, hstep, -⟩ := (isSome_contextAt_iff hj).mp hreached i hi
  obtain ⟨before, -, hbefore, -⟩ := stage_of_stepAt hstep
  exact ⟨before, hbefore⟩

theorem HandlesBody.dueRequest (h : c.HandlesBody i j d) (hkeeps : c.KeepsSent)
    (hlong : d.limit < x.body.length) (hctx : c.contextAt now x j = some ctx) :
    ∃ e, ctx.dueRequest = .error (.decode e) ∧
      ((d.query = true → ∃ value, c.operation.contract.decodeQuery x = .ok value) →
        e = .tooLarge d.limit x.body.length) := by
  have hj := Nat.le_of_lt h.lt
  have hi : i ≤ c.stages.length := Nat.le_trans (Nat.le_of_lt h.last.lt) hj
  obtain ⟨before, hbefore⟩ := exists_contextAt_of_lt hj hctx h.last.lt
  obtain ⟨-, huri, -, hbody⟩ := Exchange.parts_of_sent (sent_of_contextAt hkeeps hi hbefore)
  rw [← hbody] at hlong ⊢
  obtain ⟨e, herror, hreason⟩ := Decoder.decode_of_limit_lt c.operation.contract h.reads hlong
  refine ⟨e, dueRequest_of_undecoded h.last ⟨before, hbefore, herror⟩ hj hctx, fun hquery => ?_⟩
  rw [← Contract.decodeQuery_of_uri huri] at hquery
  exact hreason hquery

theorem HandlesBody.callsAt (h : c.HandlesBody i j d) (hkeeps : c.KeepsSent)
    (hlong : d.limit < x.body.length) : c.callsAt now x j = [] := by
  cases hctx : c.contextAt now x j with
  | none => exact callsAt_of_not_reached hctx
  | some ctx =>
      obtain ⟨e, hdue, -⟩ := h.dueRequest hkeeps hlong hctx
      exact (stopsWith_of_dueRequest h.stage hctx hdue).calls

/-- If it is reached, it ends the run with the size of the body, unless the query is to blame. -/
theorem HandlesBody.stopsWith (h : c.HandlesBody i j d) (hkeeps : c.KeepsSent)
    (hlong : d.limit < x.body.length) (hreached : ∀ k < j, c.ContinuesAt now x k)
    (hquery : d.query = true → ∃ value, c.operation.contract.decodeQuery x = .ok value) :
    c.StopsWith now x j (.decode (.tooLarge d.limit x.body.length)) .payloadTooLarge := by
  have hsome := (isSome_contextAt_iff (Nat.le_of_lt h.lt)).mpr hreached
  obtain ⟨ctx, hctx⟩ := Option.isSome_iff_exists.mp hsome
  obtain ⟨e, hdue, hreason⟩ := h.dueRequest hkeeps hlong hctx
  rw [hreason hquery] at hdue
  exact stopsWith_of_dueRequest h.stage hctx hdue

end Chain

/-! ## Both limits -/

namespace Server

/-- A request with a body above one of the limits calls no handler that waits for its body. -/
structure BodyGuarded (s : Server) (o : ChainOptions) (fresh : RequestId) (now : Int)
    (req : Inbound) (chain : Chain) : Prop where
  /-- Above the server's limit there is no run, whatever the chain is. -/
  refused : s.maxBodySize < req.body.bytes.length →
    s.handle fresh now req = ⟨[], s.bodyTooLarge fresh, none⟩ ∧
    Refuses (s.handle fresh now req) .payloadTooLarge "PAYLOAD_TOO_LARGE"
  /-- What is called is called at the positions of the chain. -/
  calls : (s.handle fresh now req).calls = [] ∨ ∃ x, s.Admits fresh req chain x ∧
    (s.handle fresh now req).calls = (List.range chain.length).flatMap (chain.callsAt now x)
  uncalled : ∀ x i j d, s.Admits fresh req chain x → chain.HandlesBody i j d →
    chain.callsAt now x j = []
  /-- Such a handler ends the run if it is reached and the query is not to blame before. -/
  told : ∀ x i j d, s.Admits fresh req chain x → chain.HandlesBody i j d →
    (∀ k < j, chain.ContinuesAt now x k) →
    (d.query = true → ∃ value, chain.operation.contract.decodeQuery x = .ok value) →
    chain.StopsWith now x j (.decode (.tooLarge o.maxBodySize req.body.bytes.length))
      .payloadTooLarge ∧
    (s.handle fresh now req).response.status = .payloadTooLarge ∧
    ∃ e : Envelope, e.code = "PAYLOAD_TOO_LARGE" ∧
      Tells (s.handle fresh now req).response e x.requestId

variable {s : Server} {spec : Spec} {op : Operation} {reg : Registry} {o : ChainOptions}
  {chain : Chain} {req : Inbound} {params : Params}

/-- The lower of the limits of the server and of a chain counts for every body, in whatever order
and with whatever else the chain decodes it. -/
theorem bodyGuarded (hbuild : Chain.build spec op reg o = .ok chain) (hkeeps : chain.KeepsSent)
    (hroute : s.router.matchRoute req.method req.uri.path = some (chain, params))
    (hlong : min s.maxBodySize o.maxBodySize < req.body.bytes.length) (fresh : RequestId)
    (now : Int) : s.BodyGuarded o fresh now req chain := by
  have hbytes : ∀ {x}, s.Admits fresh req chain x → req.body.bytes = x.body := by
    intro x hadmits
    rw [hadmits.body]
    rfl
  have hlimit : ∀ {x i j d}, s.Admits fresh req chain x → chain.HandlesBody i j d →
      d.limit = o.maxBodySize ∧ d.limit < x.body.length := by
    intro x i j d hadmits hhandles
    have hd : d.limit = o.maxBodySize :=
      Chain.limit_of_build hbuild (List.mem_of_getElem? hhandles.last.stage)
    have hshort := hadmits.short
    rw [hbytes hadmits] at hlong
    omega
  refine ⟨fun hserver => ?_, ?_, fun x i j d hadmits hhandles => ?_,
    fun x i j d hadmits hhandles hreached hquery => ?_⟩
  · rw [handle_of_lt_length hroute hserver]
    exact ⟨rfl, refuses_bodyTooLarge s fresh⟩
  · rcases admits_or_refusal s fresh req with ⟨chain', x, hadmits⟩ | ⟨e, hrefusal⟩
    · obtain rfl : chain' = chain := hadmits.chain_eq hroute
      right
      refine ⟨x, hadmits, ?_⟩
      rw [hadmits.handle, serve_calls, Chain.run_calls]
    · left
      obtain ⟨r, hr, -⟩ := hrefusal.handle
      rw [hr]
  · exact hhandles.callsAt hkeeps (hlimit hadmits hhandles).2
  · obtain ⟨hd, hlong'⟩ := hlimit hadmits hhandles
    have hstops := hhandles.stopsWith hkeeps hlong' hreached hquery
    rw [hd, ← hbytes hadmits] at hstops
    obtain ⟨step, hstep, hflow⟩ := hstops.flow
    have htells : Tells (s.handle fresh now req).response
        ((PipelineError.decode (.tooLarge o.maxBodySize req.body.bytes.length)).envelope none)
        x.requestId := by
      rw [hadmits.handle]
      exact (Failure.aborted hstep hflow).serve
    refine ⟨hstops, ?_, _, rfl, htells⟩
    rw [hadmits.handle]
    simp only [serve, hstops.reply]
    exact hstops.status

/-- A route that decodes the query and a form, up to four bytes, and answers with nothing. -/
def narrowRoute : Chain :=
  ⟨.parse "req=QF|handle|rsp", [.req ⟨true, true, false, 4⟩, .handle, .rsp .plainJson],
    ⟨⟨fun s => .ok (.str s), fun s => .ok (.str s), fun _ => .ok .null⟩,
      .ofResult fun _ _ => .ok (.value .null)⟩⟩

def narrowServer : Server := ⟨(Routing.Router.empty.route ⟨"POST"⟩ "/" narrowRoute).1, 8⟩

def fiveBytes : Inbound :=
  ⟨⟨"POST"⟩, Exchange.plainGet.uri, .empty, .complete (Utf8.encode "a=bcd")⟩

/-- Five bytes come to the route and are refused by its handler. -/
theorem narrowServer_bodyGuarded :
    Chain.build (.parse "req=QF|handle|rsp") narrowRoute.operation .empty ⟨true, 4⟩ =
      .ok narrowRoute ∧
    narrowRoute.KeepsSent ∧
    (∃ params, narrowServer.router.matchRoute fiveBytes.method fiveBytes.uri.path =
      some (narrowRoute, params)) ∧
    min narrowServer.maxBodySize 4 < fiveBytes.body.bytes.length ∧
    (narrowServer.handle Exchange.plainGet.requestId 0 fiveBytes).response.status =
      .payloadTooLarge := by
  have hbuild : Chain.build (.parse "req=QF|handle|rsp") narrowRoute.operation .empty ⟨true, 4⟩ =
      .ok narrowRoute := rfl
  have hkeeps : narrowRoute.KeepsSent := by
    refine ⟨fun _ _ => rfl, fun provider hprovider => ?_⟩
    simp [narrowRoute] at hprovider
  have hroute : ∃ params, narrowServer.router.matchRoute fiveBytes.method fiveBytes.uri.path =
      some (narrowRoute, params) := ⟨_, rfl⟩
  have hlong : min narrowServer.maxBodySize 4 < fiveBytes.body.bytes.length := by decide +kernel
  obtain ⟨params, hroute'⟩ := hroute
  have hguarded := bodyGuarded hbuild hkeeps hroute' hlong Exchange.plainGet.requestId 0
  have hhandles : narrowRoute.HandlesBody 0 1 ⟨true, true, false, 4⟩ :=
    ⟨rfl, ⟨by decide, rfl, fun m hm hm' => absurd hm' (by omega)⟩, .inl rfl⟩
  have hadmits : narrowServer.Admits Exchange.plainGet.requestId fiveBytes narrowRoute
      { Exchange.plainGet with method := ⟨"POST"⟩, body := Utf8.encode "a=bcd" } :=
    ⟨rfl, rfl, by decide +kernel, rfl⟩
  refine ⟨hbuild, hkeeps, ⟨params, hroute'⟩, hlong, ?_⟩
  refine (hguarded.told _ 0 1 _ hadmits hhandles (fun k hk => ?_) fun _ => ⟨_, rfl⟩).2.1
  obtain rfl : k = 0 := by omega
  exact ⟨_, rfl, rfl⟩

end Server

end Conduit
