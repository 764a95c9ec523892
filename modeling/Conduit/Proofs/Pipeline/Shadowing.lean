import Conduit.Proofs.Pipeline.Codecs
import Conduit.Proofs.Pipeline.HandlerGate
import Conduit.Proofs.Pipeline.Indexing
import Conduit.Proofs.Pipeline.Reply

/-! # Several decoders and encoders in one chain

The frames of a session go by the first decoder and the first encoder of the chain. A request meets
all of them: a handler is given what the last decoder before it made, and the response is what the
last encoder wrote. -/

namespace Conduit

namespace Stage

variable {op : Operation} {now : Int} {ctx : Context} {stage : Stage}

theorem eq_handle_of_call {request : Request} {seen : Context}
    (h : .handler request seen ∈ (stage.run op now ctx).calls) : stage = handle := by
  cases stage with
  | handle => rfl
  | req d =>
      rw [run, runReq] at h
      split at h <;> cases h
  | auth scheme =>
      rw [run, runAuth] at h
      split at h <;> cases h
  | rsp encoder =>
      rw [run, runRsp] at h
      split at h
      · cases h
      · split at h
        · cases h
        · split at h <;> cases h
  | wsHandle protocols =>
      simp only [run, runWsHandle] at h
      split at h <;> cases h
  | custom provider =>
      rw [run, runCustom, List.mem_singleton] at h
      cases h

theorem dueRequest_of_call {request : Request} {seen : Context}
    (h : .handler request seen ∈ (handle.run op now ctx).calls) : ctx.dueRequest = .ok request := by
  cases hdue : ctx.dueRequest with
  | error e =>
      rw [run_handle_of_error hdue] at h
      cases h
  | ok found =>
      rw [run_handle_calls hdue, List.mem_singleton, Call.handler.injEq] at h
      rw [h.1]

end Stage

namespace Chain

variable (c : Chain) (now : Int) (x : Exchange)

/-! ## Going by the first of each -/

def TakesAt (j : ℕ) (request : Request) : Prop :=
  ∃ seen, .handler request seen ∈ c.callsAt now x j

/-- The encoder at `j` finds no session open, writes this response and lets the request go on. -/
def WritesAt (j : ℕ) (e : Encoder) (response : Response) : Prop :=
  c.stages[j]? = some (.rsp e) ∧ ∃ ctx, c.contextAt now x j = some ctx ∧ ctx.socket = none ∧
    ((Stage.rsp e).run c.operation now ctx).flow = .proceed ∧
    ((Stage.rsp e).run c.operation now ctx).ctx.exchange.response = some response

/-- The chain's own decoder makes this of the exchange as it was somewhere before `j`. -/
def DecodedByIndexer (j : ℕ) (request : Request) : Prop :=
  ∃ d i, c.indexer.req = some d ∧ i < j ∧ c.DecodesTo now x i d (.ok request)

/-- The chain's own encoder makes this of the result that the stages before `j` leave. -/
def RenderedByIndexer (j : ℕ) (response : Response) : Prop :=
  ∃ e result, c.indexer.rsp = some e ∧ c.Handled now x j (some result) ∧
    e.render result = .ok response

/-- The handler is given what the chain's own decoder makes, and the response is what its own
encoder makes. -/
structure GoesByIndexer : Prop where
  request : ∀ j request, c.TakesAt now x j request → c.DecodedByIndexer now x j request
  response : ∀ j e response, c.WritesAt now x j e response → c.RenderedByIndexer now x j response

variable {c now x} {i j : ℕ} {d : Decoder} {e : Encoder} {ctx : Context} {request : Request}
  {response : Response} {result : HandlerResult}

theorem lastDecoder_of_takesAt (hkeeps : c.operation.handler.KeepsRequest)
    (h : c.TakesAt now x j request) :
    ∃ i d, c.LastDecoder i j d ∧ c.DecodesTo now x i d (.ok request) := by
  obtain ⟨seen, hcall⟩ := h
  cases hstep : c.stepAt now x j with
  | none => simp [callsAt, hstep] at hcall
  | some step =>
      obtain ⟨ctx, stage, hctx, hstage, rfl⟩ := stage_of_stepAt hstep
      rw [callsAt_eq hctx hstage] at hcall
      obtain rfl := Stage.eq_handle_of_call hcall
      have hj : j < c.stages.length := (List.getElem?_eq_some_iff.mp hstage).1
      have hgate := gate_dueRequest hkeeps (Nat.le_of_lt hj) hctx
      rw [Stage.dueRequest_of_call hcall] at hgate
      cases hgate with
      | admits hlast hdecodes => exact ⟨_, _, hlast, hdecodes⟩

/-! ## The last of each -/

/-- A decoder that stands elsewhere in a chain that was built makes the same request only if it is
the same decoder, since all of them have one limit. -/
theorem decodedByIndexer_iff {spec : Spec} {op : Operation} {r : Registry} {o : ChainOptions}
    (hbuild : Chain.build spec op r o = .ok c) (hlast : c.LastDecoder i j d)
    (hdecodes : c.DecodesTo now x i d (.ok request)) :
    c.DecodedByIndexer now x j request ↔ c.indexer.req = some d := by
  have hmem : .req d ∈ c.stages := List.mem_of_getElem? hlast.stage
  constructor
  · rintro ⟨first, i', hfirst, -, ctx', -, hrequest'⟩
    obtain ⟨ctx, -, hrequest⟩ := hdecodes
    have hlimit : first.limit = d.limit :=
      (limit_of_build hbuild (mem_of_indexer_req hfirst)).trans (limit_of_build hbuild hmem).symm
    rw [hfirst, Decoder.eq_of_decode hrequest, Decoder.eq_of_decode hrequest', hlimit]
  · exact fun hfirst => ⟨d, i, hfirst, hlast.lt, hdecodes⟩

theorem renderedByIndexer_iff (hhandled : c.Handled now x j (some result))
    (hrender : e.render result = .ok response) :
    c.RenderedByIndexer now x j response ↔
      ∃ first, c.indexer.rsp = some first ∧ first.AlikeOn e result := by
  constructor
  · rintro ⟨first, result', hfirst, hhandled', hrender'⟩
    rw [Option.some.inj (hhandled'.unique hhandled)] at hrender'
    exact ⟨first, hfirst, (Encoder.render_eq_ok_iff hrender).mp hrender'⟩
  · rintro ⟨first, hfirst, halike⟩
    exact ⟨first, result, hfirst, hhandled, (Encoder.render_eq_ok_iff hrender).mpr halike⟩

theorem handled_of_writesAt (h : c.WritesAt now x j e response) :
    ∃ result, c.Handled now x j (some result) ∧ e.render result = .ok response := by
  obtain ⟨hstage, ctx, hctx, hsocket, hflow, hwritten⟩ := h
  obtain ⟨result, response', hresult, hrender, hafter⟩ :=
    Stage.run_rsp_of_proceed hsocket hflow
  rw [hafter] at hwritten
  obtain rfl : response' = response := Option.some.inj hwritten
  have hj : j < c.stages.length := (List.getElem?_eq_some_iff.mp hstage).1
  exact ⟨result, hresult ▸ handled_of_contextAt (Nat.le_of_lt hj) hctx, hrender⟩

variable (c now x)

/-- A response is what this encoder makes of the last handler's result. The chain's own encoder
would have made the same exactly if it tells that result alike. -/
def RenderedBy (j : ℕ) (e : Encoder) (response : Response) : Prop :=
  ∃ result, c.Handled now x j (some result) ∧ e.render result = .ok response ∧
    (c.RenderedByIndexer now x j response ↔
      ∃ first, c.indexer.rsp = some first ∧ first.AlikeOn e result)

/-- Which decoder and which encoder decide. -/
structure CodecsDetermined : Prop where
  /-- A handler is given what the last decoder before it makes. The chain's own decoder would have
  made the same exactly if it is the same. -/
  request : ∀ j request, c.TakesAt now x j request →
    ∃ i d, c.LastDecoder i j d ∧ c.DecodesTo now x i d (.ok request) ∧
      (c.DecodedByIndexer now x j request ↔ c.indexer.req = some d)
  response : ∀ j e response, c.WritesAt now x j e response → c.RenderedBy now x j e response
  /-- The last encoder's response is the reply, if nothing but plain stages stand in the chain. -/
  reply : c.Plain → ¬ c.Aborts now x → ¬ c.Hangs now x →
    ∀ j e, c.LastBefore Stage.isEncoder j c.length (.rsp e) →
      ∃ response, c.RenderedBy now x j e response ∧
        (c.run now x).reply = some (.response response)
  /-- With one decoder and one encoder, be they repeated, a chain goes by its own. -/
  single : (∀ d d', .req d ∈ c.stages → .req d' ∈ c.stages → d = d') →
    (∀ e e', .rsp e ∈ c.stages → .rsp e' ∈ c.stages → e = e') → c.GoesByIndexer now x
  /-- Frames always do. -/
  session : c.operation.handler.KeepsIndexer → ∀ response session,
    (c.run now x).reply = some (.upgrade response session) → session.indexer = c.indexer

variable {c now x}

/-- In a chain that was built, the last decoder before a handler and the encoders where they stand
decide. The chain's own decide with them only where they are the same or make the same. -/
theorem codecsDetermined {spec : Spec} {op : Operation} {r : Registry} {o : ChainOptions}
    (hbuild : Chain.build spec op r o = .ok c) (hkeeps : c.operation.handler.KeepsRequest) :
    c.CodecsDetermined now x := by
  have hrequest : ∀ j request, c.TakesAt now x j request →
      ∃ i d, c.LastDecoder i j d ∧ c.DecodesTo now x i d (.ok request) ∧
        (c.DecodedByIndexer now x j request ↔ c.indexer.req = some d) := by
    intro j request htakes
    obtain ⟨i, d, hlast, hdecodes⟩ := lastDecoder_of_takesAt hkeeps htakes
    exact ⟨i, d, hlast, hdecodes, decodedByIndexer_iff hbuild hlast hdecodes⟩
  have hresponse : ∀ j e response, c.WritesAt now x j e response →
      c.RenderedBy now x j e response := by
    intro j e response hwrites
    obtain ⟨result, hhandled, hrender⟩ := handled_of_writesAt hwrites
    exact ⟨result, hhandled, hrender, renderedByIndexer_iff hhandled hrender⟩
  refine ⟨hrequest, hresponse, ?_, fun hdecoders hencoders => ⟨?_, ?_⟩,
    fun hkeeps response session => indexer_of_upgrade hkeeps⟩
  · intro hplain haborts hhangs j e hlast
    obtain ⟨i, result, response, hhandler, hreturns, hrender, hreply⟩ :=
      reply_of_encoder hplain haborts hhangs hlast
    have hhandled : c.Handled now x j (some result) := .returned hhandler hreturns
    exact ⟨response, ⟨result, hhandled, hrender, renderedByIndexer_iff hhandled hrender⟩, hreply⟩
  · intro j request htakes
    obtain ⟨i, d, hlast, -, hiff⟩ := hrequest j request htakes
    have hmem : .req d ∈ c.stages := List.mem_of_getElem? hlast.stage
    obtain ⟨first, hfirst⟩ := exists_indexer_req hmem
    exact hiff.mpr (hdecoders first d (mem_of_indexer_req hfirst) hmem ▸ hfirst)
  · intro j e response hwrites
    obtain ⟨result, -, -, hiff⟩ := hresponse j e response hwrites
    have hmem : .rsp e ∈ c.stages := List.mem_of_getElem? hwrites.1
    obtain ⟨first, hfirst⟩ := exists_indexer_rsp hmem
    obtain rfl := hencoders first e (mem_of_indexer_rsp hfirst) hmem
    exact hiff.mpr ⟨first, hfirst, rfl, .inl rfl⟩

/-- A route that takes JSON, and whose base takes the query. -/
def shadowedSpec : Spec :=
  (Spec.parse "req=J|...").inherit (Spec.parse "audit|req=Q|handle|rsp")

def shadowedRoute : Chain :=
  ⟨shadowedSpec,
    [.req ⟨false, false, true, Contract.defaultLimit⟩,
      .req ⟨true, false, false, Contract.defaultLimit⟩, .handle, .rsp .plainJson],
    ⟨⟨fun s => .ok (.str s), fun s => .ok (.str s), fun bs => .ok (.nat bs.length)⟩,
      .ofResult fun _ request => .ok (.value (request.query.getD .null))⟩⟩

def jsonRequest : Exchange :=
  { Exchange.plainGet with
    method := ⟨"POST"⟩
    uri := ⟨none, "", "/", some "k=v"⟩
    body := Utf8.encode "\x7b\"a\":1\x7d" }

theorem shadowedRoute_codecsDetermined :
    Chain.build shadowedSpec shadowedRoute.operation .empty .standard = .ok shadowedRoute ∧
      shadowedRoute.operation.handler.KeepsRequest ∧
      shadowedRoute.CodecsDetermined 0 jsonRequest := by
  have hbuild : Chain.build shadowedSpec shadowedRoute.operation .empty .standard =
      .ok shadowedRoute := rfl
  exact ⟨hbuild, fun _ _ => rfl, codecsDetermined hbuild fun _ _ => rfl⟩

/-- Its handler is given the query, though the chain goes by the decoder of JSON. -/
theorem shadowedRoute_not_goesByIndexer :
    Chain.build shadowedSpec shadowedRoute.operation .empty .standard = .ok shadowedRoute ∧
      (shadowedRoute.run 0 jsonRequest).reply =
        some (.response (.json .ok (.str "k=v"))) ∧
      ¬ shadowedRoute.GoesByIndexer 0 jsonRequest := by
  refine ⟨rfl, rfl, fun hgoes => ?_⟩
  have htakes : shadowedRoute.TakesAt 0 jsonRequest 2
      ⟨some (.str "k=v"), none, none, .empty⟩ := ⟨_, List.mem_singleton.mpr rfl⟩
  obtain ⟨d, i, hfirst, -, ctx, -, hdecode⟩ := hgoes.request 2 _ htakes
  have hfirst' : shadowedRoute.indexer.req =
      some ⟨false, false, true, Contract.defaultLimit⟩ := rfl
  rw [hfirst', Option.some.injEq, Decoder.eq_of_decode hdecode, Decoder.mk.injEq] at hfirst
  exact Bool.noConfusion hfirst.1

end Chain

end Conduit
