import Conduit.Proofs.Pipeline.Acceptance
import Conduit.Proofs.Pipeline.Indexing

/-! # Errors with and without an encoder

An encoder behind the other stages of a chain changes nothing before it, but that the chain goes by
it: application code can find it in the indexer, and come to another error for it. What it writes
for a handler's error is what is told of that error without it, unless it wraps errors. -/

namespace Conduit

/-! ## The chain goes by an encoder -/

def Indexer.withEncoder (i : Indexer) (e : Encoder) : Indexer := { i with rsp := some e }

def Context.withEncoder (ctx : Context) (e : Encoder) : Context :=
  { ctx with indexer := ctx.indexer.withEncoder e }

def View.withEncoder (view : View) (e : Encoder) : View :=
  { view with indexer := view.indexer.withEncoder e }

def Call.withEncoder (e : Encoder) : Call → Call
  | handler request ctx => handler request (ctx.withEncoder e)
  | provider p view => provider p (view.withEncoder e)

def Step.withEncoder (step : Step) (e : Encoder) : Step :=
  ⟨step.ctx.withEncoder e, step.flow, step.calls.map (Call.withEncoder e)⟩

def StagesRun.withEncoder (run : StagesRun) (e : Encoder) : StagesRun :=
  ⟨run.ctx.withEncoder e, run.flow, run.calls.map (Call.withEncoder e)⟩

/-- The handler does the same whichever encoder the chain goes by. -/
def Handler.IgnoresEncoder (handler : Handler) : Prop :=
  ∀ ctx request e, handler (ctx.withEncoder e) request =
    ((handler ctx request).1.withEncoder e, (handler ctx request).2)

def Provider.IgnoresEncoder (provider : Provider) : Prop :=
  ∀ view e, provider.act (view.withEncoder e) = provider.act view

def Provider.KeepsResponse (provider : Provider) : Prop :=
  ∀ view, (provider.act view).exchange.response = view.exchange.response

theorem Stage.run_withEncoder {op : Operation} {now : Int} {ctx : Context} {stage : Stage}
    (hhandler : op.handler.IgnoresEncoder)
    (hprovider : ∀ provider, stage = custom provider → provider.IgnoresEncoder) (e : Encoder) :
    stage.run op now (ctx.withEncoder e) = (stage.run op now ctx).withEncoder e := by
  have hexchange : (ctx.withEncoder e).exchange = ctx.exchange := rfl
  have hrequest : (ctx.withEncoder e).request = ctx.request := rfl
  have hresult : (ctx.withEncoder e).result = ctx.result := rfl
  have hsocket : (ctx.withEncoder e).socket = ctx.socket := rfl
  cases stage with
  | req d =>
      simp only [run, runReq, hexchange]
      cases d.decode op.contract ctx.exchange <;> rfl
  | auth scheme =>
      simp only [run, runAuth, hexchange]
      cases scheme.authenticate now ctx.exchange <;> rfl
  | handle =>
      simp only [run, runHandle, hrequest]
      rcases ctx.request with _ | ⟨_ | request, _ | fault⟩
      · rfl
      · rfl
      · rfl
      · have hsame := hhandler { ctx with request := some ⟨none, none⟩ } request e
        rcases hcall : op.handler { ctx with request := some ⟨none, none⟩ } request with
          ⟨after, result | _⟩
        all_goals
          rw [hcall] at hsame
          simp only [Context.withEncoder] at hsame ⊢
          simp only [hsame, hcall]
          rfl
      · rfl
  | rsp encoder =>
      simp only [run, runRsp, hsocket, hresult]
      split
      · rfl
      · cases ctx.result with
        | none => rfl
        | some result => cases hrender : encoder.render result <;> simp only [hrender] <;> rfl
  | wsHandle protocols =>
      simp only [run, runWsHandle, hexchange]
      cases WebSocket.validateUpgrade ctx.exchange.headers <;> rfl
  | custom provider =>
      have hact : provider.act (ctx.withEncoder e).view = provider.act ctx.view :=
        hprovider provider rfl ctx.view e
      simp only [run, runCustom, hact]
      rfl

theorem runStages_withEncoder {op : Operation} {now : Int} {stages : List Stage}
    (hhandler : op.handler.IgnoresEncoder)
    (hproviders : ∀ provider, .custom provider ∈ stages → provider.IgnoresEncoder)
    (ctx : Context) (e : Encoder) :
    runStages op now stages (ctx.withEncoder e) = (runStages op now stages ctx).withEncoder e := by
  induction stages generalizing ctx with
  | nil => rfl
  | cons stage rest ih =>
      have hstep : stage.run op now (ctx.withEncoder e) =
          (stage.run op now ctx).withEncoder e := by
        refine Stage.run_withEncoder hhandler ?_ e
        rintro provider rfl
        exact hproviders provider List.mem_cons_self
      have hrest := ih fun provider hmem => hproviders provider (List.mem_cons_of_mem stage hmem)
      rw [runStages, runStages, hstep]
      cases hflow : (stage.run op now ctx).flow with
      | proceed => simp [Step.withEncoder, StagesRun.withEncoder, hflow, hrest]
      | abort fault => simp [Step.withEncoder, StagesRun.withEncoder, hflow]
      | stall => simp [Step.withEncoder, StagesRun.withEncoder, hflow]

theorem Encoder.render_error_of_bare {e : Encoder} {err : ApiError} (hwrapper : e.wrapper = .none) :
    e.render (.error err) = .ok err.bareResponse := by
  obtain ⟨media, wrapper⟩ := e
  obtain rfl : wrapper = .none := hwrapper
  rfl

/-! ## The chain with an encoder behind its stages -/

namespace Chain

/-- The chain of the same spec with a token for an encoder at its end. -/
def encodedBy (c : Chain) (value : String) (e : Encoder) : Chain :=
  ⟨⟨c.spec.tokens ++ [⟨"rsp", value⟩]⟩, c.stages ++ [.rsp e], c.operation⟩

/-- The stages leave the response to the chain, and the application leaves it the socket too. -/
structure LeavesReply (c : Chain) : Prop where
  encoders : ∀ e, .rsp e ∉ c.stages
  sessions : ∀ protocols, .wsHandle protocols ∉ c.stages
  response : c.operation.handler.KeepsResponse
  socket : c.operation.handler.KeepsSocket
  providers : ∀ provider, .custom provider ∈ c.stages → provider.KeepsResponse

structure IgnoresEncoder (c : Chain) : Prop where
  handler : c.operation.handler.IgnoresEncoder
  providers : ∀ provider, .custom provider ∈ c.stages → provider.IgnoresEncoder

/-- So many stages let the request go on, and the last of their results is this error. -/
structure ComesTo (c : Chain) (now : Int) (x : Exchange) (n : ℕ) (err : ApiError) : Prop where
  continues : ∀ j < n, c.ContinuesAt now x j
  handled : c.Handled now x n (some (.error err))

/-- How two chains, the second with an encoder behind the stages of the first, tell an error of
their handler. -/
structure TellsAlike (c c' : Chain) (now : Int) (x : Exchange) (err : ApiError) : Prop where
  bare : x.response = none → ∃ r, (c.run now x).reply = some (.response r) ∧ r.TellsBare err
  /-- Without an encoder a response that came with the exchange stands. -/
  brought : ∀ r, x.response = some r → (c.run now x).reply = some (.response r)
  /-- Whatever error the stages before the encoder come to, it is told as it is without one. -/
  encoded : ∀ err', c'.ComesTo now x c.length err' →
    ∃ r, (c'.run now x).reply = some (.response r) ∧ r.TellsBare err'
  alike : x.response = none → c'.ComesTo now x c.length err →
    (c'.run now x).reply = (c.run now x).reply
  /-- Unless the application looks at the encoder, they come to the same error. -/
  same : c.IgnoresEncoder → c'.ComesTo now x c.length err ∧
    (x.response = none → (c'.run now x).reply = (c.run now x).reply)

variable {c : Chain} {now : Int} {x : Exchange} {value : String} {e : Encoder} {err : ApiError}
  {ctx : Context} {j n : ℕ}

theorem build_encodedBy {spec : Spec} {op : Operation} {r : Registry} {o : ChainOptions}
    (hbuild : Chain.build spec op r o = .ok c) (hvalue : Encoder.parse value = .ok e) :
    Chain.build ⟨spec.tokens ++ [⟨"rsp", value⟩]⟩ op r o = .ok (c.encodedBy value e) := by
  obtain ⟨hresolve, rfl, rfl⟩ := build_eq_ok_iff.mp hbuild
  obtain ⟨left, hall, hstrict⟩ := Resolver.resolve_eq_ok_iff.mp hresolve
  have htoken : Resolver.resolveToken r o ⟨"rsp", value⟩ = .ok (some (.rsp e)) := by
    simp only [Resolver.resolveToken, Resolver.tiers, List.map_cons, Resolver.firstClaim,
      Resolver.handlerTier, Resolver.builtinTier, hvalue]
    rfl
  have hlast : Resolver.resolveAll r o [⟨"rsp", value⟩] = .ok ([.rsp e], []) :=
    Resolver.resolveAll_cons_eq_ok_iff.mpr ⟨_, [], [], htoken, rfl, rfl, rfl⟩
  refine build_eq_ok_iff.mpr ⟨Resolver.resolve_eq_ok_iff.mpr ⟨left, ?_, hstrict⟩, rfl, rfl⟩
  have hboth := Resolver.resolveAll_append hall hlast
  rwa [List.append_nil] at hboth

theorem indexer_encodedBy (hnone : ∀ e, .rsp e ∉ c.stages) :
    (c.encodedBy value e).indexer = c.indexer.withEncoder e := by
  have hfirst : c.stages.findSome? Stage.encoder? = none := by
    rw [List.findSome?_eq_none_iff]
    intro stage hstage
    cases stage with
    | rsp e => exact absurd hstage (hnone e)
    | _ => rfl
  rw [indexer, indexer, Indexer.ofStages_eq, Indexer.ofStages_eq, encodedBy,
    List.findSome?_append, List.findSome?_append, hfirst]
  simp [Indexer.withEncoder, Stage.decoder?, Stage.encoder?]

theorem contextAt_encodedBy (hnone : ∀ e, .rsp e ∉ c.stages) (hignores : c.IgnoresEncoder)
    (hj : j ≤ c.length) :
    (c.encodedBy value e).contextAt now x j =
      (c.contextAt now x j).map (Context.withEncoder · e) := by
  have hruns : (c.encodedBy value e).runBefore now x j =
      (c.runBefore now x j).withEncoder e := by
    have hstart : Context.ofExchange x (c.encodedBy value e).indexer =
        (Context.ofExchange x c.indexer).withEncoder e := by
      rw [indexer_encodedBy hnone]
      rfl
    have htake : (c.encodedBy value e).stages.take j = c.stages.take j :=
      List.take_append_of_le_length hj
    rw [runBefore, runBefore, htake, hstart]
    exact runStages_withEncoder hignores.handler
      (fun provider hmem => hignores.providers provider (List.mem_of_mem_take hmem)) _ e
  rw [contextAt, contextAt, hruns]
  by_cases hflow : (c.runBefore now x j).flow = .proceed
  · simp [StagesRun.withEncoder, hflow]
  · simp [StagesRun.withEncoder, hflow]

theorem ComesTo.exists_contextAt (h : c.ComesTo now x n err)
    (hn : n ≤ c.stages.length) :
    ∃ ctx, c.contextAt now x n = some ctx ∧ ctx.result = some (.error err) := by
  obtain ⟨ctx, hctx⟩ := Option.isSome_iff_exists.mp ((isSome_contextAt_iff hn).mpr h.continues)
  exact ⟨ctx, hctx, (handled_of_contextAt hn hctx).unique h.handled⟩

theorem comesTo_of_contextAt (hn : n ≤ c.stages.length) (hctx : c.contextAt now x n = some ctx)
    (hresult : ctx.result = some (.error err)) : c.ComesTo now x n err :=
  ⟨(isSome_contextAt_iff hn).mp (by simp [hctx]), hresult ▸ handled_of_contextAt hn hctx⟩

/-! ## What is told of an error -/

theorem LeavesReply.run_response {stage : Stage} (hleaves : c.LeavesReply)
    (hstage : stage ∈ c.stages) : (stage.run c.operation now ctx).ctx.exchange.response =
      ctx.exchange.response := by
  cases stage with
  | req d =>
      rw [Stage.run, Stage.runReq]
      split <;> rfl
  | auth scheme =>
      rw [Stage.run, Stage.runAuth]
      split <;> rfl
  | handle =>
      rcases Stage.run_handle_cases with hsame | ⟨request, result, hcall⟩
      · rw [hsame]
      · rw [hcall]
        exact hleaves.response _ request
  | rsp encoder => exact absurd hstage (hleaves.encoders encoder)
  | wsHandle protocols => exact absurd hstage (hleaves.sessions protocols)
  | custom provider => exact hleaves.providers provider hstage ctx.view

/-- No stage writes a response, so the one that the exchange came with is there to the end. -/
theorem LeavesReply.response_of_contextAt (hleaves : c.LeavesReply)
    (hctx : c.contextAt now x c.length = some ctx) : ctx.exchange.response = x.response := by
  refine contextAt_induction (P := fun ctx => ctx.exchange.response = x.response) rfl ?_
    (Nat.le_refl _) hctx
  intro stage hstage before hbefore
  exact (hleaves.run_response hstage).trans hbefore

theorem LeavesReply.reply_of_comesTo (hleaves : c.LeavesReply)
    (h : c.ComesTo now x c.length err) :
    (c.run now x).reply = some (.response (x.response.getD err.bareResponse)) := by
  obtain ⟨ctx, hctx, hresult⟩ := h.exists_contextAt (Nat.le_refl _)
  rw [reply_of_contextAt_length hctx, finish_of_no_session hleaves.sessions, hresult,
    hleaves.response_of_contextAt hctx]
  rfl

theorem sessions_encodedBy (hnone : ∀ protocols, .wsHandle protocols ∉ c.stages)
    (protocols : List String) : .wsHandle protocols ∉ (c.encodedBy value e).stages := by
  simp [encodedBy, hnone]

/-- Where no session can be open, an encoder at the end has the last word. -/
theorem LeavesReply.reply_encodedBy_of_comesTo (hleaves : c.LeavesReply)
    (hwrapper : e.wrapper = .none) (h : (c.encodedBy value e).ComesTo now x c.length err) :
    ((c.encodedBy value e).run now x).reply = some (.response err.bareResponse) := by
  have hlength : (c.encodedBy value e).stages.length = c.length + 1 := by simp [length, encodedBy]
  have hlast : (c.encodedBy value e).stages[c.length]? = some (.rsp e) := by
    simp [encodedBy, length]
  have hsessions : ∀ protocols, .wsHandle protocols ∉ (c.encodedBy value e).stages :=
    sessions_encodedBy hleaves.sessions
  obtain ⟨ctx, hctx, hresult⟩ := h.exists_contextAt (by omega)
  have hkeeps : (c.encodedBy value e).operation.handler.KeepsSocket := hleaves.socket
  have hsocket : ctx.socket = none := socket_of_contextAt hkeeps hsessions (by omega) hctx
  have hrun : (Stage.rsp e).run (c.encodedBy value e).operation now ctx =
      .proceed (ctx.setResponse err.bareResponse) := by
    rw [Stage.run, Stage.runRsp, if_neg (by simp [hsocket]), hresult]
    simp only [Encoder.render_error_of_bare hwrapper]
  have hend : (c.encodedBy value e).contextAt now x (c.encodedBy value e).length =
      some (ctx.setResponse err.bareResponse) := by
    rw [length, hlength, contextAt_succ hlast, hctx, Option.bind_some, hrun]
    rfl
  rw [reply_of_contextAt_length hend, finish_of_no_session hsessions]
  rfl

theorem ComesTo.encodedBy (herr : c.ComesTo now x c.length err) (hnone : ∀ e, .rsp e ∉ c.stages)
    (hignores : c.IgnoresEncoder) : (c.encodedBy value e).ComesTo now x c.length err := by
  obtain ⟨ctx, hctx, hresult⟩ := herr.exists_contextAt (Nat.le_refl _)
  have hlength : c.length ≤ (c.encodedBy value e).stages.length := by
    simp [length, Chain.encodedBy]
  have hreached : (c.encodedBy value e).contextAt now x c.length = some (ctx.withEncoder e) := by
    rw [contextAt_encodedBy hnone hignores (Nat.le_refl _), hctx]
    rfl
  exact comesTo_of_contextAt hlength hreached hresult

/-- Any encoder that does not wrap errors tells them as the chain does without it. -/
theorem build_tellsAlike {spec : Spec} {op : Operation} {r : Registry} {o : ChainOptions}
    (hbuild : Chain.build spec op r o = .ok c) (hvalue : Encoder.parse value = .ok e)
    (hwrapper : e.wrapper = .none) (hleaves : c.LeavesReply)
    (herr : c.ComesTo now x c.length err) :
    Chain.build ⟨spec.tokens ++ [⟨"rsp", value⟩]⟩ op r o = .ok (c.encodedBy value e) ∧
      c.TellsAlike (c.encodedBy value e) now x err := by
  have hreply := hleaves.reply_of_comesTo herr
  have hencoded : ∀ {err'}, (c.encodedBy value e).ComesTo now x c.length err' →
      ((c.encodedBy value e).run now x).reply = some (.response err'.bareResponse) :=
    hleaves.reply_encodedBy_of_comesTo hwrapper
  have halike : x.response = none → (c.encodedBy value e).ComesTo now x c.length err →
      ((c.encodedBy value e).run now x).reply = (c.run now x).reply := by
    intro hfresh h
    rw [hencoded h, hreply, hfresh]
    rfl
  refine ⟨build_encodedBy hbuild hvalue, fun hfresh => ?_, fun brought hbrought => ?_,
    fun err' h => ⟨_, hencoded h, err'.tellsBare_bareResponse⟩, halike, fun hignores => ?_⟩
  · rw [hfresh] at hreply
    exact ⟨_, hreply, err.tellsBare_bareResponse⟩
  · rw [hreply, hbrought]
    rfl
  · have hsame : (c.encodedBy value e).ComesTo now x c.length err :=
      herr.encodedBy hleaves.encoders hignores
    exact ⟨hsame, fun hfresh => halike hfresh hsame⟩

def gone : ApiError := ⟨"Item.GONE", 7, "sold out", ⟨410⟩⟩

def held : ApiError := ⟨"Item.HELD", 8, "reserved", ⟨409⟩⟩

def faultByEncoder (ctx : Context) : ApiError := if ctx.indexer.rsp.isSome then held else gone

/-- A route whose handler always fails, with an error that may depend on the context. -/
def failingRoute (fault : Context → ApiError) : Chain :=
  ⟨.parse "req|handle", [.req ⟨true, false, false, 4⟩, .handle],
    ⟨.ofShapes .any .any .any, .ofResult fun ctx _ => .error (fault ctx)⟩⟩

theorem failingRoute_leavesReply (fault : Context → ApiError) :
    (failingRoute fault).LeavesReply := by
  refine ⟨?_, ?_, fun _ _ => rfl, fun _ _ => rfl, ?_⟩ <;> simp [failingRoute]

theorem failingRoute_ignoresEncoder : (failingRoute fun _ => gone).IgnoresEncoder := by
  refine ⟨fun _ _ _ => rfl, ?_⟩
  simp [failingRoute]

/-- A single error is told alike by an encoder for text. -/
theorem failingRoute_tellsAlike :
    Chain.build (.parse "req|handle") (failingRoute fun _ => gone).operation .empty ⟨true, 4⟩ =
        .ok (failingRoute fun _ => gone) ∧
      Encoder.parse "text@none" = .ok ⟨.text, .none⟩ ∧
      (failingRoute fun _ => gone).LeavesReply ∧
      (failingRoute fun _ => gone).ComesTo 0 .plainGet 2 gone ∧
      (failingRoute fun _ => gone).IgnoresEncoder ∧
      ∃ r, r.TellsBare gone ∧
        ((failingRoute fun _ => gone).run 0 .plainGet).reply = some (.response r) ∧
        (((failingRoute fun _ => gone).encodedBy "text@none" ⟨.text, .none⟩).run 0
          .plainGet).reply = some (.response r) := by
  have hbuild : Chain.build (.parse "req|handle") (failingRoute fun _ => gone).operation .empty
      ⟨true, 4⟩ = .ok (failingRoute fun _ => gone) := rfl
  have hvalue : Encoder.parse "text@none" = .ok ⟨.text, .none⟩ := rfl
  have hleaves := failingRoute_leavesReply fun _ => gone
  have herr : (failingRoute fun _ => gone).ComesTo 0 .plainGet 2 gone :=
    comesTo_of_contextAt (Nat.le_refl _) rfl rfl
  obtain ⟨-, htells⟩ := build_tellsAlike hbuild hvalue rfl hleaves herr
  obtain ⟨r, hreply, hbare⟩ := htells.bare rfl
  obtain ⟨-, hsame⟩ := htells.same failingRoute_ignoresEncoder
  exact ⟨hbuild, hvalue, hleaves, herr, failingRoute_ignoresEncoder, r, hbare, hreply,
    (hsame rfl).trans hreply⟩

/-- A handler that looks for the encoder fails with another error where there is one, and a response
that came with the request stands only where there is none. -/
theorem failingRoute_tells_otherwise :
    Chain.build (.parse "req|handle") (failingRoute faultByEncoder).operation .empty ⟨true, 4⟩ =
        .ok (failingRoute faultByEncoder) ∧
      Encoder.parse "text@none" = .ok ⟨.text, .none⟩ ∧
      (failingRoute faultByEncoder).LeavesReply ∧
      (failingRoute faultByEncoder).ComesTo 0 .plainGet 2 gone ∧
      (failingRoute fun _ => gone).ComesTo 0 answeredGet 2 gone ∧
      ((failingRoute faultByEncoder).run 0 .plainGet).reply ≠
        (((failingRoute faultByEncoder).encodedBy "text@none" ⟨.text, .none⟩).run 0
          .plainGet).reply ∧
      ((failingRoute fun _ => gone).run 0 answeredGet).reply ≠
        (((failingRoute fun _ => gone).encodedBy "text@none" ⟨.text, .none⟩).run 0
          answeredGet).reply := by
  refine ⟨rfl, rfl, failingRoute_leavesReply _, comesTo_of_contextAt (Nat.le_refl _) rfl rfl,
    comesTo_of_contextAt (Nat.le_refl _) rfl rfl, fun hsame => ?_, fun hsame => ?_⟩
  · have hstatus : some (Status.mk 410) = some (Status.mk 409) :=
      congrArg (Option.map Reply.status) hsame
    simp at hstatus
  · have hstatus : some (Status.mk 418) = some (Status.mk 410) :=
      congrArg (Option.map Reply.status) hsame
    simp at hstatus

end Chain

end Conduit
