import Conduit.Proofs.Notices
import Conduit.Proofs.Pipeline.HandlerGate
import Conduit.Proofs.Pipeline.Upgrade

/-! # What a chain replies

A chain of decoders, authenticators, handlers and encoders is answered by the first error that stops
it. If nothing stops it, the last encoder tells the result of the last handler before it. Without
any encoder a response that came with the exchange stands, and else only a handler's error is told.
-/

namespace Conduit

def Handler.KeepsResponse (handler : Handler) : Prop :=
  ∀ ctx request, (handler ctx request).1.exchange.response = ctx.exchange.response

theorem Encoder.encode_error {encoder : Encoder} {result : HandlerResult} {e : PipelineError}
    (h : encoder.encode result = .error e) : ∃ reason, e = .encode reason := by
  obtain ⟨media, wrapper⟩ := encoder
  cases result with
  | error err => cases wrapper <;> cases h
  | ok payload =>
      cases payload with
      | unencodable reason => cases wrapper <;> exact ⟨reason, (Except.error.inj h).symm⟩
      | value j =>
          cases wrapper with
          | general => cases h
          | none =>
              cases media with
              | json => cases h
              | html =>
                  cases j with
                  | str body => cases h
                  | _ => exact ⟨_, (Except.error.inj h).symm⟩
              | text =>
                  cases j with
                  | str body => cases h
                  | _ => exact ⟨_, (Except.error.inj h).symm⟩

theorem Encoder.render_error {encoder : Encoder} {result : HandlerResult} {e : PipelineError}
    (h : encoder.render result = .error e) : ∃ reason, e = .encode reason := by
  rw [render] at h
  cases hencode : encoder.encode result with
  | ok encoded =>
      rw [hencode] at h
      cases h
  | error fault =>
      rw [hencode] at h
      cases h
      exact encode_error hencode

namespace Stage

/-- Decoders, authenticators, handlers and encoders. -/
def IsPlain : Stage → Prop
  | req _ | auth _ | handle | rsp _ => True
  | wsHandle _ | custom _ => False

def isHandler : Stage → Bool
  | handle => true
  | _ => false

def isEncoder : Stage → Bool
  | rsp _ => true
  | _ => false

/-- What a plain stage can do where no session is open. -/
inductive PlainStep (op : Operation) (ctx : Context) : Stage → Step → Prop
  | decoded (d slot) : PlainStep op ctx (req d) (.proceed { ctx with request := some slot })
  | accepted (scheme identity) :
      PlainStep op ctx (auth scheme) (.proceed { ctx with auth := some identity })
  | rejected (scheme fault) : PlainStep op ctx (auth scheme) (.abort ctx (.auth fault))
  | unready : PlainStep op ctx handle (.abort ctx .missingRequest)
  | undecoded (e) : PlainStep op ctx handle (.abort ctx (.decode e))
  | returned (request after result)
      (hcall : op.handler { ctx with request := some ⟨none, none⟩ } request =
        (after, .returned result)) :
      PlainStep op ctx handle ⟨{ after with result := some result }, .proceed,
        [.handler request { ctx with request := some ⟨none, none⟩ }]⟩
  | pending (request after)
      (hcall : op.handler { ctx with request := some ⟨none, none⟩ } request = (after, .pending)) :
      PlainStep op ctx handle ⟨after, .stall,
        [.handler request { ctx with request := some ⟨none, none⟩ }]⟩
  | unhandled (encoder) : PlainStep op ctx (rsp encoder) (.abort ctx .missingHandle)
  | rendered (encoder result response) (hresult : ctx.result = some result)
      (hrender : encoder.render result = .ok response) :
      PlainStep op ctx (rsp encoder) (.proceed (ctx.setResponse response))
  | unencodable (encoder reason) : PlainStep op ctx (rsp encoder) (.abort ctx (.encode reason))

variable {op : Operation} {now : Int} {ctx : Context} {stage : Stage} {step : Step}

theorem run_plainStep (hplain : stage.IsPlain) (hsocket : ctx.socket = none) :
    PlainStep op ctx stage (stage.run op now ctx) := by
  cases stage with
  | req d =>
      rw [run, runReq]
      split
      · exact .decoded d _
      · exact .decoded d _
  | auth scheme =>
      rw [run, runAuth]
      split
      · exact .accepted scheme _
      · exact .rejected scheme _
  | handle =>
      simp only [run, runHandle]
      rcases ctx.request with _ | ⟨_ | request, _ | e⟩
      · exact .unready
      · exact .unready
      · exact .undecoded e
      · rcases hcall : op.handler { ctx with request := some ⟨none, none⟩ } request with
          ⟨after, result | _⟩
        · simpa only [hcall] using PlainStep.returned request after result hcall
        · simpa only [hcall] using PlainStep.pending request after hcall
      · exact .undecoded e
  | rsp encoder =>
      rw [run, runRsp, if_neg (by simp [hsocket])]
      cases hresult : ctx.result with
      | none => exact .unhandled encoder
      | some result =>
          simp only
          cases hrender : encoder.render result with
          | ok response => exact .rendered encoder result response hresult hrender
          | error e =>
              obtain ⟨reason, rfl⟩ := Encoder.render_error hrender
              exact .unencodable encoder reason
  | wsHandle protocols => exact hplain.elim
  | custom provider => exact hplain.elim

theorem run_handle_of_proceed (hflow : (handle.run op now ctx).flow = .proceed) :
    ∃ request seen result, (handle.run op now ctx).calls = [.handler request seen] ∧
      (op.handler seen request).2 = .returned result ∧
      (handle.run op now ctx).ctx.result = some result := by
  cases hdue : ctx.dueRequest with
  | error e =>
      rw [run_handle_of_error hdue] at hflow
      cases hflow
  | ok request =>
      refine ⟨request, { ctx with request := some ⟨none, none⟩ }, ?_⟩
      rw [run_handle_calls hdue]
      rw [run, runHandle, Context.request_of_dueRequest hdue] at hflow ⊢
      rcases hcall : op.handler { ctx with request := some ⟨none, none⟩ } request with
        ⟨after, result | _⟩
      · exact ⟨result, rfl, rfl, by simp only [hcall]⟩
      · simp only [hcall] at hflow
        cases hflow

theorem run_rsp_of_proceed {encoder : Encoder} (hsocket : ctx.socket = none)
    (hflow : ((rsp encoder).run op now ctx).flow = .proceed) :
    ∃ result response, ctx.result = some result ∧ encoder.render result = .ok response ∧
      ((rsp encoder).run op now ctx).ctx = ctx.setResponse response := by
  have hstep : PlainStep op ctx (rsp encoder) ((rsp encoder).run op now ctx) :=
    run_plainStep trivial hsocket
  generalize (rsp encoder).run op now ctx = step at hflow hstep ⊢
  cases hstep with
  | rendered _ result response hresult hrender => exact ⟨result, response, hresult, hrender, rfl⟩
  | unhandled => cases hflow
  | unencodable => cases hflow

theorem PlainStep.exists_toldAs {e : PipelineError} (h : PlainStep op ctx stage step)
    (hflow : step.flow = .abort e) : ∃ notice, e.ToldAs notice := by
  cases h with
  | rejected scheme fault =>
      cases hflow
      exact ⟨_, .rejected fault⟩
  | unready =>
      cases hflow
      exact ⟨_, .unready⟩
  | undecoded cause =>
      cases hflow
      cases cause with
      | missing source what => exact ⟨_, .missing source what⟩
      | undecodable source reason => exact ⟨_, .undecodable source reason⟩
      | tooLarge limit size => exact ⟨_, .tooLarge limit size⟩
  | unhandled encoder =>
      cases hflow
      exact ⟨_, .unhandled⟩
  | unencodable encoder reason =>
      cases hflow
      exact ⟨_, .unencodable reason⟩
  | _ => cases hflow

end Stage

namespace Chain

variable (c : Chain) (now : Int) (x : Exchange)

/-- The last stage of a kind before `j` is this one, at `i`. -/
structure LastBefore (kind : Stage → Bool) (i j : ℕ) (stage : Stage) : Prop where
  lt : i < j
  getElem : c.stages[i]? = some stage
  isKind : kind stage = true
  last : ∀ m, i < m → m < j → ∀ other, c.stages[m]? = some other → kind other = false

def NoneBefore (kind : Stage → Bool) (j : ℕ) : Prop :=
  ∀ i < j, ∀ stage, c.stages[i]? = some stage → kind stage = false

/-- The handler at a position is called and returns this. -/
def ReturnsAt (i : ℕ) (result : HandlerResult) : Prop :=
  ∃ request seen, c.callsAt now x i = [.handler request seen] ∧
    (c.operation.handler seen request).2 = .returned result

/-- The result that the stages before a position leave: that of the last handler. -/
inductive Handled (j : ℕ) : Option HandlerResult → Prop
  | returned {i result} (hlast : c.LastBefore Stage.isHandler i j .handle)
      (hreturns : c.ReturnsAt now x i result) : Handled j (some result)
  | unhandled (hnone : c.NoneBefore Stage.isHandler j) : Handled j none

/-- The response that the stages before a position leave: what the last encoder makes of the result
before it, or what the exchange had brought. -/
inductive Written (j : ℕ) : Option Response → Prop
  | rendered {i encoder result response}
      (hlast : c.LastBefore Stage.isEncoder i j (.rsp encoder))
      (hhandled : c.Handled now x i (some result))
      (hrender : encoder.render result = .ok response) : Written j (some response)
  | unwritten (hnone : c.NoneBefore Stage.isEncoder j) : Written j x.response

variable {c now x} {kind : Stage → Bool} {i j : ℕ} {stage other : Stage} {ctx : Context}

theorem LastBefore.succ (h : c.LastBefore kind i j stage) (hj : c.stages[j]? = some other)
    (hkind : kind other = false) : c.LastBefore kind i (j + 1) stage := by
  refine ⟨Nat.lt_succ_of_lt h.lt, h.getElem, h.isKind, fun m him hmj s hs => ?_⟩
  rcases Nat.lt_succ_iff_lt_or_eq.mp hmj with hlt | rfl
  · exact h.last m him hlt s hs
  · rw [hj, Option.some.injEq] at hs
    exact hs ▸ hkind

theorem lastBefore_succ (hj : c.stages[j]? = some stage) (hkind : kind stage = true) :
    c.LastBefore kind j (j + 1) stage :=
  ⟨Nat.lt_succ_self j, hj, hkind, fun m hjm hmj => absurd hmj (by omega)⟩

theorem NoneBefore.succ (h : c.NoneBefore kind j) (hj : c.stages[j]? = some other)
    (hkind : kind other = false) : c.NoneBefore kind (j + 1) := by
  intro i hi s hs
  rcases Nat.lt_succ_iff_lt_or_eq.mp hi with hlt | rfl
  · exact h i hlt s hs
  · rw [hj, Option.some.injEq] at hs
    exact hs ▸ hkind

theorem LastBefore.unique {i' : ℕ} {stage' : Stage} (h : c.LastBefore kind i j stage)
    (h' : c.LastBefore kind i' j stage') : i = i' ∧ stage = stage' := by
  have hi : i = i' := by
    rcases Nat.lt_trichotomy i i' with hlt | heq | hgt
    · exact absurd h'.isKind (by simp [h.last i' hlt h'.lt stage' h'.getElem])
    · exact heq
    · exact absurd h.isKind (by simp [h'.last i hgt h.lt stage h.getElem])
  subst hi
  exact ⟨rfl, Option.some.inj (h.getElem.symm.trans h'.getElem)⟩

theorem ReturnsAt.unique {result result' : HandlerResult} (h : c.ReturnsAt now x i result)
    (h' : c.ReturnsAt now x i result') : result = result' := by
  obtain ⟨request, seen, hcalls, hresult⟩ := h
  obtain ⟨request', seen', hcalls', hresult'⟩ := h'
  rw [hcalls] at hcalls'
  cases hcalls'
  rw [hresult] at hresult'
  exact Handling.returned.inj hresult'

/-! ## What the stages before a position leave -/

theorem Handled.succ {result : Option HandlerResult} (h : c.Handled now x j result)
    (hj : c.stages[j]? = some other) (hkind : other.isHandler = false) :
    c.Handled now x (j + 1) result := by
  cases h with
  | returned hlast hreturns => exact .returned (hlast.succ hj hkind) hreturns
  | unhandled hnone => exact .unhandled (hnone.succ hj hkind)

theorem handled_of_contextAt (hj : j ≤ c.stages.length) (hctx : c.contextAt now x j = some ctx) :
    c.Handled now x j ctx.result := by
  induction j generalizing ctx with
  | zero =>
      rw [contextAt_zero, Option.some.injEq] at hctx
      subst hctx
      exact .unhandled (by simp [NoneBefore])
  | succ j ih =>
      have hstage : c.stages[j]? = some c.stages[j] := List.getElem?_eq_getElem hj
      obtain ⟨before, hbefore, hflow, rfl⟩ := contextAt_of_contextAt_succ hstage hctx
      -- Only a handler changes the result.
      by_cases hhandle : c.stages[j] = .handle
      · rw [hhandle] at hstage hflow ⊢
        obtain ⟨request, seen, result, hcalls, hreturned, hresult⟩ :=
          Stage.run_handle_of_proceed hflow
        rw [hresult]
        refine .returned (lastBefore_succ hstage rfl) ⟨request, seen, ?_, hreturned⟩
        rw [callsAt_eq hbefore hstage, hcalls]
      · rw [(Stage.run_frame hhandle).result]
        refine (ih (Nat.le_of_succ_le hj) hbefore).succ hstage ?_
        cases hkind : c.stages[j] with
        | handle => exact absurd hkind hhandle
        | _ => rfl

theorem Written.succ {response : Option Response} (h : c.Written now x j response)
    (hj : c.stages[j]? = some other) (hkind : other.isEncoder = false) :
    c.Written now x (j + 1) response := by
  cases h with
  | rendered hlast hhandled hrender => exact .rendered (hlast.succ hj hkind) hhandled hrender
  | unwritten hnone => exact .unwritten (hnone.succ hj hkind)

variable (c now x)

/-- The slots of a context are as the stages before a position leave them. -/
structure Settled (j : ℕ) (ctx : Context) : Prop where
  socket : ctx.socket = none
  result : c.Handled now x j ctx.result
  response : c.Written now x j ctx.exchange.response

/-- The chain has plain stages only, and its handler leaves the reply to them. -/
structure Plain : Prop where
  stages : ∀ stage ∈ c.stages, stage.IsPlain
  response : c.operation.handler.KeepsResponse
  socket : c.operation.handler.KeepsSocket

variable {c now x}

/-- A stage that lets the request go on settles the response for the next position, and opens no
session. -/
theorem Settled.step {step : Step} (hplain : c.Plain) (h : c.Settled now x j ctx)
    (hstage : c.stages[j]? = some stage) (hstep : stage.PlainStep c.operation ctx step)
    (hflow : step.flow = .proceed) :
    step.ctx.socket = none ∧ c.Written now x (j + 1) step.ctx.exchange.response := by
  obtain ⟨hsocket, hresult, hresponse⟩ := h
  cases hstep with
  | decoded d slot => exact ⟨hsocket, hresponse.succ hstage rfl⟩
  | accepted scheme identity => exact ⟨hsocket, hresponse.succ hstage rfl⟩
  | returned request after result hcall =>
      have hsocketKept := hplain.socket { ctx with request := some ⟨none, none⟩ } request
      have hresponseKept := hplain.response { ctx with request := some ⟨none, none⟩ } request
      rw [hcall] at hsocketKept hresponseKept
      exact ⟨hsocketKept.trans hsocket, hresponseKept ▸ hresponse.succ hstage rfl⟩
  | rendered encoder result response hfound hrender =>
      exact ⟨hsocket, .rendered (lastBefore_succ hstage rfl) (hfound ▸ hresult) hrender⟩
  | _ => cases hflow

theorem plainStep_of_settled (hplain : c.Plain) (h : c.Settled now x j ctx)
    (hstage : c.stages[j]? = some stage) :
    stage.PlainStep c.operation ctx (stage.run c.operation now ctx) :=
  Stage.run_plainStep (hplain.stages stage (List.mem_of_getElem? hstage)) h.socket

theorem settled_of_contextAt (hplain : c.Plain) (hj : j ≤ c.stages.length)
    (hctx : c.contextAt now x j = some ctx) : c.Settled now x j ctx := by
  induction j generalizing ctx with
  | zero =>
      rw [contextAt_zero, Option.some.injEq] at hctx
      subst hctx
      exact ⟨rfl, .unhandled (by simp [NoneBefore]), .unwritten (by simp [NoneBefore])⟩
  | succ j ih =>
      have hstage : c.stages[j]? = some c.stages[j] := List.getElem?_eq_getElem hj
      obtain ⟨before, hbefore, hflow, rfl⟩ := contextAt_of_contextAt_succ hstage hctx
      have hsettled := ih (Nat.le_of_succ_le hj) hbefore
      obtain ⟨hsocket, hresponse⟩ := hsettled.step hplain hstage
        (plainStep_of_settled hplain hsettled hstage) hflow
      exact ⟨hsocket, handled_of_contextAt hj hctx, hresponse⟩

theorem plainStep_of_stepAt {step : Step} (hplain : c.Plain)
    (hstep : c.stepAt now x j = some step) :
    ∃ ctx stage, c.callsAt now x j = step.calls ∧ Stage.PlainStep c.operation ctx stage step := by
  obtain ⟨ctx, stage, hctx, hstage, rfl⟩ := stage_of_stepAt hstep
  have hj : j < c.stages.length := (List.getElem?_eq_some_iff.mp hstage).1
  have hsettled := settled_of_contextAt hplain (Nat.le_of_lt hj) hctx
  exact ⟨ctx, stage, callsAt_eq hctx hstage, plainStep_of_settled hplain hsettled hstage⟩

/-! ## How a run ends -/

variable (c now x)

def Aborts : Prop := ∃ j step e, c.stepAt now x j = some step ∧ step.flow = .abort e

/-- A call of the handler never returns. -/
def Hangs : Prop :=
  ∃ j request seen, c.callsAt now x j = [.handler request seen] ∧
    (c.operation.handler seen request).2 = .pending

def Stalls : Prop := ∃ j step, c.stepAt now x j = some step ∧ step.flow = .stall

/-- How the reply to a request is determined. -/
structure ReplyDetermined : Prop where
  /-- There is a reply unless the handler never returns. -/
  pending : (c.run now x).reply = none ↔ c.Hangs now x
  /-- The first error that stops a stage is told under the request's id, and nothing else. -/
  aborted : ∀ j step e, c.stepAt now x j = some step → step.flow = .abort e →
    (∀ i < j, c.ContinuesAt now x i) ∧
    ∃ notice r, e.ToldAs notice ∧ (c.run now x).reply = some (.response r) ∧
      r.Tells notice x.requestId ∧ 400 ≤ r.status.code ∧ r.status.code < 600
  /-- Else the last encoder tells the result of the last handler before it. -/
  encoded : ¬ c.Aborts now x → ¬ c.Hangs now x → ∀ j encoder,
    c.LastBefore Stage.isEncoder j c.length (.rsp encoder) →
    ∃ i result response, c.LastBefore Stage.isHandler i j .handle ∧ c.ReturnsAt now x i result ∧
      encoder.render result = .ok response ∧ encoder.Renders result response ∧
      (c.run now x).reply = some (.response response)
  /-- Without an encoder a response that came with the exchange stands. -/
  brought : ¬ c.Aborts now x → ¬ c.Hangs now x → c.NoneBefore Stage.isEncoder c.length →
    ∀ response, x.response = some response → (c.run now x).reply = some (.response response)
  /-- If none came, the last handler's error is told bare. -/
  failed : ¬ c.Aborts now x → ¬ c.Hangs now x → c.NoneBefore Stage.isEncoder c.length →
    x.response = none → ∀ i err, c.LastBefore Stage.isHandler i c.length .handle →
      c.ReturnsAt now x i (.error err) →
      ∃ r, (c.run now x).reply = some (.response r) ∧ r.TellsBare err
  /-- There is nothing to tell of a success, or if no handler ran. -/
  succeeded : ¬ c.Aborts now x → ¬ c.Hangs now x → c.NoneBefore Stage.isEncoder c.length →
    x.response = none → (∀ i err, c.LastBefore Stage.isHandler i c.length .handle →
      ¬ c.ReturnsAt now x i (.error err)) →
    (c.run now x).reply = some (.response ⟨⟨200⟩, ⟨[]⟩, []⟩)

variable {c now x}

theorem exists_contextAt_length_iff :
    (∃ ctx, c.contextAt now x c.length = some ctx) ↔ ¬ c.Aborts now x ∧ ¬ c.Stalls now x := by
  have hend : (∃ ctx, c.contextAt now x c.length = some ctx) ∨
      ∃ j step, c.stepAt now x j = some step ∧ step.flow ≠ .proceed :=
    reached_or_stopped (Nat.le_refl _)
  constructor
  · rintro ⟨ctx, hctx⟩
    have hgoesOn : ∀ j step, c.stepAt now x j = some step → step.flow = .proceed := by
      intro j step hstep
      by_contra hflow
      obtain ⟨_, stage, -, hstage, -⟩ := stage_of_stepAt hstep
      have hj : j < c.length := (List.getElem?_eq_some_iff.mp hstage).1
      rw [(runBefore_of_stop hstep hflow hj).2] at hctx
      cases hctx
    refine ⟨?_, ?_⟩
    · rintro ⟨j, step, e, hstep, hstop⟩
      cases (hgoesOn j step hstep).symm.trans hstop
    · rintro ⟨j, step, hstep, hstop⟩
      cases (hgoesOn j step hstep).symm.trans hstop
  · rintro ⟨haborts, hstalls⟩
    refine hend.resolve_right ?_
    rintro ⟨j, step, hstep, hflow⟩
    cases hstop : step.flow with
    | proceed => exact hflow hstop
    | abort e => exact haborts ⟨j, step, e, hstep, hstop⟩
    | stall => exact hstalls ⟨j, step, hstep, hstop⟩

/-- In a plain chain nothing but a call of the handler can keep a stage from ending. -/
theorem stalls_iff_hangs (hplain : c.Plain) : c.Stalls now x ↔ c.Hangs now x := by
  constructor
  · rintro ⟨j, step, hstep, hflow⟩
    obtain ⟨ctx, stage, hcalls, hplainStep⟩ := plainStep_of_stepAt hplain hstep
    cases hplainStep with
    | pending request after hcall => exact ⟨j, request, _, hcalls, by rw [hcall]⟩
    | _ => cases hflow
  · rintro ⟨j, request, seen, hcalls, hpending⟩
    cases hstep : c.stepAt now x j with
    | none => simp [callsAt, hstep] at hcalls
    | some step =>
        refine ⟨j, step, hstep, ?_⟩
        obtain ⟨ctx, stage, hcalls', hplainStep⟩ := plainStep_of_stepAt hplain hstep
        rw [hcalls'] at hcalls
        cases hplainStep with
        | returned request after result hcall =>
            cases hcalls
            rw [hcall] at hpending
            cases hpending
        | pending request after hcall => rfl
        | _ => cases hcalls

theorem exists_settled (hplain : c.Plain) (haborts : ¬ c.Aborts now x)
    (hhangs : ¬ c.Hangs now x) : ∃ ctx, c.Settled now x c.length ctx ∧
      (c.run now x).reply = some (c.finish ctx) := by
  rw [← stalls_iff_hangs hplain] at hhangs
  obtain ⟨ctx, hctx⟩ := exists_contextAt_length_iff.mpr ⟨haborts, hhangs⟩
  exact ⟨ctx, settled_of_contextAt hplain (Nat.le_refl _) hctx, reply_of_contextAt_length hctx⟩

theorem reply_eq_none_iff (hplain : c.Plain) : (c.run now x).reply = none ↔ c.Hangs now x := by
  constructor
  · intro hnone
    by_contra hhangs
    by_cases haborts : c.Aborts now x
    · obtain ⟨j, step, e, hstep, hflow⟩ := haborts
      rw [reply_of_abort hstep hflow] at hnone
      cases hnone
    · obtain ⟨ctx, -, hreply⟩ := exists_settled hplain haborts hhangs
      rw [hreply] at hnone
      cases hnone
  · intro hhangs
    obtain ⟨j, step, hstep, hflow⟩ := (stalls_iff_hangs hplain).mpr hhangs
    exact reply_of_stall hstep hflow

/-- What is told of a result that no encoder has rendered. -/
def unencoded : Option HandlerResult → Response
  | some (.error err) => err.bareResponse
  | _ => .empty .ok

theorem finish_of_no_session (hnone : ∀ protocols, .wsHandle protocols ∉ c.stages) (ctx : Context) :
    c.finish ctx = .response (ctx.exchange.response.getD (unencoded ctx.result)) := by
  have hupgrades : c.upgrades = false := by
    rw [upgrades, List.any_eq_false]
    intro stage hstage
    cases stage with
    | wsHandle protocols => exact absurd hstage (hnone protocols)
    | _ => simp
  simp only [finish, Exchange.takeResponse, hupgrades, Bool.and_false, Bool.false_eq_true, if_false]
  cases ctx.exchange.response with
  | some response => rfl
  | none =>
      rcases ctx.result with _ | _ | payload
      · rfl
      · rfl
      · rfl

theorem finish_of_plain (hplain : c.Plain) (ctx : Context) :
    c.finish ctx = .response (ctx.exchange.response.getD (unencoded ctx.result)) :=
  finish_of_no_session (fun _ hmem => hplain.stages _ hmem) ctx

theorem NoneBefore.not_lastBefore (hnone : c.NoneBefore kind j) :
    ¬ c.LastBefore kind i j stage := by
  intro hlast
  have hkind := hnone i hlast.lt stage hlast.getElem
  rw [hlast.isKind] at hkind
  cases hkind

theorem NoneBefore.written {response : Option Response} (hnone : c.NoneBefore Stage.isEncoder j)
    (h : c.Written now x j response) : response = x.response := by
  cases h with
  | rendered hlast hhandled hrender => exact absurd hlast hnone.not_lastBefore
  | unwritten hnone => rfl

theorem Handled.eq_of_lastBefore {held : Option HandlerResult} {result : HandlerResult}
    (h : c.Handled now x j held) (hlast : c.LastBefore Stage.isHandler i j .handle)
    (hreturns : c.ReturnsAt now x i result) : held = some result := by
  cases h with
  | returned hlast' hreturns' =>
      obtain ⟨rfl, -⟩ := hlast.unique hlast'
      rw [hreturns.unique hreturns']
  | unhandled hnone => exact absurd hlast hnone.not_lastBefore

theorem Handled.unique {held held' : Option HandlerResult} (h : c.Handled now x j held)
    (h' : c.Handled now x j held') : held = held' := by
  cases h' with
  | returned hlast hreturns => exact h.eq_of_lastBefore hlast hreturns
  | unhandled hnone =>
      cases h with
      | returned hlast => exact absurd hlast hnone.not_lastBefore
      | unhandled => rfl

theorem reply_of_encoder {encoder : Encoder} (hplain : c.Plain) (haborts : ¬ c.Aborts now x)
    (hhangs : ¬ c.Hangs now x) (hlast : c.LastBefore Stage.isEncoder j c.length (.rsp encoder)) :
    ∃ i result response, c.LastBefore Stage.isHandler i j .handle ∧ c.ReturnsAt now x i result ∧
      encoder.render result = .ok response ∧
      (c.run now x).reply = some (.response response) := by
  obtain ⟨ctx, hsettled, hreply⟩ := exists_settled hplain haborts hhangs
  rw [finish_of_plain hplain] at hreply
  have hwritten := hsettled.response
  generalize ctx.exchange.response = written at hreply hwritten
  cases hwritten with
  | rendered hlast' hhandled hrender =>
      obtain ⟨rfl, hstage⟩ := hlast.unique hlast'
      obtain rfl := Stage.rsp.inj hstage
      cases hhandled with
      | returned hhandler hreturns => exact ⟨_, _, _, hhandler, hreturns, hrender, hreply⟩
  | unwritten hnone => exact absurd hlast hnone.not_lastBefore

theorem reply_of_no_encoder (hplain : c.Plain) (haborts : ¬ c.Aborts now x)
    (hhangs : ¬ c.Hangs now x) (hnone : c.NoneBefore Stage.isEncoder c.length) :
    ∃ result, c.Handled now x c.length result ∧
      (c.run now x).reply = some (.response (x.response.getD (unencoded result))) := by
  obtain ⟨ctx, hsettled, hreply⟩ := exists_settled hplain haborts hhangs
  rw [finish_of_plain hplain, hnone.written hsettled.response] at hreply
  exact ⟨ctx.result, hsettled.result, hreply⟩

/-- The reply of a plain chain is determined by its stages, what its handler returns, and the
response that the exchange came with. -/
theorem replyDetermined (hplain : c.Plain) : c.ReplyDetermined now x := by
  refine ⟨reply_eq_none_iff hplain, ?_, ?_, ?_, ?_, ?_⟩
  · intro j step e hstep hflow
    obtain ⟨ctx, stage, -, hplainStep⟩ := plainStep_of_stepAt hplain hstep
    obtain ⟨notice, htold⟩ := hplainStep.exists_toldAs hflow
    have htells := htold.tells_response x.requestId
    refine ⟨fun i hi => continuesAt_of_stepAt hstep hi, notice, _, htold,
      reply_of_abort hstep hflow, htells, ?_⟩
    rw [htells.status_code]
    exact htold.status_mem
  · intro haborts hhangs j encoder hlast
    obtain ⟨i, result, response, hhandler, hreturns, hrender, hreply⟩ :=
      reply_of_encoder hplain haborts hhangs hlast
    exact ⟨i, result, response, hhandler, hreturns, hrender, Encoder.renders_of_render hrender,
      hreply⟩
  · intro haborts hhangs hnone response hresponse
    obtain ⟨result, -, hreply⟩ := reply_of_no_encoder hplain haborts hhangs hnone
    rw [hreply, hresponse]
    rfl
  · intro haborts hhangs hnone hfresh i err hlast hreturns
    obtain ⟨result, hhandled, hreply⟩ := reply_of_no_encoder hplain haborts hhangs hnone
    obtain rfl := hhandled.eq_of_lastBefore hlast hreturns
    rw [hfresh] at hreply
    exact ⟨_, hreply, err.tellsBare_bareResponse⟩
  · intro haborts hhangs hnone hfresh hsuccess
    obtain ⟨result, hhandled, hreply⟩ := reply_of_no_encoder hplain haborts hhangs hnone
    rw [hreply, hfresh]
    cases hhandled with
    | @returned i result hlast hreturns =>
        cases result with
        | error err => exact absurd hreturns (hsuccess i err hlast)
        | ok payload => rfl
    | unhandled hnone => rfl

/-- A route that encodes before it handles. -/
def hastyEncoder : Chain :=
  ⟨.empty, [.rsp .plainJson, .req ⟨false, false, false, 0⟩, .handle],
    ⟨.ofShapes .any .any .any, .ofResult fun _ _ => .ok (.value .null)⟩⟩

/-- It tells that there is no result yet, not the handler's success. -/
theorem hastyEncoder_replyDetermined :
    hastyEncoder.Plain ∧ hastyEncoder.ReplyDetermined 0 .plainGet ∧
      ∃ r, (hastyEncoder.run 0 .plainGet).reply = some (.response r) ∧
        r.Tells ⟨500, "internal", "MISSING_STAGE", "handle stage missing"⟩
          Exchange.plainGet.requestId := by
  have hplain : hastyEncoder.Plain := by
    refine ⟨?_, fun _ _ => rfl, fun _ _ => rfl⟩
    simp [hastyEncoder, Stage.IsPlain]
  have hdetermined : hastyEncoder.ReplyDetermined 0 .plainGet := replyDetermined hplain
  obtain ⟨-, notice, r, htold, hreply, htells, -⟩ :=
    hdetermined.aborted 0 _ .missingHandle rfl rfl
  obtain ⟨-, rfl⟩ := htold.eq
  exact ⟨hplain, hdetermined, r, hreply, htells⟩

def silentRoute : Chain :=
  ⟨.empty, [.req ⟨true, false, false, 4⟩, .handle],
    ⟨.ofShapes .any .any .any, .ofResult fun _ _ => .ok (.value .null)⟩⟩

/-- A request that comes with a response. -/
def answeredGet : Exchange := { Exchange.plainGet with response := some ⟨⟨418⟩, ⟨[]⟩, []⟩ }

/-- The response that it came with is its reply, not the empty one for a success. -/
theorem silentRoute_replies_as_answered :
    silentRoute.Plain ∧ ¬ silentRoute.Aborts 0 answeredGet ∧ ¬ silentRoute.Hangs 0 answeredGet ∧
      silentRoute.NoneBefore Stage.isEncoder silentRoute.length ∧
      silentRoute.LastBefore Stage.isHandler 1 silentRoute.length .handle ∧
      silentRoute.ReturnsAt 0 answeredGet 1 (.ok (.value .null)) ∧
      (silentRoute.run 0 answeredGet).reply = some (.response ⟨⟨418⟩, ⟨[]⟩, []⟩) ∧
      (silentRoute.run 0 answeredGet).reply ≠ some (.response ⟨⟨200⟩, ⟨[]⟩, []⟩) := by
  have hplain : silentRoute.Plain := by
    refine ⟨?_, fun _ _ => rfl, fun _ _ => rfl⟩
    simp [silentRoute, Stage.IsPlain]
  obtain ⟨haborts, hstalls⟩ :=
    exists_contextAt_length_iff.mp ⟨_, (rfl : silentRoute.contextAt 0 answeredGet 2 = some _)⟩
  have hnone : silentRoute.NoneBefore Stage.isEncoder silentRoute.length := by
    intro i _ stage hstage
    have hmem : stage = .req ⟨true, false, false, 4⟩ ∨ stage = .handle := by
      simpa [silentRoute] using List.mem_of_getElem? hstage
    rcases hmem with rfl | rfl <;> rfl
  have hlast : silentRoute.LastBefore Stage.isHandler 1 silentRoute.length .handle :=
    lastBefore_succ rfl rfl
  have hreply : (silentRoute.run 0 answeredGet).reply = some (.response ⟨⟨418⟩, ⟨[]⟩, []⟩) := rfl
  refine ⟨hplain, haborts, (stalls_iff_hangs hplain).not.mp hstalls, hnone, hlast,
    ⟨_, _, rfl, rfl⟩, hreply, ?_⟩
  rw [hreply]
  simp

end Chain

end Conduit
