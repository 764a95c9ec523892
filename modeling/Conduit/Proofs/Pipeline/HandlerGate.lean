import Conduit.Proofs.Pipeline.Positions
import Conduit.Proofs.Pipeline.Stages

/-! # The handler's gate

A decoder leaves a request in its slot or the reason why there is none; a handler takes the request
out. So a handler is called exactly if the last decoder before it succeeded and no handler has taken
its request since. -/

namespace Conduit

def Handler.KeepsRequest (handler : Handler) : Prop :=
  ∀ ctx request, (handler ctx request).1.request = ctx.request

/-- What a handler finds: a request that is still there, or the error to report. -/
def Context.dueRequest (ctx : Context) : Except PipelineError Request :=
  match ctx.request with
  | none => .error .missingRequest
  | some ⟨_, some e⟩ => .error (.decode e)
  | some ⟨none, none⟩ => .error .missingRequest
  | some ⟨some request, none⟩ => .ok request

theorem Context.request_of_dueRequest {ctx : Context} {request : Request}
    (h : ctx.dueRequest = .ok request) : ctx.request = some ⟨some request, none⟩ := by
  unfold dueRequest at h
  rcases hslot : ctx.request with _ | ⟨_ | request, _ | e⟩ <;> simp_all

/-! ## What stages do to the request's slot -/

namespace Stage

variable {op : Operation} {now : Int} {ctx : Context} {request : Request}

theorem run_handle_of_error {e : PipelineError} (h : ctx.dueRequest = .error e) :
    handle.run op now ctx = .abort ctx e := by
  unfold Context.dueRequest at h
  rw [run, runHandle]
  rcases hslot : ctx.request with _ | ⟨_ | request, _ | e'⟩ <;> simp_all

theorem run_handle_calls (h : ctx.dueRequest = .ok request) :
    (handle.run op now ctx).calls =
      [.handler request { ctx with request := some ⟨none, none⟩ }] := by
  rw [run, runHandle, Context.request_of_dueRequest h]
  rcases hcall : op.handler { ctx with request := some ⟨none, none⟩ } request with
    ⟨after, result | _⟩ <;> simp only [hcall]

theorem run_handle_dueRequest (hkeeps : op.handler.KeepsRequest)
    (h : ctx.dueRequest = .ok request) :
    (handle.run op now ctx).ctx.dueRequest = .error .missingRequest := by
  have hslot : (handle.run op now ctx).ctx.request = some ⟨none, none⟩ := by
    have hkept := hkeeps { ctx with request := some ⟨none, none⟩ } request
    rw [run, runHandle, Context.request_of_dueRequest h]
    rcases hcall : op.handler { ctx with request := some ⟨none, none⟩ } request with
      ⟨after, result | _⟩ <;> rw [hcall] at hkept <;> simpa only [hcall] using hkept
  rw [Context.dueRequest, hslot]

theorem run_req_dueRequest (d : Decoder) :
    ((req d).run op now ctx).ctx.dueRequest =
      (d.decode op.contract ctx.exchange).mapError .decode := by
  rw [run, runReq]
  cases d.decode op.contract ctx.exchange <;> rfl

theorem run_dueRequest_of_ne {stage : Stage} (hreq : ∀ d, stage ≠ req d)
    (hhandle : stage ≠ handle) :
    (stage.run op now ctx).ctx.dueRequest = ctx.dueRequest := by
  rw [Context.dueRequest, Context.dueRequest, (run_frame hhandle).request hreq]

end Stage

/-! ## What the stages before a position leave in the slot -/

namespace Chain

variable (c : Chain) (now : Int) (x : Exchange)

structure LastDecoder (i j : ℕ) (d : Decoder) : Prop where
  lt : i < j
  stage : c.stages[i]? = some (.req d)
  last : ∀ m, i < m → m < j → ∀ d', c.stages[m]? ≠ some (.req d')

/-- The decoder at `i`, in the context that it runs in, comes to this. -/
def DecodesTo (i : ℕ) (d : Decoder) (result : Except ExtractionError Request) : Prop :=
  ∃ ctx, c.contextAt now x i = some ctx ∧ d.decode c.operation.contract ctx.exchange = result

def HandlerBetween (i j : ℕ) : Prop :=
  ∃ m, i < m ∧ m < j ∧ c.stages[m]? = some .handle

/-- What a handler at a position has to go by: the request that is for it, or why there is none. -/
inductive Gate (j : ℕ) : Except PipelineError Request → Prop
  | admits {i d request} (hlast : c.LastDecoder i j d)
      (hdecodes : c.DecodesTo now x i d (.ok request)) (huntaken : ¬ c.HandlerBetween i j) :
      Gate j (.ok request)
  | undecoded {i d e} (hlast : c.LastDecoder i j d) (hdecodes : c.DecodesTo now x i d (.error e)) :
      Gate j (.error (.decode e))
  | taken {i d request} (hlast : c.LastDecoder i j d)
      (hdecodes : c.DecodesTo now x i d (.ok request)) (htaken : c.HandlerBetween i j) :
      Gate j (.error .missingRequest)
  | missing (hnone : ∀ i < j, ∀ d, c.stages[i]? ≠ some (.req d)) :
      Gate j (.error .missingRequest)

variable {c now x} {i i' j : ℕ} {d d' : Decoder} {ctx : Context}

theorem LastDecoder.unique (h : c.LastDecoder i j d) (h' : c.LastDecoder i' j d') :
    i = i' ∧ d = d' := by
  have hi : i = i' := by
    rcases Nat.lt_trichotomy i i' with hlt | heq | hgt
    · exact absurd h'.stage (h.last i' hlt h'.lt d')
    · exact heq
    · exact absurd h.stage (h'.last i hgt h.lt d)
  subst hi
  have hstage := h.stage.symm.trans h'.stage
  simp only [Option.some.injEq, Stage.req.injEq] at hstage
  exact ⟨rfl, hstage⟩

theorem DecodesTo.unique {result result' : Except ExtractionError Request}
    (h : c.DecodesTo now x i d result) (h' : c.DecodesTo now x i d result') : result = result' := by
  obtain ⟨ctx, hctx, rfl⟩ := h
  obtain ⟨ctx', hctx', rfl⟩ := h'
  rw [hctx, Option.some.injEq] at hctx'
  rw [hctx']

theorem LastDecoder.succ (h : c.LastDecoder i j d) (hj : ∀ d', c.stages[j]? ≠ some (.req d')) :
    c.LastDecoder i (j + 1) d := by
  refine ⟨Nat.lt_succ_of_lt h.lt, h.stage, fun m him hmj => ?_⟩
  rcases Nat.lt_succ_iff_lt_or_eq.mp hmj with hlt | rfl
  · exact h.last m him hlt
  · exact hj

theorem lastDecoder_succ (hj : c.stages[j]? = some (.req d)) : c.LastDecoder j (j + 1) d :=
  ⟨Nat.lt_succ_self j, hj, fun m hjm hmj => absurd hmj (by omega)⟩

theorem handlerBetween_succ_iff (hj : c.stages[j]? ≠ some .handle) :
    c.HandlerBetween i (j + 1) ↔ c.HandlerBetween i j := by
  constructor
  · rintro ⟨m, him, hmj, hm⟩
    refine ⟨m, him, ?_, hm⟩
    rcases Nat.lt_succ_iff_lt_or_eq.mp hmj with hlt | rfl
    · exact hlt
    · exact absurd hm hj
  · rintro ⟨m, him, hmj, hm⟩
    exact ⟨m, him, Nat.lt_succ_of_lt hmj, hm⟩

theorem Gate.unique {verdict verdict' : Except PipelineError Request}
    (h : c.Gate now x j verdict) (h' : c.Gate now x j verdict') : verdict = verdict' := by
  have hdecoder : ∀ {i d i' d' result result'}, c.LastDecoder i j d → c.LastDecoder i' j d' →
      c.DecodesTo now x i d result → c.DecodesTo now x i' d' result' →
      i = i' ∧ result = result' := by
    intro i d i' d' result result' hlast hlast' hdecodes hdecodes'
    obtain ⟨rfl, rfl⟩ := hlast.unique hlast'
    exact ⟨rfl, hdecodes.unique hdecodes'⟩
  cases h with
  | admits hlast hdecodes huntaken =>
      cases h' with
      | admits hlast' hdecodes' => cases hdecoder hlast hlast' hdecodes hdecodes' |>.2; rfl
      | undecoded hlast' hdecodes' => cases hdecoder hlast hlast' hdecodes hdecodes' |>.2
      | taken hlast' hdecodes' htaken' =>
          exact absurd (hdecoder hlast hlast' hdecodes hdecodes' |>.1 ▸ htaken') huntaken
      | missing hnone => exact absurd hlast.stage (hnone _ hlast.lt _)
  | undecoded hlast hdecodes =>
      cases h' with
      | admits hlast' hdecodes' => cases hdecoder hlast hlast' hdecodes hdecodes' |>.2
      | undecoded hlast' hdecodes' => cases hdecoder hlast hlast' hdecodes hdecodes' |>.2; rfl
      | taken hlast' hdecodes' => cases hdecoder hlast hlast' hdecodes hdecodes' |>.2
      | missing hnone => exact absurd hlast.stage (hnone _ hlast.lt _)
  | taken hlast hdecodes htaken =>
      cases h' with
      | admits hlast' hdecodes' huntaken' =>
          exact absurd (hdecoder hlast' hlast hdecodes' hdecodes |>.1 ▸ htaken) huntaken'
      | undecoded hlast' hdecodes' => cases hdecoder hlast hlast' hdecodes hdecodes' |>.2
      | taken => rfl
      | missing => rfl
  | missing hnone =>
      cases h' with
      | admits hlast' => exact absurd hlast'.stage (hnone _ hlast'.lt _)
      | undecoded hlast' => exact absurd hlast'.stage (hnone _ hlast'.lt _)
      | taken => rfl
      | missing => rfl

/-! ## The slot before every position -/

theorem Gate.succ_of_req (hctx : c.contextAt now x j = some ctx)
    (hj : c.stages[j]? = some (.req d)) :
    c.Gate now x (j + 1) ((d.decode c.operation.contract ctx.exchange).mapError .decode) := by
  cases hresult : d.decode c.operation.contract ctx.exchange with
  | error e => exact .undecoded (lastDecoder_succ hj) ⟨ctx, hctx, hresult⟩
  | ok request =>
      refine .admits (lastDecoder_succ hj) ⟨ctx, hctx, hresult⟩ ?_
      rintro ⟨m, hjm, hmj, -⟩
      omega

theorem Gate.succ_of_handle {request : Request} (hj : c.stages[j]? = some .handle)
    (h : c.Gate now x j (.ok request)) : c.Gate now x (j + 1) (.error .missingRequest) := by
  cases h with
  | admits hlast hdecodes =>
      refine .taken (hlast.succ ?_) hdecodes ⟨j, hlast.lt, Nat.lt_succ_self j, hj⟩
      simp [hj]

theorem Gate.succ_of_ne {verdict : Except PipelineError Request}
    (hreq : ∀ d, c.stages[j]? ≠ some (.req d)) (hhandle : c.stages[j]? ≠ some .handle)
    (h : c.Gate now x j verdict) : c.Gate now x (j + 1) verdict := by
  cases h with
  | admits hlast hdecodes huntaken =>
      exact .admits (hlast.succ hreq) hdecodes ((handlerBetween_succ_iff hhandle).not.mpr huntaken)
  | undecoded hlast hdecodes => exact .undecoded (hlast.succ hreq) hdecodes
  | taken hlast hdecodes htaken =>
      exact .taken (hlast.succ hreq) hdecodes ((handlerBetween_succ_iff hhandle).mpr htaken)
  | missing hnone =>
      refine .missing fun i hi => ?_
      rcases Nat.lt_succ_iff_lt_or_eq.mp hi with hlt | rfl
      · exact hnone i hlt
      · exact hreq

/-- What a position that is reached finds in the slot is what the stages before it say. -/
theorem gate_dueRequest (hkeeps : c.operation.handler.KeepsRequest) (hj : j ≤ c.stages.length)
    (hctx : c.contextAt now x j = some ctx) : c.Gate now x j ctx.dueRequest := by
  induction j generalizing ctx with
  | zero =>
      rw [contextAt_zero, Option.some.injEq] at hctx
      subst hctx
      exact .missing (by simp)
  | succ j ih =>
      have hstage : c.stages[j]? = some c.stages[j] := List.getElem?_eq_getElem hj
      obtain ⟨before, hbefore, hflow, rfl⟩ := contextAt_of_contextAt_succ hstage hctx
      have hgate := ih (Nat.le_of_succ_le hj) hbefore
      -- Only a decoder and a handler change what the slot says.
      by_cases hreq : ∃ d, c.stages[j] = .req d
      · obtain ⟨d, hreq⟩ := hreq
        rw [hreq, Stage.run_req_dueRequest]
        exact .succ_of_req hbefore (hreq ▸ hstage)
      · by_cases hhandle : c.stages[j] = .handle
        · rw [hhandle] at hflow hstage ⊢
          cases hdue : before.dueRequest with
          | error e => simp [Stage.run_handle_of_error hdue, Step.abort] at hflow
          | ok request =>
              rw [Stage.run_handle_dueRequest hkeeps hdue]
              exact .succ_of_handle hstage (hdue ▸ hgate)
        · rw [Stage.run_dueRequest_of_ne (not_exists.mp hreq) hhandle]
          refine .succ_of_ne (fun d h => hreq ⟨d, ?_⟩) (fun h => hhandle ?_) hgate
          · exact Option.some.inj (hstage.symm.trans h)
          · exact Option.some.inj (hstage.symm.trans h)

/-! ## The gate -/

variable (c now x)

/-- The run ends at a position with an error: the stage there calls nothing, no later one runs, and
the reply is the error's response. -/
structure StopsWith (j : ℕ) (e : PipelineError) (status : Status) : Prop where
  flow : ∃ step, c.stepAt now x j = some step ∧ step.flow = .abort e
  calls : c.callsAt now x j = []
  later : ∀ k, j < k → c.stepAt now x k = none
  reply : (c.run now x).reply = some (.response (e.response x.requestId))
  status : (e.response x.requestId).status = status

/-- How the handler at a position is guarded. -/
structure HandlerGate (j : ℕ) : Prop where
  /-- The calls of the run are those made at its positions. -/
  calls : (c.run now x).calls = (List.range c.length).flatMap (c.callsAt now x)
  reached : (c.stepAt now x j).isSome ↔ ∀ i < j, c.ContinuesAt now x i
  decided : (c.stepAt now x j).isSome → ∃ verdict, c.Gate now x j verdict
  admits : ∀ request, (∃ seen, c.callsAt now x j = [.handler request seen]) ↔
    (c.stepAt now x j).isSome ∧ c.Gate now x j (.ok request)
  undecoded : ∀ e, (c.stepAt now x j).isSome → c.Gate now x j (.error (.decode e)) →
    c.StopsWith now x j (.decode e) e.status
  missing : (c.stepAt now x j).isSome → c.Gate now x j (.error .missingRequest) →
    c.StopsWith now x j .missingRequest .badRequest ∧
      PipelineError.missingRequest.message = "request stage missing"

variable {c now x}

theorem stopsWith_of_dueRequest {e : PipelineError} (hj : c.stages[j]? = some .handle)
    (hctx : c.contextAt now x j = some ctx) (hdue : ctx.dueRequest = .error e) :
    c.StopsWith now x j e e.status := by
  have hstep : c.stepAt now x j = some (.abort ctx e) := by
    rw [stepAt_eq hctx hj, Stage.run_handle_of_error hdue]
  refine ⟨⟨_, hstep, rfl⟩, ?_, fun k hk => ?_, ?_, rfl⟩
  · rw [callsAt, hstep]
    rfl
  · exact stepAt_of_stop hstep (by simp [Step.abort]) hk
  · exact reply_of_abort hstep rfl

theorem callsAt_eq_iff {request : Request} (hj : c.stages[j]? = some .handle)
    (hctx : c.contextAt now x j = some ctx) :
    (∃ seen, c.callsAt now x j = [.handler request seen]) ↔ ctx.dueRequest = .ok request := by
  rw [callsAt_eq hctx hj]
  cases hdue : ctx.dueRequest with
  | error e => simp [Stage.run_handle_of_error hdue, Step.abort]
  | ok found => simp [Stage.run_handle_calls hdue]

/-- A handler is called exactly if every stage before it lets the request go on, the last decoder
before it succeeds and no handler between them has taken the request; it is called once, with what
that decoder made. Every other handler ends the run without a call. -/
theorem handlerGate (hkeeps : c.operation.handler.KeepsRequest)
    (hj : c.stages[j]? = some .handle) : c.HandlerGate now x j := by
  have hlt : j < c.stages.length := (List.getElem?_eq_some_iff.mp hj).1
  have hreached : (c.stepAt now x j).isSome ↔ ∃ ctx, c.contextAt now x j = some ctx := by
    cases hctx : c.contextAt now x j <;> simp [stepAt, hctx, hj]
  have hgate : ∀ {ctx}, c.contextAt now x j = some ctx → c.Gate now x j ctx.dueRequest :=
    gate_dueRequest hkeeps (Nat.le_of_lt hlt)
  have hstops : ∀ e, (c.stepAt now x j).isSome → c.Gate now x j (.error e) →
      c.StopsWith now x j e e.status := by
    intro e h herror
    obtain ⟨ctx, hctx⟩ := hreached.mp h
    exact stopsWith_of_dueRequest hj hctx ((hgate hctx).unique herror)
  refine ⟨run_calls, ?_, ?_, fun request => ?_, fun e => hstops _, fun h hmissing => ?_⟩
  · rw [hreached, ← isSome_contextAt_iff (Nat.le_of_lt hlt), Option.isSome_iff_exists]
  · intro h
    obtain ⟨ctx, hctx⟩ := hreached.mp h
    exact ⟨_, hgate hctx⟩
  · constructor
    · rintro ⟨seen, hcalls⟩
      cases hctx : c.contextAt now x j with
      | none => simp [callsAt_of_not_reached hctx] at hcalls
      | some ctx =>
          have hdue := (callsAt_eq_iff hj hctx).mp ⟨seen, hcalls⟩
          exact ⟨hreached.mpr ⟨ctx, hctx⟩, hdue ▸ hgate hctx⟩
    · rintro ⟨h, hadmits⟩
      obtain ⟨ctx, hctx⟩ := hreached.mp h
      exact (callsAt_eq_iff hj hctx).mpr ((hgate hctx).unique hadmits)
  · exact ⟨hstops _ h hmissing, rfl⟩

/-- A route that gives its request to the handler twice. -/
def twoHandlers : Chain :=
  ⟨.empty, [.req ⟨false, false, false, 0⟩, .handle, .handle],
    ⟨.ofShapes .any .any .any, .ofResult fun _ _ => .ok (.value .null)⟩⟩

theorem twoHandlers_keepsRequest : twoHandlers.operation.handler.KeepsRequest :=
  fun _ _ => rfl

/-- The second handler of that route finds the request taken. -/
theorem twoHandlers_gate :
    twoHandlers.operation.handler.KeepsRequest ∧ twoHandlers.stages[2]? = some .handle ∧
      twoHandlers.HandlerGate 0 .plainGet 2 ∧
      twoHandlers.StopsWith 0 .plainGet 2 .missingRequest .badRequest := by
  have hgate : twoHandlers.HandlerGate 0 .plainGet 2 := handlerGate twoHandlers_keepsRequest rfl
  have hlast : twoHandlers.LastDecoder 0 2 ⟨false, false, false, 0⟩ := by
    refine ⟨by decide, rfl, fun m hm hm' d => ?_⟩
    obtain rfl : m = 1 := by omega
    exact nofun
  have htaken : twoHandlers.Gate 0 .plainGet 2 (.error .missingRequest) :=
    .taken hlast ⟨_, rfl, rfl⟩ ⟨1, by decide, by decide, rfl⟩
  exact ⟨twoHandlers_keepsRequest, rfl, hgate, (hgate.missing rfl htaken).1⟩

end Chain

end Conduit
