import Conduit.Proofs.Notices
import Conduit.Proofs.Pipeline.Acceptance
import Conduit.Proofs.Pipeline.Resolution

/-! # The authenticators' gate

A token for an authenticator puts one into the chain, and nothing behind it runs for a request that
it refuses. No session is handed out either, wherever the stage for sessions stands. -/

namespace Conduit

namespace Stage

variable {op : Operation} {now : Int} {scheme : AuthScheme} {ctx : Context}

theorem run_auth_of_error {fault : AuthFault}
    (h : scheme.authenticate now ctx.exchange = .error fault) :
    (auth scheme).run op now ctx = .abort ctx (.auth fault) := by
  simp only [run, runAuth, h]

theorem authenticate_of_proceed (h : ((auth scheme).run op now ctx).flow = .proceed) :
    ∃ identity, scheme.authenticate now ctx.exchange = .ok identity := by
  cases hresult : scheme.authenticate now ctx.exchange with
  | ok identity => exact ⟨identity, rfl⟩
  | error fault => simp [run_auth_of_error hresult, Step.abort] at h

end Stage

namespace Chain

variable (c : Chain) (now : Int) (x : Exchange)

/-- The authenticator at a position is reached and accepts the exchange that it finds. -/
def AcceptsAt (j : ℕ) (scheme : AuthScheme) : Prop :=
  ∃ ctx identity, c.contextAt now x j = some ctx ∧
    scheme.authenticate now ctx.exchange = .ok identity

/-- The authenticator at a position ends the run: it leaves the caller's identity as it was, nothing
is called from there on, and the reply tells the fault, whatever was written before. -/
structure RejectsAt (j : ℕ) (ctx : Context) (fault : AuthFault) : Prop where
  identity : ∃ step, c.stepAt now x j = some step ∧ step.ctx.auth = ctx.auth
  calls : (c.run now x).calls = (List.range j).flatMap (c.callsAt now x)
  reply : ∃ r, (c.run now x).reply = some (.response r) ∧
    r.Tells ⟨401, "authentication", "AUTHENTICATION_ERROR",
      "authentication failed: " ++ fault.message⟩ x.requestId

/-- How the authenticator at a position guards the rest of the chain. -/
structure AuthGate (j : ℕ) (scheme : AuthScheme) : Prop where
  /-- The calls of the run are those made at its positions. -/
  calls : (c.run now x).calls = (List.range c.length).flatMap (c.callsAt now x)
  called : ∀ k, j < k → c.callsAt now x k ≠ [] → c.AcceptsAt now x j scheme
  upgraded : ∀ response session, (c.run now x).reply = some (.upgrade response session) →
    c.AcceptsAt now x j scheme
  rejected : ∀ ctx fault, c.contextAt now x j = some ctx →
    scheme.authenticate now ctx.exchange = .error fault → c.RejectsAt now x j ctx fault

variable {c now x} {j : ℕ} {scheme : AuthScheme} {ctx : Context} {fault : AuthFault}

theorem acceptsAt_of_continuesAt (hj : c.stages[j]? = some (.auth scheme))
    (h : c.ContinuesAt now x j) : c.AcceptsAt now x j scheme := by
  obtain ⟨step, hstep, hflow⟩ := h
  obtain ⟨ctx, stage, hctx, hstage, rfl⟩ := stage_of_stepAt hstep
  rw [hj, Option.some.injEq] at hstage
  subst hstage
  obtain ⟨identity, hidentity⟩ := Stage.authenticate_of_proceed hflow
  exact ⟨ctx, identity, hctx, hidentity⟩

theorem rejectsAt_of_error (hj : c.stages[j]? = some (.auth scheme))
    (hctx : c.contextAt now x j = some ctx)
    (h : scheme.authenticate now ctx.exchange = .error fault) : c.RejectsAt now x j ctx fault := by
  have hstep : c.stepAt now x j = some (.abort ctx (.auth fault)) := by
    rw [stepAt_eq hctx hj, Stage.run_auth_of_error h]
  have htold : (PipelineError.auth fault).ToldAs _ := .rejected fault
  refine ⟨⟨_, hstep, rfl⟩, ?_, _, reply_of_abort hstep rfl, htold.tells_response x.requestId⟩
  rw [run_calls_of_stop hstep (by simp [Step.abort])]
  exact List.append_nil _

theorem authGate_of_stage (hj : c.stages[j]? = some (.auth scheme)) :
    c.AuthGate now x j scheme := by
  have hlt : j < c.stages.length := (List.getElem?_eq_some_iff.mp hj).1
  refine ⟨run_calls, fun k hk hcalls => ?_, fun response session hreply => ?_,
    fun ctx fault => rejectsAt_of_error hj⟩
  · exact acceptsAt_of_continuesAt hj (continuesAt_of_callsAt_ne_nil hcalls hk)
  · exact acceptsAt_of_continuesAt hj (continuesAt_of_upgrade hreply hlt)

/-- A chain built from a spec with a token for an authenticator has the authenticator behind the
stages of the tokens before it. It guards those of the tokens behind it, and every session. -/
theorem build_authGate {spec : Spec} {op : Operation} {r : Registry} {o : ChainOptions}
    {before after : List Token} {t : Token} (hbuild : Chain.build spec op r o = .ok c)
    (hspec : spec.tokens = before ++ t :: after) (ht : t.AsksFor scheme) :
    ∃ first left rest left', Resolver.resolveAll r o before = .ok (first, left) ∧
      Resolver.resolveAll r o after = .ok (rest, left') ∧
      c.stages = first ++ .auth scheme :: rest ∧
      ∀ now x, c.AuthGate now x first.length scheme := by
  obtain ⟨first, left, rest, left', hbefore, hafter, hstages⟩ := stages_of_asksFor hbuild hspec ht
  refine ⟨first, left, rest, left', hbefore, hafter, hstages, fun now x => authGate_of_stage ?_⟩
  rw [hstages, List.getElem?_append_right (Nat.le_refl _), Nat.sub_self]
  rfl

/-- A route whose base asks for a bearer token behind the stage for sessions. -/
def guardedSpec : Spec :=
  (Spec.parse "...|handle").inherit (Spec.parse "ws_handle| auth = Bearer |handle")

def guardedRoute : Chain :=
  ⟨guardedSpec, [.wsHandle [], .auth .bearer, .handle],
    ⟨.ofShapes .any .any .any, .ofResult fun _ _ => .ok (.value .null)⟩⟩

/-- Its authenticator stands at the second position. A request for an upgrade that brings no token
comes there with its upgrade accepted, and is refused all the same. -/
theorem guardedRoute_authGate :
    Chain.build guardedSpec guardedRoute.operation .empty .standard = .ok guardedRoute ∧
      guardedSpec.tokens =
        [⟨"ws_handle", ""⟩] ++ Token.parse " auth = Bearer " :: [⟨"handle", ""⟩] ∧
      (Token.parse " auth = Bearer ").AsksFor .bearer ∧
      (∀ now x, guardedRoute.AuthGate now x 1 .bearer) ∧
      ∃ ctx accepted r, guardedRoute.contextAt 0 chatRequest 1 = some ctx ∧
        ctx.exchange.response = some accepted ∧ accepted.status.code = 101 ∧
        (guardedRoute.run 0 chatRequest).calls = [] ∧
        (guardedRoute.run 0 chatRequest).reply = some (.response r) ∧
        r.Tells ⟨401, "authentication", "AUTHENTICATION_ERROR",
          "authentication failed: missing authorization header"⟩ chatRequest.requestId := by
  have hbuild : Chain.build guardedSpec guardedRoute.operation .empty .standard =
      .ok guardedRoute := rfl
  have hspec : guardedSpec.tokens =
      [⟨"ws_handle", ""⟩] ++ Token.parse " auth = Bearer " :: [⟨"handle", ""⟩] := by decide
  have hsplit : Text.splitFirst '=' " auth = Bearer " = some (" auth ", " Bearer ") := by decide
  have ht : (Token.parse " auth = Bearer ").AsksFor .bearer :=
    Token.asksFor_parse hsplit (by decide) (by decide)
  obtain ⟨first, _, rest, _, hbefore, -, -, hgate⟩ := build_authGate hbuild hspec ht
  have hfirst : first = [.wsHandle []] := by
    cases hbefore
    rfl
  rw [hfirst] at hgate
  have hwritten : ∃ ctx accepted, guardedRoute.contextAt 0 chatRequest 1 = some ctx ∧
      ctx.exchange.response = some accepted ∧ accepted.status.code = 101 ∧
      AuthScheme.bearer.authenticate 0 ctx.exchange = .error .missingHeader :=
    ⟨_, _, rfl, rfl, rfl, rfl⟩
  obtain ⟨ctx, accepted, hctx, haccepted, hstatus, hmissing⟩ := hwritten
  obtain ⟨-, hcalls, r, hreply, htells⟩ :=
    (hgate 0 chatRequest).rejected ctx .missingHeader hctx hmissing
  exact ⟨hbuild, hspec, ht, hgate, ctx, accepted, r, hctx, haccepted, hstatus, hcalls, hreply,
    htells⟩

end Chain

end Conduit
