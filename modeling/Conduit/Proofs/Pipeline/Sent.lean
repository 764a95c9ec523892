import Conduit.Proofs.Pipeline.Acceptance

/-! # What the client sent

Stages leave values and responses in an exchange. Its method, target, headers and body are the
client's, and the library's own stages never touch them: they are the same at every position of a
chain as long as the application's code keeps them. -/

namespace Conduit

/-- The parts of an exchange that the client sent. -/
def Exchange.sent (x : Exchange) : Method × Uri × Headers × Bytes :=
  (x.method, x.uri, x.headers, x.body)

@[simp]
theorem Exchange.sent_setResponse (x : Exchange) (r : Response) :
    (x.setResponse r).sent = x.sent := rfl

theorem Exchange.parts_of_sent {x x' : Exchange} (h : x.sent = x'.sent) :
    x.method = x'.method ∧ x.uri = x'.uri ∧ x.headers = x'.headers ∧ x.body = x'.body := by
  simpa [sent] using h

def Handler.KeepsSent (handler : Handler) : Prop :=
  ∀ ctx request, (handler ctx request).1.exchange.sent = ctx.exchange.sent

def Provider.KeepsSent (provider : Provider) : Prop :=
  ∀ view, (provider.act view).exchange.sent = view.exchange.sent

/-- All of the application's code in a chain leaves what the client sent as it is. -/
structure Chain.KeepsSent (c : Chain) : Prop where
  handler : c.operation.handler.KeepsSent
  providers : ∀ provider, .custom provider ∈ c.stages → provider.KeepsSent

theorem Stage.run_sent {op : Operation} {now : Int} {ctx : Context} {stage : Stage}
    (hhandler : op.handler.KeepsSent)
    (hprovider : ∀ provider, stage = custom provider → provider.KeepsSent) :
    (stage.run op now ctx).ctx.exchange.sent = ctx.exchange.sent := by
  by_cases hhandle : stage = handle
  · subst hhandle
    rcases run_handle_cases with hsame | ⟨request, result, hcall⟩
    · rw [hsame]
    · rw [hcall]
      exact hhandler _ request
  · by_cases hcustom : ∃ provider, stage = custom provider
    · obtain ⟨provider, rfl⟩ := hcustom
      exact hprovider provider rfl ctx.view
    · have hbuiltin : stage.IsBuiltin := by
        cases stage with
        | custom provider => exact absurd ⟨provider, rfl⟩ hcustom
        | _ => trivial
      rcases run_exchange hbuiltin hhandle with hsame | ⟨-, response, hwritten⟩
      · rw [hsame]
      · rw [hwritten, Exchange.sent_setResponse]

theorem Chain.sent_of_contextAt {c : Chain} {now : Int} {x : Exchange} {j : ℕ} {ctx : Context}
    (hkeeps : c.KeepsSent) (hj : j ≤ c.stages.length) (hctx : c.contextAt now x j = some ctx) :
    ctx.exchange.sent = x.sent := by
  refine contextAt_induction (P := fun ctx => ctx.exchange.sent = x.sent) rfl ?_ hj hctx
  intro stage hstage before hbefore
  have hprovider : ∀ provider, stage = .custom provider → provider.KeepsSent := by
    rintro provider rfl
    exact hkeeps.providers provider hstage
  exact (Stage.run_sent hkeeps.handler hprovider).trans hbefore

end Conduit
