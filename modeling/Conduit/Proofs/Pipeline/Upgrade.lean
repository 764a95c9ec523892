import Conduit.Proofs.Pipeline.Positions
import Conduit.Proofs.Pipeline.Stages

/-! # What a chain hands to a session

The context of an upgraded connection comes from the stages of a chain. None of them counts frames
or ends a session, and none exchanges the chain's decoder and encoder. -/

namespace Conduit

def Handler.KeepsSocket (handler : Handler) : Prop :=
  ∀ ctx request, (handler ctx request).1.socket = ctx.socket

def Handler.KeepsIndexer (handler : Handler) : Prop :=
  ∀ ctx request, (handler ctx request).1.indexer = ctx.indexer

/-- No frame was counted yet, and nothing ended the session. -/
structure SocketState.Idle (s : SocketState) : Prop where
  received : s.received = 0
  sent : s.sent = 0
  close : s.close = none
  error : s.error = none

theorem SocketState.Idle.eq {s : SocketState} (h : s.Idle) :
    s = { s with received := 0, sent := 0 } := by
  obtain ⟨accepted, protocol, received, sent, close, error⟩ := s
  obtain ⟨hreceived, hsent, -, -⟩ := h
  simp only at hreceived hsent
  rw [hreceived, hsent]

namespace Stage

variable {op : Operation} {now : Int} {ctx : Context} {stage : Stage}

theorem run_indexer (hkeeps : op.handler.KeepsIndexer) :
    (stage.run op now ctx).ctx.indexer = ctx.indexer := by
  by_cases hhandle : stage = handle
  · subst hhandle
    rcases run_handle_cases with hsame | ⟨request, result, hcall⟩
    · rw [hsame]
    · rw [hcall]
      exact hkeeps _ request
  · exact (run_frame hhandle).indexer

end Stage

namespace Chain

variable {c : Chain} {now : Int} {x : Exchange} {response : Response} {session : Context}

/-- The session goes on with the context that the last stage leaves, less the response. -/
theorem exists_contextAt_of_upgrade
    (h : (c.run now x).reply = some (.upgrade response session)) :
    ∃ ctx, c.contextAt now x c.length = some ctx ∧ ctx.socketState.accepted = true ∧
      session = { ctx with exchange := { ctx.exchange with response := none } } := by
  obtain ⟨ctx, hctx, hfinish⟩ := contextAt_length_of_upgrade h
  rw [finish] at hfinish
  simp only [Exchange.takeResponse] at hfinish
  split at hfinish
  · rename_i hupgrade
    obtain ⟨-, rfl⟩ := Reply.upgrade.inj hfinish
    exact ⟨ctx, hctx, (Bool.and_eq_true_iff.mp hupgrade).1, rfl⟩
  · split at hfinish
    · cases hfinish
    · split at hfinish <;> cases hfinish

theorem indexer_of_upgrade (hkeeps : c.operation.handler.KeepsIndexer)
    (h : (c.run now x).reply = some (.upgrade response session)) :
    session.indexer = c.indexer := by
  obtain ⟨ctx, hctx, -, rfl⟩ := exists_contextAt_of_upgrade h
  have hindexer : ctx.indexer = c.indexer :=
    contextAt_induction (P := fun ctx => ctx.indexer = c.indexer) rfl
      (fun _ _ _ hbefore => (Stage.run_indexer hkeeps).trans hbefore) (Nat.le_refl _) hctx
  exact hindexer

end Chain

end Conduit
