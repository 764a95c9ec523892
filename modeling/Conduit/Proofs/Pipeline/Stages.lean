import Conduit.Pipeline.Stage

/-! # What a stage may change

Only decoders write the request's slot and only the stage for sessions writes the socket's state.
What a handler changes is the application's own affair. -/

namespace Conduit.Stage

variable {op : Operation} {now : Int} {ctx : Context} {stage : Stage}

/-- What a stage leaves as it was. -/
structure Frame (stage : Stage) (before after : Context) : Prop where
  indexer : after.indexer = before.indexer
  result : after.result = before.result
  request : (∀ d, stage ≠ req d) → after.request = before.request
  socket : (∀ protocols, stage ≠ wsHandle protocols) → after.socket = before.socket

theorem run_frame (hstage : stage ≠ handle) : stage.Frame ctx (stage.run op now ctx).ctx := by
  cases stage with
  | req d =>
      have hctx : ∃ slot, ((req d).run op now ctx).ctx = { ctx with request := slot } := by
        rw [run, runReq]
        split <;> exact ⟨_, rfl⟩
      obtain ⟨slot, hctx⟩ := hctx
      rw [hctx]
      exact ⟨rfl, rfl, fun h => absurd rfl (h d), fun _ => rfl⟩
  | auth scheme =>
      rw [run, runAuth]
      split <;> exact ⟨rfl, rfl, fun _ => rfl, fun _ => rfl⟩
  | handle => exact absurd rfl hstage
  | rsp encoder =>
      rw [run, runRsp]
      split
      · exact ⟨rfl, rfl, fun _ => rfl, fun _ => rfl⟩
      · split
        · exact ⟨rfl, rfl, fun _ => rfl, fun _ => rfl⟩
        · split <;> exact ⟨rfl, rfl, fun _ => rfl, fun _ => rfl⟩
  | wsHandle protocols =>
      simp only [run, runWsHandle]
      split
      · exact ⟨rfl, rfl, fun _ => rfl, fun _ => rfl⟩
      · exact ⟨rfl, rfl, fun _ => rfl, fun h => absurd rfl (h protocols)⟩
  | custom provider => exact ⟨rfl, rfl, fun _ => rfl, fun _ => rfl⟩

/-- A handler is called in the context that it finds, less the request, or not at all. -/
theorem run_handle_cases :
    (handle.run op now ctx).ctx = ctx ∨
      ∃ request result, (handle.run op now ctx).ctx =
        { (op.handler { ctx with request := some ⟨none, none⟩ } request).1 with result } := by
  simp only [run, runHandle]
  rcases ctx.request with _ | ⟨_ | request, _ | e⟩
  · exact .inl rfl
  · exact .inl rfl
  · exact .inl rfl
  · right
    refine ⟨request, ?_⟩
    rcases hcall : op.handler { ctx with request := some ⟨none, none⟩ } request with
      ⟨after, result | _⟩
    · exact ⟨some result, by simp only [hcall]⟩
    · exact ⟨after.result, by simp only [hcall]⟩
  · exact .inl rfl

end Conduit.Stage
