import Mathlib.Data.List.Basic
import Conduit.Pipeline.Chain

/-! # A chain position by position

A run of a chain is the run of its first stages, then of the stage that follows if all of them let
the request go on, and so on. A position is reached with the context that the stages before it
leave, and the calls of a run are those of the stages reached. -/

namespace Conduit

section Runs

variable {op : Operation} {now : Int}

theorem runStages_append (first rest : List Stage) (ctx : Context) :
    runStages op now (first ++ rest) ctx =
      if (runStages op now first ctx).flow = .proceed then
        { runStages op now rest (runStages op now first ctx).ctx with
          calls := (runStages op now first ctx).calls ++
            (runStages op now rest (runStages op now first ctx).ctx).calls }
      else runStages op now first ctx := by
  induction first generalizing ctx with
  | nil => simp [runStages]
  | cons stage first ih =>
      rw [List.cons_append, runStages, runStages]
      cases hflow : (stage.run op now ctx).flow with
      | proceed =>
          simp only [ih]
          split <;> simp
      | abort e => simp
      | stall => simp

theorem runStages_singleton (stage : Stage) (ctx : Context) :
    runStages op now [stage] ctx =
      ⟨(stage.run op now ctx).ctx, (stage.run op now ctx).flow, (stage.run op now ctx).calls⟩ := by
  rw [runStages]
  cases hflow : (stage.run op now ctx).flow <;> simp [runStages]

end Runs

namespace Chain

variable (c : Chain) (now : Int) (x : Exchange)

/-- The run of the stages before a position. -/
def runBefore (j : ℕ) : StagesRun :=
  runStages c.operation now (c.stages.take j) (.ofExchange x c.indexer)

/-- The context in which the stage at a position runs, if the run comes that far. -/
def contextAt (j : ℕ) : Option Context :=
  if (c.runBefore now x j).flow = .proceed then some (c.runBefore now x j).ctx else none

/-- What the stage at a position does, if it is reached. -/
def stepAt (j : ℕ) : Option Step :=
  (c.contextAt now x j).bind fun ctx => c.stages[j]?.map fun stage =>
    stage.run c.operation now ctx

/-- The stage at a position is reached and lets the request go on. -/
def ContinuesAt (j : ℕ) : Prop :=
  ∃ step, c.stepAt now x j = some step ∧ step.flow = .proceed

/-- The calls of the application's code that the stage at a position makes. -/
def callsAt (j : ℕ) : List Call :=
  (c.stepAt now x j).elim [] Step.calls

variable {c now x} {j : ℕ} {stage : Stage} {ctx : Context}

theorem contextAt_zero : c.contextAt now x 0 = some (.ofExchange x c.indexer) := by
  simp [contextAt, runBefore, runStages]

theorem contextAt_eq_some_iff :
    c.contextAt now x j = some ctx ↔
      (c.runBefore now x j).flow = .proceed ∧ (c.runBefore now x j).ctx = ctx := by
  unfold contextAt
  split <;> simp [*]

theorem stepAt_eq (hctx : c.contextAt now x j = some ctx) (hstage : c.stages[j]? = some stage) :
    c.stepAt now x j = some (stage.run c.operation now ctx) := by
  simp [stepAt, hctx, hstage]

theorem callsAt_eq (hctx : c.contextAt now x j = some ctx) (hstage : c.stages[j]? = some stage) :
    c.callsAt now x j = (stage.run c.operation now ctx).calls := by
  simp [callsAt, stepAt_eq hctx hstage]

theorem callsAt_of_not_reached (h : c.contextAt now x j = none) : c.callsAt now x j = [] := by
  simp [callsAt, stepAt, h]

/-! ## From a position to the next -/

theorem runBefore_succ_of_reached (hctx : c.contextAt now x j = some ctx)
    (hstage : c.stages[j]? = some stage) :
    c.runBefore now x (j + 1) =
      ⟨(stage.run c.operation now ctx).ctx, (stage.run c.operation now ctx).flow,
        (c.runBefore now x j).calls ++ (stage.run c.operation now ctx).calls⟩ := by
  obtain ⟨hflow, hbefore⟩ := contextAt_eq_some_iff.mp hctx
  have htake : c.stages.take (j + 1) = c.stages.take j ++ [stage] := by
    rw [List.take_add_one, hstage]
    rfl
  unfold runBefore at hflow hbefore ⊢
  rw [htake, runStages_append, if_pos hflow, hbefore, runStages_singleton]

theorem runBefore_succ_of_stopped (h : c.contextAt now x j = none) :
    c.runBefore now x (j + 1) = c.runBefore now x j := by
  have hflow : (c.runBefore now x j).flow ≠ .proceed := by
    intro hflow
    simp [contextAt, hflow] at h
  unfold runBefore at hflow ⊢
  rw [List.take_add_one, runStages_append, if_neg hflow]

theorem contextAt_succ (hstage : c.stages[j]? = some stage) :
    c.contextAt now x (j + 1) = (c.contextAt now x j).bind fun ctx =>
      if (stage.run c.operation now ctx).flow = .proceed then
        some (stage.run c.operation now ctx).ctx
      else none := by
  cases hctx : c.contextAt now x j with
  | none =>
      rw [contextAt, runBefore_succ_of_stopped hctx, ← contextAt, hctx]
      rfl
  | some ctx =>
      rw [contextAt, runBefore_succ_of_reached hctx hstage]
      rfl

theorem contextAt_of_contextAt_succ (hstage : c.stages[j]? = some stage)
    (h : c.contextAt now x (j + 1) = some ctx) :
    ∃ before, c.contextAt now x j = some before ∧
      (stage.run c.operation now before).flow = .proceed ∧
      (stage.run c.operation now before).ctx = ctx := by
  rw [contextAt_succ hstage, Option.bind_eq_some_iff] at h
  obtain ⟨before, hbefore, h⟩ := h
  refine ⟨before, hbefore, ?_⟩
  split at h
  · exact ⟨by assumption, Option.some.inj h⟩
  · cases h

theorem isSome_contextAt_iff (hj : j ≤ c.stages.length) :
    (c.contextAt now x j).isSome ↔ ∀ i < j, c.ContinuesAt now x i := by
  induction j with
  | zero => simp [contextAt_zero]
  | succ j ih =>
      have hstage : c.stages[j]? = some c.stages[j] := List.getElem?_eq_getElem hj
      rw [Nat.forall_lt_succ_right, ← ih (by omega), contextAt_succ hstage]
      cases hctx : c.contextAt now x j with
      | none => simp
      | some ctx =>
          simp [ContinuesAt, stepAt_eq hctx hstage]

/-- What the stages of a chain preserve holds wherever its run comes. -/
theorem contextAt_induction {P : Context → Prop} (hstart : P (.ofExchange x c.indexer))
    (hstep : ∀ stage ∈ c.stages, ∀ ctx, P ctx → P (stage.run c.operation now ctx).ctx)
    (hj : j ≤ c.stages.length) (hctx : c.contextAt now x j = some ctx) : P ctx := by
  induction j generalizing ctx with
  | zero =>
      rw [contextAt_zero, Option.some.injEq] at hctx
      exact hctx ▸ hstart
  | succ j ih =>
      have hstage : c.stages[j]? = some c.stages[j] := List.getElem?_eq_getElem hj
      obtain ⟨before, hbefore, -, rfl⟩ := contextAt_of_contextAt_succ hstage hctx
      exact hstep _ (List.getElem_mem hj) before (ih (Nat.le_of_succ_le hj) hbefore)

/-! ## The whole run -/

theorem calls_runBefore (hj : j ≤ c.stages.length) :
    (c.runBefore now x j).calls = (List.range j).flatMap (c.callsAt now x) := by
  induction j with
  | zero => simp [runBefore, runStages]
  | succ j ih =>
      have hstage : c.stages[j]? = some c.stages[j] := List.getElem?_eq_getElem hj
      rw [List.range_succ, List.flatMap_append, List.flatMap_singleton, ← ih (by omega)]
      cases hctx : c.contextAt now x j with
      | none => rw [runBefore_succ_of_stopped hctx, callsAt_of_not_reached hctx, List.append_nil]
      | some ctx => rw [runBefore_succ_of_reached hctx hstage, callsAt_eq hctx hstage]

theorem runBefore_length :
    c.runBefore now x c.stages.length =
      runStages c.operation now c.stages (.ofExchange x c.indexer) := by
  rw [runBefore, List.take_length]

theorem run_calls : (c.run now x).calls = (List.range c.length).flatMap (c.callsAt now x) := by
  have hcalls : (c.runBefore now x c.stages.length).calls =
      (List.range c.stages.length).flatMap (c.callsAt now x) := calls_runBefore (Nat.le_refl _)
  rw [runBefore_length] at hcalls
  rw [length, ← hcalls, run]
  cases hflow : (runStages c.operation now c.stages (.ofExchange x c.indexer)).flow <;> rfl

theorem stage_of_stepAt {step : Step} (hstep : c.stepAt now x j = some step) :
    ∃ ctx stage, c.contextAt now x j = some ctx ∧ c.stages[j]? = some stage ∧
      stage.run c.operation now ctx = step := by
  obtain ⟨ctx, hctx, hstep⟩ := Option.bind_eq_some_iff.mp hstep
  obtain ⟨stage, hstage, rfl⟩ := Option.map_eq_some_iff.mp hstep
  exact ⟨ctx, stage, hctx, hstage, rfl⟩

theorem runBefore_of_stop {step : Step} (hstep : c.stepAt now x j = some step)
    (hflow : step.flow ≠ .proceed) {k : ℕ} (hk : j < k) :
    (c.runBefore now x k).flow = step.flow ∧ c.contextAt now x k = none := by
  obtain ⟨ctx, stage, hctx, hstage, rfl⟩ := stage_of_stepAt hstep
  have hstopped : ∀ k, (c.runBefore now x k).flow = (stage.run c.operation now ctx).flow →
      c.contextAt now x k = none := by
    intro k h
    rw [contextAt, if_neg (h ▸ hflow)]
  induction hk with
  | refl =>
      have hnext := congrArg StagesRun.flow (runBefore_succ_of_reached hctx hstage)
      exact ⟨hnext, hstopped _ hnext⟩
  | step hk ih =>
      rw [← runBefore_succ_of_stopped ih.2] at ih
      exact ⟨ih.1, hstopped _ ih.1⟩

theorem stepAt_of_stop {step : Step} (hstep : c.stepAt now x j = some step)
    (hflow : step.flow ≠ .proceed) {k : ℕ} (hk : j < k) : c.stepAt now x k = none := by
  rw [stepAt, (runBefore_of_stop hstep hflow hk).2]
  rfl

theorem callsAt_of_stop {step : Step} (hstep : c.stepAt now x j = some step)
    (hflow : step.flow ≠ .proceed) {k : ℕ} (hk : j < k) : c.callsAt now x k = [] :=
  callsAt_of_not_reached (runBefore_of_stop hstep hflow hk).2

theorem run_calls_of_stop {step : Step} (hstep : c.stepAt now x j = some step)
    (hflow : step.flow ≠ .proceed) :
    (c.run now x).calls = (List.range j).flatMap (c.callsAt now x) ++ step.calls := by
  obtain ⟨_, stage, _, hstage, _⟩ := stage_of_stepAt hstep
  have hj : j < c.stages.length := (List.getElem?_eq_some_iff.mp hstage).1
  have hlater : ∀ k, j + 1 ≤ k →
      (List.range k).flatMap (c.callsAt now x) =
        (List.range (j + 1)).flatMap (c.callsAt now x) := by
    intro k hk
    induction hk with
    | refl => rfl
    | step hk ih =>
        rw [List.range_succ, List.flatMap_append, List.flatMap_singleton,
          callsAt_of_stop hstep hflow hk, List.append_nil, ih]
  rw [run_calls, length, hlater _ hj, List.range_succ, List.flatMap_append,
    List.flatMap_singleton, callsAt, hstep]
  rfl

/-- An abort decides the reply: the error's own response, whatever was written before. -/
theorem reply_of_abort {step : Step} {e : PipelineError} (hstep : c.stepAt now x j = some step)
    (hflow : step.flow = .abort e) :
    (c.run now x).reply = some (.response (e.response x.requestId)) := by
  obtain ⟨_, stage, _, hstage, _⟩ := stage_of_stepAt hstep
  have hj : j < c.stages.length := (List.getElem?_eq_some_iff.mp hstage).1
  have hrun := (runBefore_of_stop hstep (by simp [hflow]) hj).1
  rw [runBefore_length, hflow] at hrun
  simp only [run, hrun]

theorem reply_of_stall {step : Step} (hstep : c.stepAt now x j = some step)
    (hflow : step.flow = .stall) : (c.run now x).reply = none := by
  obtain ⟨_, stage, _, hstage, _⟩ := stage_of_stepAt hstep
  have hj : j < c.stages.length := (List.getElem?_eq_some_iff.mp hstage).1
  have hrun := (runBefore_of_stop hstep (by simp [hflow]) hj).1
  rw [runBefore_length, hflow] at hrun
  simp only [run, hrun]

theorem reply_of_contextAt_length (hctx : c.contextAt now x c.length = some ctx) :
    (c.run now x).reply = some (c.finish ctx) := by
  obtain ⟨hflow, rfl⟩ := contextAt_eq_some_iff.mp hctx
  rw [length, runBefore_length] at hflow ⊢
  simp only [run, hflow]

theorem reached_or_stopped (hj : j ≤ c.stages.length) :
    (∃ ctx, c.contextAt now x j = some ctx) ∨
      ∃ i step, c.stepAt now x i = some step ∧ step.flow ≠ .proceed := by
  induction j with
  | zero => exact .inl ⟨_, contextAt_zero⟩
  | succ j ih =>
      rcases ih (Nat.le_of_succ_le hj) with ⟨ctx, hctx⟩ | hstopped
      · have hstage : c.stages[j]? = some c.stages[j] := List.getElem?_eq_getElem hj
        by_cases hflow : (c.stages[j].run c.operation now ctx).flow = .proceed
        · left
          rw [contextAt_succ hstage, hctx, Option.bind_some, if_pos hflow]
          exact ⟨_, rfl⟩
        · exact .inr ⟨j, _, stepAt_eq hctx hstage, hflow⟩
      · exact .inr hstopped

/-! ## What a stage or an upgrade says about earlier stages -/

theorem continuesAt_of_stepAt {step : Step} (hstep : c.stepAt now x j = some step) {i : ℕ}
    (hi : i < j) : c.ContinuesAt now x i := by
  obtain ⟨ctx, stage, hctx, hstage, -⟩ := stage_of_stepAt hstep
  have hj : j < c.stages.length := (List.getElem?_eq_some_iff.mp hstage).1
  have hreached : (c.contextAt now x j).isSome := by simp [hctx]
  exact (isSome_contextAt_iff (Nat.le_of_lt hj)).mp hreached i hi

theorem continuesAt_of_callsAt_ne_nil (h : c.callsAt now x j ≠ []) {i : ℕ} (hi : i < j) :
    c.ContinuesAt now x i := by
  cases hstep : c.stepAt now x j with
  | none => simp [callsAt, hstep] at h
  | some step => exact continuesAt_of_stepAt hstep hi

theorem contextAt_length_of_upgrade {response : Response} {session : Context}
    (h : (c.run now x).reply = some (.upgrade response session)) :
    ∃ ctx, c.contextAt now x c.length = some ctx ∧ c.finish ctx = .upgrade response session := by
  rw [run] at h
  cases hflow : (runStages c.operation now c.stages (.ofExchange x c.indexer)).flow with
  | proceed =>
      simp only [hflow, Option.some.injEq] at h
      exact ⟨_, by rw [contextAt, length, runBefore_length, if_pos hflow], h⟩
  | abort e => simp [hflow] at h
  | stall => simp [hflow] at h

theorem continuesAt_of_upgrade {response : Response} {session : Context}
    (h : (c.run now x).reply = some (.upgrade response session)) (hj : j < c.length) :
    c.ContinuesAt now x j := by
  obtain ⟨ctx, hctx, -⟩ := contextAt_length_of_upgrade h
  have hreached : (c.contextAt now x c.length).isSome := by simp [hctx]
  exact (isSome_contextAt_iff (Nat.le_refl _)).mp hreached j hj

end Chain

/-- A request without headers or body. -/
def Exchange.plainGet : Exchange :=
  .ofTarget ⟨List.replicate 32 ⟨0, by decide⟩, by decide⟩ ⟨"GET"⟩ ⟨none, "", "/", none⟩

end Conduit
