import Mathlib.Data.List.Forall2
import Conduit.Proofs.Pipeline.Resolution

/-! # Resolving a whole spec

A token is decided by the first tier that does not pass it. A spec fails at its leftmost rejected
token, however strict resolution is; only if there is none does it matter which tokens nobody
claims. What the first two tiers decide is out of reach of every registry. -/

namespace Conduit

namespace Resolver

variable {r r' : Registry} {o : ChainOptions} {t : Token}

/-! ## The tiers of a token -/

/-- What tiers that are asked in order make of a token: all of them pass it, or the first that does
not has a stage for it or rejects its value. -/
inductive Decides (t : Token) : List Tier → Except PipelineError (Option Stage) → Prop
  | passed {tiers : List Tier} (pass : ∀ tier ∈ tiers, tier t = .ok none) :
      Decides t tiers (.ok none)
  | claimed (before : List Tier) {after : List Tier} {tier : Tier} {stage : Stage}
      (pass : ∀ other ∈ before, other t = .ok none) (claim : tier t = .ok (some stage)) :
      Decides t (before ++ tier :: after) (.ok (some stage))
  | rejected (before : List Tier) {after : List Tier} {tier : Tier} {e : PipelineError}
      (pass : ∀ other ∈ before, other t = .ok none) (reject : tier t = .error e) :
      Decides t (before ++ tier :: after) (.error e)

section Tiers

variable {tier : Tier} {tiers before after : List Tier} {stage : Stage} {e : PipelineError}

theorem firstClaim_cons_of_pass (h : tier t = .ok none) :
    firstClaim t (tier :: after) = firstClaim t after := by
  rw [firstClaim, h]
  rfl

theorem firstClaim_cons_of_claim (h : tier t = .ok (some stage)) :
    firstClaim t (tier :: after) = .ok (some stage) := by
  rw [firstClaim, h]
  rfl

theorem firstClaim_cons_of_reject (h : tier t = .error e) :
    firstClaim t (tier :: after) = .error e := by
  rw [firstClaim, h]
  rfl

theorem firstClaim_append_of_pass (h : ∀ other ∈ before, other t = .ok none) :
    firstClaim t (before ++ after) = firstClaim t after := by
  induction before with
  | nil => rfl
  | cons tier rest ih =>
      obtain ⟨htier, hrest⟩ := List.forall_mem_cons.mp h
      rw [List.cons_append, firstClaim_cons_of_pass htier, ih hrest]

theorem Decides.execution {answer : Except PipelineError (Option Stage)}
    (h : Decides t tiers answer) : firstClaim t tiers = answer := by
  cases h with
  | passed pass =>
      rw [← List.append_nil tiers, firstClaim_append_of_pass pass]
      rfl
  | claimed before pass claim => rw [firstClaim_append_of_pass pass, firstClaim_cons_of_claim claim]
  | rejected before pass reject => rw [firstClaim_append_of_pass pass, firstClaim_cons_of_reject reject]

theorem Decides.cons {answer : Except PipelineError (Option Stage)} (htier : tier t = .ok none)
    (h : Decides t tiers answer) : Decides t (tier :: tiers) answer := by
  cases h with
  | passed pass => exact .passed (List.forall_mem_cons.mpr ⟨htier, pass⟩)
  | claimed before pass claim =>
      exact .claimed (tier :: before) (List.forall_mem_cons.mpr ⟨htier, pass⟩) claim
  | rejected before pass reject =>
      exact .rejected (tier :: before) (List.forall_mem_cons.mpr ⟨htier, pass⟩) reject

theorem decides_firstClaim (t : Token) (tiers : List Tier) :
    Decides t tiers (firstClaim t tiers) := by
  induction tiers with
  | nil => exact .passed (by simp)
  | cons tier rest ih =>
      cases htier : tier t with
      | error e =>
          rw [firstClaim_cons_of_reject htier]
          exact .rejected [] (by simp) htier
      | ok claimed =>
          cases claimed with
          | some stage =>
              rw [firstClaim_cons_of_claim htier]
              exact .claimed [] (by simp) htier
          | none =>
              rw [firstClaim_cons_of_pass htier]
              exact ih.cons htier

theorem decides_iff {answer : Except PipelineError (Option Stage)} :
    Decides t tiers answer ↔ firstClaim t tiers = answer := by
  refine ⟨Decides.execution, ?_⟩
  rintro rfl
  exact decides_firstClaim t tiers

end Tiers

end Resolver

/-! ## Tokens of the library's own -/

/-- The token is for a stage that the library has itself: one of four by its key, or an
authenticator by its scheme. -/
inductive Token.IsBuiltIn : Token → Prop
  | handle (value : String) : IsBuiltIn ⟨"handle", value⟩
  | wsHandle (value : String) : IsBuiltIn ⟨"ws_handle", value⟩
  | req (value : String) : IsBuiltIn ⟨"req", value⟩
  | rsp (value : String) : IsBuiltIn ⟨"rsp", value⟩
  | auth {value : String} {scheme : AuthScheme} (parsed : AuthScheme.parse? value = some scheme) :
      IsBuiltIn ⟨"auth", value⟩

namespace Resolver

variable {r r' : Registry} {o : ChainOptions} {t : Token}

theorem firstClaim_append_of_ne {before : List Tier} (h : firstClaim t before ≠ .ok none)
    (after : List Tier) : firstClaim t (before ++ after) = firstClaim t before := by
  generalize hbefore : firstClaim t before = answer at h
  rw [← decides_iff] at hbefore ⊢
  cases hbefore with
  | passed pass => exact absurd rfl h
  | claimed first pass claim =>
      rw [List.append_assoc, List.cons_append]
      exact .claimed first pass claim
  | rejected first pass reject =>
      rw [List.append_assoc, List.cons_append]
      exact .rejected first pass reject

/-- A tier that makes a stage of what it reads in the value does not pass the token. -/
theorem firstClaim_cons_ne_of_map {α : Type} {tier : Tier} {after : List Tier}
    {read : Except PipelineError α} {make : α → Stage} (h : tier t = read.map (some ∘ make)) :
    firstClaim t (tier :: after) ≠ .ok none := by
  cases read with
  | error e =>
      rw [firstClaim_cons_of_reject h]
      simp
  | ok a =>
      rw [firstClaim_cons_of_claim h]
      simp

theorem firstClaim_ne_of_isBuiltIn (h : t.IsBuiltIn) :
    firstClaim t [handlerTier, builtinTier o] ≠ .ok none := by
  cases h with
  | handle value =>
      rw [firstClaim_cons_of_claim rfl]
      simp
  | wsHandle value =>
      rw [firstClaim_cons_of_claim rfl]
      simp
  | req value =>
      have htier : builtinTier o ⟨"req", value⟩ =
          (Decoder.parse value o.maxBodySize).map (some ∘ .req) := rfl
      rw [firstClaim_cons_of_pass rfl]
      exact firstClaim_cons_ne_of_map htier
  | rsp value =>
      have htier : builtinTier o ⟨"rsp", value⟩ = (Encoder.parse value).map (some ∘ .rsp) := rfl
      rw [firstClaim_cons_of_pass rfl]
      exact firstClaim_cons_ne_of_map htier
  | @auth value scheme parsed =>
      have htier : builtinTier o ⟨"auth", value⟩ = .ok (some (.auth scheme)) := by
        rw [builtinTier]
        simp only [parsed, Option.map_some]
      rw [firstClaim_cons_of_pass rfl, firstClaim_cons_of_claim htier]
      simp

theorem resolveToken_of_isBuiltIn (h : t.IsBuiltIn) :
    resolveToken r o t = firstClaim t [handlerTier, builtinTier o] :=
  firstClaim_append_of_ne (firstClaim_ne_of_isBuiltIn h) [registryTier r]

theorem resolveToken_of_not_isBuiltIn (h : ¬ t.IsBuiltIn) :
    resolveToken r o t = registryTier r t := by
  obtain ⟨key, value⟩ := t
  have hhandler : handlerTier ⟨key, value⟩ = .ok none := by
    rw [handlerTier]
    split
    · rename_i hkey
      obtain rfl : key = "handle" := hkey
      exact absurd (.handle value) h
    · rename_i hkey
      obtain rfl : key = "ws_handle" := hkey
      exact absurd (.wsHandle value) h
    · rfl
  have hbuiltin : builtinTier o ⟨key, value⟩ = .ok none := by
    rw [builtinTier]
    split
    · rename_i hkey
      obtain rfl : key = "req" := hkey
      exact absurd (.req value) h
    · rename_i hkey
      obtain rfl : key = "rsp" := hkey
      exact absurd (.rsp value) h
    · rename_i hkey
      obtain rfl : key = "auth" := hkey
      cases hparse : AuthScheme.parse? value with
      | none => rfl
      | some scheme => exact absurd (.auth hparse) h
    · rfl
  show firstClaim ⟨key, value⟩ [handlerTier, builtinTier o, registryTier r] = _
  rw [firstClaim_cons_of_pass hhandler, firstClaim_cons_of_pass hbuiltin]
  cases hregistry : registryTier r ⟨key, value⟩ with
  | error e => rw [firstClaim_cons_of_reject hregistry]
  | ok claimed =>
      cases claimed with
      | none => rw [firstClaim_cons_of_pass hregistry, firstClaim]
      | some stage => rw [firstClaim_cons_of_claim hregistry]

/-! ## All tokens of a spec -/

def Accepts (r : Registry) (o : ChainOptions) (t : Token) : Prop :=
  ∃ claimed, resolveToken r o t = .ok claimed

def stage? (r : Registry) (o : ChainOptions) (t : Token) : Option Stage :=
  match resolveToken r o t with
  | .ok claimed => claimed
  | .error _ => none

def isUnclaimed (r : Registry) (o : ChainOptions) (t : Token) : Bool :=
  match resolveToken r o t with
  | .ok none => true
  | _ => false

section Tokens

variable {tokens before after : List Token} {e : PipelineError}

theorem stage?_eq_some_iff {stage : Stage} :
    stage? r o t = some stage ↔ resolveToken r o t = .ok (some stage) := by
  rw [stage?]
  split <;> simp_all

theorem Accepts.unclaimed_or_claimed (h : Accepts r o t) :
    isUnclaimed r o t = true ∧ stage? r o t = none ∨
      isUnclaimed r o t = false ∧ ∃ stage, stage? r o t = some stage := by
  obtain ⟨claimed, hclaimed⟩ := h
  cases claimed with
  | none => exact .inl (by simp [isUnclaimed, stage?, hclaimed])
  | some stage => exact .inr (by simp [isUnclaimed, stage?, hclaimed])

theorem resolveAll_of_accepts (h : ∀ t ∈ tokens, Accepts r o t) :
    resolveAll r o tokens =
      .ok (tokens.filterMap (stage? r o), tokens.filter (isUnclaimed r o)) := by
  induction tokens with
  | nil => rfl
  | cons t rest ih =>
      obtain ⟨⟨claimed, hclaimed⟩, hrest⟩ := List.forall_mem_cons.mp h
      refine resolveAll_cons_eq_ok_iff.mpr ⟨claimed, _, _, hclaimed, ih hrest, ?_, ?_⟩
      · cases claimed <;> simp [stage?, hclaimed]
      · cases claimed <;> simp [isUnclaimed, hclaimed]

theorem resolveAll_of_error (h : ∀ t ∈ before, Accepts r o t) (he : resolveToken r o t = .error e) :
    resolveAll r o (before ++ t :: after) = .error e := by
  induction before with
  | nil => simp [resolveAll, he, bind, Except.bind]
  | cons first rest ih =>
      obtain ⟨⟨claimed, hclaimed⟩, hrest⟩ := List.forall_mem_cons.mp h
      simp [resolveAll, hclaimed, ih hrest, bind, Except.bind]

theorem accepts_or_rejects (r : Registry) (o : ChainOptions) (tokens : List Token) :
    (∀ t ∈ tokens, Accepts r o t) ∨ ∃ before t after e, tokens = before ++ t :: after ∧
      (∀ b ∈ before, Accepts r o b) ∧ resolveToken r o t = .error e := by
  induction tokens with
  | nil => exact .inl (by simp)
  | cons t rest ih =>
      cases ht : resolveToken r o t with
      | error e => exact .inr ⟨[], t, rest, e, rfl, by simp, ht⟩
      | ok claimed =>
          rcases ih with hrest | ⟨before, t', after, e, rfl, hbefore, ht'⟩
          · exact .inl (List.forall_mem_cons.mpr ⟨⟨claimed, ht⟩, hrest⟩)
          · exact .inr ⟨t :: before, t', after, e, rfl,
              List.forall_mem_cons.mpr ⟨⟨claimed, ht⟩, hbefore⟩, ht'⟩

end Tokens

/-- What becomes of a spec: its leftmost rejected token fails it; if there is none, the tokens that
nobody claims fail it in strict mode; if neither does, each claimed token has its stage. -/
inductive Resolves (r : Registry) (o : ChainOptions) (spec : Spec) :
    Except PipelineError (List Stage) → Prop
  | rejected (before : List Token) (t : Token) (after : List Token) {e : PipelineError}
      (split : spec.tokens = before ++ t :: after) (first : ∀ b ∈ before, Accepts r o b)
      (reject : resolveToken r o t = .error e) : Resolves r o spec (.error e)
  | unresolved (accepted : ∀ t ∈ spec.tokens, Accepts r o t) (strict : o.strict = true)
      (unclaimed : spec.tokens.filter (isUnclaimed r o) ≠ []) :
      Resolves r o spec
        (.error (.configuration (.unresolved spec (spec.tokens.filter (isUnclaimed r o)))))
  | resolved (accepted : ∀ t ∈ spec.tokens, Accepts r o t)
      (complete : o.strict = true → spec.tokens.filter (isUnclaimed r o) = []) :
      Resolves r o spec (.ok (spec.tokens.filterMap (stage? r o)))

section Specs

variable {spec : Spec} {answer : Except PipelineError (List Stage)}

theorem Resolves.execution (h : Resolves r o spec answer) : resolve r o spec = answer := by
  cases h with
  | rejected before t after split first reject =>
      rw [resolve, split, resolveAll_of_error first reject]
      rfl
  | unresolved accepted strict unclaimed =>
      rw [resolve, resolveAll_of_accepts accepted]
      simp only [bind, Except.bind]
      rw [if_pos ⟨strict, unclaimed⟩]
      rfl
  | resolved accepted complete =>
      exact resolve_eq_ok_iff.mpr ⟨_, resolveAll_of_accepts accepted, complete⟩

theorem resolve_resolves (r : Registry) (o : ChainOptions) (spec : Spec) :
    Resolves r o spec (resolve r o spec) := by
  have hanswer : ∃ answer, Resolves r o spec answer := by
    rcases accepts_or_rejects r o spec.tokens with h | ⟨before, t, after, e, hsplit, hfirst, ht⟩
    · by_cases hcomplete : o.strict = true → spec.tokens.filter (isUnclaimed r o) = []
      · exact ⟨_, .resolved h hcomplete⟩
      · rw [Classical.not_imp] at hcomplete
        exact ⟨_, .unresolved h hcomplete.1 hcomplete.2⟩
    · exact ⟨_, .rejected before t after hsplit hfirst ht⟩
  obtain ⟨answer, h⟩ := hanswer
  rw [h.execution]
  exact h

theorem resolves_iff : Resolves r o spec answer ↔ resolve r o spec = answer := by
  refine ⟨Resolves.execution, ?_⟩
  rintro rfl
  exact resolve_resolves r o spec

end Specs

/-! ## Strict and lenient -/

section Modes

variable {tokens : List Token} {stages : List Stage} {spec : Spec}

/-- The token has a stage of its own at its place among the stages. -/
abbrev StageOf (r : Registry) (o : ChainOptions) (t : Token) (stage : Stage) : Prop :=
  resolveToken r o t = .ok (some stage)

theorem forall₂_stageOf_iff :
    List.Forall₂ (StageOf r o) tokens stages ↔
      (∀ t ∈ tokens, Accepts r o t) ∧ tokens.filter (isUnclaimed r o) = [] ∧
        tokens.filterMap (stage? r o) = stages := by
  constructor
  · intro h
    induction h with
    | nil => simp
    | @cons t stage tokens stages ht _ ih =>
        obtain ⟨haccepts, hclaimed, hstages⟩ := ih
        refine ⟨List.forall_mem_cons.mpr ⟨⟨_, ht⟩, haccepts⟩, ?_, ?_⟩
        · simpa [isUnclaimed, ht] using hclaimed
        · simp [stage?, ht, ← hstages]
  · rintro ⟨haccepts, hclaimed, rfl⟩
    induction tokens with
    | nil => exact .nil
    | cons t rest ih =>
        obtain ⟨ht, hrest⟩ := List.forall_mem_cons.mp haccepts
        rcases ht.unclaimed_or_claimed with ⟨hunclaimed, -⟩ | ⟨hfalse, stage, hstage⟩
        · simp [hunclaimed] at hclaimed
        · rw [List.filter_cons_of_neg (by simp [hfalse])] at hclaimed
          rw [List.filterMap_cons_some hstage]
          exact .cons (stage?_eq_some_iff.mp hstage) (ih hrest hclaimed)

theorem resolve_strict_eq_ok_iff (h : o.strict = true) :
    resolve r o spec = .ok stages ↔ List.Forall₂ (StageOf r o) spec.tokens stages := by
  rw [← resolves_iff, forall₂_stageOf_iff]
  constructor
  · intro hresolves
    cases hresolves with
    | resolved accepted complete => exact ⟨accepted, complete h, rfl⟩
  · rintro ⟨accepted, complete, rfl⟩
    exact .resolved accepted fun _ => complete

/-- The spec without the tokens that nobody claims. -/
def claimedPart (r : Registry) (o : ChainOptions) (spec : Spec) : Spec :=
  ⟨spec.tokens.filter fun t => !isUnclaimed r o t⟩

/-- Dropping unclaimed tokens on the way is resolving strictly without them. -/
theorem resolve_lenient :
    resolve r { o with strict := false } spec =
      resolve r { o with strict := true } (claimedPart r o spec) := by
  rcases accepts_or_rejects r o spec.tokens with h | ⟨before, t, after, e, hsplit, hfirst, ht⟩
  · have hlenient : Resolves r { o with strict := false } spec _ := .resolved h (by simp)
    have hpart : ∀ t ∈ (claimedPart r o spec).tokens, Accepts r o t := by
      intro t ht
      exact h t (List.mem_of_mem_filter ht)
    have hcomplete : (claimedPart r o spec).tokens.filter (isUnclaimed r o) = [] := by
      simp [claimedPart, List.filter_filter]
    have hstrict : Resolves r { o with strict := true } (claimedPart r o spec) _ :=
      .resolved hpart fun _ => hcomplete
    rw [hlenient.execution, hstrict.execution]
    show Except.ok (spec.tokens.filterMap (stage? r o)) =
      .ok ((spec.tokens.filter fun t => !isUnclaimed r o t).filterMap (stage? r o))
    rw [List.filterMap_filter]
    congr 1
    refine List.filterMap_congr fun t ht => ?_
    rcases (h t ht).unclaimed_or_claimed with ⟨hunclaimed, hnone⟩ | ⟨hfalse, -⟩
    · simp [hunclaimed, hnone]
    · simp [hfalse]
  · have hlenient : Resolves r { o with strict := false } spec (.error e) :=
      .rejected before t after hsplit hfirst ht
    have hclaimed : isUnclaimed r o t = false := by simp [isUnclaimed, ht]
    have hstrict : Resolves r { o with strict := true } (claimedPart r o spec) (.error e) := by
      refine .rejected (before.filter fun t => !isUnclaimed r o t) t
        (after.filter fun t => !isUnclaimed r o t) ?_ ?_ ht
      · simp [claimedPart, hsplit, hclaimed]
      · intro b hb
        exact hfirst b (List.mem_of_mem_filter hb)
    rw [hlenient.execution, hstrict.execution]

end Modes

/-! ## Any two registries -/

theorem resolveAll_congr {tokens : List Token}
    (h : ∀ t ∈ tokens, resolveToken r' o t = resolveToken r o t) :
    resolveAll r' o tokens = resolveAll r o tokens := by
  induction tokens with
  | nil => rfl
  | cons t rest ih =>
      obtain ⟨ht, hrest⟩ := List.forall_mem_cons.mp h
      rw [resolveAll, resolveAll, ht, ih hrest]

/-- How a registry and options resolve a spec. -/
structure Resolution (r : Registry) (o : ChainOptions) (spec : Spec) : Prop where
  outcome : ∀ answer, resolve r o spec = answer ↔ Resolves r o spec answer
  /-- A failure that no token's value is to blame for names the unclaimed tokens, in order. -/
  named : (∀ t ∈ spec.tokens, Accepts r o t) → ∀ e, resolve r o spec = .error e →
    e.message = "configuration error: unresolved tokens in " ++ Text.quoted spec.text ++ ": " ++
      Text.joinWith ", "
        ((spec.tokens.filter (isUnclaimed r o)).map fun t => Text.quoted t.text)
  strict : o.strict = true → ∀ stages,
    resolve r o spec = .ok stages ↔ List.Forall₂ (StageOf r o) spec.tokens stages
  lenient : resolve r { o with strict := false } spec =
    resolve r { o with strict := true } (claimedPart r o spec)
  decided : ∀ t answer, resolveToken r o t = answer ↔
    Decides t [handlerTier, builtinTier o, registryTier r] answer
  /-- The library's own tokens are resolved alike whatever is registered, and all others are left to
  the registry. -/
  builtIn : ∀ t, t.IsBuiltIn → ∀ r', resolveToken r' o t = resolveToken r o t
  custom : ∀ t, ¬ t.IsBuiltIn → resolveToken r o t = registryTier r t
  alike : (∀ t ∈ spec.tokens, t.IsBuiltIn) → ∀ r', resolve r' o spec = resolve r o spec

/-- A spec fails with the error of its leftmost rejected token, or else in strict mode with the names
of the tokens that nobody claims, or else it has the stages of the claimed tokens in order. Lenient
resolution is strict resolution without the unclaimed tokens. Each token is decided by the first
tier that does not pass it, and the library's own tokens before the registry is asked. -/
theorem resolution (r : Registry) (o : ChainOptions) (spec : Spec) : Resolution r o spec := by
  have hbuiltIn : ∀ t, t.IsBuiltIn → ∀ r', resolveToken r' o t = resolveToken r o t := by
    intro t ht r'
    rw [resolveToken_of_isBuiltIn ht, resolveToken_of_isBuiltIn ht]
  refine ⟨fun answer => resolves_iff.symm, fun haccepts e he => ?_,
    fun hstrict stages => resolve_strict_eq_ok_iff hstrict, resolve_lenient,
    fun t answer => decides_iff.symm, hbuiltIn, fun t => resolveToken_of_not_isBuiltIn,
    fun hspec r' => ?_⟩
  · rw [← resolves_iff] at he
    cases he with
    | rejected before t after split first reject =>
        obtain ⟨claimed, hclaimed⟩ := haccepts t (by simp [split])
        rw [reject] at hclaimed
        cases hclaimed
    | unresolved accepted strict unclaimed => rfl
  · rw [resolve, resolve, resolveAll_congr fun t ht => hbuiltIn t (hspec t ht) r']

/-- Tokens that nobody claims are named with the empty one, or dropped. -/
example :
    (resolve .empty ⟨true, 9⟩ (Spec.parse "req|audit|handle||rsp")).map (·.map Stage.name) =
      .error (.configuration (.unresolved (Spec.parse "req|audit|handle||rsp")
        [⟨"audit", ""⟩, ⟨"", ""⟩])) ∧
    (resolve .empty ⟨false, 9⟩ (Spec.parse "req|audit|handle||rsp")).map (·.map Stage.name) =
      .ok ["req", "handle", "rsp"] := by
  decide +kernel

end Resolver

end Conduit
