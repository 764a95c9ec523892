import Conduit.Pipeline.Chain
import Conduit.Proofs.Checks
import Conduit.Proofs.Text

/-! # Resolving the tokens of a spec

Tokens are resolved one by one, in order: a spec in two parts resolves to the stages of the first
part and then those of the second. A token that asks for an authenticator resolves to it, whatever
is registered. -/

namespace Conduit

/-! ## Tokens one by one -/

namespace Resolver

variable {r : Registry} {o : ChainOptions} {t : Token} {stages : List Stage}
  {before after rest unresolved : List Token}

/-- A token adds its stage, or else itself to those that no tier claims. -/
theorem resolveAll_cons_eq_ok_iff :
    resolveAll r o (t :: rest) = .ok (stages, unresolved) ↔
      ∃ claimed later left, resolveToken r o t = .ok claimed ∧
        resolveAll r o rest = .ok (later, left) ∧ stages = claimed.toList ++ later ∧
        unresolved = (if claimed.isSome then [] else [t]) ++ left := by
  simp only [resolveAll, bind_eq_ok_iff, Prod.exists]
  constructor
  · rintro ⟨claimed, ht, later, left, hrest, h⟩
    refine ⟨claimed, later, left, ht, hrest, ?_⟩
    cases claimed with
    | none =>
        cases h
        exact ⟨rfl, rfl⟩
    | some stage =>
        cases h
        exact ⟨rfl, rfl⟩
  · rintro ⟨claimed, later, left, ht, hrest, rfl, rfl⟩
    refine ⟨claimed, ht, later, left, hrest, ?_⟩
    cases claimed with
    | none => rfl
    | some stage => rfl

theorem exists_of_resolveAll_append
    (h : resolveAll r o (before ++ after) = .ok (stages, unresolved)) :
    ∃ first left first' left',
      resolveAll r o before = .ok (first, left) ∧ resolveAll r o after = .ok (first', left') ∧
      stages = first ++ first' ∧ unresolved = left ++ left' := by
  induction before generalizing stages unresolved with
  | nil => exact ⟨[], [], stages, unresolved, rfl, h, rfl, rfl⟩
  | cons t before ih =>
      obtain ⟨claimed, later, left, ht, hrest, rfl, rfl⟩ := resolveAll_cons_eq_ok_iff.mp h
      obtain ⟨first, left, first', left', hbefore, hafter, rfl, rfl⟩ := ih hrest
      refine ⟨claimed.toList ++ first, _, first', left',
        resolveAll_cons_eq_ok_iff.mpr ⟨claimed, first, left, ht, hbefore, rfl, rfl⟩, hafter, ?_, ?_⟩
      · rw [List.append_assoc]
      · rw [List.append_assoc]

theorem resolveAll_append {first first' : List Stage} {left left' : List Token}
    (hbefore : resolveAll r o before = .ok (first, left))
    (hafter : resolveAll r o after = .ok (first', left')) :
    resolveAll r o (before ++ after) = .ok (first ++ first', left ++ left') := by
  induction before generalizing first left with
  | nil =>
      cases hbefore
      exact hafter
  | cons t before ih =>
      obtain ⟨claimed, later, left, ht, hrest, rfl, rfl⟩ := resolveAll_cons_eq_ok_iff.mp hbefore
      refine resolveAll_cons_eq_ok_iff.mpr
        ⟨claimed, later ++ first', left ++ left', ht, ih hrest, ?_, ?_⟩
      · rw [List.append_assoc]
      · rw [List.append_assoc]

/-- A spec resolves to the stages of its tokens. Strict or not, this only depends on whether every
token is claimed. -/
theorem resolve_eq_ok_iff {spec : Spec} :
    resolve r o spec = .ok stages ↔ ∃ unresolved,
      resolveAll r o spec.tokens = .ok (stages, unresolved) ∧
        (o.strict = true → unresolved = []) := by
  simp only [resolve, bind_eq_ok_iff, Prod.exists]
  constructor
  · rintro ⟨found, unresolved, hall, h⟩
    split at h
    · cases h
    · rename_i hlenient
      obtain rfl := pure_eq_ok_iff.mp h
      exact ⟨unresolved, hall, fun h => not_not.mp fun hne => hlenient ⟨h, hne⟩⟩
  · rintro ⟨unresolved, hall, hnone⟩
    refine ⟨stages, unresolved, hall, ?_⟩
    rw [if_neg fun hstrict => hstrict.2 (hnone hstrict.1)]
    rfl

end Resolver

/-! ## Tokens for authenticators -/

namespace Token

/-- The token asks for a scheme by its name, in any case and with blanks around it. -/
structure AsksFor (t : Token) (scheme : AuthScheme) : Prop where
  key : t.key = "auth"
  value : Text.lower (Text.trim t.value) = scheme.name

theorem asksFor_parse {text key value : String} {scheme : AuthScheme}
    (hsplit : Text.splitFirst '=' text = some (key, value)) (hkey : Text.trim key = "auth")
    (hvalue : Text.lower (Text.trim value) = scheme.name) : (parse text).AsksFor scheme := by
  rw [parse, hsplit]
  refine ⟨hkey, ?_⟩
  rw [Text.trim_trim]
  exact hvalue

theorem AsksFor.parse?_value {t : Token} {scheme : AuthScheme} (h : t.AsksFor scheme) :
    AuthScheme.parse? t.value = some scheme := by
  rw [AuthScheme.parse?, h.value]
  cases scheme <;> rfl

/-- The built-in tier comes before the registry, so nothing registered can take the token over. -/
theorem AsksFor.resolveToken {t : Token} {scheme : AuthScheme} (h : t.AsksFor scheme)
    (r : Registry) (o : ChainOptions) :
    Resolver.resolveToken r o t = .ok (some (.auth scheme)) := by
  have hhandler : Resolver.handlerTier t = .ok none := by
    rw [Resolver.handlerTier, h.key]
    rfl
  have hbuiltin : Resolver.builtinTier o t = .ok (some (.auth scheme)) := by
    rw [Resolver.builtinTier, h.key]
    simp only [h.parse?_value, Option.map_some]
  simp only [Resolver.resolveToken, Resolver.tiers, List.map_cons, Resolver.firstClaim, hhandler,
    hbuiltin]
  rfl

end Token

namespace Chain

variable {spec : Spec} {op : Operation} {r : Registry} {o : ChainOptions} {c : Chain}

theorem build_eq_ok_iff : Chain.build spec op r o = .ok c ↔
    Resolver.resolve r o spec = .ok c.stages ∧ c.spec = spec ∧ c.operation = op := by
  obtain ⟨own, stages, operation⟩ := c
  rw [Chain.build, map_eq_ok_iff]
  constructor
  · rintro ⟨_, hstages, h⟩
    cases h
    exact ⟨hstages, rfl, rfl⟩
  · rintro ⟨hstages, rfl, rfl⟩
    exact ⟨_, hstages, rfl⟩

theorem resolveAll_of_build (hbuild : Chain.build spec op r o = .ok c) :
    ∃ unresolved, Resolver.resolveAll r o spec.tokens = .ok (c.stages, unresolved) := by
  obtain ⟨unresolved, hall, -⟩ := Resolver.resolve_eq_ok_iff.mp (build_eq_ok_iff.mp hbuild).1
  exact ⟨unresolved, hall⟩

/-- The stages of a chain are those of the tokens before such a token, its authenticator, and those
of the tokens behind it. -/
theorem stages_of_asksFor {before after : List Token} {t : Token} {scheme : AuthScheme}
    (hbuild : Chain.build spec op r o = .ok c) (hspec : spec.tokens = before ++ t :: after)
    (ht : t.AsksFor scheme) :
    ∃ first left rest left', Resolver.resolveAll r o before = .ok (first, left) ∧
      Resolver.resolveAll r o after = .ok (rest, left') ∧
      c.stages = first ++ .auth scheme :: rest := by
  obtain ⟨unresolved, hall⟩ := resolveAll_of_build hbuild
  rw [hspec] at hall
  obtain ⟨first, left, second, _, hbefore, hsecond, hstages, -⟩ :=
    Resolver.exists_of_resolveAll_append hall
  obtain ⟨claimed, rest, left', hclaimed, hafter, rfl, -⟩ :=
    Resolver.resolveAll_cons_eq_ok_iff.mp hsecond
  rw [ht.resolveToken, Except.ok.injEq] at hclaimed
  subst hclaimed
  exact ⟨first, left, rest, left', hbefore, hafter, hstages⟩

end Chain

end Conduit
