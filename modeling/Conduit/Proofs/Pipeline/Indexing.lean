import Conduit.Proofs.Pipeline.Resolution

/-! # The decoder and the encoder that a chain goes by

A chain goes by the first decoder and the first encoder of its stages. Every stage of a chain that
was built comes from a token of its spec, so its decoders have the limit of the options. -/

namespace Conduit

/-! ## The first of each -/

namespace Stage

def decoder? : Stage → Option Decoder
  | req d => some d
  | _ => none

def encoder? : Stage → Option Encoder
  | rsp e => some e
  | _ => none

variable {stage : Stage} {d : Decoder} {e : Encoder}

theorem decoder?_eq_some_iff : stage.decoder? = some d ↔ stage = req d := by
  cases stage <;> simp [decoder?]

theorem encoder?_eq_some_iff : stage.encoder? = some e ↔ stage = rsp e := by
  cases stage <;> simp [encoder?]

end Stage

namespace Indexer

theorem offer_eq (i : Indexer) (stage : Stage) :
    i.offer stage = ⟨i.req.or stage.decoder?, i.rsp.or stage.encoder?⟩ := by
  cases stage <;> simp [offer, Stage.decoder?, Stage.encoder?]

theorem foldl_offer (i : Indexer) (stages : List Stage) :
    stages.foldl offer i =
      ⟨i.req.or (stages.findSome? Stage.decoder?), i.rsp.or (stages.findSome? Stage.encoder?)⟩ := by
  induction stages generalizing i with
  | nil => simp
  | cons stage rest ih =>
      rw [List.foldl_cons, ih, offer_eq, List.findSome?_cons, List.findSome?_cons]
      cases stage.decoder? <;> cases stage.encoder? <;> simp

theorem ofStages_eq (stages : List Stage) :
    ofStages stages = ⟨stages.findSome? Stage.decoder?, stages.findSome? Stage.encoder?⟩ :=
  (foldl_offer .empty stages).trans (by simp [empty])

end Indexer

/-! ## From the tokens of a spec -/

namespace Resolver

variable {r : Registry} {o : ChainOptions} {t : Token} {stage : Stage} {d : Decoder}

theorem mem_of_resolveAll {tokens unresolved : List Token} {stages : List Stage}
    (h : resolveAll r o tokens = .ok (stages, unresolved)) (hmem : stage ∈ stages) :
    ∃ t ∈ tokens, resolveToken r o t = .ok (some stage) := by
  induction tokens generalizing stages unresolved with
  | nil =>
      cases h
      cases hmem
  | cons t rest ih =>
      obtain ⟨claimed, later, left, ht, hrest, rfl, -⟩ := resolveAll_cons_eq_ok_iff.mp h
      rcases List.mem_append.mp hmem with hclaimed | hlater
      · rw [Option.mem_toList.mp hclaimed] at ht
        exact ⟨t, List.mem_cons_self, ht⟩
      · obtain ⟨t', ht', hresolve⟩ := ih hrest hlater
        exact ⟨t', List.mem_cons_of_mem t ht', hresolve⟩

theorem exists_tier_of_firstClaim {tiers : List Tier}
    (h : firstClaim t tiers = .ok (some stage)) : ∃ tier ∈ tiers, tier t = .ok (some stage) := by
  induction tiers with
  | nil => cases h
  | cons tier rest ih =>
      rw [firstClaim] at h
      cases htier : tier t with
      | error e =>
          rw [htier] at h
          cases h
      | ok claimed =>
          rw [htier] at h
          cases claimed with
          | some found =>
              cases h
              exact ⟨tier, List.mem_cons_self, htier⟩
          | none =>
              obtain ⟨later, hmem, hlater⟩ := ih h
              exact ⟨later, List.mem_cons_of_mem tier hmem, hlater⟩

theorem custom_of_registryTier (h : registryTier r t = .ok (some stage)) :
    ∃ provider, stage = .custom provider := by
  have hmap : ∀ {created : Option Provider},
      (.ok (created.map .custom) : Except PipelineError (Option Stage)) = .ok (some stage) →
        ∃ provider, stage = .custom provider := by
    intro created hcreated
    obtain ⟨provider, -, rfl⟩ := Option.map_eq_some_iff.mp (Except.ok.inj hcreated)
    exact ⟨provider, rfl⟩
  simp only [registryTier] at h
  split at h
  · cases h
  · split at h
    · split at h
      · cases h
      · exact hmap h
    · exact hmap h

/-- Only the built-in tier makes decoders. -/
theorem parse_of_resolveToken (h : resolveToken r o t = .ok (some (.req d))) :
    Decoder.parse t.value o.maxBodySize = .ok d := by
  obtain ⟨tier, hmem, htier⟩ := exists_tier_of_firstClaim h
  simp only [tiers, List.map_cons, List.map_nil, List.mem_cons, List.not_mem_nil, or_false] at hmem
  rcases hmem with rfl | rfl | rfl
  · rw [handlerTier] at htier
    split at htier <;> cases htier
  · rw [builtinTier] at htier
    split at htier
    · cases hparse : Decoder.parse t.value o.maxBodySize with
      | error e =>
          rw [hparse] at htier
          cases htier
      | ok found =>
          rw [hparse] at htier
          cases htier
          rfl
    · cases hparse : Encoder.parse t.value <;> rw [hparse] at htier <;> cases htier
    · cases hscheme : AuthScheme.parse? t.value <;> rw [hscheme] at htier <;> cases htier
    · cases htier
  · obtain ⟨provider, hprovider⟩ := custom_of_registryTier htier
    cases hprovider

end Resolver

namespace Decoder

variable {value : String} {limit : ℕ} {d d' : Decoder}

theorem limit_of_select {letter : Char} (h : select value d letter = .ok d') :
    d'.limit = d.limit := by
  rw [select] at h
  split at h <;> cases h <;> rfl

theorem limit_of_foldlM {letters : List Char} (h : letters.foldlM (select value) d = .ok d') :
    d'.limit = d.limit := by
  induction letters generalizing d with
  | nil =>
      cases h
      rfl
  | cons letter rest ih =>
      rw [List.foldlM_cons] at h
      cases hselect : select value d letter with
      | error e =>
          rw [hselect] at h
          cases h
      | ok selected =>
          rw [hselect] at h
          exact (ih h).trans (limit_of_select hselect)

/-- Whatever letters select its sources, a decoder has the limit that it is given. -/
theorem limit_of_parse (h : parse value limit = .ok d) : d.limit = limit := by
  simp only [parse] at h
  split at h
  · cases h
    rfl
  · exact limit_of_foldlM h

end Decoder

namespace Chain

variable {spec : Spec} {op : Operation} {r : Registry} {o : ChainOptions} {c : Chain}
  {d : Decoder} {e : Encoder}

theorem limit_of_build (hbuild : Chain.build spec op r o = .ok c) (hmem : .req d ∈ c.stages) :
    d.limit = o.maxBodySize := by
  obtain ⟨unresolved, hresolve⟩ := resolveAll_of_build hbuild
  obtain ⟨t, -, ht⟩ := Resolver.mem_of_resolveAll hresolve hmem
  exact Decoder.limit_of_parse (Resolver.parse_of_resolveToken ht)

theorem mem_of_indexer_req (h : c.indexer.req = some d) : .req d ∈ c.stages := by
  rw [indexer, Indexer.ofStages_eq] at h
  obtain ⟨stage, hmem, hstage⟩ := List.exists_of_findSome?_eq_some h
  exact Stage.decoder?_eq_some_iff.mp hstage ▸ hmem

theorem mem_of_indexer_rsp (h : c.indexer.rsp = some e) : .rsp e ∈ c.stages := by
  rw [indexer, Indexer.ofStages_eq] at h
  obtain ⟨stage, hmem, hstage⟩ := List.exists_of_findSome?_eq_some h
  exact Stage.encoder?_eq_some_iff.mp hstage ▸ hmem

theorem not_mem_of_indexer_req (h : c.indexer.req = none) : .req d ∉ c.stages := by
  rw [indexer, Indexer.ofStages_eq, List.findSome?_eq_none_iff] at h
  exact fun hmem => nomatch h _ hmem

theorem exists_indexer_req (hmem : .req d ∈ c.stages) : ∃ first, c.indexer.req = some first :=
  Option.ne_none_iff_exists'.mp fun hnone => not_mem_of_indexer_req hnone hmem

theorem exists_indexer_rsp (hmem : .rsp e ∈ c.stages) : ∃ first, c.indexer.rsp = some first := by
  rw [← Option.ne_none_iff_exists', indexer, Indexer.ofStages_eq, ne_eq,
    List.findSome?_eq_none_iff]
  exact fun hnone => nomatch hnone _ hmem

end Chain

end Conduit
