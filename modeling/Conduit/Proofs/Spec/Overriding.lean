import Mathlib.Data.List.Nodup
import Conduit.Proofs.Spec.Walk

/-! # Overriding the tokens of a base

A token of the route between two `...` replaces the token of its key in the base, and the rest of
the base stays in place, as long as the route names tokens of the base in their order. One that
comes late, behind an override of a later token, does not find its own any more: the token that it
was to replace has been copied, and it is written next to it. -/

namespace Conduit

def Token.ellipsis : Token := ⟨"...", ""⟩

namespace Spec

/-! ## Overrides in the order of the base -/

/-- A route that writes some tokens and then overrides some of what is left of the base, with a
`...` before, between and behind the overrides. -/
def overriding (first overrides : List Token) : Spec :=
  ⟨first ++ .ellipsis :: overrides.flatMap fun t => [t, .ellipsis]⟩

def beyond (s : Spec) (count : ℕ) : List Token := s.tokens.drop (min count s.length)

/-- The tokens of a base, each replaced by the override of its key if there is one. -/
def overridden (overrides base : List Token) : List Token :=
  base.map fun u => (overrides.find? fun t => t.key == u.key).getD u

theorem overridden_append (overrides front back : List Token) :
    overridden overrides (front ++ back) = overridden overrides front ++ overridden overrides back :=
  List.map_append

theorem overridden_eq_self {overrides base : List Token}
    (h : ∀ u ∈ base, u.key ∉ overrides.map Token.key) : overridden overrides base = base := by
  conv_rhs => rw [← List.map_id base]
  refine List.map_congr_left fun u hu => ?_
  rw [List.find?_eq_none.mpr, Option.getD_none, id]
  intro t ht hkey
  rw [beq_iff_eq] at hkey
  exact h u hu (hkey ▸ List.mem_map_of_mem ht)

theorem overridden_cons_cons {t u : Token} (hkey : u.key = t.key) (overrides base : List Token) :
    overridden (t :: overrides) (u :: base) = t :: overridden (t :: overrides) base := by
  rw [overridden, List.map_cons, List.find?_cons_of_pos (by rw [hkey, beq_self_eq_true])]
  rfl

theorem overridden_cons_of_not_mem {t : Token} {overrides base : List Token}
    (h : t.key ∉ base.map Token.key) :
    overridden (t :: overrides) base = overridden overrides base := by
  refine List.map_congr_left fun u hu => ?_
  rw [List.find?_cons_of_neg]
  rw [beq_iff_eq]
  rintro hkey
  exact h (hkey ▸ List.mem_map_of_mem hu)

theorem cons_sublist_append_iff {key : String} {keys front back : List String} (h : key ∉ front) :
    (key :: keys).Sublist (front ++ key :: back) ↔ keys.Sublist back := by
  rw [List.sublist_append_iff]
  constructor
  · rintro ⟨left, right, hsplit, hleft, hright⟩
    cases left with
    | nil =>
        rw [List.nil_append] at hsplit
        rw [← hsplit] at hright
        exact List.cons_sublist_cons.mp hright
    | cons k left =>
        obtain ⟨rfl, -⟩ := List.cons.inj hsplit
        exact absurd (hleft.subset List.mem_cons_self) h
  · intro hkeys
    exact ⟨[], key :: keys, rfl, List.nil_sublist _, List.cons_sublist_cons.mpr hkeys⟩

theorem merge_first {first : List Token} (hfirst : ∀ t ∈ first, t.isEllipsis = false)
    (route base : List Token) :
    merge false (first ++ route) base = first ++ merge false route (base.drop first.length) := by
  induction first generalizing base with
  | nil => rfl
  | cons t first ih =>
      obtain ⟨ht, hrest⟩ := List.forall_mem_cons.mp hfirst
      rw [List.cons_append, merge, if_neg (by simp [ht]), if_neg Bool.false_ne_true, ih hrest,
        List.drop_drop, List.length_cons, Nat.add_comm]
      rfl

theorem merge_overrides {overrides base : List Token}
    (hoverrides : ∀ t ∈ overrides, t.isEllipsis = false) (hkeys : (base.map Token.key).Nodup)
    (horder : (overrides.map Token.key).Sublist (base.map Token.key)) :
    merge true (overrides.flatMap fun t => [t, .ellipsis]) base = overridden overrides base := by
  induction overrides generalizing base with
  | nil => exact (List.map_id base).symm
  | cons t overrides ih =>
      obtain ⟨ht, hrest⟩ := List.forall_mem_cons.mp hoverrides
      obtain ⟨copied, rest, htakes, hmerge⟩ := exists_takes ht true base
      have hnamed : t.key ∈ base.map Token.key := horder.subset List.mem_cons_self
      cases htakes with
      | missing habsent => exact absurd hnamed habsent
      | @found _ u _ hkey hfirst =>
          simp only [List.map_append, List.map_cons, hkey] at horder hkeys
          have hlater : (overrides.map Token.key).Sublist (rest.map Token.key) :=
            (cons_sublist_append_iff hfirst).mp horder
          obtain ⟨-, hback, hapart⟩ := List.nodup_append.mp hkeys
          obtain ⟨habsent, hrestKeys⟩ := List.nodup_cons.mp hback
          have hcopied : ∀ v ∈ copied, v.key ∉ (t :: overrides).map Token.key := by
            intro v hv hmem
            refine hapart v.key (List.mem_map_of_mem hv) v.key ?_ rfl
            rw [List.map_cons, List.mem_cons] at hmem
            exact List.mem_cons.mpr (hmem.imp_right fun h => hlater.subset h)
          calc merge true ((t :: overrides).flatMap fun t => [t, .ellipsis]) (copied ++ u :: rest)
            _ = copied ++ t :: merge false (.ellipsis :: overrides.flatMap fun t => [t, .ellipsis])
                  rest := hmerge _
            _ = copied ++ t :: overridden overrides rest := by
                  rw [merge_of_ellipsis rfl, ih hrest hrestKeys hlater]
            _ = overridden (t :: overrides) (copied ++ u :: rest) := by
                  rw [overridden_append, overridden_eq_self hcopied, overridden_cons_cons hkey,
                    overridden_cons_of_not_mem habsent]

/-- A route of this form writes its first tokens, and then the base behind as many, with every
override in the place of the token that it overrides. -/
theorem inherit_overriding {first overrides : List Token} {base : Spec}
    (hfirst : ∀ t ∈ first, t.isEllipsis = false)
    (hoverrides : ∀ t ∈ overrides, t.isEllipsis = false)
    (hkeys : ((base.beyond first.length).map Token.key).Nodup)
    (horder : (overrides.map Token.key).Sublist ((base.beyond first.length).map Token.key)) :
    (overriding first overrides).inherit base =
      ⟨first ++ overridden overrides (base.beyond first.length)⟩ := by
  have hinherits : (overriding first overrides).inherits = true :=
    (inherits_iff _).mpr ⟨.ellipsis, by simp [overriding], rfl⟩
  have hbeyond : base.tokens.drop first.length = base.beyond first.length := by
    rw [beyond, length]
    rcases Nat.le_total first.length base.tokens.length with hle | hle
    · rw [Nat.min_eq_left hle]
    · rw [Nat.min_eq_right hle, List.drop_length, List.drop_eq_nil_of_le hle]
  rw [inherit_of_inherits hinherits, overriding, merge_first hfirst, merge_of_ellipsis rfl, hbeyond,
    merge_overrides hoverrides hkeys horder]

def standardBase : Spec := ⟨[⟨"req", ""⟩, ⟨"auth", "jwt"⟩, ⟨"handle", ""⟩, ⟨"rsp", ""⟩]⟩

/-- The route `req=J|...|auth=api_key|...|rsp=json|...`. -/
theorem twiceOverridden_inherit :
    (∀ t ∈ [(⟨"req", "J"⟩ : Token)], t.isEllipsis = false) ∧
    (∀ t ∈ [(⟨"auth", "api_key"⟩ : Token), ⟨"rsp", "json"⟩], t.isEllipsis = false) ∧
    ((standardBase.beyond 1).map Token.key).Nodup ∧
    ["auth", "rsp"].Sublist ((standardBase.beyond 1).map Token.key) ∧
    (overriding [⟨"req", "J"⟩] [⟨"auth", "api_key"⟩, ⟨"rsp", "json"⟩]).inherit standardBase =
      ⟨[⟨"req", "J"⟩, ⟨"auth", "api_key"⟩, ⟨"handle", ""⟩, ⟨"rsp", "json"⟩]⟩ :=
  ⟨by decide, by decide, by decide, by decide,
    inherit_overriding (by decide) (by decide) (by decide) (by decide)⟩

/-! ## Overrides in any order -/

/-- Every token but `...` stands right behind a `...`. -/
def SetOff (route : List Token) : Prop :=
  ∀ front t back, route = front ++ t :: back → t.isEllipsis = false →
    ∃ before e, front = before ++ [e] ∧ e.isEllipsis = true

/-- The same, token by token; `following` says whether a `...` stands before the first. -/
def isSetOff (following : Bool) : List Token → Bool
  | [] => true
  | t :: route => (t.isEllipsis || following) && isSetOff t.isEllipsis route

theorem isSetOff_iff (following : Bool) (route : List Token) :
    isSetOff following route = true ↔ ∀ front t back, route = front ++ t :: back →
      t.isEllipsis = false → front = [] ∧ following = true ∨
        ∃ before e, front = before ++ [e] ∧ e.isEllipsis = true := by
  induction route generalizing following with
  | nil => simp [isSetOff]
  | cons u route ih =>
      rw [isSetOff, Bool.and_eq_true, Bool.or_eq_true, ih]
      constructor
      · rintro ⟨hu, hroute⟩ front t back hsplit ht
        cases front with
        | nil =>
            obtain ⟨rfl, -⟩ := List.cons.inj hsplit
            exact .inl ⟨rfl, hu.resolve_left (by simp [ht])⟩
        | cons v front =>
            obtain ⟨rfl, hrest⟩ := List.cons.inj hsplit
            right
            rcases hroute front t back hrest ht with ⟨rfl, hellipsis⟩ | ⟨before, e, rfl, he⟩
            · exact ⟨[], u, rfl, hellipsis⟩
            · exact ⟨u :: before, e, rfl, he⟩
      · intro h
        refine ⟨?_, fun front t back hsplit ht => ?_⟩
        · cases hu : u.isEllipsis with
          | true => exact .inl rfl
          | false =>
              rcases h [] u route rfl hu with ⟨-, hfollowing⟩ | ⟨before, e, hsplit, -⟩
              · exact .inr hfollowing
              · simp at hsplit
        · rcases h (u :: front) t back (by rw [hsplit]; rfl) ht with
            ⟨hnil, -⟩ | ⟨before, e, hfront, he⟩
          · cases hnil
          · cases before with
            | nil =>
                obtain ⟨rfl, rfl⟩ := List.cons.inj hfront
                exact .inl ⟨rfl, he⟩
            | cons v before =>
                obtain ⟨rfl, rfl⟩ := List.cons.inj hfront
                exact .inr ⟨before, e, rfl, he⟩

theorem setOff_iff (route : List Token) : SetOff route ↔ isSetOff false route = true := by
  simp [SetOff, isSetOff_iff]

instance : DecidablePred SetOff := fun route => decidable_of_iff _ (setOff_iff route).symm

/-- The names that are keys come in the order of the keys. -/
def InOrder (names keys : List String) : Prop := (names.filter (· ∈ keys)).Sublist keys

instance (names keys : List String) : Decidable (InOrder names keys) :=
  inferInstanceAs (Decidable (List.Sublist _ _))

theorem inOrder_cons_of_not_mem {name : String} {keys : List String} (h : name ∉ keys)
    (names : List String) : InOrder (name :: names) keys ↔ InOrder names keys := by
  rw [InOrder, List.filter_cons_of_neg (by simpa using h), InOrder]

section Keys

variable {key : String} {front back names merged : List String}
  (hkeys : (front ++ key :: back).Nodup) (hkey : key ∉ names)

include hkeys hkey

/-- The names behind one that is a key come in order if they are none of the keys before it. -/
theorem inOrder_cons_append_iff : InOrder (key :: names) (front ++ key :: back) ↔
    (∀ name ∈ names, name ∉ front) ∧ InOrder names back := by
  obtain ⟨-, -, hapart⟩ := List.nodup_append.mp hkeys
  have hfront : key ∉ front := fun h => hapart key h key List.mem_cons_self rfl
  have hsame : (∀ name ∈ names, name ∉ front) →
      names.filter (· ∈ front ++ key :: back) = names.filter (· ∈ back) := by
    intro hlater
    refine List.filter_congr fun name hname => ?_
    have hother : name ≠ key := fun h => hkey (h ▸ hname)
    simp [hlater name hname, hother]
  rw [InOrder, List.filter_cons_of_pos (by simp), cons_sublist_append_iff hfront]
  constructor
  · intro h
    have hlater : ∀ name ∈ names, name ∉ front := by
      intro name hname hmem
      have hback : name ∈ back := h.subset (List.mem_filter.mpr ⟨hname, by simp [hmem]⟩)
      exact hapart name hmem name (List.mem_cons_of_mem key hback) rfl
    rw [hsame hlater] at h
    exact ⟨hlater, h⟩
  · rintro ⟨hlater, h⟩
    rw [hsame hlater]
    exact h

/-- Behind an override, keys are merged that are distinct from all before if none of the names is
one of those copied. -/
theorem nodup_append_cons_iff (hnames : names ⊆ merged)
    (hmerged : ∀ name ∈ merged, name ∈ names ∨ name ∈ back) :
    (front ++ key :: merged).Nodup ↔ (∀ name ∈ names, name ∉ front) ∧ merged.Nodup := by
  obtain ⟨hfrontKeys, hbackKeys, hapart⟩ := List.nodup_append.mp hkeys
  have habsent : key ∉ merged := fun h =>
    (hmerged key h).elim hkey (List.nodup_cons.mp hbackKeys).1
  rw [List.nodup_append, List.nodup_cons]
  constructor
  · rintro ⟨-, ⟨-, hnodup⟩, hdisjoint⟩
    refine ⟨fun name hname hmem => ?_, hnodup⟩
    exact hdisjoint name hmem name (List.mem_cons_of_mem key (hnames hname)) rfl
  · rintro ⟨hlater, hnodup⟩
    refine ⟨hfrontKeys, ⟨habsent, hnodup⟩, fun name hmem other hother => ?_⟩
    rintro rfl
    rcases List.mem_cons.mp hother with rfl | hother
    · exact hapart name hmem name List.mem_cons_self rfl
    · rcases hmerged name hother with hname | hback
      · exact hlater name hname hmem
      · exact hapart name hmem name (List.mem_cons_of_mem key hback) rfl

end Keys

/-- The keys that are merged are those of the route, and some of the base's. -/
theorem exists_keys_perm (following : Bool) (route base : List Token) :
    ∃ taken, taken.Sublist (base.map Token.key) ∧
      ((merge following route base).map Token.key).Perm
        ((own route).map Token.key ++ taken) := by
  obtain ⟨taken, htaken, hwoven⟩ := exists_interleaves following route base
  refine ⟨taken.map Token.key, htaken.map Token.key, ?_⟩
  rw [← List.map_append]
  exact hwoven.perm.map Token.key

theorem nodup_keys_merge_iff {following : Bool} {route base : List Token}
    (hset : isSetOff following route = true) (hkeys : (base.map Token.key).Nodup)
    (hown : ((own route).map Token.key).Nodup) :
    ((merge following route base).map Token.key).Nodup ↔
      InOrder ((own route).map Token.key) (base.map Token.key) := by
  induction route generalizing following base with
  | nil =>
      refine iff_of_true ?_ (List.nil_sublist _)
      cases following with
      | true => exact hkeys
      | false => exact List.nodup_nil
  | cons t route ih =>
      rw [isSetOff, Bool.and_eq_true] at hset
      obtain ⟨hbehind, hset⟩ := hset
      cases ht : t.isEllipsis with
      | true =>
          rw [ht] at hset
          rw [own_cons_of_ellipsis ht] at hown ⊢
          rw [merge_of_ellipsis ht]
          exact ih hset hkeys hown
      | false =>
          obtain rfl : following = true := by simpa [ht] using hbehind
          rw [ht] at hset
          rw [own_cons ht, List.map_cons] at hown ⊢
          obtain ⟨hkey, hlater⟩ := List.nodup_cons.mp hown
          obtain ⟨copied, rest, htakes, hmerge⟩ := exists_takes ht true base
          obtain ⟨taken, htaken, hperm⟩ := exists_keys_perm false route rest
          have hnames : (own route).map Token.key ⊆ (merge false route rest).map Token.key :=
            fun name hname => hperm.mem_iff.mpr (List.mem_append_left taken hname)
          have hmerged : ∀ name ∈ (merge false route rest).map Token.key,
              name ∈ (own route).map Token.key ∨ name ∈ rest.map Token.key :=
            fun name hname => (List.mem_append.mp (hperm.mem_iff.mp hname)).imp_right
              fun h => htaken.subset h
          rw [hmerge, List.map_append, List.map_cons]
          cases htakes with
          | @found _ u _ hu hfirst =>
              simp only [List.map_append, List.map_cons, hu] at hkeys ⊢
              have hrest : (rest.map Token.key).Nodup :=
                (List.nodup_cons.mp (List.nodup_append.mp hkeys).2.1).2
              rw [nodup_append_cons_iff hkeys hkey hnames hmerged,
                inOrder_cons_append_iff hkeys hkey, ih hset hrest hlater]
          | missing habsent =>
              have hnew : t.key ∉ (merge false route base).map Token.key := fun h =>
                (hmerged t.key h).elim hkey habsent
              rw [List.map_nil, List.nil_append, List.nodup_cons, inOrder_cons_of_not_mem habsent,
                ih hset hkeys hlater, and_iff_right hnew]

/-- Where keys are doubled, it is an override that stands next to the token of the base. -/
theorem nodup_keys_merge_iff_count {following : Bool} {route base : List Token}
    (hkeys : (base.map Token.key).Nodup) (hown : ((own route).map Token.key).Nodup) :
    ((merge following route base).map Token.key).Nodup ↔
      ∀ t ∈ own route, t.key ∈ base.map Token.key →
        ((merge following route base).map Token.key).count t.key = 1 := by
  obtain ⟨taken, htaken, hperm⟩ := exists_keys_perm following route base
  constructor
  · intro hnodup t ht _
    refine List.count_eq_one_of_mem hnodup (hperm.mem_iff.mpr (List.mem_append_left taken ?_))
    exact List.mem_map_of_mem ht
  · intro honce
    rw [List.nodup_iff_count_le_one]
    intro name
    have htakenOnce : taken.count name ≤ 1 :=
      List.nodup_iff_count_le_one.mp (htaken.nodup hkeys) name
    have hownOnce : ((own route).map Token.key).count name ≤ 1 :=
      List.nodup_iff_count_le_one.mp hown name
    by_cases hnamed : name ∈ (own route).map Token.key
    · by_cases hbase : name ∈ base.map Token.key
      · obtain ⟨t, ht, rfl⟩ := List.mem_map.mp hnamed
        exact Nat.le_of_eq (honce t ht hbase)
      · have habsent : name ∉ taken := fun h => hbase (htaken.subset h)
        rw [hperm.count_eq, List.count_append, List.count_eq_zero_of_not_mem habsent]
        exact hownOnce
    · rw [hperm.count_eq, List.count_append, List.count_eq_zero_of_not_mem hnamed, Nat.zero_add]
      exact htakenOnce

/-- Overrides in any order replace the tokens of their keys, and the keys stay distinct, exactly if
those that name tokens of the base name them in its order. -/
theorem distinct_iff_inOrder {route base : Spec} (hset : SetOff route.tokens)
    (hkeys : (base.tokens.map Token.key).Nodup)
    (hown : ((own route.tokens).map Token.key).Nodup) :
    (((route.inherit base).tokens.map Token.key).Nodup ↔
      InOrder ((own route.tokens).map Token.key) (base.tokens.map Token.key)) ∧
    ((∀ t ∈ own route.tokens, t.key ∈ base.tokens.map Token.key →
        ((route.inherit base).tokens.map Token.key).count t.key = 1) ↔
      InOrder ((own route.tokens).map Token.key) (base.tokens.map Token.key)) := by
  rw [setOff_iff] at hset
  cases hempty : route.isEmpty with
  | true =>
      have hnone : route.tokens = [] := List.isEmpty_iff.mp hempty
      rw [inherit_of_isEmpty hempty, hnone]
      refine ⟨iff_of_true hkeys (List.nil_sublist _), iff_of_true ?_ (List.nil_sublist _)⟩
      intro t ht
      cases ht
  | false =>
      have hinherits : route.inherits = true := by
        cases htokens : route.tokens with
        | nil => simp [isEmpty, htokens] at hempty
        | cons t rest =>
            have hfirst : t.isEllipsis = true := by
              rw [htokens, isSetOff, Bool.and_eq_true, Bool.or_false] at hset
              exact hset.1
            exact (inherits_iff route).mpr ⟨t, by rw [htokens]; exact List.mem_cons_self, hfirst⟩
      rw [inherit_of_inherits hinherits]
      have hdistinct := nodup_keys_merge_iff hset hkeys hown
      exact ⟨hdistinct, (nodup_keys_merge_iff_count hkeys hown).symm.trans hdistinct⟩

/-- The route `...|auth=api_key|...|audit|...|rsp=json`. -/
def orderlyRoute : Spec :=
  ⟨[.ellipsis, ⟨"auth", "api_key"⟩, .ellipsis, ⟨"audit", ""⟩, .ellipsis, ⟨"rsp", "json"⟩]⟩

theorem orderlyRoute_distinct :
    SetOff orderlyRoute.tokens ∧ (standardBase.tokens.map Token.key).Nodup ∧
    ((own orderlyRoute.tokens).map Token.key).Nodup ∧
    ((orderlyRoute.inherit standardBase).tokens.map Token.key).Nodup :=
  ⟨by decide, by decide, by decide,
    (distinct_iff_inOrder (by decide) (by decide) (by decide)).1.mpr (by decide)⟩

/-- The route `...|auth=api_key|...|req=J|...`, which names the first token of the base late. -/
def lateRoute : Spec := ⟨[.ellipsis, ⟨"auth", "api_key"⟩, .ellipsis, ⟨"req", "J"⟩, .ellipsis]⟩

theorem lateRoute_doubles :
    standardBase.inherits = false ∧ (standardBase.tokens.map Token.key).Nodup ∧
    SetOff lateRoute.tokens ∧ ((own lateRoute.tokens).map Token.key).Nodup ∧
    lateRoute.inherit standardBase =
      ⟨[⟨"req", ""⟩, ⟨"auth", "api_key"⟩, ⟨"req", "J"⟩, ⟨"handle", ""⟩, ⟨"rsp", ""⟩]⟩ ∧
    ¬ ((lateRoute.inherit standardBase).tokens.map Token.key).Nodup := by
  decide

end Spec

end Conduit
