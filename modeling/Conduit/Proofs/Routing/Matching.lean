import Conduit.Proofs.Routing.Registrations

/-! # Matching paths

A path is answered by the registered pattern that matches it and comes first in priority: literals
before parameters before wildcards, compared from left to right. The search finds that pattern by
trying the children of each node in the same order, and takes back what a failed way captured. -/

namespace Conduit.Routing

variable {α : Type}

/-! ## Patterns and paths -/

/-- A classified pattern matches the segments of a path and captures some of them by name. -/
inductive Matches : List Segment → List String → List (String × String) → Prop
  | nil : Matches [] [] []
  | literal (text : String) {pattern path captures} : Matches pattern path captures →
      Matches (.literal text :: pattern) (text :: path) captures
  | param (name value : String) {pattern path captures} : Matches pattern path captures →
      Matches (.param name :: pattern) (value :: path) ((name, value) :: captures)
  | wildcard (name first : String) (rest : List String) :
      Matches [.wildcard name] (first :: rest) [(name, Text.joinWith "/" (first :: rest))]

/-- The priority of a segment; less comes first. -/
def Segment.rank : Segment → Nat
  | .literal _ => 0
  | .param _ => 1
  | .wildcard _ => 2

theorem Segment.rank_cases (s : Segment) : s.rank = 0 ∨ s.rank = 1 ∨ s.rank = 2 := by
  cases s <;> simp [Segment.rank]

/-- A pattern comes before another in the lexicographic order of their segments' priorities. -/
def Precedes (p q : List Segment) : Prop := p.map Segment.rank < q.map Segment.rank

theorem precedes_cons_of_rank_lt {s t : Segment} (h : s.rank < t.rank) (p q : List Segment) :
    Precedes (s :: p) (t :: q) := by
  exact List.cons_lt_cons_iff.mpr (.inl h)

theorem precedes_cons_of_rank_eq {s t : Segment} {p q : List Segment} (h : s.rank = t.rank)
    (hpq : Precedes p q) : Precedes (s :: p) (t :: q) := by
  exact List.cons_lt_cons_iff.mpr (.inr ⟨h, hpq⟩)

theorem matches_nil_path {p : List Segment} {captures : List (String × String)}
    (h : Matches p [] captures) : p = [] ∧ captures = [] := by
  cases h
  exact ⟨rfl, rfl⟩

section Inversion

variable {s : Segment} {p : List Segment} {segment : String} {rest : List String}
  {captures : List (String × String)}

theorem matches_of_rank_zero (h : Matches (s :: p) (segment :: rest) captures)
    (hs : s.rank = 0) : s = .literal segment ∧ Matches p rest captures := by
  cases h with
  | literal text h => exact ⟨rfl, h⟩
  | param name value h => cases hs
  | wildcard name first rest => cases hs

theorem matches_of_rank_one (h : Matches (s :: p) (segment :: rest) captures)
    (hs : s.rank = 1) :
    ∃ name below, s = .param name ∧ captures = (name, segment) :: below ∧ Matches p rest below := by
  cases h with
  | literal text h => cases hs
  | param name value h => exact ⟨name, _, rfl, rfl, h⟩
  | wildcard name first rest => cases hs

theorem matches_of_rank_two (h : Matches (s :: p) (segment :: rest) captures)
    (hs : s.rank = 2) :
    ∃ name, s = .wildcard name ∧ p = [] ∧
      captures = [(name, Text.joinWith "/" (segment :: rest))] := by
  cases h with
  | literal text h => cases hs
  | param name value h => cases hs
  | wildcard name first rest => exact ⟨name, rfl, rfl, rfl⟩

end Inversion

theorem Matches.captures_eq {p : List Segment} {path : List String}
    {captures others : List (String × String)} (h : Matches p path captures)
    (h' : Matches p path others) : captures = others := by
  induction h generalizing others with
  | nil => exact (matches_nil_path h').2.symm
  | literal text _ ih =>
      cases h' with
      | literal text h' => exact ih h'
  | param name value _ ih =>
      cases h' with
      | param name value h' => rw [ih h']
  | wildcard name first rest =>
      cases h' with
      | wildcard name first rest => rfl

/-! ## The search -/

/-- `result` is what a search for a path should give in a tree that holds `held`: the verbs of the
first pattern that matches, with its captures after those found before, or else nothing, and then
those found before as they were. -/
inductive Answers (held : List Segment → Option (Verbs α)) (path : List String)
    (found : Params) : Option (Verbs α) × Params → Prop
  | hit (pattern : List Segment) (verbs : Verbs α) (captures : List (String × String))
      (hheld : held pattern = some verbs) (hmatch : Matches pattern path captures)
      (hfirst : ∀ q c, (held q).isSome → Matches q path c → q = pattern ∨ Precedes pattern q) :
      Answers held path found (some verbs, ⟨found.pairs ++ captures⟩)
  | miss (hnone : ∀ q c, (held q).isSome → ¬ Matches q path c) :
      Answers held path found (none, found)

theorem Answers.unique {held : List Segment → Option (Verbs α)} {path : List String}
    {found : Params} {result result' : Option (Verbs α) × Params}
    (h : Answers held path found result) (h' : Answers held path found result') :
    result = result' := by
  cases h with
  | hit p verbs captures hheld hmatch hfirst =>
      cases h' with
      | hit q verbs' captures' hheld' hmatch' hfirst' =>
          have hpq : q = p := by
            rcases hfirst q captures' (by rw [hheld']; rfl) hmatch' with heq | hbefore
            · exact heq
            · rcases hfirst' p captures (by rw [hheld]; rfl) hmatch with heq | hafter
              · exact heq.symm
              · exact absurd hafter (lt_asymm hbefore)
          subst hpq
          rw [hheld, Option.some.injEq] at hheld'
          rw [hheld', hmatch.captures_eq hmatch']
      | miss hnone => exact absurd hmatch (hnone p captures (by rw [hheld]; rfl))
  | miss hnone =>
      cases h' with
      | hit p verbs captures hheld hmatch hfirst =>
          exact absurd hmatch (hnone p captures (by rw [hheld]; rfl))
      | miss => rfl

theorem Answers.eq_of_none {held : List Segment → Option (Verbs α)} {path : List String}
    {found after : Params} (h : Answers held path found (none, after)) : after = found := by
  cases h
  rfl

namespace Node

/-- What a node holds under patterns that begin with a segment of that priority. -/
def heldBehind (n : Node α) (rank : ℕ) : List Segment → Option (Verbs α)
  | [] => none
  | s :: rest => if s.rank = rank then at? (s :: rest) n else none

theorem heldBehind_eq_some {n : Node α} {rank : ℕ} {p : List Segment} {verbs : Verbs α}
    (h : n.heldBehind rank p = some verbs) :
    ∃ s rest, p = s :: rest ∧ s.rank = rank ∧ at? p n = some verbs := by
  cases p with
  | nil => cases h
  | cons s rest =>
      by_cases hs : s.rank = rank
      · exact ⟨s, rest, rfl, hs, by simpa [heldBehind, hs] using h⟩
      · simp [heldBehind, hs] at h

theorem heldBehind_isSome {n : Node α} {s : Segment} {rest : List Segment}
    (h : (at? (s :: rest) n).isSome) : (n.heldBehind s.rank (s :: rest)).isSome := by
  simpa [heldBehind] using h

/-- A hit behind one priority is a hit of the whole node, if nothing behind a lesser priority
matches. -/
theorem answers_of_hit {n : Node α} {path : List String} {found : Params} {rank : ℕ}
    {pattern : List Segment} {verbs : Verbs α} {captures : List (String × String)}
    (hheld : n.heldBehind rank pattern = some verbs) (hmatch : Matches pattern path captures)
    (hfirst : ∀ q c, (n.heldBehind rank q).isSome → Matches q path c →
      q = pattern ∨ Precedes pattern q)
    (hless : ∀ r < rank, ∀ q c, (n.heldBehind r q).isSome → ¬ Matches q path c) :
    Answers (at? · n) path found (some verbs, ⟨found.pairs ++ captures⟩) := by
  obtain ⟨s, rest, rfl, hs, hat⟩ := heldBehind_eq_some hheld
  refine .hit (s :: rest) verbs captures hat hmatch ?_
  intro q c hq hc
  cases q with
  | nil =>
      cases hc
      cases hmatch
  | cons t q =>
      have hbehind := heldBehind_isSome hq
      rcases lt_trichotomy t.rank rank with hlt | heq | hgt
      · exact absurd hc (hless t.rank hlt _ c hbehind)
      · exact hfirst _ c (heq ▸ hbehind) hc
      · exact .inr (precedes_cons_of_rank_lt (hs ▸ hgt) rest q)

/-- Trying the kinds of segments in the order of their priorities answers for the whole node. -/
theorem answers_of_ways {n : Node α} {segment : String} {rest : List String} {found : Params}
    (hliteral : Answers (n.heldBehind 0) (segment :: rest) found
      (enter (search rest) (n.literal? segment) found))
    (hparam : Answers (n.heldBehind 1) (segment :: rest) found
      (enter (enterParam (search rest) segment) n.param found))
    (hwildcard : Answers (n.heldBehind 2) (segment :: rest) found
      (enter (enterWildcard (Text.joinWith "/" (segment :: rest))) n.wildcard found)) :
    Answers (at? · n) (segment :: rest) found (search (segment :: rest) n found) := by
  rw [search]
  generalize enter (search rest) (n.literal? segment) found = first at hliteral ⊢
  generalize enter (enterParam (search rest) segment) n.param = second at hparam ⊢
  cases hliteral with
  | hit p verbs captures hheld hmatch hfirst =>
      exact answers_of_hit hheld hmatch hfirst (by simp)
  | miss hnone₀ =>
      simp only
      generalize second found = result at hparam ⊢
      cases hparam with
      | hit p verbs captures hheld hmatch hfirst =>
          refine answers_of_hit hheld hmatch hfirst ?_
          intro r hr
          obtain rfl : r = 0 := by omega
          exact hnone₀
      | miss hnone₁ =>
          simp only
          generalize enter (enterWildcard _) n.wildcard found = result at hwildcard ⊢
          cases hwildcard with
          | hit p verbs captures hheld hmatch hfirst =>
              refine answers_of_hit hheld hmatch hfirst ?_
              intro r hr
              obtain rfl | rfl : r = 0 ∨ r = 1 := by omega
              · exact hnone₀
              · exact hnone₁
          | miss hnone₂ =>
              refine .miss ?_
              intro q c hq hc
              cases q with
              | nil => cases hc
              | cons t q =>
                  have hbehind := heldBehind_isSome hq
                  rcases Segment.rank_cases t with h | h | h
                  · exact hnone₀ _ c (h ▸ hbehind) hc
                  · exact hnone₁ _ c (h ▸ hbehind) hc
                  · exact hnone₂ _ c (h ▸ hbehind) hc

section Ways

variable {n : Node α} {segment : String} {rest : List String} {found : Params}

/-- What the search below the children of a node answers, for any captures before it. -/
abbrev AnswersBelow (rest : List String) (child : Node α) : Prop :=
  ∀ found, Answers (at? · child) rest found (search rest child found)

/-- What the search answers below a child, `step` being what the way to the child captured, answers
for all patterns that lead through it; a failed search gives back what was captured before. -/
theorem answers_through {c : Node α} {s : Segment} {rank : ℕ} {result : Option (Verbs α) × Params}
    (step : List (String × String))
    (hheld : ∀ p, n.heldBehind rank (s :: p) = at? p c)
    (hdown : ∀ p captures, Matches p rest captures →
      Matches (s :: p) (segment :: rest) (step ++ captures))
    (hup : ∀ q captures, (n.heldBehind rank q).isSome → Matches q (segment :: rest) captures →
      ∃ p below, q = s :: p ∧ Matches p rest below)
    (hsearch : Answers (at? · c) rest ⟨found.pairs ++ step⟩ result) :
    Answers (n.heldBehind rank) (segment :: rest) found
      (result.1, if result.1.isSome then result.2 else found) := by
  cases hsearch with
  | hit p verbs captures hp hmatch hfirst =>
      simp only [Option.isSome_some, if_true, List.append_assoc]
      refine .hit (s :: p) verbs (step ++ captures) ((hheld p).trans hp)
        (hdown p captures hmatch) ?_
      intro q captures' hq hmatch'
      obtain ⟨q, below, rfl, hbelow⟩ := hup q captures' hq hmatch'
      rcases hfirst q below (hheld q ▸ hq) hbelow with rfl | hpre
      · exact .inl rfl
      · exact .inr (precedes_cons_of_rank_eq rfl hpre)
  | miss hnone =>
      refine .miss ?_
      intro q captures' hq hmatch'
      obtain ⟨q, below, rfl, hbelow⟩ := hup q captures' hq hmatch'
      exact hnone q below (hheld q ▸ hq) hbelow

theorem answers_literal (hn : n.WellFormed)
    (ih : ∀ c, n.literal? segment = some c → AnswersBelow rest c) :
    Answers (n.heldBehind 0) (segment :: rest) found
      (enter (search rest) (n.literal? segment) found) := by
  have hinto := into?_literal hn.tidy segment
  have hup : ∀ q captures, (n.heldBehind 0 q).isSome → Matches q (segment :: rest) captures →
      ∃ p below, q = .literal segment :: p ∧ Matches p rest below := by
    intro q captures hq hmatch
    obtain ⟨verbs, hverbs⟩ := Option.isSome_iff_exists.mp hq
    obtain ⟨s, p, rfl, hs, -⟩ := heldBehind_eq_some hverbs
    obtain ⟨rfl, hrest⟩ := matches_of_rank_zero hmatch hs
    exact ⟨p, captures, rfl, hrest⟩
  cases hc : n.literal? segment with
  | none =>
      refine .miss ?_
      intro q captures hq hmatch
      obtain ⟨p, below, rfl, -⟩ := hup q captures hq hmatch
      simp [heldBehind, Segment.rank, at?, hinto, hc] at hq
  | some c =>
      have hheld : ∀ p, n.heldBehind 0 (.literal segment :: p) = at? p c := by
        intro p
        simp [heldBehind, Segment.rank, at?, hinto, hc]
      have hsearch := ih c hc found
      have hstart : Answers (at? · c) rest ⟨found.pairs ++ []⟩ (search rest c found) := by
        simpa using hsearch
      have hthrough := answers_through [] hheld (fun p captures h => .literal segment h) hup hstart
      simp only [enter]
      generalize search rest c found = result at hsearch hthrough ⊢
      obtain ⟨verbs, after⟩ := result
      cases verbs with
      | none =>
          rw [hsearch.eq_of_none]
          exact hthrough
      | some verbs => exact hthrough

theorem answers_param (hn : n.WellFormed)
    (ih : ∀ c, n.param = some c → AnswersBelow rest c) :
    Answers (n.heldBehind 1) (segment :: rest) found
      (enter (enterParam (search rest) segment) n.param found) := by
  cases hc : n.param with
  | none =>
      refine .miss ?_
      intro q captures hq hmatch
      obtain ⟨verbs, hverbs⟩ := Option.isSome_iff_exists.mp hq
      obtain ⟨s, p, rfl, hs, hat⟩ := heldBehind_eq_some hverbs
      obtain ⟨name, below, rfl, -, -⟩ := matches_of_rank_one hmatch hs
      simp [at?, into?, child?, hc] at hat
  | some c =>
      obtain ⟨name, -, hname⟩ := hn.tidy.param c hc
      have hheld : ∀ p, n.heldBehind 1 (.param name :: p) = at? p c := by
        intro p
        simp [heldBehind, Segment.rank, at?, into?, child?, hc, Option.filter, hname]
      have hup : ∀ q captures, (n.heldBehind 1 q).isSome → Matches q (segment :: rest) captures →
          ∃ p below, q = .param name :: p ∧ Matches p rest below := by
        intro q captures hq hmatch
        obtain ⟨verbs, hverbs⟩ := Option.isSome_iff_exists.mp hq
        obtain ⟨s, p, rfl, hs, hat⟩ := heldBehind_eq_some hverbs
        obtain ⟨other, below, rfl, -, hrest⟩ := matches_of_rank_one hmatch hs
        -- No other name leads anywhere from here.
        have hother : other = name := by
          by_contra hne
          simp [at?, into?, child?, hc, Option.filter, hname, Ne.symm hne] at hat
        exact ⟨p, below, by rw [hother], hrest⟩
      have hsearch := ih c hc (found.push name segment)
      have hthrough := answers_through [(name, segment)] hheld
        (fun p captures h => .param name segment h) hup hsearch
      simp only [enter, enterParam, hname]
      generalize search rest c (found.push name segment) = result at hsearch hthrough ⊢
      obtain ⟨verbs, after⟩ := result
      cases verbs with
      | none =>
          -- The capture of this way is cut off again.
          have hback : after.truncate found.length = found := by
            rw [hsearch.eq_of_none]
            simp [Params.push, Params.truncate, Params.length]
          simp only [hback]
          exact hthrough
      | some verbs => exact hthrough

theorem answers_wildcard (hn : n.WellFormed) :
    Answers (n.heldBehind 2) (segment :: rest) found
      (enter (enterWildcard (Text.joinWith "/" (segment :: rest))) n.wildcard found) := by
  cases hc : n.wildcard with
  | none =>
      refine .miss ?_
      intro q captures hq hmatch
      obtain ⟨verbs, hverbs⟩ := Option.isSome_iff_exists.mp hq
      obtain ⟨s, p, rfl, hs, hat⟩ := heldBehind_eq_some hverbs
      obtain ⟨name, rfl, -, -⟩ := matches_of_rank_two hmatch hs
      simp [at?, into?, child?, hc] at hat
  | some c =>
      obtain ⟨⟨name, -, hname⟩, hsome, -⟩ := hn.tidy.wildcard c hc
      obtain ⟨verbs, hverbs⟩ := Option.isSome_iff_exists.mp hsome
      simp only [enter, enterWildcard, hname, hverbs]
      refine .hit [.wildcard name] verbs _ ?_ (.wildcard name segment rest) ?_
      · simp [heldBehind, Segment.rank, at?, into?, child?, hc, Option.filter, hname, hverbs]
      · intro q captures' hq hmatch'
        obtain ⟨verbs', hverbs'⟩ := Option.isSome_iff_exists.mp hq
        obtain ⟨s, p, rfl, hs, hat⟩ := heldBehind_eq_some hverbs'
        obtain ⟨other, rfl, rfl, -⟩ := matches_of_rank_two hmatch' hs
        have hother : other = name := by
          by_contra hne
          simp [at?, into?, child?, hc, Option.filter, hname, Ne.symm hne] at hat
        exact .inl (by rw [hother])

end Ways

/-- A search of a well-formed tree answers as it should, whatever was captured before. -/
theorem answers_search {n : Node α} (hn : n.WellFormed) (path : List String) (found : Params) :
    Answers (at? · n) path found (search path n found) := by
  induction path generalizing n found with
  | nil =>
      cases hverbs : n.verbs with
      | none =>
          rw [search, hverbs]
          refine .miss ?_
          intro q c hq hc
          obtain ⟨rfl, -⟩ := matches_nil_path hc
          simp [at?, hverbs] at hq
      | some verbs =>
          rw [search, hverbs]
          have hhit : Answers (at? · n) [] found (some verbs, ⟨found.pairs ++ []⟩) :=
            .hit [] verbs [] hverbs .nil fun q c _ hc => .inl (matches_nil_path hc).1
          simpa using hhit
  | cons segment rest ih =>
      refine answers_of_ways (answers_literal hn ?_) (answers_param hn ?_) (answers_wildcard hn)
      · intro c hc found
        exact ih (hn.child (show n.child? segment (.literal segment) = some c from hc)) found
      · intro c hc found
        exact ih (hn.child (show n.child? segment (.param segment) = some c from hc)) found

theorem matchPath_congr {n m : Node α} (hn : n.WellFormed) (hm : m.WellFormed)
    (hheld : ∀ pattern, at? pattern n = at? pattern m) (path : String) :
    n.matchPath path = m.matchPath path := by
  have hanswers := answers_search hn (Text.pathSegments path) .empty
  simp only [hheld] at hanswers
  rw [matchPath, matchPath, hanswers.unique (answers_search hm (Text.pathSegments path) .empty)]

end Node

/-! ## Matching in the tree that a run of insertions leaves -/

/-- The pattern that answers a path: it matches, and every other one that matches comes after it. -/
structure FirstMatch (patterns : List (List Segment)) (path : List String)
    (pattern : List Segment) (captures : List (String × String)) : Prop where
  mem : pattern ∈ patterns
  matched : Matches pattern path captures
  first : ∀ q ∈ patterns, q ≠ pattern → ∀ c, Matches q path c → Precedes pattern q

theorem FirstMatch.unique {patterns : List (List Segment)} {path : List String}
    {p q : List Segment} {captures others : List (String × String)}
    (hp : FirstMatch patterns path p captures) (hq : FirstMatch patterns path q others) :
    p = q ∧ captures = others := by
  have hpq : p = q := by
    by_contra hne
    have hbefore := hp.first q hq.mem (Ne.symm hne) others hq.matched
    have hafter := hq.first p hp.mem hne captures hp.matched
    exact lt_asymm hbefore hafter
  subst hpq
  exact ⟨rfl, hp.matched.captures_eq hq.matched⟩

/-- The tree that a run of insertions leaves answers a path by the registered pattern that matches
it first, with the verbs stored there and exactly its captures, and with nothing if no registered
pattern matches. -/
theorem matchPath_insertAll (calls : List (Insertion α)) (path : String) :
    ((Node.root.insertAll calls).matchPath path = none ↔
      ∀ q ∈ (Node.root.registrations calls).map (·.1), ∀ captures,
        ¬ Matches q (Text.pathSegments path) captures) ∧
    ∀ verbs captures, (Node.root.insertAll calls).matchPath path = some (verbs, captures) ↔
      ∃ pattern, FirstMatch ((Node.root.registrations calls).map (·.1)) (Text.pathSegments path)
          pattern captures ∧
        stored (Node.root.registrations calls) pattern = some verbs := by
  have hsearch := Node.answers_search (Node.wellFormed_insertAll Node.wellFormed_root calls)
    (Text.pathSegments path) .empty
  simp only [Node.at?_root_insertAll] at hsearch
  unfold Node.matchPath
  generalize Node.registrations Node.root calls = registered at hsearch ⊢
  generalize Text.pathSegments path = segments at hsearch ⊢
  generalize Node.search segments _ Params.empty = result at hsearch ⊢
  cases hsearch with
  | hit pattern verbs captures hheld hmatch hfirst =>
      have hmem : pattern ∈ registered.map (·.1) :=
        (stored_isSome_iff registered pattern).mp (by rw [hheld]; rfl)
      have hbest : FirstMatch (registered.map (·.1)) segments pattern captures := by
        refine ⟨hmem, hmatch, ?_⟩
        intro q hq hne c hc
        exact (hfirst q c ((stored_isSome_iff registered q).mpr hq) hc).resolve_left hne
      constructor
      · refine iff_of_false (by simp) ?_
        intro hmiss
        exact hmiss pattern hmem captures hmatch
      · intro verbs' captures'
        simp only [Option.map_some, Params.empty, List.nil_append, Option.some.injEq, Prod.mk.injEq]
        constructor
        · rintro ⟨rfl, rfl⟩
          exact ⟨pattern, hbest, hheld⟩
        · rintro ⟨p, hp, hstored⟩
          obtain ⟨rfl, rfl⟩ := hbest.unique hp
          exact ⟨Option.some.inj (hheld.symm.trans hstored), rfl⟩
  | miss hnone =>
      have hmiss : ∀ q ∈ registered.map (·.1), ∀ captures, ¬ Matches q segments captures :=
        fun q hq captures => hnone q captures ((stored_isSome_iff registered q).mpr hq)
      refine ⟨iff_of_true rfl hmiss, ?_⟩
      intro verbs captures
      refine iff_of_false (by simp) ?_
      rintro ⟨p, hp, -⟩
      exact hmiss p hp.mem captures hp.matched

/-- The way through `:x` fails at `c`, and its capture does not stay behind. -/
example : ((Node.root.insertAll [("/a/:x/b", Verbs.empty), ("/a/*rest", (Verbs.empty : Verbs ℕ))]
    ).matchPath "/a/1/c").map (·.2) = some [("rest", "1/c")] := by decide

end Conduit.Routing
