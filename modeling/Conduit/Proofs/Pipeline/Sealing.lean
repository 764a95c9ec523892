import Mathlib.Data.Finset.Sort
import Conduit.Pipeline.Resolver
import Conduit.Proofs.Json.Members

/-! # Sealing the registry

Callers take turns on a registry: a call finds what the calls before it have left, whoever made
them. What a registry answers is told by the registrations before it was sealed, the last one of
each name. From then on nothing changes it, so what was resolved once is resolved alike ever
after. -/

namespace Conduit.Registry

/-! ## Calls -/

/-- A call of a registry, by any of its callers. -/
inductive Command
  | register (name : String) (factory : Factory)
  | freeze
  | create (name value : String)
  | contains (name : String)
  | names
  | length

inductive Answer
  | registered (result : Except PipelineError Unit)
  | done
  | created (provider : Option Provider)
  | contained (found : Bool)
  | listed (names : List String)
  | counted (n : ℕ)

namespace Command

def isFreeze : Command → Bool
  | freeze => true
  | _ => false

def registration? : Command → Option (String × Factory)
  | register name factory => some (name, factory)
  | _ => none

end Command

def perform (r : Registry) : Command → Registry × Answer
  | .register name factory =>
    ((r.register name factory).1, .registered (r.register name factory).2)
  | .freeze => (r.freeze, .done)
  | .create name value => (r, .created (r.create? name value))
  | .contains name => (r, .contained (r.contains name))
  | .names => (r, .listed r.names)
  | .length => (r, .counted r.length)

def performAll (r : Registry) (calls : List Command) : Registry :=
  calls.foldl (fun r call => (r.perform call).1) r

def history (r : Registry) : List Command → List (Command × Answer)
  | [] => []
  | call :: rest => (call, (r.perform call).2) :: history (r.perform call).1 rest

/-! ## What the calls before say -/

/-- The registrations before the registry is frozen for the first time, in order. -/
def registrations (calls : List Command) : List (String × Factory) :=
  (calls.takeWhile fun call => !call.isFreeze).filterMap Command.registration?

def accepted? : Command × Answer → Option (String × Factory)
  | (.register name factory, .registered (.ok _)) => some (name, factory)
  | _ => none

/-- The answer that a call is due after others. -/
def due (before : List Command) : Command → Answer
  | .register name _ =>
    .registered (if before.any Command.isFreeze then .error (.registrySealed name) else .ok ())
  | .freeze => .done
  | .create name value =>
    .created (((registrations before).reverse.lookup name).map fun factory => factory value)
  | .contains name => .contained (decide (name ∈ (registrations before).map (·.1)))
  | .names => .listed (((registrations before).map (·.1)).toFinset.sort (· ≤ ·))
  | .length => .counted ((registrations before).map (·.1)).toFinset.card

theorem registrations_cons_of_open {first : Command} (h : first.isFreeze = false)
    (rest : List Command) :
    registrations (first :: rest) = first.registration?.toList ++ registrations rest := by
  rw [registrations, List.takeWhile_cons_of_pos (by simp [h]), List.filterMap_cons]
  cases first.registration? <;> rfl

theorem registrations_concat (calls : List Command) (call : Command) :
    registrations (calls ++ [call]) =
      if calls.any Command.isFreeze then registrations calls
      else registrations calls ++ call.registration?.toList := by
  induction calls with
  | nil => cases call <;> rfl
  | cons first rest ih =>
      cases hfreeze : first.isFreeze with
      | true => simp [registrations, hfreeze]
      | false =>
          rw [List.cons_append, registrations_cons_of_open hfreeze,
            registrations_cons_of_open hfreeze, ih, List.any_cons, hfreeze, Bool.false_or]
          split
          · rfl
          · rw [List.append_assoc]

/-! ## One call -/

section Calls

variable {r : Registry} {calls : List Command} {call : Command} {name : String} {factory : Factory}

theorem register_of_sealed (h : r.isSealed = true) :
    r.register name factory = (r, .error (.registrySealed name)) := by
  rw [register, if_pos h]

theorem register_of_open (h : r.isSealed = false) :
    r.register name factory =
      ({ r with factories := Json.putMember name factory r.factories }, .ok ()) := by
  rw [register, if_neg (by simp [h])]

theorem perform_of_sealed (h : r.isSealed = true) (call : Command) : (r.perform call).1 = r := by
  cases call with
  | register name factory => rw [perform, register_of_sealed h]
  | freeze =>
      obtain ⟨factories, isSealed⟩ := r
      obtain rfl : isSealed = true := h
      rfl
  | create name value => rfl
  | contains name => rfl
  | names => rfl
  | length => rfl

theorem performAll_of_sealed (h : r.isSealed = true) (calls : List Command) :
    r.performAll calls = r := by
  induction calls with
  | nil => rfl
  | cons call rest ih => rw [performAll, List.foldl_cons, perform_of_sealed h, ← performAll, ih]

/-- The registry is as the calls before say. -/
structure StandsAfter (r : Registry) (calls : List Command) : Prop where
  factories : r.factories = Json.orderMembers (registrations calls)
  isSealed : r.isSealed = calls.any Command.isFreeze

namespace StandsAfter

theorem lookup (h : r.StandsAfter calls) (name : String) :
    r.factories.lookup name = (registrations calls).reverse.lookup name := by
  rw [h.factories, Json.lookup_orderMembers]

theorem contains (h : r.StandsAfter calls) (name : String) :
    r.contains name = decide (name ∈ (registrations calls).map (·.1)) := by
  rw [Registry.contains, h.factories, Bool.eq_iff_iff, Json.isSome_lookup_iff,
    Json.mem_keys_orderMembers, decide_eq_true_iff]

theorem names (h : r.StandsAfter calls) :
    r.names = ((registrations calls).map (·.1)).toFinset.sort (· ≤ ·) := by
  have hordered := Json.ordered_orderMembers (registrations calls)
  rw [Registry.names, h.factories, ← Json.toFinset_keys_orderMembers]
  exact ((List.toFinset_sort (· ≤ ·) hordered.nodup).mpr (hordered.imp le_of_lt)).symm

theorem length (h : r.StandsAfter calls) :
    r.length = ((registrations calls).map (·.1)).toFinset.card := by
  rw [Registry.length, h.factories, Json.length_orderMembers]

theorem answer (h : r.StandsAfter calls) (call : Command) :
    (r.perform call).2 = due calls call := by
  cases call with
  | register name factory =>
      rw [perform, due, ← h.isSealed]
      cases hsealed : r.isSealed with
      | true => rw [register_of_sealed hsealed]; rfl
      | false => rw [register_of_open hsealed]; rfl
  | freeze => rfl
  | create name value => rw [perform, due, create?, h.lookup]
  | contains name => rw [perform, due, h.contains]
  | names => rw [perform, due, h.names]
  | length => rw [perform, due, h.length]

theorem perform (h : r.StandsAfter calls) (call : Command) :
    (r.perform call).1.StandsAfter (calls ++ [call]) := by
  cases hsealed : r.isSealed with
  | true =>
      have hfrozen : calls.any Command.isFreeze = true := h.isSealed ▸ hsealed
      rw [perform_of_sealed hsealed]
      refine ⟨?_, ?_⟩
      · rw [registrations_concat, if_pos hfrozen, h.factories]
      · rw [List.any_append, hfrozen, Bool.true_or, hsealed]
  | false =>
      have hopen : calls.any Command.isFreeze = false := h.isSealed ▸ hsealed
      have hentries : registrations (calls ++ [call]) =
          registrations calls ++ call.registration?.toList := by
        rw [registrations_concat, hopen]
        rfl
      have hfrozen : (calls ++ [call]).any Command.isFreeze = call.isFreeze := by
        rw [List.any_append, hopen, Bool.false_or, List.any_cons, List.any_nil, Bool.or_false]
      have hsame : call.registration? = none →
          r.factories = Json.orderMembers (registrations (calls ++ [call])) := by
        intro hnone
        rw [hentries, hnone, Option.toList_none, List.append_nil, h.factories]
      cases call with
      | register name factory =>
          rw [Registry.perform, register_of_open hsealed]
          refine ⟨?_, hsealed.trans hfrozen.symm⟩
          rw [hentries, h.factories]
          exact Json.orderMembers_concat.symm
      | freeze => exact ⟨hsame rfl, hfrozen.symm⟩
      | _ => exact ⟨hsame rfl, hsealed.trans hfrozen.symm⟩

end StandsAfter

end Calls

/-! ## All calls -/

section Runs

variable (r : Registry) (calls later : List Command) (call : Command)

theorem performAll_concat :
    r.performAll (calls ++ [call]) = ((r.performAll calls).perform call).1 := by
  rw [performAll, List.foldl_append]
  rfl

theorem performAll_append :
    r.performAll (calls ++ later) = (r.performAll calls).performAll later :=
  List.foldl_append

theorem standsAfter_performAll : (performAll .empty calls).StandsAfter calls := by
  induction calls using List.reverseRecOn with
  | nil => exact ⟨rfl, rfl⟩
  | append_singleton calls call ih =>
      rw [performAll_concat]
      exact ih.perform call

theorem history_concat :
    r.history (calls ++ [call]) =
      r.history calls ++ [(call, ((r.performAll calls).perform call).2)] := by
  induction calls generalizing r with
  | nil => rfl
  | cons first rest ih =>
      rw [List.cons_append, history, ih, history, List.cons_append]
      rfl

theorem getElem?_history (i : ℕ) :
    (r.history calls)[i]? =
      calls[i]?.map fun call => (call, ((r.performAll (calls.take i)).perform call).2) := by
  induction calls generalizing r i with
  | nil => rfl
  | cons first rest ih =>
      cases i with
      | zero => rfl
      | succ i =>
          rw [history, List.getElem?_cons_succ, ih, List.getElem?_cons_succ, List.take_succ_cons]
          rfl

theorem accepted?_due :
    accepted? (call, due calls call) =
      if calls.any Command.isFreeze then none else call.registration? := by
  cases hfrozen : calls.any Command.isFreeze with
  | true => cases call <;> simp [due, hfrozen, accepted?]
  | false => cases call <;> simp [due, hfrozen, accepted?, Command.registration?]

/-- The registrations before the first freeze are the accepted ones. -/
theorem filterMap_accepted?_history :
    (history .empty calls).filterMap accepted? = registrations calls := by
  induction calls using List.reverseRecOn with
  | nil => rfl
  | append_singleton calls call ih =>
      have hdue := accepted?_due calls call
      rw [history_concat, List.filterMap_append, ih, (standsAfter_performAll calls).answer,
        registrations_concat]
      cases hfrozen : calls.any Command.isFreeze with
      | true =>
          rw [hfrozen] at hdue
          rw [List.filterMap_cons_none hdue]
          exact List.append_nil _
      | false =>
          rw [hfrozen] at hdue
          cases hentry : call.registration? with
          | none => rw [List.filterMap_cons_none (hdue.trans hentry)]; rfl
          | some entry => rw [List.filterMap_cons_some (hdue.trans hentry)]; rfl

end Runs

/-! ## The seal -/

/-- What a run of calls leaves of a registry, and what no later call changes. -/
structure Sealing (calls : List Command) : Prop where
  /-- For each name there is the factory that it was given last. -/
  contents : ∀ name, (performAll .empty calls).factories.lookup name =
    (registrations calls).reverse.lookup name
  answers : ∀ i call, calls[i]? = some call →
    (history .empty calls)[i]? = some (call, due (calls.take i) call)
  accepted : (history .empty calls).filterMap accepted? = registrations calls
  length : (performAll .empty calls).length =
    (((history .empty calls).filterMap accepted?).map (·.1)).toFinset.card
  refused : calls.any Command.isFreeze = true → ∀ name factory,
    (performAll .empty calls).register name factory =
      (performAll .empty calls, .error (.registrySealed name))
  frozen : calls.any Command.isFreeze = true → ∀ later,
    performAll .empty (calls ++ later) = performAll .empty calls
  /-- Factories are read as functions of a token's value: one that keeps a state of its own may make
  another stage the next time, though the registry asks it alike. -/
  resolves : calls.any Command.isFreeze = true → ∀ later later' o,
    (∀ t, Resolver.resolveToken (performAll .empty (calls ++ later)) o t =
      Resolver.resolveToken (performAll .empty (calls ++ later')) o t) ∧
    ∀ spec, Resolver.resolve (performAll .empty (calls ++ later)) o spec =
      Resolver.resolve (performAll .empty (calls ++ later')) o spec

/-- Whoever calls a registry in whatever order, it holds the registrations that come before the
first freeze, the last one of each name, and those alone are accepted. After it every registration
is refused, nothing changes, and every token and every spec is resolved alike at any two moments. -/
theorem sealing (calls : List Command) : Sealing calls := by
  have hstands := standsAfter_performAll calls
  have hfrozen : calls.any Command.isFreeze = true → ∀ later,
      performAll .empty (calls ++ later) = performAll .empty calls := by
    intro hseal later
    rw [performAll_append, performAll_of_sealed (hstands.isSealed.trans hseal)]
  refine ⟨hstands.lookup, fun i call hcall => ?_, filterMap_accepted?_history calls, ?_,
    fun hseal name factory => ?_, hfrozen, fun hseal later later' o => ?_⟩
  · rw [getElem?_history, hcall, Option.map_some, (standsAfter_performAll _).answer]
  · rw [filterMap_accepted?_history, hstands.length]
  · exact register_of_sealed (hstands.isSealed.trans hseal)
  · rw [hfrozen hseal, hfrozen hseal]
    exact ⟨fun _ => rfl, fun _ => rfl⟩

end Conduit.Registry
