import Conduit.Pipeline.Registrar
import Conduit.Proofs.Routing.Store

/-! # Registering routes

A registration enters its chain in the router and its route in the list, or it is refused and the
registrar stays as it was. What is registered later goes as if the refused ones had not been tried. -/

namespace Conduit

open Routing (Router)

/-! ## One registration -/

namespace Registrar

/-- What a registration leaves behind and answers. -/
inductive Registers (r : Registrar) (method : Method) (path : String) (op : Operation)
    (spec : String) : Registrar × Except PipelineError Chain → Prop
  | refused (e : PipelineError) : Registers r method path op spec (r, .error e)
  | accepted {chain : Chain} {router : Router Chain}
      (hprepared : r.prepare method (joinPath r.lead path) op spec = .ok chain)
      (hrouted : r.router.route method (joinPath r.lead path) chain = (router, none)) :
      Registers r method path op spec
        ({ r with
            router
            routes := r.routes ++
              [⟨method, joinPath r.lead path, chain.spec.text, chain.stageNames⟩] }, .ok chain)

theorem registers (r : Registrar) (method : Method) (path : String) (op : Operation)
    (spec : String) : r.Registers method path op spec (r.register method path op spec) := by
  simp only [register]
  cases hprepared : r.prepare method (joinPath r.lead path) op spec with
  | error e => exact .refused e
  | ok chain =>
      cases hrouted : r.router.route method (joinPath r.lead path) chain with
      | mk router fault =>
          cases fault with
          | none => simpa only [hrouted] using .accepted hprepared hrouted
          | some fault =>
              have hfault : (r.router.perform (.route method (joinPath r.lead path) chain)).2 =
                  some fault := congrArg Prod.snd hrouted
              have hself := Router.perform_eq_self_of_fault hfault
              obtain rfl : router = r.router := by rw [← hself, Router.perform, hrouted]
              simpa only [hrouted] using .refused _

variable {r : Registrar} {method : Method} {path spec : String} {op : Operation}
  {answer : Registrar × Except PipelineError Chain}

theorem Registers.lead (h : r.Registers method path op spec answer) : answer.1.lead = r.lead := by
  cases h with
  | refused e => rfl
  | accepted hprepared hrouted => rfl

theorem Registers.eq_self_of_error (h : r.Registers method path op spec answer)
    {e : PipelineError} (he : answer.2 = .error e) : answer.1 = r := by
  cases h with
  | refused e => rfl
  | accepted hprepared hrouted => cases he

end Registrar

/-! ## Scripts -/

/-- Registrations and groups of them, in order. -/
inductive RouteScript
  | done
  | register (method : Method) (path : String) (op : Operation) (spec : String) (rest : RouteScript)
  | group (lead : String) (body rest : RouteScript)

/-- A registration that was tried: the whole path that it was for, and the answer. -/
structure Attempt where
  method : Method
  path : String
  result : Except PipelineError Chain

namespace Attempt

def fault? (a : Attempt) : Option PipelineError :=
  match a.result with
  | .ok _ => none
  | .error e => some e

def refused (a : Attempt) : Bool := a.fault?.isSome

theorem refused_mk_iff {method : Method} {path : String} {result : Except PipelineError Chain} :
    (mk method path result).refused = true ↔ ∃ e, result = .error e := by
  rw [refused, fault?]
  cases result <;> simp

end Attempt

namespace RouteScript

/-- Tries the registrations one after another, whatever they answer. -/
def run : RouteScript → Registrar → Registrar × List Attempt
  | done, r => (r, [])
  | register method path op spec rest, r =>
    let (after, result) := r.register method path op spec
    let (last, attempts) := rest.run after
    (last, ⟨method, Registrar.joinPath r.lead path, result⟩ :: attempts)
  | group lead body rest, r =>
    let (after, inside) := r.group lead body.run
    let (last, attempts) := rest.run after
    (last, inside ++ attempts)

/-- The script without the refused registrations that are picked. -/
def without (picked : Attempt → Bool) : RouteScript → Registrar → RouteScript
  | done, _ => done
  | register method path op spec rest, r =>
    let (after, result) := r.register method path op spec
    let a : Attempt := ⟨method, Registrar.joinPath r.lead path, result⟩
    if a.refused && picked a then rest.without picked after
    else register method path op spec (rest.without picked after)
  | group lead body rest, r =>
    let (after, _) := r.group lead body.run
    group lead (body.without picked { r with lead := Registrar.joinPath r.lead lead })
      (rest.without picked after)

/-- Without any of the registrations that are refused, a script leads to the same registrar, and the
others are answered alike. -/
theorem run_without (picked : Attempt → Bool) (script : RouteScript) (r : Registrar) :
    (script.without picked r).run r =
      ((script.run r).1, (script.run r).2.filter fun a => !(a.refused && picked a)) := by
  induction script generalizing r with
  | done => rfl
  | register method path op spec rest ih =>
      rcases hregister : r.register method path op spec with ⟨after, result⟩
      have hregisters := r.registers method path op spec
      rw [hregister] at hregisters
      simp only [without, run, hregister]
      split
      · rename_i hdropped
        cases result with
        | ok chain => simp [Attempt.refused, Attempt.fault?] at hdropped
        | error e =>
            obtain rfl : after = r := hregisters.eq_self_of_error rfl
            rw [ih, List.filter_cons_of_neg (by simp [hdropped])]
      · rename_i hkept
        simp only [run, hregister, ih]
        rw [List.filter_cons_of_pos (by simp [hkept])]
  | group lead body rest ihbody ihrest =>
      simp only [without, run, Registrar.group, ihbody, ihrest, List.filter_append]

/-- A registration that is refused, whatever it is refused for, leaves the registrar as it was: its
router, its list of routes and its lead. So any number of refused registrations can be taken out of
what is registered, inside groups and outside, and every other one is answered as before. -/
theorem refused_leaves_no_trace :
    (∀ (r : Registrar) (method : Method) (path : String) (op : Operation) (spec : String)
      (e : PipelineError), (r.register method path op spec).2 = .error e →
        (r.register method path op spec).1 = r) ∧
    ∀ (picked : Attempt → Bool) (script : RouteScript) (r : Registrar),
      (script.without picked r).run r =
        ((script.run r).1, (script.run r).2.filter fun a => !(a.refused && picked a)) :=
  ⟨fun r method path op spec _ he => (r.registers method path op spec).eq_self_of_error he,
    run_without⟩

def quiet : Operation := ⟨.ofShapes .unit .unit .unit, .ofResult fun _ _ => .ok (.value .null)⟩

/-- A route in a group, and what cannot be registered beside it: the same route in another spelling,
a spec that is empty, one that names no stage, one with a value that its stage refuses, a pattern
that goes on behind its wildcard, and one with another name for the same parameter. -/
def crowded : RouteScript :=
  group "/a"
    (register ⟨"GET"⟩ "/:id" quiet "handle" <|
      register ⟨"GET"⟩ "\x7bid\x7d/" quiet "handle" <|
      register ⟨"PUT"⟩ "/:id" quiet "" <|
      register ⟨"PUT"⟩ "/:id" quiet "walk" <|
      register ⟨"PUT"⟩ "/:id" quiet "req=X" <|
      register ⟨"PUT"⟩ "/*rest/b" quiet "handle" <|
      register ⟨"PUT"⟩ "/:key/d" quiet "handle" done)
    done

/-- The registrar after its one route, and the same as if the others had not been tried. -/
theorem crowded_leaves_no_trace :
    (crowded.run (.ofRegistry .empty)).2.map (·.fault?) =
      [none,
        some (.configuration (.alreadyRegistered ⟨"GET"⟩ "/a/\x7bid\x7d/")),
        some (.configuration (.emptySpec ⟨"PUT"⟩ "/a/:id")),
        some (.configuration (.unresolved ⟨[⟨"walk", ""⟩]⟩ [⟨"walk", ""⟩])),
        some (.configuration (.unknownSource 'X' "X")),
        some (.configuration (.pattern (.wildcardNotLast "/a/*rest/b"))),
        some (.configuration (.pattern (.conflictingName "/a/:key/d" ":id" "key")))] ∧
    (crowded.without (fun _ => true) (.ofRegistry .empty)).run (.ofRegistry .empty) =
      ((crowded.run (.ofRegistry .empty)).1,
        (crowded.run (.ofRegistry .empty)).2.filter fun a => !a.refused) ∧
    ((crowded.run (.ofRegistry .empty)).1.register ⟨"PUT"⟩ "/a/:key/d" quiet "handle").1 =
      (crowded.run (.ofRegistry .empty)).1 := by
  obtain ⟨hself, hwithout⟩ := refused_leaves_no_trace
  refine ⟨by decide +kernel, ?_, ?_⟩
  · simpa only [Bool.and_true] using hwithout (fun _ => true) crowded (.ofRegistry .empty)
  · obtain ⟨e, he⟩ := Attempt.refused_mk_iff.mp
      (show (Attempt.mk ⟨"PUT"⟩ "/a/:key/d" ((crowded.run (.ofRegistry .empty)).1.register ⟨"PUT"⟩
        "/a/:key/d" quiet "handle").2).refused = true by decide +kernel)
    exact hself _ _ _ _ _ e he

end RouteScript

end Conduit
