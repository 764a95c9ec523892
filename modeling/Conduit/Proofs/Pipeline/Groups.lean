import Conduit.Proofs.Pipeline.RouteTable
import Conduit.Proofs.Text

/-! # Groups of routes

The lead of a group is joined to the leads around it and to the paths inside. However all of these
are written, with slashes at their ends or twice in a row, or empty, a route is stored under the
segments of its leads and of its path, one list behind the other. What the closure of a group
answers makes no difference to the lead that comes after. -/

namespace Conduit

open Routing (Route Segment segmentsOf)
open Text (pathSegments trimStartOf trimEndOf)

/-! ## One path behind another -/

namespace Registrar

/-- Two texts with a slash between them, where neither has one on the inner side. -/
def glue (lead path : String) : String :=
  if lead = "" then "/" ++ path else if path = "" then lead else lead ++ "/" ++ path

theorem joinPath_eq_glue (lead path : String) :
    joinPath lead path = glue (trimEndOf '/' lead) (trimStartOf '/' path) := rfl

theorem pathSegments_glue (lead path : String) :
    pathSegments (glue lead path) = pathSegments lead ++ pathSegments path := by
  rw [glue]
  split
  · rename_i hlead
    rw [hlead, Text.pathSegments_slash_append, Text.pathSegments_empty, List.nil_append]
  · split
    · rename_i hpath
      rw [hpath, Text.pathSegments_empty, List.append_nil]
    · exact Text.pathSegments_append lead path

theorem pathSegments_joinPath (lead path : String) :
    pathSegments (joinPath lead path) = pathSegments lead ++ pathSegments path := by
  rw [joinPath_eq_glue, pathSegments_glue, Text.pathSegments_trimEndOf,
    Text.pathSegments_trimStartOf]

theorem pathSegments_foldl_joinPath (lead : String) (paths : List String) :
    pathSegments (paths.foldl joinPath lead) = pathSegments lead ++ paths.flatMap pathSegments := by
  induction paths generalizing lead with
  | nil => simp
  | cons path paths ih =>
      rw [List.foldl_cons, ih, pathSegments_joinPath, List.flatMap_cons, List.append_assoc]

/-! Joining is associative as text, too, although it leaves the slashes at the outer ends. What
stands in the middle is cut on both sides, unless it is nothing but slashes. -/

theorem glue_assoc (lead path : String) {mid : String} (hmid : mid ≠ "") :
    glue (glue lead mid) path = glue lead (glue mid path) := by
  have hne : glue lead mid ≠ "" := by
    rw [glue, if_neg hmid]
    split <;> simp [hmid]
  rw [glue, if_neg hne]
  by_cases hlead : lead = "" <;> by_cases hpath : path = "" <;>
    simp [glue, hmid, hlead, hpath, String.append_assoc]

theorem trimEndOf_joinPath (lead path : String) : trimEndOf '/' (joinPath lead path) =
    if trimStartOf '/' path = "" then trimEndOf '/' lead
    else glue (trimEndOf '/' lead) (trimEndOf '/' (trimStartOf '/' path)) := by
  rw [joinPath_eq_glue]
  by_cases hlead : trimEndOf '/' lead = "" <;> by_cases hpath : trimStartOf '/' path = ""
  · -- The slash that is written for nothing at all is cut again.
    rw [if_pos hpath, hlead, hpath]
    decide
  all_goals simp [glue, hlead, hpath, Text.trimEndOf_append]

theorem trimStartOf_joinPath (lead path : String) : trimStartOf '/' (joinPath lead path) =
    if trimStartOf '/' lead = "" then trimStartOf '/' path
    else glue (trimEndOf '/' (trimStartOf '/' lead)) (trimStartOf '/' path) := by
  have hslash : trimStartOf '/' "/" = "" := by decide
  rw [joinPath_eq_glue]
  by_cases hlead : trimStartOf '/' lead = "" <;> by_cases hpath : trimStartOf '/' path = "" <;>
    simp [glue, hlead, hpath, hslash, Text.trimStartOf_append, Text.trimStartOf_trimEndOf,
      Text.trimEndOf_eq_empty_iff]

theorem joinPath_assoc (lead mid path : String) :
    joinPath (joinPath lead mid) path = joinPath lead (joinPath mid path) := by
  rw [joinPath_eq_glue (joinPath lead mid), joinPath_eq_glue lead (joinPath mid path),
    trimEndOf_joinPath, trimStartOf_joinPath]
  by_cases hmid : trimStartOf '/' mid = ""
  · rw [if_pos hmid, if_pos hmid]
  · rw [if_neg hmid, if_neg hmid]
    exact glue_assoc _ _ (by simpa using hmid)

end Registrar

/-! ## Closures -/

/-- What a closure does with the registrar that is lent to it. It may look at the registrar and at
every answer before it goes on, and stop with an error at any point. -/
inductive Routine
  | finish (result : Except PipelineError Unit)
  | look (next : Registrar → Routine)
  | register (method : Method) (path : String) (op : Operation) (spec : String)
      (next : Except PipelineError Chain → Routine)
  | group (lead : String) (body : Routine) (next : Except PipelineError Unit → Routine)

/-- A registration that was tried: the leads of the groups around it, the outermost first, and the
answer. -/
structure Placement where
  leads : List String
  method : Method
  path : String
  result : Except PipelineError Chain

namespace Placement

def wholePath (p : Placement) : String :=
  (p.leads ++ [p.path]).foldl Registrar.joinPath ""

def segments (p : Placement) : List String :=
  (p.leads ++ [p.path]).flatMap pathSegments

theorem pathSegments_wholePath (p : Placement) : pathSegments p.wholePath = p.segments := by
  rw [wholePath, Registrar.pathSegments_foldl_joinPath, Text.pathSegments_empty, List.nil_append,
    segments]

def entered? (p : Placement) : Option (Route Chain) :=
  (Attempt.mk p.method p.wholePath p.result).entered?

theorem entered?_eq_some_iff {p : Placement} {a : Route Chain} :
    p.entered? = some a ↔ p.result = .ok a.value ∧ p.method = a.method ∧ p.wholePath = a.pattern := by
  obtain ⟨method, pattern, chain⟩ := a
  rw [entered?, Attempt.entered?]
  cases p.result with
  | error e => simp
  | ok built =>
      simp only [Option.some.injEq, Route.mk.injEq, Except.ok.injEq]
      constructor
      · rintro ⟨hmethod, hpattern, hvalue⟩
        exact ⟨hvalue, hmethod, hpattern⟩
      · rintro ⟨hvalue, hmethod, hpattern⟩
        exact ⟨hmethod, hpattern, hvalue⟩

theorem segmentsOf_wholePath (p : Placement) :
    segmentsOf p.wholePath = p.segments.map Segment.classify := by
  rw [segmentsOf, pathSegments_wholePath]

theorem map_entered (placements : List Placement) :
    (placements.filterMap entered?).map (fun a => (a.method, pathSegments a.pattern)) =
      (placements.filter (·.result.isOk)).map fun p => (p.method, p.segments) := by
  induction placements with
  | nil => rfl
  | cons p rest ih =>
      obtain ⟨leads, method, path, result⟩ := p
      cases result with
      | error e =>
          rw [List.filterMap_cons_none rfl, List.filter_cons_of_neg Bool.false_ne_true, ih]
      | ok chain =>
          have hentered : entered? ⟨leads, method, path, .ok chain⟩ = some ⟨method, _, chain⟩ := rfl
          rw [List.filterMap_cons_some hentered, List.filter_cons_of_pos rfl, List.map_cons,
            List.map_cons, ih, pathSegments_wholePath]

end Placement

namespace Routine

/-- Runs a closure inside groups with these leads: the registrar afterwards, the registrations that
were tried, and what the closure answers. -/
def run : Routine → List String → Registrar →
    Registrar × List Placement × Except PipelineError Unit
  | finish result, _, r => (r, [], result)
  | look next, leads, r => (next r).run leads r
  | register method path op spec next, leads, r =>
    let (after, result) := r.register method path op spec
    let (last, placements, answer) := (next result).run leads after
    (last, ⟨leads, method, path, result⟩ :: placements, answer)
  | group lead body next, leads, r =>
    let (after, inside, result) := r.group lead (body.run (leads ++ [lead]))
    let (last, placements, answer) := (next result).run leads after
    (last, inside ++ placements, answer)

theorem run_lead (routine : Routine) (leads : List String) (r : Registrar) :
    (routine.run leads r).1.lead = r.lead := by
  induction routine generalizing leads r with
  | finish result => rfl
  | look next ih => exact ih r leads r
  | register method path op spec next ih =>
      rw [run, ih]
      exact (r.registers method path op spec).lead
  | group lead body next ihbody ihnext =>
      rw [run, ihnext]
      rfl

/-- List and router have the routes that were answered with chains, each under the whole path that
its leads make. -/
theorem entered_run {r : Registrar} {routes : List (Route Chain)} (routine : Routine)
    (leads : List String) (hlead : r.lead = leads.foldl Registrar.joinPath "")
    (h : r.Entered routes) :
    (routine.run leads r).1.Entered
      (routes ++ (routine.run leads r).2.1.filterMap Placement.entered?) := by
  induction routine generalizing r routes leads with
  | finish result => simpa [run] using h
  | look next ih => exact ih r leads hlead h
  | register method path op spec next ih =>
      have hpath : Registrar.joinPath r.lead path =
          (leads ++ [path]).foldl Registrar.joinPath "" := by simp [hlead]
      have hregister := h.register method path op spec
      have hafter := (r.registers method path op spec).lead.trans hlead
      generalize hanswer : r.register method path op spec = answer at hregister hafter
      obtain ⟨after, result⟩ := answer
      have hstep : after.Entered
          (routes ++ (Placement.entered? ⟨leads, method, path, result⟩).toList) := by
        rw [Placement.entered?, Placement.wholePath, ← hpath]
        exact hregister
      have hrest := ih result leads hafter hstep
      rw [List.append_assoc] at hrest
      simpa only [run, hanswer, List.filterMap_eq_flatMap_toList, List.flatMap_cons] using hrest
  | group lead body next ihbody ihnext =>
      have hinside : Registrar.joinPath r.lead lead =
          (leads ++ [lead]).foldl Registrar.joinPath "" := by simp [hlead]
      have hbody := ihbody (leads ++ [lead]) hinside (h.withLead (Registrar.joinPath r.lead lead))
      generalize hrun : body.run (leads ++ [lead])
        { r with lead := Registrar.joinPath r.lead lead } = ran at hbody
      obtain ⟨after, inside, result⟩ := ran
      have hrest := ihnext result (r := { after with lead := r.lead }) leads hlead
        (hbody.withLead r.lead)
      rw [List.append_assoc, ← List.filterMap_append] at hrest
      simpa only [run, Registrar.group, hrun] using hrest

/-- Where the registrations that were tried are found afterwards. -/
structure Composes (placements : List Placement) (last : Registrar) : Prop where
  /-- The list has those that were answered with a chain, in order. -/
  listed : last.routes.map (fun info => (info.method, pathSegments info.path)) =
    (placements.filter (·.result.isOk)).map fun p => (p.method, p.segments)
  /-- For a verb, in whatever spelling the segments are looked up, the router has the chain of the
  answer. -/
  held : ∀ p ∈ placements, ∀ chain, p.result = .ok chain → p.method.verb?.isSome →
    ∀ pattern, segmentsOf pattern = p.segments.map Segment.classify →
      (last.router.root.findPattern pattern).bind (·.getMethod? p.method) = some chain
  /-- It has nothing anywhere else. -/
  contains_iff : ∀ method pattern, last.router.contains method pattern = true ↔
    method.verb?.isSome ∧ ∃ p ∈ placements, p.result.isOk = true ∧ p.method = method ∧
      p.segments.map Segment.classify = segmentsOf pattern

theorem composes_of_entered {last : Registrar} {placements : List Placement}
    (h : last.Entered (placements.filterMap Placement.entered?)) : Composes placements last where
  listed := by
    rw [← Placement.map_entered, h.listed, List.map_map]
    rfl
  held p hp chain hresult hverb pattern hpattern := by
    have hentered : p.entered? = some ⟨p.method, p.wholePath, chain⟩ :=
      Placement.entered?_eq_some_iff.mpr ⟨hresult, rfl, rfl⟩
    rw [← p.segmentsOf_wholePath] at hpattern
    exact h.findPattern (List.mem_filterMap.mpr ⟨p, hp, hentered⟩) hverb hpattern
  contains_iff method pattern := by
    rw [h.contains_iff]
    refine and_congr_right fun _ => ⟨?_, ?_⟩
    · rintro ⟨a, ha, hmethod, hpattern⟩
      obtain ⟨p, hp, hentered⟩ := List.mem_filterMap.mp ha
      obtain ⟨hresult, hm, hwhole⟩ := Placement.entered?_eq_some_iff.mp hentered
      refine ⟨p, hp, by rw [hresult]; rfl, hm.trans hmethod, ?_⟩
      rw [← p.segmentsOf_wholePath, hwhole, hpattern]
    · rintro ⟨p, hp, hok, hmethod, hsegments⟩
      cases hresult : p.result with
      | error e =>
          rw [hresult] at hok
          cases hok
      | ok chain =>
          refine ⟨⟨p.method, p.wholePath, chain⟩, List.mem_filterMap.mpr ⟨p, hp, ?_⟩, hmethod, ?_⟩
          · exact Placement.entered?_eq_some_iff.mpr ⟨hresult, rfl, rfl⟩
          · rw [p.segmentsOf_wholePath, hsegments]

/-- Whatever a closure does with a new registrar, in groups within groups, of which any may stop with
an error: every route is stored under the segments of all leads around it, the outermost first, and
of its own path. A group leaves the lead as it was and answers what its closure answers, and it
makes no difference in which order leads and paths are joined. -/
theorem groups_compose :
    (∀ (registry : Registry) (options : ChainOptions) (base : Spec) (routine : Routine),
      let r := { Registrar.ofRegistry registry with options, defaultSpec := base }
      Composes (routine.run [] r).2.1 (routine.run [] r).1) ∧
    (∀ (routine : Routine) (leads : List String) (r : Registrar),
      (routine.run leads r).1.lead = r.lead) ∧
    (∀ (r : Registrar) (lead : String)
      (body : Registrar → Registrar × Except PipelineError Unit),
      (r.group lead body).1.lead = r.lead ∧
        (r.group lead body).2 = (body { r with lead := Registrar.joinPath r.lead lead }).2) ∧
    ∀ lead mid path : String, Registrar.joinPath (Registrar.joinPath lead mid) path =
      Registrar.joinPath lead (Registrar.joinPath mid path) := by
  refine ⟨fun registry options base routine => ?_, run_lead, fun r lead body => ⟨rfl, rfl⟩,
    Registrar.joinPath_assoc⟩
  exact composes_of_entered
    (routine.entered_run [] rfl (Registrar.entered_ofRegistry registry options base))

open RouteScript (quiet) in
/-- The inner group stops at an error, the outer one goes on, and slashes come as they like. -/
example :
    let inner := register ⟨"GET"⟩ "users//:id/" quiet "handle" fun _ =>
      register ⟨"GET"⟩ "" quiet "" fun answer => finish (answer.map fun _ => ())
    let outer := group "" inner fun _ => register ⟨"PUT"⟩ "//" quiet "handle" fun _ => finish (.ok ())
    let tree := group "//api/" outer fun _ =>
      register ⟨"GET"⟩ "health" quiet "handle" fun _ => finish (.ok ())
    (tree.run [] (.ofRegistry .empty)).1.routes.map (·.path) =
      ["/api/users//:id/", "/api", "/health"] := by
  decide +kernel

end Routine

end Conduit
