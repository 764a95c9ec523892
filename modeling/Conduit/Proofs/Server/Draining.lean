import Mathlib.Data.List.Induction
import Mathlib.Data.List.Nodup
import Mathlib.Data.List.Perm.Basic
import Conduit.Server.Lifecycle

/-! # Draining

Serving ends early only when the count of live connections is zero. That count is kept by the tasks
that read requests, and a connection leaves it when it is handed over to a session: a server that
has drained reads no requests any more, but every session that has not ended by itself goes on. -/

namespace Conduit.Serving

/-! ## Runs -/

section Runs

variable {trace : List Event} {e : Event} {s t : Serving}

theorem run?_concat_eq_some_iff : run? (trace ++ [e]) = some t ↔
    ∃ s, run? trace = some s ∧ s.allows e = true ∧ s.after e = t := by
  rw [run?, List.foldlM_append, ← run?]
  cases run? trace with
  | none => simp
  | some s => simp [Option.ite_none_right_eq_some]

/-- What holds at the start and is kept by every event holds after every run. -/
theorem run?_induction {P : List Event → Serving → Prop} (hstart : P [] initial)
    (hstep : ∀ {trace s e}, P trace s → s.allows e = true → P (trace ++ [e]) (s.after e))
    (h : run? trace = some s) : P trace s := by
  induction trace using List.reverseRecOn generalizing s with
  | nil =>
      obtain rfl : initial = s := Option.some.inj h
      exact hstart
  | append_singleton trace e ih =>
      obtain ⟨before, hbefore, hallowed, rfl⟩ := run?_concat_eq_some_iff.mp h
      exact hstep (ih hbefore) hallowed

end Runs

theorem reading_of_allows {s : Serving} {token : ℕ}
    (h : s.allows (.upgrade token) = true ∨ s.allows (.close token) = true) :
    token ∈ s.connections := by
  simp only [allows, Bool.and_eq_true, decide_eq_true_eq] at h
  exact h.elim And.left id

/-! ## The count of live connections -/

/-- The tokens that are held are those of the tasks of connections, and they are counted. -/
structure Tracked (s : Serving) : Prop where
  held : s.shutdown.held.Perm (s.connections ++ s.leaving)
  counted : s.shutdown.active = s.shutdown.held.length
  distinct : (s.connections ++ s.leaving).Nodup
  known : ∀ token ∈ s.connections ++ s.leaving, token < s.shutdown.issued

theorem tracked_initial : initial.Tracked :=
  ⟨.refl _, rfl, List.nodup_nil, by simp [initial]⟩

namespace Tracked

variable {s : Serving} (h : s.Tracked)

include h

theorem active_eq : s.shutdown.active = s.connections.length + s.leaving.length := by
  rw [h.counted, h.held.length_eq, List.length_append]

theorem isIdle_iff : s.shutdown.isIdle = true ↔ s.connections = [] ∧ s.leaving = [] := by
  rw [Shutdown.isIdle, beq_iff_eq, h.active_eq, Nat.add_eq_zero_iff, List.length_eq_zero_iff,
    List.length_eq_zero_iff]

/-- A connection that ends, or is handed over, keeps its token until its task ends. -/
theorem moved {token : ℕ} (htoken : token ∈ s.connections) (waiting sessions : List ℕ) :
    Tracked
      { s with
        connections := s.connections.erase token
        leaving := s.leaving ++ [token]
        waiting, sessions } := by
  have hperm : (s.connections.erase token ++ (s.leaving ++ [token])).Perm
      (s.connections ++ s.leaving) := by
    have hsplit : s.connections.Perm (token :: s.connections.erase token) :=
      List.perm_cons_erase htoken
    refine .trans ?_ (hsplit.append_right s.leaving).symm
    rw [← List.append_assoc]
    exact List.perm_append_singleton token _
  exact ⟨h.held.trans hperm.symm, h.counted, hperm.nodup_iff.mpr h.distinct,
    fun other hother => h.known other (hperm.mem_iff.mp hother)⟩

theorem after {e : Event} (hallowed : s.allows e = true) : (s.after e).Tracked := by
  cases e with
  | accept =>
      have hnew : s.shutdown.issued ∉ s.connections ++ s.leaving := fun hmem =>
        Nat.lt_irrefl _ (h.known _ hmem)
      have hperm : (s.connections ++ [s.shutdown.issued] ++ s.leaving).Perm
          (s.shutdown.issued :: (s.connections ++ s.leaving)) := by
        rw [List.append_assoc]
        exact List.perm_middle
      refine ⟨?_, ?_, ?_, ?_⟩
      · exact ((List.perm_append_singleton _ _).trans (h.held.cons _)).trans hperm.symm
      · simp [Serving.after, Shutdown.acquire, h.counted]
      · exact hperm.nodup_iff.mpr (List.nodup_cons.mpr ⟨hnew, h.distinct⟩)
      · intro token htoken
        rcases List.mem_cons.mp (hperm.mem_iff.mp htoken) with rfl | htoken
        · exact Nat.lt_succ_self _
        · exact Nat.lt_succ_of_lt (h.known token htoken)
  | upgrade token => exact h.moved (reading_of_allows (.inl hallowed)) _ _
  | close token => exact h.moved (reading_of_allows (.inr hallowed)) _ _
  | leave token =>
      have htoken : token ∈ s.leaving := by simpa [allows] using hallowed
      have hread : token ∉ s.connections := fun hmem =>
        (List.nodup_append.mp h.distinct).2.2 token hmem token htoken rfl
      have herase : (s.connections ++ s.leaving).erase token =
          s.connections ++ s.leaving.erase token := List.erase_append_right _ hread
      have hheld : token ∈ s.shutdown.held :=
        h.held.mem_iff.mpr (List.mem_append_right _ htoken)
      refine ⟨?_, ?_, ?_, fun t ht => h.known t ?_⟩
      · exact herase ▸ h.held.erase token
      · simp [Serving.after, Shutdown.release, h.counted, List.length_erase_of_mem hheld]
      · exact herase ▸ h.distinct.erase token
      · exact List.mem_of_mem_erase (herase ▸ ht)
  | answerUpgrade _ | giveUp _ | endSession _ | signal | stop | drain | expire =>
      exact ⟨h.held, h.counted, h.distinct, h.known⟩

end Tracked

/-! ## What a run leaves -/

/-- What is still being served is told by what has happened. -/
structure Recorded (trace : List Event) (s : Serving) : Prop where
  reading : ∀ token, token ∈ s.connections ↔
    token < s.shutdown.issued ∧ .close token ∉ trace ∧ .upgrade token ∉ trace
  known : ∀ token, .close token ∈ trace ∨ .upgrade token ∈ trace → token < s.shutdown.issued
  once : ∀ token, .close token ∈ trace → .upgrade token ∉ trace
  session : ∀ token, token ∈ s.sessions ↔ .upgrade token ∈ trace ∧ .endSession token ∉ trace
  /-- Only a session that has begun ends. -/
  begun : ∀ token, .endSession token ∈ trace → .upgrade token ∈ trace
  distinct : s.sessions.Nodup

theorem recorded_initial : Recorded [] initial := by
  refine ⟨?_, ?_, ?_, ?_, ?_, List.nodup_nil⟩ <;> simp [initial, Shutdown.initial]

namespace Recorded

variable {trace : List Event} {s : Serving} {token : ℕ}

theorem accept (h : Recorded trace s) : Recorded (trace ++ [.accept]) (s.after .accept) := by
  refine ⟨fun token => ?_, fun token hmem => ?_, ?_, ?_, ?_, h.distinct⟩
  · have hnew : ¬ (.close s.shutdown.issued ∈ trace ∨ .upgrade s.shutdown.issued ∈ trace) :=
      fun hmem => Nat.lt_irrefl _ (h.known _ hmem)
    rw [not_or] at hnew
    simp only [Serving.after, Shutdown.acquire, List.mem_append, List.mem_singleton, h.reading,
      reduceCtorEq, or_false, Nat.lt_succ_iff_lt_or_eq]
    constructor
    · rintro (⟨hlt, hpast⟩ | rfl)
      · exact ⟨.inl hlt, hpast⟩
      · exact ⟨.inr rfl, hnew⟩
    · rintro ⟨hlt | rfl, hpast⟩
      · exact .inl ⟨hlt, hpast⟩
      · exact .inr rfl
  · exact Nat.lt_succ_of_lt (h.known token (by simpa using hmem))
  · simpa using h.once
  · simpa [Serving.after] using h.session
  · simpa using h.begun

theorem upgrade (h : Recorded trace s) (hreading : s.connections.Nodup)
    (htoken : token ∈ s.connections) :
    Recorded (trace ++ [.upgrade token]) (s.after (.upgrade token)) := by
  obtain ⟨hissued, hopen, hnever⟩ := (h.reading token).mp htoken
  refine ⟨fun other => ?_, fun other hmem => ?_, fun other hclosed => ?_, fun other => ?_,
    fun other hmem => ?_, ?_⟩
  · simp only [Serving.after, hreading.mem_erase_iff, h.reading, List.mem_append,
      List.mem_singleton, reduceCtorEq, or_false, Event.upgrade.injEq, not_or]
    constructor
    · rintro ⟨hother, hlt, hclosed, hupgraded⟩
      exact ⟨hlt, hclosed, hupgraded, hother⟩
    · rintro ⟨hlt, hclosed, hupgraded, hother⟩
      exact ⟨hother, hlt, hclosed, hupgraded⟩
  · simp only [List.mem_append, List.mem_singleton, reduceCtorEq, or_false,
      Event.upgrade.injEq] at hmem
    rcases hmem with hclosed | hupgraded | rfl
    · exact h.known other (.inl hclosed)
    · exact h.known other (.inr hupgraded)
    · exact hissued
  · have hclosed' : .close other ∈ trace := by simpa using hclosed
    simp only [List.mem_append, List.mem_singleton, Event.upgrade.injEq, not_or]
    refine ⟨h.once other hclosed', ?_⟩
    rintro rfl
    exact hopen hclosed'
  · simp only [Serving.after, List.mem_append, List.mem_singleton, h.session, reduceCtorEq,
      or_false, Event.upgrade.injEq]
    constructor
    · rintro (⟨hupgraded, hgoes⟩ | rfl)
      · exact ⟨.inl hupgraded, hgoes⟩
      · exact ⟨.inr rfl, fun hended => hnever (h.begun other hended)⟩
    · rintro ⟨hupgraded | rfl, hgoes⟩
      · exact .inl ⟨hupgraded, hgoes⟩
      · exact .inr rfl
  · exact List.mem_append_left _ (h.begun other (by simpa using hmem))
  · refine List.nodup_append.mpr ⟨h.distinct, List.nodup_singleton token, ?_⟩
    intro other hother new hnew
    obtain rfl := List.mem_singleton.mp hnew
    rintro rfl
    exact hnever ((h.session other).mp hother).1

theorem close (h : Recorded trace s) (hreading : s.connections.Nodup)
    (htoken : token ∈ s.connections) :
    Recorded (trace ++ [.close token]) (s.after (.close token)) := by
  obtain ⟨hissued, -, hnever⟩ := (h.reading token).mp htoken
  refine ⟨fun other => ?_, fun other hmem => ?_, fun other hclosed => ?_, ?_, ?_, h.distinct⟩
  · simp only [Serving.after, hreading.mem_erase_iff, h.reading, List.mem_append,
      List.mem_singleton, reduceCtorEq, or_false, Event.close.injEq, not_or]
    constructor
    · rintro ⟨hother, hlt, hclosed, hupgraded⟩
      exact ⟨hlt, ⟨hclosed, hother⟩, hupgraded⟩
    · rintro ⟨hlt, ⟨hclosed, hother⟩, hupgraded⟩
      exact ⟨hother, hlt, hclosed, hupgraded⟩
  · simp only [List.mem_append, List.mem_singleton, reduceCtorEq, or_false,
      Event.close.injEq] at hmem
    rcases hmem with (hclosed | rfl) | hupgraded
    · exact h.known other (.inl hclosed)
    · exact hissued
    · exact h.known other (.inr hupgraded)
  · simp only [List.mem_append, List.mem_singleton, reduceCtorEq, or_false,
      Event.close.injEq] at hclosed ⊢
    rcases hclosed with hclosed | rfl
    · exact h.once other hclosed
    · exact hnever
  · simpa [Serving.after] using h.session
  · simpa using h.begun

theorem endSession (h : Recorded trace s) (htoken : token ∈ s.sessions) :
    Recorded (trace ++ [.endSession token]) (s.after (.endSession token)) := by
  refine ⟨?_, ?_, ?_, fun other => ?_, fun other hmem => ?_, h.distinct.erase token⟩
  · simpa [Serving.after] using h.reading
  · simpa [Serving.after] using h.known
  · simpa using h.once
  · simp only [Serving.after, h.distinct.mem_erase_iff, h.session, List.mem_append,
      List.mem_singleton, reduceCtorEq, or_false, Event.endSession.injEq, not_or]
    constructor
    · rintro ⟨hother, hupgraded, hgoes⟩
      exact ⟨hupgraded, hgoes, hother⟩
    · rintro ⟨hupgraded, hgoes, hother⟩
      exact ⟨hother, hupgraded, hgoes⟩
  · simp only [List.mem_append, List.mem_singleton, reduceCtorEq, or_false,
      Event.endSession.injEq] at hmem ⊢
    rcases hmem with hended | rfl
    · exact h.begun other hended
    · exact ((h.session other).mp htoken).1

theorem after (h : Recorded trace s) (htracked : s.Tracked) {e : Event}
    (hallowed : s.allows e = true) : Recorded (trace ++ [e]) (s.after e) := by
  have hreading : s.connections.Nodup := (List.nodup_append.mp htracked.distinct).1
  cases e with
  | accept => exact h.accept
  | upgrade token => exact h.upgrade hreading (reading_of_allows (.inl hallowed))
  | close token => exact h.close hreading (reading_of_allows (.inr hallowed))
  | endSession token => exact h.endSession (by simpa [allows] using hallowed)
  | answerUpgrade _ | leave _ | giveUp _ | signal | stop | drain | expire =>
      refine ⟨?_, ?_, ?_, ?_, ?_, h.distinct⟩
      · simpa [Serving.after, Shutdown.release, Shutdown.trigger] using h.reading
      · simpa [Serving.after, Shutdown.release, Shutdown.trigger] using h.known
      · simpa using h.once
      · simpa [Serving.after] using h.session
      · simpa using h.begun

end Recorded

/-- A server that has ended takes no connections, and one that has drained has none left. -/
structure Over (s : Serving) : Prop where
  stopped : s.ending ≠ none → s.accepting = false
  drained : s.ending = some .drained → s.connections = [] ∧ s.leaving = []

theorem over_initial : initial.Over := by
  constructor <;> simp [initial]

theorem Over.after {s : Serving} (h : s.Over) (htracked : s.Tracked) {e : Event}
    (hallowed : s.allows e = true) : (s.after e).Over := by
  cases e with
  | accept =>
      have hopen : s.ending = none := by
        by_contra hended
        rw [allows, h.stopped hended] at hallowed
        cases hallowed
      exact ⟨h.stopped, fun hdrained => by simp [Serving.after, hopen] at hdrained⟩
  | upgrade token =>
      have htoken := reading_of_allows (.inl hallowed)
      exact ⟨h.stopped, fun hdrained => by simp [(h.drained hdrained).1] at htoken⟩
  | close token =>
      have htoken := reading_of_allows (.inr hallowed)
      exact ⟨h.stopped, fun hdrained => by simp [(h.drained hdrained).1] at htoken⟩
  | leave token =>
      refine ⟨h.stopped, fun hdrained => ?_⟩
      obtain ⟨hreading, hleaving⟩ := h.drained hdrained
      exact ⟨hreading, by simp [Serving.after, hleaving]⟩
  | answerUpgrade _ | giveUp _ | endSession _ | signal => exact ⟨h.stopped, h.drained⟩
  | stop => exact ⟨fun _ => rfl, h.drained⟩
  | drain =>
      simp only [allows, Bool.and_eq_true, Bool.not_eq_true'] at hallowed
      exact ⟨fun _ => hallowed.1.1, fun _ => htracked.isIdle_iff.mp hallowed.2⟩
  | expire =>
      simp only [allows, Bool.and_eq_true, Bool.not_eq_true'] at hallowed
      exact ⟨fun _ => hallowed.1, fun hdrained => by cases hdrained⟩

/-! ## What draining waits for -/

/-- What serving waits for at its end, and what is still served when it has drained. -/
structure WaitsForReading (trace : List Event) (s : Serving) : Prop where
  /-- The count is that of the tasks of connections, those that are about to end included. -/
  counted : s.shutdown.active = s.connections.length + s.leaving.length
  /-- Serving drains as soon as there are none of them, whatever sessions go on. -/
  drains : s.allows .drain = true ↔
    s.accepting = false ∧ s.ending = none ∧ s.connections = [] ∧ s.leaving = []
  /-- A connection is served until it is closed or, once handed over, its session ends. -/
  served : ∀ token, s.Serves token ↔ token < s.shutdown.issued ∧ .close token ∉ trace ∧
    (.upgrade token ∈ trace → .endSession token ∉ trace)
  /-- So those that a drained server still serves are handed over, to sessions that go on. -/
  drained : s.ending = some .drained → ∀ token, s.Serves token ↔
    .upgrade token ∈ trace ∧ .endSession token ∉ trace

theorem Recorded.serves_iff {trace : List Event} {s : Serving} (h : Recorded trace s)
    (token : ℕ) : s.Serves token ↔ token < s.shutdown.issued ∧ .close token ∉ trace ∧
      (.upgrade token ∈ trace → .endSession token ∉ trace) := by
  rw [Serves, h.reading, h.session]
  constructor
  · rintro (⟨hissued, hopen, hnever⟩ | ⟨hupgraded, hgoes⟩)
    · exact ⟨hissued, hopen, fun hupgraded => absurd hupgraded hnever⟩
    · exact ⟨h.known token (.inr hupgraded), fun hclosed => h.once token hclosed hupgraded,
        fun _ => hgoes⟩
  · rintro ⟨hissued, hopen, hgoes⟩
    by_cases hupgraded : .upgrade token ∈ trace
    · exact .inr ⟨hupgraded, hgoes hupgraded⟩
    · exact .inl ⟨hissued, hopen, hupgraded⟩

theorem waitsForReading {trace : List Event} {s : Serving} (h : run? trace = some s) :
    WaitsForReading trace s := by
  have hinvariant : s.Tracked ∧ Recorded trace s ∧ s.Over := by
    refine run?_induction (P := fun trace s => s.Tracked ∧ Recorded trace s ∧ s.Over) ?_ ?_ h
    · exact ⟨tracked_initial, recorded_initial, over_initial⟩
    · rintro trace s e ⟨htracked, hrecorded, hover⟩ hallowed
      exact ⟨htracked.after hallowed, hrecorded.after htracked hallowed,
        hover.after htracked hallowed⟩
  obtain ⟨htracked, hrecorded, hover⟩ := hinvariant
  refine ⟨htracked.active_eq, ?_, hrecorded.serves_iff, fun hdrained token => ?_⟩
  · simp only [allows, Bool.and_eq_true, Bool.not_eq_true', Option.isNone_iff_eq_none,
      htracked.isIdle_iff, and_assoc]
  · obtain ⟨hreading, -⟩ := hover.drained hdrained
    rw [← hrecorded.session, Serves, hreading]
    simp

/-- One connection is handed over to a session and one is closed while the server, asked to shut
down, waits for them. -/
def twoServed : List Event :=
  [.accept, .accept, .answerUpgrade 0, .signal, .stop, .upgrade 0, .leave 0, .close 1, .leave 1,
    .drain]

theorem twoServed_waits :
    run? twoServed = some ⟨⟨[], 2, 0, true⟩, false, [], [], [], [0], some .drained⟩ ∧
    WaitsForReading twoServed ⟨⟨[], 2, 0, true⟩, false, [], [], [], [0], some .drained⟩ :=
  ⟨by decide, waitsForReading (by decide)⟩

/-- A session goes on while serving has drained: the task of its connection has given back the only
token, so nothing was left to wait for. -/
theorem session_outlives_serving :
    ∃ s, run? [.accept, .answerUpgrade 0, .upgrade 0, .leave 0, .signal, .stop, .drain] = some s ∧
      s.shutdown = (Shutdown.initial.acquire.1.release 0).trigger ∧
      s.ending = some .drained ∧ s.Serves 0 :=
  ⟨_, rfl, rfl, rfl, .inr List.mem_cons_self⟩

end Conduit.Serving
