import Conduit.Proofs.Pipeline.Upgrade
import Conduit.Pipeline.Session

/-! # The rounds of a session

A session takes data frames one by one. Each is seen in the context that the one before left, and
makes a round: it may call the handler, and it comes to a reply unless the handler never returns. -/

namespace Conduit.Session

open WebSocket (Event Incoming Transport TransportError Script Socket)

/-! ## What a peer sends -/

inductive DataFrame
  | text (s : String)
  | binary (data : Bytes)

namespace DataFrame

def incoming : DataFrame → Incoming
  | text s => .text s
  | binary data => .binary data

def event : DataFrame → Event
  | text s => .text s
  | binary data => .binary data

def bytes (frame : DataFrame) : Bytes := dataBytes frame.incoming

end DataFrame

/-- What comes behind the data frames. -/
inductive Ending
  | close (reason : Option (Nat × String))
  | failed (e : TransportError)
  | ended

namespace Ending

def event : Ending → Event
  | close reason => .close reason
  | failed e => .failed e
  | ended => .ended

def close? : Ending → Option (Nat × String)
  | close reason => reason
  | _ => none

/-- The error that the session notes. A transport that says it is closed is an end like any
other. -/
def error? : Ending → Option String
  | failed .connectionClosed => none
  | failed .alreadyClosed => none
  | failed e => some (WebSocketError.receiveFailed e.message).message
  | _ => none

end Ending

/-- The transport of a peer that sends some frames and an ending; sends to it come out as listed. -/
def script (frames : List DataFrame) (ending : Ending) (sends : List (Option TransportError)) :
    Script :=
  .ofEvents (frames.map DataFrame.event ++ [ending.event]) sends

/-! ## A round -/

/-- A frame and the context in which it is seen. -/
structure Round where
  frame : DataFrame
  seen : Context

namespace Round

variable (op : Operation) (r : Round)

def decoded : Except ExtractionError Request :=
  decodeFrame op.contract r.seen r.frame.bytes

/-- The handler is called with what the frame decodes to. -/
def calls : List Call :=
  match r.decoded op with
  | .error _ => []
  | .ok request => [.handler request r.seen]

def after : Context :=
  match r.decoded op with
  | .error _ => r.seen
  | .ok request =>
    match op.handler r.seen request with
    | (ctx, .pending) => ctx
    | (ctx, .returned result) => { ctx with result := some result }

/-- The text to be sent, or why there is none, unless the handler never returns. -/
def reply : Option (Except PipelineError String) :=
  match r.decoded op with
  | .error e => some (.ok (errorFrame e))
  | .ok request =>
    match (op.handler r.seen request).2 with
    | .pending => none
    | .returned result => some (((r.after op).indexer.rsp.getD .plainJson).encodeFrame result)

/-- What keeps the reply from the peer, given how its send comes out. -/
def fault? (outcome : Option TransportError) : Option String :=
  match r.reply op with
  | none => none
  | some (.error e) => some e.message
  | some (.ok _) => outcome.map fun fault => (WebSocketError.sendFailed fault.message).message

end Round

def Answer.ofReply : Option (Except PipelineError String) → Answer
  | none => .stalled
  | some (.error e) => .broken e
  | some (.ok text) => .reply text

variable {op : Operation} {r : Round}

theorem answer_eq (r : Round) :
    answer op r.seen r.frame.bytes = (r.after op, .ofReply (r.reply op), r.calls op) := by
  unfold answer Round.reply Round.after Round.calls Round.decoded
  cases hdecoded : decodeFrame op.contract r.seen r.frame.bytes with
  | error e => simp only [Answer.ofReply]
  | ok request =>
      rcases hcall : op.handler r.seen request with ⟨ctx, result | _⟩
      · simp only [hcall]
        cases (ctx.indexer.rsp.getD .plainJson).encodeFrame result <;> rfl
      · simp only [hcall, Answer.ofReply]

theorem Round.after_cases (op : Operation) (r : Round) :
    r.after op = r.seen ∨
      ∃ request result, r.after op = { (op.handler r.seen request).1 with result } := by
  unfold Round.after
  cases r.decoded op with
  | error e => exact .inl rfl
  | ok request =>
      right
      refine ⟨request, ?_⟩
      rcases hcall : op.handler r.seen request with ⟨ctx, result | _⟩
      · exact ⟨some result, by simp only [hcall]⟩
      · exact ⟨ctx.result, by simp only [hcall]⟩

theorem Round.socket_after (hkeeps : op.handler.KeepsSocket) (r : Round) :
    (r.after op).socket = r.seen.socket := by
  rcases r.after_cases op with hsame | ⟨request, result, hcall⟩
  · rw [hsame]
  · rw [hcall]
    exact hkeeps r.seen request

theorem Round.indexer_after (hkeeps : op.handler.KeepsIndexer) (r : Round) :
    (r.after op).indexer = r.seen.indexer := by
  rcases r.after_cases op with hsame | ⟨request, result, hcall⟩
  · rw [hsame]
  · rw [hcall]
    exact hkeeps r.seen request

/-! ## The course of a session -/

def countFrame (n : ℕ) (ctx : Context) : Context :=
  ctx.updateSocket fun s => { s with received := n + 1 }

/-- The context once as many replies are sent. -/
def countReply (n : ℕ) (ctx : Context) : Context :=
  ctx.updateSocket fun s => { s with sent := n }

/-- Why a session takes no further frame. -/
inductive Stop
  | ended
  | broken (e : PipelineError)
  | unsent (text : String) (fault : TransportError)
  | stalled

/-- The reply that its last frame is left without. -/
def Stop.lacking : Stop → List (Option (Except PipelineError String))
  | ended => []
  | broken e => [some (.error e)]
  | unsent text _ => [some (.ok text)]
  | stalled => [none]

/-- The rounds of a session behind `n` others, the texts that it sends, why it stops, and the
context that it has come to by then. -/
inductive Course (op : Operation) : ℕ → Context → List DataFrame → List (Option TransportError) →
    List Round → List String → Stop → Context → Prop
  | ended (n ctx sends) : Course op n ctx [] sends [] [] .ended ctx
  | broken {n ctx r rest sends e} (hseen : r.seen = countFrame n ctx)
      (hreply : r.reply op = some (.error e)) :
      Course op n ctx (r.frame :: rest) sends [r] [] (.broken e) (r.after op)
  | unsent {n ctx r rest sends text fault} (hseen : r.seen = countFrame n ctx)
      (hreply : r.reply op = some (.ok text)) (hsend : sends.head?.join = some fault) :
      Course op n ctx (r.frame :: rest) sends [r] [] (.unsent text fault) (r.after op)
  | stalled {n ctx r rest sends} (hseen : r.seen = countFrame n ctx) (hreply : r.reply op = none) :
      Course op n ctx (r.frame :: rest) sends [r] [] .stalled (r.after op)
  | answered {n ctx r rest sends text rounds texts stop last} (hseen : r.seen = countFrame n ctx)
      (hreply : r.reply op = some (.ok text)) (hsend : sends.head?.join = none)
      (hrest : Course op (n + 1) (countReply (n + 1) (r.after op)) rest sends.tail rounds texts
        stop last) :
      Course op n ctx (r.frame :: rest) sends (r :: rounds) (text :: texts) stop last

theorem exists_course (op : Operation) (frames : List DataFrame) (n : ℕ) (ctx : Context)
    (sends : List (Option TransportError)) :
    ∃ rounds texts stop last, Course op n ctx frames sends rounds texts stop last := by
  induction frames generalizing n ctx sends with
  | nil => exact ⟨[], [], .ended, ctx, .ended n ctx sends⟩
  | cons frame rest ih =>
      let r : Round := ⟨frame, countFrame n ctx⟩
      cases hreply : r.reply op with
      | none => exact ⟨_, _, _, _, .stalled (r := r) rfl hreply⟩
      | some reply =>
          cases reply with
          | error e => exact ⟨_, _, _, _, .broken (r := r) rfl hreply⟩
          | ok text =>
              cases hsend : sends.head?.join with
              | some fault => exact ⟨_, _, _, _, .unsent (r := r) rfl hreply hsend⟩
              | none =>
                  obtain ⟨rounds, texts, stop, last, hrest⟩ :=
                    ih (n + 1) (countReply (n + 1) (r.after op)) sends.tail
                  exact ⟨_, _, _, _, .answered (r := r) rfl hreply hsend hrest⟩

/-! ## What a course says of its rounds -/

/-- Each round sees the context that the one before left, with both counts brought up to date. -/
def Linked (op : Operation) : ℕ → Context → List Round → Prop
  | _, _, [] => True
  | n, ctx, r :: rest =>
    r.seen = countFrame n ctx ∧ Linked op (n + 1) (countReply (n + 1) (r.after op)) rest

namespace Course

variable {n : ℕ} {ctx last : Context} {frames : List DataFrame} {texts : List String} {stop : Stop}
  {sends : List (Option TransportError)} {rounds : List Round}

theorem taken (h : Course op n ctx frames sends rounds texts stop last) :
    rounds.map Round.frame = frames.take rounds.length := by
  induction h with
  | ended => rfl
  | broken => rfl
  | unsent => rfl
  | stalled => rfl
  | answered _ _ _ _ ih => rw [List.map_cons, ih, List.length_cons, List.take_succ_cons]

theorem linked (h : Course op n ctx frames sends rounds texts stop last) :
    Linked op n ctx rounds := by
  induction h with
  | ended => trivial
  | broken hseen => exact ⟨hseen, trivial⟩
  | unsent hseen => exact ⟨hseen, trivial⟩
  | stalled hseen => exact ⟨hseen, trivial⟩
  | answered hseen _ _ _ ih => exact ⟨hseen, ih⟩

theorem replies (h : Course op n ctx frames sends rounds texts stop last) :
    rounds.map (Round.reply op) = texts.map (some ∘ .ok) ++ stop.lacking := by
  induction h with
  | ended => rfl
  | broken _ hreply => simp [Stop.lacking, hreply]
  | unsent _ hreply => simp [Stop.lacking, hreply]
  | stalled _ hreply => simp [Stop.lacking, hreply]
  | answered _ hreply _ _ ih => simp [hreply, ih]

theorem rounds_pos (h : Course op n ctx frames sends rounds texts stop last)
    (hframes : 0 < frames.length) : 0 < rounds.length := by
  cases h with
  | ended => exact hframes
  | _ => exact Nat.succ_pos _

theorem answered_of_reply {i : ℕ} {text : String}
    (h : Course op n ctx frames sends rounds texts stop last) (hi : rounds[i]? = some r)
    (hreply : r.reply op = some (.ok text)) (hsend : sends[i]?.join = none) :
    texts[i]? = some text ∧ (i + 1 < frames.length → i + 1 < rounds.length) := by
  have hfirst : ∀ {i : ℕ} {first : Round}, [first][i]? = some r → i = 0 ∧ first = r := by
    intro i first hi
    rwa [List.getElem?_singleton, Option.ite_none_right_eq_some, Option.some.injEq] at hi
  induction h generalizing i with
  | ended => simp at hi
  | broken _ hbroken =>
      obtain ⟨rfl, rfl⟩ := hfirst hi
      simp [hbroken] at hreply
  | unsent _ _ hunsent =>
      obtain ⟨rfl, rfl⟩ := hfirst hi
      rw [← List.head?_eq_getElem?, hunsent] at hsend
      cases hsend
  | stalled _ hstalled =>
      obtain ⟨rfl, rfl⟩ := hfirst hi
      simp [hstalled] at hreply
  | answered _ hanswered _ hrest ih =>
      cases i with
      | zero =>
          rw [List.getElem?_cons_zero, Option.some.injEq] at hi
          subst hi
          rw [hanswered, Option.some.injEq, Except.ok.injEq] at hreply
          subst hreply
          exact ⟨rfl, fun hframes => Nat.succ_lt_succ
            (hrest.rounds_pos (Nat.lt_of_succ_lt_succ hframes))⟩
      | succ i =>
          rw [← List.getElem?_tail] at hsend
          obtain ⟨htext, hnext⟩ := ih hi hsend
          exact ⟨htext, fun hframes => Nat.succ_lt_succ (hnext (Nat.lt_of_succ_lt_succ hframes))⟩

end Course

/-! ## The counts -/

theorem Linked.indexer (hkeeps : op.handler.KeepsIndexer) {n : ℕ} {ctx : Context}
    {rounds : List Round} (h : Linked op n ctx rounds) :
    ∀ r ∈ rounds, r.seen.indexer = ctx.indexer := by
  induction rounds generalizing n ctx with
  | nil => simp
  | cons first rest ih =>
      obtain ⟨hseen, hrest⟩ := h
      have hfirst : first.seen.indexer = ctx.indexer := by
        rw [hseen]
        rfl
      intro r hr
      rcases List.mem_cons.mp hr with rfl | hr
      · exact hfirst
      · exact (ih hrest r hr).trans ((Round.indexer_after hkeeps first).trans hfirst)

/-- In the end every frame taken and every text sent is counted, and nothing else was changed. -/
theorem Course.socketState_last (hkeeps : op.handler.KeepsSocket) {n : ℕ} {ctx last : Context}
    {frames : List DataFrame} {sends : List (Option TransportError)} {rounds : List Round}
    {texts : List String} {stop : Stop} {s : SocketState}
    (h : Course op n ctx frames sends rounds texts stop last)
    (hstate : ctx.socketState = { s with received := n, sent := n }) :
    last.socketState =
      { s with received := n + rounds.length, sent := n + texts.length } := by
  have hround : ∀ {n : ℕ} {ctx : Context} {r : Round}, r.seen = countFrame n ctx →
      ctx.socketState = { s with received := n, sent := n } →
      (r.after op).socketState = { s with received := n + 1, sent := n } := by
    intro n ctx r hseen hstate
    have hseenState : r.seen.socketState = { s with received := n + 1, sent := n } := by
      rw [hseen, countFrame, Context.updateSocket, hstate]
      rfl
    rw [Context.socketState, Round.socket_after hkeeps, ← Context.socketState, hseenState]
  induction h with
  | ended => exact hstate
  | broken hseen => exact hround hseen hstate
  | unsent hseen => exact hround hseen hstate
  | stalled hseen => exact hround hseen hstate
  | @answered n ctx r rest sends text rounds texts stop last hseen _ _ _ ih =>
      have hnext : (countReply (n + 1) (r.after op)).socketState =
          { s with received := n + 1, sent := n + 1 } := by
        rw [countReply, Context.updateSocket, hround hseen hstate]
        rfl
      rw [ih hnext, List.length_cons, List.length_cons]
      congr 1 <;> omega

end Conduit.Session
