import Conduit.Proofs.Notices
import Conduit.Proofs.Pipeline.Rounds

/-! # A session from its first frame to its end

A session goes through its rounds and then closes the socket. It sends one text for each frame that
it takes, but for the last if that one's reply cannot be encoded or sent. -/

namespace Conduit.Session

open WebSocket (Transport TransportError Script Socket)

/-! ## How a session ends -/

def Ending.note : Ending → Context → Context
  | close reason, ctx => ctx.updateSocket fun s => { s with close := reason }
  | ending, ctx => ending.error?.elim ctx (noteError ctx)

def Ending.closes : Ending → Bool
  | close _ => true
  | failed e => (failed e).error?.isNone
  | ended => false

namespace Stop

def note (ending : Ending) : Stop → Context → Context
  | ended, ctx => ending.note ctx
  | broken e, ctx => noteError ctx e.message
  | unsent _ fault, ctx => noteError ctx (WebSocketError.sendFailed fault.message).message
  | stalled, ctx => ctx

def status : Stop → Status
  | stalled => .waiting
  | _ => .done

def closes (ending : Ending) : Stop → Bool
  | ended => ending.closes
  | _ => false

def unread (frames : List DataFrame) (ending : Ending) : Stop → List WebSocket.Event
  | ended => []
  | _ => frames.map DataFrame.event ++ [ending.event]

/-- What the state of the socket says of the ending, and of errors. -/
def close? (ending : Ending) : Stop → Option (Nat × String)
  | ended => ending.close?
  | _ => none

def error? (ending : Ending) : Stop → Option String
  | ended => ending.error?
  | broken e => some e.message
  | unsent _ fault => some (WebSocketError.sendFailed fault.message).message
  | stalled => none

def failures : Stop → ℕ
  | unsent _ _ => 1
  | _ => 0

end Stop

/-! ## One turn of the loop -/

variable {op : Operation} {r : Round} {n m bound : ℕ} {ctx last : Context}
  {events : List WebSocket.Event} {sends : List (Option TransportError)} {before : List String}
  {frames : List DataFrame} {ending : Ending} {rounds : List Round} {texts : List String}
  {stop : Stop}

theorem recv_frame (frame : DataFrame) :
    Socket.recv Script.transport ⟨⟨frame.event :: events, sends, before, []⟩, n, m, false⟩ =
      (⟨⟨events, sends, before, []⟩, n + 1, m, false⟩, .incoming frame.incoming) := by
  cases frame <;> rfl

theorem answer_of_seen (hseen : r.seen = countFrame n ctx) :
    answer op (ctx.updateSocket fun s => { s with received := n + 1 })
        (dataBytes r.frame.incoming) =
      (r.after op, .ofReply (r.reply op), r.calls op) := by
  rw [← countFrame, ← hseen]
  exact answer_eq r

/-- How the loop goes on from the answer to a frame. -/
def resume (op : Operation) (bound : ℕ) (socket : Socket Script) (ctx : Context)
    (calls : List Call) : Answer → SessionRun Script × Status
  | .stalled => (⟨ctx, socket, calls⟩, .waiting)
  | .broken e => (⟨noteError ctx e.message, socket, calls⟩, .done)
  | .reply text =>
    match socket.sendText Script.transport text with
    | (socket, some e) => (⟨noteError ctx e.message, socket, calls⟩, .done)
    | (socket, none) =>
      let (run, status) :=
        Session.frames op Script.transport bound (countReply socket.sent ctx) socket
      ({ run with calls := calls ++ run.calls }, status)

theorem frames_frame (hseen : r.seen = countFrame n ctx) :
    Session.frames op Script.transport (bound + 1) ctx
        ⟨⟨r.frame.event :: events, sends, before, []⟩, n, m, false⟩ =
      resume op bound ⟨⟨events, sends, before, []⟩, n + 1, m, false⟩ (r.after op) (r.calls op)
        (.ofReply (r.reply op)) := by
  have hanswer : answer op _ _ = _ := answer_of_seen hseen
  rw [Session.frames, recv_frame]
  cases hframe : r.frame <;>
  · rw [hframe] at hanswer
    simp only [DataFrame.incoming] at hanswer ⊢
    rw [hanswer]
    rcases r.reply op with _ | _ | text
    · rfl
    · rfl
    · rcases hsent : Socket.sendText Script.transport
          ⟨⟨events, sends, before, []⟩, n + 1, m, false⟩ text with ⟨socket, _ | e⟩
      · simp only [Answer.ofReply, resume, hsent]
        rfl
      · simp only [Answer.ofReply, resume, hsent]

theorem sendText_script (text : String) :
    Socket.sendText Script.transport ⟨⟨events, sends, before, []⟩, n, m, false⟩ text =
      match sends.head?.join with
      | some fault => (⟨⟨events, sends.tail, before, []⟩, n, m, false⟩,
          some (.sendFailed fault.message))
      | none => (⟨⟨events, sends.tail, before ++ [text], []⟩, n, m + 1, false⟩, none) := by
  rcases sends with _ | ⟨_ | fault, sends⟩ <;> rfl

theorem frames_ending :
    Session.frames op Script.transport (bound + 1) ctx
        ⟨⟨[ending.event], sends, before, []⟩, n, m, false⟩ =
      (⟨ending.note ctx, ⟨⟨[], sends, before, []⟩, n, m, ending.closes⟩, []⟩, .done) := by
  cases ending with
  | close reason => rfl
  | failed e => cases e <;> rfl
  | ended => rfl

/-! ## The whole loop -/

theorem Course.frames_eq (h : Course op n ctx frames sends rounds texts stop last)
    (hbound : frames.length < bound) :
    Session.frames op Script.transport bound ctx
        ⟨⟨frames.map DataFrame.event ++ [ending.event], sends, before, []⟩, n, n, false⟩ =
      (⟨stop.note ending last,
          ⟨⟨stop.unread (frames.drop rounds.length) ending,
            sends.drop (texts.length + stop.failures), before ++ texts, []⟩,
            n + rounds.length, n + texts.length, stop.closes ending⟩,
          rounds.flatMap (Round.calls op)⟩, stop.status) := by
  obtain ⟨bound, rfl⟩ := Nat.exists_eq_succ_of_ne_zero (Nat.ne_zero_of_lt hbound)
  -- The socket's counts and what it sent go up from round to round, so both are kept general.
  induction h generalizing before bound with
  | ended n ctx sends =>
      rw [List.map_nil, List.nil_append, frames_ending, List.append_nil]
      rfl
  | broken hseen hreply =>
      rw [List.map_cons, List.cons_append, frames_frame hseen, hreply]
      simp [Answer.ofReply, resume, Stop.note, Stop.unread, Stop.closes, Stop.status,
        Stop.failures]
  | unsent hseen hreply hsend =>
      rw [List.map_cons, List.cons_append, frames_frame hseen, hreply]
      simp [Answer.ofReply, resume, sendText_script, hsend, Stop.note, Stop.unread, Stop.closes,
        Stop.status, Stop.failures]
  | stalled hseen hreply =>
      rw [List.map_cons, List.cons_append, frames_frame hseen, hreply]
      simp [Answer.ofReply, resume, Stop.note, Stop.unread, Stop.closes, Stop.status,
        Stop.failures]
  | @answered n ctx r rest sends text rounds texts stop last hseen hreply hsend _ ih =>
      obtain ⟨bound, rfl⟩ := Nat.exists_eq_succ_of_ne_zero
        (Nat.ne_zero_of_lt (Nat.lt_of_succ_lt_succ hbound))
      rw [List.map_cons, List.cons_append, frames_frame hseen, hreply]
      simp only [Answer.ofReply, resume, sendText_script, hsend]
      rw [ih bound (Nat.lt_of_succ_lt_succ hbound)]
      have hreceived : n + 1 + rounds.length = n + (rounds.length + 1) := by omega
      have hsent : n + 1 + texts.length = n + (texts.length + 1) := by omega
      have hsends : sends.tail.drop (texts.length + stop.failures) =
          sends.drop (texts.length + 1 + stop.failures) := by
        rw [← List.drop_one, List.drop_drop]
        congr 1
        omega
      rw [hreceived, hsent, hsends]
      simp only [List.length_cons, List.flatMap_cons, List.append_assoc, List.singleton_append,
        List.drop_succ_cons]

/-! ## The end -/

section Notes

variable (hclose : ctx.socketState.close = none) (herror : ctx.socketState.error = none)
include hclose

theorem socketState_noteError (message : String) :
    (noteError ctx message).socketState =
      { ctx.socketState with close := none, error := some message } := by
  rw [noteError, Context.updateSocket, ← hclose]
  rfl

include herror

theorem socketState_unnoted :
    ctx.socketState = { ctx.socketState with close := none, error := none } := by
  rw [← hclose, ← herror]

theorem Ending.socketState_note (ending : Ending) : (ending.note ctx).socketState =
    { ctx.socketState with close := ending.close?, error := ending.error? } := by
  cases ending with
  | close reason =>
      rw [note, Context.updateSocket, socketState_unnoted hclose herror]
      rfl
  | failed e =>
      cases e with
      | connectionClosed => exact socketState_unnoted hclose herror
      | alreadyClosed => exact socketState_unnoted hclose herror
      | protocol fault => exact socketState_noteError hclose _
      | utf8 => exact socketState_noteError hclose _
      | brokenPipe => exact socketState_noteError hclose _
      | messageTooLong size limit => exact socketState_noteError hclose _
  | ended => exact socketState_unnoted hclose herror

/-- Only a close frame's reason is noted, and only one error. -/
theorem Stop.socketState_note (stop : Stop) : (stop.note ending ctx).socketState =
    { ctx.socketState with close := stop.close? ending, error := stop.error? ending } := by
  cases stop with
  | ended => exact ending.socketState_note hclose herror
  | broken e => exact socketState_noteError hclose _
  | unsent text fault => exact socketState_noteError hclose _
  | stalled => exact socketState_unnoted hclose herror

end Notes

theorem close_script (s : Socket Script) :
    ∃ closings, (s.close Script.transport "").1 =
      { s with stream := { s.stream with closed := closings }, closed := true } := by
  rw [Socket.close]
  split
  · rename_i hclosed
    refine ⟨s.stream.closed, ?_⟩
    rw [← hclosed]
  · exact ⟨_, rfl⟩

theorem run_of_waiting {σ : Type} {t : Transport σ} {socket : Socket σ} {done : SessionRun σ}
    (h : Session.frames op t (t.budget socket.stream + 1) ctx socket = (done, .waiting)) :
    run op t ctx socket = done := by
  rw [run, h]

theorem run_of_done {σ : Type} {t : Transport σ} {socket : Socket σ} {done : SessionRun σ}
    (h : Session.frames op t (t.budget socket.stream + 1) ctx socket = (done, .done)) :
    run op t ctx socket =
      ⟨done.ctx.updateSocket fun s =>
          { s with
            received := (done.socket.close t "").1.received
            sent := (done.socket.close t "").1.sent },
        (done.socket.close t "").1, done.calls⟩ := by
  rw [run, h]

/-- A session over a script, from a fresh socket. -/
def play (op : Operation) (ctx : Context) (frames : List DataFrame) (ending : Ending)
    (sends : List (Option TransportError)) : SessionRun Script :=
  run op Script.transport ctx (.ofStream (script frames ending sends))

/-- What a session comes to by its course. Its socket is closed in the end, unless it waits for its
handler for good. -/
structure Played (op : Operation) (ctx : Context) (frames : List DataFrame) (ending : Ending)
    (rounds : List Round) (texts : List String) (stop : Stop) (run : SessionRun Script) : Prop where
  calls : run.calls = rounds.flatMap (Round.calls op)
  sent : run.socket.stream.sent = texts
  unread : run.socket.stream.events = stop.unread (frames.drop rounds.length) ending
  state : op.handler.KeepsSocket → ctx.socketState.Idle → run.ctx.socketState =
    { ctx.socketState with
      received := rounds.length, sent := texts.length,
      close := stop.close? ending, error := stop.error? ending }
  closed : stop ≠ .stalled → run.socket.closed = true

theorem Course.socketState_note (h : Course op 0 ctx frames sends rounds texts stop last)
    (hkeeps : op.handler.KeepsSocket) (hidle : ctx.socketState.Idle) :
    (stop.note ending last).socketState =
      { ctx.socketState with
        received := rounds.length, sent := texts.length,
        close := stop.close? ending, error := stop.error? ending } := by
  have hlast := h.socketState_last hkeeps hidle.eq
  rw [Nat.zero_add, Nat.zero_add] at hlast
  rw [stop.socketState_note (by rw [hlast]; exact hidle.close) (by rw [hlast]; exact hidle.error),
    hlast]

theorem Course.played (h : Course op 0 ctx frames sends rounds texts stop last) :
    Played op ctx frames ending rounds texts stop (play op ctx frames ending sends) := by
  have hbound : frames.length < (frames.map DataFrame.event ++ [ending.event]).length + 1 := by
    simp only [List.length_append, List.length_map]
    omega
  have hframes : Session.frames op Script.transport
      (Script.transport.budget (script frames ending sends) + 1) ctx
      (.ofStream (script frames ending sends)) = _ := h.frames_eq hbound
  rw [Nat.zero_add, Nat.zero_add, List.nil_append] at hframes
  by_cases hstop : stop = .stalled
  · subst hstop
    rw [play, run_of_waiting hframes]
    exact ⟨rfl, rfl, rfl, h.socketState_note, fun hne => absurd rfl hne⟩
  · have hstatus : stop.status = .done := by
      cases stop with
      | stalled => exact absurd rfl hstop
      | ended => rfl
      | broken e => rfl
      | unsent text fault => rfl
    rw [hstatus] at hframes
    obtain ⟨closings, hclose⟩ := close_script _
    rw [play, run_of_done hframes, hclose]
    refine ⟨rfl, rfl, rfl, fun hkeeps hidle => ?_, fun _ => rfl⟩
    rw [Context.updateSocket, h.socketState_note hkeeps hidle]
    rfl

/-! ## The loop as its peer and its handler see it -/

namespace Course

variable (h : Course op n ctx frames sends rounds texts stop last)
include h

end Course

def upgradeRequest : Exchange :=
  { Exchange.plainGet with
    headers := ⟨[("connection", Utf8.encode "Upgrade"), ("upgrade", Utf8.encode "websocket"),
      ("sec-websocket-key", Utf8.encode "dGhlIHNhbXBsZSBub25jZQ=="),
      ("sec-websocket-version", Utf8.encode "13")]⟩ }

end Conduit.Session
