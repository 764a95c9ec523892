import Conduit.Proofs.Pipeline.FrameLimit
import Conduit.Proofs.WebSocket.Endpoint
import Conduit.Pipeline.Rehearsal

/-! # Sessions that the peer closes

A session that reads a close frame takes its socket for closed, so the close at its end does nothing
and the echo that the server's end owes does not leave. -/

namespace Conduit.Session

open WebSocket (Endpoint Frame Incoming Message Socket Transport)

/-- The rounds of a session in which a frame is taken and its reply sent. -/
inductive Answered {σ : Type} (op : Operation) (t : Transport σ) :
    Context → Socket σ → Context → Socket σ → Prop
  | none (ctx s) : Answered op t ctx s ctx s
  | round {ctx s last final taken sent replied text calls} (frame : DataFrame)
      (hrecv : s.recv t = (taken, .incoming frame.incoming))
      (hanswer : answer op (ctx.updateSocket fun s => { s with received := taken.received })
        frame.bytes = (replied, .reply text, calls))
      (hsend : taken.sendText t text = (sent, none))
      (hrest : Answered op t (replied.updateSocket fun s => { s with sent := sent.sent }) sent
        last final) :
      Answered op t ctx s last final

/-- Behind such rounds the session reads a close frame and stops with this socket. -/
def StopsAtClose {σ : Type} (op : Operation) (t : Transport σ) (ctx : Context) (s closed : Socket σ)
    (reason : Option (Nat × String)) : Prop :=
  ∃ last final, Answered op t ctx s last final ∧
    final.recv t = (closed, .incoming (.close reason))

/-! ## One turn of the loop -/

section Turns

variable {σ : Type} {op : Operation} {t : Transport σ} {bound : ℕ} {ctx replied : Context}
  {s taken sent closed : Socket σ} {text : String} {calls : List Call}
  {reason : Option (Nat × String)}

theorem frames_of_reply {frame : DataFrame} (hrecv : s.recv t = (taken, .incoming frame.incoming))
    (hanswer : answer op (ctx.updateSocket fun s => { s with received := taken.received })
      frame.bytes = (replied, .reply text, calls))
    (hsend : taken.sendText t text = (sent, none)) {run : SessionRun σ} {status : Status}
    (hrest : Session.frames op t bound
      (replied.updateSocket fun s => { s with sent := sent.sent }) sent = (run, status)) :
    Session.frames op t (bound + 1) ctx s = ({ run with calls := calls ++ run.calls }, status) := by
  rw [Session.frames, hrecv]
  cases frame <;>
  · simp only [DataFrame.incoming, DataFrame.bytes] at hanswer ⊢
    rw [hanswer]
    simp only [hsend, hrest]

theorem frames_of_close (hrecv : s.recv t = (closed, .incoming (.close reason))) :
    Session.frames op t (bound + 1) ctx s =
      (⟨ctx.updateSocket fun s => { s with close := reason }, closed, []⟩, .done) := by
  rw [Session.frames, hrecv]

theorem closed_of_recv_close (hrecv : s.recv t = (closed, .incoming (.close reason))) :
    closed.closed = true := by
  rw [Socket.recv] at hrecv
  rcases ht : t.receive s.stream with ⟨stream, event⟩
  simp only [ht] at hrecv
  cases event with
  | close found =>
      cases hrecv
      rfl
  | failed e => cases e <;> cases hrecv
  | _ => cases hrecv

theorem close_of_closed (h : s.closed = true) : s.close t "" = (s, none) := by
  rw [Socket.close, if_pos h]

end Turns

/-! ## Over a server's end -/

variable {op : Operation} {ctx last : Context} {s final closed : Socket Endpoint} {bound : ℕ}
  {reason : Option (Nat × String)}

/-- Each round takes bytes, so the loop comes to the close frame. -/
theorem Answered.exists_frames (h : Answered op Endpoint.transport ctx s last final)
    (hserving : s.stream.Serving) (hbound : s.stream.incoming.length < bound)
    (hclose : final.recv Endpoint.transport = (closed, .incoming (.close reason))) :
    final.stream.Serving ∧ ∃ calls, Session.frames op Endpoint.transport bound ctx s =
      (⟨last.updateSocket fun s => { s with close := reason }, closed, calls⟩, .done) := by
  obtain ⟨bound, rfl⟩ := Nat.exists_eq_succ_of_ne_zero (Nat.ne_zero_of_lt hbound)
  induction h generalizing bound with
  | none ctx s => exact ⟨hserving, [], frames_of_close hclose⟩
  | @round ctx s last final taken sent replied text calls frame hrecv hanswer hsend _ ih =>
      obtain ⟨hleft, hshorter⟩ := Socket.left_of_recv hserving hrecv
      have htaken : taken.stream.Serving := by
        cases frame <;> exact hleft
      obtain ⟨hsent, hincoming⟩ := Socket.serving_of_sendText htaken hsend
      rw [← hincoming] at hshorter
      obtain ⟨bound, rfl⟩ := Nat.exists_eq_succ_of_ne_zero
        (Nat.ne_zero_of_lt (Nat.lt_of_lt_of_le hshorter (Nat.le_of_lt_succ hbound)))
      obtain ⟨hfinal, calls, hframes⟩ := ih hsent hclose bound (by omega)
      exact ⟨hfinal, _, frames_of_reply hrecv hanswer hsend hframes⟩

/-- What a session comes to that read a close frame: the frame is noted and the socket taken for
closed, but of the frames that left none closes. The echo is still owed, and one flush would have
sent it. -/
structure LeftUnanswered (run : SessionRun Endpoint) (reason echo : Option (Nat × String)) :
    Prop where
  noted : run.ctx.socketState.close = reason
  closed : run.socket.closed = true
  writable : run.socket.stream.writable = true
  sent : run.socket.stream.NoCloseSent
  owed : run.socket.stream.owed = some (.closing echo)
  flushed : run.socket.stream.flush.1.outgoing =
    run.socket.stream.outgoing ++ Frame.encode .server (.closing echo)

/-- Every session over a server's end that takes what it writes leaves the peer's close frame
unanswered. -/
theorem exists_leftUnanswered (op : Operation) (ctx : Context) (incoming : Bytes) (finished : Bool)
    (hstops : StopsAtClose op Endpoint.transport ctx
      (.ofStream { Endpoint.ofRole .server with incoming, finished }) closed reason) :
    ∃ echo, LeftUnanswered (run op Endpoint.transport ctx
      (.ofStream { Endpoint.ofRole .server with incoming, finished })) reason echo := by
  obtain ⟨last, final, hanswered, hclose⟩ := hstops
  obtain ⟨hfinal, calls, hframes⟩ := hanswered.exists_frames
    (Endpoint.serving_ofRole incoming finished) (Nat.lt_succ_self incoming.length) hclose
  obtain ⟨⟨echo, hclosing⟩, -⟩ := Socket.left_of_recv hfinal hclose
  have hclosed := closed_of_recv_close hclose
  refine ⟨echo, ?_⟩
  rw [run_of_done hframes, close_of_closed hclosed]
  exact ⟨rfl, hclosed, hclosing.writable, hclosing.sent, hclosing.owed, hclosing.flush_outgoing⟩

/-- A peer sends a frame of two bytes and closes. -/
def briefPeer : Bytes :=
  Frame.encode .client (Message.binary [1, 2]).frame ++ Frame.encode .client (.closing none)

theorem sizeRoute_leftUnanswered :
    ∃ closed echo,
      StopsAtClose sizeRoute.operation Endpoint.transport
        (.ofExchange upgradeRequest sizeRoute.indexer)
        (.ofStream { Endpoint.ofRole .server with incoming := briefPeer, finished := true })
        closed none ∧
      LeftUnanswered (run sizeRoute.operation Endpoint.transport
        (.ofExchange upgradeRequest sizeRoute.indexer)
        (.ofStream { Endpoint.ofRole .server with incoming := briefPeer, finished := true }))
        none echo := by
  have hstops : ∃ closed, StopsAtClose sizeRoute.operation Endpoint.transport
      (.ofExchange upgradeRequest sizeRoute.indexer)
      (.ofStream { Endpoint.ofRole .server with incoming := briefPeer, finished := true })
      closed none := ⟨_, _, _, .round (.binary [1, 2]) rfl rfl rfl (.none _ _), rfl⟩
  obtain ⟨closed, hstops⟩ := hstops
  obtain ⟨echo, hleft⟩ := exists_leftUnanswered _ _ _ _ hstops
  exact ⟨closed, echo, hstops, hleft⟩

/-- A peer that closes and goes on reading gets nothing in return. -/
theorem sizeRoute_closes_silently :
    let (done, received) := rehearse sizeRoute.operation
      (.ofExchange upgradeRequest sizeRoute.indexer) [.message (.close (some (1000, "bye")))] false
    done.ctx.socketState.close = some (1000, "bye") ∧ done.socket.stream.writable = true ∧
      received = some [] := by
  decide +kernel

end Conduit.Session
