import Mathlib.Data.List.Basic
import Conduit.WebSocket.Socket

/-! # A server's end of a connection

Until it reads a close frame, a server's end owes a pong at most, and whatever it writes leaves at
once. Having read one it owes the echo, and the echo leaves with the next write or read only. -/

namespace Conduit.WebSocket

/-! ## Frames take bytes -/

namespace Frame

variable {role : Role} {bs rest : Bytes} {f : Frame}

theorem length_le_of_body {head : Frame} {length : ℕ} {mask : Option Bytes}
    (h : body role head length mask bs = .frame f rest) : rest.length ≤ bs.length := by
  rw [body] at h
  split at h
  · cases h
  · split at h
    · cases h
    · split at h
      · cases h
      · cases role with
        | client =>
            simp only [Front.frame.injEq] at h
            rw [← h.2, List.length_drop]
            exact Nat.sub_le _ _
        | server =>
            cases mask with
            | none => cases h
            | some mask =>
                simp only [Front.frame.injEq] at h
                rw [← h.2, List.length_drop]
                exact Nat.sub_le _ _

theorem length_lt_of_front (h : front role bs = .frame f rest) : rest.length < bs.length := by
  rcases bs with _ | ⟨first, _ | ⟨second, more⟩⟩
  · cases h
  · cases h
  · simp only [front] at h
    generalize (if second.toNat % 128 = 126 then 2 else if second.toNat % 128 = 127 then 8 else 0) =
      width at h
    generalize (if 128 ≤ second.toNat then 4 else 0) = maskWidth at h
    by_cases hshort : more.length < width + maskWidth
    · rw [if_pos hshort] at h
      cases h
    · rw [if_neg hshort] at h
      have hle := length_le_of_body h
      rw [List.length_drop] at hle
      simp only [List.length_cons]
      omega

end Frame

namespace Endpoint

variable {e after : Endpoint} {f : Frame} {m : Message}

/-! ## Writing -/

theorem writeOut_of_writable (hwritable : e.writable = true) :
    e.writeOut = ({ e with outgoing := e.outgoing ++ e.unsent, unsent := [] }, none) := by
  rw [writeOut]
  split
  · rename_i hempty
    obtain ⟨role, phase, fragments, owed, incoming, finished, unsent, writable, outgoing, ended⟩ :=
      e
    rw [List.isEmpty_iff] at hempty
    simp only at hempty
    rw [hempty, List.append_nil]
  · rfl

theorem queue_eq (hphase : e.phase = .active) (frame : Option Frame) :
    e.queue frame =
      ({ e with
        unsent := e.unsent ++ (frame.toList ++ e.owed.toList).flatMap (Frame.encode e.role)
        owed := none }, none) := by
  have hbytes : ∀ f : Option Frame,
      (f.map (Frame.encode e.role)).getD [] = f.toList.flatMap (Frame.encode e.role) := by
    intro f
    cases f <;> simp
  simp [queue, hphase, Phase.canRead, hbytes]

theorem flush_eq (hphase : e.phase = .active) (hwritable : e.writable = true) :
    e.flush =
      ({ e with
        outgoing := e.outgoing ++ (e.unsent ++ e.owed.toList.flatMap (Frame.encode e.role))
        unsent := []
        owed := none }, none) := by
  rw [flush, queue_eq hphase]
  exact writeOut_of_writable hwritable

theorem write_eq (hphase : e.phase = .active) (hwritable : e.writable = true)
    (hopcode : f.opcode ≠ Frame.close) :
    e.write f =
      ({ e with
        outgoing := e.outgoing ++ (e.unsent ++ (f :: e.owed.toList).flatMap (Frame.encode e.role))
        unsent := []
        owed := none }, none) := by
  have hterminated : e.phase ≠ .terminated := by simp [hphase]
  simp only [write, if_neg hterminated, if_neg (not_not.mpr hphase), if_neg hopcode,
    queue_eq hphase]
  rw [flush_eq]
  · simp
  · exact hphase
  · exact hwritable

/-! ## Before and after the peer's close frame -/

/-- Whole frames have left, and none of them closes. -/
def NoCloseSent (e : Endpoint) : Prop :=
  ∃ sent : List Frame, e.outgoing = sent.flatMap (Frame.encode .server) ∧
    ∀ f ∈ sent, f.opcode ≠ Frame.close

/-- A server's end before a close frame, over a transport that takes what it writes. -/
structure Serving (e : Endpoint) : Prop where
  role : e.role = .server
  phase : e.phase = .active
  writable : e.writable = true
  unsent : e.unsent = []
  owed : ∀ f, e.owed = some f → f.opcode = Frame.pong
  sent : e.NoCloseSent

/-- The same end once it has read the peer's close frame: it owes the echo. -/
structure Closing (e : Endpoint) (echo : Option (Nat × String)) : Prop where
  role : e.role = .server
  phase : e.phase = .closedByPeer
  writable : e.writable = true
  unsent : e.unsent = []
  owed : e.owed = some (.closing echo)
  sent : e.NoCloseSent

theorem serving_ofRole (incoming : Bytes) (finished : Bool) :
    { ofRole .server with incoming, finished }.Serving :=
  ⟨rfl, rfl, rfl, rfl, nofun, [], rfl, nofun⟩

theorem NoCloseSent.append {sent : List Frame} (h : e.NoCloseSent)
    (hsent : ∀ f ∈ sent, f.opcode ≠ Frame.close) :
    { e with outgoing := e.outgoing ++ sent.flatMap (Frame.encode .server) }.NoCloseSent := by
  obtain ⟨before, houtgoing, hbefore⟩ := h
  refine ⟨before ++ sent, ?_, fun f hf => ?_⟩
  · rw [List.flatMap_append, ← houtgoing]
  · exact (List.mem_append.mp hf).elim (hbefore f) (hsent f)

namespace Serving

variable (h : e.Serving)
include h

theorem owed_ne_close : ∀ f ∈ e.owed.toList, f.opcode ≠ Frame.close := by
  intro f hf
  rw [h.owed f (Option.mem_toList.mp hf)]
  decide

theorem canRead : e.phase.canRead = true := by
  rw [h.phase]
  rfl

theorem withIncoming (incoming : Bytes) : { e with incoming }.Serving :=
  ⟨h.role, h.phase, h.writable, h.unsent, h.owed, h.sent⟩

theorem withFragments (fragments : Option Fragments) : { e with fragments }.Serving :=
  ⟨h.role, h.phase, h.writable, h.unsent, h.owed, h.sent⟩

theorem write (hopcode : f.opcode ≠ Frame.close) :
    ∃ after, e.write f = (after, none) ∧ after.Serving ∧ after.incoming = e.incoming := by
  refine ⟨_, write_eq h.phase h.writable hopcode, ?_, rfl⟩
  refine ⟨h.role, h.phase, h.writable, rfl, nofun, ?_⟩
  rw [h.unsent, List.nil_append, h.role]
  exact h.sent.append (List.forall_mem_cons.mpr ⟨hopcode, h.owed_ne_close⟩)

theorem flush : ∃ after, e.flush = (after, none) ∧ after.Serving ∧ after.incoming = e.incoming := by
  refine ⟨_, flush_eq h.phase h.writable, ?_, rfl⟩
  refine ⟨h.role, h.phase, h.writable, rfl, nofun, ?_⟩
  rw [h.unsent, List.nil_append, h.role]
  exact h.sent.append h.owed_ne_close

end Serving

/-! ## Taking in frames -/

/-- What a message leaves of an end that was serving. -/
def Left (after : Endpoint) : Option Message → Prop
  | some (.close _) => ∃ echo, after.Closing echo
  | _ => after.Serving

theorem Serving.left {m : Option Message} (h : e.Serving)
    (hm : ∀ reason, m ≠ some (.close reason)) : e.Left m := by
  unfold Left
  split
  · exact absurd rfl (hm _)
  · exact h

theorem owe_eq (howed : ∀ f, e.owed = some f → f.opcode = Frame.pong) (f : Frame) :
    e.owe f = { e with owed := some f } := by
  rw [owe]
  split
  · rename_i owed hsome
    rw [if_pos (howed owed hsome)]
  · rfl

theorem Serving.left_receiveClose (h : e.Serving) (reason : Option (Nat × String)) :
    (e.receiveClose reason).1.Left (e.receiveClose reason).2 ∧
      (e.receiveClose reason).1.incoming = e.incoming := by
  simp only [receiveClose, h.phase]
  rw [owe_eq]
  · exact ⟨⟨_, h.role, rfl, h.writable, h.unsent, rfl, h.sent⟩, rfl⟩
  · exact h.owed

theorem Serving.left_receiveControl {m : Option Message} (h : e.Serving)
    (hreceive : e.receiveControl f = (after, .ok m)) :
    after.Left m ∧ after.incoming = e.incoming := by
  rw [receiveControl] at hreceive
  split at hreceive
  · cases hreceive
  · split at hreceive
    · cases hreceive
    · split at hreceive
      · split at hreceive
        · cases hreceive
        · cases hreceive
          exact h.left_receiveClose _
      · split at hreceive
        · rw [if_pos h.phase, owe_eq h.owed] at hreceive
          cases hreceive
          refine ⟨?_, rfl⟩
          refine ⟨h.role, h.phase, h.writable, h.unsent, fun f hf => ?_, h.sent⟩
          rw [← Option.some.inj hf]
          rfl
        · cases hreceive
          exact ⟨h, rfl⟩

theorem complete_ne_close {fragments : Fragments} (h : complete fragments = .ok m)
    (reason : Option (Nat × String)) : m ≠ .close reason := by
  rw [complete] at h
  split at h
  · split at h <;> cases h
    exact nofun
  · cases h
    exact nofun

theorem map_complete_ne_close {fragments : Fragments} {m : Option Message}
    (h : (complete fragments).map some = .ok m) (reason : Option (Nat × String)) :
    m ≠ some (.close reason) := by
  cases hcomplete : complete fragments with
  | error fault =>
      rw [hcomplete] at h
      cases h
  | ok found =>
      rw [hcomplete] at h
      cases h
      exact fun heq => complete_ne_close hcomplete reason (Option.some.inj heq)

theorem Serving.of_extend {fragments extended : Fragments} {payload : Bytes} (h : e.Serving)
    (hextend : e.extend fragments payload = (after, .ok extended)) :
    after.Serving ∧ after.incoming = e.incoming := by
  simp only [extend] at hextend
  split at hextend
  · cases hextend
  · cases hdecode : Utf8.decode (fragments.data ++ payload) with
    | ok text =>
        rw [hdecode, Bool.and_false, if_neg Bool.false_ne_true] at hextend
        cases hextend
        exact ⟨h.withFragments _, rfl⟩
    | error fault =>
        rw [hdecode] at hextend
        simp only at hextend
        split at hextend
        · cases hextend
        · cases hextend
          exact ⟨h.withFragments _, rfl⟩

theorem Serving.left_receiveData {m : Option Message} (h : e.Serving)
    (hreceive : e.receiveData f = (after, .ok m)) :
    after.Left m ∧ after.incoming = e.incoming := by
  simp only [receiveData] at hreceive
  split at hreceive
  · cases hreceive
  · split at hreceive
    · rw [Prod.mk.injEq] at hreceive
      obtain ⟨rfl, hcomplete⟩ := hreceive
      exact ⟨h.left (map_complete_ne_close hcomplete), rfl⟩
    · split at hreceive
      · cases hreceive
      · rename_i hextend
        obtain ⟨hserving, hincoming⟩ := h.of_extend hextend
        split at hreceive
        · rw [Prod.mk.injEq] at hreceive
          obtain ⟨rfl, hcomplete⟩ := hreceive
          exact ⟨(hserving.withFragments none).left (map_complete_ne_close hcomplete), hincoming⟩
        · cases hreceive
          exact ⟨hserving, hincoming⟩

theorem Serving.left_receiveFrame {m : Option Message} (h : e.Serving)
    (hreceive : e.receiveFrame f = (after, .ok m)) :
    after.Left m ∧ after.incoming = e.incoming := by
  rw [receiveFrame, h.canRead] at hreceive
  split at hreceive
  · cases hreceive
  · split at hreceive
    · cases hreceive
    · split at hreceive
      · exact h.left_receiveControl hreceive
      · exact h.left_receiveData hreceive

/-! ## Reading -/

theorem Serving.left_readFrom {bound : ℕ} (h : e.Serving)
    (hread : e.readFrom bound = (after, .message m)) :
    after.Left (some m) ∧ after.incoming.length < e.incoming.length := by
  induction bound generalizing e with
  | zero => cases hread
  | succ bound ih =>
      -- What is owed leaves first.
      obtain ⟨flushed, hflushed, hserving, hincoming⟩ :
          ∃ flushed, (if e.owed.isSome then e.flush else (e, none)) = (flushed, none) ∧
            flushed.Serving ∧ flushed.incoming = e.incoming := by
        split
        · exact h.flush
        · exact ⟨e, rfl, h, rfl⟩
      rw [readFrom, hflushed] at hread
      have hopen : ¬ (flushed.role = .server ∧ !flushed.phase.canRead) := by
        simp [hserving.canRead]
      simp only [if_neg hopen] at hread
      rw [← hincoming]
      cases hfront : Frame.front flushed.role flushed.incoming with
      | fault fault =>
          rw [hfront] at hread
          cases hread
      | incomplete =>
          rw [hfront] at hread
          simp only at hread
          split at hread <;> cases hread
      | frame f rest =>
          have hlength := Frame.length_lt_of_front hfront
          have hrest := hserving.withIncoming rest
          rw [hfront] at hread
          simp only at hread
          split at hread
          · cases hread
          · rename_i hreceive
            cases hread
            obtain ⟨hleft, hsame⟩ := hrest.left_receiveFrame hreceive
            exact ⟨hleft, hsame ▸ hlength⟩
          · rename_i next hreceive
            obtain ⟨hnext, hsame⟩ := hrest.left_receiveFrame hreceive
            obtain ⟨hleft, hshorter⟩ := ih hnext hread
            rw [hsame] at hshorter
            exact ⟨hleft, Nat.lt_trans hshorter hlength⟩

theorem Serving.left_read (h : e.Serving) (hread : e.read = (after, .message m)) :
    after.Left (some m) ∧ after.incoming.length < e.incoming.length := by
  rw [read] at hread
  split at hread
  · cases hread
  · split at hread
    · cases hread
    · split at hread
      · cases hread
      · cases hread
      · exact h.left_readFrom hread

theorem Serving.left_readDataFrom {bound : ℕ} (h : e.Serving)
    (hread : e.readDataFrom bound = (after, .message m)) :
    after.Left (some m) ∧ after.incoming.length < e.incoming.length := by
  induction bound generalizing e with
  | zero =>
      rw [readDataFrom] at hread
      split at hread
      · rename_i hping
        cases hread
        exact h.left_read hping
      · rename_i hpong
        cases hread
        exact h.left_read hpong
      · exact h.left_read hread
  | succ bound ih =>
      rw [readDataFrom] at hread
      split at hread
      · rename_i hping
        obtain ⟨hserving, hshorter⟩ := h.left_read hping
        obtain ⟨hleft, hlength⟩ := ih hserving hread
        exact ⟨hleft, Nat.lt_trans hlength hshorter⟩
      · rename_i hpong
        obtain ⟨hserving, hshorter⟩ := h.left_read hpong
        obtain ⟨hleft, hlength⟩ := ih hserving hread
        exact ⟨hleft, Nat.lt_trans hlength hshorter⟩
      · exact h.left_read hread

/-- Each message takes bytes, and only a close frame ends the serving. -/
theorem Serving.left_readData (h : e.Serving) (hread : e.readData = (after, .message m)) :
    after.Left (some m) ∧ after.incoming.length < e.incoming.length :=
  h.left_readDataFrom hread

/-! ## Behind the close frame -/

theorem Closing.flush_outgoing {echo : Option (Nat × String)} (h : e.Closing echo) :
    e.flush.1.outgoing = e.outgoing ++ Frame.encode .server (.closing echo) := by
  simp [flush, queue, Phase.canRead, h.role, h.phase, h.unsent, h.owed, writeOut_of_writable,
    h.writable]

end Endpoint

/-! ## The server's socket -/

def Incoming.message : Incoming → Message
  | text s => .text s
  | binary data => .binary data
  | close reason => .close reason

namespace Socket

variable {s after : Socket Endpoint} {i : Incoming}

theorem readData_of_recv (hrecv : s.recv Endpoint.transport = (after, .incoming i)) :
    s.stream.readData = (after.stream, .message i.message) := by
  rcases hread : s.stream.readData with ⟨e, delivery⟩
  simp only [recv, Endpoint.transport, Endpoint.receive, hread] at hrecv
  cases delivery with
  | message m => cases m <;> cases hrecv <;> rfl
  | failed fault => cases fault <;> cases hrecv
  | ended => cases hrecv
  | pending => cases hrecv

theorem left_of_recv (h : s.stream.Serving)
    (hrecv : s.recv Endpoint.transport = (after, .incoming i)) :
    after.stream.Left (some i.message) ∧
      after.stream.incoming.length < s.stream.incoming.length :=
  h.left_readData (readData_of_recv hrecv)

theorem serving_of_sendText {text : String} (h : s.stream.Serving)
    (hsend : s.sendText Endpoint.transport text = (after, none)) :
    after.stream.Serving ∧ after.stream.incoming = s.stream.incoming := by
  have htext : (Message.text text).frame.opcode ≠ Frame.close := by
    show Frame.text ≠ Frame.close
    decide
  obtain ⟨written, hwrite, hserving, hincoming⟩ := h.write htext
  rw [sendText] at hsend
  simp only [Endpoint.transport, hwrite] at hsend
  cases hsend
  exact ⟨hserving, hincoming⟩

end Socket

end Conduit.WebSocket
