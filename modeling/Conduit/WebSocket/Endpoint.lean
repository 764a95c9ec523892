import Conduit.WebSocket.Frame

/-!
One end of a WebSocket connection: the bytes that have arrived and those that have left, and where
it stands between the opening and the closing handshake. A pong or the echo of a close frame is
owed until the end reads or writes again.
-/

namespace Conduit.WebSocket

inductive Phase
  | active
  | closedByUs
  | closedByPeer
  | closeAcknowledged
  | terminated
  deriving DecidableEq, Repr, Inhabited

namespace Phase

def canRead : Phase → Bool
  | active | closedByUs => true
  | _ => false

end Phase

/-- A message whose frames have not all arrived. -/
structure Fragments where
  isText : Bool
  data : Bytes
  deriving DecidableEq, Repr, Inhabited

structure Endpoint where
  role : Role
  phase : Phase
  fragments : Option Fragments
  /-- A pong or close frame to be sent with whatever goes out next. -/
  owed : Option Frame
  /-- Bytes that have arrived and are not read. -/
  incoming : Bytes
  /-- No more will arrive. -/
  finished : Bool
  /-- Bytes that the transport has not taken. -/
  unsent : Bytes
  /-- The transport takes bytes. -/
  writable : Bool
  /-- Bytes that have left and were not collected. -/
  outgoing : Bytes
  /-- Reading has come to its end. -/
  ended : Bool
  deriving Inhabited

/-- What reading gives. -/
inductive Delivery
  | message (m : Message)
  | failed (e : TransportError)
  | ended
  /-- Nothing yet. -/
  | pending
  deriving DecidableEq, Repr, Inhabited

namespace Endpoint

def ofRole (role : Role) : Endpoint :=
  { role, phase := .active, fragments := none, owed := none, incoming := [], finished := false,
    unsent := [], writable := true, outgoing := [], ended := false }

def maxMessage : Nat := 64 * 1024 * 1024

/-! ## Writing -/

/-- Hands what is unsent to the transport. -/
def writeOut (e : Endpoint) : Endpoint × Option TransportError :=
  if e.unsent.isEmpty then (e, none)
  else if e.writable then ({ e with outgoing := e.outgoing ++ e.unsent, unsent := [] }, none)
  else (e, some .brokenPipe)

/-- Queues a frame and what is owed. A server that can read no more is done with that. -/
def queue (e : Endpoint) (frame : Option Frame) : Endpoint × Option TransportError :=
  let bytes (f : Option Frame) : Bytes := (f.map (Frame.encode e.role)).getD []
  let e := { e with unsent := e.unsent ++ bytes frame ++ bytes e.owed, owed := none }
  if e.role = .server ∧ !e.phase.canRead then
    match e.writeOut with
    | (e, some fault) => (e, some fault)
    | (e, none) => ({ e with phase := .terminated }, some .connectionClosed)
  else (e, none)

def flush (e : Endpoint) : Endpoint × Option TransportError :=
  match e.queue none with
  | (e, some fault) => (e, some fault)
  | (e, none) => e.writeOut

/-- Writes a frame and flushes. An end that has sent or received a close frame writes no more. -/
def write (e : Endpoint) (frame : Frame) : Endpoint × Option TransportError :=
  if e.phase = .terminated then (e, some .alreadyClosed)
  else if e.phase ≠ .active then (e, some (.protocol .sendAfterClosing))
  else
    let e := if frame.opcode = Frame.close then { e with phase := .closedByUs } else e
    match e.queue (some frame) with
    | (e, some fault) => (e, some fault)
    | (e, none) =>
      match e.flush with
      | (e, some .connectionClosed) => (e, none)
      | done => done

/-! ## Reading -/

/-- Owes a frame, unless a close frame is owed. -/
def owe (e : Endpoint) (frame : Frame) : Endpoint :=
  match e.owed with
  | some owed => if owed.opcode = Frame.pong then { e with owed := some frame } else e
  | none => { e with owed := some frame }

/-- Takes note of a close frame; it is a message unless the peer has closed before. -/
def receiveClose (e : Endpoint) (reason : Option (Nat × String)) : Endpoint × Option Message :=
  match e.phase with
  | .active =>
    let reason := reason.map fun (code, text) =>
      if Frame.isAllowedCode code then (code, text) else (1002, "Protocol violation")
    ({ e with phase := .closedByPeer }.owe (.closing reason), some (.close reason))
  | .closedByUs => ({ e with phase := .closeAcknowledged }, some (.close reason))
  | _ => (e, none)

def receiveControl (e : Endpoint) (f : Frame) :
    Endpoint × Except TransportError (Option Message) :=
  if !f.final then (e, .error (.protocol .fragmentedControl))
  else if 125 < f.payload.length then (e, .error (.protocol .controlTooBig))
  else if f.opcode = Frame.close then
    match Frame.closeReason f.payload with
    | .error fault => (e, .error fault)
    | .ok reason =>
      let (e, m) := e.receiveClose reason
      (e, .ok m)
  else if f.opcode = Frame.ping then
    let e := if e.phase = .active then e.owe (.whole Frame.pong f.payload) else e
    (e, .ok (some (.ping f.payload)))
  else (e, .ok (some (.pong f.payload)))

/-- Adds to the message whose frames are arriving. Text is checked as far as it goes. -/
def extend (e : Endpoint) (m : Fragments) (payload : Bytes) :
    Endpoint × Except TransportError Fragments :=
  let size := m.data.length + payload.length
  if maxMessage < size then (e, .error (.messageTooLong size maxMessage))
  else
    let m := { m with data := m.data ++ payload }
    let malformed := match Utf8.decode m.data with
      | .error fault => fault.width.isSome
      | .ok _ => false
    if m.isText && malformed then ({ e with fragments := some m }, .error .utf8)
    else ({ e with fragments := some m }, .ok m)

def complete (m : Fragments) : Except TransportError Message :=
  if m.isText then
    match Utf8.decode? m.data with
    | some s => .ok (.text s)
    | none => .error .utf8
  else .ok (.binary m.data)

def receiveData (e : Endpoint) (f : Frame) : Endpoint × Except TransportError (Option Message) :=
  let kind := if f.opcode = Frame.text then "TEXT" else "BINARY"
  let started : Except TransportError Fragments :=
    match e.fragments with
    | some m =>
      if f.opcode = Frame.continuation then .ok m
      else .error (.protocol (.fragmentsPending kind))
    | none =>
      if f.opcode = Frame.continuation then .error (.protocol .nothingToContinue)
      else .ok ⟨f.opcode = Frame.text, []⟩
  match started with
  | .error fault => (e, .error fault)
  | .ok m =>
    if f.final ∧ e.fragments.isNone then
      (e, (complete { m with data := f.payload }).map some)
    else
      match e.extend m f.payload with
      | (e, .error fault) => (e, .error fault)
      | (e, .ok m) =>
        if f.final then ({ e with fragments := none }, (complete m).map some)
        else (e, .ok none)

/-- Takes in a frame; it may or may not complete a message. -/
def receiveFrame (e : Endpoint) (f : Frame) : Endpoint × Except TransportError (Option Message) :=
  if !e.phase.canRead then (e, .error (.protocol .receiveAfterClosing))
  else if f.reserved then (e, .error (.protocol .reservedBits))
  else if f.isControl then e.receiveControl f
  else e.receiveData f

/-- Reads up to the next message. Each frame takes at least two bytes, which bounds them. -/
def readFrom (bound : Nat) (e : Endpoint) : Endpoint × Delivery :=
  match bound with
  | 0 => (e, .pending)
  | bound + 1 =>
    let (e, fault) := if e.owed.isSome then e.flush else (e, none)
    match fault with
    | some fault => (e, .failed fault)
    | none =>
      if e.role = .server ∧ !e.phase.canRead then
        ({ e with phase := .terminated }, .failed .connectionClosed)
      else
        match Frame.front e.role e.incoming with
        | .fault fault => (e, .failed fault)
        | .incomplete =>
          if !e.finished then (e, .pending)
          else
            let closed := e.phase = .closedByPeer ∨ e.phase = .closeAcknowledged
            ({ e with phase := .terminated },
              .failed (if closed then .connectionClosed else .protocol .resetWithoutClosing))
        | .frame f rest =>
          match { e with incoming := rest }.receiveFrame f with
          | (e, .error fault) => (e, .failed fault)
          | (e, .ok (some m)) => (e, .message m)
          | (e, .ok none) => readFrom bound e

/-- Reads the next message. After an error or the end, reading gives the end for ever. -/
def read (e : Endpoint) : Endpoint × Delivery :=
  if e.ended then (e, .ended)
  else if e.phase = .terminated then ({ e with ended := true }, .ended)
  else
    match readFrom (e.incoming.length + 1) e with
    | (e, .failed .connectionClosed) => ({ e with ended := true }, .ended)
    | (e, .failed fault) => ({ e with ended := true }, .failed fault)
    | done => done

/-- Reads the next data or close message, passing pings and pongs; `bound` frames at most. -/
def readDataFrom (bound : Nat) (e : Endpoint) : Endpoint × Delivery :=
  match e.read with
  | (e, .message (.ping data)) =>
    match bound with
    | 0 => (e, .message (.ping data))
    | bound + 1 => readDataFrom bound e
  | (e, .message (.pong data)) =>
    match bound with
    | 0 => (e, .message (.pong data))
    | bound + 1 => readDataFrom bound e
  | done => done

def readData (e : Endpoint) : Endpoint × Delivery := readDataFrom e.incoming.length e

/-- Every message that can be read now. -/
def readAllFrom (bound : Nat) (e : Endpoint) : Endpoint × List Message :=
  match bound with
  | 0 => (e, [])
  | bound + 1 =>
    match e.read with
    | (e, .message m) =>
      let (e, rest) := readAllFrom bound e
      (e, m :: rest)
    | (e, _) => (e, [])

def readAll (e : Endpoint) : Endpoint × List Message := readAllFrom (e.incoming.length + 1) e

end Endpoint

end Conduit.WebSocket
