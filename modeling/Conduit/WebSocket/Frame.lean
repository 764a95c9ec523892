import Conduit.Power
import Conduit.Utf8
import Conduit.WebSocket.Error

/-!
Frames of the WebSocket protocol as bytes on the wire.
-/

namespace Conduit.WebSocket

/-- The ends of a connection: a client masks its frames and a server does not. -/
inductive Role | client | server
  deriving DecidableEq, Repr, Inhabited

structure Frame where
  final : Bool
  /-- One of the three reserved bits is set. -/
  reserved : Bool
  opcode : Nat
  payload : Bytes
  deriving DecidableEq, Repr, Inhabited

namespace Frame

def continuation : Nat := 0
def text : Nat := 1
def binary : Nat := 2
def close : Nat := 8
def ping : Nat := 9
def pong : Nat := 10

def isKnown (opcode : Nat) : Bool := opcode ≤ 2 || (8 ≤ opcode && opcode ≤ 10)

def isControl (f : Frame) : Bool := 8 ≤ f.opcode

/-- A frame that is a whole message. -/
def whole (opcode : Nat) (payload : Bytes) : Frame := ⟨true, false, opcode, payload⟩

/-- The code and reason of a close frame, the code as two bytes. -/
def closing (reason : Option (Nat × String)) : Frame :=
  whole close <| match reason with
    | none => []
    | some (code, text) =>
      UInt8.ofNat (code / 256) :: UInt8.ofNat (code % 256) :: Utf8.encode text

/-- A number as so many bytes, the highest first. -/
def bigEndian (n : Nat) : Nat → Bytes
  | 0 => []
  | width + 1 => UInt8.ofNat (n / bytesTo width % 256) :: bigEndian n width

def ofBigEndian (bs : Bytes) : Nat := bs.foldl (fun n b => n * 256 + b.toNat) 0

/-- The frame on the wire. A client masks with zeros, which leave the payload as it is. -/
def encode (role : Role) (f : Frame) : Bytes :=
  let first := UInt8.ofNat ((if f.final then 0x80 else 0) + (if f.reserved then 0x40 else 0)
    + f.opcode)
  let maskBit := if role = .client then 0x80 else 0
  let length := f.payload.length
  let lengthBytes :=
    if length < 126 then [UInt8.ofNat (maskBit + length)]
    else if length < 65536 then UInt8.ofNat (maskBit + 126) :: bigEndian length 2
    else UInt8.ofNat (maskBit + 127) :: bigEndian length 8
  let mask := if role = .client then [0, 0, 0, 0] else []
  first :: lengthBytes ++ mask ++ f.payload

/-- Undoes a mask, which repeats over the payload. -/
def unmask (mask : Bytes) (payload : Bytes) : Bytes :=
  let rec go (left : Bytes) : Bytes → Bytes
    | [] => []
    | b :: rest =>
      match left with
      | m :: more => (b ^^^ m) :: go more rest
      | [] => match mask with
        | m :: more => (b ^^^ m) :: go more rest
        | [] => b :: go [] rest
  go mask payload

/-- The longest payload of a frame. -/
def maxPayload : Nat := 16 * 1024 * 1024

/-- What the bytes that have arrived start with. -/
inductive Front
  | incomplete
  | fault (e : TransportError)
  | frame (f : Frame) (rest : Bytes)

/-- The payload of a frame whose head has been read. -/
def body (role : Role) (head : Frame) (length : Nat) (mask : Option Bytes) (rest : Bytes) :
    Front :=
  if !isKnown head.opcode then .fault (.protocol (.invalidOpcode head.opcode))
  else if maxPayload < length then .fault (.messageTooLong length maxPayload)
  else if rest.length < length then .incomplete
  else
    let payload := rest.take length
    match role, mask with
    | .server, none => .fault (.protocol .unmaskedFrame)
    | .server, some mask => .frame { head with payload := unmask mask payload } (rest.drop length)
    | .client, _ => .frame { head with payload } (rest.drop length)

/-- The frame at the front, as one end reads it. -/
def front (role : Role) (bs : Bytes) : Front :=
  match bs with
  | first :: second :: rest =>
    let head : Frame := ⟨128 ≤ first.toNat, first.toNat / 16 % 8 != 0, first.toNat % 16, []⟩
    let short := second.toNat % 128
    let width := if short = 126 then 2 else if short = 127 then 8 else 0
    let masked := 128 ≤ second.toNat
    let maskWidth := if masked then 4 else 0
    if rest.length < width + maskWidth then .incomplete
    else
      let length := if width = 0 then short else ofBigEndian (rest.take width)
      let mask := if masked then some ((rest.drop width).take 4) else none
      body role head length mask (rest.drop (width + maskWidth))
  | _ => .incomplete

/-- The code and reason that a close frame carries. -/
def closeReason (payload : Bytes) : Except TransportError (Option (Nat × String)) :=
  match payload with
  | [] => .ok none
  | [_] => .error (.protocol .invalidCloseSequence)
  | a :: b :: reason =>
    match Utf8.decode? reason with
    | some text => .ok (some (a.toNat * 256 + b.toNat, text))
    | none => .error .utf8

/-- The close codes that may stand in a frame. -/
def isAllowedCode (code : Nat) : Bool :=
  [1000, 1001, 1002, 1003, 1007, 1008, 1009, 1010, 1011, 1012, 1013].contains code
    || (3000 ≤ code && code ≤ 4999)

end Frame

/-- A message as an end reads it. -/
inductive Message
  | text (s : String)
  | binary (data : Bytes)
  | ping (data : Bytes)
  | pong (data : Bytes)
  | close (reason : Option (Nat × String))
  deriving DecidableEq, Repr, Inhabited

def Message.frame : Message → Frame
  | text s => .whole Frame.text (Utf8.encode s)
  | binary data => .whole Frame.binary data
  | ping data => .whole Frame.ping data
  | pong data => .whole Frame.pong data
  | close reason => .closing reason

end Conduit.WebSocket
