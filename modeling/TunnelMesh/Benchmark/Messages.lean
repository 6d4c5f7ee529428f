-- SUMMARY: The benchmark protocol's seven messages, their Encode and Decode, and when Decode gives back what Encode wrote.
import TunnelMesh.Go.Basic

/-!
# Benchmark messages

The message bodies of the benchmark protocol (`internal/benchmark`, the
`protocol` part). Every body is a run of big-endian fixed-width fields; a
`string` is a `uint16` length and the bytes, and `DataMessage` carries its
payload behind a `uint32` length. `Encode` writes into an in-memory buffer,
which never fails, so it is modelled as the bytes it writes. `Decode` reads
from any `io.Reader`.

Both length prefixes are Go conversions (`uint16(len(s))`, `uint32(len(m.Data))`)
that drop the high bits of a long length. So `Decode` returns the value that
`Encode` wrote exactly when every string is shorter than `2^16` bytes and the
data shorter than `2^32` bytes (`Message.decode_encode_iff`).
-/

namespace TunnelMesh.Benchmark

/-- `MessageType`, the type byte in front of every frame. -/
abbrev MessageType := UInt8

def msgStart : MessageType := 0x30
def msgAck : MessageType := 0x31
def msgData : MessageType := 0x32
def msgComplete : MessageType := 0x33
def msgPing : MessageType := 0x34
def msgPong : MessageType := 0x35
def msgError : MessageType := 0x3F

-- ---------------------------------------------------------------------------
-- Strings
-- ---------------------------------------------------------------------------

/-- `writeString`: a `uint16` length, then the bytes of the string. -/
def writeString (s : Bytes) : Bytes := putUint16 s.length.toUInt16 ++ s

/-- `readString`: the length, then that many bytes; no read at all for the
empty string. -/
def readString {σ : Type} (r : Reader σ) : EStateM ReadError σ Bytes := do
  let length ← r.readUint16
  if length = 0 then pure [] else r.readFull length.toNat

-- ---------------------------------------------------------------------------
-- The messages
-- ---------------------------------------------------------------------------

/-- `StartMessage`: the initiator asks for a benchmark. -/
structure StartMessage where
  size : Int64
  direction : Bytes
  deriving DecidableEq

/-- `AckMessage`: the receiver accepts or rejects the benchmark. -/
structure AckMessage where
  accepted : Bool
  error : Bytes
  deriving DecidableEq

/-- `DataMessage`: one chunk of benchmark data. -/
structure DataMessage where
  seqNum : UInt32
  data : Bytes
  deriving DecidableEq

/-- `PingMessage`: a latency probe. -/
structure PingMessage where
  seqNum : UInt32
  timestamp : Int64
  deriving DecidableEq

/-- `PongMessage`: the answer to a probe, echoing its timestamp. -/
structure PongMessage where
  seqNum : UInt32
  pingTimestamp : Int64
  deriving DecidableEq

/-- `CompleteMessage`: the end of a transfer, with its statistics. -/
structure CompleteMessage where
  bytesTransferred : Int64
  durationNs : Int64
  deriving DecidableEq

/-- `ErrorMessage`. -/
structure ErrorMessage where
  error : Bytes
  deriving DecidableEq

namespace StartMessage
def encode (m : StartMessage) : Bytes := putInt64 m.size ++ writeString m.direction
def decode {σ : Type} (r : Reader σ) : EStateM ReadError σ StartMessage := do
  let size ← r.readInt64
  let direction ← readString r
  pure ⟨size, direction⟩
end StartMessage

namespace AckMessage
def encode (m : AckMessage) : Bytes :=
  putUint8 (if m.accepted then 1 else 0) ++ writeString m.error
def decode {σ : Type} (r : Reader σ) : EStateM ReadError σ AckMessage := do
  let accepted ← r.readUint8
  let error ← readString r
  pure ⟨accepted ≠ 0, error⟩
end AckMessage

namespace DataMessage
def encode (m : DataMessage) : Bytes :=
  putUint32 m.seqNum ++ putUint32 m.data.length.toUInt32 ++ m.data
def decode {σ : Type} (r : Reader σ) : EStateM ReadError σ DataMessage := do
  let seqNum ← r.readUint32
  let length ← r.readUint32
  let data ← r.readFull length.toNat
  pure ⟨seqNum, data⟩
end DataMessage

namespace PingMessage
def encode (m : PingMessage) : Bytes := putUint32 m.seqNum ++ putInt64 m.timestamp
def decode {σ : Type} (r : Reader σ) : EStateM ReadError σ PingMessage := do
  let seqNum ← r.readUint32
  let timestamp ← r.readInt64
  pure ⟨seqNum, timestamp⟩
end PingMessage

namespace PongMessage
def encode (m : PongMessage) : Bytes := putUint32 m.seqNum ++ putInt64 m.pingTimestamp
def decode {σ : Type} (r : Reader σ) : EStateM ReadError σ PongMessage := do
  let seqNum ← r.readUint32
  let pingTimestamp ← r.readInt64
  pure ⟨seqNum, pingTimestamp⟩
end PongMessage

namespace CompleteMessage
def encode (m : CompleteMessage) : Bytes := putInt64 m.bytesTransferred ++ putInt64 m.durationNs
def decode {σ : Type} (r : Reader σ) : EStateM ReadError σ CompleteMessage := do
  let bytesTransferred ← r.readInt64
  let durationNs ← r.readInt64
  pure ⟨bytesTransferred, durationNs⟩
end CompleteMessage

namespace ErrorMessage
def encode (m : ErrorMessage) : Bytes := writeString m.error
def decode {σ : Type} (r : Reader σ) : EStateM ReadError σ ErrorMessage := do
  let error ← readString r
  pure ⟨error⟩
end ErrorMessage

/-- The `Message` interface: any of the seven bodies. -/
inductive Message
  | start (m : StartMessage)
  | ack (m : AckMessage)
  | data (m : DataMessage)
  | ping (m : PingMessage)
  | pong (m : PongMessage)
  | complete (m : CompleteMessage)
  | error (m : ErrorMessage)
  deriving DecidableEq

namespace Message

/-- `msg.Encode(w)`: the bytes it writes. -/
def encode : Message → Bytes
  | .start m => m.encode
  | .ack m => m.encode
  | .data m => m.encode
  | .ping m => m.encode
  | .pong m => m.encode
  | .complete m => m.encode
  | .error m => m.encode

/-- The `Decode` of the same type as `msg`. -/
def decodeAs {σ : Type} (r : Reader σ) : Message → EStateM ReadError σ Message
  | .start _ => .start <$> StartMessage.decode r
  | .ack _ => .ack <$> AckMessage.decode r
  | .data _ => .data <$> DataMessage.decode r
  | .ping _ => .ping <$> PingMessage.decode r
  | .pong _ => .pong <$> PongMessage.decode r
  | .complete _ => .complete <$> CompleteMessage.decode r
  | .error _ => .error <$> ErrorMessage.decode r

/-- Every length prefix of `msg` holds its length: strings below `2^16` bytes,
data below `2^32`. -/
def Fits : Message → Prop
  | .start m => m.direction.length < 2 ^ 16
  | .ack m => m.error.length < 2 ^ 16
  | .data m => m.data.length < 2 ^ 32
  | .ping _ | .pong _ | .complete _ => True
  | .error m => m.error.length < 2 ^ 16

end Message

-- ---------------------------------------------------------------------------
-- Decoding what was encoded
-- ---------------------------------------------------------------------------

/-! Each `Decode`, applied to a buffer that starts with what the same type's
`Encode` wrote, reads back every fixed-width field, and cuts each string or
data field at its length modulo the width of its prefix. -/

/-- The part of `s` that a length prefix of `2^w` values announces. -/
def cut (s : Bytes) (N : Nat) : Bytes := s.take (s.length % N)

/-- The part of `s` that is left in the stream after reading `cut s N`. -/
def uncut (s : Bytes) (N : Nat) : Bytes := s.drop (s.length % N)

theorem cut_eq_self_iff (s : Bytes) {N : Nat} (hN : 0 < N) : cut s N = s ↔ s.length < N := by
  constructor
  · intro h
    have hlen := congrArg List.length h
    have := Nat.mod_lt s.length hN
    simp only [cut, List.length_take] at hlen
    omega
  · intro h
    simp [cut, Nat.mod_eq_of_lt h]

theorem uncut_eq_nil_of_lt (s : Bytes) {N : Nat} (h : s.length < N) : uncut s N = [] := by
  simp [uncut, Nat.mod_eq_of_lt h]

theorem cut_uncut_iff (s rest : Bytes) {N : Nat} (hN : 0 < N) :
    (cut s N = s ∧ uncut s N ++ rest = rest) ↔ s.length < N := by
  rw [← cut_eq_self_iff s hN]
  refine ⟨And.left, fun h => ⟨h, ?_⟩⟩
  rw [uncut_eq_nil_of_lt s ((cut_eq_self_iff s hN).1 h), List.nil_append]

theorem readString_writeString (s rest : Bytes) :
    readString bufferReader (writeString s ++ rest) = .ok (cut s (2 ^ 16)) (uncut s (2 ^ 16) ++ rest) := by
  have h := readUint16_putUint16 s.length.toUInt16 (s ++ rest)
  have hk : s.length.toUInt16.toNat = s.length % 2 ^ 16 := rfl
  simp only [readString, writeString, List.append_assoc, bind, EStateM.bind, h]
  split
  · rename_i h0
    have : s.length % 2 ^ 16 = 0 := by rw [← hk, h0]; rfl
    rw [cut, uncut, this]; rfl
  · simp only [bufferReader_readFull, hk, bufferReadFull_append_of_le rest (Nat.mod_le _ _)]; rfl

theorem readString_writeString_bind {β : Type} (s rest : Bytes) (f : Bytes → EStateM ReadError Bytes β) :
    (readString bufferReader >>= f) (writeString s ++ rest) = f (cut s (2 ^ 16)) (uncut s (2 ^ 16) ++ rest) :=
  bind_of_eq_ok (readString_writeString s rest) f

theorem StartMessage.decode_encode (m : StartMessage) (rest : Bytes) :
    StartMessage.decode bufferReader (m.encode ++ rest) =
      .ok ⟨m.size, cut m.direction (2 ^ 16)⟩ (uncut m.direction (2 ^ 16) ++ rest) := by
  simp only [decode, encode, List.append_assoc, readInt64_putInt64_bind, readString_writeString_bind]; rfl

theorem AckMessage.decode_encode (m : AckMessage) (rest : Bytes) :
    AckMessage.decode bufferReader (m.encode ++ rest) =
      .ok ⟨m.accepted, cut m.error (2 ^ 16)⟩ (uncut m.error (2 ^ 16) ++ rest) := by
  simp only [decode, encode, List.append_assoc, readUint8_putUint8_bind, readString_writeString_bind]
  cases m.accepted <;> rfl

theorem DataMessage.decode_encode (m : DataMessage) (rest : Bytes) :
    DataMessage.decode bufferReader (m.encode ++ rest) =
      .ok ⟨m.seqNum, cut m.data (2 ^ 32)⟩ (uncut m.data (2 ^ 32) ++ rest) := by
  have hk : m.data.length.toUInt32.toNat = m.data.length % 2 ^ 32 := rfl
  simp only [decode, encode, List.append_assoc, readUint32_putUint32_bind, bufferReader_readFull, hk,
    bind_of_eq_ok (bufferReadFull_append_of_le rest (Nat.mod_le m.data.length (2 ^ 32)))]; rfl

theorem PingMessage.decode_encode (m : PingMessage) (rest : Bytes) :
    PingMessage.decode bufferReader (m.encode ++ rest) = .ok m rest := by
  simp only [decode, encode, List.append_assoc, readUint32_putUint32_bind, readInt64_putInt64_bind]; rfl

theorem PongMessage.decode_encode (m : PongMessage) (rest : Bytes) :
    PongMessage.decode bufferReader (m.encode ++ rest) = .ok m rest := by
  simp only [decode, encode, List.append_assoc, readUint32_putUint32_bind, readInt64_putInt64_bind]; rfl

theorem CompleteMessage.decode_encode (m : CompleteMessage) (rest : Bytes) :
    CompleteMessage.decode bufferReader (m.encode ++ rest) = .ok m rest := by
  simp only [decode, encode, List.append_assoc, readInt64_putInt64_bind]; rfl

theorem ErrorMessage.decode_encode (m : ErrorMessage) (rest : Bytes) :
    ErrorMessage.decode bufferReader (m.encode ++ rest) =
      .ok ⟨cut m.error (2 ^ 16)⟩ (uncut m.error (2 ^ 16) ++ rest) := by
  simp only [decode, encode, readString_writeString_bind]; rfl

/-- `Decode` of a message's own type gives back exactly the message that
`Encode` wrote, and leaves the stream just after it, if and only if every
length prefix of the message holds its length. -/
theorem Message.decode_encode_iff (m : Message) (rest : Bytes) :
    m.decodeAs bufferReader (m.encode ++ rest) = .ok m rest ↔ m.Fits := by
  cases m with
  | start m =>
    obtain ⟨size, direction⟩ := m
    simp only [decodeAs, encode, Fits, Functor.map, EStateM.map, StartMessage.decode_encode,
      EStateM.Result.ok.injEq, Message.start.injEq, StartMessage.mk.injEq, true_and]
    exact cut_uncut_iff _ _ (by norm_num)
  | ack m =>
    obtain ⟨accepted, error⟩ := m
    simp only [decodeAs, encode, Fits, Functor.map, EStateM.map, AckMessage.decode_encode,
      EStateM.Result.ok.injEq, Message.ack.injEq, AckMessage.mk.injEq, true_and]
    exact cut_uncut_iff _ _ (by norm_num)
  | data m =>
    obtain ⟨seqNum, data⟩ := m
    simp only [decodeAs, encode, Fits, Functor.map, EStateM.map, DataMessage.decode_encode,
      EStateM.Result.ok.injEq, Message.data.injEq, DataMessage.mk.injEq, true_and]
    exact cut_uncut_iff _ _ (by norm_num)
  | ping m => simp [decodeAs, encode, Fits, Functor.map, EStateM.map, PingMessage.decode_encode]
  | pong m => simp [decodeAs, encode, Fits, Functor.map, EStateM.map, PongMessage.decode_encode]
  | complete m =>
    simp [decodeAs, encode, Fits, Functor.map, EStateM.map, CompleteMessage.decode_encode]
  | error m =>
    obtain ⟨error⟩ := m
    simp only [decodeAs, encode, Fits, Functor.map, EStateM.map, ErrorMessage.decode_encode,
      EStateM.Result.ok.injEq, Message.error.injEq, ErrorMessage.mk.injEq]
    exact cut_uncut_iff _ _ (by norm_num)

/-- A non-empty error string whose length is a multiple of `2^16` does not come
back: its length prefix wrapped to `0`, and `readString` returns the empty
string. -/
theorem ErrorMessage.decodeAs_encode_ne_of_wrap (s rest : Bytes) (hs : s.length % 2 ^ 16 = 0)
    (hne : s ≠ []) :
    (Message.error ⟨s⟩).decodeAs bufferReader ((Message.error ⟨s⟩).encode ++ rest) ≠
      .ok (Message.error ⟨s⟩) rest := by
  have h : ErrorMessage.decode bufferReader (ErrorMessage.encode ⟨s⟩ ++ rest) =
      .ok ⟨[]⟩ (s ++ rest) := by
    rw [ErrorMessage.decode_encode, cut, uncut, hs, List.take_zero, List.drop_zero]
  simp only [Message.decodeAs, Message.encode, Functor.map, EStateM.map, h, ne_eq,
    EStateM.Result.ok.injEq, Message.error.injEq, ErrorMessage.mk.injEq]
  exact fun h' => hne h'.1.symm

/-- The error string of `2^16` zero bytes does not survive `Encode` then `Decode`. -/
theorem ErrorMessage.decodeAs_encode_long :
    (Message.error ⟨List.replicate (2 ^ 16) 0⟩).decodeAs bufferReader
        ((Message.error ⟨List.replicate (2 ^ 16) 0⟩).encode ++ []) ≠
      .ok (Message.error ⟨List.replicate (2 ^ 16) 0⟩) [] :=
  ErrorMessage.decodeAs_encode_ne_of_wrap _ _ (by rw [List.length_replicate, Nat.mod_self])
    (by rw [ne_eq, List.replicate_eq_nil_iff]; norm_num)

end TunnelMesh.Benchmark
