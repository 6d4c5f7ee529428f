-- SUMMARY: Frames on the wire: WriteMessage and ReadMessage, a stream of frames read back frame by frame, and exactly which inputs ReadMessage accepts.
import TunnelMesh.Benchmark.Messages

/-!
# Frames

`WriteMessage` encodes a message into a buffer, then writes a type byte, the
`uint32` length of the encoded body, and the body. `ReadMessage` reads a type
byte, a `uint32` length, and that many bytes.

Frames written back to back read back one by one, whatever their types
(`readMessages_writeMessages`). `ReadMessage` looks neither at the type byte
nor at the size of the length: it accepts exactly the streams that hold a
byte, four length bytes and that many more bytes (`readMessage_eq_ok_iff`).
-/

namespace TunnelMesh.Benchmark

/-- A frame: the type byte, the `uint32` length of the payload, the payload. -/
def frame (msgType : MessageType) (payload : Bytes) : Bytes :=
  putUint8 msgType ++ putUint32 payload.length.toUInt32 ++ payload

/-- `WriteMessage(w, msgType, msg)`: the bytes its three writes put on `w`. -/
def writeMessage (msgType : MessageType) (msg : Message) : Bytes := frame msgType msg.encode

/-- `ReadMessage(r)`. -/
def readMessage {σ : Type} (r : Reader σ) : EStateM ReadError σ (MessageType × Bytes) := do
  let msgType ← r.readUint8
  let length ← r.readUint32
  let data ← r.readFull length.toNat
  pure (msgType, data)

/-- `k` calls of `ReadMessage`, one after another on the same reader. -/
def readMessages {σ : Type} (r : Reader σ) : Nat → EStateM ReadError σ (List (MessageType × Bytes))
  | 0 => pure []
  | k + 1 => do
    let f ← readMessage r
    let fs ← readMessages r k
    pure (f :: fs)

/-- Frames written back to back by `WriteMessage`. -/
def writeMessages : List (MessageType × Message) → Bytes
  | [] => []
  | (t, m) :: fs => writeMessage t m ++ writeMessages fs

@[simp] theorem length_frame (t : MessageType) (p : Bytes) : (frame t p).length = 5 + p.length := by
  simp [frame]; omega

-- ---------------------------------------------------------------------------
-- Reading back frames
-- ---------------------------------------------------------------------------

theorem readMessage_frame (t : MessageType) (p rest : Bytes) (hp : p.length < 2 ^ 32) :
    readMessage bufferReader (frame t p ++ rest) = .ok (t, p) rest := by
  have hk : p.length.toUInt32.toNat = p.length := Nat.mod_eq_of_lt hp
  simp only [readMessage, frame, List.append_assoc, bind, EStateM.bind, readUint8_putUint8,
    readUint32_putUint32, bufferReader_readFull, hk, bufferReadFull_append]
  rfl

/-- What `ReadMessage` returns for each frame of `fs`: its type and the encoded body. -/
def payloads (fs : List (MessageType × Message)) : List (MessageType × Bytes) :=
  fs.map fun f => (f.1, f.2.encode)

/-- Reading `fs.length + n` frames from the frames `fs` followed by `s` reads back
every frame of `fs`, then goes on with `n` reads of `s`. -/
theorem readMessages_writeMessages_add (fs : List (MessageType × Message)) (s : Bytes) (n : Nat)
    (hfits : ∀ f ∈ fs, f.2.encode.length < 2 ^ 32) :
    readMessages bufferReader (fs.length + n) (writeMessages fs ++ s) =
      match readMessages bufferReader n s with
      | .ok rs s' => .ok (payloads fs ++ rs) s'
      | .error e s' => .error e s' := by
  induction fs with
  | nil =>
    simp only [List.length_nil, Nat.zero_add, writeMessages, List.nil_append, payloads,
      List.map_nil]
    cases readMessages bufferReader n s <;> rfl
  | cons f fs ih =>
    obtain ⟨t, m⟩ := f
    have hf : m.encode.length < 2 ^ 32 := hfits (t, m) (List.mem_cons_self _ _)
    have ih := ih (fun f hf' => hfits f (List.mem_cons_of_mem _ hf'))
    rw [List.length_cons, Nat.add_right_comm, readMessages, writeMessages, writeMessage,
      List.append_assoc]
    simp only [bind, EStateM.bind, readMessage_frame t m.encode _ hf, ih]
    cases readMessages bufferReader n s <;> rfl

theorem writeMessages_append (fs gs : List (MessageType × Message)) :
    writeMessages (fs ++ gs) = writeMessages fs ++ writeMessages gs := by
  induction fs with
  | nil => rfl
  | cons f fs ih => simp [writeMessages, ih]

/-- Frames written back to back by `WriteMessage`, followed by any bytes `s`: the
first `i` calls of `ReadMessage` return the type and encoded body of the first
`i` frames in order, and leave exactly the other frames and `s` unread; when
`s` is empty, the call after the last frame fails. -/
theorem readMessages_writeMessages (fs : List (MessageType × Message)) (s : Bytes)
    (hfits : ∀ f ∈ fs, f.2.encode.length < 2 ^ 32) :
    (∀ i ≤ fs.length, readMessages bufferReader i (writeMessages fs ++ s) =
      .ok (payloads (fs.take i)) (writeMessages (fs.drop i) ++ s)) ∧
    (s = [] → readMessages bufferReader (fs.length + 1) (writeMessages fs ++ s) = .error .eof []) := by
  refine ⟨fun i hi => ?_, fun hs => ?_⟩
  · have h := readMessages_writeMessages_add (fs.take i) (writeMessages (fs.drop i) ++ s) 0
      (fun f hf => hfits f (List.mem_of_mem_take hf))
    rw [List.length_take_of_le hi, Nat.add_zero, ← List.append_assoc, ← writeMessages_append,
      List.take_append_drop] at h
    rw [h]
    simp [readMessages, pure, EStateM.pure]
  · subst hs
    rw [readMessages_writeMessages_add fs [] 1 hfits]
    rfl

/-- A Ping and a Start written into one buffer read back in order. -/
theorem readMessages_writeMessages_ping_start :
    (∀ f ∈ [(msgPing, Message.ping ⟨7, 0⟩), (msgStart, Message.start ⟨1024, [117]⟩)],
      f.2.encode.length < 2 ^ 32) ∧
    readMessages bufferReader 2
        (writeMessages [(msgPing, .ping ⟨7, 0⟩), (msgStart, .start ⟨1024, [117]⟩)] ++ []) =
      .ok (payloads [(msgPing, .ping ⟨7, 0⟩), (msgStart, .start ⟨1024, [117]⟩)]) [] :=
  ⟨by decide, (readMessages_writeMessages _ [] (by decide)).1 2 le_rfl⟩

-- ---------------------------------------------------------------------------
-- What ReadMessage accepts
-- ---------------------------------------------------------------------------

/-- `ReadMessage` on a byte stream `B` returns `(t, p)` and leaves `rest` exactly
when `B` is the byte `t`, four bytes `l`, then `p` of the big-endian length that
`l` spells, then `rest`. Any type byte passes and any length up to `2^32 - 1`;
every other stream makes `ReadMessage` fail. -/
theorem readMessage_eq_ok_iff (B : Bytes) (t : MessageType) (p rest : Bytes) :
    readMessage bufferReader B = .ok (t, p) rest ↔
      ∃ l : Bytes, l.length = 4 ∧ p.length = beValue l ∧ B = t :: (l ++ p ++ rest) := by
  constructor
  · intro h
    obtain ⟨t', s₁, h₁, h⟩ := bind_eq_ok h
    obtain ⟨L, s₂, h₂, h⟩ := bind_eq_ok h
    obtain ⟨p', s₃, h₃, h⟩ := bind_eq_ok h
    obtain ⟨he, rfl⟩ := pure_eq_ok.1 h
    obtain ⟨rfl, rfl⟩ := Prod.mk.inj he
    obtain ⟨l, hl, rfl, hL⟩ := readUint32_eq_ok.1 h₂
    obtain ⟨hp, rfl⟩ := bufferReadFull_eq_ok.1 h₃
    exact ⟨l, hl, hp.trans hL, by rw [readUint8_eq_ok.1 h₁, List.append_assoc]⟩
  · rintro ⟨l, hl, hp, rfl⟩
    have hL : (UInt32.ofNat (beValue l)).toNat = p.length := by
      have := beValue_lt l
      rw [hl] at this
      rw [hp]; exact Nat.mod_eq_of_lt (by simpa using this)
    have h₂ : bufferReader.readUint32 (l ++ p ++ rest) = .ok (UInt32.ofNat (beValue l)) (p ++ rest) := by
      rw [List.append_assoc]
      exact readUint32_eq_ok.2 ⟨l, hl, rfl, hL.trans hp⟩
    have h₃ := bufferReadFull_append p rest
    rw [← hL] at h₃
    simp only [readMessage, bind, EStateM.bind, readUint8_eq_ok.2 rfl, h₂, bufferReader_readFull, h₃]
    rfl

/-- A frame whose type byte is none of the seven message types is read without
error. -/
theorem readMessage_unknown_type :
    readMessage bufferReader [0x00, 0, 0, 0, 0] = .ok (0x00, []) [] ∧
      (0x00 : MessageType) ∉ [msgStart, msgAck, msgData, msgComplete, msgPing, msgPong, msgError] :=
  ⟨rfl, by decide⟩

end TunnelMesh.Benchmark
