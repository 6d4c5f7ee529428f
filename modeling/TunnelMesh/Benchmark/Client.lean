-- SUMMARY: The benchmark client over its world: Run, runUpload with its chunk loop and pings, runDownload with its frame loop, measureLatency, and the result's statistics.
import TunnelMesh.Benchmark.Framing
import TunnelMesh.Chaos.Writer

/-!
# The benchmark client

`Client.Run` and the functions it calls (`internal/benchmark/client.go`), over
the connection of the client's world.

`Run` sends `Start` and reads the `Ack`. An upload writes a `Ping`, the data
in chunks of `ChunkSize` bytes with a `Ping` after every tenth, a last `Ping`,
and `Complete`, then reads the server's `Complete`. A download writes a `Ping`
and then reads frames, counting the bytes of every `Data` frame, until a
`Complete`.

`measureLatency` writes a `Ping` and reads one frame, with a read deadline of
five seconds; whatever it finds, it is the next frame of the stream, and its
error is dropped by every caller. A write that fails ends `Run` with its error,
except the `Ping` of a probe, whose error is dropped with the probe's. So a download whose `Pong` comes after a
`Data` frame loses that frame, and an upload whose `Pong` comes after its
deadline reads it in place of a later `Pong`, and in the end reads a `Pong`
where it expects `Complete`.

`runUpload` is split at the point where its statistics are filled in:
`uploadPhase` is everything before, and returns the bytes sent, the duration and
the latencies, which `runUpload` turns into the result (`runUpload_eq`).

A read with no deadline from a peer that keeps the connection open and sends
nothing waits for ever (`ReadError.blocked`, which `attempt` turns into the
goroutine's `Abort.blocked`; `readMessage_conn_silent`), and so does a write to a
connection that takes no more bytes and is not reset.

The loops carry fuel. Each pass of the upload loop sends at least one byte,
so `Size` passes are enough; each pass of the download loop reads a frame of
at least five bytes or returns, so one pass more than the bytes still to come
is enough.
-/

namespace TunnelMesh.Benchmark

/-- `ReadTimeout`. -/
def readTimeout : Int := 30 * second

/-- `LatencyPingTimeout`. -/
def latencyPingTimeout : Int := 5 * second

/-- The errors of the client, each the `fmt.Errorf` that makes it. -/
inductive ClientError
  /-- "invalid config: %w" -/
  | invalidConfig (e : ConfigError)
  /-- "failed to read ack: %w" -/
  | readAck (e : ReadError)
  /-- "server rejected benchmark: %s" -/
  | rejected (msg : Bytes)
  /-- "expected Ack, got %s" -/
  | expectedAck (got : MessageType)
  /-- "failed to decode ack: %w" -/
  | decodeAck (e : ReadError)
  /-- `ctx.Err()` -/
  | contextDone
  /-- "failed to read server complete: %w" -/
  | readServerComplete (e : ReadError)
  /-- "expected Complete, got %s" -/
  | expectedComplete (got : MessageType)
  /-- "failed to decode server complete: %w" -/
  | decodeServerComplete (e : ReadError)
  /-- "failed to read message: %w" -/
  | readMessage (e : ReadError)
  /-- "failed to decode data: %w" -/
  | decodeData (e : ReadError)
  /-- "failed to decode complete: %w" -/
  | decodeComplete (e : ReadError)
  /-- A read error that `measureLatency` returns as it is. -/
  | io (e : ReadError)
  /-- "expected Pong, got %s" -/
  | expectedPong (got : MessageType)
  /-- "failed to send start: %w" -/
  | sendStart (e : WriteError)
  /-- "failed to send data: %w" -/
  | sendData (e : WriteError)
  /-- "failed to send complete: %w" -/
  | sendComplete (e : WriteError)
  /-- A write error that `measureLatency` returns as it is. -/
  | ioWrite (e : WriteError)
  deriving DecidableEq

/-- `Result`; the random `ID` is left out, and `Error` is the error itself. -/
structure Result where
  timestamp : Int
  localPeer : Bytes
  remotePeer : Bytes
  direction : Bytes
  requestedSize : Int64
  transferredSize : Int64
  durationMs : Int64
  throughputBps : ℚ
  throughputMbps : ℚ
  latencyMinMs : ℚ
  latencyMaxMs : ℚ
  latencyAvgMs : ℚ
  success : Bool
  error : Option ClientError
  chaos : Option ChaosConfig
  deriving DecidableEq

/-- `r.CalculateThroughput()`. -/
def Result.calculateThroughput (r : Result) : Result :=
  if r.durationMs > 0 then
    { r with
      throughputBps := r.transferredSize.val / ((r.durationMs.val : ℚ) / 1000)
      throughputMbps := r.transferredSize.val / ((r.durationMs.val : ℚ) / 1000) * 8 / 1000000 }
  else r

/-- `c.calculateLatencyStats(latencies, result)`. -/
def calculateLatencyStats (latencies : List ℚ) (r : Result) : Result :=
  if latencies = [] then r
  else
    { r with
      latencyMinMs := (latencies.mergeSort fun a b => decide (a ≤ b)).headD 0
      latencyMaxMs := (latencies.mergeSort fun a b => decide (a ≤ b)).getLastD 0
      latencyAvgMs := latencies.sum / latencies.length }

@[simp] theorem calculateLatencyStats_nil (r : Result) : calculateLatencyStats [] r = r := rfl

/-- `CalculateThroughput` sets the two throughput fields and nothing else. -/
theorem Result.calculateThroughput_eq (r : Result) :
    ∃ bps mbps, r.calculateThroughput = { r with throughputBps := bps, throughputMbps := mbps } := by
  unfold calculateThroughput
  split_ifs
  · exact ⟨_, _, rfl⟩
  · exact ⟨r.throughputBps, r.throughputMbps, rfl⟩

/-- `calculateLatencyStats` sets the three latency fields and nothing else. -/
theorem calculateLatencyStats_eq (latencies : List ℚ) (r : Result) :
    ∃ lo hi avg, calculateLatencyStats latencies r =
      { r with latencyMinMs := lo, latencyMaxMs := hi, latencyAvgMs := avg } := by
  unfold calculateLatencyStats
  split_ifs
  · exact ⟨r.latencyMinMs, r.latencyMaxMs, r.latencyAvgMs, rfl⟩
  · exact ⟨_, _, _, rfl⟩

/-- `Duration.Milliseconds()` of a duration in nanoseconds. -/
def milliseconds (d : Int) : Int64 := Int64.ofInt (d.tdiv 1000000)

-- ---------------------------------------------------------------------------
-- Frames on the connection
-- ---------------------------------------------------------------------------

/-- `WriteMessage(conn, t, m)`: three writes, of the type byte, the length and
the body; the first that fails ends it with its error. -/
def writeMessageConn (t : MessageType) (m : Message) : GoM (Option WriteError) := do
  match ← connWrite (putUint8 t) with
  | (_, some e) => pure (some e)
  | (_, none) =>
    match ← connWrite (putUint32 m.encode.length.toUInt32) with
    | (_, some e) => pure (some e)
    | (_, none) => do
      let (_, err) ← connWrite m.encode
      pure err

/-- `c.measureLatency(conn, seqNum)`: the round trip in milliseconds. -/
def measureLatency (seqNum : UInt32) : GoM (Except ClientError ℚ) := do
  let now ← timeNow
  match ← writeMessageConn msgPing (.ping ⟨seqNum, Int64.ofInt now⟩) with
  | some e => pure (.error (.ioWrite e))
  | none => do
    let t ← timeNow
    setReadDeadline (t + latencyPingTimeout)
    match ← attempt (readMessage connReader) with
    | .error e => pure (.error (.io e))
    | .ok (mt, data) =>
      if mt ≠ msgPong then pure (.error (.expectedPong mt))
      else match decodeFrom (PongMessage.decode bufferReader) data with
        | .error e => pure (.error (.io e))
        | .ok _ => do
          let t' ← timeNow
          pure (.ok (((t' - now : Int) : ℚ) / 1000000))

/-- `if err == nil && latency > 0 { latencies = append(latencies, latency) }`. -/
def recordLatency (latencies : List ℚ) : Except ClientError ℚ → List ℚ
  | .ok l => if 0 < l then latencies ++ [l] else latencies
  | .error _ => latencies

-- ---------------------------------------------------------------------------
-- Upload
-- ---------------------------------------------------------------------------

/-- The locals of `runUpload`'s loop. -/
structure Upload where
  sent : Int64
  seqNum : UInt32
  latencies : List ℚ
  chaos : Option ChaosWriter

/-- The length of the next chunk: `ChunkSize`, or what remains if less. -/
def dataSize (size sent : Int64) : Int64 :=
  if size - sent < Int64.ofInt chunkSize then size - sent else Int64.ofInt chunkSize

/-- The write of a `Data` frame in a pass of the upload loop: through the chaos writer,
in one `Write`, or with `WriteMessage` on the connection. The chaos writer after it, and
the error. -/
def writeDataFrame (chaos : Option ChaosWriter) (msg : DataMessage) :
    GoM (Option ChaosWriter × Option WriteError) :=
  match chaos with
  | some c => do
    let (c', _, err) ← c.write (writeMessage msgData (.data msg))
    pure (some c', err)
  | none => do
    let err ← writeMessageConn msgData (.data msg)
    pure (none, err)

/-- One pass of `for sent < cfg.Size`, from the context check to the ping. -/
def uploadChunk (size : Int64) (chunk : Bytes) (u : Upload) : GoM (Except ClientError Upload) := do
  if ← ctxDone then return .error .contextDone
  let msg : DataMessage := ⟨u.seqNum, chunk.take (dataSize size u.sent).val.toNat⟩
  match ← writeDataFrame u.chaos msg with
  | (_, some e) => pure (.error (.sendData e))
  | (chaos, none) => do
    let latencies ← if (u.seqNum + 1) % 10 = 0 then recordLatency u.latencies <$> measureLatency (u.seqNum + 1)
      else pure u.latencies
    pure (.ok ⟨u.sent + dataSize size u.sent, u.seqNum + 1, latencies, chaos⟩)

/-- The loop `for sent < cfg.Size`, with `fuel` passes at most. -/
def uploadLoop (size : Int64) (chunk : Bytes) : Nat → Upload → GoM (Except ClientError Upload)
  | 0, u => pure (.ok u)
  | fuel + 1, u =>
    if u.sent < size then do
      match ← uploadChunk size chunk u with
      | .error e => pure (.error e)
      | .ok u' => uploadLoop size chunk fuel u'
    else pure (.ok u)

/-- `c.runUpload(ctx, conn, cfg, result)` up to its "Update result" step: the bytes
sent, the duration and the latency samples recorded (`latencies`), or the error. -/
def uploadPhase (cfg : Config) : GoM (Except ClientError (Int64 × Int × List ℚ)) := do
  let startTime ← timeNow
  let chunk ← randRead chunkSize
  let chaos ← if cfg.chaos.isEnabled then some <$> newChaosWriter cfg.chaos else pure none
  let l ← measureLatency 0
  match ← uploadLoop cfg.size chunk cfg.size.val.toNat ⟨0, 0, recordLatency [] l, chaos⟩ with
  | .error e => pure (.error e)
  | .ok u => do
    let l ← measureLatency (u.seqNum + 1)
    let t ← timeNow
    match ← writeMessageConn msgComplete (.complete ⟨u.sent, Int64.ofInt (t - startTime)⟩) with
    | some e => pure (.error (.sendComplete e))
    | none =>
      match ← attempt (readMessage connReader) with
      | .error e => pure (.error (.readServerComplete e))
      | .ok (mt, data) =>
        if mt ≠ msgComplete then pure (.error (.expectedComplete mt))
        else match decodeFrom (CompleteMessage.decode bufferReader) data with
          | .error e => pure (.error (.decodeServerComplete e))
          | .ok _ => pure (.ok (u.sent, t - startTime, recordLatency u.latencies l))

/-- `c.runUpload(ctx, conn, cfg, result)`: the result it fills in, or its error. -/
def runUpload (cfg : Config) (result : Result) : GoM (Except ClientError Result) := do
  match ← uploadPhase cfg with
  | .error e => pure (.error e)
  | .ok (sent, d, latencies) =>
    pure (.ok (calculateLatencyStats latencies { result with transferredSize := sent, durationMs := milliseconds d }))

/-- `runUpload` passes on its phase's error or panic, and fills the result in from the
phase's samples. -/
theorem runUpload_eq (cfg : Config) (result : Result) (w : World) :
    runUpload cfg result w = match uploadPhase cfg w with
      | .ok (.error e) w' => .ok (.error e) w'
      | .ok (.ok (sent, d, ls)) w' => .ok (.ok (calculateLatencyStats ls
          { result with transferredSize := sent, durationMs := milliseconds d })) w'
      | .error a w' => .error a w' := by
  simp only [runUpload, bind, EStateM.bind]
  rcases uploadPhase cfg w with ⟨_ | ⟨_, _, _⟩, _⟩ | _ <;> rfl

-- ---------------------------------------------------------------------------
-- Download
-- ---------------------------------------------------------------------------

/-- The loop of `runDownload`, with `fuel` passes at most: `received` bytes so
far. -/
def downloadLoop (startTime : Int) (latencies : List ℚ) (result : Result) :
    Nat → Int64 → GoM (Except ClientError Result)
  | 0, _ => pure (.error (.readMessage .eof))
  | fuel + 1, received => do
    if ← ctxDone then return .error .contextDone
    let now ← timeNow
    setReadDeadline (now + readTimeout)
    match ← attempt (readMessage connReader) with
    | .error e => pure (.error (.readMessage e))
    | .ok (mt, data) =>
      if mt = msgData then
        match decodeFrom (DataMessage.decode bufferReader) data with
        | .error e => pure (.error (.decodeData e))
        | .ok m => downloadLoop startTime latencies result fuel (received + Int64.ofInt m.data.length)
      else if mt = msgComplete then
        match decodeFrom (CompleteMessage.decode bufferReader) data with
        | .error e => pure (.error (.decodeComplete e))
        | .ok _ => do
          let t ← timeNow
          pure (.ok (calculateLatencyStats latencies
            { result with transferredSize := received, durationMs := milliseconds (t - startTime) }))
      else downloadLoop startTime latencies result fuel received

/-- `c.runDownload(ctx, conn, cfg, result)`. -/
def runDownload (result : Result) : GoM (Except ClientError Result) := do
  let startTime ← timeNow
  let l ← measureLatency 0
  let w ← get
  downloadLoop startTime (recordLatency [] l) result (w.incoming.length + 1) 0

-- ---------------------------------------------------------------------------
-- Run
-- ---------------------------------------------------------------------------

/-- The text of an `ErrorMessage` body; empty when it does not decode. -/
def errorText (data : Bytes) : Bytes :=
  match decodeFrom (ErrorMessage.decode bufferReader) data with
  | .ok m => m.error
  | .error _ => []

/-- The result `Run` starts from, for a config with its defaults applied. -/
def Result.initial (localPeer : Bytes) (cfg : Config) (timestamp : Int) : Result :=
  { timestamp, localPeer, remotePeer := cfg.peerName, direction := cfg.direction,
    requestedSize := cfg.size, transferredSize := 0, durationMs := 0, throughputBps := 0,
    throughputMbps := 0, latencyMinMs := 0, latencyMaxMs := 0, latencyAvgMs := 0,
    success := false, error := none, chaos := if cfg.chaos.isEnabled then some cfg.chaos else none }

/-- `c.Run(ctx, cfg)` on a connection already dialled: the result and the error
it returns, either of which may be `nil`. -/
def run (localPeer : Bytes) (cfg : Config) : GoM (Option Result × Option ClientError) :=
  match cfg.withDefaults.validate with
  | some e => pure (none, some (.invalidConfig e))
  | none => do
    let ts ← timeNow
    let result := Result.initial localPeer cfg.withDefaults ts
    match ← writeMessageConn msgStart (.start ⟨cfg.withDefaults.size, cfg.withDefaults.direction⟩) with
    | some e => pure (none, some (.sendStart e))
    | none =>
      match ← attempt (readMessage connReader) with
      | .error e => pure (none, some (.readAck e))
      | .ok (mt, data) =>
        if mt ≠ msgAck then
          if mt = msgError then pure (none, some (.rejected (errorText data)))
          else pure (none, some (.expectedAck mt))
        else match decodeFrom (AckMessage.decode bufferReader) data with
          | .error e => pure (none, some (.decodeAck e))
          | .ok ack =>
            if !ack.accepted then pure (none, some (.rejected ack.error))
            else do
              let r ← if cfg.withDefaults.direction = directionUpload then runUpload cfg.withDefaults result
                else if cfg.withDefaults.direction = directionDownload then runDownload result
                else pure (.ok result)
              match r with
              | .error e => pure (some { result with error := some e }, some e)
              | .ok r => pure (some { r with success := true }.calculateThroughput, none)

-- ---------------------------------------------------------------------------
-- One step at a time
-- ---------------------------------------------------------------------------

/-- Frames the peer sends, each arriving whole at its instant. -/
def peerFrames (fs : List (Int × MessageType × Message)) : List Arrival :=
  fs.flatMap fun f => arriving f.1 (writeMessage f.2.1 f.2.2)

@[simp] theorem peerFrames_nil : peerFrames [] = [] := rfl

@[simp] theorem peerFrames_cons (f : Int × MessageType × Message) (fs : List (Int × MessageType × Message)) :
    peerFrames (f :: fs) = arriving f.1 (frame f.2.1 f.2.2.encode) ++ peerFrames fs := rfl

theorem peerFrames_append (fs gs : List (Int × MessageType × Message)) :
    peerFrames (fs ++ gs) = peerFrames fs ++ peerFrames gs := by
  simp [peerFrames]

theorem length_le_peerFrames (fs : List (Int × MessageType × Message)) :
    fs.length ≤ (peerFrames fs).length := by
  induction fs with
  | nil => rfl
  | cons f fs ih => simp only [peerFrames_cons, List.length_append, length_arriving, length_frame,
      List.length_cons]; omega

theorem decodeFrom_data {d : DataMessage} (hd : d.data.length < 2 ^ 32) :
    decodeFrom (DataMessage.decode bufferReader) d.encode = .ok d := by
  have h := DataMessage.decode_encode d []
  rw [List.append_nil, (cut_eq_self_iff _ (by norm_num)).2 hd] at h
  simp only [decodeFrom, h]

theorem decodeFrom_complete (c : CompleteMessage) :
    decodeFrom (CompleteMessage.decode bufferReader) c.encode = .ok c := by
  have h := CompleteMessage.decode_encode c []
  rw [List.append_nil] at h
  simp only [decodeFrom, h]

theorem decodeFrom_pong (m : PongMessage) :
    decodeFrom (PongMessage.decode bufferReader) m.encode = .ok m := by
  have h := PongMessage.decode_encode m []
  rw [List.append_nil] at h
  simp only [decodeFrom, h]

theorem decodeFrom_ack {a : AckMessage} (ha : a.error.length < 2 ^ 16) :
    decodeFrom (AckMessage.decode bufferReader) a.encode = .ok a := by
  have h := AckMessage.decode_encode a []
  rw [List.append_nil, (cut_eq_self_iff _ (by norm_num)).2 ha] at h
  simp only [decodeFrom, h]

/-! What each function does when the frame it reads has arrived in time, or has
not. Later proofs use these and never unfold the functions. -/

/-- The three writes of `WriteMessage(conn, t, m)` at instant `c`. -/
def frameWrites (c : Int) (t : MessageType) (m : Message) : List (Int × Bytes) :=
  [(c, putUint8 t), (c, putUint32 m.encode.length.toUInt32), (c, m.encode)]

/-- On a connection that takes every write, `WriteMessage` sends the three parts of the
frame. -/
theorem writeMessageConn_eq (t : MessageType) (m : Message) {w : World} (hcap : w.capacity = none) :
    writeMessageConn t m w = .ok none { w with sent := w.sent ++ frameWrites w.clock t m } := by
  simp [writeMessageConn, connWrite, hcap, bind, EStateM.bind, pure, EStateM.pure, frameWrites]

@[simp] theorem flatten_frameWrites (c : Int) (t : MessageType) (m : Message) :
    ((frameWrites c t m).map Prod.snd).flatten = writeMessage t m := by
  simp [frameWrites, writeMessage, frame]

/-- `ReadMessage` on the connection, when a whole frame arrives at `t`, before
the deadline: it waits until `t` and returns the frame. -/
theorem readMessage_conn {w : World} {t : Int} {mt : MessageType} {p : Bytes} {rest : List Arrival}
    (hx : w.expired = false) (ht : w.beforeDeadline t = true)
    (h : w.incoming = arriving t (frame mt p) ++ rest) (hp : p.length < 2 ^ 32) :
    readMessage connReader w = .ok (mt, p) { w with incoming := rest, clock := max w.clock t } := by
  have h₁ := @connReadFull_arriving w t (putUint8 mt) (putUint32 p.length.toUInt32 ++ p) rest hx ht
    (by rw [h, frame, List.append_assoc]) (.inl (List.cons_ne_nil mt []))
  have h₂ := @connReadFull_arriving _ t (putUint32 p.length.toUInt32) p rest
    (World.expired_wait hx ht _) ht rfl (.inl (by simp [putUint32, beBytes]))
  have h₃ := @connReadFull_arriving _ t p [] rest
    (World.expired_wait (World.expired_wait hx ht (arriving t (putUint32 p.length.toUInt32 ++ p) ++ rest))
      ht (arriving t p ++ rest)) ht (by simp) (.inr (by simp))
  have hk : p.length.toUInt32.toNat = p.length := Nat.mod_eq_of_lt hp
  simp only [length_putUint8, length_putUint32] at h₁ h₂
  simp only [readMessage, Reader.readUint8, Reader.readUint32, bind, EStateM.bind, connReader_readFull,
    h₁, h₂, ofNat_beValue_putUint8, ofNat_beValue_putUint32, hk, pure, EStateM.pure]
  simp only [h₃]
  simp

/-- `ReadMessage` on the connection, started before the deadline, when the next
byte arrives at or after it: a timeout at the deadline. -/
theorem readMessage_conn_late {w : World} {d t : Int} {b : UInt8} {rest : List Arrival}
    (hd : w.deadline = some d) (hc : w.clock < d) (ht : d ≤ t) (h : w.incoming = ⟨t, b⟩ :: rest) :
    readMessage connReader w = .error .timeout { w with clock := d } := by
  simp only [readMessage, Reader.readUint8, bind, EStateM.bind, connReader_readFull,
    connReadFull_late one_ne_zero hd hc ht h]

/-- `ReadMessage` on a connection the peer has closed: `io.EOF` at once. -/
theorem readMessage_conn_eof {w : World} (hx : w.expired = false) (hl : w.lingers = false)
    (h : w.incoming = []) : readMessage connReader w = .error .eof w := by
  simp only [readMessage, Reader.readUint8, bind, EStateM.bind, connReader_readFull,
    connReadFull_eof one_ne_zero hx hl h]

/-- `ReadMessage` on a connection the peer keeps open and silent, with no read
deadline: it never returns. -/
theorem readMessage_conn_silent {w : World} (hd : w.deadline = none) (hl : w.lingers = true)
    (h : w.incoming = []) : readMessage connReader w = .error .blocked w := by
  simp only [readMessage, Reader.readUint8, bind, EStateM.bind, connReader_readFull,
    connReadFull_silent one_ne_zero hd hl h]

theorem latencyPingTimeout_pos : 0 < latencyPingTimeout := by decide

/-- `measureLatency(seq)` when a whole frame arrives before its deadline: it
reads that frame, whatever its type. -/
theorem measureLatency_frame {w : World} {seq : UInt32} {t : Int} {mt : MessageType} {p : Bytes}
    {rest : List Arrival} (hcap : w.capacity = none) (ht : t < w.clock + latencyPingTimeout)
    (h : w.incoming = arriving t (frame mt p) ++ rest) (hp : p.length < 2 ^ 32) :
    measureLatency seq w = .ok
      (if mt ≠ msgPong then .error (.expectedPong mt)
      else match decodeFrom (PongMessage.decode bufferReader) p with
        | .error e => .error (.io e)
        | .ok _ => .ok (((max w.clock t - w.clock : Int) : ℚ) / 1000000))
      { w with sent := w.sent ++ frameWrites w.clock msgPing (.ping ⟨seq, Int64.ofInt w.clock⟩),
               deadline := some (w.clock + latencyPingTimeout), incoming := rest,
               clock := max w.clock t } := by
  have hr := @readMessage_conn
    { w with sent := w.sent ++ frameWrites w.clock msgPing (.ping ⟨seq, Int64.ofInt w.clock⟩),
             deadline := some (w.clock + latencyPingTimeout) } t mt p rest
    (by simp [World.expired, latencyPingTimeout_pos]) (by simp [World.beforeDeadline, ht]) h hp
  simp only [measureLatency, bind, EStateM.bind, timeNow, writeMessageConn_eq _ _ hcap, setReadDeadline,
    attempt, hr]
  split_ifs
  · rfl
  · cases decodeFrom (PongMessage.decode bufferReader) p <;> rfl

/-- `measureLatency(seq)` when its `Pong` arrives within five seconds: the round
trip in milliseconds, with the clock at the `Pong`'s arrival. -/
theorem measureLatency_pong {w : World} {seq : UInt32} {t : Int} {p : PongMessage} {rest : List Arrival}
    (hcap : w.capacity = none) (hct : w.clock ≤ t) (ht : t < w.clock + latencyPingTimeout)
    (h : w.incoming = arriving t (writeMessage msgPong (.pong p)) ++ rest) :
    measureLatency seq w = .ok (.ok (((t - w.clock : Int) : ℚ) / 1000000))
      { w with sent := w.sent ++ frameWrites w.clock msgPing (.ping ⟨seq, Int64.ofInt w.clock⟩),
               deadline := some (w.clock + latencyPingTimeout), incoming := rest, clock := t } := by
  rw [measureLatency_frame hcap ht h (by simp [Message.encode, PongMessage.encode]), if_neg (not_not_intro rfl),
    Message.encode, decodeFrom_pong, max_eq_right hct]

/-- `measureLatency(seq)` when the next byte comes only after its five-second
deadline: a timeout, five seconds later, with nothing read. -/
theorem measureLatency_late {w : World} {seq : UInt32} {t : Int} {b : UInt8} {rest : List Arrival}
    (hcap : w.capacity = none) (ht : w.clock + latencyPingTimeout ≤ t) (h : w.incoming = ⟨t, b⟩ :: rest) :
    measureLatency seq w = .ok (.error (.io .timeout))
      { w with sent := w.sent ++ frameWrites w.clock msgPing (.ping ⟨seq, Int64.ofInt w.clock⟩),
               deadline := some (w.clock + latencyPingTimeout),
               clock := w.clock + latencyPingTimeout } := by
  have hr := @readMessage_conn_late
    { w with sent := w.sent ++ frameWrites w.clock msgPing (.ping ⟨seq, Int64.ofInt w.clock⟩),
             deadline := some (w.clock + latencyPingTimeout) } _ t b rest rfl
    (by simp [latencyPingTimeout_pos]) ht h
  simp only [measureLatency, bind, EStateM.bind, timeNow, writeMessageConn_eq _ _ hcap, setReadDeadline,
    attempt, hr]
  rfl

/-- `measureLatency(seq)` on a connection the peer has closed: it writes the
`Ping` and reads `io.EOF` at once. -/
theorem measureLatency_eof {w : World} {seq : UInt32} (hcap : w.capacity = none) (hl : w.lingers = false)
    (h : w.incoming = []) :
    measureLatency seq w = .ok (.error (.io .eof))
      { w with sent := w.sent ++ frameWrites w.clock msgPing (.ping ⟨seq, Int64.ofInt w.clock⟩),
               deadline := some (w.clock + latencyPingTimeout) } := by
  have hr := @readMessage_conn_eof
    { w with sent := w.sent ++ frameWrites w.clock msgPing (.ping ⟨seq, Int64.ofInt w.clock⟩),
             deadline := some (w.clock + latencyPingTimeout) }
    (by simp [World.expired, latencyPingTimeout_pos]) hl h
  simp only [measureLatency, bind, EStateM.bind, timeNow, writeMessageConn_eq _ _ hcap, setReadDeadline,
    attempt, hr, pure, EStateM.pure]

/-- One pass of the download loop, when the context is not done and a whole
frame arrives within thirty seconds. -/
theorem downloadLoop_frame {st : Int} {ls : List ℚ} {r : Result} {fuel : Nat} {recv : Int64}
    {w : World} {t : Int} {mt : MessageType} {p : Bytes} {rest : List Arrival}
    (hc : w.cancelled w.checks = false) (ht : t < w.clock + readTimeout)
    (h : w.incoming = arriving t (frame mt p) ++ rest) (hp : p.length < 2 ^ 32) :
    downloadLoop st ls r (fuel + 1) recv w =
      (if mt = msgData then
        match decodeFrom (DataMessage.decode bufferReader) p with
        | .error e => pure (.error (.decodeData e))
        | .ok m => downloadLoop st ls r fuel (recv + Int64.ofInt m.data.length)
      else if mt = msgComplete then
        match decodeFrom (CompleteMessage.decode bufferReader) p with
        | .error e => pure (.error (.decodeComplete e))
        | .ok _ => pure (.ok (calculateLatencyStats ls
            { r with transferredSize := recv, durationMs := milliseconds (max w.clock t - st) }))
      else downloadLoop st ls r fuel recv)
      { w with checks := w.checks + 1, deadline := some (w.clock + readTimeout), incoming := rest,
               clock := max w.clock t } := by
  have hr := @readMessage_conn
    { w with checks := w.checks + 1, deadline := some (w.clock + readTimeout) } t mt p rest
    (by simp [World.expired, readTimeout, second]) (by simp [World.beforeDeadline, ht]) h hp
  simp only [downloadLoop, bind, EStateM.bind, ctxDone, hc, Bool.false_eq_true, ↓reduceIte, pure,
    EStateM.pure, timeNow, setReadDeadline, attempt, hr]
  split_ifs
  · cases decodeFrom (DataMessage.decode bufferReader) p <;> rfl
  · cases decodeFrom (CompleteMessage.decode bufferReader) p <;> rfl
  · rfl

/-- The next chunk's length, while `0 ≤ sent ≤ size`: `ChunkSize`, or what remains. -/
theorem dataSize_val {size sent : Int64} (h0 : 0 ≤ sent.val) (h : sent.val ≤ size.val) :
    (dataSize size sent).val = min (size.val - sent.val) chunkSize := by
  have := size.hi
  have hsub : (size - sent).val = size.val - sent.val := by
    simp only [Int64.val_sub]; exact Int64.wrap_of_mem (by omega) (by omega)
  have hc : (Int64.ofInt chunkSize).val = chunkSize := by simp [chunkSize, Int64.wrap]
  unfold dataSize
  split_ifs with hlt <;> simp only [Int64.lt_iff, hsub, hc] at hlt ⊢ <;> omega

/-- `sent += dataSize` does not wrap while `0 ≤ sent ≤ size`. -/
theorem add_dataSize_val {size sent : Int64} (h0 : 0 ≤ sent.val) (h : sent.val ≤ size.val) :
    (sent + dataSize size sent).val = sent.val + min (size.val - sent.val) chunkSize := by
  have := size.hi
  simp only [Int64.val_add, dataSize_val h0 h]
  exact Int64.wrap_of_mem (by omega) (by omega)

/-- A pass of the upload loop with no chaos writer and no ping after it: the
context check and one `Data` frame on the connection. -/
theorem uploadChunk_plain {size : Int64} {chunk : Bytes} {u : Upload} {w : World} (hcap : w.capacity = none)
    (hc : w.cancelled w.checks = false) (hchaos : u.chaos = none) (hping : (u.seqNum + 1) % 10 ≠ 0) :
    uploadChunk size chunk u w = .ok (.ok ⟨u.sent + dataSize size u.sent, u.seqNum + 1, u.latencies, none⟩)
      { w with
        checks := w.checks + 1
        sent := w.sent ++ frameWrites w.clock msgData
          (.data ⟨u.seqNum, chunk.take (dataSize size u.sent).val.toNat⟩) } := by
  simp only [uploadChunk, writeDataFrame, bind, EStateM.bind, ctxDone, hc, Bool.false_eq_true, ↓reduceIte,
    pure, EStateM.pure, hchaos, writeMessageConn_eq, hcap, hping]

/-- A pass of the upload loop whose chaos writer has a jitter of `2^62` or more,
no loss rate and no token bucket: it panics after the context check, with
nothing written. -/
theorem uploadChunk_jitter_panic {size : Int64} {chunk : Bytes} {u : Upload} {c : ChaosWriter}
    {w : World} (hc : w.cancelled w.checks = false) (hchaos : u.chaos = some c)
    (hloss : ¬ c.cfg.packetLossPercent > 0) (hb : c.bucket = none) (hj : 2 ^ 62 ≤ c.cfg.jitter.val) :
    uploadChunk size chunk u w = .error .int63n { w with checks := w.checks + 1 } := by
  simp only [uploadChunk, writeDataFrame, bind, EStateM.bind, ctxDone, hc, Bool.false_eq_true, ↓reduceIte,
    pure, EStateM.pure, hchaos, ChaosWriter.write_panic_of_le hloss hb hj]

/-- The upload loop stops once `sent` reaches `Size`. -/
theorem uploadLoop_of_ge {size : Int64} {chunk : Bytes} {u : Upload} (h : ¬ u.sent < size) :
    ∀ fuel, uploadLoop size chunk fuel u = pure (.ok u)
  | 0 => rfl
  | _ + 1 => by simp only [uploadLoop, if_neg h]

/-- `Run` for a config that `Validate` accepts, when the peer's `Ack` accepting
the benchmark arrives whole: the client sends `Start`, reads the `Ack`, and
goes on with the direction's run. -/
theorem run_of_ack (lp : Bytes) (cfg : Config) (w : World) {ta : Int} {e : Bytes} {rest : List Arrival}
    (hv : cfg.withDefaults.validate = none) (hcap : w.capacity = none) (hdl : w.deadline = none) (hta : w.clock ≤ ta)
    (he : e.length < 2 ^ 16) (h : w.incoming = arriving ta (writeMessage msgAck (.ack ⟨true, e⟩)) ++ rest) :
    run lp cfg w =
      (do
        let r ← if cfg.withDefaults.direction = directionUpload then
            runUpload cfg.withDefaults (Result.initial lp cfg.withDefaults w.clock)
          else if cfg.withDefaults.direction = directionDownload then
            runDownload (Result.initial lp cfg.withDefaults w.clock)
          else pure (Except.ok (Result.initial lp cfg.withDefaults w.clock))
        match r with
        | .error e => pure (some { Result.initial lp cfg.withDefaults w.clock with error := some e }, some e)
        | .ok r => pure (some { r with success := true }.calculateThroughput, none))
      { w with
        sent := w.sent ++ frameWrites w.clock msgStart (.start ⟨cfg.withDefaults.size, cfg.withDefaults.direction⟩)
        incoming := rest
        clock := ta } := by
  have hack := @readMessage_conn
    { w with sent := w.sent ++ frameWrites w.clock msgStart (.start ⟨cfg.withDefaults.size, cfg.withDefaults.direction⟩) }
    ta msgAck (Message.ack ⟨true, e⟩).encode rest
    (by simp [World.expired, hdl]) (by simp [World.beforeDeadline, hdl]) h
    (by simp [Message.encode, AckMessage.encode, writeString]; omega)
  simp only [run, hv, bind, EStateM.bind, timeNow, writeMessageConn_eq _ _ hcap, attempt, hack, max_eq_right hta]
  simp only [ne_eq, not_true_eq_false, if_false, Message.encode, @decodeFrom_ack ⟨true, e⟩ he,
    Bool.not_true, Bool.false_eq_true]

end TunnelMesh.Benchmark
