-- SUMMARY: Whole runs of runUpload: against a prompt peer, through a chaos writer that only drops or none, it writes the expected frames less some Data frames and reports Size; a late Complete times out; a jitter of 2^62 or more panics; a late Pong shifts every later read by one frame.
import TunnelMesh.Benchmark.Client

/-!
# Runs of the upload

Runs of `runUpload`, each built from the step lemmas of the client, over a
connection that takes every write (`capacity = none`): a write that fails ends
the upload with its error, and one that blocks never returns.

Against a peer that answers every `Ping` within five seconds, with chaos
disabled or with a chaos writer that only drops (no latency, jitter or
bandwidth limit), the upload succeeds, reports `Size` bytes, and writes `Ping
0`, the chunks in order with a `Ping` after every tenth, the final `Ping` and
`Complete`, with some `Data` frames left out (`DataDrops`), and none without a
loss rate (`runUpload_sends_frames`). A dropped chunk still counts as sent: the
writer reports the whole length written. The run is built from one pass of the
loop (`uploadChunk_pass`) and the whole loop by induction on the chunks still
to send (`uploadLoop_frames`). The read of `Complete` keeps the deadline of the
final probe, so a `Complete` that comes five seconds or more after the final
`Ping` times out although every chunk was handed to the connection
(`runUpload_late_complete`).

A chaos configuration with `Jitter ≥ 2^62` passes `Validate`, but the jitter
draw `rng.Int63n(2 * int64(Jitter))` then gets a non-positive argument and
panics. With no loss rate and no bandwidth limit the first `Data` frame is the
first write through the chaos writer, so the upload panics right after its
first `Ping`, and neither data nor `Complete` is ever sent
(`runUpload_jitter_panic`).

`measureLatency` gives up on a `Pong` after five seconds but leaves it on the
connection, and it never compares the sequence number of the `Pong` it reads
with that of its `Ping`. A `Pong` that comes late is read by the next probe
instead, each later read is one frame behind, and the read that expects the
peer's `Complete` finds the last `Pong` (`runUpload_late_first_pong`).
-/

namespace TunnelMesh.Benchmark

-- ---------------------------------------------------------------------------
-- A jitter of 2^62 or more
-- ---------------------------------------------------------------------------

/-- An upload through a chaos writer whose jitter is `2^62` or more, with no
loss rate and no bandwidth limit, on a connection that takes every write and that
the peer has closed: the client writes its first `Ping` and panics on the first
chunk. -/
theorem runUpload_jitter_panic {cfg : Config} {r : Result} {w : World}
    (hsize : 0 < cfg.size.val) (hj : 2 ^ 62 ≤ cfg.chaos.jitter.val)
    (hloss : ¬ cfg.chaos.packetLossPercent > 0) (hb : ¬ cfg.chaos.bandwidthBps > 0)
    (hcan : w.cancelled w.checks = false) (hcap : w.capacity = none) (hl : w.lingers = false)
    (h : w.incoming = []) :
    runUpload cfg r w = .error .int63n
      { w with
        sent := w.sent ++ frameWrites w.clock msgPing (.ping ⟨0, Int64.ofInt w.clock⟩)
        deadline := some (w.clock + latencyPingTimeout)
        checks := w.checks + 1 } := by
  obtain ⟨k, hk⟩ : ∃ k, cfg.size.val.toNat = k + 1 := ⟨cfg.size.val.toNat - 1, by omega⟩
  have hen : cfg.chaos.isEnabled = true := by
    simp only [ChaosConfig.isEnabled, gt_iff_lt, Int64.lt_iff, Int64.val_zero, decide_eq_true_eq]
    omega
  rw [runUpload_eq]
  simp only [uploadPhase, bind, EStateM.bind, timeNow, randRead, hen, if_true, Functor.map, EStateM.map,
    newChaosWriter_of_nonpos hb, measureLatency_eof hcap hl h, hk, uploadLoop,
    show (0 : Int64) < cfg.size by simpa using hsize]
  rw [@uploadChunk_jitter_panic _ _ _ _ _ _ rfl hloss rfl hj]
  exact hcan

/-- An upload of one byte with a jitter of `2^62` nanoseconds, which `Validate`
admits, against a peer that has closed the connection: `Ping 0` is all that is
written before the panic. -/
theorem runUpload_jitter_two_pow_62 (r : Result) :
    ∃ w, runUpload ⟨ascii "peer", 1, directionUpload, 0, 0, ⟨0, 0, Int64.ofInt (2 ^ 62), 0⟩⟩ r
        (World.start []) = .error .int63n w ∧
      w.wire = writeMessage msgPing (.ping ⟨0, 0⟩) :=
  ⟨_, runUpload_jitter_panic (by decide) (by decide) (by decide) (by decide) rfl rfl rfl rfl,
    by simp [World.wire, World.start]; rfl⟩

-- ---------------------------------------------------------------------------
-- A Pong past its deadline
-- ---------------------------------------------------------------------------

/-- An upload of one chunk with no chaos writer, against a peer whose answer to
the first `Ping` comes after the five-second deadline and whose next frame is
another `Pong`, within five seconds of the final `Ping`: the final probe reads
the late `Pong`, and `runUpload` reads the second `Pong` where it expects the
peer's `Complete`. -/
theorem runUpload_late_first_pong {cfg : Config} {r : Result} {w : World} {t₀ t₂ : Int}
    {p₀ p₂ : PongMessage} {rest : List Arrival}
    (hen : cfg.chaos.isEnabled = false) (hsize : 0 < cfg.size.val) (hsmall : cfg.size.val ≤ chunkSize)
    (hcan : ∀ i, w.cancelled i = false) (hcap : w.capacity = none)
    (ht₀ : w.clock + latencyPingTimeout ≤ t₀) (ht₀' : t₀ < w.clock + 2 * latencyPingTimeout)
    (ht₂ : t₂ < w.clock + 2 * latencyPingTimeout)
    (h : w.incoming = peerFrames [(t₀, msgPong, .pong p₀), (t₂, msgPong, .pong p₂)] ++ rest) :
    ∃ w', runUpload cfg r w = .ok (.error (.expectedComplete msgPong)) w' := by
  obtain ⟨k, hk⟩ : ∃ k, cfg.size.val.toNat = k + 1 := ⟨cfg.size.val.toNat - 1, by omega⟩
  rw [runUpload_eq]
  simp only [uploadPhase, bind, EStateM.bind, timeNow, randRead, hen, Bool.false_eq_true, ↓reduceIte,
    pure, EStateM.pure]
  rw [@measureLatency_late w 0 t₀ msgPong _ hcap ht₀ (by rw [h]; rfl), hk]
  have hsent : ¬ (0 + dataSize cfg.size 0 < cfg.size) := by
    have := @add_dataSize_val cfg.size 0 le_rfl hsize.le
    simp only [Int64.lt_iff, this, Int64.val_zero]; omega
  simp only [uploadLoop, show (0 : Int64) < cfg.size by simpa using hsize, ↓reduceIte, bind,
    EStateM.bind]
  rw [@uploadChunk_plain cfg.size _ ⟨0, 0, _, none⟩ _ ?cap ?can rfl (by decide)]
  case cap => exact hcap
  case can => exact hcan _
  dsimp only
  rw [@uploadLoop_of_ge cfg.size _ ⟨0 + dataSize cfg.size 0, 0 + 1, _, none⟩ hsent k]
  simp only [pure, EStateM.pure]
  simp only [EStateM.bind]
  rw [@measureLatency_frame _ (0 + 1 + 1) t₀ msgPong (Message.pong p₀).encode
    (peerFrames [(t₂, msgPong, .pong p₂)] ++ rest) ?cap ?ht ?inc (by simp [Message.encode, PongMessage.encode])]
  case cap => exact hcap
  case ht =>
    show t₀ < w.clock + latencyPingTimeout + latencyPingTimeout
    omega
  case inc =>
    show w.incoming = _
    rw [h]; simp [List.append_assoc]
  rw [if_neg (not_not_intro rfl), Message.encode, decodeFrom_pong]
  simp only [EStateM.bind, timeNow, writeMessageConn_eq, hcap, attempt]
  rw [@readMessage_conn _ t₂ msgPong (Message.pong p₂).encode rest _ _ (by simp)
    (by simp [Message.encode, PongMessage.encode])]
  · simp only [show msgPong ≠ msgComplete by decide, ne_eq, not_false_eq_true, if_true]
    exact ⟨_, rfl⟩
  · simp only [World.expired, decide_eq_false_iff_not, not_le]
    have := latencyPingTimeout_pos
    omega
  · simp only [World.beforeDeadline, decide_eq_true_eq]
    omega

/-- An upload of one byte against a peer that answers both of the client's
pings and its `Complete`, in order, but whose first `Pong` arrives six seconds
after the first `Ping`, past its five-second deadline. `runUpload` fails: it
reads the second `Pong` where it expects `Complete`. -/
theorem runUpload_late_pong (r : Result) :
    ∃ w, runUpload ⟨ascii "peer", 1, directionUpload, 0, 0, ⟨0, 0, 0, 0⟩⟩ r
        (World.start (peerFrames [(6 * second, msgPong, .pong ⟨0, 0⟩),
          (7 * second, msgPong, .pong ⟨2, Int64.ofInt (5 * second)⟩),
          (8 * second, msgComplete, .complete ⟨1, Int64.ofInt (6 * second)⟩)])) =
      .ok (.error (.expectedComplete msgPong)) w :=
  runUpload_late_first_pong (by decide) (by decide) (by decide) (fun _ => rfl) rfl (by decide)
    (by decide) (by decide) rfl

-- ---------------------------------------------------------------------------
-- A prompt peer
-- ---------------------------------------------------------------------------

/-! What an upload without chaos writes, against a peer that answers every
`Ping` within its five seconds. The frames are described up to the timestamps,
which the clock decides: `UploadFrame` names the fields the protocol fixes. -/

/-- A frame of the upload as the protocol fixes it: a `Ping` by its sequence
number, a `Data` frame whole, and `Complete` by its byte count. -/
inductive UploadFrame
  | ping (seqNum : UInt32)
  | data (m : DataMessage)
  | complete (bytesTransferred : Int64)
  deriving DecidableEq

/-- A frame on the wire, its type and body, is the expected frame up to its
timestamp or duration. -/
def UploadFrame.Matches : UploadFrame → MessageType × Message → Prop
  | .ping s, (t, m) => t = msgPing ∧ ∃ ts, m = .ping ⟨s, ts⟩
  | .data d, (t, m) => t = msgData ∧ m = .data d
  | .complete b, (t, m) => t = msgComplete ∧ ∃ d, m = .complete ⟨b, d⟩

/-- The number of chunks of an upload of `size` bytes: `size / ChunkSize`
rounded up. -/
def chunkCount (size : Int64) : Nat := (size.val.toNat + chunkSize - 1) / chunkSize

/-- The frames of the pass for chunk `i`: its `Data` frame, then a `Ping` when
the sequence number after it is a multiple of ten. -/
def passFrames (size : Int64) (chunk : Bytes) (i : Nat) : List UploadFrame :=
  .data ⟨UInt32.ofNat i, chunk.take (min chunkSize (size.val.toNat - i * chunkSize))⟩ ::
    if UInt32.ofNat (i + 1) % 10 = 0 then [.ping (UInt32.ofNat (i + 1))] else []

/-- The number of `Pong`s the pass for chunk `i` reads. -/
def passPongs (i : Nat) : Nat := if UInt32.ofNat (i + 1) % 10 = 0 then 1 else 0

/-- The frames of `n` passes from chunk `i` on. -/
def chunkFrames (size : Int64) (chunk : Bytes) : Nat → Nat → List UploadFrame
  | _, 0 => []
  | i, n + 1 => passFrames size chunk i ++ chunkFrames size chunk (i + 1) n

/-- The number of `Pong`s that `n` passes from chunk `i` on read. -/
def loopPings : Nat → Nat → Nat
  | _, 0 => 0
  | i, n + 1 => passPongs i + loopPings (i + 1) n

/-- The frames of a whole upload of `size` bytes of `chunk`: the first `Ping`,
every chunk in order with a `Ping` after every tenth, the final `Ping`, and
`Complete` with the size. -/
def uploadFrames (size : Int64) (chunk : Bytes) : List UploadFrame :=
  .ping 0 :: (chunkFrames size chunk 0 (chunkCount size) ++
    [.ping (UInt32.ofNat (chunkCount size + 1)), .complete size])

example : uploadFrames 1 [7, 8] = [.ping 0, .data ⟨0, [7]⟩, .ping 2, .complete 1] := by decide

/-- Each `Pong`, at its instant, arrives within five seconds of the `Ping` it
answers, which the client sends at the arrival of the one before (`c` at first). -/
def Prompt (c : Int) : List (Int × PongMessage) → Prop
  | [] => True
  | (t, _) :: ps => c ≤ t ∧ t < c + latencyPingTimeout ∧ Prompt t ps

/-- The instant of the last `Pong`, or `c` if there is none. -/
def lastArrival (c : Int) : List (Int × PongMessage) → Int
  | [] => c
  | (t, _) :: ps => lastArrival t ps

/-- The peer's `Pong` frames, each at its instant. -/
def pongFrames (ps : List (Int × PongMessage)) : List (Int × MessageType × Message) :=
  ps.map fun p => (p.1, msgPong, .pong p.2)

theorem lastArrival_append (c : Int) (xs ys : List (Int × PongMessage)) :
    lastArrival c (xs ++ ys) = lastArrival (lastArrival c xs) ys := by
  induction xs generalizing c with
  | nil => rfl
  | cons x xs ih => exact ih x.1

theorem prompt_append {c : Int} {xs ys : List (Int × PongMessage)} :
    Prompt c (xs ++ ys) ↔ Prompt c xs ∧ Prompt (lastArrival c xs) ys := by
  induction xs generalizing c with
  | nil => simp [Prompt, lastArrival]
  | cons x xs ih => simp [Prompt, lastArrival, ih, and_assoc]

theorem toNat_uint32_ofNat (n : Nat) : (UInt32.ofNat n).toNat = n % 2 ^ 32 := rfl

theorem ofNat_add_one (i : Nat) : UInt32.ofNat i + 1 = UInt32.ofNat (i + 1) := by
  apply UInt32.ext
  simp only [UInt32.toNat_add, toNat_uint32_ofNat, show (1 : UInt32).toNat = 1 from rfl, UInt32.size]
  omega

theorem lt_chunkCount_iff {size : Int64} (i : Nat) : i < chunkCount size ↔ i * chunkSize < size.val := by
  have := size.hi
  unfold chunkCount
  rw [← Nat.add_one_le_iff, Nat.le_div_iff_mul_le (by decide), Nat.add_mul, one_mul]
  simp only [chunkSize]
  omega

theorem chunkCount_le (size : Int64) : chunkCount size ≤ size.val.toNat := by
  unfold chunkCount
  rw [← Nat.lt_succ_iff, Nat.div_lt_iff_lt_mul (by decide)]
  simp only [chunkSize]
  omega

/-! ### A chaos writer that only drops

With no latency, no jitter and no bandwidth limit the chaos writer never sleeps:
a write is dropped on a draw below the loss rate, and otherwise goes out whole.
The upload then writes the frames above with some `Data` frames left out
(`DataDrops`), and without a loss rate with none left out. -/

/-- The upload's chaos writer, if any, has the config `cc` and no token bucket. -/
def LossOnly (cc : ChaosConfig) (chaos : Option ChaosWriter) : Prop :=
  ∀ c, chaos = some c → c.cfg = cc ∧ c.bucket = none

/-- `kept` is `fs` with some `Data` frames left out. -/
inductive DataDrops : List UploadFrame → List UploadFrame → Prop
  | nil : DataDrops [] []
  | keep {f : UploadFrame} {fs kept : List UploadFrame} : DataDrops fs kept → DataDrops (f :: fs) (f :: kept)
  | drop {d : DataMessage} {fs kept : List UploadFrame} : DataDrops fs kept → DataDrops (.data d :: fs) kept

theorem DataDrops.refl : ∀ fs : List UploadFrame, DataDrops fs fs
  | [] => .nil
  | _ :: fs => .keep (DataDrops.refl fs)

theorem DataDrops.append {fs gs kept kept' : List UploadFrame} (h : DataDrops fs kept)
    (h' : DataDrops gs kept') : DataDrops (fs ++ gs) (kept ++ kept') := by
  induction h with
  | nil => exact h'
  | keep _ ih => exact .keep ih
  | drop _ ih => exact .drop ih

/-- A write through a chaos writer with no token bucket, no latency and no jitter: a
draw when there is a loss rate, and the payload on the connection or nothing. -/
theorem write_lossOnly {c : ChaosWriter} {p : Bytes} (hb : c.bucket = none)
    (hlj : ¬ (c.cfg.latency > 0 ∨ c.cfg.jitter > 0)) {w : World} (hcap : w.capacity = none) :
    ∃ c' d out, c.write p w = .ok (c', p.length, none) { w with draws := w.draws + d, sent := w.sent ++ out } ∧
      c'.cfg = c.cfg ∧ c'.bucket = none ∧ (out = [] ∨ out = [(w.clock, p)]) ∧
      (¬ c.cfg.packetLossPercent > 0 → out = [(w.clock, p)]) := by
  by_cases hl : c.cfg.packetLossPercent > 0
  · by_cases hd : ((w.int63 w.draws % 2 ^ 63 : Nat) : ℚ) / 2 ^ 63 * 100 < c.cfg.packetLossPercent
    · refine ⟨{ c with stats := (c.stats.countWrite p.length).countDrop }, 1, [], ?_, rfl, hb, .inl rfl,
        absurd hl⟩
      simp only [ChaosWriter.write, hl, hd, if_true, bind, EStateM.bind, float64, List.append_nil]
      rfl
    · refine ⟨⟨c.cfg, none, (c.stats.countWrite p.length).countActual p.length⟩, 1, [(w.clock, p)], ?_,
        rfl, rfl, .inr rfl, fun _ => rfl⟩
      simp only [ChaosWriter.write, ChaosWriter.pass, hl, hd, hb, hlj, if_true, if_false, bind,
        EStateM.bind, float64, pure, EStateM.pure, connWrite, hcap]
  · refine ⟨⟨c.cfg, none, (c.stats.countWrite p.length).countActual p.length⟩, 0, [(w.clock, p)], ?_,
      rfl, rfl, .inr rfl, fun _ => rfl⟩
    simp only [ChaosWriter.write, ChaosWriter.pass, hl, hb, hlj, if_false, bind,
      EStateM.bind, pure, EStateM.pure, connWrite, hcap]
    rfl

/-- What a pass writes for its `Data` frame `m`: the frame or nothing. -/
theorem dataFrame_drops {bs : Bytes} {m : DataMessage} (h : bs = [] ∨ bs = writeMessage msgData (.data m)) :
    ∃ kept gs, bs = writeMessages gs ∧ DataDrops [.data m] kept ∧ List.Forall₂ UploadFrame.Matches kept gs ∧
      (bs = writeMessage msgData (.data m) → kept = [.data m]) := by
  rcases h with rfl | rfl
  · exact ⟨[], [], rfl, .drop .nil, .nil, fun h => by simp [writeMessage, frame, putUint8] at h⟩
  · exact ⟨[.data m], [(msgData, .data m)], by simp [writeMessages], .keep .nil, .cons ⟨rfl, rfl⟩ .nil,
      fun _ => rfl⟩

section Lossy

variable {cc : ChaosConfig} (hlj : ¬ (cc.latency > 0 ∨ cc.jitter > 0))
include hlj

/-- A pass of the upload loop whose chaos writer, if any, only drops: after the context
check, the `Data` frame goes out whole or not at all, and only a loss rate drops it;
then the pass goes on to its probe, in a world that differs from the first only in the
bytes written (and the context checks and random draws made). -/
theorem uploadChunk_lossy {size : Int64} {chunk : Bytes} {u : Upload} {w : World}
    (hcap : w.capacity = none) (hc : w.cancelled w.checks = false) (hu : LossOnly cc u.chaos) :
    ∃ (chaos : Option ChaosWriter) (w₁ : World) (bs : Bytes), LossOnly cc chaos ∧ w₁.capacity = none ∧
      w₁.cancelled = w.cancelled ∧ w₁.incoming = w.incoming ∧ w₁.clock = w.clock ∧ w₁.wire = w.wire ++ bs ∧
      (bs = [] ∨ bs = writeMessage msgData (.data ⟨u.seqNum, chunk.take (dataSize size u.sent).val.toNat⟩)) ∧
      (¬ cc.packetLossPercent > 0 →
        bs = writeMessage msgData (.data ⟨u.seqNum, chunk.take (dataSize size u.sent).val.toNat⟩)) ∧
      uploadChunk size chunk u w =
        ((do
          let latencies ← if (u.seqNum + 1) % 10 = 0 then
              recordLatency u.latencies <$> measureLatency (u.seqNum + 1)
            else pure u.latencies
          pure (.ok ⟨u.sent + dataSize size u.sent, u.seqNum + 1, latencies, chaos⟩)) :
          GoM (Except ClientError Upload)) w₁ := by
  rcases hch : u.chaos with _ | c
  · refine ⟨none,
      { w with checks := w.checks + 1,
               sent := w.sent ++ frameWrites w.clock msgData (.data ⟨u.seqNum, chunk.take (dataSize size u.sent).val.toNat⟩) },
      writeMessage msgData (.data ⟨u.seqNum, chunk.take (dataSize size u.sent).val.toNat⟩),
      (fun _ h => nomatch h), hcap, rfl, rfl, rfl, by simp [World.wire], .inr rfl, fun _ => rfl, ?_⟩
    simp only [uploadChunk, writeDataFrame, bind, EStateM.bind, ctxDone, hc, Bool.false_eq_true,
      ↓reduceIte, pure, EStateM.pure, hch, writeMessageConn_eq, hcap]
  · obtain ⟨hcfg, hb⟩ := hu c hch
    obtain ⟨c', d, out, hw, hcfg', hb', hout, hall⟩ := @write_lossOnly c
      (writeMessage msgData (.data ⟨u.seqNum, chunk.take (dataSize size u.sent).val.toNat⟩)) hb
      (hcfg ▸ hlj) { w with checks := w.checks + 1 } hcap
    refine ⟨some c', { w with checks := w.checks + 1, draws := w.draws + d, sent := w.sent ++ out },
      (out.map Prod.snd).flatten, fun _ h => ?_, hcap, rfl, rfl, rfl, by simp [World.wire], ?_, fun hl => ?_, ?_⟩
    · cases h
      exact ⟨hcfg'.trans hcfg, hb'⟩
    · rcases hout with rfl | rfl <;> simp
    · rw [hall (hcfg ▸ hl)]
      simp
    · simp only [uploadChunk, writeDataFrame, bind, EStateM.bind, ctxDone, hc, Bool.false_eq_true,
        ↓reduceIte, pure, EStateM.pure, hch, hw]

/-- One pass of the upload loop for chunk `i`, with a chaos writer that only drops or
none, against a peer whose `Pong`s `qs` for this pass (one if it probes, none if not)
are prompt: the pass writes `passFrames` with its `Data` frame possibly dropped, and
reads exactly `qs`. -/
theorem uploadChunk_pass {size : Int64} {chunk : Bytes} {i : Nat} {u : Upload} {w : World}
    {qs ps : List (Int × PongMessage)} {rest : List Arrival}
    (hlt : i * chunkSize < size.val) (hu : LossOnly cc u.chaos) (hs : u.sent.val = (i * chunkSize : Nat))
    (hq : u.seqNum = UInt32.ofNat i) (hcap : w.capacity = none) (hcan : ∀ j, w.cancelled j = false)
    (hqs : qs.length = passPongs i) (hpr : Prompt w.clock qs)
    (h : w.incoming = peerFrames (pongFrames (qs ++ ps)) ++ rest) :
    ∃ ls chaos w', uploadChunk size chunk u w =
        .ok (.ok ⟨u.sent + dataSize size u.sent, u.seqNum + 1, ls, chaos⟩) w' ∧
      LossOnly cc chaos ∧ w'.capacity = none ∧ w'.cancelled = w.cancelled ∧ w'.incoming = peerFrames (pongFrames ps) ++ rest ∧
      w'.clock = lastArrival w.clock qs ∧
      ∃ kept gs, w'.wire = w.wire ++ writeMessages gs ∧ DataDrops (passFrames size chunk i) kept ∧
        List.Forall₂ UploadFrame.Matches kept gs ∧
        (¬ cc.packetLossPercent > 0 → kept = passFrames size chunk i) := by
  have hseq : u.seqNum + 1 = UInt32.ofNat (i + 1) := by rw [hq, ofNat_add_one]
  have hdata : Message.data ⟨u.seqNum, chunk.take (dataSize size u.sent).val.toNat⟩ =
      .data ⟨UInt32.ofNat i, chunk.take (min chunkSize (size.val.toNat - i * chunkSize))⟩ := by
    rw [dataSize_val (by omega) (by omega), hs, hq]
    simp only [chunkSize] at hlt ⊢
    congr 3
    omega
  obtain ⟨chaos, w₁, bs, hlo, hcap₁, hcan₁, hinc₁, hclock₁, hwire₁, hout, hall, hstep⟩ :=
    uploadChunk_lossy hlj hcap (hcan w.checks) hu
  rw [hdata] at hout hall
  obtain ⟨keptD, gsD, rfl, hdD, hmD, hallD⟩ := dataFrame_drops hout
  by_cases hping : UInt32.ofNat (i + 1) % 10 = 0
  · obtain ⟨⟨t, p⟩, rfl⟩ : ∃ q, qs = [q] := by
      simp only [passPongs, hping, if_true] at hqs
      exact List.length_eq_one.1 hqs
    obtain ⟨hct, ht, -⟩ := hpr
    have hm := @measureLatency_pong w₁ (u.seqNum + 1) t p (peerFrames (pongFrames ps) ++ rest) hcap₁
      (hclock₁ ▸ hct) (hclock₁ ▸ ht) (by rw [hinc₁, h]; simp [pongFrames, writeMessage])
    refine ⟨_, chaos,
      { w₁ with sent := w₁.sent ++ frameWrites w₁.clock msgPing (.ping ⟨u.seqNum + 1, Int64.ofInt w₁.clock⟩),
                deadline := some (w₁.clock + latencyPingTimeout), incoming := peerFrames (pongFrames ps) ++ rest,
                clock := t },
      by simp only [hstep, if_pos (hseq ▸ hping : (u.seqNum + 1) % 10 = 0), bind, EStateM.bind, Functor.map,
        EStateM.map, hm]; rfl,
      hlo, hcap₁, hcan₁, rfl, rfl, keptD ++ [.ping (UInt32.ofNat (i + 1))],
      gsD ++ [(msgPing, .ping ⟨u.seqNum + 1, Int64.ofInt w₁.clock⟩)], ?_, ?_, ?_, fun hl => ?_⟩
    · simp only [World.wire, List.map_append, List.flatten_append, flatten_frameWrites] at hwire₁ ⊢
      rw [hwire₁, writeMessages_append]
      simp [writeMessages]
    · simpa only [passFrames, if_pos hping] using hdD.append (.refl _)
    · exact List.rel_append hmD (.cons ⟨rfl, _, by rw [hseq]⟩ .nil)
    · simp only [passFrames, if_pos hping, hallD (hall hl)]
      rfl
  · obtain rfl : qs = [] := List.eq_nil_of_length_eq_zero (by simpa [passPongs, hping] using hqs)
    refine ⟨_, chaos, w₁, by simp only [hstep, if_neg (hseq ▸ hping : ¬ (u.seqNum + 1) % 10 = 0)]; rfl, hlo, hcap₁, hcan₁, hinc₁.trans h, hclock₁,
      keptD, gsD, hwire₁, ?_, hmD, fun hl => ?_⟩
    · simpa only [passFrames, if_neg hping, List.append_nil] using hdD
    · simp only [passFrames, if_neg hping, hallD (hall hl)]

/-- The upload loop from chunk `i` with `n` chunks to go, with a chaos writer that only
drops or none, against a peer whose `Pong`s are prompt: it sends the remaining chunks
that are not dropped and its probes, `chunkFrames` with some `Data` frames left out, and
reads exactly the `Pong`s of those probes. -/
theorem uploadLoop_frames {size : Int64} {chunk : Bytes} :
    ∀ (n i fuel : Nat) (u : Upload) (w : World) (ps : List (Int × PongMessage)) (rest : List Arrival),
      i + n = chunkCount size → n ≤ fuel → LossOnly cc u.chaos →
      u.sent.val = min ((i * chunkSize : Nat) : Int) size.val → u.seqNum = UInt32.ofNat i →
      w.capacity = none → (∀ j, w.cancelled j = false) → ps.length = loopPings i n → Prompt w.clock ps →
      w.incoming = peerFrames (pongFrames ps) ++ rest →
      ∃ ls chaos w' kept fs,
        uploadLoop size chunk fuel u w = .ok (.ok ⟨size, UInt32.ofNat (i + n), ls, chaos⟩) w' ∧
        LossOnly cc chaos ∧ w'.capacity = none ∧ w'.wire = w.wire ++ writeMessages fs ∧
        DataDrops (chunkFrames size chunk i n) kept ∧ List.Forall₂ UploadFrame.Matches kept fs ∧
        (¬ cc.packetLossPercent > 0 → kept = chunkFrames size chunk i n) ∧
        w'.incoming = rest ∧ w'.clock = lastArrival w.clock ps
  | 0, i, fuel, u, w, ps, rest, hk, _, hu, hs, hq, hcap, _, hps, _, h => by
    obtain rfl : ps = [] := List.eq_nil_of_length_eq_zero (by simpa [loopPings] using hps)
    have hge : ¬ i * chunkSize < size.val := (lt_chunkCount_iff i).not.1 (by omega)
    have hsent : u.sent = size := Int64.ext (by rw [hs]; omega)
    refine ⟨u.latencies, u.chaos, w, [], [], ?_, hu, hcap, by simp [writeMessages], .nil, .nil, fun _ => rfl,
      by simpa [pongFrames] using h, rfl⟩
    rw [uploadLoop_of_ge (by rw [hsent, Int64.lt_iff]; exact lt_irrefl _)]
    obtain ⟨sent, seq, ls, chaos⟩ := u
    simp only at hsent hq
    subst hsent hq
    rfl
  | n + 1, i, fuel, u, w, ps, rest, hk, hf, hu, hs, hq, hcap, hcan, hps, hpr, h => by
    obtain ⟨f, rfl⟩ : ∃ f, fuel = f + 1 := ⟨fuel - 1, by omega⟩
    have hlt : i * chunkSize < size.val := (lt_chunkCount_iff i).1 (by omega)
    have hsi : u.sent.val = (i * chunkSize : Nat) := by rw [hs]; omega
    have hsent' : (u.sent + dataSize size u.sent).val = min (((i + 1) * chunkSize : Nat) : Int) size.val := by
      rw [add_dataSize_val (by omega) (by omega), hsi]
      push_cast
      simp only [chunkSize] at hlt ⊢
      omega
    rw [← List.take_append_drop (passPongs i) ps] at hpr h
    obtain ⟨hpr₁, hpr₂⟩ := prompt_append.1 hpr
    obtain ⟨ls, chaos₁, w₁, hstep, hlo₁, hcap₁, hcan₁, hinc₁, hclock₁, kept₁, gs, hwire₁, hd₁, hgs, hall₁⟩ :=
      uploadChunk_pass hlj hlt hu hsi hq hcap hcan (by simp only [List.length_take, loopPings] at hps ⊢; omega)
        hpr₁ h
    obtain ⟨ls', chaos', w', kept₂, fs, hrun, hlo, hcap', hwire, hd₂, hfs, hall₂, hinc, hclock⟩ :=
      @uploadLoop_frames size chunk n (i + 1) f ⟨u.sent + dataSize size u.sent, u.seqNum + 1, ls, chaos₁⟩ w₁
        (ps.drop (passPongs i)) rest (by omega) (by omega) hlo₁ hsent' (by rw [hq, ofNat_add_one]) hcap₁
        (hcan₁ ▸ hcan) (by simp only [List.length_drop, loopPings] at hps ⊢; omega) (hclock₁ ▸ hpr₂) hinc₁
    refine ⟨ls', chaos', w', kept₁ ++ kept₂, gs ++ fs, ?_, hlo, hcap',
      by rw [hwire, hwire₁, writeMessages_append, List.append_assoc], hd₁.append hd₂, List.rel_append hgs hfs,
      fun hl => by rw [chunkFrames, hall₁ hl, hall₂ hl], hinc,
      by rw [hclock, hclock₁, ← lastArrival_append, List.take_append_drop]⟩
    simp only [uploadLoop, if_pos (show u.sent < size by rw [Int64.lt_iff]; omega), bind, EStateM.bind, hstep]
    rw [hrun, show i + 1 + n = i + (n + 1) by omega]

end Lossy

/-- What `runUpload` does after its final probe: it reads the peer's `Complete`. -/
def readComplete (latencies : List ℚ) (sent : Int64) (d : Int) :
    GoM (Except ClientError (Int64 × Int × List ℚ)) := do
  match ← attempt (readMessage connReader) with
  | .error e => pure (.error (.readServerComplete e))
  | .ok (mt, data) =>
    if mt ≠ msgComplete then pure (.error (.expectedComplete mt))
    else match decodeFrom (CompleteMessage.decode bufferReader) data with
      | .error e => pure (.error (.decodeServerComplete e))
      | .ok _ => pure (.ok (sent, d, latencies))

/-- An upload whose chaos, if enabled, only drops, against a peer that answers every
`Ping` within five seconds: `uploadPhase` writes `uploadFrames` with some `Data` frames
left out, none without a loss rate, and comes to the read of `Complete` under the
deadline of its final probe, which it does not reset. -/
theorem uploadPhase_prompt {cfg : Config} {w : World} {t₀ tf : Int} {p₀ pf : PongMessage}
    {ps : List (Int × PongMessage)} {rest : List Arrival}
    (hlj : ¬ (cfg.chaos.latency > 0 ∨ cfg.chaos.jitter > 0)) (hbw : ¬ cfg.chaos.bandwidthBps > 0)
    (hsize : 0 ≤ cfg.size.val) (hcap : w.capacity = none) (hcan : ∀ j, w.cancelled j = false)
    (hlen : ps.length = loopPings 0 (chunkCount cfg.size))
    (hpr : Prompt w.clock ((t₀, p₀) :: ps ++ [(tf, pf)]))
    (h : w.incoming = peerFrames (pongFrames ((t₀, p₀) :: ps ++ [(tf, pf)])) ++ rest) :
    ∃ ls w' kept fs, uploadPhase cfg w = readComplete ls cfg.size (tf - w.clock) w' ∧
      w'.wire = w.wire ++ writeMessages fs ∧
      DataDrops (uploadFrames cfg.size (randomBytes w.random chunkSize)) kept ∧
      List.Forall₂ UploadFrame.Matches kept fs ∧
      (¬ cfg.chaos.packetLossPercent > 0 → kept = uploadFrames cfg.size (randomBytes w.random chunkSize)) ∧
      w'.incoming = rest ∧ w'.clock = tf ∧ w'.deadline = some (lastArrival t₀ ps + latencyPingTimeout) := by
  obtain ⟨⟨ht₀, ht₀', hps⟩, htf, htf', -⟩ := prompt_append.1 hpr
  simp only [uploadPhase, bind, EStateM.bind, timeNow, randRead]
  -- the chaos writer, if enabled, has the config's rates and no token bucket
  split
  on_goal 1 =>
    simp only [EStateM.bind, Functor.map, EStateM.map, newChaosWriter_of_nonpos hbw]
    generalize hc : (some ⟨cfg.chaos, none, .zero⟩ : Option ChaosWriter) = chaos
    have hlo : LossOnly cfg.chaos chaos := by rw [← hc]; rintro _ ⟨⟩; exact ⟨rfl, rfl⟩
  on_goal 2 =>
    simp only [EStateM.bind, pure, EStateM.pure]
    generalize hc : (none : Option ChaosWriter) = chaos
    have hlo : LossOnly cfg.chaos chaos := by rw [← hc]; exact fun _ h => nomatch h
  all_goals
    rw [@measureLatency_pong w 0 t₀ p₀ (peerFrames (pongFrames (ps ++ [(tf, pf)])) ++ rest) hcap ht₀ ht₀'
      (by rw [h]; simp [pongFrames, writeMessage, List.append_assoc])]
    obtain ⟨ls, chaos₂, w₂, kept, fs, hrun, -, hcap₂, hwire, hd, hfs, hall, hinc, hclock⟩ :=
      @uploadLoop_frames cfg.chaos hlj cfg.size (randomBytes w.random chunkSize) (chunkCount cfg.size) 0
      cfg.size.val.toNat ⟨0, 0, recordLatency [] (.ok (((t₀ - w.clock : Int) : ℚ) / 1000000)), chaos⟩
      { w with sent := w.sent ++ frameWrites w.clock msgPing (.ping ⟨0, Int64.ofInt w.clock⟩),
               deadline := some (w.clock + latencyPingTimeout),
               incoming := peerFrames (pongFrames (ps ++ [(tf, pf)])) ++ rest, clock := t₀ }
      ps (peerFrames (pongFrames [(tf, pf)]) ++ rest) (by omega) (chunkCount_le _) hlo
      (by simp only [Int64.val_zero, zero_mul, Nat.cast_zero]; omega) rfl hcap hcan hlen hps
      (by simp only [pongFrames, List.map_append, peerFrames_append, List.append_assoc])
    dsimp only
    rw [hrun]
    simp only [EStateM.bind]
    rw [@measureLatency_pong w₂ _ tf pf rest hcap₂ (by rw [hclock]; exact htf) (by rw [hclock]; exact htf')
      (by rw [hinc]; simp [pongFrames, writeMessage])]
    dsimp only
    simp only [writeMessageConn_eq, hcap₂]
    refine ⟨_, _, .ping 0 :: (kept ++ [.ping (UInt32.ofNat (chunkCount cfg.size + 1)), .complete cfg.size]),
      (msgPing, .ping ⟨0, Int64.ofInt w.clock⟩) :: (fs ++
      [(msgPing, .ping ⟨UInt32.ofNat (0 + chunkCount cfg.size) + 1, Int64.ofInt w₂.clock⟩),
       (msgComplete, .complete ⟨cfg.size, Int64.ofInt (tf - w.clock)⟩)]), rfl, ?_,
      .keep (hd.append (.refl _)), ?_, fun hl => by rw [uploadFrames, hall hl], rfl, rfl, ?_⟩
    · simp only [World.wire, List.map_append, List.flatten_append, flatten_frameWrites] at hwire ⊢
      rw [hwire]
      simp [writeMessages_append, writeMessages, writeMessage, frame, List.append_assoc]
    · exact .cons ⟨rfl, _, rfl⟩ (List.rel_append hfs
        (.cons ⟨rfl, _, by rw [Nat.zero_add, ofNat_add_one]⟩ (.cons ⟨rfl, _, rfl⟩ .nil)))
    · simp only [hclock]

/-- An upload whose chaos, if enabled, only drops writes (no latency, jitter or
bandwidth limit), over a connection that takes every write, against a peer that answers
every `Ping` within five seconds and sends `Complete` before the deadline of the final
probe: `runUpload` succeeds, reports `Size`
bytes transferred whatever it dropped, and has written `uploadFrames` (`Ping 0`, every
chunk in order with a `Ping` after every tenth, the final `Ping` and `Complete`) with
some `Data` frames left out, and with none left out when no loss rate is set. -/
theorem runUpload_sends_frames {cfg : Config} {r : Result} {w : World} {t₀ tf tc : Int}
    {p₀ pf : PongMessage} {ps : List (Int × PongMessage)} {c : CompleteMessage} {rest : List Arrival}
    (hlj : ¬ (cfg.chaos.latency > 0 ∨ cfg.chaos.jitter > 0)) (hbw : ¬ cfg.chaos.bandwidthBps > 0)
    (hsize : 0 ≤ cfg.size.val) (hcap : w.capacity = none) (hcan : ∀ j, w.cancelled j = false)
    (hlen : ps.length = loopPings 0 (chunkCount cfg.size))
    (hpr : Prompt w.clock ((t₀, p₀) :: ps ++ [(tf, pf)]))
    (htc : tc < lastArrival t₀ ps + latencyPingTimeout)
    (h : w.incoming = peerFrames (pongFrames ((t₀, p₀) :: ps ++ [(tf, pf)]) ++
      [(tc, msgComplete, .complete c)]) ++ rest) :
    ∃ r' w' kept fs, runUpload cfg r w = .ok (.ok r') w' ∧ r'.transferredSize = cfg.size ∧
      w'.wire = w.wire ++ writeMessages fs ∧
      DataDrops (uploadFrames cfg.size (randomBytes w.random chunkSize)) kept ∧
      List.Forall₂ UploadFrame.Matches kept fs ∧
      (¬ cfg.chaos.packetLossPercent > 0 → kept = uploadFrames cfg.size (randomBytes w.random chunkSize)) := by
  obtain ⟨ls, w', kept, fs, hrun, hwire, hd, hfs, hall, hinc, hclock, hdl⟩ :=
    @uploadPhase_prompt cfg w t₀ tf p₀ pf ps (peerFrames [(tc, msgComplete, .complete c)] ++ rest)
      hlj hbw hsize hcap hcan hlen hpr (by rw [h, peerFrames_append, List.append_assoc])
  have htf := (prompt_append.1 hpr).2.2.1
  have hread := @readMessage_conn w' tc msgComplete (Message.complete c).encode rest
    (by simp only [World.expired, hdl, hclock, decide_eq_false_iff_not, not_le]; exact htf)
    (by simp only [World.beforeDeadline, hdl, decide_eq_true_eq]; exact htc)
    (by rw [hinc]; simp) (by simp [Message.encode, CompleteMessage.encode])
  obtain ⟨lo, hi, avg, hst⟩ := calculateLatencyStats_eq ls
    { r with transferredSize := cfg.size, durationMs := milliseconds (tf - w.clock) }
  refine ⟨calculateLatencyStats ls
    { r with transferredSize := cfg.size, durationMs := milliseconds (tf - w.clock) },
    { w' with incoming := rest, clock := max w'.clock tc }, kept, fs, ?_, by rw [hst], hwire, hd, hfs, hall⟩
  simp only [runUpload_eq, hrun, readComplete, bind, EStateM.bind, attempt, hread, ne_eq, not_true_eq_false,
    if_false, Message.encode, decodeFrom_complete]
  rfl

/-- An upload of one byte with a 0.1% loss rate, against a peer that answers both pings
within a second and sends `Complete` a second later. -/
theorem runUpload_sends_frames_one_byte :
    let cfg : Config := ⟨ascii "peer", 1, directionUpload, 0, 0, ⟨1 / 10, 0, 0, 0⟩⟩
    let w := World.start (peerFrames (pongFrames ((second, ⟨0, 0⟩) :: [] ++ [(2 * second, ⟨2, 0⟩)]) ++
      [(3 * second, msgComplete, .complete ⟨1, 0⟩)]))
    ∃ r' w' kept fs, runUpload cfg (Result.initial (ascii "local") cfg 0) w = .ok (.ok r') w' ∧
      r'.transferredSize = cfg.size ∧ w'.wire = w.wire ++ writeMessages fs ∧
      DataDrops (uploadFrames cfg.size (randomBytes w.random chunkSize)) kept ∧
      List.Forall₂ UploadFrame.Matches kept fs ∧
      (¬ cfg.chaos.packetLossPercent > 0 → kept = uploadFrames cfg.size (randomBytes w.random chunkSize)) :=
  @runUpload_sends_frames _ _ _ second (2 * second) (3 * second) ⟨0, 0⟩ ⟨2, 0⟩ [] ⟨1, 0⟩ []
    (by decide) (by decide) (by decide) rfl (fun _ => rfl) (by decide)
    (by simp [Prompt, World.start, second, latencyPingTimeout]) (by decide) rfl

/-- The same upload, against a peer whose `Complete` arrives five seconds or more
after the final `Ping` was sent: every chunk has been handed to the connection, the
frames on the wire are those of a successful upload, but the read of `Complete` still
runs under that probe's deadline and times out. -/
theorem runUpload_late_complete {cfg : Config} {r : Result} {w : World} {t₀ tf tc : Int}
    {p₀ pf : PongMessage} {ps : List (Int × PongMessage)} {c : CompleteMessage} {rest : List Arrival}
    (hlj : ¬ (cfg.chaos.latency > 0 ∨ cfg.chaos.jitter > 0)) (hbw : ¬ cfg.chaos.bandwidthBps > 0)
    (hsize : 0 ≤ cfg.size.val) (hcap : w.capacity = none) (hcan : ∀ j, w.cancelled j = false)
    (hlen : ps.length = loopPings 0 (chunkCount cfg.size))
    (hpr : Prompt w.clock ((t₀, p₀) :: ps ++ [(tf, pf)]))
    (htc : lastArrival t₀ ps + latencyPingTimeout ≤ tc)
    (h : w.incoming = peerFrames (pongFrames ((t₀, p₀) :: ps ++ [(tf, pf)]) ++
      [(tc, msgComplete, .complete c)]) ++ rest) :
    ∃ w' kept fs, runUpload cfg r w = .ok (.error (.readServerComplete .timeout)) w' ∧
      w'.wire = w.wire ++ writeMessages fs ∧
      DataDrops (uploadFrames cfg.size (randomBytes w.random chunkSize)) kept ∧
      List.Forall₂ UploadFrame.Matches kept fs ∧
      (¬ cfg.chaos.packetLossPercent > 0 → kept = uploadFrames cfg.size (randomBytes w.random chunkSize)) := by
  obtain ⟨ls, w', kept, fs, hrun, hwire, hd, hfs, hall, hinc, hclock, hdl⟩ :=
    @uploadPhase_prompt cfg w t₀ tf p₀ pf ps (peerFrames [(tc, msgComplete, .complete c)] ++ rest)
      hlj hbw hsize hcap hcan hlen hpr (by rw [h, peerFrames_append, List.append_assoc])
  have htf := (prompt_append.1 hpr).2.2.1
  have hread := @readMessage_conn_late w' _ tc msgComplete _ hdl (by rw [hclock]; exact htf) htc
    (by rw [hinc]; simp [frame, arriving]; rfl)
  refine ⟨{ w' with clock := lastArrival t₀ ps + latencyPingTimeout }, kept, fs, ?_, hwire, hd, hfs, hall⟩
  simp only [runUpload_eq, hrun, readComplete, bind, EStateM.bind, attempt, hread]
  rfl

/-- The same upload of one byte with a 0.1% loss rate, with the peer's `Complete` seven
seconds after the first `Pong`. -/
theorem runUpload_late_complete_one_byte :
    let cfg : Config := ⟨ascii "peer", 1, directionUpload, 0, 0, ⟨1 / 10, 0, 0, 0⟩⟩
    let w := World.start (peerFrames (pongFrames ((second, ⟨0, 0⟩) :: [] ++ [(2 * second, ⟨2, 0⟩)]) ++
      [(8 * second, msgComplete, .complete ⟨1, 0⟩)]))
    ∃ w' kept fs, runUpload cfg (Result.initial (ascii "local") cfg 0) w =
        .ok (.error (.readServerComplete .timeout)) w' ∧
      w'.wire = w.wire ++ writeMessages fs ∧
      DataDrops (uploadFrames cfg.size (randomBytes w.random chunkSize)) kept ∧
      List.Forall₂ UploadFrame.Matches kept fs ∧
      (¬ cfg.chaos.packetLossPercent > 0 → kept = uploadFrames cfg.size (randomBytes w.random chunkSize)) :=
  @runUpload_late_complete _ _ _ second (2 * second) (8 * second) ⟨0, 0⟩ ⟨2, 0⟩ [] ⟨1, 0⟩ []
    (by decide) (by decide) (by decide) rfl (fun _ => rfl) (by decide)
    (by simp [Prompt, World.start, second, latencyPingTimeout]) (by decide) rfl

end TunnelMesh.Benchmark
