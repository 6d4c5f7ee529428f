-- SUMMARY: What a download counts: the download loop adds up every Data frame it reads, so Run reports Size when the Pong comes first, but the probe swallows the first frame, so a Pong placed after Data leaves a successful Run short of the requested size.
import TunnelMesh.Benchmark.Client

/-!
# Download

The download loop reads frames until `Complete` and adds up the bytes of the
`Data` frames (`downloadLoop_frames`). Before the loop, `runDownload` probes
the latency, and the probe reads the next frame whatever its type.

When the peer's `Pong` is its first frame after the `Ack`, the probe takes it,
and a successful `Run` reports every byte of data: exactly `Size` when the
`Data` frames carry `Size` bytes (`run_download_transfers_size`). Each read of
the loop has its own thirty-second deadline, so a frame has to come within
thirty seconds of the read before it (`ArriveInTime`), not of the start. When the
`Pong` comes after the first `Data` frame, the probe takes that frame and drops
it; the loop skips the `Pong` when it comes. `Run` still succeeds, and reports
only the other frames' bytes (`run_download_drops_first_frame`).
-/

namespace TunnelMesh.Benchmark

/-- A frame the download loop reads and goes past: `Data` carrying a data
message, or a frame of another type than `Data` and `Complete`. -/
def LoopFrame : MessageType × Message → Prop
  | (mt, m) => m.encode.length < 2 ^ 32 ∧
      (mt = msgData ∧ (∃ d, m = .data d) ∨ mt ≠ msgData ∧ mt ≠ msgComplete)

/-- The frames `fs`, and then a `Complete` at `tc`, each arrive within thirty
seconds of the read before them: every pass of the loop sets its read deadline
`readTimeout` after `now`, the time at which the previous read returned, which is
the later of the clock and that frame's arrival. -/
def ArriveInTime : Int → List (Int × MessageType × Message) → Int → Prop
  | now, [], tc => tc < now + readTimeout
  | now, (t, _) :: fs, tc => t < now + readTimeout ∧ ArriveInTime (max now t) fs tc

instance ArriveInTime.decidable : ∀ now fs tc, Decidable (ArriveInTime now fs tc)
  | now, [], tc => inferInstanceAs (Decidable (tc < now + readTimeout))
  | now, (t, _) :: fs, tc =>
    have := ArriveInTime.decidable (max now t) fs tc
    inferInstanceAs (Decidable (t < now + readTimeout ∧ ArriveInTime (max now t) fs tc))

/-- `received` after the frames `fs`, from `recv`. -/
def received (recv : Int64) : List (Int × MessageType × Message) → Int64
  | [] => recv
  | (_, mt, .data d) :: fs => received (if mt = msgData then recv + Int64.ofInt d.data.length else recv) fs
  | _ :: fs => received recv fs

/-- The payload bytes of the `Data` frames among `fs`. -/
def dataBytes : List (Int × MessageType × Message) → Nat
  | [] => 0
  | (_, mt, .data d) :: fs => (if mt = msgData then d.data.length else 0) + dataBytes fs
  | _ :: fs => dataBytes fs

/-- While the count stays in the `int64` range, `received` adds up the payload
bytes of the `Data` frames. -/
theorem received_val {recv : Int64} {fs : List (Int × MessageType × Message)} (h0 : 0 ≤ recv.val)
    (h : recv.val + dataBytes fs < 2 ^ 63) : (received recv fs).val = recv.val + dataBytes fs := by
  induction fs generalizing recv with
  | nil => simp [received, dataBytes]
  | cons f fs ih =>
    obtain ⟨t, mt, m⟩ := f
    cases m with
    | data d =>
      by_cases hd : mt = msgData
      · simp only [received, dataBytes, hd, if_true, Nat.cast_add] at h ⊢
        have hv := Int64.val_add_ofInt_natCast h0 (show recv.val + d.data.length < 2 ^ 63 by omega)
        rw [ih (by omega) (by omega), hv]
        ring
      · simp only [received, dataBytes, hd, if_false, zero_add] at h ⊢
        exact ih h0 h
    | _ => simp only [received, dataBytes] at h ⊢; exact ih h0 h

/-- The download loop, over frames that it goes past and then a `Complete`, each
arriving within thirty seconds of the read before it: it returns the bytes of
every `Data` frame among them. -/
theorem downloadLoop_frames {st : Int} {ls : List ℚ} {r : Result} {tc : Int} {c : CompleteMessage}
    {rest : List Arrival} (fs : List (Int × MessageType × Message)) (recv : Int64) (fuel : Nat)
    (w : World) (hc : ∀ i, w.cancelled i = false) (hfs : ∀ f ∈ fs, LoopFrame f.2)
    (hin : ArriveInTime w.clock fs tc) (hfuel : fs.length < fuel)
    (h : w.incoming = peerFrames fs ++ arriving tc (writeMessage msgComplete (.complete c)) ++ rest) :
    ∃ w', downloadLoop st ls r fuel recv w = .ok (.ok (calculateLatencyStats ls
      { r with transferredSize := received recv fs, durationMs := milliseconds (w'.clock - st) })) w' := by
  obtain ⟨k, rfl⟩ : ∃ k, fuel = k + 1 := ⟨fuel - 1, by omega⟩
  induction fs generalizing recv k w with
  | nil =>
    rw [downloadLoop_frame (hc _) hin h (by simp [Message.encode, CompleteMessage.encode])]
    rw [if_neg (by decide), if_pos rfl]
    simp only [Message.encode, decodeFrom_complete, received]
    exact ⟨{ w with
      checks := w.checks + 1, deadline := some (w.clock + readTimeout), incoming := rest,
      clock := max w.clock tc }, rfl⟩
  | cons f fs ih =>
    obtain ⟨t, mt, m⟩ := f
    obtain ⟨hm, hkind⟩ := hfs _ (List.mem_cons_self _ _)
    have hfs' : ∀ f ∈ fs, LoopFrame f.2 := fun f hf => hfs f (List.mem_cons_of_mem _ hf)
    obtain ⟨ht, hin'⟩ := hin
    rw [List.length_cons] at hfuel
    obtain ⟨k, rfl⟩ : ∃ j, k = j + 1 := ⟨k - 1, by omega⟩
    have hfuel' : fs.length < k + 1 := by omega
    rw [downloadLoop_frame (hc _) ht (by rw [h, peerFrames_cons, List.append_assoc,
      List.append_assoc]) hm]
    rcases hkind with ⟨rfl, d, rfl⟩ | ⟨hd, hcpl⟩
    · have hdl : d.data.length < 2 ^ 32 := by
        simp [Message.encode, DataMessage.encode] at hm; omega
      rw [if_pos rfl]
      simp only [Message.encode, decodeFrom_data hdl]
      exact ih _ _ (by exact hc) hfs' hin' (by simp [h, List.append_assoc]) _ hfuel'
    · have hr : received recv ((t, mt, m) :: fs) = received recv fs := by
        cases m <;> simp [received, hd]
      rw [if_neg hd, if_neg hcpl, hr]
      exact ih _ _ (by exact hc) hfs' hin' (by simp [h, List.append_assoc]) _ hfuel'

/-- `runDownload` when the peer's first frame after the `Ack` is `Data`: the
probe takes it, and the loop counts only the frames after it. -/
theorem runDownload_first_data {r : Result} {w : World} {t₁ tc : Int} {d₁ : DataMessage}
    {c : CompleteMessage} {fs : List (Int × MessageType × Message)} {rest : List Arrival}
    (hcap : w.capacity = none) (hcan : ∀ i, w.cancelled i = false)
    (hd₁ : (Message.data d₁).encode.length < 2 ^ 32) (ht₁ : t₁ < w.clock + latencyPingTimeout)
    (hfs : ∀ f ∈ fs, LoopFrame f.2) (hin : ArriveInTime (max w.clock t₁) fs tc)
    (h : w.incoming = peerFrames ((t₁, msgData, .data d₁) :: fs) ++
      arriving tc (writeMessage msgComplete (.complete c)) ++ rest) :
    ∃ w', runDownload r w = .ok (.ok
      { r with transferredSize := received 0 fs, durationMs := milliseconds (w'.clock - w.clock) }) w' := by
  have hm := @measureLatency_frame w 0 t₁ msgData (Message.data d₁).encode
    (peerFrames fs ++ arriving tc (writeMessage msgComplete (.complete c)) ++ rest) hcap ht₁
    (by simp [h, List.append_assoc]) hd₁
  obtain ⟨w', hw'⟩ := @downloadLoop_frames w.clock [] r tc c rest fs 0
    ((peerFrames fs ++ arriving tc (writeMessage msgComplete (.complete c)) ++ rest).length + 1)
    { w with
      sent := w.sent ++ frameWrites w.clock msgPing (.ping ⟨0, Int64.ofInt w.clock⟩)
      deadline := some (w.clock + latencyPingTimeout)
      incoming := peerFrames fs ++ arriving tc (writeMessage msgComplete (.complete c)) ++ rest
      clock := max w.clock t₁ } hcan hfs hin
    (by have := length_le_peerFrames fs; simp only [List.length_append]; omega) rfl
  refine ⟨w', ?_⟩
  simp only [runDownload, bind, EStateM.bind, timeNow, hm, if_pos (show msgData ≠ msgPong by decide),
    recordLatency, get, getThe, MonadStateOf.get, EStateM.get, hw', calculateLatencyStats_nil]

/-- `runDownload` when the peer's first frame after the `Ack` is its `Pong`: the
probe takes the `Pong`, and the loop counts every frame after it. -/
theorem runDownload_first_pong {r : Result} {w : World} {t₀ tc : Int} {p₀ : PongMessage}
    {c : CompleteMessage} {fs : List (Int × MessageType × Message)} {rest : List Arrival}
    (hcap : w.capacity = none) (hcan : ∀ i, w.cancelled i = false)
    (ht₀ : t₀ < w.clock + latencyPingTimeout)
    (hfs : ∀ f ∈ fs, LoopFrame f.2) (hin : ArriveInTime (max w.clock t₀) fs tc)
    (h : w.incoming = peerFrames ((t₀, msgPong, .pong p₀) :: fs) ++
      arriving tc (writeMessage msgComplete (.complete c)) ++ rest) :
    ∃ ls w', runDownload r w = .ok (.ok (calculateLatencyStats ls
      { r with transferredSize := received 0 fs, durationMs := milliseconds (w'.clock - w.clock) })) w' := by
  have hm := @measureLatency_frame w 0 t₀ msgPong (Message.pong p₀).encode
    (peerFrames fs ++ arriving tc (writeMessage msgComplete (.complete c)) ++ rest) hcap ht₀
    (by simp [h, List.append_assoc]) (by simp [Message.encode, PongMessage.encode])
  rw [if_neg (not_not_intro rfl), Message.encode, decodeFrom_pong] at hm
  obtain ⟨w', hw'⟩ := @downloadLoop_frames w.clock
    (recordLatency [] (.ok (((max w.clock t₀ - w.clock : Int) : ℚ) / 1000000))) r tc c rest fs 0
    ((peerFrames fs ++ arriving tc (writeMessage msgComplete (.complete c)) ++ rest).length + 1)
    { w with
      sent := w.sent ++ frameWrites w.clock msgPing (.ping ⟨0, Int64.ofInt w.clock⟩)
      deadline := some (w.clock + latencyPingTimeout)
      incoming := peerFrames fs ++ arriving tc (writeMessage msgComplete (.complete c)) ++ rest
      clock := max w.clock t₀ } hcan hfs hin
    (by have := length_le_peerFrames fs; simp only [List.length_append]; omega) rfl
  refine ⟨recordLatency [] (.ok (((max w.clock t₀ - w.clock : Int) : ℚ) / 1000000)), w', ?_⟩
  simp only [runDownload, bind, EStateM.bind, timeNow, hm, get, getThe, MonadStateOf.get, EStateM.get, hw']

/-- A download that `Run` accepts, against a peer that sends `Ack`, then its
`Pong`, then frames the loop goes past, then `Complete`, over a connection that
takes every write: when the `Pong` comes within five seconds of the `Ping` and
each later frame within thirty seconds of the read before it, `Run` succeeds and
reports the bytes of every `Data` frame. -/
theorem run_download_counts_every_frame (lp : Bytes) (cfg : Config) (w : World)
    {ta t₀ tc : Int} {e : Bytes} {p₀ : PongMessage} {c : CompleteMessage}
    {fs : List (Int × MessageType × Message)} {rest : List Arrival}
    (hv : cfg.withDefaults.validate = none) (hdir : cfg.withDefaults.direction = directionDownload)
    (hcap : w.capacity = none) (hdl : w.deadline = none) (hcan : ∀ i, w.cancelled i = false)
    (hta : w.clock ≤ ta) (he : e.length < 2 ^ 16) (ht₀ : t₀ < ta + latencyPingTimeout)
    (hfs : ∀ f ∈ fs, LoopFrame f.2) (hin : ArriveInTime (max ta t₀) fs tc)
    (h : w.incoming = peerFrames ((ta, msgAck, .ack ⟨true, e⟩) :: (t₀, msgPong, .pong p₀) :: fs) ++
      arriving tc (writeMessage msgComplete (.complete c)) ++ rest) :
    ∃ r w', run lp cfg w = .ok (some r, none) w' ∧
      r.success = true ∧ r.requestedSize = cfg.size ∧ r.transferredSize = received 0 fs := by
  obtain ⟨ls, w', hw'⟩ := @runDownload_first_pong (Result.initial lp cfg.withDefaults w.clock)
    { w with
      sent := w.sent ++ frameWrites w.clock msgStart (.start ⟨cfg.withDefaults.size, cfg.withDefaults.direction⟩)
      incoming := peerFrames ((t₀, msgPong, .pong p₀) :: fs) ++
        arriving tc (writeMessage msgComplete (.complete c)) ++ rest
      clock := ta } t₀ tc p₀ c fs rest hcap hcan ht₀ hfs hin rfl
  rw [@run_of_ack lp cfg w ta e (peerFrames ((t₀, msgPong, .pong p₀) :: fs) ++
      arriving tc (writeMessage msgComplete (.complete c)) ++ rest) hv hcap hdl hta he
      (by simp only [h, peerFrames_cons, writeMessage, List.append_assoc]),
    if_neg (by rw [hdir]; decide), if_pos hdir]
  simp only [bind, EStateM.bind, hw']
  obtain ⟨lo, hi, avg, hl⟩ := calculateLatencyStats_eq ls
    { Result.initial lp cfg.withDefaults w.clock with
      transferredSize := received 0 fs, durationMs := milliseconds (w'.clock - ta) }
  rw [hl]
  obtain ⟨bps, mbps, hr⟩ := Result.calculateThroughput_eq
    { Result.initial lp cfg.withDefaults w.clock with
      transferredSize := received 0 fs, durationMs := milliseconds (w'.clock - ta),
      latencyMinMs := lo, latencyMaxMs := hi, latencyAvgMs := avg, success := true }
  exact ⟨_, _, rfl, by rw [hr]; exact ⟨rfl, Config.withDefaults_size cfg, rfl⟩⟩

/-- A download that `Run` accepts, against a peer that answers the `Ping` before
its first `Data` frame and sends `Size` bytes of data in all, each frame in time
for its read: `Run` succeeds and reports exactly the size it asked for. -/
theorem run_download_transfers_size (lp : Bytes) (cfg : Config) (w : World)
    {ta t₀ tc : Int} {e : Bytes} {p₀ : PongMessage} {c : CompleteMessage}
    {fs : List (Int × MessageType × Message)} {rest : List Arrival}
    (hv : cfg.withDefaults.validate = none) (hdir : cfg.withDefaults.direction = directionDownload)
    (hcap : w.capacity = none) (hdl : w.deadline = none) (hcan : ∀ i, w.cancelled i = false)
    (hta : w.clock ≤ ta) (he : e.length < 2 ^ 16) (ht₀ : t₀ < ta + latencyPingTimeout)
    (hfs : ∀ f ∈ fs, LoopFrame f.2) (hin : ArriveInTime (max ta t₀) fs tc)
    (hsum : (dataBytes fs : Int) = cfg.size.val)
    (h : w.incoming = peerFrames ((ta, msgAck, .ack ⟨true, e⟩) :: (t₀, msgPong, .pong p₀) :: fs) ++
      arriving tc (writeMessage msgComplete (.complete c)) ++ rest) :
    ∃ r w', run lp cfg w = .ok (some r, none) w' ∧ r.success = true ∧ r.transferredSize = r.requestedSize := by
  obtain ⟨r, w', hrun, hs, hq, ht⟩ :=
    run_download_counts_every_frame lp cfg w hv hdir hcap hdl hcan hta he ht₀ hfs hin h
  have hr : (received 0 fs).val = cfg.size.val := by
    rw [received_val le_rfl (by simpa [hsum] using cfg.size.hi)]
    simpa using hsum
  exact ⟨r, w', hrun, hs, by rw [ht, hq]; exact Int64.ext hr⟩

/-- A download of one byte whose peer answers the `Ping` before its `Data` frame. -/
theorem run_download_transfers_size_one_byte :
    ∃ r w, run (ascii "local") ⟨ascii "peer", 1, directionDownload, 0, 0, ⟨0, 0, 0, 0⟩⟩
        (World.start (peerFrames [(1, msgAck, .ack ⟨true, []⟩), (2, msgPong, .pong ⟨0, 1⟩),
          (3, msgData, .data ⟨0, [0]⟩)] ++ arriving 4 (writeMessage msgComplete (.complete ⟨1, 3⟩)) ++
          [])) = .ok (some r, none) w ∧
      r.success = true ∧ r.transferredSize = r.requestedSize :=
  @run_download_transfers_size (ascii "local") ⟨ascii "peer", 1, directionDownload, 0, 0, ⟨0, 0, 0, 0⟩⟩
    (World.start (peerFrames [(1, msgAck, .ack ⟨true, []⟩), (2, msgPong, .pong ⟨0, 1⟩),
      (3, msgData, .data ⟨0, [0]⟩)] ++ arriving 4 (writeMessage msgComplete (.complete ⟨1, 3⟩)) ++ []))
    1 2 4 [] ⟨0, 1⟩ ⟨1, 3⟩ [(3, msgData, .data ⟨0, [0]⟩)] [] (by decide) (by decide) rfl rfl (fun _ => rfl)
    (by decide) (by decide) (by decide)
    (by simp only [List.mem_singleton, forall_eq]; exact ⟨by decide, .inl ⟨rfl, _, rfl⟩⟩)
    (by decide) (by decide) rfl

/-- A download that `Run` accepts, against a peer that sends `Ack`, then a
`Data` frame, then frames the loop goes past (the `Pong` among them), then
`Complete`, each in time for its read, over a connection that takes every write:
`Run` succeeds, and reports the bytes of every `Data` frame but the first. -/
theorem run_download_drops_first_frame (lp : Bytes) (cfg : Config) (w : World)
    {ta t₁ tc : Int} {e : Bytes} {d₁ : DataMessage} {c : CompleteMessage}
    {fs : List (Int × MessageType × Message)} {rest : List Arrival}
    (hv : cfg.withDefaults.validate = none) (hdir : cfg.withDefaults.direction = directionDownload)
    (hcap : w.capacity = none) (hdl : w.deadline = none) (hcan : ∀ i, w.cancelled i = false)
    (hta : w.clock ≤ ta) (he : e.length < 2 ^ 16) (hd₁ : (Message.data d₁).encode.length < 2 ^ 32)
    (ht₁ : t₁ < ta + latencyPingTimeout) (hfs : ∀ f ∈ fs, LoopFrame f.2)
    (hin : ArriveInTime (max ta t₁) fs tc)
    (h : w.incoming = peerFrames ((ta, msgAck, .ack ⟨true, e⟩) :: (t₁, msgData, .data d₁) :: fs) ++
      arriving tc (writeMessage msgComplete (.complete c)) ++ rest) :
    ∃ r w', run lp cfg w = .ok (some r, none) w' ∧
      r.success = true ∧ r.requestedSize = cfg.size ∧ r.transferredSize = received 0 fs := by
  obtain ⟨w', hw'⟩ := @runDownload_first_data (Result.initial lp cfg.withDefaults w.clock)
    { w with
      sent := w.sent ++ frameWrites w.clock msgStart (.start ⟨cfg.withDefaults.size, cfg.withDefaults.direction⟩)
      incoming := peerFrames ((t₁, msgData, .data d₁) :: fs) ++
        arriving tc (writeMessage msgComplete (.complete c)) ++ rest
      clock := ta } t₁ tc d₁ c fs rest hcap hcan hd₁ ht₁ hfs hin rfl
  rw [@run_of_ack lp cfg w ta e (peerFrames ((t₁, msgData, .data d₁) :: fs) ++
      arriving tc (writeMessage msgComplete (.complete c)) ++ rest) hv hcap hdl hta he
      (by simp only [h, peerFrames_cons, writeMessage, List.append_assoc]),
    if_neg (by rw [hdir]; decide), if_pos hdir]
  simp only [bind, EStateM.bind, hw']
  obtain ⟨bps, mbps, hr⟩ := Result.calculateThroughput_eq
    { Result.initial lp cfg.withDefaults w.clock with
      transferredSize := received 0 fs, durationMs := milliseconds (w'.clock - ta), success := true }
  exact ⟨_, _, rfl, by rw [hr]; exact ⟨rfl, Config.withDefaults_size cfg, rfl⟩⟩

/-- A download of one byte. The peer sends `Ack`, its one `Data` frame, the
`Pong` to the client's `Ping`, and `Complete`. `Run` succeeds and reports no
byte transferred. -/
theorem run_download_pong_after_data :
    ∃ r w, run (ascii "local") ⟨ascii "peer", 1, directionDownload, 0, 0, ⟨0, 0, 0, 0⟩⟩
        (World.start (peerFrames [(1, msgAck, .ack ⟨true, []⟩), (2, msgData, .data ⟨0, [0]⟩),
          (3, msgPong, .pong ⟨0, 1⟩), (4, msgComplete, .complete ⟨1, 3⟩)])) = .ok (some r, none) w ∧
      r.success = true ∧ r.requestedSize = 1 ∧ r.transferredSize = 0 := by
  obtain ⟨r, w, h, hs, hq, ht⟩ := @run_download_drops_first_frame (ascii "local")
    ⟨ascii "peer", 1, directionDownload, 0, 0, ⟨0, 0, 0, 0⟩⟩
    (World.start (peerFrames [(1, msgAck, .ack ⟨true, []⟩), (2, msgData, .data ⟨0, [0]⟩),
      (3, msgPong, .pong ⟨0, 1⟩), (4, msgComplete, .complete ⟨1, 3⟩)]))
    1 2 4 [] ⟨0, [0]⟩ ⟨1, 3⟩ [(3, msgPong, .pong ⟨0, 1⟩)] [] (by decide) rfl rfl rfl (fun _ => rfl)
    (by decide) (by decide) (by decide) (by decide)
    (by simp only [List.mem_singleton, forall_eq]; exact ⟨by decide, .inr ⟨by decide, by decide⟩⟩)
    (by decide) rfl
  exact ⟨r, w, h, hs, hq, ht⟩

end TunnelMesh.Benchmark
