-- SUMMARY: The client's only panic is the chaos writer's jitter draw: with Jitter below 2^62, Run never panics for any config, peer stream, timing, cancellation, random source or connection; it returns, or waits for ever on a silent peer or a write the connection never takes.
import TunnelMesh.Benchmark.Client
import TunnelMesh.Chaos.Channel

/-!
# The client panics only on a wrapped jitter

The one panic in the modelled client is `rng.Int63n` with a non-positive
argument, which only the chaos writer's jitter draw `Int63n(2 * Jitter)` can
reach, and only when `2 * Jitter` wraps (`ChaosWriter.delay_panic_of_le`).
Every other step either returns or waits for ever: reads report their errors as
values but wait for ever on a peer that keeps the connection open and silent
with no read deadline set, and writes report a reset but wait for ever on a
connection that stops taking bytes. Clock reads, random draws and context
checks always return. With a jitter below `2^62`, chaos enabled or not, `Run`
therefore never panics (`run_never_panics`), whatever the rest of the config,
the peer's frames and their timing, the connection, the context's cancellation
and the random sources. Both ways of not returning are real
(`run_blocks_of_silent`, `run_blocks_of_full`).

The proofs follow the code: each function is taken apart with `NoPanic.bind`
along its `do` block, and each loop by induction on its fuel, carrying what
the next pass needs (the upload loop's chaos writer, if any, keeps its
config, so its jitter stays in range).
-/

namespace TunnelMesh.Benchmark

/-! ## The client -/

theorem noPanic_newChaosWriter (cfg : ChaosConfig) :
    NoPanic (fun c : ChaosWriter => c.cfg = cfg) (newChaosWriter cfg) :=
  .bind noPanic_timeNow fun _ _ => .pure rfl

theorem noPanic_writeMessageConn (t : MessageType) (m : Message) :
    NoPanic (fun _ => True) (writeMessageConn t m) := by
  unfold writeMessageConn
  refine .bind (noPanic_connWrite _) fun ⟨_, e⟩ _ => ?_
  rcases e with _ | e
  · refine .bind (noPanic_connWrite _) fun ⟨_, e⟩ _ => ?_
    rcases e with _ | e
    · exact .bind (noPanic_connWrite _) fun ⟨_, _⟩ _ => .pure trivial
    · exact .pure trivial
  · exact .pure trivial

theorem noPanic_measureLatency (seq : UInt32) : NoPanic (fun _ => True) (measureLatency seq) := by
  unfold measureLatency
  refine .bind noPanic_timeNow fun _ _ => .bind (noPanic_writeMessageConn _ _) fun e _ => ?_
  rcases e with _ | e
  · refine .bind noPanic_timeNow fun _ _ => .bind (noPanic_setReadDeadline _) fun _ _ =>
      .bind (noPanic_attempt _) fun r _ => ?_
    rcases r with e | ⟨mt, data⟩
    · exact .pure trivial
    · dsimp only
      split_ifs
      · exact .pure trivial
      · split
        · exact .pure trivial
        · exact .bind noPanic_timeNow fun _ _ => .pure trivial
  · exact .pure trivial

/-- The upload's chaos writer, if any, draws its jitter without a panic. -/
def SafeChaos (chaos : Option ChaosWriter) : Prop := ∀ c, chaos = some c → c.cfg.jitter.val < 2 ^ 62

/-- What a pass of the upload loop keeps: a safe chaos writer. -/
def KeepsSafeChaos (r : Except ClientError Upload) : Prop := ∀ u, r = .ok u → SafeChaos u.chaos

/-- A `Data` frame through a safe chaos writer, which keeps its config, or to the
connection. -/
theorem noPanic_writeDataFrame {chaos : Option ChaosWriter} (hc : SafeChaos chaos) (msg : DataMessage) :
    NoPanic (fun r : Option ChaosWriter × Option WriteError => SafeChaos r.1) (writeDataFrame chaos msg) := by
  unfold writeDataFrame
  rcases chaos with _ | c
  · exact .bind (noPanic_writeMessageConn _ _) fun _ _ => .pure (by rintro _ ⟨⟩)
  · exact .bind (noPanic_write (hc c rfl)) fun ⟨c', _, _⟩ hr =>
      .pure (by rintro _ ⟨⟩; dsimp only at hr; rw [hr]; exact hc c rfl)

theorem noPanic_uploadChunk {size : Int64} {chunk : Bytes} {u : Upload} (hu : SafeChaos u.chaos) :
    NoPanic KeepsSafeChaos (uploadChunk size chunk u) := by
  unfold uploadChunk
  dsimp only
  refine .bind noPanic_ctxDone fun _ _ => ?_
  split
  · exact .pure (by rintro _ ⟨⟩)
  refine .bind (noPanic_pure _) fun _ _ => .bind (noPanic_writeDataFrame hu _) fun ⟨_, e⟩ hc => ?_
  rcases e with _ | e
  -- then the ping of every tenth chunk
  · dsimp only
    split
    · exact .bind (@NoPanic.map _ _ _ (fun _ => True) _ _ (noPanic_measureLatency _) fun _ _ => trivial)
        fun _ _ => .pure (by rintro _ ⟨⟩; exact hc)
    · exact .bind (noPanic_pure _) fun _ _ => .pure (by rintro _ ⟨⟩; exact hc)
  · exact .pure (by rintro _ ⟨⟩)

theorem noPanic_uploadLoop {size : Int64} {chunk : Bytes} :
    ∀ (fuel : Nat) (u : Upload), SafeChaos u.chaos → NoPanic KeepsSafeChaos (uploadLoop size chunk fuel u)
  | 0, _, hu => .pure (by rintro _ ⟨⟩; exact hu)
  | fuel + 1, u, hu => by
    unfold uploadLoop
    split
    · refine .bind (noPanic_uploadChunk hu) fun r hr => ?_
      rcases r with e | u'
      · exact .pure (by rintro _ ⟨⟩)
      · exact noPanic_uploadLoop fuel u' (hr u' rfl)
    · exact .pure (by rintro _ ⟨⟩; exact hu)

theorem noPanic_uploadPhase {cfg : Config} (hj : cfg.chaos.jitter.val < 2 ^ 62) :
    NoPanic (fun _ => True) (uploadPhase cfg) := by
  unfold uploadPhase
  dsimp only
  refine .bind noPanic_timeNow fun _ _ => .bind (noPanic_randRead _) fun _ _ => ?_
  -- the chaos writer, if enabled, has the config's jitter
  split
  on_goal 1 =>
    refine .bind (NoPanic.map (noPanic_newChaosWriter _) fun _ h => by rintro _ ⟨⟩; rwa [h] :
      NoPanic SafeChaos _) fun _ hc => ?_
  on_goal 2 => refine .bind (NoPanic.pure (by rintro _ ⟨⟩) : NoPanic SafeChaos _) fun _ hc => ?_
  -- then the loop and the Complete exchange
  all_goals
    refine .bind (noPanic_measureLatency 0) fun _ _ => .bind (noPanic_uploadLoop _ _ hc) fun res _ => ?_
    rcases res with e | u
    · exact .pure trivial
    · refine .bind (noPanic_measureLatency _) fun _ _ => .bind noPanic_timeNow fun _ _ =>
        .bind (noPanic_writeMessageConn _ _) fun e _ => ?_
      rcases e with _ | e
      · refine .bind (noPanic_attempt _) fun res _ => ?_
        rcases res with e | ⟨mt, data⟩
        · exact .pure trivial
        · dsimp only
          split
          · exact .pure trivial
          · split <;> exact .pure trivial
      · exact .pure trivial

theorem noPanic_runUpload {cfg : Config} (hj : cfg.chaos.jitter.val < 2 ^ 62) (r : Result) :
    NoPanic (fun _ => True) (runUpload cfg r) :=
  .bind (noPanic_uploadPhase hj) fun res _ => by rcases res with _ | ⟨_, _, _⟩ <;> exact .pure trivial

theorem noPanic_downloadLoop (st : Int) (ls : List ℚ) (r : Result) :
    ∀ (fuel : Nat) (recv : Int64), NoPanic (fun _ => True) (downloadLoop st ls r fuel recv)
  | 0, _ => .pure trivial
  | fuel + 1, recv => by
    unfold downloadLoop
    refine .bind noPanic_ctxDone fun _ _ => ?_
    split
    · exact .pure trivial
    · refine .bind (noPanic_pure _) fun _ _ => .bind noPanic_timeNow fun _ _ =>
        .bind (noPanic_setReadDeadline _) fun _ _ => .bind (noPanic_attempt _) fun res _ => ?_
      rcases res with e | ⟨mt, data⟩
      · exact .pure trivial
      · dsimp only
        split
        · split
          · exact .pure trivial
          · exact noPanic_downloadLoop st ls r fuel _
        · split
          · split
            · exact .pure trivial
            · exact .bind noPanic_timeNow fun _ _ => .pure trivial
          · exact noPanic_downloadLoop st ls r fuel recv

theorem noPanic_runDownload (r : Result) : NoPanic (fun _ => True) (runDownload r) := by
  unfold runDownload
  exact .bind noPanic_timeNow fun _ _ => .bind (noPanic_measureLatency 0) fun _ _ =>
    .bind noPanic_get fun _ _ => noPanic_downloadLoop _ _ _ _ _

/-- What `Run` does once the direction's run has returned: it never panics. -/
theorem noPanic_run_finish {x : GoM (Except ClientError Result)} (hx : NoPanic (fun _ => True) x)
    (r : Result) : NoPanic (fun _ => True) (do
      match ← x with
      | .error e => pure (some { r with error := some e }, some e)
      | .ok r' => (pure (some { r' with success := true }.calculateThroughput, none) :
          GoM (Option Result × Option ClientError))) :=
  .bind hx fun res _ => by cases res <;> exact .pure trivial

/-- With a jitter below `2^62`, `Run` never panics: from every world, whatever the
rest of the config, chaos enabled or not, the peer's frames and their timing, the
connection, the context and the random sources, it returns its result and its
error, or waits for ever. -/
theorem noPanic_run (lp : Bytes) {cfg : Config} (hj : cfg.chaos.jitter.val < 2 ^ 62) :
    NoPanic (fun _ => True) (run lp cfg) := by
  unfold run
  split
  · exact .pure trivial
  · refine .bind noPanic_timeNow fun _ _ => .bind (noPanic_writeMessageConn _ _) fun e _ => ?_
    rcases e with _ | e
    · refine .bind (noPanic_attempt _) fun res _ => ?_
      rcases res with e | ⟨mt, data⟩
      · exact .pure trivial
      · dsimp only
        split
        · split <;> exact .pure trivial
        · split
          · exact .pure trivial
          · split
            · exact .pure trivial
            · split
              · exact noPanic_run_finish (noPanic_runUpload hj _) _
              · split
                · exact noPanic_run_finish (noPanic_runDownload _) _
                · exact noPanic_run_finish (noPanic_pure _) _
    · exact .pure trivial

/-- With a jitter below `2^62`, `Run` never panics, from every world: the first
connection state (what the peer sends and when, whether it keeps a silent
connection open, how many bytes the connection still takes and whether it then
resets), the context and the random sources are all in the world. `Run` returns
its result and its error, or it waits for ever, on a read from a silent peer or
on a write the connection never takes. -/
theorem run_never_panics (lp : Bytes) {cfg : Config} (hj : cfg.chaos.jitter.val < 2 ^ 62)
    (w : World) : (∃ out w', run lp cfg w = .ok out w') ∨ ∃ w', run lp cfg w = .error .blocked w' :=
  (noPanic_run lp hj w).imp (fun ⟨out, w', h, _⟩ => ⟨out, w', h⟩) id

/-- An upload of one byte through the benchmarker's chaos settings (0.1% loss, 2 ms
latency, 1 ms jitter), against a peer that keeps the connection open and never
answers: no panic. -/
theorem run_never_panics_silent_peer :
    (⟨1 / 10, 2000000, 1000000, 0⟩ : ChaosConfig).jitter.val < 2 ^ 62 ∧
    ((∃ out w', run (ascii "local") ⟨ascii "peer", 1, directionUpload, 0, 0, ⟨1 / 10, 2000000, 1000000, 0⟩⟩
        { World.start [] with lingers := true } = .ok out w') ∨
      ∃ w', run (ascii "local") ⟨ascii "peer", 1, directionUpload, 0, 0, ⟨1 / 10, 2000000, 1000000, 0⟩⟩
        { World.start [] with lingers := true } = .error .blocked w') :=
  ⟨by decide, run_never_panics (ascii "local") (by decide) { World.start [] with lingers := true }⟩

/-- Against a peer that keeps the connection open and never answers, with no read
deadline set, `Run` of a valid config writes `Start` and then waits for the `Ack`
for ever. -/
theorem run_blocks_of_silent (lp : Bytes) (cfg : Config) {w : World} (hv : cfg.withDefaults.validate = none)
    (hcap : w.capacity = none) (hdl : w.deadline = none) (hl : w.lingers = true) (h : w.incoming = []) :
    run lp cfg w = .error .blocked
      { w with sent := w.sent ++ frameWrites w.clock msgStart (.start ⟨cfg.withDefaults.size, cfg.withDefaults.direction⟩) } := by
  have hr := @readMessage_conn_silent { w with
    sent := w.sent ++ frameWrites w.clock msgStart (.start ⟨cfg.withDefaults.size, cfg.withDefaults.direction⟩) }
    hdl hl h
  simp only [run, hv, bind, EStateM.bind, timeNow, writeMessageConn_eq _ _ hcap, attempt, hr]

/-- On a connection that takes no more bytes and never resets, `Run` of a valid
config waits for ever on its first write. -/
theorem run_blocks_of_full (lp : Bytes) (cfg : Config) {w : World} (hv : cfg.withDefaults.validate = none)
    (hcap : w.capacity = some 0) (hr : w.resets = false) : ∃ w', run lp cfg w = .error .blocked w' := by
  simp [run, hv, bind, EStateM.bind, timeNow, writeMessageConn, connWrite, hcap, hr, putUint8]

end TunnelMesh.Benchmark
