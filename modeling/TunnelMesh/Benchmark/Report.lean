-- SUMMARY: The direction's runs fill in only the measured fields of a result, so a result that Run reports without an error has succeeded and names the local peer and the config's peer, direction, size and chaos settings.
import TunnelMesh.Benchmark.Latency

/-!
# What a successful run reports

`runUpload` and `runDownload` (`internal/benchmark/client.go`) take the result
that `Run` made from the config and fill in the bytes transferred, the
duration and the latency statistics; `Run` then sets `Success` and computes
the throughput. `ensures_runUpload_keeps` and `ensures_runDownload_keeps` say
that nothing else changes (`Keeps`), for every world, with or without chaos.
`ensures_run_reported` lifts this to `Run`: a result it reports without an
error has succeeded, has no error, and carries the local peer and the config's
peer name, direction, size and chaos settings (`Reported`).
-/

namespace TunnelMesh.Benchmark

/-- The fields of `result` that `runUpload` and `runDownload` never write. -/
structure Keeps (result r : Result) : Prop where
  timestamp : r.timestamp = result.timestamp
  localPeer : r.localPeer = result.localPeer
  remotePeer : r.remotePeer = result.remotePeer
  direction : r.direction = result.direction
  requestedSize : r.requestedSize = result.requestedSize
  success : r.success = result.success
  error : r.error = result.error
  chaos : r.chaos = result.chaos

/-- What the direction's runs return: a result that keeps the fields of `result`. -/
def KeepsResult (result : Result) (res : Except ClientError Result) : Prop :=
  ∀ r, res = .ok r → Keeps result r

theorem keepsResult_error (result : Result) (e : ClientError) : KeepsResult result (.error e) := by
  rintro _ ⟨⟩

/-- The one result both runs build: the size, the duration and the statistics. -/
theorem keepsResult_fill (result : Result) (ls : List ℚ) (sz ms : Int64) :
    KeepsResult result (.ok (calculateLatencyStats ls
      { result with transferredSize := sz, durationMs := ms })) := by
  rintro r ⟨⟩
  obtain ⟨_, _, _, heq⟩ := calculateLatencyStats_eq ls { result with transferredSize := sz, durationMs := ms }
  rw [heq]
  exact ⟨rfl, rfl, rfl, rfl, rfl, rfl, rfl, rfl⟩

/-- `runUpload` builds its result from `result` once, after its phase. -/
theorem ensures_runUpload_keeps (cfg : Config) (result : Result) :
    Ensures (KeepsResult result) (runUpload cfg result) :=
  .bind .triv fun res _ => by
    rcases res with e | ⟨_, _, _⟩
    · exact .pure (keepsResult_error _ _)
    · exact .pure (keepsResult_fill _ _ _ _)

/-- Every pass of the download loop either goes on with the same `result` or builds
its result from it. -/
theorem ensures_downloadLoop_keeps (st : Int) (ls : List ℚ) (result : Result) :
    ∀ (fuel : Nat) (recv : Int64), Ensures (KeepsResult result) (downloadLoop st ls result fuel recv)
  | 0, _ => .pure (keepsResult_error _ _)
  | fuel + 1, recv => by
    unfold downloadLoop
    refine .bind .triv fun _ _ => ?_
    split
    · exact .pure (keepsResult_error _ _)
    refine .bind .triv fun _ _ => .bind .triv fun _ _ =>
      .bind .triv fun _ _ => .bind .triv fun res _ => ?_
    rcases res with e | ⟨mt, data⟩
    · exact .pure (keepsResult_error _ _)
    dsimp only
    split
    · -- a `Data` frame
      split
      · exact .pure (keepsResult_error _ _)
      · exact ensures_downloadLoop_keeps st ls result fuel _
    split
    · -- `Complete`
      split
      · exact .pure (keepsResult_error _ _)
      · exact .bind .triv fun _ _ => .pure (keepsResult_fill _ _ _ _)
    · exact ensures_downloadLoop_keeps st ls result fuel recv

theorem ensures_runDownload_keeps (result : Result) :
    Ensures (KeepsResult result) (runDownload result) := by
  unfold runDownload
  exact .bind .triv fun _ _ => .bind .triv fun _ _ => .bind .triv fun _ _ =>
    ensures_downloadLoop_keeps _ _ _ _ _

/-- A result that `Run` reports without an error: it succeeded, and it names the local
peer and the config's peer, direction, size and chaos settings. -/
structure Reported (lp : Bytes) (cfg : Config) (r : Result) : Prop where
  success : r.success = true
  error : r.error = none
  localPeer : r.localPeer = lp
  remotePeer : r.remotePeer = cfg.peerName
  direction : r.direction = cfg.withDefaults.direction
  requestedSize : r.requestedSize = cfg.size
  chaos : r.chaos = if cfg.chaos.isEnabled then some cfg.chaos else none

/-- `Run` marks a result that keeps the fields of its initial result as a success. -/
theorem Keeps.reported {lp : Bytes} {cfg : Config} {ts : Int} {r : Result}
    (h : Keeps (Result.initial lp cfg.withDefaults ts) r) :
    Reported lp cfg { r with success := true }.calculateThroughput := by
  obtain ⟨_, _, heq⟩ := Result.calculateThroughput_eq { r with success := true }
  rw [heq]
  exact ⟨rfl, h.error, h.localPeer, h.remotePeer, h.direction, h.requestedSize, h.chaos⟩

/-- What `Run` does once the direction's run has returned: a result without an error
is reported. -/
theorem ensures_run_finish_reported {lp : Bytes} {cfg : Config} {ts : Int}
    {x : GoM (Except ClientError Result)}
    (hx : Ensures (KeepsResult (Result.initial lp cfg.withDefaults ts)) x) :
    Ensures (fun out : Option Result × Option ClientError => ∀ r, out = (some r, none) → Reported lp cfg r)
      (do
        match ← x with
        | .error e => pure (some { Result.initial lp cfg.withDefaults ts with error := some e }, some e)
        | .ok r' => (pure (some { r' with success := true }.calculateThroughput, none) :
            GoM (Option Result × Option ClientError))) := by
  refine .bind hx fun res hres => ?_
  rcases res with e | r'
  · exact .pure fun r h => by cases h
  · exact .pure fun r h => by cases h; exact (hres r' rfl).reported

/-- Every result that `Run` reports without an error has succeeded and names the local
peer and the config's peer, direction, size and chaos settings. -/
theorem ensures_run_reported (lp : Bytes) (cfg : Config) :
    Ensures (fun out : Option Result × Option ClientError => ∀ r, out = (some r, none) → Reported lp cfg r)
      (run lp cfg) := by
  unfold run
  split
  · exact .pure fun _ h => by cases h
  refine .bind .triv fun _ _ => .bind .triv fun e _ => ?_
  rcases e with _ | e
  · refine .bind .triv fun res _ => ?_
    rcases res with e | ⟨mt, data⟩
    · exact .pure fun _ h => by cases h
    dsimp only
    split
    · split <;> exact .pure fun _ h => by cases h
    split
    · exact .pure fun _ h => by cases h
    split
    · exact .pure fun _ h => by cases h
    split
    · exact ensures_run_finish_reported (ensures_runUpload_keeps _ _)
    split
    · exact ensures_run_finish_reported (ensures_runDownload_keeps _)
    · exact ensures_run_finish_reported (.pure fun r h => by
        cases h; exact ⟨rfl, rfl, rfl, rfl, rfl, rfl, rfl, rfl⟩)
  · exact .pure fun _ h => by cases h

end TunnelMesh.Benchmark
