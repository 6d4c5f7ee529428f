-- SUMMARY: ChaosWriter.Write on one goroutine: the loss draw, the token bucket wait, the latency and jitter sleep with its int64 arithmetic, and the write through; a jitter of 2^62 or more panics and a latency near 2^63 wraps.
import TunnelMesh.Chaos.TokenBucket
import TunnelMesh.Chaos.Stats
import TunnelMesh.Go.World

/-!
# The chaos writer

`ChaosWriter.Write(p)` as one goroutine runs it, over the client's world: the
underlying writer is the connection, the random source is the world's.

With a positive loss rate a draw of `rng.Float64()` decides whether the write
is dropped; a dropped write reports `len(p)` bytes written and writes nothing.
Otherwise the write waits for the token bucket, sleeps the latency moved by a
jitter offset, and goes to the connection, whose count and error it returns.

The jitter offset is `rng.Int63n(2 * int64(Jitter)) - Jitter`, in `int64`
arithmetic. For `Jitter ≥ 2^62` the product wraps to a non-positive number and
`Int63n` panics, so every write that is not dropped panics
(`delay_panic_of_le`), although `Validate` admits every non-negative jitter.
The sum `Latency + offset` wraps as well: near the largest latency a positive
offset makes it negative, and the write then sleeps nothing
(`write_max_latency_sleeps_nothing`). Away from both ends the delay is
`max(0, Latency + j)` with `-Jitter ≤ j < Jitter` (`delay_eq_max`).
-/

namespace TunnelMesh.Benchmark

/-- `ChaosWriter`, without its mutex; the underlying writer is the connection
and the random source is the world's. -/
structure ChaosWriter where
  cfg : ChaosConfig
  bucket : Option TokenBucket
  stats : ChaosWriterStats

/-- `NewChaosWriter(conn, cfg)`: a token bucket only for a positive bandwidth. -/
def newChaosWriter (cfg : ChaosConfig) : GoM ChaosWriter := do
  let now ← timeNow
  pure ⟨cfg, if cfg.bandwidthBps > 0 then some (newTokenBucket cfg.bandwidthBps now) else none, .zero⟩

namespace ChaosWriter

/-- Step 3's delay: `Latency`, moved by a jitter offset when `Jitter > 0` and
then kept non-negative. -/
def delay (cfg : ChaosConfig) : GoM Int64 :=
  if cfg.jitter > 0 then do
    let r ← int63n (2 * cfg.jitter).val
    let d := cfg.latency + (Int64.ofInt r - cfg.jitter)
    pure (if d < 0 then 0 else d)
  else pure cfg.latency

/-- Steps 2 to 4 of a write that was not dropped: the bandwidth wait, the
latency sleep, and the write to the connection, with its count and error. -/
def pass (c : ChaosWriter) (p : Bytes) : GoM (ChaosWriter × Nat × Option WriteError) := do
  let bucket ← match c.bucket with
    | none => pure none
    | some b => do
      let now ← timeNow
      let (b', wait) := b.take p.length now
      if wait > 0 then sleep wait
      pure (some b')
  if c.cfg.latency > 0 ∨ c.cfg.jitter > 0 then do
    let d ← delay c.cfg
    if d > 0 then sleep d.val
  let (n, err) ← connWrite p
  pure ({ c with bucket := bucket, stats := c.stats.countActual n }, n, err)

/-- `c.Write(p)`: the writer after the call, and the count and the error it returns. -/
def write (c : ChaosWriter) (p : Bytes) : GoM (ChaosWriter × Nat × Option WriteError) := do
  let c := { c with stats := c.stats.countWrite p.length }
  if c.cfg.packetLossPercent > 0 then do
    let d ← float64
    if d * 100 < c.cfg.packetLossPercent then
      return ({ c with stats := c.stats.countDrop }, p.length, none)
  c.pass p

/-- `2 * Jitter` wraps to a non-positive `int64` exactly when `Jitter ≥ 2^62`. -/
theorem two_mul_jitter_nonpos {j : Int64} (hj : 2 ^ 62 ≤ j.val) : (2 * j).val ≤ 0 := by
  have := j.hi
  simp only [Int64.val_mul, Int64.val_ofNat (show 2 < 2 ^ 63 by norm_num), Int64.wrap]
  omega

/-- With a jitter of `2^62` or more, the delay panics, whatever the world. -/
theorem delay_panic_of_le {cfg : ChaosConfig} (hj : 2 ^ 62 ≤ cfg.jitter.val) (w : World) :
    delay cfg w = .error .int63n w := by
  have hpos : cfg.jitter > 0 := by
    simp only [gt_iff_lt, Int64.lt_iff, Int64.val_zero]; omega
  simp only [delay, hpos, if_true, bind, EStateM.bind, int63n,
    if_pos (two_mul_jitter_nonpos hj)]

/-- Away from the ends of the `int64` range (`Jitter < 2^62` and
`Latency + Jitter < 2^63`), the delay is `max(0, Latency + j)` for the offset
`j = r - Jitter` of the draw `r < 2 * Jitter`, so `-Jitter ≤ j < Jitter`. -/
theorem delay_eq_max {cfg : ChaosConfig} (hL : 0 ≤ cfg.latency.val) (hJ : 0 < cfg.jitter.val)
    (hJ' : cfg.jitter.val < 2 ^ 62) (hLJ : cfg.latency.val + cfg.jitter.val < 2 ^ 63) (w : World) :
    ∃ j, -cfg.jitter.val ≤ j ∧ j < cfg.jitter.val ∧
      delay cfg w = .ok (Int64.ofInt (max 0 (cfg.latency.val + j))) { w with draws := w.draws + 1 } := by
  have h2 : (2 * cfg.jitter).val = 2 * cfg.jitter.val := by
    simp only [Int64.val_mul, Int64.val_ofNat (show 2 < 2 ^ 63 by norm_num), Int64.wrap]
    omega
  have hpos : cfg.jitter > 0 := by simpa [Int64.lt_iff] using hJ
  simp only [delay, hpos, if_true, bind, EStateM.bind, int63n, h2,
    if_neg (show ¬ 2 * cfg.jitter.val ≤ 0 by omega), pure, EStateM.pure]
  generalize hr : ((w.int63 w.draws % 2 ^ 63 : Nat) : Int) % (2 * cfg.jitter.val) = r
  have hr0 : 0 ≤ r := hr ▸ Int.emod_nonneg _ (by omega)
  have hr1 : r < 2 * cfg.jitter.val := hr ▸ Int.emod_lt_of_pos _ (by omega)
  refine ⟨r - cfg.jitter.val, by omega, by omega, ?_⟩
  have hd : cfg.latency + (Int64.ofInt r - cfg.jitter) = Int64.ofInt (cfg.latency.val + (r - cfg.jitter.val)) := by
    apply Int64.ext
    simp only [Int64.val_add, Int64.val_sub, Int64.val_ofInt,
      Int64.wrap_of_mem (show -2 ^ 63 ≤ r by omega) (show r < 2 ^ 63 by omega),
      Int64.wrap_of_mem (show -2 ^ 63 ≤ r - cfg.jitter.val by omega) (show r - cfg.jitter.val < 2 ^ 63 by omega)]
  have hx := Int64.wrap_of_mem (show -2 ^ 63 ≤ cfg.latency.val + (r - cfg.jitter.val) by omega)
    (show cfg.latency.val + (r - cfg.jitter.val) < 2 ^ 63 by omega)
  rw [hd]
  split_ifs with h
  · rw [Int64.lt_iff, Int64.val_ofInt, hx, Int64.val_zero] at h
    rw [max_eq_left h.le]
    rfl
  · rw [Int64.lt_iff, Int64.val_ofInt, hx, Int64.val_zero] at h
    rw [max_eq_right (by omega)]

/-- A write that passes the loss check panics when the jitter is `2^62` or more
and there is no token bucket: it sleeps nothing and writes nothing first. -/
theorem pass_panic_of_le {c : ChaosWriter} {p : Bytes} {w : World} (hb : c.bucket = none)
    (hj : 2 ^ 62 ≤ c.cfg.jitter.val) : c.pass p w = .error .int63n w := by
  have hpos : c.cfg.latency > 0 ∨ c.cfg.jitter > 0 := by
    right; simp only [gt_iff_lt, Int64.lt_iff, Int64.val_zero]; omega
  simp only [pass, hb, bind, EStateM.bind, pure, EStateM.pure, hpos, if_true, delay_panic_of_le hj]

/-- With no loss rate and no bandwidth limit, every write panics when the jitter
is `2^62` or more. -/
theorem write_panic_of_le {c : ChaosWriter} {p : Bytes} {w : World}
    (hloss : ¬ c.cfg.packetLossPercent > 0) (hb : c.bucket = none) (hj : 2 ^ 62 ≤ c.cfg.jitter.val) :
    c.write p w = .error .int63n w := by
  have hpass := @pass_panic_of_le { c with stats := c.stats.countWrite p.length } p w hb hj
  simp only [write, hloss, if_false, bind, EStateM.bind, pure, EStateM.pure, hpass]

end ChaosWriter

/-- `NewChaosWriter` without a bandwidth limit: no token bucket, zero statistics. -/
theorem newChaosWriter_of_nonpos {cfg : ChaosConfig} (hb : ¬ cfg.bandwidthBps > 0) (w : World) :
    newChaosWriter cfg w = .ok ⟨cfg, none, .zero⟩ w := by
  simp only [newChaosWriter, bind, EStateM.bind, timeNow, hb, if_false, pure, EStateM.pure]

/-- A config that `Validate` admits, with the largest latency and a jitter of
2 ns, and a jitter draw of 3: the offset is `+1`, `Latency + 1` wraps to
`-2^63`, the delay is clamped to `0`, and the write goes out without sleeping,
although `max(0, Latency + j)` is positive for every `-2 ≤ j < 2`. -/
theorem write_max_latency_sleeps_nothing :
    let cfg : ChaosConfig := ⟨0, Int64.ofInt (2 ^ 63 - 1), 2, 0⟩
    let w : World := { World.start [] with int63 := fun _ => 3 }
    cfg.validate = none ∧
    (ChaosWriter.write ⟨cfg, none, .zero⟩ [0]) w =
      .ok (⟨cfg, none, (ChaosWriterStats.zero.countWrite 1).countActual 1⟩, 1, none)
        { w with sent := [(0, [0])], draws := 1 } ∧
    ∀ j : Int, -2 ≤ j → j < 2 → 0 < max 0 ((2 ^ 63 - 1) + j) := by
  refine ⟨by decide, ?_, fun j hj _ => lt_max_of_lt_right (by omega)⟩
  simp only [ChaosWriter.write, ChaosWriter.pass, ChaosWriter.delay]
  rfl

end TunnelMesh.Benchmark
