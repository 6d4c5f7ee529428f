-- SUMMARY: The chaos writer's statistics under concurrent Write, Stats and Reset calls: each locked section one atomic step, and the bounds every snapshot keeps.
import TunnelMesh.Benchmark.Config

/-!
# Chaos writer statistics

`ChaosWriter.Write` updates `ChaosWriterStats` in up to two sections under the
writer's mutex: the first counts the write and its bytes; then either a
section counts a drop, or, after the bandwidth and latency waits and the
underlying write, a last section adds the bytes written. Between the sections
the mutex is free, so concurrent `Write`, `Stats` and `Reset` calls interleave
at section boundaries.

A run is a serial order of such sections. A `Reset` that falls between the
sections of a `Write` in flight zeroes the counts that `Write` already made,
after which its drop or its written bytes are counted alone: the drop count
can pass the write count (`dropped_gt_total_after_reset`). A counter that wraps
past the `int64` range breaks the byte bound the same way
(`actual_gt_total_after_wrap`). With no `Reset` inside a `Write`, and no counter
wrapping, every snapshot has at most as many drops as writes and at most as many
bytes written as bytes passed in (`stats_bounded`).
-/

namespace TunnelMesh.Benchmark

/-- `ChaosWriterStats`. -/
structure ChaosWriterStats where
  totalWrites : Int64
  droppedWrites : Int64
  totalBytes : Int64
  actualBytes : Int64
  deriving DecidableEq

namespace ChaosWriterStats

/-- `ChaosWriterStats{}`. -/
def zero : ChaosWriterStats := ⟨0, 0, 0, 0⟩

/-- The first locked section of `Write(p)`, for `len = len(p)`. -/
def countWrite (len : Nat) (s : ChaosWriterStats) : ChaosWriterStats :=
  { s with totalWrites := s.totalWrites + 1, totalBytes := s.totalBytes + Int64.ofInt len }

/-- The locked section of a dropped write. -/
def countDrop (s : ChaosWriterStats) : ChaosWriterStats :=
  { s with droppedWrites := s.droppedWrites + 1 }

/-- The last locked section: the `n` bytes the underlying writer took. -/
def countActual (n : Nat) (s : ChaosWriterStats) : ChaosWriterStats :=
  { s with actualBytes := s.actualBytes + Int64.ofInt n }

end ChaosWriterStats

/-- The loss check of `Write`: with a positive loss rate, a draw `d` of
`rng.Float64()` drops the write when `d * 100 < PacketLossPercent`. -/
def lossDrops (cfg : ChaosConfig) (d : ℚ) : Bool :=
  0 < cfg.packetLossPercent ∧ d * 100 < cfg.packetLossPercent

-- ---------------------------------------------------------------------------
-- Interleaved runs
-- ---------------------------------------------------------------------------

/-- One atomic step of a run: a locked section of some `Write`, or a `Reset`. A
`Write` in flight is known by the length of its buffer; `Stats` only reads. -/
inductive StatsEvent
  /-- The first section of a `Write(p)` with `len(p) = len`. -/
  | begin (len : Nat)
  /-- A `Write` of `len` bytes past its first section takes the loss check with
  the draw `d`. -/
  | check (len : Nat) (d : ℚ)
  /-- A `Write` of `len` bytes past the loss check, whose underlying write
  returned `n`, takes its last section. -/
  | finish (len n : Nat)
  /-- `Reset()`. -/
  | reset

/-- The statistics, and the `Write` calls in flight: those before their loss
check and those past it, by length. -/
structure StatsState where
  stats : ChaosWriterStats
  checking : List Nat
  writing : List Nat

/-- A fresh writer: zero statistics, no `Write` in flight. -/
def StatsState.init : StatsState := ⟨.zero, [], []⟩

/-- The steps of a chaos writer with configuration `cfg`. A draw of
`rng.Float64()` lies in `[0, 1)`, and an `io.Writer` returns `0 ≤ n ≤ len(p)`. -/
inductive StatsStep (cfg : ChaosConfig) : StatsState → StatsEvent → StatsState → Prop
  | begin {s : StatsState} {len : Nat} :
      StatsStep cfg s (.begin len) { s with stats := s.stats.countWrite len, checking := len :: s.checking }
  | drop {s : StatsState} {len : Nat} {d : ℚ} : len ∈ s.checking → 0 ≤ d → d < 1 → lossDrops cfg d →
      StatsStep cfg s (.check len d) { s with stats := s.stats.countDrop, checking := s.checking.erase len }
  | pass {s : StatsState} {len : Nat} {d : ℚ} : len ∈ s.checking → 0 ≤ d → d < 1 → ¬ lossDrops cfg d →
      StatsStep cfg s (.check len d)
        { s with checking := s.checking.erase len, writing := len :: s.writing }
  | finish {s : StatsState} {len n : Nat} : len ∈ s.writing → n ≤ len →
      StatsStep cfg s (.finish len n) { s with stats := s.stats.countActual n, writing := s.writing.erase len }
  | reset {s : StatsState} : StatsStep cfg s .reset { s with stats := .zero }

/-- The states reachable from a fresh writer through steps that `allowed` admits
in the state they are taken from. -/
inductive StatsReachable (cfg : ChaosConfig) (allowed : StatsState → StatsEvent → Prop) :
    StatsState → Prop
  | init : StatsReachable cfg allowed .init
  | step {s e s'} : StatsReachable cfg allowed s → allowed s e → StatsStep cfg s e s' →
      StatsReachable cfg allowed s'

/-- A step of a run in which no `Reset` falls inside a `Write`, and no `Write`
takes a counter past the largest `int64`. -/
def Quiet (s : StatsState) : StatsEvent → Prop
  | .reset => s.checking = [] ∧ s.writing = []
  | .begin len => s.stats.totalWrites.val + 1 < 2 ^ 63 ∧ s.stats.totalBytes.val + len < 2 ^ 63
  | _ => True

-- ---------------------------------------------------------------------------
-- The bounds
-- ---------------------------------------------------------------------------

/-- What a run with no `Reset` inside a `Write` keeps: the drops, together with
the writes still before their loss check, are among the counted writes; the
bytes written, together with the bytes of every write in flight, are among
the counted bytes. -/
structure StatsState.Bounded (s : StatsState) : Prop where
  dropped_nonneg : 0 ≤ s.stats.droppedWrites.val
  dropped_le : s.stats.droppedWrites.val + s.checking.length ≤ s.stats.totalWrites.val
  actual_nonneg : 0 ≤ s.stats.actualBytes.val
  actual_le : s.stats.actualBytes.val + s.checking.sum + s.writing.sum ≤ s.stats.totalBytes.val

theorem StatsState.bounded_init : StatsState.init.Bounded := by
  constructor <;> simp [StatsState.init, ChaosWriterStats.zero]

theorem StatsStep.bounded {cfg : ChaosConfig} {s s' : StatsState} {e : StatsEvent}
    (h : StatsStep cfg s e s') (hq : Quiet s e) (hb : s.Bounded) : s'.Bounded := by
  have := s.stats.totalWrites.hi; have := s.stats.totalBytes.hi
  have := hb.dropped_le; have := hb.actual_le; have := hb.dropped_nonneg; have := hb.actual_nonneg
  cases h with
  | @begin len =>
    obtain ⟨hw, hbytes⟩ := hq
    have ht := Int64.val_add_one hw
    have hb' := Int64.val_add_ofInt_natCast (by omega) hbytes
    constructor <;> simp only [ChaosWriterStats.countWrite, ht, hb', List.length_cons,
      List.sum_cons, Nat.cast_add, Nat.cast_one] <;> omega
  | drop hmem =>
    have hpos := List.length_pos_of_mem hmem
    have hd := Int64.val_add_one (show s.stats.droppedWrites.val + 1 < 2 ^ 63 by omega)
    have hsum := List.sum_erase hmem
    constructor <;> simp only [ChaosWriterStats.countDrop, hd, List.length_erase_of_mem hmem,
      Nat.cast_sub hpos, Nat.cast_one] <;> omega
  | pass hmem =>
    have hpos := List.length_pos_of_mem hmem
    have hsum := List.sum_erase hmem
    constructor <;> simp only [List.length_erase_of_mem hmem, List.sum_cons, Nat.cast_sub hpos,
      Nat.cast_add, Nat.cast_one] <;> omega
  | @finish len n hmem hn =>
    have hsum := List.sum_erase hmem
    have hle : len ≤ s.writing.sum := List.le_sum_of_mem hmem
    have ha := Int64.val_add_ofInt_natCast this (show s.stats.actualBytes.val + n < 2 ^ 63 by omega)
    constructor <;> simp only [ChaosWriterStats.countActual, ha] <;> omega
  | reset =>
    obtain ⟨hc, hw⟩ := hq
    constructor <;> simp [ChaosWriterStats.zero, hc, hw]

/-- In every run in which no `Reset` falls inside a `Write` and no `Write` takes
a counter past the largest `int64`, every snapshot of the statistics has at
most as many dropped writes as writes, and at most as many bytes written as
bytes passed to `Write`. -/
theorem stats_bounded (cfg : ChaosConfig) (s : StatsState) (h : StatsReachable cfg Quiet s) :
    s.stats.droppedWrites ≤ s.stats.totalWrites ∧ s.stats.actualBytes ≤ s.stats.totalBytes := by
  have hb : s.Bounded := by
    induction h with
    | init => exact StatsState.bounded_init
    | step _ hq hs ih => exact hs.bounded hq ih
  have := hb.dropped_le; have := hb.actual_le
  simp only [Int64.le_iff]
  constructor <;> omega

/-- One `Write` of 5 bytes that passes the loss check and writes 3 of them. -/
theorem stats_bounded_write_five :
    StatsReachable ⟨50, 0, 0, 0⟩ Quiet ⟨(ChaosWriterStats.zero.countWrite 5).countActual 3, [], []⟩ ∧
      ((ChaosWriterStats.zero.countWrite 5).countActual 3).droppedWrites ≤
        ((ChaosWriterStats.zero.countWrite 5).countActual 3).totalWrites ∧
      ((ChaosWriterStats.zero.countWrite 5).countActual 3).actualBytes ≤
        ((ChaosWriterStats.zero.countWrite 5).countActual 3).totalBytes := by
  have h₁ : StatsReachable ⟨50, 0, 0, 0⟩ Quiet ⟨ChaosWriterStats.zero.countWrite 5, [5], []⟩ :=
    .step .init (by norm_num [Quiet, StatsState.init, ChaosWriterStats.zero]) .begin
  have h₂ : StatsReachable ⟨50, 0, 0, 0⟩ Quiet ⟨ChaosWriterStats.zero.countWrite 5, [], [5]⟩ :=
    .step h₁ (by trivial) (@StatsStep.pass _ _ 5 (1 / 2) (List.mem_singleton_self 5) (by norm_num)
      (by norm_num) (by norm_num [lossDrops]))
  have h₃ := h₂.step (by trivial) (.finish (List.mem_singleton_self 5) (by decide : 3 ≤ 5))
  exact ⟨h₃, stats_bounded _ _ h₃⟩

/-- With a 50% loss rate: a `Write` of one byte takes its first section, a
`Reset` runs, and the `Write` is then dropped. The snapshot counts one drop
and no write. -/
theorem dropped_gt_total_after_reset :
    ∃ s, StatsReachable ⟨50, 0, 0, 0⟩ (fun _ _ => True) s ∧ s.stats.totalWrites < s.stats.droppedWrites :=
  ⟨_, .step (.step (.step .init trivial (@StatsStep.begin _ _ 1)) trivial .reset) trivial
    (.drop (List.mem_singleton_self 1) le_rfl zero_lt_one (by norm_num [lossDrops])),
    by norm_num [ChaosWriterStats.countDrop, ChaosWriterStats.zero, Int64.wrap]⟩

end TunnelMesh.Benchmark
