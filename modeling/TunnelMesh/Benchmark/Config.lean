-- SUMMARY: The benchmark's configuration: ChaosConfig and Config with their Validate, IsEnabled and WithDefaults.
import TunnelMesh.Go.Basic

/-!
# Benchmark configuration

`ChaosConfig` and `Config` from `internal/benchmark/benchmark.go`, with the
package's constants. A `float64` field is read as an exact rational, so the
NaN that Go's `Validate` lets through is not a value here. A validation error
is the `fmt.Errorf` that produced it, as a constructor carrying the value
the message prints.
-/

namespace TunnelMesh.Benchmark

/-- `time.Second`, in nanoseconds. -/
def second : Int := 1000000000

def defaultPort : Int64 := 9998
def defaultTimeout : Int64 := Int64.ofInt (120 * second)
/-- `ChunkSize`: the size of one upload chunk. -/
def chunkSize : Nat := 64 * 1024

/-- The bytes of an ASCII string literal. -/
def ascii (s : String) : Bytes := s.toList.map Char.toUInt8

def directionUpload : Bytes := ascii "upload"
def directionDownload : Bytes := ascii "download"

-- ---------------------------------------------------------------------------
-- ChaosConfig
-- ---------------------------------------------------------------------------

/-- `ChaosConfig`. -/
structure ChaosConfig where
  packetLossPercent : ℚ
  latency : Int64
  jitter : Int64
  bandwidthBps : Int64
  deriving DecidableEq

/-- The errors of `ChaosConfig.Validate`. -/
inductive ChaosConfigError
  /-- "packet_loss_percent must be between 0 and 100, got %v" -/
  | packetLossPercent (got : ℚ)
  /-- "latency cannot be negative, got %v" -/
  | latency (got : Int64)
  /-- "jitter cannot be negative, got %v" -/
  | jitter (got : Int64)
  /-- "bandwidth cannot be negative, got %v" -/
  | bandwidth (got : Int64)
  deriving DecidableEq

namespace ChaosConfig

/-- `c.Validate()`: `none` is Go's `nil`. -/
def validate (c : ChaosConfig) : Option ChaosConfigError :=
  if c.packetLossPercent < 0 ∨ c.packetLossPercent > 100 then some (.packetLossPercent c.packetLossPercent)
  else if c.latency < 0 then some (.latency c.latency)
  else if c.jitter < 0 then some (.jitter c.jitter)
  else if c.bandwidthBps < 0 then some (.bandwidth c.bandwidthBps)
  else none

/-- `c.IsEnabled()`. -/
def isEnabled (c : ChaosConfig) : Bool :=
  c.packetLossPercent > 0 ∨ c.latency > 0 ∨ c.jitter > 0 ∨ c.bandwidthBps > 0

theorem validate_eq_none_iff (c : ChaosConfig) :
    c.validate = none ↔ 0 ≤ c.packetLossPercent ∧ c.packetLossPercent ≤ 100 ∧
      0 ≤ c.latency.val ∧ 0 ≤ c.jitter.val ∧ 0 ≤ c.bandwidthBps.val := by
  unfold validate
  simp only [Int64.lt_iff, Int64.val_zero, gt_iff_lt]
  split_ifs with h₁ h₂ h₃ h₄
  · simp only [reduceCtorEq, false_iff]
    rintro ⟨h, h', -⟩
    rcases h₁ with h₁ | h₁ <;> linarith
  all_goals simp only [reduceCtorEq, false_iff, true_iff]
  all_goals push_neg at *
  all_goals first | exact ⟨h₁.1, h₁.2, h₂, h₃, h₄⟩ | (intros; omega)

end ChaosConfig

-- ---------------------------------------------------------------------------
-- Config
-- ---------------------------------------------------------------------------

/-- `Config`. -/
structure Config where
  peerName : Bytes
  size : Int64
  direction : Bytes
  timeout : Int64
  port : Int64
  chaos : ChaosConfig
  deriving DecidableEq

/-- The errors of `Config.Validate`. -/
inductive ConfigError
  /-- "peer_name is required" -/
  | peerName
  /-- "size must be positive, got %d" -/
  | size (got : Int64)
  /-- "direction must be %q or %q, got %q" -/
  | direction (got : Bytes)
  /-- "chaos config: %w" -/
  | chaos (err : ChaosConfigError)
  deriving DecidableEq

namespace Config

/-- `c.Validate()`. -/
def validate (c : Config) : Option ConfigError :=
  if c.peerName = [] then some .peerName
  else if c.size ≤ 0 then some (.size c.size)
  else if c.direction ≠ [] ∧ c.direction ≠ directionUpload ∧ c.direction ≠ directionDownload then
    some (.direction c.direction)
  else (ConfigError.chaos <$> c.chaos.validate)

/-- `c.WithDefaults()`. -/
def withDefaults (c : Config) : Config :=
  { c with
    direction := if c.direction = [] then directionUpload else c.direction
    port := if c.port = 0 then defaultPort else c.port
    timeout := if c.timeout = 0 then defaultTimeout else c.timeout }

@[simp] theorem withDefaults_size (c : Config) : c.withDefaults.size = c.size := rfl
@[simp] theorem withDefaults_chaos (c : Config) : c.withDefaults.chaos = c.chaos := rfl
@[simp] theorem withDefaults_peerName (c : Config) : c.withDefaults.peerName = c.peerName := rfl

/-- After `WithDefaults`, a config that `Validate` accepts has a positive size and
names one of the two directions. -/
theorem validate_withDefaults_eq_none (c : Config) (h : c.withDefaults.validate = none) :
    0 < c.size.val ∧
      (c.withDefaults.direction = directionUpload ∨ c.withDefaults.direction = directionDownload) := by
  have hdir : c.withDefaults.direction ≠ [] := by
    simp only [withDefaults]; split_ifs <;> simp_all [directionUpload, ascii]
  unfold validate at h
  split_ifs at h with h₁ h₂ h₃
  simp only [Int64.le_iff, not_le, withDefaults_size, Int64.val_zero] at h₂
  refine ⟨h₂, ?_⟩
  by_contra hne
  exact h₃ ⟨hdir, by tauto⟩

end Config

end TunnelMesh.Benchmark
