-- SUMMARY: The chaos writer's token bucket: Take as a step on the bucket with the clock reading as input, what a paid-for wait buys, and what a single caller is let through.
import TunnelMesh.Benchmark.Config

/-!
# Token bucket

`TokenBucket` and `Take` from the chaos writer. The `float64` fields are read
as exact rationals, and the clock is an input: `now` is the reading of
`time.Now()` in nanoseconds that a call takes.

`Take(n)` refills the bucket at `rate` tokens a second, up to `maxTokens`,
which `NewTokenBucket` sets to one second's worth. With enough tokens it takes
them and returns `0`. Otherwise it returns the time the missing tokens need to
accrue and sets the level to `0`: the missing tokens are not kept as a debt.
So a caller that sleeps the returned wait before its next call is credited, on
that call, with the tokens that accrued while it slept, although the wait was
already what paid for its previous bytes.
-/

namespace TunnelMesh.Benchmark

/-- `TokenBucket`; the mutex is left out, since every call runs under it. -/
structure TokenBucket where
  rate : ℚ
  tokens : ℚ
  maxTokens : ℚ
  lastUpdate : Int
  deriving DecidableEq

/-- `NewTokenBucket(bytesPerSec)` at clock reading `now`: a full bucket of one
second's worth of tokens. -/
def newTokenBucket (bytesPerSec : Int64) (now : Int) : TokenBucket :=
  ⟨bytesPerSec.val, bytesPerSec.val, bytesPerSec.val, now⟩

/-- `time.Duration(x)` for a `float64` number `x` of nanoseconds: the conversion
truncates toward zero. -/
def durationOfFloat (x : ℚ) : Int := if 0 ≤ x then ⌊x⌋ else ⌈x⌉

namespace TokenBucket

/-- `now.Sub(tb.lastUpdate).Seconds()`. -/
def elapsed (tb : TokenBucket) (now : Int) : ℚ := ((now - tb.lastUpdate : Int) : ℚ) / second

/-- The level after the refill at the start of `Take`: the tokens accrued since
`lastUpdate`, capped at `maxTokens`. -/
def refill (tb : TokenBucket) (now : Int) : ℚ :=
  if tb.tokens + tb.elapsed now * tb.rate > tb.maxTokens then tb.maxTokens
  else tb.tokens + tb.elapsed now * tb.rate

/-- `tb.Take(n)` at clock reading `now`: the bucket after the call, and the
duration it returns, in nanoseconds. -/
def take (tb : TokenBucket) (n : Nat) (now : Int) : TokenBucket × Int :=
  let tokens := tb.refill now
  if tokens ≥ n then ({ tb with tokens := tokens - n, lastUpdate := now }, 0)
  else ({ tb with tokens := 0, lastUpdate := now }, durationOfFloat ((n - tokens) / tb.rate * second))

theorem take_of_le {tb : TokenBucket} {n : Nat} {now : Int} (h : (n : ℚ) ≤ tb.refill now) :
    tb.take n now = ({ tb with tokens := tb.refill now - n, lastUpdate := now }, 0) := by
  simp [take, h]

theorem take_of_lt {tb : TokenBucket} {n : Nat} {now : Int} (h : tb.refill now < n) :
    tb.take n now = ({ tb with tokens := 0, lastUpdate := now },
      durationOfFloat ((n - tb.refill now) / tb.rate * second)) := by
  simp [take, not_le.2 h]

/-- A call that returns a positive wait empties the bucket. -/
theorem take_fst_of_pos {tb : TokenBucket} {n : Nat} {now : Int} (h : 0 < (tb.take n now).2) :
    (tb.take n now).1 = { tb with tokens := 0, lastUpdate := now } := by
  by_cases hle : (n : ℚ) ≤ tb.refill now
  · rw [take_of_le hle] at h; exact absurd h (lt_irrefl 0)
  · rw [take_of_lt (not_le.1 hle)]

theorem refill_ge_min {tb : TokenBucket} {now : Int} (hmax : tb.maxTokens = tb.rate) :
    min tb.rate (tb.tokens + tb.elapsed now * tb.rate) ≤ tb.refill now := by
  unfold refill; split_ifs <;> simp [hmax]

-- ---------------------------------------------------------------------------
-- The states a bucket goes through
-- ---------------------------------------------------------------------------

/-- What a bucket from `NewTokenBucket` with a positive rate satisfies, and every
`Take` with a later clock reading keeps: a positive rate, one second of
capacity, and a level between empty and full. -/
structure Valid (tb : TokenBucket) : Prop where
  rate_pos : 0 < tb.rate
  max_eq : tb.maxTokens = tb.rate
  tokens_nonneg : 0 ≤ tb.tokens
  tokens_le : tb.tokens ≤ tb.maxTokens

theorem valid_newTokenBucket {b : Int64} (hb : 0 < b.val) (now : Int) :
    (newTokenBucket b now).Valid :=
  ⟨by simpa [newTokenBucket] using hb, rfl, by simp [newTokenBucket]; omega, le_rfl⟩

theorem refill_le {tb : TokenBucket} {now : Int} : tb.refill now ≤ tb.maxTokens := by
  unfold refill; split_ifs with h <;> linarith

theorem Valid.take {tb : TokenBucket} (hv : tb.Valid) (n : Nat) (now : Int) :
    (tb.take n now).1.Valid := by
  by_cases hle : (n : ℚ) ≤ tb.refill now
  · rw [take_of_le hle]
    refine ⟨hv.rate_pos, hv.max_eq, sub_nonneg.2 hle, ?_⟩
    show tb.refill now - n ≤ tb.maxTokens
    linarith [@refill_le tb now, (Nat.cast_nonneg n : (0 : ℚ) ≤ n)]
  · rw [take_of_lt (not_le.1 hle)]
    exact ⟨hv.rate_pos, hv.max_eq, le_rfl, show (0 : ℚ) ≤ tb.maxTokens by rw [hv.max_eq]; exact hv.rate_pos.le⟩

-- ---------------------------------------------------------------------------
-- A wait that was paid for
-- ---------------------------------------------------------------------------

/-- After a call that returned a wait `w > 0`, a next call made at least `w` later
for at most `rate · min(w, 1 s)` tokens returns `0`. The cap at one second
comes from the one second of capacity: however long the wait, the refill never
holds more than `rate` tokens. -/
theorem take_eq_zero_after_wait (tb : TokenBucket) (hv : tb.Valid) (n₁ n₂ : Nat) (t₁ t₂ : Int)
    (hw : 0 < (tb.take n₁ t₁).2) (hlate : t₁ + (tb.take n₁ t₁).2 ≤ t₂)
    (hn : (n₂ : ℚ) ≤ tb.rate * min (((tb.take n₁ t₁).2 : ℚ) / second) 1) :
    ((tb.take n₁ t₁).1.take n₂ t₂).2 = 0 := by
  set w := (tb.take n₁ t₁).2
  set tb₁ : TokenBucket := { tb with tokens := 0, lastUpdate := t₁ }
  have hel : (w : ℚ) / second ≤ tb₁.elapsed t₂ := by
    apply div_le_div_of_nonneg_right _ (by norm_num [second])
    exact_mod_cast (by omega : w ≤ t₂ - t₁)
  have hmin : tb.rate * min ((w : ℚ) / second) 1 ≤ min tb₁.rate (tb₁.tokens + tb₁.elapsed t₂ * tb₁.rate) := by
    rw [mul_min_of_nonneg _ _ hv.rate_pos.le, mul_one, min_comm]
    exact min_le_min le_rfl (by
      show tb.rate * (w / second) ≤ 0 + tb₁.elapsed t₂ * tb.rate
      rw [zero_add, mul_comm _ tb.rate]
      exact mul_le_mul_of_nonneg_left hel hv.rate_pos.le)
  rw [take_fst_of_pos hw, take_of_le (hn.trans (hmin.trans (refill_ge_min hv.max_eq)))]

/-- A bucket of 1000 tokens a second: a call for 1500 tokens waits half a second,
and a call for 500 tokens half a second later goes through at once. -/
theorem take_eq_zero_after_wait_half_second :
    (newTokenBucket 1000 0).Valid ∧ 0 < ((newTokenBucket 1000 0).take 1500 0).2 ∧
    0 + ((newTokenBucket 1000 0).take 1500 0).2 ≤ second / 2 ∧
    ((500 : Nat) : ℚ) ≤ (newTokenBucket 1000 0).rate *
      min ((((newTokenBucket 1000 0).take 1500 0).2 : ℚ) / second) 1 ∧
    (((newTokenBucket 1000 0).take 1500 0).1.take 500 (second / 2)).2 = 0 := by
  have hv : (newTokenBucket 1000 0).Valid := valid_newTokenBucket (by decide) 0
  have hw : ((newTokenBucket 1000 0).take 1500 0).2 = second / 2 := by
    norm_num [take, refill, elapsed, newTokenBucket, durationOfFloat, second]
  have hn : ((500 : Nat) : ℚ) ≤ (newTokenBucket 1000 0).rate *
      min ((((newTokenBucket 1000 0).take 1500 0).2 : ℚ) / second) 1 := by
    rw [hw]; norm_num [newTokenBucket, second]
  refine ⟨hv, by rw [hw]; decide, by rw [hw]; decide, hn, ?_⟩
  exact take_eq_zero_after_wait _ hv 1500 500 0 (second / 2) (by rw [hw]; decide)
    (by rw [hw]; decide) hn

/-- A wait longer than one second is not fully credited: with a rate of one token
a second, a call for 3 tokens on a full bucket waits 2 s, and a call for
`2 = rate · 2 s` tokens made 2 s later still has to wait 1 s. -/
theorem take_after_wait_over_capacity :
    (newTokenBucket 1 0).Valid ∧ ((newTokenBucket 1 0).take 3 0).2 = 2 * second ∧
    ((2 : Nat) : ℚ) ≤ (newTokenBucket 1 0).rate * (((2 * second : Int) : ℚ) / second) ∧
    (((newTokenBucket 1 0).take 3 0).1.take 2 (0 + 2 * second)).2 = second := by
  refine ⟨valid_newTokenBucket (by decide) 0, ?_, ?_, ?_⟩ <;>
    norm_num [take, refill, elapsed, newTokenBucket, durationOfFloat, second]

-- ---------------------------------------------------------------------------
-- A single caller
-- ---------------------------------------------------------------------------

/-- A single caller's run of `Take`, as `ChaosWriter.Write` makes it: the call
`(n, t)` is made at instant `t`, and its bytes go out once the returned wait,
if positive, has been slept. Each call gives its size and the instant its
bytes go out. -/
def admissions (tb : TokenBucket) : List (Nat × Int) → List (Nat × Int)
  | [] => []
  | (n, t) :: calls =>
    (n, if (tb.take n t).2 > 0 then t + (tb.take n t).2 else t) :: (tb.take n t).1.admissions calls

/-- The number of bytes that go out at an instant in `[a, b]`. -/
def admittedIn (adm : List (Nat × Int)) (a b : Int) : Nat :=
  ((adm.filter fun p => a ≤ p.2 ∧ p.2 ≤ b).map Prod.fst).sum

/-- One token a second, and calls of one token each: at `0`, again at `0`, at
`1 s` when the second call's wait is over, again at `1 s`, and at `2 s`. Each
call comes no earlier than the previous one's bytes went out, and in the
second `[1 s, 2 s]` four tokens go out, where a rate of one token a second
with one second of burst allows two. -/
theorem admissions_exceed_rate :
    (newTokenBucket 1 0).admissions [(1, 0), (1, 0), (1, second), (1, second), (1, 2 * second)] =
      [(1, 0), (1, second), (1, second), (1, 2 * second), (1, 2 * second)] ∧
    admittedIn [(1, 0), (1, second), (1, second), (1, 2 * second), (1, 2 * second)]
      second (2 * second) = 4 ∧
    ¬ ((4 : ℚ) ≤ (newTokenBucket 1 0).rate * (((2 * second - second : Int) : ℚ) / second) +
      (newTokenBucket 1 0).rate) := by
  have h₀ : (newTokenBucket 1 0).take 1 0 = (⟨1, 0, 1, 0⟩, 0) := by
    norm_num [take, refill, elapsed, newTokenBucket]
  have h₁ : (⟨1, 0, 1, 0⟩ : TokenBucket).take 1 0 = (⟨1, 0, 1, 0⟩, second) := by
    norm_num [take, refill, elapsed, durationOfFloat, second]
  have h₂ (t : Int) : (⟨1, 0, 1, t⟩ : TokenBucket).take 1 (t + second) = (⟨1, 0, 1, t + second⟩, 0) := by
    norm_num [take, refill, elapsed, second]
  have h₃ (t : Int) : (⟨1, 0, 1, t⟩ : TokenBucket).take 1 t = (⟨1, 0, 1, t⟩, second) := by
    norm_num [take, refill, elapsed, durationOfFloat, second]
  have e₁ : (⟨1, 0, 1, 0⟩ : TokenBucket).take 1 second = (⟨1, 0, 1, second⟩, 0) := by
    simpa using h₂ 0
  have e₃ : (⟨1, 0, 1, second⟩ : TokenBucket).take 1 (2 * second) = (⟨1, 0, 1, 2 * second⟩, 0) := by
    rw [two_mul]; exact h₂ second
  refine ⟨?_, by decide, by norm_num [newTokenBucket, second]⟩
  simp only [admissions, h₀, h₁, e₁, h₃ second, e₃]
  norm_num [second]

end TokenBucket

end TunnelMesh.Benchmark
