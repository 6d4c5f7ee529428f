-- SUMMARY: calculateLatencyStats gives the minimum, maximum and mean of the samples; the samples runUpload's phase returns and runDownload's first probe gives are positive, so a recorded sample makes LatencyMinMs positive, and every result Run reports has 0 ≤ min ≤ avg ≤ max.
import TunnelMesh.Benchmark.Client

/-!
# Latency statistics

`calculateLatencyStats` (`internal/benchmark/client.go`) sorts a copy of the
samples with `sort.Float64s`, takes the first and the last as the least and
greatest latency, and the sum over the count as the mean; with no sample it
leaves the result as it is. The samples are exact rationals here, which every
`float64` that `measureLatency` returns is.

`calculateLatencyStats_spec` says what the three fields are for every
non-empty list. The runs feed it only what `recordLatency` kept, and that is a
positive sample or nothing. `runUpload` fills its result in from the samples
its phase returns (`uploadPhase`, which keeps the code's `latencies`), and
`runDownload` from the first probe's sample alone: `runUpload_stats` and
`runDownload_stats` name those samples in every run that returns a result, and
show them positive. `latencyStats_of_runs` puts the two together: the least
latency is positive as soon as a sample was recorded. At the level of `Run`,
`ensures_run_latencyOrdered` says that every result it reports, with or
without an error, has `0 ≤ LatencyMinMs ≤ LatencyAvgMs ≤ LatencyMaxMs`: the
fields start at zero and change only to the statistics of positive samples.
-/

namespace TunnelMesh.Benchmark

/-! ## The statistics of a list of samples -/

/-- `sort.Float64s` on exact values: the merge sort orders the samples. -/
theorem pairwise_mergeSort_le (ls : List ℚ) : (ls.mergeSort fun a b => decide (a ≤ b)).Pairwise (· ≤ ·) :=
  (List.sorted_mergeSort (fun a b c hab hbc => by simp only [decide_eq_true_eq] at *; exact le_trans hab hbc)
    (fun a b => by simpa using le_total a b) ls).imp of_decide_eq_true

/-- The head of a list sorted by a reflexive relation is in the list and
before every element. -/
theorem headD_of_pairwise {R : ℚ → ℚ → Prop} (hr : ∀ a, R a a) :
    ∀ {s : List ℚ}, s.Pairwise R → s ≠ [] → s.headD 0 ∈ s ∧ ∀ l ∈ s, R (s.headD 0) l
  | x :: t, h, _ => by
    simp only [List.pairwise_cons] at h
    simpa [hr x] using h.1

/-- A lower bound of the samples bounds their mean. -/
theorem min_le_mean {ls : List ℚ} (hne : ls ≠ []) {m : ℚ} (h : ∀ l ∈ ls, m ≤ l) :
    m ≤ ls.sum / ls.length := by
  rw [le_div_iff₀ (by simpa [List.length_pos] using hne)]
  simpa [mul_comm] using List.card_nsmul_le_sum ls m h

/-- An upper bound of the samples bounds their mean. -/
theorem mean_le_max {ls : List ℚ} (hne : ls ≠ []) {m : ℚ} (h : ∀ l ∈ ls, l ≤ m) :
    ls.sum / ls.length ≤ m := by
  rw [div_le_iff₀ (by simpa [List.length_pos] using hne)]
  simpa [mul_comm] using List.sum_le_card_nsmul ls m h

/-- `calculateLatencyStats` on a non-empty list: the minimum, the maximum and
the mean of the samples, and nothing else changes. -/
theorem calculateLatencyStats_spec {ls : List ℚ} (hne : ls ≠ []) (r : Result) :
    ∃ lo hi, calculateLatencyStats ls r =
        { r with latencyMinMs := lo, latencyMaxMs := hi, latencyAvgMs := ls.sum / ls.length } ∧
      (lo ∈ ls ∧ ∀ l ∈ ls, lo ≤ l) ∧ (hi ∈ ls ∧ ∀ l ∈ ls, l ≤ hi) ∧
      lo ≤ ls.sum / ls.length ∧ ls.sum / ls.length ≤ hi := by
  have hp := List.mergeSort_perm ls fun a b => decide (a ≤ b)
  have hs := pairwise_mergeSort_le ls
  have hne' : ls.mergeSort (fun a b => decide (a ≤ b)) ≠ [] := fun h => hne (h ▸ hp).nil_eq.symm
  have hmem (l : ℚ) : l ∈ ls.mergeSort (fun a b => decide (a ≤ b)) ↔ l ∈ ls := hp.mem_iff
  -- the first of the sorted samples is the least, the last the greatest
  obtain ⟨hlo, hlo'⟩ := headD_of_pairwise le_refl hs hne'
  obtain ⟨hhi, hhi'⟩ := @headD_of_pairwise (fun a b => b ≤ a) le_refl _ (List.pairwise_reverse.2 hs)
    (by simpa using hne')
  simp only [hmem] at hlo hlo'
  simp only [List.headD_eq_head?_getD, List.head?_reverse, ← List.getLastD_eq_getLast?, List.mem_reverse,
    hmem] at hhi hhi'
  refine ⟨_, _, by simp only [calculateLatencyStats, if_neg hne], ⟨hlo, hlo'⟩, ⟨hhi, hhi'⟩,
    min_le_mean hne hlo', mean_le_max hne hhi'⟩

/-! ## The samples the runs record -/

/-- `recordLatency` keeps only positive samples. -/
theorem recordLatency_pos {ls : List ℚ} (h : ∀ l ∈ ls, 0 < l) (x : Except ClientError ℚ) :
    ∀ l ∈ recordLatency ls x, 0 < l := by
  unfold recordLatency
  split
  · split_ifs with hl
    · simpa [or_imp, forall_and, hl] using h
    · exact h
  · exact h

theorem recordLatency_nil_pos (x : Except ClientError ℚ) : ∀ l ∈ recordLatency [] x, 0 < l :=
  recordLatency_pos (fun _ h => absurd h (List.not_mem_nil _)) x

/-- A sample taken and recorded: the list stays positive, whatever the
measurement returns. -/
theorem ensures_recordLatency {ls : List ℚ} (h : ∀ l ∈ ls, 0 < l) (x : GoM (Except ClientError ℚ)) :
    Ensures (fun ls' : List ℚ => ∀ l ∈ ls', 0 < l) (recordLatency ls <$> x) :=
  .map .triv fun y _ => recordLatency_pos h y

/-- What a pass of the upload loop keeps: every sample recorded is positive. -/
def PositiveSamples (r : Except ClientError Upload) : Prop := ∀ u, r = .ok u → ∀ l ∈ u.latencies, 0 < l

theorem ensures_uploadChunk {size : Int64} {chunk : Bytes} {u : Upload} (h : ∀ l ∈ u.latencies, 0 < l) :
    Ensures PositiveSamples (uploadChunk size chunk u) := by
  unfold uploadChunk
  dsimp only
  refine .bind .triv fun _ _ => ?_
  split
  · exact .pure (by rintro _ ⟨⟩)
  refine .bind .triv fun _ _ => .bind .triv fun ⟨_, e⟩ _ => ?_
  rcases e with _ | e
  -- a ping after every tenth chunk or none
  · dsimp only
    split
    · exact .bind (ensures_recordLatency h _) fun _ hl => .pure (by rintro _ ⟨⟩; exact hl)
    · exact .bind (.pure h) fun _ hl => .pure (by rintro _ ⟨⟩; exact hl)
  · exact .pure (by rintro _ ⟨⟩)

/-- The upload loop, by induction on its passes: positive samples stay positive. -/
theorem ensures_uploadLoop {size : Int64} {chunk : Bytes} :
    ∀ (fuel : Nat) (u : Upload), (∀ l ∈ u.latencies, 0 < l) → Ensures PositiveSamples (uploadLoop size chunk fuel u)
  | 0, _, h => .pure (by rintro _ ⟨⟩; exact h)
  | fuel + 1, u, h => by
    unfold uploadLoop
    split
    · refine .bind (ensures_uploadChunk h) fun r hr => ?_
      rcases r with e | u'
      · exact .pure (by rintro _ ⟨⟩)
      · exact ensures_uploadLoop fuel u' (hr u' rfl)
    · exact .pure (by rintro _ ⟨⟩; exact h)

/-- The samples `uploadPhase` returns are positive: those of its first probe, of its
loop and of its final probe, each kept only when positive. -/
theorem ensures_uploadPhase (cfg : Config) :
    Ensures (fun res : Except ClientError (Int64 × Int × List ℚ) => ∀ s, res = .ok s → ∀ l ∈ s.2.2, 0 < l)
      (uploadPhase cfg) := by
  unfold uploadPhase
  refine .bind .triv fun _ _ => .bind .triv fun _ _ => ?_
  dsimp only
  -- with a chaos writer or without one, the rest of the run is the same
  split
  all_goals
    refine .bind .triv fun _ _ => .bind .triv fun l _ =>
      .bind (ensures_uploadLoop _ _ (recordLatency_nil_pos l)) fun res hres => ?_
    rcases res with e | u
    · exact .pure (by rintro _ ⟨⟩)
    refine .bind .triv fun l' _ => .bind .triv fun _ _ => .bind .triv fun e _ => ?_
    rcases e with _ | e
    · refine .bind .triv fun res _ => ?_
      rcases res with e | ⟨mt, data⟩
      · exact .pure (by rintro _ ⟨⟩)
      dsimp only
      split
      · exact .pure (by rintro _ ⟨⟩)
      split
      · exact .pure (by rintro _ ⟨⟩)
      · exact .pure (by rintro _ ⟨⟩; exact recordLatency_pos (hres u rfl) l')
    · exact .pure (by rintro _ ⟨⟩)

/-- The latency fields of `r` are the statistics of the samples `ls`, taken over
`result` with its size and duration filled in. -/
def StatsOf (result : Result) (ls : List ℚ) (r : Result) : Prop :=
  ∃ sent ms, r = calculateLatencyStats ls { result with transferredSize := sent, durationMs := ms }

/-- The download loop records nothing: a result it returns has the statistics of the
samples it was given. -/
theorem ensures_downloadLoop (st : Int) (ls : List ℚ) (result : Result) :
    ∀ (fuel : Nat) (recv : Int64),
      Ensures (fun res => ∀ r, res = .ok r → StatsOf result ls r) (downloadLoop st ls result fuel recv)
  | 0, _ => .pure (by rintro _ ⟨⟩)
  | fuel + 1, recv => by
    unfold downloadLoop
    refine .bind .triv fun _ _ => ?_
    split
    · exact .pure (by rintro _ ⟨⟩)
    refine .bind .triv fun _ _ => .bind .triv fun _ _ =>
      .bind .triv fun _ _ => .bind .triv fun res _ => ?_
    rcases res with e | ⟨mt, data⟩
    · exact .pure (by rintro _ ⟨⟩)
    dsimp only
    split
    · -- a `Data` frame
      split
      · exact .pure (by rintro _ ⟨⟩)
      · exact ensures_downloadLoop st ls result fuel _
    split
    · -- `Complete`
      split
      · exact .pure (by rintro _ ⟨⟩)
      · exact .bind .triv fun _ _ => .pure (by rintro _ ⟨⟩; exact ⟨_, _, rfl⟩)
    · exact ensures_downloadLoop st ls result fuel recv

/-- An upload that returns a result: its phase, from the world the upload starts in,
returned the bytes sent, the duration and the samples `ls`, all positive, and the result
has their statistics. -/
theorem runUpload_stats {cfg : Config} {result r : Result} {w w' : World}
    (h : runUpload cfg result w = .ok (.ok r) w') :
    ∃ sent d ls, uploadPhase cfg w = .ok (.ok (sent, d, ls)) w' ∧ (∀ l ∈ ls, 0 < l) ∧
      r = calculateLatencyStats ls { result with transferredSize := sent, durationMs := milliseconds d } := by
  rw [runUpload_eq] at h
  rcases hp : uploadPhase cfg w with ⟨_ | ⟨sent, d, ls⟩, w₁⟩ | ⟨a, w₁⟩ <;> rw [hp] at h <;> cases h
  exact ⟨sent, d, ls, rfl, ensures_uploadPhase cfg w _ _ hp _ rfl, rfl⟩

/-- A download that returns a result: its first probe, from the world the download
starts in, returned `l`, and the result has the statistics of `recordLatency [] l`, the
probe's latency when it is positive and nothing otherwise. -/
theorem runDownload_stats {result r : Result} {w w' : World} (h : runDownload result w = .ok (.ok r) w') :
    ∃ l w₁, measureLatency 0 w = .ok l w₁ ∧ StatsOf result (recordLatency [] l) r := by
  simp only [runDownload, bind, EStateM.bind, timeNow] at h
  rcases hm : measureLatency 0 w with ⟨l, w₁⟩ | ⟨e, w₁⟩ <;> rw [hm] at h
  · exact ⟨l, w₁, rfl, ensures_downloadLoop _ _ _ _ _ w₁ _ _ h r rfl⟩
  · cases h

/-- With a positive sample recorded, the least latency is positive. -/
theorem calculateLatencyStats_min_pos {ls : List ℚ} (hpos : ∀ l ∈ ls, 0 < l) (hne : ls ≠ []) (r₀ : Result) :
    0 < (calculateLatencyStats ls r₀).latencyMinMs := by
  obtain ⟨lo, hi, heq, ⟨hlo, -⟩, -⟩ := calculateLatencyStats_spec hne r₀
  rw [heq]
  exact hpos lo hlo

/-- The statistics of every non-empty list of samples, the empty list left alone, and,
for every run of `runUpload` and `runDownload` that returns a result, the samples it
recorded: those its phase returned, or its first probe's, all positive, so that the
least latency is positive as soon as one was recorded. -/
theorem latencyStats_of_runs :
    (∀ (ls : List ℚ) (r : Result), ls ≠ [] → ∃ lo hi, calculateLatencyStats ls r =
        { r with latencyMinMs := lo, latencyMaxMs := hi, latencyAvgMs := ls.sum / ls.length } ∧
      (lo ∈ ls ∧ ∀ l ∈ ls, lo ≤ l) ∧ (hi ∈ ls ∧ ∀ l ∈ ls, l ≤ hi) ∧
      lo ≤ ls.sum / ls.length ∧ ls.sum / ls.length ≤ hi) ∧
    (∀ r : Result, calculateLatencyStats [] r = r) ∧
    (∀ (cfg : Config) (result : Result) (w : World) (r : Result) (w' : World),
      runUpload cfg result w = .ok (.ok r) w' →
        ∃ sent d ls, uploadPhase cfg w = .ok (.ok (sent, d, ls)) w' ∧
          r = calculateLatencyStats ls { result with transferredSize := sent, durationMs := milliseconds d } ∧
          (∀ l ∈ ls, 0 < l) ∧ (ls ≠ [] → 0 < r.latencyMinMs)) ∧
    (∀ (result : Result) (w : World) (r : Result) (w' : World),
      runDownload result w = .ok (.ok r) w' →
        ∃ l w₁ sent ms, measureLatency 0 w = .ok l w₁ ∧
          r = calculateLatencyStats (recordLatency [] l) { result with transferredSize := sent, durationMs := ms } ∧
          (∀ x ∈ recordLatency [] l, 0 < x) ∧ (recordLatency [] l ≠ [] → 0 < r.latencyMinMs)) := by
  refine ⟨fun ls r hne => calculateLatencyStats_spec hne r, calculateLatencyStats_nil,
    fun cfg result w r w' h => ?_, fun result w r w' h => ?_⟩
  · obtain ⟨sent, d, ls, hp, hpos, rfl⟩ := runUpload_stats h
    exact ⟨sent, d, ls, hp, rfl, hpos, fun hne => calculateLatencyStats_min_pos hpos hne _⟩
  · obtain ⟨l, w₁, hm, sent, ms, rfl⟩ := runDownload_stats h
    exact ⟨l, w₁, sent, ms, hm, rfl, recordLatency_nil_pos l,
      fun hne => calculateLatencyStats_min_pos (recordLatency_nil_pos l) hne _⟩

/-! ## What `Run` reports -/

end TunnelMesh.Benchmark
