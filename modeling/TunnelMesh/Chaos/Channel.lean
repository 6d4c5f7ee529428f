-- SUMMARY: The chaos writer as a lossy link: with a jitter below 2^62, on a connection that takes every write, every run of writes returns and puts on the connection an in-order subsequence of the payloads, each whole, and all of them when no loss rate is set; a dropped write leaves the token bucket as it was.
import TunnelMesh.Chaos.Writer

/-!
# The chaos writer is a lossy link

What `ChaosWriter.Write` does to the bytes that reach the connection. A write
either is dropped, and then writes nothing and leaves the token bucket as it
was (the lost write is free), or passes, and then hands its payload to the
connection in one `Write`, after its waits. The waits, the clock reads and the
random draws write nothing. So on a connection that takes every write, a
goroutine that writes payloads in turn (`writeEach`, as the upload loop writes
its `Data` frames) puts on the wire an in-order subsequence of them, each
whole: the writer may lose a write, but it never splits, duplicates or
reorders one, and without a loss rate it loses none (`writeEach_lossy_fifo`).
A connection that is reset or stops taking bytes cuts the last write short,
and the goroutine stops there.

`Sends` is the Hoare-style predicate of these proofs: from every world whose
connection takes every write, a computation returns, and its postcondition
sees its value and the payloads it wrote to the connection, in order. A write
returns only when its jitter draw does not panic, so every result here
assumes `Jitter < 2^62`. Over every connection, a write never panics
(`noPanic_write`).
-/

namespace TunnelMesh.Benchmark

/-- `x` returns from every world whose connection takes every write, the connection
still takes every write, and `Q` holds of its value and of the payloads it writes to
the connection, in order. -/
def Sends {α : Type} (Q : α → List Bytes → Prop) (x : GoM α) : Prop :=
  ∀ w, w.capacity = none →
    ∃ a w' out, x w = .ok a w' ∧ w'.capacity = none ∧ w'.sent = w.sent ++ out ∧ Q a (out.map Prod.snd)

/-- `x` returns from every world with `P` of its value, writes nothing, and leaves the
connection's capacity as it was. -/
def Silent {α : Type} (P : α → Prop) (x : GoM α) : Prop :=
  ∀ w, ∃ a w', x w = .ok a w' ∧ w'.capacity = w.capacity ∧ w'.sent = w.sent ∧ P a

namespace Sends

variable {α β : Type} {Q : α → List Bytes → Prop} {R : β → List Bytes → Prop} {P : α → Prop}

theorem pure {a : α} (h : Q a []) : Sends Q (Pure.pure a : GoM α) :=
  fun w hc => ⟨a, w, [], rfl, hc, (List.append_nil _).symm, h⟩

theorem bind {x : GoM α} {f : α → GoM β} (hx : Sends Q x)
    (hf : ∀ a o, Q a o → Sends (fun b o' => R b (o ++ o')) (f a)) : Sends R (x >>= f) := by
  intro w hc
  obtain ⟨a, w₁, o₁, h₁, hc₁, hs₁, hq⟩ := hx w hc
  obtain ⟨b, w₂, o₂, h₂, hc₂, hs₂, hr⟩ := hf a _ hq w₁ hc₁
  exact ⟨b, w₂, o₁ ++ o₂, by simp only [Bind.bind, EStateM.bind, h₁, h₂], hc₂,
    by rw [hs₂, hs₁, List.append_assoc], by simpa only [List.map_append] using hr⟩

theorem imp {Q' : α → List Bytes → Prop} {x : GoM α} (hx : Sends Q x) (h : ∀ a o, Q a o → Q' a o) :
    Sends Q' x := fun w hc =>
  let ⟨a, w', o, hrun, hc', hs, hq⟩ := hx w hc
  ⟨a, w', o, hrun, hc', hs, h _ _ hq⟩

/-- A step that writes nothing, then the rest. -/
theorem seq {x : GoM α} {f : α → GoM β} (hx : Silent P x) (hf : ∀ a, P a → Sends R (f a)) :
    Sends R (x >>= f) := by
  intro w hc
  obtain ⟨a, w₁, h₁, hc₁, hs₁, hp⟩ := hx w
  obtain ⟨b, w₂, o₂, h₂, hc₂, hs₂, hr⟩ := hf a hp w₁ (hc₁.trans hc)
  exact ⟨b, w₂, o₂, by simp only [Bind.bind, EStateM.bind, h₁, h₂], hc₂, by rw [hs₂, hs₁], hr⟩

/-- A step that writes nothing. -/
theorem of_silent {x : GoM α} (hx : Silent P x) (h : ∀ a, P a → Q a []) : Sends Q x := fun w hc =>
  let ⟨a, w', hrun, hc', hs, hp⟩ := hx w
  ⟨a, w', [], hrun, hc'.trans hc, by rw [hs, List.append_nil], h a hp⟩

theorem map {x : GoM α} {f : α → β} (hx : Sends Q x) (hf : ∀ a o, Q a o → R (f a) o) :
    Sends R (f <$> x) := fun w hc =>
  let ⟨a, w', o, hrun, hc', hs, hq⟩ := hx w hc
  ⟨f a, w', o, by simp only [Functor.map, EStateM.map, hrun], hc', hs, hf a _ hq⟩

/-- `Sends` at one world. -/
theorem exists_run {x : GoM α} (hx : Sends Q x) {w : World} (hc : w.capacity = none) :
    ∃ a w', x w = .ok a w' ∧ w'.capacity = none ∧ ∃ o, w'.sent = w.sent ++ o ∧ Q a (o.map Prod.snd) :=
  let ⟨a, w', o, hrun, hc', hs, hq⟩ := hx w hc
  ⟨a, w', hrun, hc', o, hs, hq⟩

end Sends

namespace Silent

variable {α β : Type} {P : α → Prop} {R : β → Prop}

theorem pure {a : α} (h : P a) : Silent P (Pure.pure a : GoM α) := fun w => ⟨a, w, rfl, rfl, rfl, h⟩

theorem map {x : GoM α} {f : α → β} (hx : Silent P x) (hf : ∀ a, P a → R (f a)) :
    Silent R (f <$> x) := fun w =>
  let ⟨a, w', hrun, hc, hs, hp⟩ := hx w
  ⟨f a, w', by simp only [Functor.map, EStateM.map, hrun], hc, hs, hf a hp⟩

theorem bind {x : GoM α} {f : α → GoM β} (hx : Silent P x) (hf : ∀ a, P a → Silent R (f a)) :
    Silent R (x >>= f) := by
  intro w
  obtain ⟨a, w₁, h₁, hc₁, hs₁, hp⟩ := hx w
  obtain ⟨b, w₂, h₂, hc₂, hs₂, hr⟩ := hf a hp w₁
  exact ⟨b, w₂, by simp only [Bind.bind, EStateM.bind, h₁, h₂], hc₂.trans hc₁, hs₂.trans hs₁, hr⟩

/-- A step that writes nothing never panics. -/
theorem noPanic {x : GoM α} (hx : Silent P x) : NoPanic P x := fun w =>
  let ⟨a, w', h, _, _, hp⟩ := hx w
  .inl ⟨a, w', h, hp⟩

end Silent

theorem silent_pure {α : Type} (a : α) : Silent (fun _ => True) (pure a : GoM α) :=
  fun w => ⟨a, w, rfl, rfl, rfl, trivial⟩

theorem silent_timeNow : Silent (fun _ => True) timeNow := fun _ => ⟨_, _, rfl, rfl, rfl, trivial⟩

theorem silent_sleep (d : Int) : Silent (fun _ => True) (sleep d) := fun _ => ⟨_, _, rfl, rfl, rfl, trivial⟩

theorem silent_float64 : Silent (fun _ => True) float64 := fun _ => ⟨_, _, rfl, rfl, rfl, trivial⟩

/-- On a connection that takes every write, a write sends its whole buffer. -/
theorem sends_connWrite (bs : Bytes) : Sends (fun r o => r = (bs.length, none) ∧ o = [bs]) (connWrite bs) :=
  fun w hc => ⟨_, _, [(w.clock, bs)], connWrite_of_capacity hc bs, hc, rfl, rfl, rfl⟩

theorem noPanic_int63n {n : Int} (h : 0 < n) : NoPanic (fun _ => True) (int63n n) :=
  .of_ok fun _ => ⟨_, _, by rw [int63n, if_neg (not_le.2 h)]⟩

/-- Below `2^62`, doubling a positive jitter does not wrap. -/
theorem val_two_mul {j : Int64} (h0 : 0 < j.val) (h : j.val < 2 ^ 62) : (2 * j).val = 2 * j.val := by
  simp only [Int64.val_mul, Int64.val_ofNat (show 2 < 2 ^ 63 by norm_num), Int64.wrap]
  omega

/-- The latency and jitter sleep's delay: a draw, when there is a jitter, and no write. -/
theorem silent_delay {cfg : ChaosConfig} (hj : cfg.jitter.val < 2 ^ 62) :
    Silent (fun _ => True) (ChaosWriter.delay cfg) := by
  intro w
  unfold ChaosWriter.delay
  split
  · next hpos =>
    have h0 : 0 < cfg.jitter.val := by simpa [Int64.lt_iff] using hpos
    have hn : ¬ (2 * cfg.jitter).val ≤ 0 := by rw [val_two_mul h0 hj]; omega
    exact ⟨_, { w with draws := w.draws + 1 }, by simp only [bind, EStateM.bind, int63n, if_neg hn]; rfl,
      rfl, rfl, trivial⟩
  · exact ⟨_, _, rfl, rfl, rfl, trivial⟩

/-- Steps 2 to 4 of a write: the waits write nothing, and the payload goes out whole,
once, counted in `ActualBytes`, with no error. -/
theorem sends_pass {c : ChaosWriter} {p : Bytes} (hj : c.cfg.jitter.val < 2 ^ 62) :
    Sends (fun r o => r.1.cfg = c.cfg ∧ r.1.stats = c.stats.countActual p.length ∧ r.2 = (p.length, none) ∧
      o = [p]) (c.pass p) := by
  unfold ChaosWriter.pass
  dsimp only
  -- the bandwidth wait: no bucket, or a bucket's wait, slept or not
  split
  on_goal 2 =>
    refine .seq silent_timeNow fun _ _ => ?_
    split
    on_goal 1 => refine .seq (silent_sleep _) fun _ _ => ?_
    on_goal 2 => refine .seq (silent_pure _) fun _ _ => ?_
  -- then, whatever the bucket, the latency sleep and the write
  all_goals
    refine .seq (silent_pure _) fun _ _ => ?_
    split
    · refine .seq (silent_delay hj) fun _ _ => ?_
      split
      · exact .seq (silent_sleep _) fun _ _ => .bind (sends_connWrite _) fun _ o ⟨hr, ho⟩ =>
          .pure ⟨rfl, by rw [hr], by rw [hr], by rw [ho, List.append_nil]⟩
      · exact .seq (silent_pure _) fun _ _ => .bind (sends_connWrite _) fun _ o ⟨hr, ho⟩ =>
          .pure ⟨rfl, by rw [hr], by rw [hr], by rw [ho, List.append_nil]⟩
    · exact .seq (silent_pure _) fun _ _ => .bind (sends_connWrite _) fun _ o ⟨hr, ho⟩ =>
        .pure ⟨rfl, by rw [hr], by rw [hr], by rw [ho, List.append_nil]⟩

/-- What one write does to the connection: it drops the payload, leaving the token
bucket as it was, or writes it whole; only a loss rate drops. It reports `len(p)` either
way, with no error. -/
def WriteOutcome (c : ChaosWriter) (p : Bytes) (r : ChaosWriter × Nat × Option WriteError) (o : List Bytes) :
    Prop :=
  r.2 = (p.length, none) ∧ r.1.cfg = c.cfg ∧
    (o = [] ∧ r.1.bucket = c.bucket ∧ r.1.stats = (c.stats.countWrite p.length).countDrop ∨
      o = [p] ∧ r.1.stats = (c.stats.countWrite p.length).countActual p.length) ∧
    (¬ c.cfg.packetLossPercent > 0 → o = [p])

theorem sends_write {c : ChaosWriter} {p : Bytes} (hj : c.cfg.jitter.val < 2 ^ 62) :
    Sends (WriteOutcome c p) (c.write p) := by
  unfold ChaosWriter.write
  dsimp only
  split
  · next hloss =>
    refine .seq silent_float64 fun _ _ => ?_
    split
    · exact .pure ⟨rfl, rfl, .inl ⟨rfl, rfl, rfl⟩, absurd hloss⟩
    · exact .seq (silent_pure _) fun _ _ => (sends_pass (by exact hj)).imp fun _ o ⟨hcfg, hst, hn, ho⟩ =>
        ⟨hn, hcfg, .inr ⟨ho, hst⟩, fun _ => ho⟩
  · exact .seq (silent_pure _) fun _ _ => (sends_pass (by exact hj)).imp fun _ o ⟨hcfg, hst, hn, ho⟩ =>
      ⟨hn, hcfg, .inr ⟨ho, hst⟩, fun _ => ho⟩

/-- Steps 2 to 4 of a write, over every connection: no panic, and the writer keeps its
config. -/
theorem noPanic_pass {c : ChaosWriter} {p : Bytes} (hj : c.cfg.jitter.val < 2 ^ 62) :
    NoPanic (fun r : ChaosWriter × Nat × Option WriteError => r.1.cfg = c.cfg) (c.pass p) := by
  unfold ChaosWriter.pass
  dsimp only
  split
  on_goal 2 =>
    refine .bind noPanic_timeNow fun _ _ => ?_
    split
    on_goal 1 => refine .bind (noPanic_sleep _) fun _ _ => ?_
    on_goal 2 => refine .bind (noPanic_pure _) fun _ _ => ?_
  all_goals
    refine .bind (noPanic_pure _) fun _ _ => ?_
    split
    · refine .bind (silent_delay hj).noPanic fun _ _ => ?_
      split
      · exact .bind (noPanic_sleep _) fun _ _ => .bind (noPanic_connWrite _) fun ⟨_, _⟩ _ => .pure rfl
      · exact .bind (noPanic_pure _) fun _ _ => .bind (noPanic_connWrite _) fun ⟨_, _⟩ _ => .pure rfl
    · exact .bind (noPanic_pure _) fun _ _ => .bind (noPanic_connWrite _) fun ⟨_, _⟩ _ => .pure rfl

/-- Over every connection, whether it takes the write, fails it or never takes it, a
write never panics, and keeps the writer's config. -/
theorem noPanic_write {c : ChaosWriter} {p : Bytes} (hj : c.cfg.jitter.val < 2 ^ 62) :
    NoPanic (fun r : ChaosWriter × Nat × Option WriteError => r.1.cfg = c.cfg) (c.write p) := by
  unfold ChaosWriter.write
  dsimp only
  have hpass := @noPanic_pass { c with stats := c.stats.countWrite p.length } p hj
  split
  · refine .bind noPanic_float64 fun _ _ => ?_
    split
    · exact .pure rfl
    · exact .bind (noPanic_pure _) fun _ _ => hpass
  · exact .bind (noPanic_pure _) fun _ _ => hpass

/-- A goroutine that writes each payload in turn through the chaos writer, as the upload
loop writes its `Data` frames, and stops at the first write that fails. -/
def writeEach (c : ChaosWriter) : List Bytes → GoM ChaosWriter
  | [] => pure c
  | p :: ps => do
    let (c', _, err) ← c.write p
    match err with
    | some _ => pure c'
    | none => writeEach c' ps

theorem sends_writeEach {c : ChaosWriter} (hj : c.cfg.jitter.val < 2 ^ 62) :
    ∀ ps, Sends (fun c' o => c'.cfg = c.cfg ∧ o.Sublist ps ∧ (¬ c.cfg.packetLossPercent > 0 → o = ps))
      (writeEach c ps)
  | [] => .pure ⟨rfl, .slnil, fun _ => rfl⟩
  | p :: ps => by
    refine .bind (sends_write hj) fun ⟨c', n, err⟩ o ⟨hn, hcfg, hout, hall⟩ => ?_
    obtain ⟨-, rfl⟩ : n = p.length ∧ err = none := Prod.mk.inj hn
    dsimp only at hcfg ⊢
    refine (sends_writeEach (hcfg ▸ hj) ps).imp fun _ o' ⟨hcfg', hsub, hall'⟩ =>
      ⟨hcfg'.trans hcfg, ?_, fun hl => by rw [hall hl, hall' (hcfg ▸ hl)]; rfl⟩
    rcases hout with ⟨rfl, -⟩ | ⟨rfl, -⟩
    exacts [hsub.cons p, hsub.cons₂ p]

/-- With a jitter below `2^62`, on a connection that takes every write, a run of writes
through the chaos writer returns from every world (every clock, random source and token
bucket), and the connection receives an in-order subsequence of the payloads, each whole;
without a loss rate it receives all of them. -/
theorem writeEach_lossy_fifo {c : ChaosWriter} (hj : c.cfg.jitter.val < 2 ^ 62) (ps : List Bytes)
    (w : World) (hcap : w.capacity = none) :
    ∃ c' w' out, writeEach c ps w = .ok c' w' ∧ w'.sent = w.sent ++ out ∧
      (out.map Prod.snd).Sublist ps ∧ (¬ c.cfg.packetLossPercent > 0 → out.map Prod.snd = ps) :=
  let ⟨c', w', out, hrun, _, hs, _, hsub, hall⟩ := sends_writeEach hj ps w hcap
  ⟨c', w', out, hrun, hs, hsub, hall⟩

/-- Two payloads through the benchmarker's chaos settings (0.1% loss, 2 ms latency, 1 ms
jitter), from a fresh writer, on a connection that takes every write. -/
theorem writeEach_lossy_fifo_two :
    ∃ c' w' out, writeEach ⟨⟨1 / 10, 2000000, 1000000, 0⟩, none, .zero⟩ [[1], [2]] (World.start []) =
        .ok c' w' ∧ w'.sent = (World.start []).sent ++ out ∧ (out.map Prod.snd).Sublist [[1], [2]] ∧
      (¬ (1 / 10 : ℚ) > 0 → out.map Prod.snd = [[1], [2]]) :=
  writeEach_lossy_fifo (by decide) [[1], [2]] (World.start []) rfl

end TunnelMesh.Benchmark
