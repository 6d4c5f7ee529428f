-- SUMMARY: What the client puts on a connection that takes every write, in every run, whatever the peer, the timing, the chaos and the cancellation: Start, then a download's single Ping or an upload's frames in order, each whole, Data frames lost only under a loss rate, cut short only by the context or by a read that waits for ever.
import TunnelMesh.Benchmark.Upload
import TunnelMesh.Chaos.Channel

/-!
# What the client writes

What `Client.Run` writes to a connection that takes every write, for every peer,
every timing of the peer's frames (a peer may also keep the connection open and
say nothing, and a read with no deadline then waits for ever), every chaos
setting (with a jitter below `2^62`, so that the jitter draw does not panic),
every cancellation of the context and every random source. The reads never
write; the probes write their `Ping` whole on the connection, whatever comes
back; the upload hands each `Data` frame to the chaos writer in one `Write`
("For chaos, we need to write the full message"), which drops it whole or
writes it whole. So the peer always receives whole frames (`RunWrote`):

* nothing, exactly for a config that `Validate` rejects;
* `Start` alone, exactly after a failed or refused handshake, when `Run` gives
  no result;
* for a download, `Start` and a single `Ping`: the client never answers the peer;
* for an upload, `Start` and the frames of `uploadFrames` in order, with `Data`
  frames left out only under a loss rate, and cut short only when the upload
  reports that the context was done (after some passes of the loop) or when a
  read waits for ever (`run_writes_whole_frames`).

The proofs use `Emits`, which extends the chaos writer's `Sends` to runs that
may wait for ever on a read: one lemma per function of the client
(`emits_measureLatency`, `emits_uploadChunk`, `emits_runDownload`), the upload
loop by induction on the chunks still to send (`emits_uploadLoop`), and `Run`
at the world it starts from, where the random source fixes the chunk.
-/

namespace TunnelMesh.Benchmark

/-! ## Whole frames -/

/-- The chunks `o` written to the connection are, back to back, frames matching `kept`. -/
def Wrote (kept : List UploadFrame) (o : List Bytes) : Prop :=
  ∃ fs, o.flatten = writeMessages fs ∧ List.Forall₂ UploadFrame.Matches kept fs

theorem Wrote.nil : Wrote [] [] := ⟨[], rfl, .nil⟩

theorem Wrote.append {k k' : List UploadFrame} {o o' : List Bytes} (h : Wrote k o) (h' : Wrote k' o') :
    Wrote (k ++ k') (o ++ o') :=
  let ⟨fs, hfs, hm⟩ := h
  let ⟨fs', hfs', hm'⟩ := h'
  ⟨fs ++ fs', by rw [List.flatten_append, hfs, hfs', writeMessages_append], List.rel_append hm hm'⟩

/-- The wire after writes `o`. -/
theorem wire_of_sent {w w' : World} {o : List (Int × Bytes)} (h : w'.sent = w.sent ++ o) :
    w'.wire = w.wire ++ (o.map Prod.snd).flatten := by
  rw [World.wire, h, List.map_append, List.flatten_append, ← World.wire]

/-- One frame, in whatever chunks it was written. -/
theorem wrote_frame {f : UploadFrame} {t : MessageType} {m : Message} {o : List Bytes}
    (h : o.flatten = writeMessage t m) (hm : f.Matches (t, m)) : Wrote [f] o :=
  ⟨[(t, m)], by rw [h, writeMessages, writeMessages, List.append_nil], .cons hm .nil⟩

/-! ## Steps that write nothing -/

/-- A read on the connection: it writes nothing, and the connection's capacity and
the random source stay. -/
def ReadOnly {α : Type} (x : EStateM ReadError World α) : Prop :=
  ∀ w, (stateAfter (x w)).sent = w.sent ∧ (stateAfter (x w)).capacity = w.capacity ∧
    (stateAfter (x w)).random = w.random

theorem ReadOnly.pure {α : Type} (a : α) : ReadOnly (Pure.pure a : EStateM ReadError World α) :=
  fun _ => ⟨rfl, rfl, rfl⟩

theorem ReadOnly.bind {α β : Type} {x : EStateM ReadError World α} {f : α → EStateM ReadError World β}
    (hx : ReadOnly x) (hf : ∀ a, ReadOnly (f a)) : ReadOnly (x >>= f) := by
  intro w
  have h := hx w
  simp only [Bind.bind, EStateM.bind]
  rcases hxw : x w with ⟨a, w'⟩ | ⟨e, w'⟩ <;> rw [hxw] at h
  · exact ⟨(hf a w').1.trans h.1, (hf a w').2.1.trans h.2.1, (hf a w').2.2.trans h.2.2⟩
  · exact h

theorem readOnly_connReadFull (n : Nat) : ReadOnly (connReadFull n) := by
  intro w
  unfold connReadFull
  split_ifs <;> (try split) <;> exact ⟨rfl, rfl, rfl⟩

theorem readOnly_readMessage : ReadOnly (readMessage connReader) := by
  have hr : ∀ n, ReadOnly (connReader.readFull n) := readOnly_connReadFull
  unfold readMessage Reader.readUint8 Reader.readUint32
  exact .bind (.bind (hr _) fun _ => .pure _) fun _ => .bind (.bind (hr _) fun _ => .pure _) fun _ =>
    .bind (hr _) fun _ => .pure _

theorem silent_ctxDone : Silent (fun _ => True) ctxDone := fun _ => ⟨_, _, rfl, rfl, rfl, trivial⟩

theorem silent_setReadDeadline (t : Int) : Silent (fun _ => True) (setReadDeadline t) :=
  fun _ => ⟨_, _, rfl, rfl, rfl, trivial⟩

theorem silent_get : Silent (fun _ => True) (get : GoM World) := fun _ => ⟨_, _, rfl, rfl, rfl, trivial⟩

/-- A read whose error comes back as a value: it returns, or waits for ever on a silent
peer; either way it writes nothing and keeps the connection's capacity and the random
source. -/
theorem attempt_readOnly {α : Type} {x : EStateM ReadError World α} (hx : ReadOnly x) (w : World) :
    ∃ w', w'.sent = w.sent ∧ w'.capacity = w.capacity ∧ w'.random = w.random ∧
      ((∃ r, attempt x w = .ok r w') ∨ attempt x w = .error .blocked w') := by
  have h := hx w
  unfold attempt
  rcases hxw : x w with ⟨a, w'⟩ | ⟨e, w'⟩ <;> rw [hxw] at h
  · exact ⟨w', h.1, h.2.1, h.2.2, .inl ⟨_, rfl⟩⟩
  · exact ⟨w', h.1, h.2.1, h.2.2, by cases e <;> simp⟩

/-! ## Runs that may wait for ever -/

/-- From `w`, `x` returns `a` in a world `w'` with `Φ (some a) w'`, or waits for ever in
`w'` with `Φ none w'`. -/
def Ends {α : Type} (x : GoM α) (w : World) (Φ : Option α → World → Prop) : Prop :=
  ∃ w', (∃ a, x w = .ok a w' ∧ Φ (some a) w') ∨ x w = .error .blocked w' ∧ Φ none w'

namespace Ends

variable {α β : Type} {x : GoM α} {f : α → GoM β} {w : World} {Φ Φ' : Option α → World → Prop}
  {Ψ : Option β → World → Prop}

theorem imp (h : Ends x w Φ) (hi : ∀ r w', Φ r w' → Φ' r w') : Ends x w Φ' :=
  let ⟨w', h'⟩ := h
  ⟨w', h'.imp (fun ⟨a, hx, hp⟩ => ⟨a, hx, hi _ _ hp⟩) fun ⟨hx, hp⟩ => ⟨hx, hi _ _ hp⟩⟩

/-- A first step that returns in `w₁`, then the rest. -/
theorem bind_ok {w₁ : World} {a : α} (hx : x w = .ok a w₁) (h : Ends (f a) w₁ Ψ) : Ends (x >>= f) w Ψ := by
  simp only [Ends, Bind.bind, EStateM.bind, hx]
  exact h

theorem bind (hx : Ends x w Φ) (hf : ∀ a w', Φ (some a) w' → Ends (f a) w' Ψ)
    (hb : ∀ w', Φ none w' → Ψ none w') : Ends (x >>= f) w Ψ := by
  obtain ⟨w₁, ⟨a, h₁, hp⟩ | ⟨h₁, hp⟩⟩ := hx
  · exact bind_ok h₁ (hf a w₁ hp)
  · exact ⟨w₁, .inr ⟨by simp only [Bind.bind, EStateM.bind, h₁], hb w₁ hp⟩⟩

end Ends

/-- From every world whose connection takes every write, `x` returns or waits for ever
on a read, the connection still takes every write, and `Q` holds of its value (`none`
when it waits) and of the payloads it wrote to the connection, in order. -/
def Emits {α : Type} (Q : Option α → List Bytes → Prop) (x : GoM α) : Prop :=
  ∀ w, w.capacity = none →
    Ends x w fun r w' => w'.capacity = none ∧ ∃ o, w'.sent = w.sent ++ o ∧ Q r (o.map Prod.snd)

namespace Emits

variable {α β γ : Type} {Q Q' : Option α → List Bytes → Prop} {R : Option β → List Bytes → Prop}
  {x : GoM α} {f : α → GoM β}

theorem pure {a : α} (h : Q (some a) []) : Emits Q (Pure.pure a : GoM α) :=
  fun w hc => ⟨w, .inl ⟨a, rfl, hc, [], (List.append_nil _).symm, h⟩⟩

theorem imp (hx : Emits Q x) (h : ∀ r o, Q r o → Q' r o) : Emits Q' x := fun w hc =>
  (hx w hc).imp fun _ _ ⟨hc', o, hs, hq⟩ => ⟨hc', o, hs, h _ _ hq⟩

/-- The rest, after a first step that returned in `w₁` having written `o₁`. -/
theorem after {w w₁ : World} {a : α} {o₁ : List (Int × Bytes)} (h₁ : x w = .ok a w₁)
    (hc₁ : w₁.capacity = none) (hs₁ : w₁.sent = w.sent ++ o₁)
    (hf : Emits (fun b o' => R b (o₁.map Prod.snd ++ o')) (f a)) :
    Ends (x >>= f) w fun r w' => w'.capacity = none ∧ ∃ o, w'.sent = w.sent ++ o ∧ R r (o.map Prod.snd) :=
  (Ends.bind_ok h₁ (hf w₁ hc₁)).imp fun _ _ ⟨hc', o, hs, hr⟩ =>
    ⟨hc', o₁ ++ o, by rw [hs, hs₁, List.append_assoc], by rwa [List.map_append]⟩

theorem bind (hx : Emits Q x) (hf : ∀ a o, Q (some a) o → Emits (fun b o' => R b (o ++ o')) (f a))
    (hb : ∀ o, Q none o → R none o) : Emits R (x >>= f) := fun w hc => by
  obtain ⟨w₁, ⟨a, h₁, hc₁, o₁, hs₁, hq⟩ | ⟨h₁, hc₁, o₁, hs₁, hq⟩⟩ := hx w hc
  · exact after h₁ hc₁ hs₁ (hf a _ hq)
  · exact ⟨w₁, .inr ⟨by simp only [Bind.bind, EStateM.bind, h₁], hc₁, o₁, hs₁, hb _ hq⟩⟩

/-- A step that returns, writing `o`, then the rest. -/
theorem send {S : α → List Bytes → Prop} (hx : Sends S x)
    (hf : ∀ a o, S a o → Emits (fun b o' => R b (o ++ o')) (f a)) : Emits R (x >>= f) := fun w hc =>
  let ⟨a, _, _, h₁, hc₁, hs₁, hs⟩ := hx w hc
  after h₁ hc₁ hs₁ (hf a _ hs)

/-- A step that writes nothing, then the rest. -/
theorem seq {P : α → Prop} (hx : Silent P x) (hf : ∀ a, P a → Emits R (f a)) : Emits R (x >>= f) :=
  fun w hc =>
    let ⟨a, _, h₁, hc₁, hs₁, hp⟩ := hx w
    after h₁ (hc₁.trans hc) (show _ = w.sent ++ [] by rw [hs₁, List.append_nil]) (hf a hp)

/-- A read, which writes nothing and may wait for ever, then the rest. -/
theorem read {y : EStateM ReadError World γ} {g : Except ReadError γ → GoM β} (hy : ReadOnly y)
    (hb : R none []) (hg : ∀ r, Emits R (g r)) : Emits R (attempt y >>= g) := fun w hc => by
  obtain ⟨w₁, hs₁, hc₁, -, ⟨r, h₁⟩ | h₁⟩ := attempt_readOnly hy w
  · exact after h₁ (hc₁.trans hc) (show _ = w.sent ++ [] by rw [hs₁, List.append_nil]) (hg r)
  · exact ⟨w₁, .inr ⟨by simp only [Bind.bind, EStateM.bind, h₁], hc₁.trans hc, [],
      by rw [hs₁, List.append_nil], hb⟩⟩

/-- A step that writes nothing. -/
theorem of_silent {P : α → Prop} (hx : Silent P x) (h : ∀ a, P a → Q (some a) []) : Emits Q x :=
  fun w hc =>
    let ⟨a, w', hrun, hc', hs, hp⟩ := hx w
    ⟨w', .inl ⟨a, hrun, hc'.trans hc, [], by rw [hs, List.append_nil], h a hp⟩⟩

theorem map {g : α → β} (hx : Emits Q x) (hg : ∀ a o, Q (some a) o → R (some (g a)) o)
    (hb : ∀ o, Q none o → R none o) : Emits R (g <$> x) := fun w hc => by
  obtain ⟨w', ⟨a, h, hc', o, hs, hq⟩ | ⟨h, hc', o, hs, hq⟩⟩ := hx w hc
  · exact ⟨w', .inl ⟨g a, by simp only [Functor.map, EStateM.map, h], hc', o, hs, hg a _ hq⟩⟩
  · exact ⟨w', .inr ⟨by simp only [Functor.map, EStateM.map, h], hc', o, hs, hb _ hq⟩⟩

/-- `Emits` at one world. -/
theorem exists_run (hx : Emits Q x) {w : World} (hc : w.capacity = none) :
    Ends x w fun r w' => ∃ o, w'.sent = w.sent ++ o ∧ Q r (o.map Prod.snd) :=
  (hx w hc).imp fun _ _ ⟨_, h⟩ => h

end Emits

/-! ## The client's frames -/

theorem sends_writeMessageConn (t : MessageType) (m : Message) :
    Sends (fun r o => r = none ∧ o.flatten = writeMessage t m) (writeMessageConn t m) :=
  fun w hc => ⟨none, _, frameWrites w.clock t m, writeMessageConn_eq t m hc, hc, rfl, rfl, flatten_frameWrites ..⟩

/-- A latency probe writes its `Ping`, whole, and nothing else, whether its read
returns or waits for ever. -/
theorem emits_measureLatency (seq : UInt32) :
    Emits (fun _ o => Wrote [.ping seq] o) (measureLatency seq) := by
  unfold measureLatency
  refine .seq silent_timeNow fun _ _ => .send (sends_writeMessageConn _ _) fun e o ⟨he, ho⟩ => ?_
  subst he
  have hw : Wrote [.ping seq] (o ++ []) := by rw [List.append_nil]; exact wrote_frame ho ⟨rfl, _, rfl⟩
  refine .seq silent_timeNow fun _ _ => .seq (silent_setReadDeadline _) fun _ _ =>
    .read readOnly_readMessage hw fun res => .of_silent (?_ : Silent (fun _ => True) _) fun _ _ => hw
  rcases res with e | ⟨mt, data⟩
  · exact silent_pure _
  · dsimp only
    split_ifs
    · exact silent_pure _
    · split
      · exact silent_pure _
      · exact .bind silent_timeNow fun _ _ => silent_pure _

/-- A `Data` frame that was written whole or not at all. -/
theorem wrote_data {m : DataMessage} {o : List Bytes}
    (h : o.flatten = [] ∨ o.flatten = writeMessage msgData (.data m)) :
    ∃ kept, Wrote kept o ∧ DataDrops [.data m] kept ∧
      (o.flatten = writeMessage msgData (.data m) → kept = [.data m]) :=
  let ⟨kept, gs, hbs, hd, hm, hall⟩ := dataFrame_drops h
  ⟨kept, ⟨gs, hbs, hm⟩, hd, hall⟩

/-! ## The upload -/

/-- The upload's chaos writer, if any, has the config `cc`. -/
def ChaosOf (cc : ChaosConfig) (chaos : Option ChaosWriter) : Prop :=
  ∀ c, chaos = some c → c.cfg = cc

theorem ChaosOf.none (cc : ChaosConfig) : ChaosOf cc none := fun _ h => nomatch h

section Passes

variable {cc : ChaosConfig} (hj : cc.jitter.val < 2 ^ 62)
include hj

/-- A `Data` frame, through the chaos writer or to the connection: written whole or not
at all, dropped only under a loss rate, with no error; the chaos writer keeps its
config. -/
theorem sends_writeDataFrame {chaos : Option ChaosWriter} (hu : ChaosOf cc chaos) (m : DataMessage) :
    Sends (fun r o => r.2 = none ∧ ChaosOf cc r.1 ∧
      (o.flatten = [] ∨ o.flatten = writeMessage msgData (.data m)) ∧
      (¬ cc.packetLossPercent > 0 → o.flatten = writeMessage msgData (.data m)))
      (writeDataFrame chaos m) := by
  unfold writeDataFrame
  rcases chaos with _ | c
  · exact .bind (sends_writeMessageConn _ _) fun _ o ⟨he, ho⟩ =>
      .pure ⟨he, .none cc, .inr (by rw [List.append_nil, ho]), fun _ => by rw [List.append_nil, ho]⟩
  · refine .bind (sends_write (hu c rfl ▸ hj)) fun ⟨c', n, err⟩ o ⟨hr, hcfg, hout, hall⟩ =>
      .pure ⟨congrArg Prod.snd hr, ?_, ?_, fun hl => ?_⟩
    · rintro _ ⟨⟩; exact hcfg.trans (hu c rfl)
    · rcases hout with ⟨rfl, -⟩ | ⟨rfl, -⟩ <;> simp
    · rw [List.append_nil, hall (by rwa [hu c rfl])]; simp

/-- One pass of the upload loop for chunk `i`, whatever the peer, the timing and the
chaos: when the context is done it stops and writes nothing; otherwise it writes
`passFrames`, each frame whole, with its `Data` frame dropped only under a loss rate,
and then returns or waits for ever in its probe. -/
theorem emits_uploadChunk {size : Int64} {chunk : Bytes} {i : Nat} {u : Upload}
    (hlt : i * chunkSize < size.val) (hu : ChaosOf cc u.chaos)
    (hs : u.sent.val = (i * chunkSize : Nat)) (hq : u.seqNum = UInt32.ofNat i) :
    Emits (fun r o => r = some (.error .contextDone) ∧ o = [] ∨
      ∃ kept, Wrote kept o ∧ DataDrops (passFrames size chunk i) kept ∧
        (¬ cc.packetLossPercent > 0 → kept = passFrames size chunk i) ∧
        (r = none ∨ ∃ ls chaos, r = some (.ok ⟨u.sent + dataSize size u.sent, u.seqNum + 1, ls, chaos⟩) ∧
          ChaosOf cc chaos))
      (uploadChunk size chunk u) := by
  have hseq : u.seqNum + 1 = UInt32.ofNat (i + 1) := by rw [hq, ofNat_add_one]
  unfold uploadChunk
  dsimp only
  set m : DataMessage := ⟨u.seqNum, chunk.take (dataSize size u.sent).val.toNat⟩ with hm
  have hdata :
      m = ⟨UInt32.ofNat i, chunk.take (min chunkSize (size.val.toNat - i * chunkSize))⟩ := by
    rw [hm, dataSize_val (by omega) (by omega), hs, hq]
    simp only [chunkSize] at hlt ⊢
    congr 3
    omega
  refine .seq silent_ctxDone fun _ _ => ?_
  split
  · exact .pure (.inl ⟨rfl, rfl⟩)
  -- the Data frame, through the chaos writer or to the connection: whole or nothing
  refine .seq (silent_pure _) fun _ _ => .send (sends_writeDataFrame hj hu m) fun ⟨chaos, e⟩ o ⟨he, hc, hD, hall⟩ => ?_
  dsimp only at he hc
  subst he
  rw [hdata] at hD hall
  obtain ⟨keptD, hwD, hdD, hallD⟩ := wrote_data hD
  dsimp only
  -- then the probe of every tenth chunk
  split
  · next hp =>
    have hp' : UInt32.ofNat (i + 1) % 10 = 0 := hseq ▸ hp
    have hpass : ∀ o₂, Wrote [.ping (u.seqNum + 1)] o₂ →
        Wrote (keptD ++ [.ping (UInt32.ofNat (i + 1))]) (o ++ (o₂ ++ [])) ∧
        DataDrops (passFrames size chunk i) (keptD ++ [.ping (UInt32.ofNat (i + 1))]) ∧
        (¬ cc.packetLossPercent > 0 → keptD ++ [.ping (UInt32.ofNat (i + 1))] = passFrames size chunk i) :=
      fun o₂ h₂ => ⟨by rw [← hseq, List.append_nil]; exact hwD.append h₂,
        by simpa only [passFrames, if_pos hp'] using hdD.append (.refl _),
        fun hl => by simp only [passFrames, if_pos hp', hallD (hall hl)]; rfl⟩
    refine .bind (Emits.map (emits_measureLatency _) (fun _ _ h => h) fun _ h => h :
        Emits (fun _ o => Wrote [.ping (u.seqNum + 1)] o) _)
      (fun _ o₂ h₂ => .pure (.inr ⟨_, (hpass o₂ h₂).1, (hpass o₂ h₂).2.1, (hpass o₂ h₂).2.2,
        .inr ⟨_, chaos, rfl, hc⟩⟩)) fun o₂ h₂ => ?_
    obtain ⟨hw, hd, hl⟩ := hpass o₂ h₂
    exact .inr ⟨_, by rwa [List.append_nil] at hw, hd, hl, .inl rfl⟩
  · next hp =>
    have hp' : ¬ UInt32.ofNat (i + 1) % 10 = 0 := hseq ▸ hp
    refine .seq (silent_pure _) fun _ _ => .pure (.inr ⟨keptD, ?_, ?_, fun hl => ?_, .inr ⟨_, chaos, rfl, hc⟩⟩)
    · simpa only [List.append_nil] using hwD
    · simpa only [passFrames, if_neg hp', List.append_nil] using hdD
    · simp only [passFrames, if_neg hp', hallD (hall hl)]

/-- `n` passes of the upload loop from chunk `i`, whatever the peer, the timing and the
chaos: the loop writes the frames of its first `k` passes, each whole, with `Data` frames
dropped only under a loss rate; it stops before the last pass only when the context is
done or a probe waits for ever, and otherwise ends with the whole size sent. -/
theorem emits_uploadLoop {size : Int64} {chunk : Bytes} :
    ∀ (n i fuel : Nat) (u : Upload), i + n = chunkCount size → n ≤ fuel → ChaosOf cc u.chaos →
      u.sent.val = min ((i * chunkSize : Nat) : Int) size.val → u.seqNum = UInt32.ofNat i →
      Emits (fun r o => ∃ k kept, k ≤ n ∧ Wrote kept o ∧ DataDrops (chunkFrames size chunk i k) kept ∧
          (¬ cc.packetLossPercent > 0 → kept = chunkFrames size chunk i k) ∧
          (r = none ∨ r = some (.error .contextDone) ∨
            k = n ∧ ∃ ls chaos, r = some (.ok ⟨size, UInt32.ofNat (i + n), ls, chaos⟩)))
        (uploadLoop size chunk fuel u)
  | 0, i, fuel, u, hk, _, _, hs, hq => by
    have hge : ¬ i * chunkSize < size.val := (lt_chunkCount_iff i).not.1 (by omega)
    have hsent : u.sent = size := Int64.ext (by rw [hs]; omega)
    rw [uploadLoop_of_ge (by rw [hsent, Int64.lt_iff]; exact lt_irrefl _)]
    obtain ⟨sent, seq, ls, chaos⟩ := u
    simp only at hsent hq
    subst hsent hq
    exact .pure ⟨0, [], le_rfl, .nil, .nil, fun _ => rfl, .inr (.inr ⟨rfl, ls, chaos, rfl⟩)⟩
  | n + 1, i, fuel, u, hk, hf, hu, hs, hq => by
    obtain ⟨f, rfl⟩ : ∃ f, fuel = f + 1 := ⟨fuel - 1, by omega⟩
    have hlt : i * chunkSize < size.val := (lt_chunkCount_iff i).1 (by omega)
    have hsi : u.sent.val = (i * chunkSize : Nat) := by rw [hs]; omega
    have hsent' :
        (u.sent + dataSize size u.sent).val = min (((i + 1) * chunkSize : Nat) : Int) size.val := by
      rw [add_dataSize_val (by omega) (by omega), hsi]
      push_cast
      simp only [chunkSize] at hlt ⊢
      omega
    rw [uploadLoop, if_pos (show u.sent < size by rw [Int64.lt_iff]; omega)]
    refine .bind (emits_uploadChunk hj hlt hu hsi hq) (fun r o h => ?_) fun o h => ?_
    · rcases h with ⟨hr, rfl⟩ | ⟨keptP, hwP, hdP, hallP, hr | ⟨ls, chaos, hr, hc⟩⟩ <;> cases hr
      · exact .pure ⟨0, [], by omega, .nil, .nil, fun _ => rfl, .inr (.inl rfl)⟩
      · refine (emits_uploadLoop n (i + 1) f _ (by omega) (by omega) hc hsent' (by rw [hq, ofNat_add_one])).imp
          fun r o' ⟨k, kept, hk', hw, hd, hall, hr⟩ =>
            ⟨k + 1, keptP ++ kept, by omega, hwP.append hw, hdP.append hd,
              fun hl => by rw [hallP hl, hall hl]; rfl, hr.imp_right (Or.imp_right fun ⟨hkn, ls, chaos, hr⟩ =>
                ⟨by omega, ls, chaos, by rw [hr, show i + 1 + n = i + (n + 1) by omega]⟩)⟩
    · -- a probe of the pass waits for ever, after the pass's frames
      rcases h with ⟨hr, -⟩ | ⟨keptP, hwP, hdP, hallP, -⟩
      · cases hr
      exact ⟨1, keptP, by omega, hwP, by simpa only [chunkFrames, List.append_nil] using hdP,
        fun hl => by simp only [chunkFrames, List.append_nil, hallP hl], .inl rfl⟩

end Passes

/-- A new chaos writer has the config it was made from, and writes nothing. -/
theorem silent_newChaosWriter (cfg : ChaosConfig) :
    Silent (fun c : ChaosWriter => c.cfg = cfg) (newChaosWriter cfg) :=
  .bind silent_timeNow fun _ _ => .pure rfl

theorem chunkFrames_prefix_mono (size : Int64) (chunk : Bytes) :
    ∀ (i k n : Nat), k ≤ n → chunkFrames size chunk i k <+: chunkFrames size chunk i n
  | _, 0, _, _ => List.nil_prefix
  | _, _ + 1, 0, h => absurd h (by omega)
  | i, k + 1, n + 1, h => (List.prefix_append_right_inj _).2 (chunkFrames_prefix_mono size chunk (i + 1) k n (by omega))

/-- What an upload of `size` bytes of `chunk` writes, `o`, for its result `res` (`none`
when it waits for ever): whole frames matching `kept`, which is `P` with some `Data`
frames left out (none without a loss rate), where `P` is all of `uploadFrames`, or its
first `Ping` and first `k` passes when the upload reports that the context was done, or
a prefix of `uploadFrames` when it waits for ever. -/
def UploadWrote {β : Type} (cc : ChaosConfig) (size : Int64) (chunk : Bytes)
    (res : Option (Except ClientError β)) (o : List Bytes) : Prop :=
  ∃ P kept, Wrote kept o ∧ DataDrops P kept ∧ (¬ cc.packetLossPercent > 0 → kept = P) ∧
    (P = uploadFrames size chunk ∨
      (res = some (.error .contextDone) ∧ ∃ k ≤ chunkCount size, P = .ping 0 :: chunkFrames size chunk 0 k) ∨
      (res = none ∧ P ≠ [] ∧ P <+: uploadFrames size chunk))

/-- What an upload writes depends on its result only through a reported cancellation and
through waiting for ever. -/
theorem UploadWrote.congr {β γ : Type} {cc : ChaosConfig} {size : Int64} {chunk : Bytes}
    {res : Option (Except ClientError β)} {res' : Option (Except ClientError γ)} {o : List Bytes}
    (h : UploadWrote cc size chunk res o)
    (hdone : res = some (.error .contextDone) → res' = some (.error .contextDone))
    (hwait : res = none → res' = none) : UploadWrote cc size chunk res' o :=
  let ⟨P, kept, hw, hd, hall, hP⟩ := h
  ⟨P, kept, hw, hd, hall, hP.imp_right (Or.imp (fun ⟨h, hk⟩ => ⟨hdone h, hk⟩) fun ⟨h, hne, hpre⟩ =>
    ⟨hwait h, hne, hpre⟩)⟩

/-- The frames up to the final `Ping` begin the frames of a whole upload. -/
theorem finalPing_prefix_uploadFrames (size : Int64) (chunk : Bytes) :
    .ping 0 :: (chunkFrames size chunk 0 (chunkCount size) ++ [.ping (UInt32.ofNat (chunkCount size + 1))]) <+:
      uploadFrames size chunk :=
  ⟨[.complete size], by rw [uploadFrames, List.cons_append, List.append_assoc]; rfl⟩

/-- What the phase of an upload writes, from the world it starts in, whose random source
gives the chunk. -/
theorem emits_uploadPhase {cfg : Config} (hj : cfg.chaos.jitter.val < 2 ^ 62) (hsize : 0 ≤ cfg.size.val)
    {w : World} (hcap : w.capacity = none) :
    Ends (uploadPhase cfg) w fun res w' => ∃ o, w'.sent = w.sent ++ o ∧
      UploadWrote cfg.chaos cfg.size (randomBytes w.random chunkSize) res (o.map Prod.snd) := by
  unfold uploadPhase
  refine Ends.bind_ok rfl (Ends.bind_ok rfl (Emits.exists_run ?_ hcap))
  dsimp only
  split
  -- the chaos writer, if enabled, has the config's chaos settings
  on_goal 1 =>
    refine .seq (Silent.map (silent_newChaosWriter _) fun c hc => by rintro _ ⟨⟩; exact hc :
      Silent (ChaosOf cfg.chaos) _) fun chaos hc => ?_
  on_goal 2 => refine .seq (Silent.pure (ChaosOf.none _) : Silent (ChaosOf cfg.chaos) _) fun chaos hc => ?_
  -- then the first probe, the loop and, if it ran to the end, the final probe and Complete
  all_goals
    refine .bind (emits_measureLatency 0) (fun l o₁ h₁ => ?_)
      fun o h => ⟨_, _, h, .keep .nil, fun _ => rfl, .inr (.inr ⟨rfl, List.cons_ne_nil _ _, _, rfl⟩)⟩
    refine .bind (emits_uploadLoop hj (chunkCount cfg.size) 0 cfg.size.val.toNat _ (by omega) (chunkCount_le _) hc
        (by simp only [Int64.val_zero, zero_mul, Nat.cast_zero]; omega) rfl)
        (fun res o₂ ⟨k, kept, hk, hw₂, hd₂, hall₂, hr⟩ => ?_)
        fun o₂ ⟨k, kept, hk, hw₂, hd₂, hall₂, _⟩ =>
          ⟨_, .ping 0 :: kept, h₁.append hw₂, .keep hd₂, fun hl => by rw [hall₂ hl],
            .inr (.inr ⟨rfl, List.cons_ne_nil _ _, (List.prefix_cons_inj _).2
              ((chunkFrames_prefix_mono _ _ 0 k _ hk).trans (List.prefix_append _ _))⟩)⟩
    rcases hr with hr | hr | ⟨rfl, ls, chaos', hr⟩ <;> cases hr
    · exact .pure ⟨_, .ping 0 :: kept, by simpa only [List.append_nil] using h₁.append hw₂, .keep hd₂,
        fun hl => by rw [hall₂ hl], .inr (.inl ⟨rfl, k, hk, rfl⟩)⟩
    · have hfront : Wrote (.ping 0 :: kept) (o₁ ++ o₂) := h₁.append hw₂
      refine .bind (emits_measureLatency _) (fun _ o₃ h₃ => ?_) fun o₃ h₃ => ?_
      · dsimp only at h₃
        rw [Nat.zero_add, ofNat_add_one] at h₃
        refine .seq silent_timeNow fun _ _ => .send (sends_writeMessageConn _ _) fun e o₄ ⟨he, h₄⟩ => ?_
        subst he
        have hall : ∀ res : Option (Except ClientError (Int64 × Int × List ℚ)), UploadWrote cfg.chaos cfg.size (randomBytes w.random chunkSize) res
            (o₁ ++ (o₂ ++ (o₃ ++ (o₄ ++ [])))) :=
          fun _ => ⟨uploadFrames cfg.size (randomBytes w.random chunkSize),
            .ping 0 :: (kept ++ [.ping (UInt32.ofNat (chunkCount cfg.size + 1)), .complete cfg.size]),
            by simpa only [List.append_nil, List.cons_append, List.append_assoc] using
              hfront.append (h₃.append (wrote_frame h₄ ⟨rfl, _, rfl⟩ : Wrote [.complete cfg.size] o₄)),
            .keep (hd₂.append (.refl _)), fun hl => by rw [hall₂ hl, uploadFrames], .inl rfl⟩
        refine .read readOnly_readMessage (hall none) fun res =>
          .of_silent (?_ : Silent (fun _ => True) _) fun _ _ => hall _
        rcases res with e | ⟨mt, data⟩
        · exact Silent.pure trivial
        · dsimp only
          split
          · exact Silent.pure trivial
          · split <;> exact Silent.pure trivial
      · -- the final probe waits for ever, after the final Ping
        dsimp only at h₃
        rw [Nat.zero_add, ofNat_add_one] at h₃
        exact ⟨.ping 0 :: (chunkFrames cfg.size (randomBytes w.random chunkSize) 0 (chunkCount cfg.size) ++
            [.ping (UInt32.ofNat (chunkCount cfg.size + 1))]),
          .ping 0 :: (kept ++ [.ping (UInt32.ofNat (chunkCount cfg.size + 1))]),
          by simpa only [List.cons_append, List.append_assoc] using hfront.append h₃,
          .keep (hd₂.append (.refl _)), fun hl => by rw [hall₂ hl],
          .inr (.inr ⟨rfl, List.cons_ne_nil _ _, finalPing_prefix_uploadFrames _ _⟩)⟩

/-- What an upload writes: what its phase writes, whatever result it fills in. -/
theorem emits_runUpload {cfg : Config} (hj : cfg.chaos.jitter.val < 2 ^ 62) (hsize : 0 ≤ cfg.size.val)
    (r : Result) {w : World} (hcap : w.capacity = none) :
    Ends (runUpload cfg r) w fun res w' => ∃ o, w'.sent = w.sent ++ o ∧
      UploadWrote cfg.chaos cfg.size (randomBytes w.random chunkSize) res (o.map Prod.snd) := by
  refine (emits_uploadPhase hj hsize hcap).bind (fun res w' ⟨o, hs, hU⟩ => ?_)
    fun _ ⟨o, hs, hU⟩ => ⟨o, hs, hU.congr (fun h => nomatch h) fun _ => rfl⟩
  rcases res with e | ⟨sent, d, ls⟩
  · exact ⟨w', .inl ⟨_, rfl, o, hs, hU.congr (fun h => by cases h; rfl) fun h => nomatch h⟩⟩
  · exact ⟨w', .inl ⟨_, rfl, o, hs, hU.congr (fun h => nomatch h) fun h => nomatch h⟩⟩

/-! ## The download -/

/-- The download loop only reads: it writes nothing, whether it returns or waits for
ever. -/
theorem emits_downloadLoop (st : Int) (ls : List ℚ) (r : Result) :
    ∀ (fuel : Nat) (recv : Int64), Emits (fun _ o => o = []) (downloadLoop st ls r fuel recv)
  | 0, _ => .pure rfl
  | fuel + 1, recv => by
    unfold downloadLoop
    refine .seq silent_ctxDone fun _ _ => ?_
    split
    · exact .pure rfl
    · refine .seq (silent_pure _) fun _ _ => .seq silent_timeNow fun _ _ =>
        .seq (silent_setReadDeadline _) fun _ _ => .read readOnly_readMessage rfl fun res => ?_
      rcases res with e | ⟨mt, data⟩
      · exact .pure rfl
      · dsimp only
        split
        · split
          · exact .pure rfl
          · exact emits_downloadLoop st ls r fuel _
        · split
          · split
            · exact .pure rfl
            · exact .seq silent_timeNow fun _ _ => .pure rfl
          · exact emits_downloadLoop st ls r fuel recv

/-- A download writes its first `Ping` and nothing else: it never answers the peer. -/
theorem emits_runDownload (r : Result) : Emits (fun _ o => Wrote [.ping 0] o) (runDownload r) := by
  unfold runDownload
  exact .seq silent_timeNow fun _ _ => .bind (emits_measureLatency 0)
    (fun _ o h => .seq silent_get fun _ _ => (emits_downloadLoop _ _ _ _ _).imp fun _ o' ho' => by
      rwa [ho', List.append_nil]) fun _ h => h

/-! ## The client -/

/-- What a run of `Run` that ends with `out` (`none` when it waits for ever) has written
to a connection that takes every write, as the frames `fs`, when the upload's chunk is
`chunk`. -/
inductive RunWrote (cfg : Config) (chunk : Bytes) :
    Option (Option Result × Option ClientError) → List (MessageType × Message) → Prop
  /-- A config that `Validate` rejects: nothing. -/
  | invalid {e : ConfigError} : cfg.withDefaults.validate = some e →
      RunWrote cfg chunk (some (none, some (.invalidConfig e))) []
  /-- A failed or refused handshake: `Start` alone, and no result. -/
  | handshake {out : Option (Option Result × Option ClientError)} : cfg.withDefaults.validate = none →
      (out = none ∨ ∃ e, out = some (none, some e)) →
      RunWrote cfg chunk out [(msgStart, .start ⟨cfg.size, cfg.withDefaults.direction⟩)]
  /-- A download: `Start` and a single `Ping`; the client never answers the peer. -/
  | download {out : Option (Option Result × Option ClientError)} {ts : Int64} :
      cfg.withDefaults.validate = none → cfg.withDefaults.direction = directionDownload →
      RunWrote cfg chunk out [(msgStart, .start ⟨cfg.size, cfg.withDefaults.direction⟩), (msgPing, .ping ⟨0, ts⟩)]
  /-- An upload: `Start`, then whole frames matching `kept`, which is `P` with `Data`
  frames left out only under a loss rate; `P` is all of `uploadFrames`, or `Ping 0` and
  the first passes of the loop when the run reports that the context was done, or a
  prefix of `uploadFrames` when the run waits for ever. -/
  | upload {out : Option (Option Result × Option ClientError)} {P kept : List UploadFrame}
      {rest : List (MessageType × Message)} : cfg.withDefaults.validate = none →
      cfg.withDefaults.direction = directionUpload →
      List.Forall₂ UploadFrame.Matches kept rest → DataDrops P kept →
      (¬ cfg.chaos.packetLossPercent > 0 → kept = P) →
      (P = uploadFrames cfg.size chunk ∨
        ((∃ r, out = some (r, some .contextDone)) ∧
          ∃ k ≤ chunkCount cfg.size, P = .ping 0 :: chunkFrames cfg.size chunk 0 k) ∨
        (out = none ∧ P ≠ [] ∧ P <+: uploadFrames cfg.size chunk)) →
      RunWrote cfg chunk out ((msgStart, .start ⟨cfg.size, cfg.withDefaults.direction⟩) :: rest)

section AfterStart

variable {cfg : Config} {chunk : Bytes} {out : Option (Option Result × Option ClientError)} {o : List Bytes}
  {w w' : World} (hv : cfg.withDefaults.validate = none)
  (hwire : ∀ rest, o.flatten = writeMessages rest →
    w'.wire = w.wire ++ writeMessages ((msgStart, .start ⟨cfg.size, cfg.withDefaults.direction⟩) :: rest))
include hv hwire

/-- An upload's writes after `Start`, as `Run` reports them. -/
theorem runWrote_upload {res : Option (Except ClientError Result)}
    (hup : cfg.withDefaults.direction = directionUpload) (hU : UploadWrote cfg.chaos cfg.size chunk res o)
    (hdone : res = some (.error .contextDone) → ∃ r, out = some (r, some .contextDone))
    (hwait : res = none → out = none) :
    ∃ fs, w'.wire = w.wire ++ writeMessages fs ∧ RunWrote cfg chunk out fs :=
  let ⟨_, _, ⟨rest, hfs, hm⟩, hd, hall, hP⟩ := hU
  ⟨_, hwire rest hfs, .upload hv hup hm hd hall (hP.imp_right (Or.imp (fun ⟨h, hk⟩ => ⟨hdone h, hk⟩)
    fun ⟨h, hne, hpre⟩ => ⟨hwait h, hne, hpre⟩))⟩

/-- A download's writes after `Start`. -/
theorem runWrote_download (hdown : cfg.withDefaults.direction = directionDownload) (hw : Wrote [.ping 0] o) :
    ∃ fs, w'.wire = w.wire ++ writeMessages fs ∧ RunWrote cfg chunk out fs := by
  obtain ⟨fs, hfs, hm⟩ := hw
  obtain ⟨⟨t, m⟩, rfl⟩ : ∃ f, fs = [f] := List.length_eq_one.1 hm.length_eq.symm
  obtain ⟨rfl, ts, rfl⟩ := (List.forall₂_cons.1 hm).1
  exact ⟨_, hwire _ hfs, .download hv hdown⟩

end AfterStart

/-- Whatever the peer answers and when (a peer may also keep the connection open and say
nothing), whatever the chaos settings (with a jitter below `2^62`) and whenever the context
is cancelled, `Run` on a connection that takes every write returns or waits for ever, and
has written whole frames, as `RunWrote` lists them: nothing exactly for a config that
`Validate` rejects, `Start` alone exactly when the handshake fails, `Start` and one `Ping`
for a download, and for an upload `Start` and the frames of `uploadFrames` in order, with
`Data` frames left out only under a loss rate, cut short only when the run reports that
the context was done or waits for ever. -/
theorem run_writes_whole_frames (lp : Bytes) {cfg : Config} (hj : cfg.chaos.jitter.val < 2 ^ 62) {w : World}
    (hcap : w.capacity = none) :
    Ends (run lp cfg) w fun out w' =>
      ∃ fs, w'.wire = w.wire ++ writeMessages fs ∧ RunWrote cfg (randomBytes w.random chunkSize) out fs := by
  unfold run
  rcases hv : cfg.withDefaults.validate with _ | e
  swap
  · exact ⟨w, .inl ⟨_, rfl, [], by simp [writeMessages], .invalid hv⟩⟩
  dsimp only
  refine Ends.bind_ok rfl (Ends.bind_ok (writeMessageConn_eq _ _ hcap) ?_)
  dsimp only
  obtain ⟨w₂, hs₂, hc₂, hρ, hread⟩ := attempt_readOnly readOnly_readMessage
    { w with
      sent := w.sent ++ frameWrites w.clock msgStart (.start ⟨cfg.withDefaults.size, cfg.withDefaults.direction⟩) }
  have hst : ∀ rest, w₂.wire ++ writeMessages rest =
      w.wire ++ writeMessages ((msgStart, .start ⟨cfg.size, cfg.withDefaults.direction⟩) :: rest) := fun rest => by
    simp [World.wire, hs₂, writeMessages]
  have hstart : ∀ out, (out = none ∨ ∃ e, out = some (none, some e)) →
      ∃ fs, w₂.wire = w.wire ++ writeMessages fs ∧ RunWrote cfg (randomBytes w.random chunkSize) out fs :=
    fun out h => ⟨_, by simpa [writeMessages] using hst [], .handshake hv h⟩
  rcases hread with ⟨res, hread⟩ | hread
  swap
  · -- the read of the Ack waits for ever
    exact ⟨w₂, .inr ⟨by simp only [Bind.bind, EStateM.bind, hread], hstart none (.inl rfl)⟩⟩
  refine Ends.bind_ok hread ?_
  -- a failed or refused handshake: Start alone
  rcases res with e | ⟨mt, data⟩
  · exact ⟨w₂, .inl ⟨_, rfl, hstart _ (.inr ⟨_, rfl⟩)⟩⟩
  dsimp only
  by_cases hack : mt ≠ msgAck
  · rw [if_pos hack]
    split <;> exact ⟨w₂, .inl ⟨_, rfl, hstart _ (.inr ⟨_, rfl⟩)⟩⟩
  rw [if_neg hack]
  rcases decodeFrom (AckMessage.decode bufferReader) data with e | ack
  · exact ⟨w₂, .inl ⟨_, rfl, hstart _ (.inr ⟨_, rfl⟩)⟩⟩
  dsimp only
  by_cases hacc : (!ack.accepted) = true
  · rw [if_pos hacc]
    exact ⟨w₂, .inl ⟨_, rfl, hstart _ (.inr ⟨_, rfl⟩)⟩⟩
  rw [if_neg hacc]
  obtain ⟨hsize, hdir⟩ := Config.validate_withDefaults_eq_none cfg hv
  have hc₂' : w₂.capacity = none := hc₂.trans hcap
  by_cases hup : cfg.withDefaults.direction = directionUpload
  · -- an upload: its frames after Start
    rw [if_pos hup]
    refine (@emits_runUpload cfg.withDefaults hj hsize.le (Result.initial lp cfg.withDefaults w.clock) w₂ hc₂').bind
      (fun res w₃ ⟨o, hs₃, hU⟩ => ?_) fun w₃ ⟨o, hs₃, hU⟩ => ?_
    all_goals rw [hρ] at hU
    · rcases res with e' | r'
      · exact ⟨w₃, .inl ⟨_, rfl, runWrote_upload hv (fun _ hfs => by rw [wire_of_sent hs₃, hfs, hst]) hup hU
          (fun h => ⟨_, by cases h; rfl⟩) fun h => nomatch h⟩⟩
      · exact ⟨w₃, .inl ⟨_, rfl, runWrote_upload hv (fun _ hfs => by rw [wire_of_sent hs₃, hfs, hst]) hup hU
          (fun h => nomatch h) fun h => nomatch h⟩⟩
    · exact runWrote_upload hv (fun _ hfs => by rw [wire_of_sent hs₃, hfs, hst]) hup hU (fun h => nomatch h)
        fun _ => rfl
  · -- a download: a single Ping after Start
    have hdown := hdir.resolve_left hup
    rw [if_neg hup, if_pos hdown]
    refine ((emits_runDownload (Result.initial lp cfg.withDefaults w.clock)).exists_run hc₂').bind
      (fun res w₃ ⟨o, hs₃, hw⟩ => ?_) fun w₃ ⟨o, hs₃, hw⟩ => ?_
    · rcases res with e' | r' <;>
        exact ⟨w₃, .inl ⟨_, rfl, runWrote_download hv (fun _ hfs => by rw [wire_of_sent hs₃, hfs, hst]) hdown hw⟩⟩
    · exact runWrote_download hv (fun _ hfs => by rw [wire_of_sent hs₃, hfs, hst]) hdown hw

/-- A one-byte upload through the benchmarker's chaos settings (0.1% loss, 2 ms latency,
1 ms jitter), against a peer that accepts the run and then closes the connection. -/
theorem run_writes_whole_frames_accepted :
    let cfg : Config := ⟨ascii "peer", 1, directionUpload, 0, 0, ⟨1 / 10, 2000000, 1000000, 0⟩⟩
    let w := World.start (peerFrames [(1, msgAck, .ack ⟨true, []⟩)])
    cfg.chaos.jitter.val < 2 ^ 62 ∧ w.capacity = none ∧
    Ends (run (ascii "local") cfg) w fun out w' =>
      ∃ fs, w'.wire = w.wire ++ writeMessages fs ∧ RunWrote cfg (randomBytes w.random chunkSize) out fs :=
  ⟨by decide, rfl, run_writes_whole_frames (ascii "local") (by decide) rfl⟩

end TunnelMesh.Benchmark
