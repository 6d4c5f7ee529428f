-- SUMMARY: The world a benchmark client runs in: the clock, time.Sleep, math/rand, the context, and a TCP connection with a read deadline, a peer that closes it or keeps it open and silent, and writes that go out, fail or block, as one state threaded through the client.
import TunnelMesh.Go.Basic

/-!
# The client's world

The benchmark client reads the clock, sleeps, draws random numbers, polls its
context, and reads and writes one TCP connection. All of it is one state,
`World`, and a client function is a computation in `GoM`, a state monad over
`World` whose failures are what the client never returns from: a Go panic, or
a wait that never ends (`Abort`). A Go function's `error` result is a value
(`Except`), as in the source.

What the world does not decide is an oracle fixed in it: the `Int63` draws of
the random source, whether the context is done at each check, the bytes
`crypto/rand` hands out. What the peer sends is `incoming`: each byte with the
instant it reaches the client, in stream order. After its last byte the peer
closes the connection, and a read then gets `io.EOF`, or keeps it open and
silent (`lingers`), and a read then waits for its deadline, or for ever when
none is set. The connection takes `capacity` more bytes, or every write; a
write beyond it sends what fits and then fails, the connection being reset, or
waits for ever, the peer having stopped reading (`resets`).

Time passes only where the client blocks: in a read that waits for bytes, in
a read that times out, and in `time.Sleep`. A read may take a byte that
arrives before the read deadline; a byte that arrives later times the read out
at the deadline, and a read started after the deadline fails at once.
-/

namespace TunnelMesh

/-- A byte of the peer's stream, and the instant, in nanoseconds, at which it
reaches the client's socket. -/
structure Arrival where
  time : Int
  byte : UInt8
  deriving DecidableEq, Repr

/-- The bytes `bs`, all reaching the client at instant `t`. -/
def arriving (t : Int) (bs : Bytes) : List Arrival := bs.map (Arrival.mk t)

/-- What the client does not return from: a panic, or a wait that never ends. -/
inductive Abort
  /-- The panic of `(*rand.Rand).Int63n(n)` with `n <= 0`: "invalid argument to Int63n". -/
  | int63n
  /-- The panic of `time.NewTicker(d)` with `d <= 0`: "non-positive interval for NewTicker". -/
  | newTicker
  /-- No panic: a read with no deadline from a peer that keeps the connection open
  and sends nothing more, or a write the peer never takes, waits for ever. -/
  | blocked
  deriving DecidableEq, Repr

/-- An error of `conn.Write`: the connection was reset before the buffer went out. -/
inductive WriteError
  | reset
  deriving DecidableEq, Repr

/-- The client's process and its connection. -/
structure World where
  /-- The instant now, in nanoseconds. -/
  clock : Int
  /-- The peer's bytes not read yet. -/
  incoming : List Arrival
  /-- The read deadline of the connection; `none` until `SetReadDeadline`. -/
  deadline : Option Int
  /-- Every `conn.Write`, with the instant it was made, in order. -/
  sent : List (Int × Bytes)
  /-- Every `time.Sleep(d)`, in order. -/
  slept : List Int
  /-- The `i`-th `Int63()` of the random source. -/
  int63 : Nat → Nat
  /-- How many `Int63()` draws were made. -/
  draws : Nat
  /-- Whether `ctx.Done()` is closed at the `i`-th check. -/
  cancelled : Nat → Bool
  /-- How many checks of `ctx.Done()` were made. -/
  checks : Nat
  /-- The bytes `crypto/rand` hands out. -/
  random : Nat → UInt8
  /-- Whether the peer keeps the connection open, and silent, once `incoming` is spent;
  otherwise it has closed it. -/
  lingers : Bool
  /-- How many more bytes the connection takes; `none` when it takes every write. -/
  capacity : Option Nat
  /-- Whether a write beyond `capacity` fails, the connection being reset; otherwise it
  waits for ever, the peer having stopped reading. -/
  resets : Bool

/-- A process at instant `0` facing the peer's stream `incoming`, after which the peer
closes the connection: no read deadline, nothing written or slept, a context that is
never done, random sources that give only zeros, and a connection that takes every
write. -/
def World.start (incoming : List Arrival) : World :=
  ⟨0, incoming, none, [], [], fun _ => 0, 0, fun _ => false, 0, fun _ => 0, false, none, true⟩

/-- A computation of the client: it threads the world, and may panic or wait for ever. -/
abbrev GoM := EStateM Abort World

namespace World

/-- Every byte written on the connection, in order. -/
def wire (w : World) : Bytes := (w.sent.map Prod.snd).flatten

/-- Whether a byte arriving at `t` comes before the read deadline. -/
def beforeDeadline (w : World) (t : Int) : Bool :=
  match w.deadline with
  | none => true
  | some d => decide (t < d)

/-- Whether the read deadline has passed. -/
def expired (w : World) : Bool :=
  match w.deadline with
  | none => false
  | some d => decide (d ≤ w.clock)

/-- The bytes a read can take before the deadline: the longest prefix of
`incoming` that arrives in time. -/
def ready (w : World) : List Arrival := w.incoming.takeWhile fun a => w.beforeDeadline a.time

end World

/-- The instant after waiting for the arrivals `as`, from `t`. -/
def waitFor (t : Int) (as : List Arrival) : Int := as.foldl (fun t a => max t a.time) t

-- ---------------------------------------------------------------------------
-- The runtime
-- ---------------------------------------------------------------------------

/-- `time.Now()`. -/
def timeNow : GoM Int := fun w => .ok w.clock w

/-- `time.Sleep(d)`: it returns at once when `d ≤ 0`. -/
def sleep (d : Int) : GoM Unit := fun w =>
  .ok () { w with slept := w.slept ++ [d], clock := w.clock + max d 0 }

/-- A check of `<-ctx.Done()` in a `select` with a `default` branch. -/
def ctxDone : GoM Bool := fun w => .ok (w.cancelled w.checks) { w with checks := w.checks + 1 }

/-- `rng.Int63()`. -/
def int63 : GoM Nat := fun w => .ok (w.int63 w.draws % 2 ^ 63) { w with draws := w.draws + 1 }

/-- `rng.Float64()`: `float64(Int63()) / (1 << 63)`, read exactly. -/
def float64 : GoM ℚ := fun w =>
  .ok ((w.int63 w.draws % 2 ^ 63 : Nat) / 2 ^ 63) { w with draws := w.draws + 1 }

/-- `rng.Int63n(n)`: a panic unless `n > 0`, else a draw reduced below `n`. -/
def int63n (n : Int) : GoM Int := fun w =>
  if n ≤ 0 then .error .int63n w
  else .ok ((w.int63 w.draws % 2 ^ 63 : Nat) % n) { w with draws := w.draws + 1 }

/-- The first `n` bytes of the stream `f`. -/
def randomBytes (f : Nat → UInt8) : Nat → Bytes
  | 0 => []
  | n + 1 => f 0 :: randomBytes (fun i => f (i + 1)) n

@[simp] theorem length_randomBytes (f : Nat → UInt8) (n : Nat) : (randomBytes f n).length = n := by
  induction n generalizing f with
  | zero => rfl
  | succ n ih => simp [randomBytes, ih]

/-- `rand.Read(buf)` from `crypto/rand`, with `len(buf) = n`. -/
def randRead (n : Nat) : GoM Bytes := fun w => .ok (randomBytes w.random n) w

/-- `conn.Write(bs)`: the count of bytes that went out, and the error. The connection
takes what its capacity allows; the rest of the buffer fails, the connection being
reset, or waits for ever. -/
def connWrite (bs : Bytes) : GoM (Nat × Option WriteError) := fun w =>
  match w.capacity with
  | none => .ok (bs.length, none) { w with sent := w.sent ++ [(w.clock, bs)] }
  | some c =>
    if bs.length ≤ c then
      .ok (bs.length, none) { w with sent := w.sent ++ [(w.clock, bs)], capacity := some (c - bs.length) }
    else if w.resets then
      .ok (c, some .reset) { w with sent := w.sent ++ [(w.clock, bs.take c)], capacity := some 0 }
    else .error .blocked { w with sent := w.sent ++ [(w.clock, bs.take c)], capacity := some 0 }

/-- `conn.SetReadDeadline(t)`. -/
def setReadDeadline (t : Int) : GoM Unit := fun w => .ok () { w with deadline := some t }

/-- `io.ReadFull(conn, buf)` with `len(buf) = n`. -/
def connReadFull (n : Nat) : EStateM ReadError World Bytes := fun w =>
  if n = 0 then .ok [] w
  else if w.expired then .error .timeout w
  else if n ≤ w.ready.length then
    .ok ((w.ready.take n).map Arrival.byte)
      { w with incoming := w.incoming.drop n, clock := waitFor w.clock (w.ready.take n) }
  else if w.ready.length < w.incoming.length then
    .error .timeout { w with incoming := w.incoming.drop w.ready.length, clock := w.deadline.getD w.clock }
  else if w.lingers then
    match w.deadline with
    | some d => .error .timeout { w with incoming := [], clock := d }
    | none => .error .blocked { w with incoming := [], clock := waitFor w.clock w.incoming }
  else
    .error (if w.incoming = [] then .eof else .unexpectedEOF)
      { w with incoming := [], clock := waitFor w.clock w.incoming }

theorem length_connReadFull {n : Nat} {w w' : World} {bs : Bytes}
    (h : connReadFull n w = .ok bs w') : bs.length = n := by
  unfold connReadFull at h
  split_ifs at h with h₀ h₁ h₂
  · cases h; simp [h₀]
  · cases h; simp [h₂]
  · split at h <;> cases h

/-- The connection, as a reader. -/
def connReader : Reader World := ⟨connReadFull, fun _ _ _ _ => length_connReadFull⟩

@[simp] theorem connReader_readFull : connReader.readFull = connReadFull := rfl

/-- A read whose error comes back as a value, as Go's `(v, err)` results do; a read
that never returns does not come back. -/
def attempt {α : Type} (x : EStateM ReadError World α) : GoM (Except ReadError α) := fun w =>
  match x w with
  | .ok a w' => .ok (.ok a) w'
  | .error .blocked w' => .error .blocked w'
  | .error e w' => .ok (.error e) w'

/-- `Decode(bytes.NewReader(data))`: a decoder run on an in-memory payload. -/
def decodeFrom {α : Type} (d : EStateM ReadError Bytes α) (data : Bytes) : Except ReadError α :=
  match d data with
  | .ok a _ => .ok a
  | .error e _ => .error e

-- ---------------------------------------------------------------------------
-- Reading what has arrived
-- ---------------------------------------------------------------------------

@[simp] theorem arriving_nil (t : Int) : arriving t [] = [] := rfl

@[simp] theorem length_arriving (t : Int) (bs : Bytes) : (arriving t bs).length = bs.length :=
  List.length_map _ _

@[simp] theorem arriving_append (t : Int) (bs cs : Bytes) :
    arriving t (bs ++ cs) = arriving t bs ++ arriving t cs :=
  List.map_append _ _ _

@[simp] theorem map_byte_arriving (t : Int) (bs : Bytes) : (arriving t bs).map Arrival.byte = bs := by
  simp [arriving, Function.comp_def]

theorem waitFor_arriving (c t : Int) {bs : Bytes} (hbs : bs ≠ []) :
    waitFor c (arriving t bs) = max c t := by
  obtain ⟨b, bs, rfl⟩ := List.exists_cons_of_ne_nil hbs
  induction bs generalizing c with
  | nil => rfl
  | cons b' bs ih =>
    have : waitFor (max c t) (arriving t (b' :: bs)) = max (max c t) t := ih (max c t) (by simp)
    simpa [waitFor, arriving] using this

/-- Waiting for a byte that arrives before the deadline keeps the deadline ahead. -/
theorem World.expired_wait {w : World} {t : Int} (hx : w.expired = false)
    (ht : w.beforeDeadline t = true) (inc : List Arrival) :
    ({ w with incoming := inc, clock := max w.clock t } : World).expired = false := by
  unfold World.expired World.beforeDeadline at *
  split at hx <;> simp_all

/-- When the bytes `bs` arrive before the deadline, a read takes them all. -/
theorem ready_of_arriving {w : World} {t : Int} {bs : Bytes} {rest : List Arrival}
    (ht : w.beforeDeadline t = true) (h : w.incoming = arriving t bs ++ rest) :
    w.ready = arriving t bs ++ rest.takeWhile fun a => w.beforeDeadline a.time := by
  rw [World.ready, h]
  induction bs with
  | nil => rfl
  | cons b bs ih => simp [arriving, List.takeWhile_cons, ht]

/-- A read of `bs.length` bytes, when `bs` comes next and arrives at `t`, before
the deadline: the read waits until `t` and returns `bs`. -/
theorem connReadFull_arriving {w : World} {t : Int} {bs cs : Bytes} {rest : List Arrival}
    (hx : w.expired = false) (ht : w.beforeDeadline t = true)
    (h : w.incoming = arriving t (bs ++ cs) ++ rest) (hbs : bs ≠ [] ∨ t ≤ w.clock) :
    connReadFull bs.length w =
      .ok bs { w with incoming := arriving t cs ++ rest, clock := max w.clock t } := by
  rcases eq_or_ne bs [] with rfl | hne
  · have hc : t ≤ w.clock := hbs.resolve_left (by simp)
    have : max w.clock t = w.clock := max_eq_left hc
    simp only [List.nil_append] at h
    simp only [connReadFull, List.length_nil, if_true, this, ← h]
  · have hr := ready_of_arriving ht h
    have hlen : bs.length ≤ w.ready.length := by simp [hr]
    have htake : w.ready.take bs.length = arriving t bs := by
      rw [hr, arriving_append, List.append_assoc, List.take_left' (by simp)]
    simp only [connReadFull, List.length_eq_zero, hne, if_false, hx, Bool.false_eq_true,
      if_pos hlen, htake, map_byte_arriving, waitFor_arriving _ _ hne, h, arriving_append,
      List.append_assoc, List.drop_left' (length_arriving t bs)]

/-- A read started before the deadline, when the next byte arrives at or after
it, times out at the deadline and takes nothing. -/
theorem connReadFull_late {w : World} {n : Nat} {d t : Int} {b : UInt8} {rest : List Arrival}
    (hn : n ≠ 0) (hd : w.deadline = some d) (hc : w.clock < d) (ht : d ≤ t)
    (h : w.incoming = ⟨t, b⟩ :: rest) :
    connReadFull n w = .error .timeout { w with clock := d } := by
  have hx : w.expired = false := by simp [World.expired, hd, hc]
  have hr : w.ready = [] := by
    simp [World.ready, h, List.takeWhile_cons, World.beforeDeadline, hd, not_lt.2 ht]
  simp [connReadFull, hn, hx, hr, h, hd, Nat.pos_iff_ne_zero]

/-- A read from a peer that has closed the connection with nothing left to send
returns `io.EOF` at once. -/
theorem connReadFull_eof {w : World} {n : Nat} (hn : n ≠ 0) (hx : w.expired = false)
    (hl : w.lingers = false) (h : w.incoming = []) : connReadFull n w = .error .eof w := by
  have hr : w.ready = [] := by simp [World.ready, h]
  simp only [connReadFull, hn, hx, hr, h, hl, if_false, Bool.false_eq_true, List.length_nil,
    Nat.le_zero, lt_irrefl, if_true, waitFor, List.foldl_nil]
  rw [← hl, ← h]

/-- A read with no deadline from a peer that keeps the connection open and has
nothing left to send never returns. -/
theorem connReadFull_silent {w : World} {n : Nat} (hn : n ≠ 0) (hd : w.deadline = none)
    (hl : w.lingers = true) (h : w.incoming = []) : connReadFull n w = .error .blocked w := by
  have hx : w.expired = false := by simp [World.expired, hd]
  have hr : w.ready = [] := by simp [World.ready, h]
  simp only [connReadFull, hn, hx, hr, h, hl, hd, if_false, Bool.false_eq_true, List.length_nil,
    Nat.le_zero, lt_irrefl, if_true, waitFor, List.foldl_nil]
  rw [← hl, ← hd, ← h]

/-- A write on a connection that takes every write sends the whole buffer. -/
theorem connWrite_of_capacity {w : World} (hc : w.capacity = none) (bs : Bytes) :
    connWrite bs w = .ok (bs.length, none) { w with sent := w.sent ++ [(w.clock, bs)] } := by
  simp only [connWrite, hc]

-- ---------------------------------------------------------------------------
-- Computations that never panic
-- ---------------------------------------------------------------------------

/-- From every world, `x` returns a value that satisfies `Q`, or waits for ever on
the connection; it never panics. -/
def NoPanic {α : Type} (Q : α → Prop) (x : GoM α) : Prop :=
  ∀ w, (∃ a w', x w = .ok a w' ∧ Q a) ∨ ∃ w', x w = .error .blocked w'

namespace NoPanic

variable {α β : Type} {Q : α → Prop} {R : β → Prop}

theorem pure {a : α} (h : Q a) : NoPanic Q (Pure.pure a : GoM α) := fun w => .inl ⟨a, w, rfl, h⟩

theorem bind {x : GoM α} {f : α → GoM β} (hx : NoPanic Q x) (hf : ∀ a, Q a → NoPanic R (f a)) :
    NoPanic R (x >>= f) := by
  intro w
  rcases hx w with ⟨a, w₁, h₁, hq⟩ | ⟨w₁, h₁⟩
  · rcases hf a hq w₁ with ⟨b, w₂, h₂, hr⟩ | ⟨w₂, h₂⟩
    · exact .inl ⟨b, w₂, by simp only [Bind.bind, EStateM.bind, h₁, h₂], hr⟩
    · exact .inr ⟨w₂, by simp only [Bind.bind, EStateM.bind, h₁, h₂]⟩
  · exact .inr ⟨w₁, by simp only [Bind.bind, EStateM.bind, h₁]⟩

theorem map {x : GoM α} {f : α → β} (hx : NoPanic Q x) (hf : ∀ a, Q a → R (f a)) :
    NoPanic R (f <$> x) := by
  intro w
  rcases hx w with ⟨a, w₁, h₁, hq⟩ | ⟨w₁, h₁⟩
  · exact .inl ⟨f a, w₁, by simp only [Functor.map, EStateM.map, h₁], hf a hq⟩
  · exact .inr ⟨w₁, by simp only [Functor.map, EStateM.map, h₁]⟩

/-- A computation that cannot fail never panics. -/
theorem of_ok {x : GoM α} (h : ∀ w, ∃ a w', x w = .ok a w') : NoPanic (fun _ => True) x := fun w =>
  let ⟨a, w', hx⟩ := h w
  .inl ⟨a, w', hx, trivial⟩

end NoPanic

theorem noPanic_pure {α : Type} (a : α) : NoPanic (fun _ => True) (pure a : GoM α) := .pure trivial
theorem noPanic_timeNow : NoPanic (fun _ => True) timeNow := .of_ok fun _ => ⟨_, _, rfl⟩
theorem noPanic_sleep (d : Int) : NoPanic (fun _ => True) (sleep d) := .of_ok fun _ => ⟨_, _, rfl⟩
theorem noPanic_ctxDone : NoPanic (fun _ => True) ctxDone := .of_ok fun _ => ⟨_, _, rfl⟩
theorem noPanic_randRead (n : Nat) : NoPanic (fun _ => True) (randRead n) := .of_ok fun _ => ⟨_, _, rfl⟩
theorem noPanic_float64 : NoPanic (fun _ => True) float64 := .of_ok fun _ => ⟨_, _, rfl⟩
theorem noPanic_setReadDeadline (t : Int) : NoPanic (fun _ => True) (setReadDeadline t) :=
  .of_ok fun _ => ⟨_, _, rfl⟩
theorem noPanic_get : NoPanic (fun _ => True) (get : GoM World) := .of_ok fun _ => ⟨_, _, rfl⟩

/-- A write returns, or waits for ever; it never panics. -/
theorem noPanic_connWrite (bs : Bytes) : NoPanic (fun _ => True) (connWrite bs) := fun w => by
  unfold connWrite
  split
  · exact .inl ⟨_, _, rfl, trivial⟩
  · split_ifs
    · exact .inl ⟨_, _, rfl, trivial⟩
    · exact .inl ⟨_, _, rfl, trivial⟩
    · exact .inr ⟨_, rfl⟩

/-- A read never panics: its error comes back as a value, or it waits for ever. -/
theorem noPanic_attempt {α : Type} (x : EStateM ReadError World α) : NoPanic (fun _ => True) (attempt x) :=
  fun w => by
    unfold attempt
    split
    · exact .inl ⟨_, _, rfl, trivial⟩
    · exact .inr ⟨_, rfl⟩
    · exact .inl ⟨_, _, rfl, trivial⟩

/-- Every value that `x` returns, from any world, satisfies `Q`. This is
partial correctness: `x` may also panic. -/
def Ensures {α : Type} (Q : α → Prop) (x : GoM α) : Prop := ∀ w a w', x w = .ok a w' → Q a

namespace Ensures

variable {α β : Type} {Q : α → Prop} {R : β → Prop}

theorem pure {a : α} (h : Q a) : Ensures Q (Pure.pure a : GoM α) := by
  rintro w _ _ ⟨⟩
  exact h

theorem bind {x : GoM α} {f : α → GoM β} (hx : Ensures Q x) (hf : ∀ a, Q a → Ensures R (f a)) :
    Ensures R (x >>= f) := by
  intro w b w₂ h
  simp only [Bind.bind, EStateM.bind] at h
  split at h
  · exact hf _ (hx w _ _ ‹_›) _ _ _ h
  · cases h

theorem map {x : GoM α} {f : α → β} (hx : Ensures Q x) (hf : ∀ a, Q a → R (f a)) :
    Ensures R (f <$> x) := by
  intro w b w₁ h
  simp only [Functor.map, EStateM.map] at h
  split at h
  · cases h
    exact hf _ (hx w _ _ ‹_›)
  · cases h

/-- Every computation ensures nothing in particular. -/
theorem triv {x : GoM α} : Ensures (fun _ => True) x := fun _ _ _ _ => trivial

end Ensures

/-- An HTTP request as the commands send it: the method, the URL and the `Authorization`
header, when one is set. -/
structure Request where
  method : Bytes
  url : Bytes
  authorization : Option Bytes
  deriving DecidableEq

/-- An HTTP response: the status code and the body. -/
structure Response where
  statusCode : Nat
  body : Bytes

/-- The state after a computation over a state, whether it returned or raised: a Go
function's side effects stay when it returns an error or panics. -/
def stateAfter {ε σ α : Type} : EStateM.Result ε σ α → σ
  | .ok _ s => s
  | .error _ s => s

end TunnelMesh
