-- SUMMARY: Go's byte strings, `int64`, the big-endian encodings of `encoding/binary`, and `io.ReadFull`.
import Mathlib

/-!
# Go primitives

The parts of Go that the benchmark protocol is written in. A `[]byte` and a
`string` are both byte sequences (`Bytes`). `uint8`, `uint16` and `uint32` are
Lean's `UInt8`, `UInt16` and `UInt32`; `int64`, and `time.Duration` which is an
`int64` of nanoseconds, is `Int64` below, an integer in the two's-complement
range whose arithmetic wraps. `encoding/binary` with `BigEndian` writes a
fixed-width value as its big-endian bytes and reads it back through
`io.ReadFull`.
-/

namespace TunnelMesh

/-- A Go `[]byte`, or a Go `string` read as its bytes. -/
abbrev Bytes := List UInt8

/-- A computation that ran to a value ran each of its two halves to a value. -/
theorem bind_eq_ok {ε σ α β : Type} {x : EStateM ε σ α} {f : α → EStateM ε σ β} {s s' : σ}
    {b : β} (h : (x >>= f) s = .ok b s') : ∃ a s₁, x s = .ok a s₁ ∧ f a s₁ = .ok b s' := by
  simp only [bind, EStateM.bind] at h
  split at h
  · exact ⟨_, _, ‹_›, h⟩
  · cases h

/-- A read that returns `a`, leaving `s'`, hands both on to the rest of the
computation. -/
theorem bind_of_eq_ok {ε σ α β : Type} {x : EStateM ε σ α} {s s' : σ} {a : α}
    (h : x s = .ok a s') (f : α → EStateM ε σ β) : (x >>= f) s = f a s' := by
  simp only [bind, EStateM.bind, h]

-- ---------------------------------------------------------------------------
-- Big-endian bytes
-- ---------------------------------------------------------------------------

/-- The `w` big-endian bytes of `n`, most significant first. The bits of `n`
above those `w` bytes are dropped, as a conversion to a narrower unsigned type
drops them. -/
def beBytes : Nat → Nat → Bytes
  | 0, _ => []
  | w + 1, n => beBytes w (n / 256) ++ [UInt8.ofNat n]

/-- The number that big-endian bytes stand for. -/
def beValue (bs : Bytes) : Nat :=
  bs.foldl (fun acc b => acc * 256 + b.toNat) 0

@[simp] theorem length_beBytes (w n : Nat) : (beBytes w n).length = w := by
  induction w generalizing n with
  | zero => rfl
  | succ w ih => simp [beBytes, ih]

theorem beValue_append_singleton (bs : Bytes) (b : UInt8) :
    beValue (bs ++ [b]) = beValue bs * 256 + b.toNat := by
  simp [beValue, List.foldl_append]

theorem beValue_lt (bs : Bytes) : beValue bs < 256 ^ bs.length := by
  induction bs using List.reverseRecOn with
  | nil => simp [beValue]
  | append_singleton bs b ih =>
    rw [beValue_append_singleton, List.length_append, List.length_singleton, pow_succ]
    have := b.toNat_lt
    omega

theorem beValue_beBytes (w n : Nat) : beValue (beBytes w n) = n % 256 ^ w := by
  induction w generalizing n with
  | zero => simp [beBytes, beValue, Nat.mod_one]
  | succ w ih =>
    have hlow : (UInt8.ofNat n).toNat = n % 256 := rfl
    rw [beBytes, beValue_append_singleton, ih, hlow, pow_succ', Nat.mod_mul]
    omega

-- ---------------------------------------------------------------------------
-- int64
-- ---------------------------------------------------------------------------

/-- Go's `int64`, and `time.Duration`: an integer in the two's-complement range. -/
@[ext] structure Int64 where
  val : Int
  lo : -2 ^ 63 ≤ val
  hi : val < 2 ^ 63
  deriving DecidableEq

namespace Int64

/-- Two's-complement wrap-around into the `int64` range. -/
def wrap (x : Int) : Int := (x + 2 ^ 63) % 2 ^ 64 - 2 ^ 63

theorem wrap_lo (x : Int) : -2 ^ 63 ≤ wrap x := by unfold wrap; omega

theorem wrap_hi (x : Int) : wrap x < 2 ^ 63 := by unfold wrap; omega

theorem wrap_of_mem {x : Int} (lo : -2 ^ 63 ≤ x) (hi : x < 2 ^ 63) : wrap x = x := by
  unfold wrap; omega

/-- The `int64` that Go's arithmetic yields for the exact result `x`. -/
def ofInt (x : Int) : Int64 := ⟨wrap x, wrap_lo x, wrap_hi x⟩

instance : OfNat Int64 n := ⟨ofInt n⟩
instance : Add Int64 := ⟨fun a b => ofInt (a.val + b.val)⟩
instance : Sub Int64 := ⟨fun a b => ofInt (a.val - b.val)⟩
instance : Mul Int64 := ⟨fun a b => ofInt (a.val * b.val)⟩
instance : LT Int64 := ⟨fun a b => a.val < b.val⟩
instance : LE Int64 := ⟨fun a b => a.val ≤ b.val⟩
instance (a b : Int64) : Decidable (a < b) := inferInstanceAs (Decidable (a.val < b.val))
instance (a b : Int64) : Decidable (a ≤ b) := inferInstanceAs (Decidable (a.val ≤ b.val))

@[simp] theorem val_ofInt (x : Int) : (ofInt x).val = wrap x := rfl
@[simp] theorem val_zero : (0 : Int64).val = 0 := rfl
@[simp] theorem val_one : (1 : Int64).val = 1 := rfl
@[simp] theorem val_ofNat {n : Nat} (h : n < 2 ^ 63) : (no_index (OfNat.ofNat n) : Int64).val = n :=
  wrap_of_mem (by omega) (by exact_mod_cast h)
@[simp] theorem val_add (a b : Int64) : (a + b).val = wrap (a.val + b.val) := rfl
@[simp] theorem val_sub (a b : Int64) : (a - b).val = wrap (a.val - b.val) := rfl
@[simp] theorem val_mul (a b : Int64) : (a * b).val = wrap (a.val * b.val) := rfl
@[simp] theorem lt_iff (a b : Int64) : a < b ↔ a.val < b.val := Iff.rfl
@[simp] theorem le_iff (a b : Int64) : a ≤ b ↔ a.val ≤ b.val := Iff.rfl

/-- Counting one more does not wrap while the count stays below the largest `int64`. -/
theorem val_add_one {a : Int64} (h : a.val + 1 < 2 ^ 63) : (a + 1).val = a.val + 1 := by
  simp only [val_add, val_one]
  exact wrap_of_mem (by have := a.lo; omega) h

/-- Adding `int64(n)` for a length `n` does not wrap while the sum stays below the
largest `int64`. -/
theorem val_add_ofInt_natCast {a : Int64} {n : Nat} (h0 : 0 ≤ a.val) (h : a.val + n < 2 ^ 63) :
    (a + ofInt n).val = a.val + n := by
  have hn : wrap n = n := wrap_of_mem (by omega) (by omega)
  simp only [val_add, val_ofInt, hn]
  exact wrap_of_mem (by have := a.lo; omega) h

/-- The 64 bits of `a` read as an unsigned number: what `binary.Write` puts on
the wire. -/
def toBits (a : Int64) : Nat := (a.val % 2 ^ 64).toNat

/-- The `int64` whose 64 bits are `n`, as `binary.Read` builds it. -/
def ofBits (n : Nat) : Int64 := ofInt n

theorem toBits_lt (a : Int64) : a.toBits < 2 ^ 64 := by unfold toBits; omega

theorem ofBits_toBits (a : Int64) : ofBits a.toBits = a := by
  have := a.lo; have := a.hi
  ext; simp only [ofBits, toBits, val_ofInt, wrap]; omega

end Int64

-- ---------------------------------------------------------------------------
-- encoding/binary and io.ReadFull
-- ---------------------------------------------------------------------------

/-- `binary.Write(w, binary.BigEndian, x)` for a `byte`: the bytes it writes. -/
def putUint8 (b : UInt8) : Bytes := [b]

/-- `binary.Write(w, binary.BigEndian, x)` for a `uint16`. -/
def putUint16 (x : UInt16) : Bytes := beBytes 2 x.toNat

/-- `binary.Write(w, binary.BigEndian, x)` for a `uint32`. -/
def putUint32 (x : UInt32) : Bytes := beBytes 4 x.toNat

/-- `binary.Write(w, binary.BigEndian, x)` for an `int64`. -/
def putInt64 (x : Int64) : Bytes := beBytes 8 x.toBits

@[simp] theorem length_putUint8 (b : UInt8) : (putUint8 b).length = 1 := rfl
@[simp] theorem length_putUint16 (x : UInt16) : (putUint16 x).length = 2 := by simp [putUint16]
@[simp] theorem length_putUint32 (x : UInt32) : (putUint32 x).length = 4 := by simp [putUint32]
@[simp] theorem length_putInt64 (x : Int64) : (putInt64 x).length = 8 := by simp [putInt64]

/-- What a read fails with: `io.EOF` when the stream ended before the first
byte, `io.ErrUnexpectedEOF` when it ended inside the read, and the timeout a
`net.Conn` read returns once its read deadline has passed. `blocked` is no
error Go returns: the read never returns, on a connection the peer keeps open
and silent with no read deadline set; the client's `attempt` turns it into a
goroutine that never goes on. -/
inductive ReadError
  | eof
  | unexpectedEOF
  | timeout
  | blocked
  deriving DecidableEq, Repr

/-- An `io.Reader` over a state `σ`, seen through `io.ReadFull`: `readFull n`
returns exactly `n` bytes or fails, and a failed read keeps what it consumed. -/
structure Reader (σ : Type) where
  readFull : Nat → EStateM ReadError σ Bytes
  length_readFull : ∀ n s bs s', readFull n s = .ok bs s' → bs.length = n

namespace Reader

variable {σ : Type} (r : Reader σ)

/-- `binary.Read(r, binary.BigEndian, &x)` for a `byte`. -/
def readUint8 : EStateM ReadError σ UInt8 := do
  let bs ← r.readFull 1
  pure (UInt8.ofNat (beValue bs))

/-- `binary.Read(r, binary.BigEndian, &x)` for a `uint16`. -/
def readUint16 : EStateM ReadError σ UInt16 := do
  let bs ← r.readFull 2
  pure (UInt16.ofNat (beValue bs))

/-- `binary.Read(r, binary.BigEndian, &x)` for a `uint32`. -/
def readUint32 : EStateM ReadError σ UInt32 := do
  let bs ← r.readFull 4
  pure (UInt32.ofNat (beValue bs))

/-- `binary.Read(r, binary.BigEndian, &x)` for an `int64`. -/
def readInt64 : EStateM ReadError σ Int64 := do
  let bs ← r.readFull 8
  pure (Int64.ofBits (beValue bs))

end Reader

/-- `io.ReadFull` on an in-memory stream (`bytes.Buffer`, `bytes.Reader`), whose
state is what is still unread. -/
def bufferReadFull (n : Nat) : EStateM ReadError Bytes Bytes := fun s =>
  if n ≤ s.length then .ok (s.take n) (s.drop n)
  else if s = [] then .error .eof []
  else .error .unexpectedEOF []

/-- A `bytes.Reader` over its unread bytes. -/
def bufferReader : Reader Bytes where
  readFull := bufferReadFull
  length_readFull := by
    intro n s bs s' h
    unfold bufferReadFull at h
    split at h
    · cases h; simpa
    · split at h <;> cases h

@[simp] theorem bufferReader_readFull : bufferReader.readFull = bufferReadFull := rfl

theorem bufferReadFull_append (bs rest : Bytes) :
    bufferReadFull bs.length (bs ++ rest) = .ok bs rest := by
  simp [bufferReadFull]

theorem bufferReadFull_append_of_le {n : Nat} {bs : Bytes} (rest : Bytes) (h : n ≤ bs.length) :
    bufferReadFull n (bs ++ rest) = .ok (bs.take n) (bs.drop n ++ rest) := by
  simp [bufferReadFull, List.take_append_of_le_length h, List.drop_append_of_le_length h]
  omega

/-! Reading back, from a buffer, what `binary.Write` wrote. -/

@[simp] theorem ofNat_beValue_putUint8 (b : UInt8) : UInt8.ofNat (beValue (putUint8 b)) = b := by
  rw [show beValue (putUint8 b) = b.toNat by simp [putUint8, beValue]]
  exact UInt8.ext (Nat.mod_eq_of_lt b.toNat_lt)

@[simp] theorem ofNat_beValue_putUint16 (x : UInt16) : UInt16.ofNat (beValue (putUint16 x)) = x := by
  rw [putUint16, beValue_beBytes, Nat.mod_eq_of_lt (by simpa using x.toNat_lt)]
  exact UInt16.ext (Nat.mod_eq_of_lt x.toNat_lt)

@[simp] theorem ofNat_beValue_putUint32 (x : UInt32) : UInt32.ofNat (beValue (putUint32 x)) = x := by
  rw [putUint32, beValue_beBytes, Nat.mod_eq_of_lt (by simpa using x.toNat_lt)]
  exact UInt32.ext (Nat.mod_eq_of_lt x.toNat_lt)

@[simp] theorem ofBits_beValue_putInt64 (x : Int64) : Int64.ofBits (beValue (putInt64 x)) = x := by
  rw [putInt64, beValue_beBytes, Nat.mod_eq_of_lt (by simpa using x.toBits_lt), Int64.ofBits_toBits]

@[simp] theorem readUint8_putUint8 (b : UInt8) (rest : Bytes) :
    bufferReader.readUint8 (putUint8 b ++ rest) = .ok b rest := by
  have h := bufferReadFull_append (putUint8 b) rest
  simp only [length_putUint8] at h
  simp only [Reader.readUint8, bind, EStateM.bind, bufferReader_readFull, h, ofNat_beValue_putUint8]
  rfl

@[simp] theorem readUint16_putUint16 (x : UInt16) (rest : Bytes) :
    bufferReader.readUint16 (putUint16 x ++ rest) = .ok x rest := by
  have h := bufferReadFull_append (putUint16 x) rest
  simp only [length_putUint16] at h
  simp only [Reader.readUint16, bind, EStateM.bind, bufferReader_readFull, h, ofNat_beValue_putUint16]
  rfl

@[simp] theorem readUint32_putUint32 (x : UInt32) (rest : Bytes) :
    bufferReader.readUint32 (putUint32 x ++ rest) = .ok x rest := by
  have h := bufferReadFull_append (putUint32 x) rest
  simp only [length_putUint32] at h
  simp only [Reader.readUint32, bind, EStateM.bind, bufferReader_readFull, h, ofNat_beValue_putUint32]
  rfl

@[simp] theorem readInt64_putInt64 (x : Int64) (rest : Bytes) :
    bufferReader.readInt64 (putInt64 x ++ rest) = .ok x rest := by
  have h := bufferReadFull_append (putInt64 x) rest
  simp only [length_putInt64] at h
  simp only [Reader.readInt64, bind, EStateM.bind, bufferReader_readFull, h, ofBits_beValue_putInt64]
  rfl

/-! The same reads, followed by the rest of a decoder. Stated on the bind, they
rewrite a decoder field by field, with no unfolding of the reads left for the
kernel to check. -/

@[simp] theorem readUint8_putUint8_bind {β : Type} (b : UInt8) (rest : Bytes)
    (f : UInt8 → EStateM ReadError Bytes β) : (bufferReader.readUint8 >>= f) (putUint8 b ++ rest) = f b rest :=
  bind_of_eq_ok (readUint8_putUint8 b rest) f

@[simp] theorem readUint16_putUint16_bind {β : Type} (x : UInt16) (rest : Bytes)
    (f : UInt16 → EStateM ReadError Bytes β) :
    (bufferReader.readUint16 >>= f) (putUint16 x ++ rest) = f x rest :=
  bind_of_eq_ok (readUint16_putUint16 x rest) f

@[simp] theorem readUint32_putUint32_bind {β : Type} (x : UInt32) (rest : Bytes)
    (f : UInt32 → EStateM ReadError Bytes β) :
    (bufferReader.readUint32 >>= f) (putUint32 x ++ rest) = f x rest :=
  bind_of_eq_ok (readUint32_putUint32 x rest) f

@[simp] theorem readInt64_putInt64_bind {β : Type} (x : Int64) (rest : Bytes)
    (f : Int64 → EStateM ReadError Bytes β) : (bufferReader.readInt64 >>= f) (putInt64 x ++ rest) = f x rest :=
  bind_of_eq_ok (readInt64_putInt64 x rest) f

/-! What a successful read from a buffer took. -/

theorem bufferReadFull_eq_ok {n : Nat} {s bs s' : Bytes} :
    bufferReadFull n s = .ok bs s' ↔ bs.length = n ∧ s = bs ++ s' := by
  constructor
  · intro h
    unfold bufferReadFull at h
    split at h
    · cases h; simp_all
    · split at h <;> cases h
  · rintro ⟨rfl, rfl⟩
    exact bufferReadFull_append bs s'

theorem pure_eq_ok {ε σ α : Type} {a b : α} {s s' : σ} :
    (pure a : EStateM ε σ α) s = .ok b s' ↔ a = b ∧ s = s' := by
  simp [pure, EStateM.pure]

theorem readUint8_eq_ok {s s' : Bytes} {b : UInt8} :
    bufferReader.readUint8 s = .ok b s' ↔ s = b :: s' := by
  constructor
  · intro h
    obtain ⟨bs, s₁, h₁, h₂⟩ := bind_eq_ok h
    obtain ⟨hlen, rfl⟩ := bufferReadFull_eq_ok.1 h₁
    obtain ⟨rfl, rfl⟩ := pure_eq_ok.1 h₂
    match bs, hlen with
    | [x], _ =>
      have hx : UInt8.ofNat (beValue [x]) = x := by
        rw [show beValue [x] = x.toNat by simp [beValue]]
        exact UInt8.ext (Nat.mod_eq_of_lt x.toNat_lt)
      rw [hx]; rfl
  · rintro rfl
    exact readUint8_putUint8 b s'

theorem readUint32_eq_ok {s s' : Bytes} {x : UInt32} :
    bufferReader.readUint32 s = .ok x s' ↔ ∃ l : Bytes, l.length = 4 ∧ s = l ++ s' ∧ x.toNat = beValue l := by
  constructor
  · intro h
    obtain ⟨l, s₁, h₁, h₂⟩ := bind_eq_ok h
    obtain ⟨hlen, rfl⟩ := bufferReadFull_eq_ok.1 h₁
    obtain ⟨rfl, rfl⟩ := pure_eq_ok.1 h₂
    have := beValue_lt l
    rw [hlen] at this
    exact ⟨l, hlen, rfl, Nat.mod_eq_of_lt (by simpa using this)⟩
  · rintro ⟨l, hlen, rfl, hx⟩
    have h₁ := bufferReadFull_append l s'
    have hv : UInt32.ofNat (beValue l) = x := by
      have := beValue_lt l
      rw [hlen] at this
      exact UInt32.ext ((Nat.mod_eq_of_lt (by simpa using this)).trans hx.symm)
    rw [hlen] at h₁
    simp only [Reader.readUint32, bind, EStateM.bind, bufferReader_readFull, h₁, hv]
    rfl

end TunnelMesh
