import Mathlib.Data.List.Basic

/-!
# Bytes, reads that can panic, and big-endian fields

The mDNS codec of `internal/mdns/server.go` works on Go byte slices. A slice is a `List UInt8`
here, and a Go `string` is the list of its bytes. Every read of the parser goes through `index` or
`slice`, which fail with `Run.panic` where Go's bounds check would panic, so that "the parser
never indexes out of range" is a statement about the model and not an assumption of it.

`Run` is the outcome of a Go function that may return an error, panic, or run a loop for longer
than the fuel it is given: `outOfFuel` is how a loop that has not exited shows up in a total
model. The big-endian helpers `be16` and `hi8`/`lo8` are the shift-and-or expressions of the
source, with their value in `Nat` proved once.
-/

namespace MatterServer.Mdns

/-- A Go byte slice, and a Go `string` by its bytes. -/
abbrev Bytes := List UInt8

/-- The byte `'.'` that `strings.Split` and `strings.Join` use. -/
def dot : UInt8 := 46

/-- The outcome of running a Go function of the codec: its result, an error value, a run-time
panic (an index out of range), or a loop still running when the fuel ran out. -/
inductive Run (α : Type) where
  | ok (a : α)
  | error (msg : String)
  | panic
  | outOfFuel
  deriving DecidableEq, Repr

namespace Run

/-- Sequencing: an error, a panic, or a loop that has not exited stops the function. -/
def bind {α β : Type} : Run α → (α → Run β) → Run β
  | ok a, f => f a
  | error e, _ => error e
  | panic, _ => panic
  | outOfFuel, _ => outOfFuel

/-- `Run` sequences Go statements: the first outcome that is not `ok` ends the run. -/
instance : Monad Run where
  pure := ok
  bind := bind

@[simp] theorem pure_eq {α : Type} (a : α) : (pure a : Run α) = ok a := rfl

@[simp] theorem ok_bind {α β : Type} (a : α) (f : α → Run β) : (ok a >>= f) = f a := rfl

@[simp] theorem error_bind {α β : Type} (e : String) (f : α → Run β) :
    (error e >>= f) = error e := rfl

@[simp] theorem panic_bind {α β : Type} (f : α → Run β) :
    ((panic : Run α) >>= f) = panic := rfl

@[simp] theorem outOfFuel_bind {α β : Type} (f : α → Run β) :
    ((outOfFuel : Run α) >>= f) = outOfFuel := rfl

/-- A bind returns `ok` exactly when both halves do. -/
theorem bind_eq_ok {α β : Type} {x : Run α} {f : α → Run β} {b : β} :
    (x >>= f) = ok b ↔ ∃ a, x = ok a ∧ f a = ok b := by
  cases x <;> simp

/-- A bind panics exactly when the first half does, or the first half returns and the second
panics. -/
theorem bind_eq_panic {α β : Type} {x : Run α} {f : α → Run β} :
    (x >>= f) = panic ↔ x = panic ∨ ∃ a, x = ok a ∧ f a = panic := by
  cases x <;> simp

end Run

/-- `buf[i]`: the byte at `i`, or a panic when `i` is not below `len(buf)`. -/
def index (buf : Bytes) (i : Nat) : Run UInt8 :=
  match buf[i]? with
  | some b => .ok b
  | none => .panic

/-- `buf[lo:hi]`: the bytes from `lo` up to `hi`, or a panic when the bounds are out of order or
past `len(buf)`. -/
def slice (buf : Bytes) (lo hi : Nat) : Run Bytes :=
  if lo ≤ hi ∧ hi ≤ buf.length then .ok ((buf.drop lo).take (hi - lo)) else .panic

/-- A read inside the buffer returns its byte. -/
theorem index_of_lt {buf : Bytes} {i : Nat} (h : i < buf.length) : index buf i = .ok buf[i] := by
  simp [index, List.getElem?_eq_getElem h]

/-- A read panics exactly when it is past the end. -/
theorem index_eq_panic {buf : Bytes} {i : Nat} : index buf i = .panic ↔ buf.length ≤ i := by
  rw [← List.getElem?_eq_none_iff]
  unfold index
  split <;> simp_all

/-- A read past the end of the bytes in front reads the bytes behind. -/
theorem index_append_right (pre post : Bytes) (i : Nat) :
    index (pre ++ post) (pre.length + i) = index post i := by
  simp [index, List.getElem?_append_right]

/-- A slice that lies in the bytes behind a prefix is a slice of those bytes. -/
theorem slice_append_prefix (pre label post : Bytes) :
    slice (pre ++ label ++ post) pre.length (pre.length + label.length) = .ok label := by
  simp [slice, List.drop_append]

/-! ## Big-endian fields -/

/-- `uint16(hi)<<8 | uint16(lo)`, the parser's 16-bit fields. -/
def be16 (hi lo : UInt8) : UInt16 := hi.toUInt16 <<< 8 ||| lo.toUInt16

/-- `byte(x >> 8)`, the encoder's high byte of a 16-bit field. -/
def hi8 (x : UInt16) : UInt8 := (x >>> 8).toUInt8

/-- `byte(x)`, the encoder's low byte of a 16-bit field. -/
def lo8 (x : UInt16) : UInt8 := x.toUInt8

/-- A byte is below 256. -/
theorem UInt8.toNat_lt (b : UInt8) : b.toNat < 256 := b.toBitVec.isLt

/-- Two bytes read big-endian. -/
theorem be16_toNat (hi lo : UInt8) : (be16 hi lo).toNat = hi.toNat * 256 + lo.toNat := by
  show (hi.toUInt16.toBitVec <<< (UInt16.mod 8 16).toBitVec ||| lo.toUInt16.toBitVec).toNat = _
  have h1 := UInt8.toNat_lt hi
  simp only [BitVec.toNat_or, BitVec.toNat_shiftLeft]
  show hi.toNat <<< 8 % 2 ^ 16 ||| lo.toNat = _
  rw [Nat.shiftLeft_eq, Nat.mod_eq_of_lt (by omega), Nat.mul_comm,
    ← Nat.mul_add_lt_is_or (UInt8.toNat_lt lo)]

@[simp] theorem lo8_toNat (x : UInt16) : (lo8 x).toNat = x.toNat % 256 := by
  show (BitVec.ofNat 8 x.toNat).toNat = _
  simp [BitVec.toNat_ofNat]

@[simp] theorem hi8_toNat (x : UInt16) : (hi8 x).toNat = x.toNat / 256 := by
  have hx : x.toNat < 65536 := x.toBitVec.isLt
  have hshr : (x >>> 8).toNat = x.toNat / 256 := by
    show x.toNat >>> 8 = _
    rw [Nat.shiftRight_eq_div_pow]
  rw [hi8, ← lo8, lo8_toNat, hshr]
  omega

/-- The encoder's two bytes of a 16-bit field read back as that field. -/
@[simp] theorem be16_hi8_lo8 (x : UInt16) : be16 (hi8 x) (lo8 x) = x := by
  apply UInt16.toNat.inj
  rw [be16_toNat, hi8_toNat, lo8_toNat]
  omega

/-- `byte(n >> 8)`, `byte(n)` of a Go `int` such as a length: the bytes of `n` modulo `2^16`. -/
def intBytes (n : Nat) : UInt8 × UInt8 := (UInt8.ofNat (n / 256), UInt8.ofNat n)

/-- A length below `2^16` reads back from its two bytes. -/
theorem be16_intBytes {n : Nat} (h : n < 65536) :
    (be16 (intBytes n).1 (intBytes n).2).toNat = n := by
  simp only [intBytes, be16_toNat, UInt8.toNat, UInt8.ofNat, BitVec.toNat_ofNat]
  omega

end MatterServer.Mdns
