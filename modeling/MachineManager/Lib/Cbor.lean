import Mathlib.Algebra.Order.Ring.Nat
import MachineManager.Lib.Call

/-!
# Reading CBOR from a stream

A reader is a call whose state is the rest of a byte stream. It is local if what it makes of a
stream depends on the bytes it consumes only.

An item of CBOR begins with a head: three bits for its major type, and a number that is written in
the other five bits or, in big-endian order, in the next one, two, four or eight bytes (`Head`). A
head may be longer than its number needs; `encodeUint` writes the shortest one.
-/

open List Nat

namespace Cbor

open Call

variable {t s : List UInt8}

section Readers

variable {ε α β : Type} (eof : ε)

/-- The next `n` bytes; `eof` is the error of a stream that has fewer. -/
def readExact (n : Nat) : Call (List UInt8) ε (List UInt8) :=
  fun s => if n ≤ s.length then (.ok (s.take n), s.drop n) else (.err eof, [])

def readByte : Call (List UInt8) ε UInt8
  | [] => (.err eof, [])
  | b :: rest => (.ok b, rest)

/-- A reader that returns consumes an initial part of the stream, and does the same whatever follows
that part. -/
def IsLocal (c : Call (List UInt8) ε α) : Prop :=
  ∀ s a t, c s = (.ok a, t) → ∃ x, s = x ++ t ∧ ∀ r, c (x ++ r) = (.ok a, r)

theorem local_pure (a : α) :
  IsLocal (pure a : Call (List UInt8) ε α)
  := by
  intro s a' t call
  cases call
  exact ⟨[], rfl, fun r => rfl⟩

theorem local_fail (e : ε) :
  IsLocal (fail e : Call (List UInt8) ε α)
  := by
  intro s a t call
  cases call

theorem local_bind {c : Call (List UInt8) ε α} {f : α → Call (List UInt8) ε β} (hc : IsLocal c)
    (hf : ∀ a, IsLocal (f a)) :
  IsLocal (c >>= f)
  := by
  intro s b t call
  obtain ⟨a, s', first, second⟩ := ok_of_bind call
  obtain ⟨x, rfl, again⟩ := hc s a s' first
  obtain ⟨y, rfl, again'⟩ := hf a s' b t second
  use x ++ y, (append_assoc x y t).symm
  intro r
  rw [append_assoc, run_bind_ok (again _), again']

theorem local_readByte :
  IsLocal (readByte eof)
  := by
  intro s b t call
  cases s with
  | nil => cases call
  | cons =>
    cases call
    exact ⟨[b], rfl, fun r => rfl⟩

variable {eof}

@[simp]
theorem run_readByte_bind (b : UInt8) (rest : List UInt8) (f : UInt8 → Call (List UInt8) ε β) :
  (readByte eof >>= f) (b :: rest) = f b rest
  := rfl

theorem readByte_eq_ok {b : UInt8} (call : readByte eof s = (.ok b, t)) :
  s = b :: t
  := by
  cases s with
  | nil => cases call
  | cons =>
    cases call
    rfl

/-- The bytes that were asked for come first in the stream. -/
theorem readExact_eq_ok {n : Nat} {bytes : List UInt8} (call : readExact eof n s = (.ok bytes, t)) :
  s = bytes ++ t ∧ bytes.length = n
  := by
  unfold readExact at call
  split at call
  next enough =>
    cases call
    exact ⟨(take_append_drop n s).symm, length_take_of_le enough⟩
  · cases call

theorem readExact_append (bytes rest : List UInt8) :
  readExact eof bytes.length (bytes ++ rest) = (.ok bytes, rest)
  := by
  unfold readExact
  rw [if_pos (by simp), take_left, drop_left]

variable (eof)

theorem local_readExact (n : Nat) :
  IsLocal (readExact eof n)
  := by
  intro s bytes t call
  obtain ⟨rfl, rfl⟩ := readExact_eq_ok call
  use bytes, rfl
  apply readExact_append

end Readers

/-! ### Big-endian numbers -/

/-- The number with the given bytes. -/
def beValue : List UInt8 → Nat
  | [] => 0
  | b :: rest => b.toNat * 256 ^ rest.length + beValue rest

/-- The last `n` bytes of a number. -/
def beBytes : Nat → Nat → List UInt8
  | 0, _ => []
  | n + 1, v => UInt8.ofNat (v / 256 ^ n) :: beBytes n v

@[simp]
theorem length_beBytes (n v : Nat) :
  (beBytes n v).length = n
  := by
  induction n with
  | zero => rfl
  | succ _ ih => rw [beBytes, length_cons, ih]

theorem beValue_lt (bytes : List UInt8) :
  beValue bytes < 256 ^ bytes.length
  := by
  induction bytes with
  | nil => exact one_pos
  | cons b rest =>
    have small : b.toNat + 1 ≤ 256 := b.toNat_lt
    calc beValue (b :: rest) < b.toNat * 256 ^ rest.length + 256 ^ rest.length := by
          rw [beValue]
          omega
      _ = (b.toNat + 1) * 256 ^ rest.length := by rw [add_mul, one_mul]
      _ ≤ 256 * 256 ^ rest.length := mul_le_mul_right _ small
      _ = 256 ^ (b :: rest).length := by rw [length_cons, pow_succ, mul_comm]

theorem beValue_beBytes (n v : Nat) :
  beValue (beBytes n v) = v % 256 ^ n
  := by
  induction n with
  | zero => simp [beBytes, beValue, mod_one]
  | succ n ih =>
    have byte : (UInt8.ofNat (v / 256 ^ n)).toNat = v / 256 ^ n % 256 := UInt8.toNat_ofNat'
    rw [beBytes, beValue, ih, length_beBytes, byte, pow_succ, mod_mul, mul_comm, add_comm]

/-! ### Heads -/

def major (b : UInt8) : UInt8 :=
  b >>> 5

/-- The number in the first byte of a head, or the code for its size. -/
def additional (b : UInt8) : UInt8 :=
  b &&& 0x1f

def extraBytes (additional : UInt8) : Option Nat :=
  if additional ≤ 23 then some 0
  else if additional = 24 then some 1
  else if additional = 25 then some 2
  else if additional = 26 then some 4
  else if additional = 27 then some 8
  else none

variable {a : UInt8}

/-- The bytes that follow are none, one, two, four or eight. -/
theorem extraBytes_le {n : Nat} (h : extraBytes a = some n) :
  a < 28 ∧ n ≤ 8
  := by
  unfold extraBytes at h
  split at h
  next small =>
    cases h
    exact ⟨UInt8.lt_of_le_of_lt small (by decide), zero_le 8⟩
  · split at h
    next eq =>
      cases h
      rw [eq]
      decide
    · split at h
      next eq =>
        cases h
        rw [eq]
        decide
      · split at h
        next eq =>
          cases h
          rw [eq]
          decide
        · split at h
          next eq =>
            cases h
            rw [eq]
            decide
          · cases h

/-- The number of a head, from the first byte or from the bytes that follow. -/
def uintValue (additional : UInt8) (extra : List UInt8) : Nat :=
  if additional ≤ 23 then additional.toNat else beValue extra

/-- The number of a head and the bytes that it takes after the first one. -/
def readUint {ε : Type} (eof : ε) (unsupported : UInt8 → ε) (additional : UInt8) :
    Call (List UInt8) ε (Nat × List UInt8) :=
  match extraBytes additional with
  | none => Call.fail (unsupported additional)
  | some n => do
    let extra ← readExact eof n
    pure (uintValue additional extra, extra)

/-- A head without its major type: the five bits of its first byte and the bytes that follow. -/
structure Head where
  additional : UInt8
  extra : List UInt8
  sized : extraBytes additional = some extra.length
deriving DecidableEq

namespace Head

def value (h : Head) : Nat :=
  uintValue h.additional h.extra

def first (m : UInt8) (h : Head) : UInt8 :=
  m <<< 5 ||| h.additional

def encode (m : UInt8) (h : Head) : List UInt8 :=
  h.first m :: h.extra

/-- The number of a head has eight bytes at most. -/
theorem value_lt (h : Head) :
  h.value < 2 ^ 64
  := by
  obtain ⟨-, short⟩ := extraBytes_le h.sized
  unfold value uintValue
  split
  · exact lt_trans h.additional.toNat_lt (by decide)
  · calc beValue h.extra < 256 ^ h.extra.length := beValue_lt h.extra
      _ ≤ 256 ^ 8 := Nat.pow_le_pow_right (by decide) short
      _ = 2 ^ 64 := by decide

end Head

/-- The two parts of the first byte of a head. -/
theorem major_additional {m : UInt8} (hm : m < 8) (ha : a < 32) :
  major (m <<< 5 ||| a) = m ∧ additional (m <<< 5 ||| a) = a
  := by
  have all : ∀ m : Fin 8, ∀ a : Fin 32,
      major (UInt8.ofNat m <<< 5 ||| UInt8.ofNat a) = UInt8.ofNat m ∧
        additional (UInt8.ofNat m <<< 5 ||| UInt8.ofNat a) = UInt8.ofNat a := by decide
  have := all ⟨m.toNat, hm⟩ ⟨a.toNat, ha⟩
  simpa using this

/-- A byte is put together again from its two parts. -/
theorem major_or_additional (b : UInt8) :
  major b <<< 5 ||| additional b = b
  := by
  have all : ∀ b : Fin 256, major (UInt8.ofNat b) <<< 5 ||| additional (UInt8.ofNat b) =
      UInt8.ofNat b := by decide +kernel
  simpa using all ⟨b.toNat, b.toNat_lt⟩

/-- The first byte of a head has its major type and its five bits. -/
theorem Head.parts (h : Head) {m : UInt8} (hm : m < 8) :
  major (h.first m) = m ∧ Cbor.additional (h.first m) = h.additional
  := major_additional hm (UInt8.lt_trans (extraBytes_le h.sized).1 (by decide))

section Reading

variable {ε : Type} {eof : ε} {unsupported : UInt8 → ε}

theorem local_readUint (a : UInt8) :
  IsLocal (readUint eof unsupported a)
  := by
  unfold readUint
  split
  · apply local_fail
  · exact local_bind (local_readExact eof _) fun _ => local_pure _

/-- A head that is read is one. -/
theorem exists_head_of_readUint {extra : List UInt8} {v : Nat}
    (call : readUint eof unsupported a s = (.ok (v, extra), t)) :
  ∃ h : Head, h.additional = a ∧ h.extra = extra ∧ h.value = v ∧ s = extra ++ t
  := by
  unfold readUint at call
  cases sized : extraBytes a with
  | none =>
    rw [sized] at call
    cases call
  | some =>
    rw [sized] at call
    obtain ⟨_, _, read, returned⟩ := ok_of_bind call
    cases returned
    obtain ⟨rfl, length⟩ := readExact_eq_ok read
    exact ⟨⟨a, extra, length ▸ sized⟩, rfl, rfl, rfl, rfl⟩

/-- The number of a head is read from the bytes that follow the first one. -/
theorem readUint_head (h : Head) (rest : List UInt8) :
  readUint eof unsupported h.additional (h.extra ++ rest) = (.ok (h.value, h.extra), rest)
  := by
  unfold readUint
  rw [h.sized]
  exact run_bind_ok (readExact_append h.extra rest) _

end Reading

/-! ### The shortest head -/

variable {value : Nat}

theorem toNat_ofNat_of_lt (direct : value < 24) :
  (UInt8.ofNat value).toNat = value
  := by rw [UInt8.toNat_ofNat', mod_eq_of_lt (by omega)]

theorem ofNat_le_of_lt (direct : value < 24) :
  UInt8.ofNat value ≤ 23
  := by
  rw [UInt8.le_iff_toNat_le, toNat_ofNat_of_lt direct]
  exact le_of_lt_succ direct

/-- A small number needs no further bytes. -/
theorem extraBytes_ofNat (direct : value < 24) :
  extraBytes (UInt8.ofNat value) = some 0
  := by rw [extraBytes, if_pos (ofNat_le_of_lt direct)]

def encodeUint (m : UInt8) (value : Nat) : List UInt8 :=
  let mt := m <<< 5
  if value < 24 then [mt ||| UInt8.ofNat value]
  else if value < 2 ^ 8 then (mt ||| 24) :: beBytes 1 value
  else if value < 2 ^ 16 then (mt ||| 25) :: beBytes 2 value
  else if value < 2 ^ 32 then (mt ||| 26) :: beBytes 4 value
  else (mt ||| 27) :: beBytes 8 value

def Head.shortest (value : Nat) : Head :=
  if direct : value < 24 then
    { additional := UInt8.ofNat value, extra := [], sized := extraBytes_ofNat direct }
  else if value < 2 ^ 8 then { additional := 24, extra := beBytes 1 value, sized := rfl }
  else if value < 2 ^ 16 then { additional := 25, extra := beBytes 2 value, sized := rfl }
  else if value < 2 ^ 32 then { additional := 26, extra := beBytes 4 value, sized := rfl }
  else { additional := 27, extra := beBytes 8 value, sized := rfl }

/-- What `encodeUint` writes is the shortest head. -/
theorem encodeUint_eq_encode (m : UInt8) (value : Nat) :
  encodeUint m value = (Head.shortest value).encode m
  := by
  unfold encodeUint Head.shortest
  split
  · rfl
  · split
    · rfl
    · split
      · rfl
      · split <;> rfl

/-- The shortest head of a number of at most eight bytes is a head of that number. -/
theorem Head.value_shortest (small : value < 2 ^ 64) :
  (Head.shortest value).value = value
  := by
  have extended {n : Nat} (a : UInt8) (large : ¬ a ≤ 23) (fits : value < 256 ^ n) :
      uintValue a (beBytes n value) = value := by
    rw [uintValue, if_neg large, beValue_beBytes, mod_eq_of_lt fits]
  unfold Head.shortest
  split
  next direct =>
    rw [Head.value, uintValue, if_pos (ofNat_le_of_lt direct), toNat_ofNat_of_lt direct]
  · split
    next fits => exact extended 24 (by decide) fits
    · split
      next fits => exact extended 25 (by decide) fits
      · split
        next fits => exact extended 26 (by decide) fits
        · exact extended 27 (by decide) small

end Cbor
