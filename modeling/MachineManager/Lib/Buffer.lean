import Mathlib.Algebra.Ring.Nat
import Mathlib.Data.List.OfFn

/-!
# Byte buffers

A buffer of `n` bytes is a `Vector UInt8 n`. The two operations are `slice`, which reads a window,
and `put`, which overwrites one; `byte` reads a single byte and is total, so that facts about
buffers are facts about functions of a position. On top of these stand the little-endian integers
and `putCells`, which writes a table of equally sized cells.
-/

abbrev Buffer (n : Nat) : Type := Vector UInt8 n

open Nat

namespace Buffer

open Vector

variable {k m n : Nat}

/-! ### Reading and writing bytes -/

def byte (b : Buffer n) (i : Nat) : UInt8 :=
  b[i]?.getD 0

def zeros (n : Nat) : Buffer n :=
  Vector.replicate n 0

def slice (b : Buffer n) (off m : Nat) : Buffer m :=
  Vector.ofFn fun i => byte b (off + i)

/-- Overwrite the window that starts at `off` with the bytes of `src`. -/
def put (b : Buffer n) (off : Nat) (src : Buffer m) : Buffer n :=
  Vector.ofFn fun i => if off ≤ i ∧ i < off + m then byte src (i - off) else byte b i

/-- What is left when only the first `k` bytes of `new` have replaced those of `old`. -/
def splice (k : Nat) (new old : Buffer n) : Buffer n :=
  Vector.ofFn fun i => if i < k then byte new i else byte old i

variable {b : Buffer n} {i off off' j k : Nat} {c : Buffer m} (f : Nat → UInt8)

theorem byte_of_lt (h : i < n) :
  byte b i = b[i]
  := by simp [byte, h]

theorem byte_of_le (h : n ≤ i) :
  byte b i = 0
  := by simp [byte, h]

@[simp]
theorem byte_ofFn (f : Fin n → UInt8) (i : Nat) :
  byte (ofFn f) i = if h : i < n then f ⟨i, h⟩ else 0
  := by
  by_cases h : i < n
  · rw [byte_of_lt h]
    simp [h]
  · rw [byte_of_le (by omega)]
    simp [h]

@[simp]
theorem byte_zeros (n i : Nat) :
  byte (zeros n) i = 0
  := by
  by_cases h : i < n
  · rw [byte_of_lt h]
    simp [zeros]
  · exact byte_of_le (by omega)

/-- A buffer is determined by its bytes. -/
theorem ext_byte {c : Buffer n} (h : ∀ i < n, byte b i = byte c i) :
  b = c
  := by
  apply Vector.ext
  intro i hi
  rw [← byte_of_lt hi, ← byte_of_lt hi, h i hi]

theorem byte_slice (b : Buffer n) (off m i : Nat) :
  byte (slice b off m) i = if i < m then byte b (off + i) else 0
  := by simp [slice]

theorem byte_put (b : Buffer n) (off : Nat) (src : Buffer m) (i : Nat) :
  byte (put b off src) i = if off ≤ i ∧ i < off + m ∧ i < n then byte src (i - off) else byte b i
  := by
  by_cases h : i < n
  · simp [put, h]
  · simp [put, h, byte_of_le (Nat.le_of_not_lt h)]

theorem byte_splice (k : Nat) (new old : Buffer n) (i : Nat) :
  byte (splice k new old) i = if i < k then byte new i else byte old i
  := by
  by_cases h : i < n
  · simp [splice, h]
  · simp [splice, byte_of_le (Nat.le_of_not_lt h)]

@[simp]
theorem slice_zeros (n off m : Nat) :
  slice (zeros n) off m = zeros m
  := by
  apply ext_byte
  intro i _
  simp [byte_slice]

@[simp]
theorem slice_zero_self (b : Buffer n) :
  slice b 0 n = b
  := by
  apply ext_byte
  intro i hi
  simp [byte_slice, hi]

/-- What was put into a window is read back from it. -/
theorem slice_put_self (b : Buffer n) (src : Buffer m) (h : off + m ≤ n) :
  slice (put b off src) off m = src
  := by
  apply ext_byte
  intro i hi
  rw [byte_slice, byte_put, if_pos hi, if_pos (by omega)]
  congr 1
  omega

/-- A window that does not meet the one written is unchanged. -/
theorem slice_put_of_disjoint (b : Buffer n) (src : Buffer m)
    (h : off' + k ≤ off ∨ off + m ≤ off') :
  slice (put b off src) off' k = slice b off' k
  := by
  apply ext_byte
  intro i hi
  rw [byte_slice, byte_slice, if_pos hi, if_pos hi, byte_put, if_neg (by omega)]

theorem byte_put_of_disjoint (b : Buffer n) (src : Buffer m) (h : i < off ∨ off + m ≤ i) :
  byte (put b off src) i = byte b i
  := by rw [byte_put, if_neg (by omega)]

/-- A window of a window. -/
theorem slice_slice (b : Buffer n) (h : off' + k ≤ m) :
  slice (slice b off m) off' k = slice b (off + off') k
  := by
  apply ext_byte
  intro i hi
  rw [byte_slice, byte_slice, byte_slice, if_pos hi, if_pos (by omega), if_pos hi, Nat.add_assoc]

/-- Two buffers that agree on a window have the same slice there. -/
theorem slice_congr (h : ∀ i, off ≤ i → i < off + k → byte b i = byte c i) :
  slice b off k = slice c off k
  := by
  apply ext_byte
  intro i hi
  rw [byte_slice, byte_slice, if_pos hi, if_pos hi, h _ (by omega) (by omega)]

/-- A window is the concatenation of its two parts. -/
theorem toList_slice_add (b : Buffer n) (off j k : Nat) :
  (slice b off (j + k)).toList = (slice b off j).toList ++ (slice b (off + j) k).toList
  := by
  simp only [slice, toList_ofFn, List.ofFn_add]
  simp [Nat.add_assoc]

/-- Nothing has landed. -/
@[simp]
theorem splice_zero (new old : Buffer n) :
  splice 0 new old = old
  := by
  apply ext_byte
  intro i _
  simp [byte_splice]

/-- Everything has landed. -/
theorem splice_of_le (new old : Buffer n) (h : n ≤ k) :
  splice k new old = new
  := by
  apply ext_byte
  intro i hi
  rw [byte_splice, if_pos (by omega)]

/-- A window that has landed whole reads as the new bytes. -/
theorem slice_splice_of_le (new old : Buffer n) (h : off + j ≤ k) :
  slice (splice k new old) off j = slice new off j
  := by
  apply slice_congr
  intro i _ hi
  rw [byte_splice, if_pos (by omega)]

/-- A window of which nothing has landed reads as the old bytes. -/
theorem slice_splice_of_ge (new old : Buffer n) (h : k ≤ off) :
  slice (splice k new old) off j = slice old off j
  := by
  apply slice_congr
  intro i hi _
  rw [byte_splice, if_neg (by omega)]

/-! ### Little-endian integers -/

/-- The value of the `n` bytes `f 0, …, f (n - 1)`, least significant first. -/
def leValue (f : Nat → UInt8) : Nat → Nat
  | 0 => 0
  | n + 1 => leValue f n + (f n).toNat * 256 ^ n

def leBytes (n v : Nat) : Buffer n :=
  Vector.ofFn fun i => UInt8.ofNat (v / 256 ^ i.val)

theorem leValue_leBytes_of_le (n v : Nat) (h : k ≤ n) :
  leValue (byte (leBytes n v)) k = v % 256 ^ k
  := by
  induction k with
  | zero => simp [leValue, mod_one]
  | succ k ih =>
    have digit : (byte (leBytes n v) k).toNat = v / 256 ^ k % 256 := by
      simp [leBytes, show k < n by omega]
    simp only [leValue]
    rw [ih (by omega), digit, Nat.pow_succ, Nat.mod_mul, Nat.mul_comm]

/-- The value of the bytes of `v` is `v`, up to their width. -/
theorem leValue_leBytes (n v : Nat) :
  leValue (byte (leBytes n v)) n = v % 256 ^ n
  := leValue_leBytes_of_le n v (le_refl n)

theorem leValue_lt (n : Nat) :
  leValue f n < 256 ^ n
  := by
  induction n with
  | zero => exact zero_lt_one
  | succ n =>
    have digit : (f n).toNat * 256 ^ n ≤ 255 * 256 ^ n :=
      mul_le_mul_right _ (le_of_lt_succ (f n).toNat_lt)
    simp only [leValue, pow_succ]
    omega

/-- A digit of a value is the byte it came from. -/
theorem leValue_div_mod (h : i < n) :
  leValue f n / 256 ^ i % 256 = (f i).toNat
  := by
  induction n with
  | zero => omega
  | succ n ih =>
    simp only [leValue]
    rcases Nat.lt_succ_iff_lt_or_eq.mp h with h | rfl
    · obtain ⟨d, rfl⟩ : ∃ d, n = i + 1 + d := ⟨n - (i + 1), by omega⟩
      have shifted : (f (i + 1 + d)).toNat * 256 ^ (i + 1 + d) =
          256 ^ i * (256 * ((f (i + 1 + d)).toNat * 256 ^ d)) := by
        rw [Nat.pow_add, Nat.pow_succ]
        ac_rfl
      rw [shifted, Nat.add_mul_div_left _ _ (Nat.pow_pos (by decide)),
        Nat.add_mul_mod_self_left, ih h]
    · rw [Nat.add_mul_div_right _ _ (Nat.pow_pos (by decide)),
        Nat.div_eq_of_lt (leValue_lt f i), Nat.zero_add, Nat.mod_eq_of_lt (f i).toNat_lt]

/-- The bytes of the value of a buffer are its bytes. -/
theorem leBytes_leValue (b : Buffer n) :
  leBytes n (leValue (byte b) n) = b
  := by
  apply ext_byte
  intro i hi
  apply UInt8.toNat_inj.mp
  simp [leBytes, hi, leValue_div_mod]

def getU16 (b : Buffer n) (off : Nat) : UInt16 :=
  UInt16.ofNat (leValue (byte (slice b off 2)) 2)

def getU32 (b : Buffer n) (off : Nat) : UInt32 :=
  UInt32.ofNat (leValue (byte (slice b off 4)) 4)

def getU64 (b : Buffer n) (off : Nat) : UInt64 :=
  UInt64.ofNat (leValue (byte (slice b off 8)) 8)

def putU16 (b : Buffer n) (off : Nat) (v : UInt16) : Buffer n :=
  put b off (leBytes 2 v.toNat)

def putU32 (b : Buffer n) (off : Nat) (v : UInt32) : Buffer n :=
  put b off (leBytes 4 v.toNat)

def putU64 (b : Buffer n) (off : Nat) (v : UInt64) : Buffer n :=
  put b off (leBytes 8 v.toNat)

def putByte (b : Buffer n) (off : Nat) (v : UInt8) : Buffer n :=
  put b off #v[v]

theorem getU16_of_slice {v : UInt16} (h : slice b off 2 = leBytes 2 v.toNat) :
  getU16 b off = v
  := by
  have small : v.toNat < 256 ^ 2 := v.toNat_lt
  rw [getU16, h, leValue_leBytes, mod_eq_of_lt small]
  apply UInt16.ofNat_toNat

theorem getU32_of_slice {v : UInt32} (h : slice b off 4 = leBytes 4 v.toNat) :
  getU32 b off = v
  := by
  have small : v.toNat < 256 ^ 4 := v.toNat_lt
  rw [getU32, h, leValue_leBytes, mod_eq_of_lt small]
  apply UInt32.ofNat_toNat

theorem getU64_of_slice {v : UInt64} (h : slice b off 8 = leBytes 8 v.toNat) :
  getU64 b off = v
  := by
  have small : v.toNat < 256 ^ 8 := v.toNat_lt
  rw [getU64, h, leValue_leBytes, mod_eq_of_lt small]
  apply UInt64.ofNat_toNat

section

variable (b)

/-- The bytes of the integer at `off` are the window there. -/
theorem leBytes_getU32 (off : Nat) :
  leBytes 4 (getU32 b off).toNat = slice b off 4
  := by
  have small : leValue (byte (slice b off 4)) 4 < 2 ^ 32 := leValue_lt _ 4
  rw [getU32, UInt32.toNat_ofNat', mod_eq_of_lt small, leBytes_leValue]

theorem getU32_put_leBytes (v : UInt32) (h : off + 4 ≤ n) :
  getU32 (put b off (leBytes 4 v.toNat)) off = v
  := getU32_of_slice (slice_put_self _ _ h)

theorem getU64_put_leBytes (v : UInt64) (h : off + 8 ≤ n) :
  getU64 (put b off (leBytes 8 v.toNat)) off = v
  := getU64_of_slice (slice_put_self _ _ h)

theorem byte_put_singleton (v : UInt8) (h : off < n) :
  byte (put b off #v[v]) off = v
  := by
  rw [byte_put, if_pos (by omega)]
  simp [byte]

end

/-- An integer is read from its own window only. -/
theorem getU32_congr (h : slice b off 4 = slice c off' 4) :
  getU32 b off = getU32 c off'
  := by rw [getU32, getU32, h]

theorem getU64_congr (h : slice b off 8 = slice c off' 8) :
  getU64 b off = getU64 c off'
  := by rw [getU64, getU64, h]

theorem getU32_put_of_disjoint (b : Buffer n) (src : Buffer m)
    (h : off' + 4 ≤ off ∨ off + m ≤ off') :
  getU32 (put b off src) off' = getU32 b off'
  := getU32_congr (slice_put_of_disjoint b src h)

theorem getU64_put_of_disjoint (b : Buffer n) (src : Buffer m)
    (h : off' + 8 ≤ off ∨ off + m ≤ off') :
  getU64 (put b off src) off' = getU64 b off'
  := getU64_congr (slice_put_of_disjoint b src h)

/-! ### Tables of cells -/

/-- Write the cells `cell 0, …, cell (k - 1)`, each of `m` bytes, one after the other from `off`. -/
def putCells (b : Buffer n) (off : Nat) {k : Nat} (cell : Fin k → Buffer m) : Buffer n :=
  Fin.foldl k (fun b i => put b (off + i * m) (cell i)) b

theorem putCells_succ (b : Buffer n) (off : Nat) (cell : Fin (k + 1) → Buffer m) :
  putCells b off cell =
    put (putCells b off fun i : Fin k => cell i.castSucc) (off + k * m) (cell (Fin.last k))
  := by simp [putCells, Fin.foldl_succ_last]

/-- Outside the table nothing is written. -/
theorem slice_putCells_of_disjoint (b : Buffer n) (cell : Fin k → Buffer m)
    (h : off' + j ≤ off ∨ off + k * m ≤ off') :
  slice (putCells b off cell) off' j = slice b off' j
  := by
  induction k with
  | zero => simp [putCells]
  | succ _ ih =>
    rw [add_mul] at h
    rw [putCells_succ, slice_put_of_disjoint _ _ (by omega), ih _ (by omega)]

theorem byte_putCells_of_disjoint (b : Buffer n) (cell : Fin k → Buffer m)
    (h : i < off ∨ off + k * m ≤ i) :
  byte (putCells b off cell) i = byte b i
  := by
  induction k with
  | zero => simp [putCells]
  | succ _ ih =>
    rw [add_mul] at h
    rw [putCells_succ, byte_put_of_disjoint _ _ (by omega), ih _ (by omega)]

/-- Each cell of a table is read back. -/
theorem slice_putCells (b : Buffer n) (cell : Fin k → Buffer m) (h : off + k * m ≤ n) (i : Fin k) :
  slice (putCells b off cell) (off + i * m) m = cell i
  := by
  induction k with
  | zero => exact i.elim0
  | succ k ih =>
    rw [add_mul] at h
    rw [putCells_succ]
    induction i using Fin.lastCases with
    | last => exact slice_put_self _ _ (by omega)
    | cast i =>
      have before : (i.val + 1) * m ≤ k * m := mul_le_mul_right m i.isLt
      rw [add_mul] at before
      rw [slice_put_of_disjoint _ _ (by simp only [Fin.val_castSucc]; omega)]
      exact ih _ (by omega) i

theorem byte_putCells (b : Buffer n) (cell : Fin k → Buffer m) (h : off + k * m ≤ n) (i : Fin k)
    (hj : j < m) :
  byte (putCells b off cell) (off + i * m + j) = byte (cell i) j
  := by rw [← slice_putCells b cell h i, byte_slice, if_pos hj]

end Buffer
