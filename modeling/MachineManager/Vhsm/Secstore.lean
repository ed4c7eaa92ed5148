import MachineManager.Lib.Delimited
import MachineManager.Vhsm.HandleTable
import Mathlib.Tactic.IntervalCases

/-!
# The store of key metadata

What the daemon keeps of a persistent handle: a file for each handle, named after its number. The
key itself stays with the crypto provider. A record is written as numbers and counted texts, and a
record whose texts are not too long is read back as it was written
(`deserializeMetadata_serializeMetadata`).
-/

namespace Vhsm

/-- The record of a handle. -/
structure KeyMetadata where
  vhsmHandle : UInt32
  keyId : String
  algorithm : UInt32
  permittedOps : UInt32
  ownerVmId : String
  persistent : Bool
  label : String
deriving DecidableEq

/-- The two bytes of a length, which is cut to 16 bits. -/
def lenBytes (n : Nat) : List UInt8 :=
  [.ofNat n, .ofNat (n / 256)]

def putText (s : String) : List UInt8 :=
  lenBytes s.utf8ByteSize ++ s.toUTF8.toList

def serializeMetadata (m : KeyMetadata) : List UInt8 :=
  toLeBytes m.vhsmHandle ++ (toLeBytes m.algorithm ++ (toLeBytes m.permittedOps ++
    ((if m.persistent then 1 else 0) ::
      (putText m.keyId ++ (putText m.ownerVmId ++ putText m.label)))))

/-- A text after its length, and what follows. -/
def takeText (data : List UInt8) : Option (String × List UInt8) :=
  match data with
  | lo :: hi :: rest =>
    let len := lo.toNat + 256 * hi.toNat
    if rest.length < len then none
    else (String.fromUTF8? ⟨(rest.take len).toArray⟩).map (·, rest.drop len)
  | _ => none

def deserializeMetadata (data : List UInt8) : Option KeyMetadata :=
  if data.length < 13 then none
  else do
    let (keyId, rest) ← takeText (data.drop 13)
    let (ownerVmId, rest) ← takeText rest
    let (label, _) ← takeText rest
    pure
      { vhsmHandle := u32FromLeBytes data 0
        keyId
        algorithm := u32FromLeBytes data 4
        permittedOps := u32FromLeBytes data 8
        ownerVmId
        persistent := data.getD 12 0 != 0
        label }

/-! ### Records are read back -/

/-- The texts of the record can be counted in 16 bits. -/
def KeyMetadata.Short (m : KeyMetadata) : Prop :=
  m.keyId.utf8ByteSize < 65536 ∧ m.ownerVmId.utf8ByteSize < 65536 ∧ m.label.utf8ByteSize < 65536

/-- A number is read back. -/
theorem u32FromLeBytes_toLeBytes (h : UInt32) (rest : List UInt8) :
  u32FromLeBytes (toLeBytes h ++ rest) 0 = h
  := by
  simp only [u32FromLeBytes, toLeBytes, List.cons_append, List.getD_cons_zero, List.getD_cons_succ,
    Nat.zero_add]
  apply UInt32.toBitVec_inj.mp
  apply BitVec.eq_of_getLsbD_eq
  intro i hi
  simp only [UInt32.toBitVec_or, UInt32.toBitVec_shiftLeft, UInt8.toBitVec_toUInt32,
    UInt32.toBitVec_toUInt8, UInt32.toBitVec_shiftRight, UInt32.toBitVec_ofNat, BitVec.getLsbD_or,
    BitVec.getLsbD_setWidth, BitVec.shiftLeft_eq', BitVec.ushiftRight_eq', BitVec.getLsbD_shiftLeft,
    BitVec.getLsbD_ushiftRight, BitVec.toNat_umod, BitVec.toNat_ofNat]
  interval_cases i <;> simp

/-- A number is read from where it stands. -/
theorem u32FromLeBytes_append (front back : List UInt8) (off : Nat) :
  u32FromLeBytes (front ++ back) (front.length + off) = u32FromLeBytes back off
  := by
  simp only [u32FromLeBytes, List.getD_eq_getElem?_getD, Nat.add_assoc,
    List.getElem?_append_right (Nat.le_add_right _ _), Nat.add_sub_cancel_left]

/-- A text is read back. -/
theorem takeText_putText {s : String} (short : s.utf8ByteSize < 65536) (rest : List UInt8) :
  takeText (putText s ++ rest) = some (s, rest)
  := by
  have len : (UInt8.ofNat s.utf8ByteSize).toNat + 256 * (UInt8.ofNat (s.utf8ByteSize / 256)).toNat =
      s.utf8ByteSize := by
    rw [UInt8.toNat_ofNat', UInt8.toNat_ofNat']
    omega
  have size : s.toUTF8.toList.length = s.utf8ByteSize := Utf8.length_toUTF8 s
  have enough : ¬ (s.toUTF8.toList ++ rest).length < s.utf8ByteSize := by
    rw [List.length_append, size]
    omega
  simp only [putText, lenBytes, List.cons_append, List.nil_append, takeText, len, if_neg enough]
  rw [← size, List.take_left, List.drop_left, Utf8.fromUTF8?_toUTF8]
  rfl

/-- A record is read back. -/
theorem deserializeMetadata_serializeMetadata {m : KeyMetadata} (short : m.Short) :
  deserializeMetadata (serializeMetadata m) = some m
  := by
  obtain ⟨shortKey, shortOwner, shortLabel⟩ := short
  have handle : u32FromLeBytes (serializeMetadata m) 0 = m.vhsmHandle :=
    u32FromLeBytes_toLeBytes ..
  have algorithm : u32FromLeBytes (serializeMetadata m) 4 = m.algorithm :=
    (u32FromLeBytes_append (toLeBytes m.vhsmHandle) _ 0).trans (u32FromLeBytes_toLeBytes ..)
  have permittedOps : u32FromLeBytes (serializeMetadata m) 8 = m.permittedOps :=
    (u32FromLeBytes_append (toLeBytes m.vhsmHandle) _ 4).trans
      ((u32FromLeBytes_append (toLeBytes m.algorithm) _ 0).trans (u32FromLeBytes_toLeBytes ..))
  have persistent : ((serializeMetadata m).getD 12 0 != 0) = m.persistent := by
    cases flag : m.persistent <;> simp [serializeMetadata, toLeBytes, flag]
  have texts : (serializeMetadata m).drop 13 =
      putText m.keyId ++ (putText m.ownerVmId ++ putText m.label) := rfl
  have long : ¬ (serializeMetadata m).length < 13 := by
    simp [serializeMetadata, toLeBytes]
  have last : takeText (putText m.label) = some (m.label, []) := by
    have := takeText_putText shortLabel []
    rwa [List.append_nil] at this
  simp only [deserializeMetadata, if_neg long, texts, takeText_putText shortKey,
    takeText_putText shortOwner, last, handle, algorithm, permittedOps, persistent,
    Option.bind_eq_bind, Option.bind_some, Option.pure_def]

/-! ### The store -/

/-- The label of a handle as a text, without the padding. -/
def labelText (label : List UInt8) : String :=
  let text := (String.fromUTF8? ⟨label.toArray⟩).getD ""
  String.ofList (text.toList.reverse.dropWhile (· == '\x00')).reverse

def HandleEntry.metadata (e : HandleEntry) : KeyMetadata :=
  { vhsmHandle := e.handle
    keyId := e.keyId
    algorithm := e.algorithm
    permittedOps := e.permittedOps
    ownerVmId := e.ownerVmId
    persistent := true
    label := labelText e.label }

/-- The files of the store, by the number of the handle. -/
abbrev Secstore : Type :=
  UInt32 → Option (List UInt8)

def Secstore.store (s : Secstore) (m : KeyMetadata) : Secstore :=
  Function.update s m.vhsmHandle (some (serializeMetadata m))

/-! ### Labels -/

/-- A text that is read is not longer than its bytes. -/
theorem utf8ByteSize_fromUTF8?_le (bytes : List UInt8) :
  ((String.fromUTF8? ⟨bytes.toArray⟩).getD "").utf8ByteSize ≤ bytes.length
  := by
  unfold String.fromUTF8?
  split
  · apply Nat.le_refl
  · apply Nat.zero_le

/-- A label as a text is not longer than the label. -/
theorem utf8ByteSize_labelText_le (label : List UInt8) :
  (labelText label).utf8ByteSize ≤ label.length
  := by
  let text := (String.fromUTF8? ⟨label.toArray⟩).getD ""
  let isPadding (c : Char) : Bool := c == '\x00'
  let padding := String.ofList (text.toList.reverse.takeWhile isPadding).reverse
  have split : text = labelText label ++ padding := by
    have reversed : text.toList.reverse.takeWhile isPadding ++
      text.toList.reverse.dropWhile isPadding =
        text.toList.reverse := List.takeWhile_append_dropWhile
    have parts := congrArg List.reverse reversed
    rw [List.reverse_append, List.reverse_reverse] at parts
    calc text = String.ofList text.toList := String.ofList_toList.symm
      _ = String.ofList _ := congrArg String.ofList parts.symm
      _ = labelText label ++ padding := String.ofList_append
  calc (labelText label).utf8ByteSize
      ≤ (labelText label).utf8ByteSize + padding.utf8ByteSize := Nat.le_add_right ..
    _ = text.utf8ByteSize := by rw [split, String.utf8ByteSize_append]
    _ ≤ label.length := utf8ByteSize_fromUTF8?_le label

end Vhsm
