import Mathlib.Tactic.Common

/-!
# Encodings that show where they end

An encoding is delimited if a value can be told from its code, whatever follows it: then what
follows can be told as well. Codes of a fixed length are delimited, and so is a code whose first
part determines how to read the second one. Values in a row that are delimited each are read one
after the other; where one such row goes on when another one is over, what is left of it are codes
again.
-/

section Delimited

variable {α κ ω : Type*} {P : α → Prop} {enc : α → List ω}

/-- Two values with `P` whose codes begin the same sequence are equal, and so is what follows
them. -/
def Delimited (P : α → Prop) (enc : α → List ω) : Prop :=
  ∀ ⦃a b : α⦄, P a → P b → ∀ ⦃s t : List ω⦄, enc a ++ s = enc b ++ t → a = b ∧ s = t

namespace Delimited

open List

/-- Codes of a fixed length. -/
theorem of_length {n : Nat} (length : ∀ a, P a → (enc a).length = n)
    (inj : ∀ ⦃a b⦄, P a → P b → enc a = enc b → a = b) :
  Delimited P enc
  := by
  intro a b ha hb s t same
  obtain ⟨codes, rest⟩ := append_inj same ((length a ha).trans (length b hb).symm)
  exact ⟨inj ha hb codes, rest⟩

/-- The first part of a code determines a key, and the second part, among the values with that key,
the value. -/
theorem append (key : α → κ) {K : κ → Prop} {first : κ → List ω} {second : α → List ω}
    (keys : ∀ a, P a → K (key a)) (head : Delimited K first)
    (tail : ∀ k, Delimited (fun a => P a ∧ key a = k) second) :
  Delimited P fun a => first (key a) ++ second a
  := by
  intro a b ha hb s t same
  rw [List.append_assoc, List.append_assoc] at same
  obtain ⟨sameKey, same⟩ := head (keys a ha) (keys b hb) same
  exact tail (key b) ⟨ha, sameKey⟩ ⟨hb, rfl⟩ same

variable (delimited : Delimited P enc) {l l' : List α}

include delimited

/-- As many values on either side. -/
theorem flatMap_of_length (hl : ∀ a ∈ l, P a) (hl' : ∀ a ∈ l', P a) (length : l.length = l'.length)
    {s t : List ω} (same : l.flatMap enc ++ s = l'.flatMap enc ++ t) :
  l = l' ∧ s = t
  := by
  induction l generalizing l' with
  | nil =>
    obtain rfl : l' = [] := length_eq_zero_iff.mp length.symm
    exact ⟨rfl, same⟩
  | cons a _ ih =>
    cases l' with
    | nil => cases length
    | cons b =>
      rw [flatMap_cons, flatMap_cons, List.append_assoc, List.append_assoc] at same
      obtain ⟨rfl, others⟩ := delimited (hl a mem_cons_self) (hl' b mem_cons_self) same
      obtain ⟨rfl, rfl⟩ := ih (fun a mem => hl a (mem_cons_of_mem _ mem))
        (fun a mem => hl' a (mem_cons_of_mem _ mem)) (Nat.succ.inj length) others
      exact ⟨rfl, rfl⟩

variable (nonempty : ∀ a, enc a ≠ [])

include nonempty

/-- What follows the values on one side are values on the other. -/
theorem flatMap_append (hl : ∀ a ∈ l, P a) (hl' : ∀ a ∈ l', P a) {s : List ω}
    (same : l.flatMap enc ++ s = l'.flatMap enc) :
  ∃ more, l' = l ++ more ∧ s = more.flatMap enc
  := by
  induction l generalizing l' with
  | nil => exact ⟨l', rfl, same⟩
  | cons a _ ih =>
    cases l' with
    | nil =>
      rw [flatMap_cons, flatMap_nil, List.append_assoc] at same
      apply absurd (append_eq_nil_iff.mp same).1 (nonempty a)
    | cons b =>
      rw [flatMap_cons, flatMap_cons, List.append_assoc] at same
      obtain ⟨rfl, others⟩ := delimited (hl a mem_cons_self) (hl' b mem_cons_self) same
      obtain ⟨more, rfl, left⟩ := ih (fun a mem => hl a (mem_cons_of_mem _ mem))
        (fun a mem => hl' a (mem_cons_of_mem _ mem)) others
      exact ⟨more, rfl, left⟩

/-- Values in a row, of whatever number. -/
theorem flatMap_injective (hl : ∀ a ∈ l, P a) (hl' : ∀ a ∈ l', P a)
    (same : l.flatMap enc = l'.flatMap enc) :
  l = l'
  := by
  obtain ⟨more, rfl, none⟩ :=
    delimited.flatMap_append nonempty hl hl' ((List.append_nil _).trans same)
  cases more with
  | nil => rw [List.append_nil]
  | cons a =>
    rw [flatMap_cons] at none
    apply absurd (append_eq_nil_iff.mp none.symm).1 (nonempty a)

end Delimited

end Delimited

/-! ### Texts as bytes -/

namespace Utf8

/-- The bytes from a place on, where `k` of them are left. -/
theorem toList_loop (b : ByteArray) {k i : Nat} (left : i + k = b.size) (r : List UInt8) :
  ByteArray.toList.loop b i r = r.reverse ++ b.data.toList.drop i
  := by
  induction k generalizing i r with
  | zero =>
    have past : ¬i < b.size := by omega
    have none : b.data.toList.length ≤ i := by
      rw [Array.length_toList, ByteArray.size_data]
      omega
    rw [ByteArray.toList.loop, if_neg past, List.drop_eq_nil_of_le none, List.append_nil]
  | succ _ ih =>
    have inside : i < b.size := by omega
    rw [ByteArray.toList.loop, if_pos inside, ih (by omega), List.reverse_cons, List.append_assoc,
      List.singleton_append]
    have byte : b.get! i = b.data.toList[i] := by
      rw [Array.getElem_toList]
      apply getElem!_pos b.data i inside
    rw [byte, ← List.drop_eq_getElem_cons]

variable (s : String)

theorem toList_toUTF8 :
  s.toUTF8.toList = s.toUTF8.data.toList
  := toList_loop s.toUTF8 (Nat.zero_add _) []

theorem length_toUTF8 :
  s.toUTF8.toList.length = s.utf8ByteSize
  := by
  rw [toList_toUTF8]
  apply Array.length_toList

theorem toUTF8_injective {s t : String} (same : s.toUTF8.toList = t.toUTF8.toList) :
  s = t
  := by
  rw [toList_toUTF8, toList_toUTF8] at same
  apply String.toByteArray_inj.mp
  apply ByteArray.ext (Array.toList_inj.mp same)

/-- The bytes of a text are read as the text. -/
theorem fromUTF8?_toUTF8 :
  String.fromUTF8? ⟨s.toUTF8.toList.toArray⟩ = some s
  := by
  have bytes : (⟨s.toUTF8.toList.toArray⟩ : ByteArray) = s.toByteArray := by
    apply ByteArray.ext
    rw [toList_toUTF8]
    rfl
  rw [bytes, String.fromUTF8?, dif_pos s.isValidUTF8]
  rfl

end Utf8
