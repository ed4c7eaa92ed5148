import Mathlib.Data.List.Induction
import Mathlib.Order.Lattice

/-!
# The newest of several candidates

`newest f key is` runs over the positions `is`, where `f i` is the candidate at position `i` if
there is one, and keeps the candidate with the largest key; of several candidates with that key the
first one met is kept.
-/

section Newest

variable {ι β κ : Type*} [LinearOrder κ]

def keepNewer (key : β → κ) (best : Option β) : Option β → Option β
  | none => best
  | some c =>
    match best with
    | none => some c
    | some b => if key b < key c then some c else some b

/-- The candidate with the largest key, the first of those met. -/
def newest (f : ι → Option β) (key : β → κ) (is : List ι) : Option β :=
  is.foldl (fun best i => keepNewer key best (f i)) none

theorem newest_append_singleton (f : ι → Option β) (key : β → κ) (is : List ι) (i : ι) :
  newest f key (is ++ [i]) = keepNewer key (newest f key is) (f i)
  := by simp [newest]

variable {key : β → κ} {b : β} {f : ι → Option β} {is : List ι}

theorem eq_some_of_keepNewer {best candidate : Option β}
    (h : keepNewer key best candidate = some b) :
  best = some b ∨ candidate = some b
  := by
  cases candidate with
  | none => exact .inl h
  | some =>
    cases best with
    | none => exact .inr h
    | some =>
      simp only [keepNewer] at h
      split at h
      · exact .inr h
      · exact .inl h

theorem le_keepNewer (key : β → κ) {best candidate : Option β} {d : β}
    (h : best = some d ∨ candidate = some d) :
  ∃ b, keepNewer key best candidate = some b ∧ key d ≤ key b
  := by
  cases candidate with
  | none => exact ⟨d, by simpa [keepNewer] using h, le_refl _⟩
  | some c =>
    cases best with
    | none => exact ⟨d, by simpa [keepNewer] using h, le_refl _⟩
    | some a =>
      simp only [keepNewer]
      split
      next hlt =>
        refine ⟨c, rfl, ?_⟩
        rcases h with h | h <;> cases h
        · exact le_of_lt hlt
        · exact le_refl _
      next hlt =>
        refine ⟨a, rfl, ?_⟩
        rcases h with h | h <;> cases h
        · exact le_refl _
        · exact le_of_not_gt hlt

/-- What is kept was a candidate. -/
theorem exists_of_newest (h : newest f key is = some b) :
  ∃ i ∈ is, f i = some b
  := by
  induction is using List.reverseRecOn with
  | nil => cases h
  | append_singleton _ i ih =>
    rw [newest_append_singleton] at h
    rcases eq_some_of_keepNewer h with h | h
    · obtain ⟨j, hj, hf⟩ := ih h
      exact ⟨j, List.mem_append_left _ hj, hf⟩
    · exact ⟨i, by simp, h⟩

/-- No candidate has a larger key than what is kept. -/
theorem le_newest (key : β → κ) {i : ι} {c : β} (hi : i ∈ is) (hc : f i = some c) :
  ∃ b, newest f key is = some b ∧ key c ≤ key b
  := by
  induction is using List.reverseRecOn with
  | nil => cases hi
  | append_singleton _ _ ih =>
    rw [newest_append_singleton]
    rcases List.mem_append.mp hi with hi | hi
    · obtain ⟨a, ha, hle⟩ := ih hi
      obtain ⟨b, hb, hle'⟩ := le_keepNewer key (.inl ha)
      exact ⟨b, hb, le_trans hle hle'⟩
    · obtain rfl := List.mem_singleton.mp hi
      exact le_keepNewer key (.inr hc)

/-- A candidate whose key is above every other one is what is kept. -/
theorem newest_eq_some {i : ι} (hi : i ∈ is) (hb : f i = some b)
    (above : ∀ j ∈ is, ∀ c, f j = some c → j = i ∨ key c < key b) :
  newest f key is = some b
  := by
  obtain ⟨a, ha, hle⟩ := le_newest key hi hb
  obtain ⟨j, hj, hfj⟩ := exists_of_newest ha
  rcases above j hj a hfj with rfl | hlt
  · rw [ha, ← hb, ← hfj]
  · exact absurd hlt (not_lt_of_ge hle)

theorem newest_eq_none (h : ∀ i ∈ is, f i = none) :
  newest f key is = none
  := by
  cases hn : newest f key is with
  | none => rfl
  | some =>
    obtain ⟨i, hi, hb⟩ := exists_of_newest hn
    rw [h i hi] at hb
    cases hb

end Newest
