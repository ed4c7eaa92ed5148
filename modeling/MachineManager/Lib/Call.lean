import Mathlib.Tactic.Common

/-!
# Calls that may fail or stop half way

A call reads and changes a state. It ends with a value or an error, or it does not return at all
because the process or the power is lost in the middle; in each case the state it leaves behind is
the one that counts. A write inside a call meets a `Fault`, which decides how the write ends and
whether it took effect before.
-/

/-- How a call ends. -/
inductive Ending (ε α : Type)
  | ok (a : α)
  | err (e : ε)
  | stopped
deriving DecidableEq

namespace Ending

variable {ε α β : Type}

def map (f : α → β) : Ending ε α → Ending ε β
  | ok a => .ok (f a)
  | err e => .err e
  | stopped => .stopped

def mapErr {ε' : Type} (f : ε → ε') : Ending ε α → Ending ε' α
  | ok a => .ok a
  | err e => .err (f e)
  | stopped => .stopped

def isOk : Ending ε α → Bool
  | ok _ => true
  | err _ | stopped => false

def onOk (b : β) (f : α → β) : Ending ε α → β
  | ok a => f a
  | err _ | stopped => b

end Ending

/-- A call over states `σ` with errors `ε` and values `α`. -/
def Call (σ ε α : Type) : Type :=
  σ → Ending ε α × σ

/-- What happens to a single write: it succeeds, it returns an error, or it is the last thing that
happens; in the last two cases it may have taken effect. -/
inductive Fault
  | none
  | fails (landed : Bool)
  | stops (landed : Bool)
deriving DecidableEq

namespace Fault

theorem none_ne_fails {landed : Bool} :
  none ≠ fails landed
  := by rintro ⟨⟩

/-- Whether the write took effect. -/
def landed : Fault → Bool
  | none => true
  | fails l | stops l => l

/-- How a call ends whose last step is the write: with `a` if the write succeeds, and otherwise with
the error `e` or not at all. -/
def res {ε α : Type} (e : ε) (a : α) : Fault → Ending ε α
  | none => .ok a
  | fails _ => .err e
  | stops _ => .stopped

/-- How a call ends whose last step is the write, when an error of the write is only logged. -/
def logged {ε α : Type} (a : α) : Fault → Ending ε α
  | none | fails _ => .ok a
  | stops _ => .stopped

end Fault

namespace Call

variable {σ τ ε ε' α β : Type}

/-! ### Combinators -/

instance : Monad (Call σ ε) where
  pure a s := (.ok a, s)
  bind c f s :=
    match c s with
    | (.ok a, t) => f a t
    | (.err e, t) => (.err e, t)
    | (.stopped, t) => (.stopped, t)

def get : Call σ ε σ :=
  fun s => (.ok s, s)

def modify (update : σ → σ) : Call σ ε Unit :=
  fun s => (.ok (), update s)

def fail (e : ε) : Call σ ε α :=
  fun s => (.err e, s)

def stop : Call σ ε α :=
  fun s => (.stopped, s)

def ofOption (o : Option α) (e : ε) : Call σ ε α :=
  fun s =>
    match o with
    | some a => (.ok a, s)
    | none => (.err e, s)

/-- The result of a computation that does not look at the state. -/
def ofExcept (x : Except ε α) : Call σ ε α :=
  fun s =>
    match x with
    | .ok a => (.ok a, s)
    | .error e => (.err e, s)

def orStop (o : Option α) : Call σ ε α :=
  fun s =>
    match o with
    | some a => (.ok a, s)
    | none => (.stopped, s)

def attempt (c : Call σ ε α) : Call σ ε' (Except ε α) :=
  fun s =>
    match c s with
    | (.ok a, t) => (.ok (.ok a), t)
    | (.err e, t) => (.ok (.error e), t)
    | (.stopped, t) => (.stopped, t)

def ignore (c : Call σ ε α) : Call σ ε Unit :=
  fun s =>
    match c s with
    | (.ok _, t) | (.err _, t) => (.ok (), t)
    | (.stopped, t) => (.stopped, t)

def mapErr (f : ε → ε') (c : Call σ ε α) : Call σ ε' α :=
  fun s =>
    match c s with
    | (.ok a, t) => (.ok a, t)
    | (.err e, t) => (.err (f e), t)
    | (.stopped, t) => (.stopped, t)

def zoom (part : σ → τ) (set : τ → σ → σ) (c : Call τ ε α) : Call σ ε α :=
  fun s => ((c (part s)).1, set (c (part s)).2 s)

/-- A single write that meets `fault`. -/
def write (fault : Fault) (e : ε) (update : σ → σ) : Call σ ε Unit :=
  fun s =>
    match fault with
    | .none => (.ok (), update s)
    | .fails landed => (.err e, if landed then update s else s)
    | .stops landed => (.stopped, if landed then update s else s)

/-! ### Running a call -/

@[simp]
theorem run_pure (a : α) (s : σ) :
  (pure a : Call σ ε α) s = (.ok a, s)
  := rfl

theorem run_bind (c : Call σ ε α) (f : α → Call σ ε β) (s : σ) :
  (c >>= f) s =
    match c s with
    | (.ok a, t) => f a t
    | (.err e, t) => (.err e, t)
    | (.stopped, t) => (.stopped, t)
  := rfl

variable {c : Call σ ε α} {s t : σ} {a : α} {e : ε} {f : α → Call σ ε β} {set : τ → σ → σ}
    {res : Ending ε α}
  {part : σ → τ}

theorem run_bind_ok (h : c s = (.ok a, t)) (f : α → Call σ ε β) :
  (c >>= f) s = f a t
  := by rw [run_bind, h]

theorem run_bind_err (h : c s = (.err e, t)) (f : α → Call σ ε β) :
  (c >>= f) s = (.err e, t)
  := by rw [run_bind, h]

theorem run_bind_stopped (h : c s = (.stopped, t)) (f : α → Call σ ε β) :
  (c >>= f) s = (.stopped, t)
  := by rw [run_bind, h]

theorem run_bind_of_ok (h : (c s).1 = .ok a) (f : α → Call σ ε β) :
  (c >>= f) s = f a (c s).2
  := run_bind_ok (Prod.ext h rfl) f

theorem run_bind_of_err (h : (c s).1 = .err e) (f : α → Call σ ε β) :
  (c >>= f) s = (.err e, (c s).2)
  := run_bind_err (Prod.ext h rfl) f

/-- How two calls in a row end. -/
theorem run_bind_cases (c : Call σ ε α) (f : α → Call σ ε β) (s : σ) :
  (∃ a t, c s = (.ok a, t) ∧ (c >>= f) s = f a t) ∨
  (∃ e t, c s = (.err e, t) ∧ (c >>= f) s = (.err e, t)) ∨
  ∃ t, c s = (.stopped, t) ∧ (c >>= f) s = (.stopped, t)
  := by
  rcases call : c s with ⟨a | e | _, t⟩
  · left
    use a, t, rfl, run_bind_ok call f
  · right
    left
    use e, t, rfl, run_bind_err call f
  · right
    right
    use t, rfl, run_bind_stopped call f

/-- Two calls in a row return if each of them does. -/
theorem ok_of_bind {b : β} (h : (c >>= f) s = (.ok b, t)) :
  ∃ a s', c s = (.ok a, s') ∧ f a s' = (.ok b, t)
  := by
  rcases run_bind_cases c f s with ⟨a, s', call, eq⟩ | ⟨e, s', -, eq⟩ | ⟨s', -, eq⟩
  · exact ⟨a, s', call, eq.symm.trans h⟩
  · cases eq.symm.trans h
  · cases eq.symm.trans h

/-- Two calls in a row without a value: the first one returns, or both end as the first one does. -/
theorem run_bind_unit_cases {c : Call σ ε Unit} {f : Unit → Call σ ε Unit} {res : Ending ε Unit}
    (h : (c >>= f) s = (res, t)) :
  (∃ s', c s = (.ok (), s') ∧ f () s' = (res, t)) ∨ c s = (res, t) ∧ res ≠ .ok ()
  := by
  rcases run_bind_cases c f s with ⟨⟨⟩, s', call, eq⟩ | ⟨e, s', call, eq⟩ | ⟨s', call, eq⟩
  · left
    exact ⟨s', call, eq.symm.trans h⟩
  · cases eq.symm.trans h
    exact .inr ⟨call, nofun⟩
  · cases eq.symm.trans h
    exact .inr ⟨call, nofun⟩

@[simp]
theorem run_get_bind (f : σ → Call σ ε β) (s : σ) :
  ((get : Call σ ε σ) >>= f) s = f s s
  := rfl

@[simp]
theorem run_modify_bind (update : σ → σ) (f : Unit → Call σ ε β) (s : σ) :
  (modify update >>= f) s = f () (update s)
  := rfl

@[simp]
theorem run_ofOption_some_bind (a : α) (e : ε) (f : α → Call σ ε β) (s : σ) :
  (ofOption (some a) e >>= f) s = f a s
  := rfl

@[simp]
theorem run_orStop_some_bind (a : α) (f : α → Call σ ε β) (s : σ) :
  (orStop (some a) >>= f) s = f a s
  := rfl

theorem run_write (fault : Fault) (e : ε) (update : σ → σ) (s : σ) :
  write fault e update s = (fault.res e (), if fault.landed then update s else s)
  := by cases fault <;> rfl

theorem run_attempt_ok (h : c s = (.ok a, t)) :
  (attempt c : Call σ ε' (Except ε α)) s = (.ok (.ok a), t)
  := by rw [attempt, h]

theorem run_attempt_err (h : c s = (.err e, t)) :
  (attempt c : Call σ ε' (Except ε α)) s = (.ok (.error e), t)
  := by rw [attempt, h]

theorem run_attempt_stopped (h : c s = (.stopped, t)) :
  (attempt c : Call σ ε' (Except ε α)) s = (.stopped, t)
  := by rw [attempt, h]

/-- A call that ends in a write and whose error is only logged, after which the caller returns. -/
theorem run_ignore_pure {fault : Fault} (b : β) (h : c s = (fault.res e a, t)) :
  (ignore c >>= fun _ => pure b) s = (fault.logged b, t)
  := by cases fault <;> rw [run_bind, ignore, h] <;> rfl

theorem run_mapErr (h : c s = (res, t)) (f : ε → ε') :
  mapErr f c s = (res.mapErr f, t)
  := by
  rw [mapErr, h]
  cases res <;> rfl

theorem run_mapErr_ok (h : c s = (.ok a, t)) (f : ε → ε') :
  mapErr f c s = (.ok a, t)
  := run_mapErr h f

theorem run_zoom {c : Call τ ε α} {t : τ} (h : c (part s) = (res, t)) :
  zoom part set c s = (res, set t s)
  := by rw [zoom, h]

theorem run_ite (p : Prop) [Decidable p] (c d : Call σ ε α) (s : σ) :
  (if p then c else d) s = if p then c s else d s
  := by split <;> rfl

/-! ### What a call ends with -/

/-- From `s` the call ends in a way and in a state that satisfy `Q`. -/
def Yields (c : Call σ ε α) (s : σ) (Q : Ending ε α → σ → Prop) : Prop :=
  Q (c s).1 (c s).2

section Yields

variable {Q : Ending ε α → σ → Prop} {R : Ending ε β → σ → Prop} {update : σ → σ}

theorem yields_pure (h : Q (.ok a) s) :
  Yields (pure a) s Q
  := h

theorem yields_fail (h : Q (.err e) s) :
  Yields (fail e) s Q
  := h

theorem yields_get_bind {f : σ → Call σ ε β} (h : Yields (f s) s R) :
  Yields (get >>= f) s R
  := h

theorem yields_modify_bind {f : Unit → Call σ ε β} (h : Yields (f ()) (update s) R) :
  Yields (modify update >>= f) s R
  := h

variable {o : Option α} {fault : Fault}

theorem yields_ofOption_bind (some : ∀ a, o = some a → Yields (f a) s R)
    (none : o = none → R (.err e) s) :
  Yields (ofOption o e >>= f) s R
  := by
  cases o with
  | none => apply none rfl
  | some a => apply some a rfl

theorem yields_ofExcept_bind {x : Except ε α} (ok : ∀ a, x = .ok a → Yields (f a) s R)
    (error : ∀ e, x = .error e → R (.err e) s) :
  Yields (ofExcept x >>= f) s R
  := by
  cases x with
  | ok a => apply ok a rfl
  | error e => apply error e rfl

theorem yields_orStop_bind (some : ∀ a, o = some a → Yields (f a) s R)
    (none : o = none → R .stopped s) :
  Yields (orStop o >>= f) s R
  := by
  cases o with
  | none => apply none rfl
  | some a => apply some a rfl

/-- Two calls in a row: the second one starts where the first one returns. -/
theorem yields_bind (first : Yields c s Q) (returned : ∀ a t, Q (.ok a) t → Yields (f a) t R)
    (failed : ∀ e t, Q (.err e) t → R (.err e) t) (stopped : ∀ t, Q .stopped t → R .stopped t) :
  Yields (c >>= f) s R
  := by
  rw [Yields] at first
  rw [Yields, run_bind]
  rcases call : c s with ⟨a | e | _, t⟩ <;> rw [call] at first
  · apply returned a t first
  · apply failed e t first
  · apply stopped t first

/-- Two calls in a row, by what the first one ends with. -/
theorem yields_seq (first : Yields c s fun res t =>
      match res with
      | .ok a => Yields (f a) t R
      | .err e => R (.err e) t
      | .stopped => R .stopped t) :
  Yields (c >>= f) s R
  := yields_bind first (fun _ _ h => h) (fun _ _ h => h) fun _ h => h

/-- A call that returns, and what comes after it. -/
theorem yields_returned_bind {P : σ → Prop} (first : Yields c s fun res t => res = .ok a ∧ P t)
    (next : ∀ t, P t → Yields (f a) t R) :
  Yields (c >>= f) s R
  := by
  rw [Yields, run_bind_of_ok first.1]
  exact next _ first.2

theorem Yields.mono {Q' : Ending ε α → σ → Prop} (h : Yields c s Q)
    (weaker : ∀ res t, Q res t → Q' res t) :
  Yields c s Q'
  := weaker _ _ h

/-- What a call ends with holds of a run of it. -/
theorem Yields.of_run (h : Yields c s Q) (call : c s = (res, t)) :
  Q res t
  := by
  rw [Yields, call] at h
  exact h

theorem yields_of_run (h : ∀ res t, c s = (res, t) → Q res t) :
  Yields c s Q
  := h _ _ rfl

theorem yields_mapErr {f : ε → ε'} {Q : Ending ε' α → σ → Prop}
    (h : Yields c s fun res t => Q (res.mapErr f) t) :
  Yields (mapErr f c) s Q
  := by
  rw [Yields, run_mapErr (Prod.eta (c s)).symm f]
  exact h

theorem yields_ignore {Q : Ending ε Unit → σ → Prop}
    (h : Yields c s fun res t => Q (.ok ()) t ∧ (res = .stopped → Q .stopped t)) :
  Yields (ignore c) s Q
  := by
  rw [Yields] at h
  rw [Yields, ignore]
  rcases call : c s with ⟨a | e | _, t⟩ <;> rw [call] at h
  · exact h.1
  · exact h.1
  · exact h.2 rfl

/-- A call whose error is only logged, and what comes after it. -/
theorem yields_ignore_bind {f : Unit → Call σ ε β} (h : Yields c s fun res t =>
      match res with
      | .stopped => R .stopped t
      | _ => Yields (f ()) t R) :
  Yields (ignore c >>= f) s R
  := by
  rw [Yields] at h
  rw [Yields, run_bind, ignore]
  rcases call : c s with ⟨a | e | _, t⟩ <;> rw [call] at h <;> exact h

/-- A call whose error is looked at, and what comes after it. -/
theorem yields_attempt_bind {f : Except ε α → Call σ ε' β} {R : Ending ε' β → σ → Prop}
    (first : Yields c s Q) (returned : ∀ a t, Q (.ok a) t → Yields (f (.ok a)) t R)
    (failed : ∀ e t, Q (.err e) t → Yields (f (.error e)) t R)
    (stopped : ∀ t, Q .stopped t → R .stopped t) :
  Yields (attempt c >>= f) s R
  := by
  rw [Yields] at first
  rw [Yields, run_bind, attempt]
  rcases call : c s with ⟨a | e | _, t⟩ <;> rw [call] at first
  · apply returned a t first
  · apply failed e t first
  · apply stopped t first

theorem yields_write {Q : Ending ε Unit → σ → Prop} (none : fault = .none → Q (.ok ()) (update s))
    (fails : ∀ l, fault = .fails l → Q (.err e) (if l then update s else s))
    (stops : ∀ l, fault = .stops l → Q .stopped (if l then update s else s)) :
  Yields (write fault e update) s Q
  := by
  cases fault with
  | none => exact none rfl
  | fails l => exact fails l rfl
  | stops l => exact stops l rfl

/-- A write whose error is looked at, and what comes after it. -/
theorem yields_attempt_write_bind {f : Except ε Unit → Call σ ε' β} {R : Ending ε' β → σ → Prop}
    (none : fault = .none → Yields (f (.ok ())) (update s) R)
    (fails : ∀ l, fault = .fails l → Yields (f (.error e)) (if l then update s else s) R)
    (stops : ∀ l, fault = .stops l → R .stopped (if l then update s else s)) :
  Yields (attempt (write fault e update) >>= f) s R
  := by
  cases fault with
  | none => exact none rfl
  | fails l => exact fails l rfl
  | stops l => exact stops l rfl

theorem yields_zoom {c : Call τ ε α} (h : Yields c (part s) fun res t => Q res (set t s)) :
  Yields (zoom part set c) s Q
  := h

end Yields

/-! ### What a call keeps -/

/-- However the call ends, it leads from states with `P` to states with `P`. -/
def Keeps (P : σ → Prop) (c : Call σ ε α) : Prop :=
  ∀ s, P s → P (c s).2

variable {P : σ → Prop} {R : Ending ε β → σ → Prop}

theorem keeps_pure (a : α) :
  Keeps P (pure a : Call σ ε α)
  := fun _ h => h

theorem keeps_get :
  Keeps P (get : Call σ ε σ)
  := fun _ h => h

theorem keeps_fail (e : ε) :
  Keeps P (fail e : Call σ ε α)
  := fun _ h => h

theorem keeps_ofOption (o : Option α) (e : ε) :
  Keeps P (ofOption o e : Call σ ε α)
  := by
  intro s h
  cases o <;> apply h

theorem keeps_orStop (o : Option α) :
  Keeps P (orStop o : Call σ ε α)
  := by
  intro s h
  cases o <;> apply h

section

variable (hc : Keeps P c)
include hc

theorem keeps_ite {p : Prop} [Decidable p] {d : Call σ ε α} (hd : Keeps P d) :
  Keeps P (if p then c else d)
  := by
  split
  · apply hc
  · apply hd

theorem keeps_mapErr (f : ε → ε') :
  Keeps P (mapErr f c)
  := by
  intro s h
  have hs := hc s h
  rcases call : c s with ⟨_, t⟩
  rw [call] at hs
  rw [run_mapErr call]
  apply hs

theorem keeps_bind (hf : ∀ a, Keeps P (f a)) :
  Keeps P (c >>= f)
  := by
  intro s h
  have hs := hc s h
  rw [run_bind]
  rcases hcs : c s with ⟨a | e | _, t⟩ <;> rw [hcs] at hs
  · apply hf a t hs
  · apply hs
  · apply hs

theorem keeps_attempt :
  Keeps P (attempt c : Call σ ε' (Except ε α))
  := by
  intro s h
  have hs := hc s h
  rw [attempt]
  rcases hcs : c s with ⟨a | e | _, t⟩ <;> rw [hcs] at hs <;> apply hs

end

theorem keeps_modify {update : σ → σ} (h : ∀ s, P s → P (update s)) :
  Keeps P (modify update : Call σ ε Unit)
  := h

theorem keeps_zoom {Q : τ → Prop} {c : Call τ ε α}
    (hc : Keeps Q c) (inner : ∀ s, P s → Q (part s)) (outer : ∀ s t, P s → Q t → P (set t s)) :
  Keeps P (zoom part set c)
  := by
  intro s h
  apply outer s _ h
  apply hc _ (inner s h)

theorem keeps_foldlM {f : β → α → Call σ ε β} {l : List α}
    (hf : ∀ a ∈ l, ∀ b, Keeps P (f b a)) (b : β) :
  Keeps P (l.foldlM f b)
  := by
  induction l generalizing b with
  | nil => apply keeps_pure
  | cons a _ ih =>
    rw [List.foldlM_cons]
    apply keeps_bind (hf a List.mem_cons_self b)
    intro b'
    apply ih
    intro a' mem
    apply hf a' (List.mem_cons_of_mem a mem)

/-- A call that changes nothing, and what comes after it. -/
theorem yields_unchanged_bind (unchanged : Keeps (· = s) c)
    (returned : ∀ a, c s = (.ok a, s) → Yields (f a) s R)
    (failed : ∀ res, (∀ b, res ≠ .ok b) → R res s) :
  Yields (c >>= f) s R
  := by
  have same := unchanged s rfl
  rw [Yields, run_bind]
  rcases call : c s with ⟨a | e | _, t⟩ <;> rw [call] at same <;> cases same
  · exact returned a call
  · exact failed _ nofun
  · exact failed _ nofun

/-! ### Loops -/

section Loops

variable {f : β → α → Call σ ε β} {l : List α}

/-- A loop that returns keeps an invariant of what is left to do. -/
theorem foldlM_invariant {P : List α → β → σ → Prop}
    (step : ∀ a rest b s b' s', P (a :: rest) b s → f b a s = (.ok b', s') → P rest b' s')
    {b b' : β} {s' : σ} (start : P l b s) (call : l.foldlM f b s = (.ok b', s')) :
  P [] b' s'
  := by
  induction l generalizing b s with
  | nil =>
    cases call
    apply start
  | cons a rest ih =>
    rw [List.foldlM_cons] at call
    rcases run_bind_cases (f b a) (fun b' => rest.foldlM f b') s with
      ⟨b₁, s₁, first, eq⟩ | ⟨e, s₁, -, eq⟩ | ⟨s₁, -, eq⟩
    · apply ih (step a rest b s b₁ s₁ start first) (eq.symm.trans call)
    · cases eq.symm.trans call
    · cases eq.symm.trans call

/-- A loop returns if every one of its calls does. -/
theorem foldlM_returns (returns : ∀ a ∈ l, ∀ b s, ∃ b' s', f b a s = (.ok b', s')) (b : β) (s : σ) :
  ∃ b' s', l.foldlM f b s = (.ok b', s')
  := by
  induction l generalizing b s with
  | nil => exact ⟨b, s, rfl⟩
  | cons a _ ih =>
    obtain ⟨b₁, s₁, first⟩ := returns a List.mem_cons_self b s
    obtain ⟨b', s', others⟩ := ih (fun a h => returns a (List.mem_cons_of_mem _ h)) b₁ s₁
    use b', s'
    rw [List.foldlM_cons, run_bind_ok first, others]

end Loops

/-! ### Calls that only read -/

/-- The call changes nothing and returns `value` of the state; an error in its place is a sign of
`faulty`. -/
def Reads (faulty : Prop) (c : Call σ ε α) (value : σ → α) : Prop :=
  ∀ s, c s = (.ok (value s), s) ∨ faulty ∧ ∃ e, c s = (.err e, s)

section Reads

variable {faulty : Prop} {value : σ → α}

theorem reads_pure (a : α) :
  Reads faulty (pure a : Call σ ε α) fun _ => a
  := fun _ => .inl rfl

theorem reads_get :
  Reads faulty (get : Call σ ε σ) fun s => s
  := fun _ => .inl rfl

variable (hc : Reads faulty c value)
include hc

theorem reads_bind {w : α → σ → β} (hf : ∀ a, Reads faulty (f a) (w a)) :
  Reads faulty (c >>= f) fun s => w (value s) s
  := by
  intro s
  rcases hc s with h | ⟨bad, e, h⟩
  · rw [run_bind_ok h]
    apply hf
  · right
    use bad, e
    rw [run_bind_err h]

theorem Reads.congr {value' : σ → α} (h : ∀ s, value s = value' s) :
  Reads faulty c value'
  := by
  obtain rfl : value = value' := funext h
  apply hc

/-- A call that only reads, and what comes after it. -/
theorem Reads.yields_bind (returned : Yields (f (value s)) s R)
    (failed : faulty → ∀ e, R (.err e) s) :
  Yields (c >>= f) s R
  := by
  rcases hc s with h | ⟨bad, e, h⟩
  · rw [Yields, run_bind_ok h]
    exact returned
  · rw [Yields, run_bind_err h]
    exact failed bad e

/-- Without a fault a reading call returns its value. -/
theorem Reads.ok (h : ¬faulty) (s : σ) :
  c s = (.ok (value s), s)
  := by
  rcases hc s with hs | ⟨bad, -⟩
  · apply hs
  · apply absurd bad h

theorem Reads.eq_of_ok (h : (c s).1 = .ok a) :
  value s = a
  := by
  rcases hc s with hs | ⟨-, e, hs⟩
  · rw [hs] at h
    apply Ending.ok.inj h
  · rw [hs] at h
    cases h

end Reads

end Call

/-! ### Results without a state -/

namespace Except

variable {ε ε' α β : Type} {x : Except ε α} {f : α → Except ε β} {b : β} {a : α} {text : ε → ε'}
    {p : ε → Prop}
  {l : List α}

/-- Two fallible computations in a row return if each of them does. -/
theorem ok_of_bind (h : (x >>= f) = .ok b) :
  ∃ a, x = .ok a ∧ f a = .ok b
  := by
  cases x with
  | error => cases h
  | ok a => exact ⟨a, rfl, h⟩

theorem bind_eq_ok_iff :
  (x >>= f) = .ok b ↔ ∃ a, x = .ok a ∧ f a = .ok b
  := by
  constructor
  · apply ok_of_bind
  · rintro ⟨a, rfl, returned⟩
    exact returned

/-- A check, and what comes after it. -/
theorem check_bind_eq_ok_iff {x : Except ε Unit} {f : Unit → Except ε β} :
  (x >>= f) = .ok b ↔ x = .ok () ∧ f () = .ok b
  := by
  rw [bind_eq_ok_iff]
  constructor
  · rintro ⟨⟨⟩, passed, returned⟩
    exact ⟨passed, returned⟩
  · rintro ⟨passed, returned⟩
    exact ⟨(), passed, returned⟩

/-- A check that fails with an error. -/
theorem guard_eq_ok_iff {p : Prop} [Decidable p] {e : ε} :
  (if p then throw e else x) = .ok a ↔ ¬p ∧ x = .ok a
  := by
  by_cases h : p
  · rw [if_pos h]
    exact ⟨nofun, fun passed => absurd h passed.1⟩
  · rw [if_neg h]
    exact ⟨fun returned => ⟨h, returned⟩, And.right⟩

/-- What is returned does not depend on the text of the errors. -/
theorem ok_of_mapError (h : x.mapError text = .ok a) :
  x = .ok a
  := by
  cases x with
  | error => cases h
  | ok =>
    cases h
    rfl

theorem mapError_eq_ok_iff :
  x.mapError text = .ok a ↔ x = .ok a
  := by
  constructor
  · apply ok_of_mapError
  · rintro rfl
    rfl

theorem ok_of_toOption (h : x.toOption = some a) :
  x = .ok a
  := by
  cases x with
  | error => cases h
  | ok =>
    cases h
    rfl

/-- A row of checks passes if each of them does. -/
theorem forM_eq_ok_iff {f : α → Except ε Unit} :
  l.forM f = .ok () ↔ ∀ a ∈ l, f a = .ok ()
  := by
  induction l with
  | nil => exact ⟨fun _ => nofun, fun _ => rfl⟩
  | cons _ _ ih =>
    rw [List.forall_mem_cons, ← ih, List.forM]
    constructor
    · intro passed
      obtain ⟨⟨⟩, first, rest⟩ := ok_of_bind passed
      exact ⟨first, rest⟩
    · rintro ⟨first, rest⟩
      rw [first]
      exact rest

def Raises (p : ε → Prop) (x : Except ε α) : Prop :=
  ∀ e, x = .error e → p e

theorem raises_ok :
  Raises p (.ok a : Except ε α)
  := nofun

theorem raises_mapError {p : ε' → Prop} (all : ∀ e, p (text e)) :
  Raises p (x.mapError text)
  := by
  cases x with
  | ok => exact nofun
  | error =>
    rintro _ ⟨⟩
    apply all

theorem Raises.bind (first : Raises p x) (next : ∀ a, x = .ok a → Raises p (f a)) :
  Raises p (x >>= f)
  := by
  cases x with
  | ok a => exact next a rfl
  | error e =>
    rintro _ ⟨⟩
    exact first e rfl

theorem Raises.guard {c : Prop} [Decidable c] {e : ε} (failed : p e) (passed : Raises p x) :
  Raises p (if c then throw e else x)
  := by
  by_cases h : c
  · rw [if_pos h]
    rintro _ ⟨⟩
    exact failed
  · rw [if_neg h]
    exact passed

theorem Raises.forM {f : α → Except ε Unit} (each : ∀ a, Raises p (f a)) :
  Raises p (l.forM f)
  := by
  induction l with
  | nil => exact raises_ok
  | cons a _ ih => exact (each a).bind fun _ _ => ih

end Except
