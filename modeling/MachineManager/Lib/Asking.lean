import Mathlib.Tactic.Common

/-!
# Programs that ask their environment

A program computes a value and may put questions to its environment on the way, each answered by a
value of the question's own type. It is run against an environment with a state, which may answer in
any way; a run yields the value and the questions in order.

`Asking.Guarded P R` says that a program puts only questions that satisfy `P` and ends only with
values that satisfy `R`, whatever it is answered. It is proved along the program and holds of all
runs (`Guarded.asked`, `Guarded.result`). `Asking.Always R` relates the questions and answers of a
program, in order, to the value it ends with; it holds of the transcript of every run
(`Always.transcript`). `Asking.Alone env J R` is about a program that shares its environment with
others, as long as none of them is served.
-/

/-- A program with values in `α` that puts questions `q : Q` and is answered in `A q`. -/
inductive Asking (Q : Type) (A : Q → Type) (α : Type)
  | done (a : α)
  | ask (q : Q) (resume : A q → Asking Q A α)

namespace Asking

variable {Q : Type} {A : Q → Type} {α β σ : Type}

def bind (c : Asking Q A α) (f : α → Asking Q A β) : Asking Q A β :=
  match c with
  | done a => f a
  | ask q resume => .ask q fun answer => (resume answer).bind f

instance : Monad (Asking Q A) where
  pure := done
  bind := bind

def question (q : Q) : Asking Q A (A q) :=
  .ask q .done

/-- An environment: what it answers in each of its states, and the state it is then in. -/
def Environment (Q : Type) (A : Q → Type) (σ : Type) : Type :=
  (q : Q) → σ → A q × σ

/-- The outcome of a run: the value, the questions that were put, in order, and the state of the
environment afterwards. -/
structure Outcome (Q α σ : Type) where
  result : α
  asked : List Q
  env : σ

/-- The run of a program against an environment in a given state. -/
def run (env : Environment Q A σ) : Asking Q A α → σ → Outcome Q α σ
  | done a, s => { result := a, asked := [], env := s }
  | ask q resume, s =>
    let answered := env q s
    let rest := run env (resume answered.1) answered.2
    { rest with asked := q :: rest.asked }

/-- The run of a program followed by another. -/
theorem run_bind (env : Environment Q A σ) (c : Asking Q A α) (f : α → Asking Q A β) (s : σ) :
  run env (c >>= f) s =
    { result := (run env (f (run env c s).result) (run env c s).env).result
      asked := (run env c s).asked ++ (run env (f (run env c s).result) (run env c s).env).asked
      env := (run env (f (run env c s).result) (run env c s).env).env }
  := by
  induction c generalizing s with
  | done => rfl
  | ask q _ ih =>
    have rest := ih (env q s).1 (env q s).2
    simp only [Bind.bind, Asking.bind, run] at rest ⊢
    rw [rest]
    rfl

/-! ### What a program may ask -/

/-- Only questions that satisfy `P` are put, and only values that satisfy `R` are returned. -/
def Guarded (P : Q → Prop) (R : α → Prop) : Asking Q A α → Prop
  | done a => R a
  | ask q resume => P q ∧ ∀ answer, Guarded P R (resume answer)

variable {P : Q → Prop} {R : α → Prop} {S : β → Prop} {a : α} {c : Asking Q A α}
    {f : α → Asking Q A β}

/-- A program that ends at once asks nothing. -/
theorem guarded_pure (h : R a) :
  Guarded P R (pure a : Asking Q A α)
  := h

/-- A program that puts a question it may ask and goes on lawfully after every answer. -/
theorem guarded_question {q : Q} {f : A q → Asking Q A β} (allowed : P q)
    (rest : ∀ answer, Guarded P S (f answer)) :
  Guarded P S (question q >>= f)
  := ⟨allowed, rest⟩

/-- A program that obeys a rule obeys every weaker one. -/
theorem Guarded.mono {P' : Q → Prop} {R' : α → Prop} (h : Guarded P R c)
    (questions : ∀ q, P q → P' q) (values : ∀ a, R a → R' a) :
  Guarded P' R' c
  := by
  induction c with
  | done a => apply values a h
  | ask q _ ih =>
    use questions q h.1
    intro answer
    apply ih answer (h.2 answer)

/-- A program followed by one that is lawful after each value it may return. -/
theorem guarded_bind (first : Guarded P R c) (rest : ∀ a, R a → Guarded P S (f a)) :
  Guarded P S (c >>= f)
  := by
  induction c with
  | done a => apply rest a first
  | ask _ _ ih =>
    use first.1
    intro answer
    apply ih answer (first.2 answer)

section

variable (h : Guarded P R c)
include h

section

variable (env : Environment Q A σ)
include env

/-- Every question of a run is one that the program may ask. -/
theorem Guarded.asked (s : σ) :
  ∀ q ∈ (run env c s).asked, P q
  := by
  induction c generalizing s with
  | done =>
    intro q asked
    cases asked
  | ask _ _ ih =>
    intro q asked
    rcases List.mem_cons.mp asked with rfl | later
    · exact h.1
    · apply ih _ (h.2 _) _ q later

/-- The value of a run is one that the program may return. -/
theorem Guarded.result (s : σ) :
  R (run env c s).result
  := by
  induction c generalizing s with
  | done => exact h
  | ask _ _ ih => apply ih _ (h.2 _)

/-- The environment is as before if it is left alone by every question that the program may ask. -/
theorem Guarded.env_eq (quiet : ∀ q s, P q → (env q s).2 = s) (s : σ) :
  (run env c s).env = s
  := by
  induction c generalizing s with
  | done => rfl
  | ask q _ ih => exact (ih _ (h.2 _) _).trans (quiet q s h.1)

end

/-! ### How a program may end -/

/-- Some answers lead the program to the value `a`. -/
inductive Ends : Asking Q A α → α → Prop
  | done (a : α) : Ends (.done a) a
  | ask {q : Q} {resume : A q → Asking Q A α} {a : α} (answer : A q)
      (rest : Ends (resume answer) a) : Ends (.ask q resume) a

/-- Every value that a program may end with is one that it may return. -/
theorem Guarded.ends (ends : Ends c a) :
  R a
  := by
  induction ends with
  | done => exact h
  | ask answer _ ih => apply ih (h.2 answer)

end

/-! ### What a program exchanges -/

def transcript (env : Environment Q A σ) : Asking Q A α → σ → List ((q : Q) × A q)
  | done _, _ => []
  | ask q resume, s => ⟨q, (env q s).1⟩ :: transcript env (resume (env q s).1) (env q s).2

/-- The exchanges are related by `R` to the value, whatever the answers are. -/
def Always : (List ((q : Q) × A q) → α → Prop) → Asking Q A α → Prop
  | R, done a => R [] a
  | R, ask q resume => ∀ answer, Always (fun t a => R (⟨q, answer⟩ :: t) a) (resume answer)

/-- A program that ends at once exchanges nothing. -/
theorem always_pure {R : List ((q : Q) × A q) → α → Prop} (h : R [] a) :
  Always R (pure a : Asking Q A α)
  := h

/-- A program that puts a question, by what it does after each answer. -/
theorem always_question {q : Q} {f : A q → Asking Q A β} {R : List ((q : Q) × A q) → β → Prop}
    (rest : ∀ answer, Always (fun t b => R (⟨q, answer⟩ :: t) b) (f answer)) :
  Always R (question q >>= f)
  := rest

/-- What relates exchanges and value may be weakened. -/
theorem Always.mono {R S : List ((q : Q) × A q) → α → Prop} (h : Always R c)
    (weaker : ∀ t a, R t a → S t a) :
  Always S c
  := by
  induction c generalizing R S with
  | done a => apply weaker [] a h
  | ask _ _ ih =>
    intro answer
    apply ih answer (h answer)
    intro t a
    apply weaker

/-- A program followed by another, whose exchanges come after those of the first. -/
theorem always_bind {R : List ((q : Q) × A q) → α → Prop}
    {S : List ((q : Q) × A q) → β → Prop} (first : Always R c)
    (rest : ∀ t a, R t a → Always (fun t' b => S (t ++ t') b) (f a)) :
  Always S (c >>= f)
  := by
  induction c generalizing R S with
  | done a => apply rest [] a first
  | ask q _ ih =>
    intro answer
    apply ih answer (first answer)
    intro t a
    apply rest (⟨q, answer⟩ :: t) a

/-- The transcript and the value of every run are related. -/
theorem Always.transcript {R : List ((q : Q) × A q) → α → Prop} (h : Always R c)
    (env : Environment Q A σ) (s : σ) :
  R (transcript env c s) (run env c s).result
  := by
  induction c generalizing R s with
  | done => exact h
  | ask _ _ ih => apply ih _ (h _)

/-- Every exchange of a run is an answer of the environment. -/
theorem answered_of_mem_transcript {env : Environment Q A σ} {s : σ} {q : Q} {answer : A q}
    (mem : ⟨q, answer⟩ ∈ transcript env c s) :
  ∃ s', (env q s').1 = answer
  := by
  induction c generalizing s with
  | done => cases mem
  | ask _ _ ih =>
    rcases List.mem_cons.mp mem with eq | later
    · cases eq
      exact ⟨s, rfl⟩
    · apply ih _ later

/-! ### A program that is served alone -/

/-- While the program alone is served, in any of the ways of `env`, `J` holds of the environment
before each question, and `R` of the value and the environment at the end. -/
def Alone {ι : Type} (env : ι → Environment Q A σ) (J : σ → Prop) (R : α → σ → Prop) :
    Asking Q A α → σ → Prop
  | done a, s => R a s
  | ask q resume, s => J s ∧ ∀ i, Alone env J R (resume (env i q s).1) (env i q s).2

section Alone

variable {ι : Type} {env : ι → Environment Q A σ} {J : σ → Prop} {R : α → σ → Prop}
  {S : β → σ → Prop} {s : σ}

/-- A program that ends at once. -/
theorem alone_pure (h : R a s) :
  Alone env J R (pure a : Asking Q A α) s
  := h

/-- A program that puts a question, by what it does after each answer. -/
theorem alone_question {q : Q} {f : A q → Asking Q A β} (before : J s)
    (rest : ∀ i, Alone env J S (f (env i q s).1) (env i q s).2) :
  Alone env J S (question q >>= f) s
  := ⟨before, rest⟩

/-- A program followed by another. -/
theorem alone_bind (first : Alone env J R c s) (rest : ∀ a t, R a t → Alone env J S (f a) t) :
  Alone env J S (c >>= f) s
  := by
  induction c generalizing s with
  | done a => apply rest a s first
  | ask _ _ ih =>
    use first.1
    intro i
    apply ih _ (first.2 i)

end Alone

/-! ### Loops -/

/-- The exchanges of a loop over a list, round by round: `P a b t` says that the round for `a`
yields `b` and exchanges `t`. -/
inductive Rounds {ε : Type} (P : α → β → List ε → Prop) : List α → List β → List ε → Prop
  | nil : Rounds P [] [] []
  | cons {a : α} {b : β} {as : List α} {bs : List β} {t u : List ε}
      (first : P a b t) (rest : Rounds P as bs u) : Rounds P (a :: as) (b :: bs) (t ++ u)

namespace Rounds

variable {ε : Type} {P : α → β → List ε → Prop} {as : List α} {bs : List β} {t : List ε}

/-- A loop yields one value for each round. -/
theorem length_eq (h : Rounds P as bs t) :
  bs.length = as.length
  := by
  induction h with
  | nil => rfl
  | cons _ _ ih => rw [List.length_cons, List.length_cons, ih]

/-- Every value comes from a round of its own. -/
theorem round_of_mem (h : Rounds P as bs t) {b : β} (mem : b ∈ bs) :
  ∃ a u, P a b u ∧ u ⊆ t
  := by
  induction h with
  | nil => cases mem
  | @cons a _ _ _ u _ first _ ih =>
    rcases List.mem_cons.mp mem with rfl | later
    · exact ⟨a, u, first, List.subset_append_left ..⟩
    · obtain ⟨a, u, round, sub⟩ := ih later
      exact ⟨a, u, round, List.Subset.trans sub (List.subset_append_right ..)⟩

end Rounds

end Asking
