/-
Transactions: state transformers that may fail. A failed transaction leaves the state it was
run on (`commit`), and a session is a sequence of committed transactions, so a later failure
keeps what was committed before it. The inversion rules turn a successful run of a `do` block
into the intermediate states and the guards it passed; `Within` closes a preorder of states
under the combinators.
-/
import Mathlib.Order.Defs.Unbundled
import Mathlib.Tactic

namespace Xscope

/-! ## Sessions -/

/-- A sequence of transactions, each committed on its own. -/
def Session (σ ε α : Type) : Type := σ → Except ε α × σ

namespace Session

variable {σ ε α β : Type}

instance : Monad (Session σ ε) where
  pure a := fun s => (.ok a, s)
  bind x f := fun s => match x s with
    | (.ok a, s') => f a s'
    | (.error e, s') => (.error e, s')

/-- The state. -/
def get : Session σ ε σ := fun s => (.ok s, s)

/-- A change of the state that stays, whatever comes after it. -/
def modify (f : σ → σ) : Session σ ε Unit := fun s => (.ok (), f s)

/-- A result computed without the state: the `?` of the source. -/
def lift (x : Except ε α) : Session σ ε α := fun s => (x, s)

def fail (e : ε) : Session σ ε α := fun s => (.error e, s)

/-- Failure with `e` when `c` holds: the `if c { return Err(e) }` of the source. -/
def reject (c : Prop) [Decidable c] (e : ε) : Session σ ε Unit := if c then fail e else pure ()

variable {s s' : σ} {x : Session σ ε α} {f : α → Session σ ε β}

theorem bind_of_ok {a : α} (h : x s = (.ok a, s')) : (x >>= f) s = f a s' := by
  show (match x s with | (.ok a, s') => f a s' | (.error e, s') => (.error e, s')) = _
  rw [h]

theorem bind_of_error {e : ε} (h : x s = (.error e, s')) : (x >>= f) s = (.error e, s') := by
  show (match x s with | (.ok a, s') => f a s' | (.error e, s') => (.error e, s')) = _
  rw [h]

/-- A session that succeeds has succeeded in its first part. -/
theorem bind_ok {b : β} (h : (x >>= f) s = (.ok b, s')) : ∃ a t, x s = (.ok a, t) ∧ f a t = (.ok b, s') := by
  cases hx : x s with
  | mk o t =>
    cases o with
    | ok a =>
      rw [bind_of_ok hx] at h
      exact ⟨a, t, rfl, h⟩
    | error e => rw [bind_of_error hx] at h; cases h

theorem get_bind {f : σ → Session σ ε β} : (get >>= f) s = f s s := rfl

theorem modify_bind {g : σ → σ} {f : Unit → Session σ ε β} : (modify g >>= f) s = f () (g s) := rfl

theorem lift_bind_ok {y : Except ε α} {b : β} :
    (lift y >>= f) s = (.ok b, s') ↔ ∃ a, y = .ok a ∧ f a s = (.ok b, s') := by
  cases y with
  | ok a =>
    constructor
    · intro h
      exact ⟨a, rfl, h⟩
    · rintro ⟨_, h, hf⟩
      cases h
      exact hf
  | error e =>
    constructor
    · intro h
      cases h
    · rintro ⟨_, h, _⟩
      cases h

theorem reject_bind_ok {c : Prop} [Decidable c] {e : ε} {f : Unit → Session σ ε β} {b : β} :
    (reject c e >>= f) s = (.ok b, s') ↔ ¬c ∧ f () s = (.ok b, s') := by
  unfold reject
  split
  · rename_i hc
    constructor
    · intro h
      cases h
    · rintro ⟨no, _⟩
      exact absurd hc no
  · rename_i hc
    constructor
    · intro h
      exact ⟨hc, h⟩
    · rintro ⟨_, h⟩
      exact h

end Session

/-! ## Transactions -/

/-- A computation inside one transaction on states `σ`, failing with `ε`. -/
def Tx (σ ε α : Type) : Type := σ → Except ε (α × σ)

namespace Tx

variable {σ ε α β : Type}

instance : Monad (Tx σ ε) where
  pure a := fun s => .ok (a, s)
  bind x f := fun s => match x s with
    | .ok (a, s') => f a s'
    | .error e => .error e

/-- A read of the state. -/
def read (f : σ → α) : Tx σ ε α := fun s => .ok (f s, s)

/-- An update of the state. -/
def write (f : σ → σ) : Tx σ ε Unit := fun s => .ok ((), f s)

/-- Failure. -/
def fail (e : ε) : Tx σ ε α := fun _ => .error e

/-- Failure with `e` when `c` holds: the `if c { return Err(e) }` of the source. -/
def reject (c : Prop) [Decidable c] (e : ε) : Tx σ ε Unit := if c then fail e else pure ()

/-- The value of `o`, or failure with `e`: the `ok_or(e)?` of the source. -/
def expect (o : Option α) (e : ε) : Tx σ ε α := match o with
  | some a => pure a
  | none => fail e

/-- Running a transaction: committed when it succeeds, rolled back when it fails. -/
def commit (x : Tx σ ε α) : Session σ ε α := fun s => match x s with
  | .ok (a, s') => (.ok a, s')
  | .error e => (.error e, s)

/-! ## What a successful run passed through -/

variable {s s' : σ} {x : Tx σ ε α} {f : α → Tx σ ε β}

theorem bind_ok {r : β × σ} : (x >>= f) s = .ok r ↔ ∃ a s', x s = .ok (a, s') ∧ f a s' = .ok r := by
  show (match x s with | .ok (a, s') => f a s' | .error e => .error e) = .ok r ↔ _
  cases h : x s with
  | error e => simp
  | ok p => obtain ⟨a, s'⟩ := p; simp

@[simp] theorem pure_ok {a : α} {r : α × σ} : (pure a : Tx σ ε α) s = .ok r ↔ (a, s) = r := by
  show Except.ok (a, s) = .ok r ↔ _
  simp

@[simp] theorem read_ok {g : σ → α} {r : α × σ} : (read g : Tx σ ε α) s = .ok r ↔ (g s, s) = r := by
  simp [read]

@[simp] theorem write_ok {g : σ → σ} {r : Unit × σ} : (write g : Tx σ ε Unit) s = .ok r ↔ ((), g s) = r := by
  simp [write]

@[simp] theorem fail_ok {e : ε} {r : α × σ} : (fail e : Tx σ ε α) s = .ok r ↔ False := by
  simp [fail]

@[simp] theorem reject_ok {c : Prop} [Decidable c] {e : ε} {r : Unit × σ} :
    (reject c e : Tx σ ε Unit) s = .ok r ↔ ¬c ∧ ((), s) = r := by
  unfold reject
  by_cases h : c <;> simp [h]

@[simp] theorem expect_ok {o : Option α} {e : ε} {r : α × σ} :
    (expect o e : Tx σ ε α) s = .ok r ↔ o = some r.1 ∧ s = r.2 := by
  unfold expect
  cases o with
  | none => simp
  | some a => obtain ⟨b, t⟩ := r; simp

/-! The same rules in front of the rest of a `do` block. -/

@[simp] theorem pure_bind (a : α) : ((pure a : Tx σ ε α) >>= f) s = f a s := rfl

@[simp] theorem read_bind (g : σ → α) : ((read g : Tx σ ε α) >>= f) s = f (g s) s := rfl

@[simp] theorem write_bind (g : σ → σ) {f : Unit → Tx σ ε β} : ((write g : Tx σ ε Unit) >>= f) s = f () (g s) := rfl

@[simp] theorem reject_bind {c : Prop} [Decidable c] {e : ε} {f : Unit → Tx σ ε β} {r : β × σ} :
    ((reject c e : Tx σ ε Unit) >>= f) s = .ok r ↔ ¬c ∧ f () s = .ok r := by
  rw [bind_ok]
  constructor
  · rintro ⟨_, _, h, hf⟩; obtain ⟨hc, he⟩ := reject_ok.1 h; cases he; exact ⟨hc, hf⟩
  · rintro ⟨hc, hf⟩; exact ⟨(), s, reject_ok.2 ⟨hc, rfl⟩, hf⟩

@[simp] theorem expect_bind {o : Option α} {e : ε} {r : β × σ} :
    ((expect o e : Tx σ ε α) >>= f) s = .ok r ↔ ∃ a, o = some a ∧ f a s = .ok r := by
  rw [bind_ok]
  constructor
  · rintro ⟨a, _, h, hf⟩; obtain ⟨ho, he⟩ := expect_ok.1 h; cases he; exact ⟨a, ho, hf⟩
  · rintro ⟨a, ho, hf⟩; exact ⟨a, s, expect_ok.2 ⟨ho, rfl⟩, hf⟩

/-! ## Running forward -/

theorem bind_of_ok {a : α} (h : x s = .ok (a, s')) : (x >>= f) s = f a s' := by
  show (match x s with | .ok (a, s') => f a s' | .error e => .error e) = _
  rw [h]

theorem bind_of_error {e : ε} (h : x s = .error e) : (x >>= f) s = .error e := by
  show (match x s with | .ok (a, s') => f a s' | .error e => .error e) = _
  rw [h]

theorem reject_of_not {c : Prop} [Decidable c] {e : ε} (h : ¬c) : (reject c e : Tx σ ε Unit) s = .ok ((), s) := by
  simp [h]

theorem reject_of {c : Prop} [Decidable c] {e : ε} (h : c) : (reject c e : Tx σ ε Unit) s = .error e := by
  unfold reject; rw [if_pos h]; rfl

theorem expect_some {o : Option α} {a : α} {e : ε} (h : o = some a) : (expect o e : Tx σ ε α) s = .ok (a, s) := by
  subst h; rfl

theorem commit_of_ok {a : α} (h : x s = .ok (a, s')) : commit x s = (.ok a, s') := by
  unfold commit; rw [h]

theorem commit_of_error {e : ε} (h : x s = .error e) : commit x s = (.error e, s) := by
  unfold commit; rw [h]

theorem commit_ok {a : α} : commit x s = (.ok a, s') ↔ x s = .ok (a, s') := by
  unfold commit
  cases h : x s with
  | ok p => obtain ⟨b, t⟩ := p; simp
  | error e => simp

/-- A committed transaction succeeded, or it changed nothing. -/
theorem commit_cases (x : Tx σ ε α) (s : σ) :
    (∃ a s', x s = .ok (a, s') ∧ commit x s = (.ok a, s')) ∨ (∃ e, x s = .error e ∧ commit x s = (.error e, s)) := by
  cases h : x s with
  | ok p => exact .inl ⟨p.1, p.2, rfl, commit_of_ok h⟩
  | error e => exact .inr ⟨e, rfl, commit_of_error h⟩

/-- A run evaluates to a success with the property. -/
theorem exists_ok {x : Except ε α} {P : α → Prop} [DecidablePred P]
    (h : (match x with | .ok a => decide (P a) | .error _ => false) = true) : ∃ a, x = .ok a ∧ P a := by
  cases x with
  | ok a => exact ⟨a, rfl, of_decide_eq_true h⟩
  | error e => cases h

/-! ## Errors that cannot occur -/

/-- Run on `s`, `x` does not fail with `e`. -/
def Avoids (e : ε) (x : Tx σ ε α) (s : σ) : Prop := x s ≠ .error e

section Avoids

variable {e e' : ε}

theorem avoids_bind (hx : Avoids e x s) (hf : ∀ a t, x s = .ok (a, t) → Avoids e (f a) t) : Avoids e (x >>= f) s := by
  unfold Avoids
  cases h : x s with
  | error e' =>
    rw [bind_of_error h]
    exact fun he => hx (by rw [h]; exact congrArg _ (Except.error.inj he))
  | ok p =>
    obtain ⟨a, t⟩ := p
    rw [bind_of_ok h]
    exact hf a t h

theorem avoids_pure (a : α) : Avoids e (pure a : Tx σ ε α) s := nofun

theorem avoids_read (g : σ → α) : Avoids e (read g : Tx σ ε α) s := nofun

theorem avoids_write (g : σ → σ) : Avoids e (write g : Tx σ ε Unit) s := nofun

theorem avoids_reject {c : Prop} [Decidable c] (h : c → e' ≠ e) : Avoids e (reject c e' : Tx σ ε Unit) s := by
  by_cases hc : c
  · unfold Avoids
    rw [reject_of hc]
    exact fun he => h hc (Except.error.inj he)
  · unfold Avoids
    rw [reject_of_not hc]
    exact nofun

theorem avoids_expect {o : Option α} (h : e' ≠ e) : Avoids e (expect o e' : Tx σ ε α) s := by
  cases o with
  | none => exact fun he => h (Except.error.inj he)
  | some a => exact nofun

/-- A missing value fails with another error, or the value is there. -/
theorem avoids_expect_of {o : Option α} (h : o = none → e' ≠ e) : Avoids e (expect o e' : Tx σ ε α) s := by
  cases o with
  | none => exact avoids_expect (h rfl)
  | some a => exact nofun

/-- What fails with no error at all succeeds. -/
theorem ok_of_avoids (h : ∀ e, Avoids e x s) : ∃ r, x s = .ok r := by
  cases hx : x s with
  | ok r => exact ⟨r, rfl⟩
  | error e => exact absurd hx (h e)

end Avoids

/-! ## Relations between the states before and after -/

/-- Whenever `x` succeeds, its final state is `R`-related to its initial state. -/
def Within (R : σ → σ → Prop) (x : Tx σ ε α) : Prop := ∀ s a s', x s = .ok (a, s') → R s s'

theorem within_fail {R : σ → σ → Prop} (e : ε) : Within R (fail e : Tx σ ε α) := by
  intro s b s' h
  simp at h

section Within

variable {R : σ → σ → Prop} [IsPreorder σ R]

theorem within_bind (hx : Within R x) (hf : ∀ a, Within R (f a)) : Within R (x >>= f) := by
  intro s b s' h
  obtain ⟨a, t, hx', hf'⟩ := bind_ok.1 h
  exact trans_of R (hx s a t hx') (hf a t b s' hf')

theorem within_pure (a : α) : Within R (pure a : Tx σ ε α) := by
  intro s b s' h
  cases pure_ok.1 h
  exact refl_of R s

theorem within_read (g : σ → α) : Within R (read g : Tx σ ε α) := by
  intro s b s' h
  cases read_ok.1 h
  exact refl_of R s

theorem within_reject (c : Prop) [Decidable c] (e : ε) : Within R (reject c e : Tx σ ε Unit) := by
  intro s b s' h
  cases (reject_ok.1 h).2
  exact refl_of R s

theorem within_expect (o : Option α) (e : ε) : Within R (expect o e : Tx σ ε α) := by
  intro s b s' h
  rw [(expect_ok.1 h).2]
  exact refl_of R _

end Within

theorem within_write {R : σ → σ → Prop} {g : σ → σ} (h : ∀ s, R s (g s)) : Within R (write g : Tx σ ε Unit) := by
  intro s b s' hw
  cases write_ok.1 hw
  exact h s

theorem within_ite {R : σ → σ → Prop} {c : Prop} [Decidable c] {x y : Tx σ ε α} (hx : c → Within R x)
    (hy : ¬c → Within R y) : Within R (if c then x else y) := by
  split
  · exact hx ‹_›
  · exact hy ‹_›

end Tx

namespace Session

variable {σ ε α β : Type} {R : σ → σ → Prop} [IsPreorder σ R]

/-- Whether `x` succeeds or not, its final state is `R`-related to its initial state. -/
def Within (R : σ → σ → Prop) (x : Session σ ε α) : Prop := ∀ s, R s (x s).2

theorem within_bind {x : Session σ ε α} {f : α → Session σ ε β} (hx : Within R x)
    (hf : ∀ a, Within R (f a)) : Within R (x >>= f) := by
  intro s
  have first := hx s
  cases h : x s with
  | mk o t =>
    rw [h] at first
    cases o with
    | error e =>
      rw [bind_of_error h]
      exact first
    | ok a =>
      rw [bind_of_ok h]
      exact trans_of R first (hf a t)

theorem within_pure (a : α) : Within R (pure a : Session σ ε α) := fun s => refl_of R s

theorem within_commit {x : Tx σ ε α} (h : Tx.Within R x) : Within R (Tx.commit x) := by
  intro s
  rcases Tx.commit_cases x s with ⟨a, t, hx, hc⟩ | ⟨e, -, hc⟩
  · rw [hc]
    exact h s a t hx
  · rw [hc]
    exact refl_of R s

end Session

end Xscope
