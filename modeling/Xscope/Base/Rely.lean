/-
Programs that ask a world which others change. Between two questions the world moves on, and what a program was
told may no longer be so; what it may rely on are the facts that hold in every later world. A program is safe
when its result is right in the world it ends in, whatever happened in between.
-/
import Mathlib.Order.Basic

namespace Xscope

/-- A program of questions, each with its own kind of answer. -/
inductive Asking (Q : Type) (A : Q → Type) (β : Type) where
  | done (b : β)
  | ask (q : Q) (next : A q → Asking Q A β)

namespace Asking

variable {Q : Type} {A : Q → Type} {W β γ : Type}

/-- Goes on with a value that may be missing. -/
def expect (value : Option β) (next : β → Asking Q A (Option γ)) : Asking Q A (Option γ) := match value with
  | some b => next b
  | none => .done none

def bind : Asking Q A β → (β → Asking Q A γ) → Asking Q A γ
  | .done b, next => next b
  | .ask q answered, next => .ask q fun a => (answered a).bind next

end Asking

/-- How a world answers a question: with the answer, and in which world it leaves the others. -/
structure Oracle (W Q : Type) (A : Q → Type) [Preorder W] where
  gives : W → (q : Q) → A q → W → Prop
  later : ∀ {w q a w'}, gives w q a w' → w ≤ w'

namespace Asking

variable {Q : Type} {A : Q → Type} {W β γ : Type} [Preorder W]

/-- Whatever others do between the questions, the result meets `post` in the world it is given in. -/
def Safe (oracle : Oracle W Q A) (post : W → β → Prop) : Asking Q A β → W → Prop
  | .done b, w => post w b
  | .ask q next, w => ∀ w₁, w ≤ w₁ → ∀ a w₂, oracle.gives w₁ q a w₂ → Safe oracle post (next a) w₂

variable {oracle : Oracle W Q A} {post : W → β → Prop} {p : Asking Q A β} {w w' : W}

/-- Others cannot make a program unsafe. -/
theorem Safe.later (stable : ∀ {w w' b}, w ≤ w' → post w b → post w' b) (h : p.Safe oracle post w)
    (le : w ≤ w') : p.Safe oracle post w' := by
  cases p with
  | done b => exact stable le h
  | ask q next => exact fun w₁ le₁ => h w₁ (le_trans le le₁)

theorem Safe.expect {value : Option β} {next : β → Asking Q A (Option γ)} {post : W → Option γ → Prop}
    (none : post w none) (some : ∀ b, value = some b → (next b).Safe oracle post w) :
    (Asking.expect value next).Safe oracle post w := by
  cases value with
  | none => exact none
  | some b => exact some b rfl

/-- One program after another: the second starts in a later world, with what the first ends with. -/
theorem Safe.bind {next : β → Asking Q A γ} {post' : W → γ → Prop} (h : p.Safe oracle post w)
    (rest : ∀ w' b, w ≤ w' → post w' b → (next b).Safe oracle post' w') : (p.bind next).Safe oracle post' w := by
  induction p generalizing w with
  | done b => exact rest w b le_rfl h
  | ask q answered ih =>
    intro w₁ le₁ a w₂ given
    exact ih a (h w₁ le₁ a w₂ given) fun w' b le => rest w' b (le_trans le₁ (le_trans (oracle.later given) le))

/-- A question that is answered in the world the program stands in. -/
theorem Safe.answered {q : Q} {next : A q → Asking Q A β} {a : A q} (h : (Asking.ask q next).Safe oracle post w)
    (given : oracle.gives w q a w') : (next a).Safe oracle post w' := h w le_rfl a w' given

end Asking

end Xscope
