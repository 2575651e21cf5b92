/-
Incremental decoders: a decoder is fed chunks of input and hands out the frames it completes, until
it needs more input or fails. What it hands out over a list of chunks should not depend on how the
input was cut; a decoder that looks at one item after the other has this property.
-/
import Mathlib.Tactic

namespace Xscope

/-- A decoder of frames `β` from items `α`. `next` hands out the next frame of the input and what it left of it;
a frame uses up some input. -/
structure Decoder (α ε β : Type) where
  State : Type
  fresh : State
  clear : State → State
  next : State → List α → Option (Except ε β) × State × List α
  consumes : ∀ s input b s' rest, next s input = (some (.ok b), s', rest) → rest.length < input.length

namespace Decoder

variable {α ε β : Type}

/-- The frames of one chunk up to the first failure, and the state after them. -/
def drain (D : Decoder α ε β) (s : D.State) (input : List α) : List β × Except ε D.State :=
  match h : D.next s input with
  | (none, s', _) => ([], .ok s')
  | (some (.error e), _, _) => ([], .error e)
  | (some (.ok b), s', rest) =>
    have := D.consumes s input b s' rest h
    let (bs, result) := D.drain s' rest
    (b :: bs, result)
  termination_by input.length

/-- The frames of a list of chunks, and whether the decoder failed. -/
def feed (D : Decoder α ε β) (s : D.State) : List (List α) → List β × Bool
  | [] => ([], false)
  | chunk :: chunks => match D.drain s chunk with
    | (bs, .error _) => (bs, true)
    | (bs, .ok s') => (bs ++ (D.feed s' chunks).1, (D.feed s' chunks).2)

/-- What a fresh decoder hands out depends on the input alone. -/
def ChunkInvariant (D : Decoder α ε β) : Prop := ∀ chunks, D.feed D.fresh chunks = D.feed D.fresh [chunks.flatten]

section

variable {D : Decoder α ε β} {s s' : D.State} {input rest : List α}

theorem drain_none (h : D.next s input = (none, s', rest)) : D.drain s input = ([], .ok s') := by
  unfold drain
  split
  · rename_i heq
    rw [h] at heq
    cases heq
    rfl
  · rename_i heq
    rw [h] at heq
    cases heq
  · rename_i heq
    rw [h] at heq
    cases heq

theorem drain_error {e : ε} (h : D.next s input = (some (.error e), s', rest)) : D.drain s input = ([], .error e) := by
  unfold drain
  split
  · rename_i heq
    rw [h] at heq
    cases heq
  · rename_i heq
    rw [h] at heq
    cases heq
    rfl
  · rename_i heq
    rw [h] at heq
    cases heq

theorem drain_some {b : β} (h : D.next s input = (some (.ok b), s', rest)) :
    D.drain s input = (b :: (D.drain s' rest).1, (D.drain s' rest).2) := by
  conv_lhs => unfold drain
  split
  · rename_i heq
    rw [h] at heq
    cases heq
  · rename_i heq
    rw [h] at heq
    cases heq
  · rename_i heq
    rw [h] at heq
    cases heq
    rfl

end

/-! ## Decoders that look at one item after the other -/

section

variable {σ : Type} (push : σ → α → Except ε (Option β × σ))

/-- The first frame a step function completes. -/
def pushNext : σ → List α → Option (Except ε β) × σ × List α
  | s, [] => (none, s, [])
  | s, a :: rest => match push s a with
    | .error e => (some (.error e), s, rest)
    | .ok (some b, s') => (some (.ok b), s', rest)
    | .ok (none, s') => pushNext s' rest

theorem pushNext_consumes (s : σ) (input : List α) (b : β) (s' : σ) (rest : List α)
    (h : pushNext push s input = (some (.ok b), s', rest)) : rest.length < input.length := by
  induction input generalizing s with
  | nil => cases h
  | cons a input ih =>
    unfold pushNext at h
    split at h
    · cases h
    · cases h
      exact Nat.lt_succ_self _
    · exact (ih _ h).trans (Nat.lt_succ_self _)

/-- The decoder of a step function. -/
def ofPush (fresh : σ) : Decoder α ε β where
  State := σ
  fresh := fresh
  clear _ := fresh
  next := pushNext push
  consumes := pushNext_consumes push

variable {push} {fresh : σ}

theorem ofPush_cons (s : σ) (a : α) (rest : List α) :
    (ofPush push fresh).drain s (a :: rest) = match push s a with
      | .error e => ([], .error e)
      | .ok (some b, s') => (b :: ((ofPush push fresh).drain s' rest).1, ((ofPush push fresh).drain s' rest).2)
      | .ok (none, s') => (ofPush push fresh).drain s' rest := by
  cases h : push s a with
  | error e => exact drain_error (show pushNext push s (a :: rest) = (some (.error e), s, rest) by rw [pushNext, h])
  | ok p =>
    obtain ⟨o, s'⟩ := p
    cases o with
    | some b => exact drain_some (show pushNext push s (a :: rest) = (some (.ok b), s', rest) by rw [pushNext, h])
    | none =>
      -- no frame yet: the decoder goes on with the rest
      have same : (ofPush push fresh).next s (a :: rest) = (ofPush push fresh).next s' rest :=
        show pushNext push s (a :: rest) = pushNext push s' rest by rw [pushNext, h]
      show (ofPush push fresh).drain s (a :: rest) = (ofPush push fresh).drain s' rest
      cases next : (ofPush push fresh).next s' rest with
      | mk frame more =>
        obtain ⟨s'', left⟩ := more
        cases frame with
        | none => rw [drain_none (same.trans next), drain_none next]
        | some frame =>
          cases frame with
          | error e => rw [drain_error (same.trans next), drain_error next]
          | ok b => rw [drain_some (same.trans next), drain_some next]

theorem ofPush_append (s : σ) (xs ys : List α) :
    (ofPush push fresh).drain s (xs ++ ys) = match (ofPush push fresh).drain s xs with
      | (bs, .error e) => (bs, .error e)
      | (bs, .ok s') => (bs ++ ((ofPush push fresh).drain s' ys).1, ((ofPush push fresh).drain s' ys).2) := by
  induction xs generalizing s with
  | nil =>
    rw [drain_none (show (ofPush push fresh).next s [] = (none, s, []) from rfl)]
    rfl
  | cons a xs ih =>
    rw [List.cons_append, ofPush_cons, ofPush_cons]
    cases push s a with
    | error e => rfl
    | ok p =>
      obtain ⟨o, s'⟩ := p
      cases o with
      | none => exact ih s'
      | some b =>
        simp only [ih s']
        rcases (ofPush push fresh).drain s' xs with ⟨bs, _ | s''⟩ <;> rfl

/-- Looking at one item after the other does not depend on the chunks. -/
theorem ofPush_chunkInvariant : (ofPush push fresh).ChunkInvariant := by
  have chunked (chunks : List (List α)) : ∀ s, (ofPush push fresh).feed s chunks =
      (ofPush push fresh).feed s [chunks.flatten] := by
    induction chunks with
    | nil =>
      intro s
      show _ = (ofPush push fresh).feed s [[]]
      unfold feed
      rw [drain_none (show (ofPush push fresh).next s [] = (none, s, []) from rfl)]
      rfl
    | cons chunk chunks ih =>
      intro s
      rw [List.flatten_cons]
      have whole : (ofPush push fresh).drain s (chunk ++ chunks.flatten) = match (ofPush push fresh).drain s chunk with
        | (bs, .error e) => (bs, .error e)
        | (bs, .ok s') =>
          (bs ++ ((ofPush push fresh).drain s' chunks.flatten).1, ((ofPush push fresh).drain s' chunks.flatten).2) :=
        ofPush_append s chunk chunks.flatten
      unfold feed
      cases first : (ofPush push fresh).drain s chunk with
      | mk bs result =>
        rw [first] at whole
        cases result with
        | error e =>
          simp only at whole
          rw [show (ofPush push fresh).drain s (chunk ++ chunks.flatten) = _ from whole]
        | ok s' =>
          simp only at whole
          rw [show (ofPush push fresh).drain s (chunk ++ chunks.flatten) = _ from whole]
          simp only [ih s']
          unfold feed
          rcases (ofPush push fresh).drain s' chunks.flatten with ⟨cs, _ | s''⟩ <;> simp [feed]
  exact fun chunks => chunked chunks fresh

end

end Decoder

end Xscope
