/-
The ledger over a run. A move writes no journal or exactly one; the entries of a ledger
transaction are the two it was written with, and they sum to zero.
-/
import Xscope.Billing.Prepaid

namespace Xscope

/-! ## The journal of a move -/

/-- The entries of a ledger transaction. -/
def Books.entriesOf (b : Books) (transaction : String) : List LedgerEntry :=
  b.entries.select fun e => e.transactionId == transaction

/-- What a move can do to the ledger: nothing, or one journal of two entries that cancel. -/
inductive Posts (k : Kind) (b b' : Books) : Prop
  | none (transactions : b'.transactions = b.transactions) (entries : b'.entries = b.entries)
  | journal (txn : LedgerTransaction) (e₁ e₂ : LedgerEntry) (es : Table LedgerEntry)
      (fresh : ∀ x ∈ b.transactions, x.idempotencyKey ≠ txn.idempotencyKey)
      (transactions : b.transactions.insert? txn = some b'.transactions) (first : b.entries.insert? e₁ = some es)
      (second : es.insert? e₂ = some b'.entries) (owner₁ : e₁.transactionId = txn.id)
      (owner₂ : e₂.transactionId = txn.id)
      (cancel : e₁.amountMicrounits + e₂.amountMicrounits = 0)
      (kind : k.charges = true ∨ txn.referenceType ≠ .usageEvent)

theorem Journal.posts {k : Kind} {txn : LedgerTransaction} {e₁ e₂ : LedgerEntry} {b₀ b b' : Books}
    (h : Journal txn e₁ e₂ b b') (ht : b.transactions = b₀.transactions) (he : b.entries = b₀.entries)
    (owner₁ : e₁.transactionId = txn.id) (owner₂ : e₂.transactionId = txn.id)
    (cancel : e₁.amountMicrounits + e₂.amountMicrounits = 0)
    (kind : k.charges = true ∨ txn.referenceType ≠ .usageEvent) : Posts k b₀ b' := by
  obtain ⟨ts, es, es', h1, h2, h3, rfl⟩ := h.inserted
  exact .journal txn e₁ e₂ es (by rw [← ht]; exact h.fresh) (by rw [← ht]; exact h1)
    (by rw [← he]; exact h2) h3 owner₁ owner₂
    cancel kind

theorem Posted.posts {k : Kind} {call : Call} {a : BillingAccount} {p : Posting} {b₀ b b' : Books}
    (h : Posted call a p b b') (ht : b.transactions = b₀.transactions) (he : b.entries = b₀.entries)
    (kind : k.charges = true ∨ p.referenceType ≠ .usageEvent) : Posts k b₀ b' :=
  Journal.posts h ht he rfl rfl (Int.add_right_neg _) kind

theorem Charged.posts {k : Kind} {call : Call} {a : BillingAccount} {amount : Int} {p : Posting} {b₀ b b' : Books}
    (h : Charged call a amount p b b') (ht : b.transactions = b₀.transactions) (he : b.entries = b₀.entries)
    (kind : k.charges = true) : Posts k b₀ b' := by
  rcases h with ⟨-, h⟩ | ⟨-, rfl⟩
  · exact h.posts ht he (.inl kind)
  · exact .none ht he

theorem Move.posts {k : Kind} {b b' : Books} (m : Move k b b') : Posts k b b' := by
  cases m with
  | registry g => exact .none g.transactions g.entries
  | settle call a r request amount us ha hp hr hs wf hin hout cost funds hi post => exact post.posts rfl rfl rfl
  | usage call a e cost us ha hp unreserved priced funds hi post => exact post.posts rfl rfl rfl
  | topUp call a o id provider reference currency key description ps ha hp ho hpend hfit hi post =>
    exact post.posts rfl rfl (.inr (by simp [topUpPosting]))
  | refund call a o p row key description rs ha hp ho hpay hprov hrow hst hpos le limit funds hi post =>
    exact post.posts rfl rfl (.inr (by simp [refundPosting]))
  | prepare call a o p row key description rs ha hp ho hpay hprov hrow hst hpos limit funds hi post =>
    exact post.posts rfl rfl (.inr (by simp [refundPosting]))
  | complete call a o p row trade ha hp ho hpay hprov hrow hpid hst post =>
    exact post.posts rfl rfl rfl rfl (Int.add_left_neg _) (.inr (by simp [clearingTransaction]))
  | _ => exact .none rfl rfl

/-! ## Entries and their transactions -/

/-- Every entry belongs to a ledger transaction, and the entries of each sum to zero. -/
structure Books.Balanced (b : Books) : Prop where
  owned : ∀ e ∈ b.entries, ∃ t ∈ b.transactions, t.id = e.transactionId
  zero : ∀ t ∈ b.transactions, ((b.entriesOf t.id).map (·.amountMicrounits)).sum = 0

theorem Books.Balanced.congr {b b' : Books} (h : b.Balanced) (ht : b'.transactions = b.transactions)
    (he : b'.entries = b.entries) : b'.Balanced :=
  ⟨by rw [ht, he]; exact h.owned, by unfold Books.entriesOf; rw [ht, he]; exact h.zero⟩

section Journal

variable {b b' : Books} {txn : LedgerTransaction} {e₁ e₂ : LedgerEntry} {es : Table LedgerEntry}

/-- The entries of a new transaction are the two it is written with. -/
theorem entriesOf_new (owned : ∀ e ∈ b.entries, ∃ t ∈ b.transactions, t.id = e.transactionId)
    (transactions : b.transactions.insert? txn = some b'.transactions) (first : b.entries.insert? e₁ = some es)
    (second : es.insert? e₂ = some b'.entries) (owner₁ : e₁.transactionId = txn.id)
    (owner₂ : e₂.transactionId = txn.id) : b'.entriesOf txn.id = [e₂, e₁] := by
  have none : b.entriesOf txn.id = [] := by
    refine Table.select_nil_iff.2 fun e he => ?_
    obtain ⟨t, ht, hid⟩ := owned e he
    have : t.id ≠ txn.id := Table.get?_none_iff.1 (Table.insert?_some transactions).1 t ht
    rw [← hid]; simpa using this
  unfold Books.entriesOf at none ⊢
  rw [Table.select_insert? second, Table.select_insert? first, none]
  simp [owner₁, owner₂]

/-- The entries of an old transaction stay. -/
theorem entriesOf_old {t : LedgerTransaction} (ht : t ∈ b.transactions)
    (transactions : b.transactions.insert? txn = some b'.transactions) (first : b.entries.insert? e₁ = some es)
    (second : es.insert? e₂ = some b'.entries) (owner₁ : e₁.transactionId = txn.id)
    (owner₂ : e₂.transactionId = txn.id) :
    b'.entriesOf t.id = b.entriesOf t.id := by
  have hne : txn.id ≠ t.id := fun e => Table.get?_none_iff.1 (Table.insert?_some transactions).1 t ht e.symm
  unfold Books.entriesOf
  rw [Table.select_insert? second, Table.select_insert? first]
  simp [owner₁, owner₂, hne]

end Journal

theorem Posts.balanced {k : Kind} {b b' : Books} (p : Posts k b b') (h : b.Balanced) : b'.Balanced := by
  cases p with
  | none ht he => exact h.congr ht he
  | journal txn e₁ e₂ es fresh ht h1 h2 owner₁ owner₂ cancel kind =>
    refine ⟨fun e he => ?_, fun t hm => ?_⟩
    · rcases (Table.mem_insert? h2).1 he with rfl | he
      · exact ⟨txn, (Table.mem_insert? ht).2 (.inl rfl), owner₂.symm⟩
      · rcases (Table.mem_insert? h1).1 he with rfl | he
        · exact ⟨txn, (Table.mem_insert? ht).2 (.inl rfl), owner₁.symm⟩
        · obtain ⟨t, hm, hid⟩ := h.owned e he
          exact ⟨t, (Table.mem_insert? ht).2 (.inr hm), hid⟩
    · rcases (Table.mem_insert? ht).1 hm with rfl | hm
      · rw [entriesOf_new h.owned ht h1 h2 owner₁ owner₂]
        simp only [List.map_cons, List.map_nil, List.sum_cons, List.sum_nil]
        omega
      · rw [entriesOf_old hm ht h1 h2 owner₁ owner₂]; exact h.zero t hm

theorem Moves.balanced {ks : List Kind} {b b' : Books} (h : Moves ks b b') (hb : b.Balanced) : b'.Balanced :=
  h.keeps (fun _ _ _ _ m => m.posts.balanced) hb

theorem Books.Balanced.empty : Db.empty.books.Balanced :=
  ⟨fun e h => absurd h (Table.not_mem_empty e), fun t h => absurd h (Table.not_mem_empty t)⟩

theorem Op.runAll_balanced (digests : Digests) (ops : List Op) : (Op.runAll digests ops Db.empty).books.Balanced :=
  (Op.runAll_moves digests ops Good.empty).moves.balanced Books.Balanced.empty

end Xscope
