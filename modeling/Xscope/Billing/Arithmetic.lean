/-
The range of price arithmetic. The catalog admits a price when the whole context at that price is an
`i64`, which is what the cost needs; rounding up to minor units adds a constant to the cost, and that
sum is not covered. The counters a settlement moves are checked sums of many costs.
-/
import Xscope.Billing.Prepaid
import Xscope.Outbox.Fencing

namespace Xscope

/-! ## The values of one cost -/

/-- The exact cost of a request at the rates of a model. -/
def Model.exactCost (m : Model) (input output : Int) : Int :=
  input * m.inputPerMillionTokens.amount + output * m.outputPerMillionTokens.amount

/-- The `i64` values on the way to a cost. -/
def costValues (m : Model) (input output : Int) : List Int :=
  [input * m.inputPerMillionTokens.amount, output * m.outputPerMillionTokens.amount, m.exactCost input output]

/-- The `i64` values on the way to its minor units, in the order of the source. -/
def ceilValues (microunits : Int) : List Int :=
  if microunits = 0 then [] else [microunits + microsPerMinorUnit, microunits + microsPerMinorUnit - 1]

/-- The largest cost that can be rounded up without leaving the range. -/
def maxCost : Int := i64Max - microsPerMinorUnit

/-- The arithmetic of a price is exact at these token counts. -/
structure PricedExactly (m : Model) (input output : Int) : Prop where
  cost : usageCostMicrounits m input output = .ok (m.exactCost input output)
  costFits : ∀ v ∈ costValues m input output, Fits v
  monotone : ∀ input' output', 0 ≤ input' → 0 ≤ output' → input' ≤ input → output' ≤ output →
    ∃ c, usageCostMicrounits m input' output' = .ok c ∧ c ≤ m.exactCost input output
  ceil : ceilMinorUnits (m.exactCost input output) = ⌈(m.exactCost input output : ℚ) / microsPerMinorUnit⌉
  ceilFits : ∀ v ∈ ceilValues (m.exactCost input output), Fits v

section

variable {m : Model} {input output : Int}

/-- A context the catalog admits bounds the cost of the tokens in it. -/
theorem validate_fits (h : m.validate = .ok ()) (hi : 0 ≤ input) (ho : 0 ≤ output)
    (sum : input + output ≤ m.maxContextTokens) :
    Fits (m.exactCost input output) := by
  obtain ⟨pi, po⟩ := validate_priced h
  have top : Fits (m.maxContextTokens * max m.inputPerMillionTokens.amount m.outputPerMillionTokens.amount) := by
    unfold Model.validate at h
    split at h
    · cases h
    · split at h
      · cases h
      · split at h
        · cases h
        · rename_i bound
          rw [Option.isNone_iff_eq_none, checkedMul, checked_none, not_not] at bound
          exact bound
  refine fits_zero.of_between top (add_nonneg (mul_nonneg hi pi) (mul_nonneg ho po)) ?_
  have high : 0 ≤ max m.inputPerMillionTokens.amount m.outputPerMillionTokens.amount := pi.trans (le_max_left ..)
  calc m.exactCost input output
      ≤ input * max m.inputPerMillionTokens.amount m.outputPerMillionTokens.amount
          + output * max m.inputPerMillionTokens.amount m.outputPerMillionTokens.amount :=
        add_le_add (mul_le_mul_of_nonneg_left (le_max_left ..) hi) (mul_le_mul_of_nonneg_left (le_max_right ..) ho)
    _ = (input + output) * max m.inputPerMillionTokens.amount m.outputPerMillionTokens.amount := by ring
    _ ≤ _ := mul_le_mul_of_nonneg_right sum high

/-- At nonnegative rates a cost in range is computed without leaving the range. -/
theorem cost_exact (priced : m.Priced) (hi : 0 ≤ input) (ho : 0 ≤ output) (fits : Fits (m.exactCost input output)) :
    usageCostMicrounits m input output = .ok (m.exactCost input output) ∧ ∀ v ∈ costValues m input output, Fits v := by
  have a : 0 ≤ input * m.inputPerMillionTokens.amount := mul_nonneg hi priced.1
  have b : 0 ≤ output * m.outputPerMillionTokens.amount := mul_nonneg ho priced.2
  have fa : Fits (input * m.inputPerMillionTokens.amount) := fits_zero.of_between fits a (le_add_of_nonneg_right b)
  have fb : Fits (output * m.outputPerMillionTokens.amount) := fits_zero.of_between fits b (le_add_of_nonneg_left a)
  refine ⟨cost_ok.2 ⟨hi, ho, fa, fb, fits, rfl⟩, fun v hv => ?_⟩
  simp only [costValues, List.mem_cons, List.not_mem_nil, or_false] at hv
  rcases hv with rfl | rfl | rfl
  · exact fa
  · exact fb
  · exact fits

/-- In range, rounding up is the ceiling. -/
theorem ceil_exact {c : Int} (h0 : 0 ≤ c) (h : c ≤ maxCost) :
    ceilMinorUnits c = ⌈(c : ℚ) / microsPerMinorUnit⌉ ∧ ∀ v ∈ ceilValues c, Fits v := by
  unfold maxCost i64Max microsPerMinorUnit at h
  constructor
  · symm
    rw [Int.ceil_eq_iff]
    unfold ceilMinorUnits microsPerMinorUnit
    split
    · rename_i hz
      subst hz
      norm_num
    · rw [wrapping_of_fits ⟨by unfold i64Min; omega, by unfold i64Max; omega⟩, Int.tdiv_eq_ediv_of_nonneg (by omega)]
      have low : (c + 1000000 - 1) / 1000000 * 1000000 ≤ c + 1000000 - 1 := Int.ediv_mul_le _ (by norm_num)
      have high : c + 1000000 - 1 < ((c + 1000000 - 1) / 1000000 + 1) * 1000000 :=
        Int.lt_ediv_add_one_mul_self _ (by norm_num)
      generalize (c + 1000000 - 1) / 1000000 = q at low high
      constructor
      · rw [lt_div_iff₀ (by norm_num)]
        exact_mod_cast (by omega : (q - 1) * 1000000 < c)
      · rw [div_le_iff₀ (by norm_num)]
        exact_mod_cast (by omega : c ≤ q * 1000000)
  · intro v hv
    unfold ceilValues microsPerMinorUnit at hv
    unfold Fits i64Min i64Max
    split at hv
    · cases hv
    · simp only [List.mem_cons, List.not_mem_nil, or_false] at hv
      omega

/-- Price arithmetic is exact at the token counts whose cost leaves room for rounding up, and only there. -/
theorem pricedExactly_iff (priced : m.Priced) (hi : 0 ≤ input) (ho : 0 ≤ output)
    (fits : Fits (m.exactCost input output)) :
    PricedExactly m input output ↔ m.exactCost input output ≤ maxCost := by
  constructor
  · intro h
    by_contra above
    have pos : m.exactCost input output ≠ 0 := by
      rintro zero
      rw [zero] at above
      exact above (by decide)
    have last := h.ceilFits (m.exactCost input output + microsPerMinorUnit) (by
      rw [ceilValues, if_neg pos]
      exact List.mem_cons_self ..)
    apply above
    unfold maxCost
    have := last.2
    omega
  · intro le
    obtain ⟨cost, values⟩ := cost_exact priced hi ho fits
    obtain ⟨ceil, sums⟩ := ceil_exact (cost_nonneg priced cost) le
    exact ⟨cost, values, fun _ _ hi' ho' hle hle' => cost_mono priced cost hi' ho' hle hle', ceil, sums⟩

end

/-! ## Charges are never negative -/

/-- No usage was recorded at a negative cost. -/
def Books.Charging (b : Books) : Prop := ∀ u ∈ b.usageEvents, 0 ≤ u.costMicrounits

theorem Move.charging {k : Kind} {b b' : Books} (m : Move k b b') (s : b.Sound) (h : b.Charging) : b'.Charging := by
  cases m with
  | registry g =>
    unfold Books.Charging
    rw [g.usageEvents]
    exact h
  | settle call a r request amount us ha hp hr hs wf hin hout cost funds hi post =>
    obtain ⟨ts, es, rfl⟩ := post.eq
    intro u hu
    rcases (Table.mem_insert? hi).1 hu with rfl | hu
    · exact cost_nonneg (s.reservations r hr).1 cost
    · exact h u hu
  | usage call a e cost us ha hp unreserved priced funds hi post =>
    obtain ⟨ts, es, rfl⟩ := post.eq
    intro u hu
    rcases (Table.mem_insert? hi).1 hu with rfl | hu
    · rcases priced with free | ⟨row, hrow, cost⟩
      · exact free.ge
      · exact cost_nonneg (s.prices row hrow) cost
    · exact h u hu
  | topUp call a o id provider reference currency key description ps ha hp ho hpend hfit hi post =>
    obtain ⟨ts, es, rfl⟩ := post.eq
    exact h
  | refund call a o p row key description rs ha hp ho hpay hprov hrow hst hpos le limit funds hi post =>
    obtain ⟨ts, es, rfl⟩ := post.eq
    exact h
  | prepare call a o p row key description rs ha hp ho hpay hprov hrow hst hpos limit funds hi post =>
    obtain ⟨ts, es, rfl⟩ := post.eq
    exact h
  | complete call a o p row trade ha hp ho hpay hprov hrow hpid hst post =>
    obtain ⟨ts, es, rfl⟩ := post.eq
    exact h
  | _ => exact h

theorem Op.runAll_charging (digests : Digests) (ops : List Op) : (Op.runAll digests ops Db.empty).books.Charging := by
  have moves := (Op.runAll_moves digests ops Good.empty).moves
  refine (moves.keeps (fun _ _ b b' m (h : b.Sound ∧ b.Charging) => ⟨m.sound h.1, m.charging h.1 h.2⟩) ⟨.empty, ?_⟩).2
  exact fun u hu => absurd hu (Table.not_mem_empty u)

/-! ## The arithmetic of a settlement -/

/-- The errors a settlement answers when a number does not fit. -/
def rangeErrors : List ServiceError :=
  [.invalid DomainError.costOverflow.message, .internal "billing projection overflow or negative hold/spend",
    .invalid "ledger amount is too large"]

section

variable {db : Db} {t : Totals} {e : ServiceError}

/-- A sum fails only out of range. -/
theorem total_avoids {sum : Books → Int} (h : .database ≠ e ∨ Fits (sum db.books)) : Tx.Avoids e (total sum) db := by
  unfold Tx.Avoids total
  split
  · exact nofun
  · rename_i out
    rcases h with h | fits
    · exact fun he => h (Except.error.inj he)
    · rw [checked_none] at out
      exact absurd fits out

/-- Neither the primary key nor an index refuses the row. -/
def Insertable {ρ κ : Type} [Keyed ρ κ] (slot : Slot ρ) (row : ρ) (db : Db) : Prop :=
  ∀ x ∈ slot.get db, slot.clash row x = false ∧ (key x : κ) ≠ key row

theorem insertRow_avoids {ρ κ : Type} [Keyed ρ κ] [DecidableEq κ] {slot : Slot ρ} {row : ρ} {e' : ServiceError}
    (h : e' ≠ e ∨ Insertable (κ := κ) slot row db) : Tx.Avoids e (insertRow slot row e') db := by
  rcases h with h | free
  · unfold Tx.Avoids insertRow
    split
    · exact fun he => h (Except.error.inj he)
    · split
      · exact nofun
      · exact fun he => h (Except.error.inj he)
  · have fresh : (slot.get db).get? (key row) = none := Table.get?_none_iff.2 fun x hx => (free x hx).2
    obtain ⟨t, inserted⟩ : ∃ t, (slot.get db).insert? row = some t := by
      cases hi : (slot.get db).insert? row with
      | some t => exact ⟨t, rfl⟩
      | none =>
        obtain ⟨x, hx⟩ := Table.insert?_none_iff.1 hi
        rw [fresh] at hx
        cases hx
    have done : insertRow slot row e' db = .ok ((), slot.set t db) :=
      insertRow_ok.2 ⟨fun x hx => (free x hx).1, t, inserted, rfl⟩
    unfold Tx.Avoids
    rw [done]
    exact nofun

/-- A sum in range that may have its sign is computed. -/
theorem add_fits {value delta : Int} {nonneg : Bool} (fits : Fits (value + delta))
    (sign : nonneg = true → 0 ≤ value + delta) :
    add value delta nonneg db = .ok (value + delta, db) := by
  unfold add
  apply Tx.expect_some
  rw [Option.filter_eq_some_iff]
  refine ⟨checkedAdd_some.2 ⟨rfl, fits⟩, ?_⟩
  cases nonneg with
  | false => rfl
  | true => simpa using sign rfl

theorem account_found {a : String} {x : BillingBalance} (hx : db.projections.balances.get? a = some x) :
    account a db = .ok (x, db) := by
  unfold account
  rw [findById_bind, show (Slot.balances.get db).get? a = some x from hx]
  rfl

theorem keyHold_found {k : String} {y : BillingKeyHold} (hy : db.projections.keyHolds.get? k = some y) :
    keyHold k db = .ok (y, db) := by
  unfold keyHold
  rw [findById_bind, show (Slot.keyHolds.get db).get? k = some y from hy]
  rfl

/-- Giving up a part of the holds is possible where the counters exist. -/
theorem changeHold_total {a k : String} {delta : Int} {x : BillingBalance} {y : BillingKeyHold}
    (shows : db.projections.Shows t) (hx : db.projections.balances.get? a = some x)
    (hy : db.projections.keyHolds.get? k = some y) (neg : delta ≤ 0) (ha : 0 ≤ t.held a + delta)
    (hk : 0 ≤ t.keyHeld k + delta) : ∃ s, changeHold a k delta db = .ok ((), s) := by
  obtain ⟨-, eh, -, fh⟩ := shows.balances x (Table.get?_mem hx)
  obtain ⟨ek, fk⟩ := shows.keyHolds y (Table.get?_mem hy)
  rw [show x.billingAccountId = a from Table.get?_key hx] at eh
  rw [show y.apiKeyId = k from Table.get?_key hy] at ek
  rw [← eh] at ha
  rw [← ek] at hk
  let moved : Db :=
    Slot.balances.set (db.projections.balances.put { x with heldMicrounits := x.heldMicrounits + delta }) db
  have found : keyHold k moved = .ok (y, moved) := keyHold_found hy
  unfold changeHold
  rw [Tx.bind_of_ok (account_found hx), Tx.bind_of_ok (add_fits (fits_zero.of_between fh ha (by omega)) fun _ => ha)]
  exact ⟨_, (Tx.bind_of_ok found).trans (Tx.bind_of_ok (add_fits (fits_zero.of_between fk hk (by omega)) fun _ => hk))⟩

/-- A month counter is found, or filled from sums of the database; without usage in the month the sum is zero. -/
theorem monthly_avoids {key : String} {period : Int} (first : Calendar.firstOfMonth period = period)
    (h : e ∈ rangeErrors ∨ Covered db.books db.projections ∧ (Calendar.checkedAddMonth period).isSome = true) :
    Tx.Avoids e (monthly key period) db := by
  have database : ServiceError.database ≠ e ∨ Covered db.books db.projections := by
    refine h.imp ?_ And.left
    rintro he rfl
    revert he
    decide
  unfold monthly
  apply Tx.avoids_bind (Tx.avoids_read _)
  intro row s read
  have found : db.projections.monthSpends.get? (key, period) = row := congrArg Prod.fst (Except.ok.inj read)
  obtain rfl : db = s := congrArg Prod.snd (Except.ok.inj read)
  cases row with
  | some row => exact Tx.avoids_pure row
  | none =>
    -- every usage event has its counter, so the month has none
    have empty : Covered db.books db.projections → db.books.spent key period = 0 := by
      intro covered
      apply Table.sumWhere_eq_zero
      intro u hu
      rw [Bool.eq_false_iff]
      intro counted
      simp only [Bool.and_eq_true, beq_iff_eq] at counted
      obtain ⟨x, hx⟩ := covered.usageEvents u hu
      rw [counted.1, counted.2, found] at hx
      cases hx
    apply Tx.avoids_bind
    · unfold historicalSpend
      apply Tx.avoids_bind
      · apply Tx.avoids_expect_of
        intro missing
        rcases h with he | ⟨-, representable⟩
        · rintro rfl
          revert he
          decide
        · rw [missing] at representable
          cases representable
      · intro stop s expected
        obtain ⟨next, same⟩ := Tx.expect_ok.1 expected
        obtain rfl : db = s := same
        apply total_avoids
        refine database.imp id fun covered => ?_
        rw [spentBetween_eq db.books key first next, empty covered]
        decide
    · intro spent s summed
      unfold historicalSpend at summed
      obtain ⟨stop, t, expected, totalled⟩ := Tx.bind_ok.1 summed
      obtain ⟨next, same⟩ := Tx.expect_ok.1 expected
      obtain rfl : db = t := same
      obtain ⟨-, value⟩ := total_ok.1 totalled
      obtain rfl : db = s := congrArg Prod.snd value
      obtain rfl : _ = spent := congrArg Prod.fst value
      rw [spentBetween_eq db.books key first next]
      apply Tx.avoids_bind
      · apply Tx.avoids_reject
        intro negative
        rcases database with database | covered
        · exact database
        · rw [empty covered] at negative
          omega
      · intro _ s checked
        cases (Tx.reject_ok.1 checked).2
        apply Tx.avoids_bind
        · exact insertRow_avoids (database.imp id fun _ x hx => ⟨rfl, Table.get?_none_iff.1 found x hx⟩)
        · intro _ _ _
          exact Tx.avoids_pure _

theorem lockAccount_avoids {project : String} (h : e ∈ rangeErrors ∨ ∃ a ∈ db.books.accounts, a.projectId = project) :
    Tx.Avoids e (lockAccount project) db := by
  unfold lockAccount
  apply Tx.avoids_bind (Tx.avoids_read _)
  intro found s read
  cases read
  apply Tx.avoids_expect_of
  intro missing
  rcases h with he | ⟨a, ha, owns⟩
  · rintro rfl
    revert he
    decide
  · have := Table.find_none missing a ha
    simp [owns] at this

theorem lockAccount_ok {project : String} {r : BillingAccount × Db} (h : lockAccount project db = .ok r) :
    r.1 ∈ db.books.accounts ∧ r.1.projectId = project ∧ r.2 = db := by
  unfold lockAccount at h
  rw [findWhere_bind, Tx.expect_ok] at h
  obtain ⟨mem, project⟩ := account_of_find h.1
  exact ⟨mem, project, h.2.symm⟩

/-- An append fails only where the numbers of the account's events end. -/
theorem appendEvent_avoids {call : Call} {account kind aggregate : String} {payload : EventPayload}
    (h : e ∈ rangeErrors ∨ (∃ digests, db.outbox.Sound digests) ∧ Fits (db.outbox.last account + 1)) :
    Tx.Avoids e (appendEvent call account kind aggregate payload) db := by
  have database : ServiceError.database ≠ e ∨ ∃ digests, db.outbox.Sound digests := by
    refine h.imp ?_ And.left
    rintro he rfl
    revert he
    decide
  unfold appendEvent
  apply Tx.avoids_bind (Tx.avoids_read _)
  intro prior s read
  have prior_eq : db.outbox.lastSequence account = prior := congrArg Prod.fst (Except.ok.inj read)
  obtain rfl : db = s := congrArg Prod.snd (Except.ok.inj read)
  have last : db.outbox.last account = prior.getD 0 := congrArg (·.getD 0) prior_eq
  apply Tx.avoids_bind
  · apply Tx.avoids_expect_of
    intro exhausted
    rcases h with he | ⟨-, fits⟩
    · rintro rfl
      revert he
      decide
    · rw [last] at fits
      exact absurd fits (checked_none.1 exhausted)
  intro sequence s expected
  obtain ⟨next, same⟩ := Tx.expect_ok.1 expected
  obtain rfl : db = s := same
  have sequence_eq : prior.getD 0 + 1 = sequence := (checkedAdd_some.1 next).1
  apply Tx.avoids_bind
  · apply insertRow_avoids
    refine database.imp id fun sound => ?_
    obtain ⟨digests, sound⟩ := sound
    intro x hx
    refine ⟨rfl, fun taken => ?_⟩
    obtain ⟨owner, number⟩ := Prod.mk.inj (taken : (x.billingAccountId, x.sequence) = _)
    have number : x.sequence = sequence := number
    have := ((sound.numbered account x.sequence).1 ⟨x, hx, owner, rfl⟩).2
    omega
  intro _ s inserted
  obtain ⟨-, events, -, same⟩ := insertRow_ok.1 inserted
  cases same
  unfold schedule
  apply Tx.avoids_bind (Tx.avoids_read _)
  intro job s read
  have stored : db.outbox.job? account = job := congrArg Prod.fst (Except.ok.inj read)
  obtain rfl : Slot.events.set events db = s := congrArg Prod.snd (Except.ok.inj read)
  apply Tx.avoids_bind
  · apply Tx.avoids_reject
    intro bad
    rcases database with database | ⟨digests, sound⟩
    · exact database
    · have nonneg := sound.last_nonneg account
      cases job with
      | none =>
        simp only [scheduledJob] at bad
        omega
      | some job =>
        have job' := sound.jobs account job stored
        have bounded := job'.bounded
        rw [job'.target] at bounded
        have := job'.nonneg
        simp only [scheduledJob] at bad
        omega
  intro _ _ _
  exact Tx.avoids_write _

/-- A debit that leaves what is available nonnegative passes the guard. -/
theorem guardDebit_avoids {a : BillingAccount} {delta : Int} {x : BillingBalance}
    (hx : db.projections.balances.get? a.id = some x) (fits : Fits x.balanceMicrounits)
    (h : e ∈ rangeErrors ∨ 0 ≤ x.heldMicrounits ∧ Funded a (x.balanceMicrounits - x.heldMicrounits + delta)) :
    Tx.Avoids e (guardDebit a delta) db := by
  unfold guardDebit
  split
  · rename_i debit
    obtain ⟨negative, enforced⟩ := debit
    have read : balanceAndHeld a.id db = .ok ((x.balanceMicrounits, x.heldMicrounits), db) := by
      unfold balanceAndHeld
      rw [Tx.bind_of_ok (account_found hx)]
      rfl
    apply Tx.avoids_bind
    · unfold Tx.Avoids
      rw [read]
      exact nofun
    · intro pair s found
      rw [read] at found
      cases found
      apply Tx.avoids_reject
      intro refused
      rcases h with he | ⟨held, funds⟩
      · rintro rfl
        revert he
        decide
      · have available := funds enforced
        have first : checkedSub x.balanceMicrounits x.heldMicrounits =
            some (x.balanceMicrounits - x.heldMicrounits) := by
          refine checkedSub_some.2 ⟨rfl, ?_⟩
          unfold Fits at fits ⊢
          unfold i64Min at *
          omega
        have second : checkedAdd (x.balanceMicrounits - x.heldMicrounits) delta =
            some (x.balanceMicrounits - x.heldMicrounits + delta) := by
          refine checkedAdd_some.2 ⟨rfl, ?_⟩
          unfold Fits at fits ⊢
          unfold i64Min at *
          omega
        simp only [first, second, Option.bind_eq_bind, Option.bind_some, Option.all_some, decide_eq_true_eq] at refused
        omega
  · exact Tx.avoids_pure ()

/-- What the posting of a charge needs of the state: the funds, new ids, and a number for its event. -/
structure Postable (db : Db) (t : Totals) (call : Call) (a : BillingAccount) (amount : Int) (p : Posting) : Prop where
  account : a ∈ db.books.accounts
  held : 0 ≤ t.held a.id
  funds : Funded a (t.balance a.id - t.held a.id - amount)
  transaction : Insertable Slot.transactions (p.transaction call a) db
  customer : Insertable Slot.entries (p.customerEntry call a) db
  counter : Insertable Slot.entries (p.counterEntry call a) db
  outbox : ∃ digests, db.outbox.Sound digests
  numbered : Fits (db.outbox.last a.id + 1)

/-- The ids of the two entries of a posting differ. -/
theorem entry_ids (c c' : String) : "entry-customer-" ++ c ≠ "entry-counter-" ++ c' := by
  intro same
  have := congrArg String.toList same
  simp [String.toList_append] at this

/-- A charge whose account counter exists fails for its range only where the balance leaves it. -/
theorem postCharge_avoids {call : Call} {a : BillingAccount} {amount : Int} {row : Reservation} {x : BillingBalance}
    (shows : db.projections.Shows t) (hx : db.projections.balances.get? a.id = some x)
    (unique : ∀ y ∈ db.books.accounts, y.projectId = a.projectId → y = a) (fits : Fits amount)
    (room : Fits (t.balance a.id - amount))
    (h : e ∈ rangeErrors ∨ Postable db t call a amount (settledPosting row amount)) :
    Tx.Avoids e (postCharge call a amount (settledPosting row amount)) db := by
  have database : ServiceError.database ≠ e ∨ Postable db t call a amount (settledPosting row amount) := by
    refine h.imp ?_ id
    rintro he rfl
    revert he
    decide
  unfold postCharge
  split
  · unfold insertBalancedEntries
    have small : ¬(settledPosting row amount).customerDelta = i64Min := by
      show ¬-amount = i64Min
      have := fits.2
      unfold i64Max at this
      unfold i64Min
      omega
    apply Tx.avoids_bind (Tx.avoids_reject fun h => absurd h small)
    intro _ s h'
    cases (Tx.reject_ok.1 h').2
    -- statement by statement: each avoids the error, and leaves what the next one needs
    apply Tx.avoids_bind (lockAccount_avoids (h.imp id fun post => ⟨a, post.account, rfl⟩))
    intro locked s h'
    obtain ⟨mem, project, same⟩ := lockAccount_ok h'
    obtain rfl : db = s := same.symm
    obtain rfl : locked = a := unique locked mem project
    have shown := shows.balances x (Table.get?_mem hx)
    rw [show x.billingAccountId = locked.id from Table.get?_key hx] at shown
    apply Tx.avoids_bind
    · apply guardDebit_avoids hx shown.2.2.1
      refine h.imp id fun post => ?_
      rw [shown.1, shown.2.1]
      exact ⟨post.held, post.funds⟩
    intro _ s h'
    obtain ⟨p, rfl, shown, keep, -⟩ := guardDebit_spec h' shows fun missing => by rw [hx] at missing; cases missing
    obtain ⟨y, hy⟩ := keep.balances _ x hx
    have balance : y.balanceMicrounits = t.balance locked.id := by
      obtain ⟨eb, -⟩ := shown.balances y (Table.get?_mem hy)
      rw [show y.billingAccountId = locked.id from Table.get?_key hy] at eb
      exact eb
    apply Tx.avoids_bind
    -- the debit itself, in range by `room`
    · have sum : Fits (y.balanceMicrounits + -amount) := by
        rw [balance]
        exact room
      have moved : add y.balanceMicrounits (-amount) false (db.withProjections p) =
          .ok (y.balanceMicrounits + -amount, _) :=
        add_fits sum nofun
      unfold Tx.Avoids changeBalance
      rw [Tx.bind_of_ok (account_found hy), show (settledPosting row amount).customerDelta = -amount from rfl,
        Tx.bind_of_ok moved]
      exact nofun
    intro _ s h'
    obtain ⟨q, rfl, -⟩ := changeBalance_spec h' shown fun missing => by
      rw [show (db.withProjections p).projections.balances.get? locked.id = some y from hy] at missing
      cases missing
    apply Tx.avoids_bind
    · apply insertRow_avoids
      rcases h with he | post
      · left
        rintro rfl
        revert he
        decide
      · exact .inr post.transaction
    intro _ s h'
    obtain ⟨-, ts, -, same⟩ := insertRow_ok.1 h'
    cases same
    apply Tx.avoids_bind
    · apply insertRow_avoids
      exact database.imp id fun post => post.customer
    intro _ s h'
    obtain ⟨-, es, inserted, same⟩ := insertRow_ok.1 h'
    cases same
    apply Tx.avoids_bind
    · apply insertRow_avoids
      refine database.imp id fun post => ?_
      intro x hx
      rcases (Table.mem_insert? inserted).1 hx with rfl | hx
      · exact ⟨rfl, entry_ids _ _⟩
      · exact post.counter x hx
    intro _ s h'
    obtain ⟨-, es', -, same⟩ := insertRow_ok.1 h'
    cases same
    exact appendEvent_avoids (h.imp id fun post => ⟨post.outbox, post.numbered⟩)
  · exact Tx.avoids_pure ()

/-- A charge appends at most one event. -/
theorem postCharge_outbox {call : Call} {a : BillingAccount} {amount : Int} {p : Posting} {r : Unit × Db}
    (h : postCharge call a amount p db = .ok r) (shows : db.projections.Shows t) {x : BillingBalance}
    (hx : db.projections.balances.get? a.id = some x)
    (unique : ∀ y ∈ db.books.accounts, y.projectId = a.projectId → y = a) :
    r.2.outbox = db.outbox ∨ Outbox.Appended a.id db.outbox r.2.outbox := by
  unfold postCharge at h
  split at h
  · obtain ⟨b', q, o, done, -, -, -, -, -, -, appended⟩ := insertBalancedEntries_spec h shows unique fun missing => by
      rw [hx] at missing
      cases missing
    rw [done]
    exact .inr appended
  · cases Tx.pure_ok.1 h
    exact .inl rfl

/-! ## Settlements -/

variable {call : Call} {a : BillingAccount} {row : Reservation} {request : SettleRequest}

/-- What a settlement of this usage costs. -/
def settledCost (row : Reservation) (request : SettleRequest) : Int :=
  row.price.exactCost request.inputTokens request.outputTokens

/-- The month's spend of the key and the balance of the account have room for the cost. -/
def Room (b : Books) (now : Int) (a : BillingAccount) (row : Reservation) (request : SettleRequest) : Prop :=
  Fits (b.spent row.apiKeyId (Calendar.firstOfMonth (Calendar.ofTimestamp now)) + settledCost row request) ∧
    Fits (b.balance a.id - settledCost row request)

theorem wellFormed_tokens (h : request.wellFormed = true) : 0 ≤ request.inputTokens ∧ 0 ≤ request.outputTokens := by
  unfold SettleRequest.wellFormed at h
  simp only [Bool.and_eq_true, decide_eq_true_eq] at h
  exact ⟨h.1.1.1.1.1, h.1.1.1.1.2⟩

/-- Usage within the limits of a reservation is priced exactly, and not above what is reserved. -/
theorem Books.Sound.settled_cost {b : Books} (sound : b.Sound) (hr : row ∈ b.reservations)
    (hi : 0 ≤ request.inputTokens) (ho : 0 ≤ request.outputTokens)
    (hin : request.inputTokens ≤ row.spec.inputTokenLimit) (hout : request.outputTokens ≤ row.spec.outputTokenLimit) :
    usageCostMicrounits row.price request.inputTokens request.outputTokens = .ok (settledCost row request) ∧
      settledCost row request ≤ row.reservedMicrounits := by
  obtain ⟨priced, reserved⟩ := sound.reservations row hr
  obtain ⟨c, cost, le⟩ := cost_mono priced reserved hi ho hin hout
  obtain ⟨-, -, -, -, -, rfl⟩ := cost_ok.1 cost
  exact ⟨cost, le⟩

/-- The identifiers a call draws are new. -/
structure Call.Fresh (call : Call) (b : Books) : Prop where
  transaction : ∀ t ∈ b.transactions, t.id ≠ "txn-" ++ call.txnUuid
  customer : ∀ x ∈ b.entries, x.id ≠ "entry-customer-" ++ call.customerUuid
  counter : ∀ x ∈ b.entries, x.id ≠ "entry-counter-" ++ call.counterUuid

/-- Nothing has taken what the settlement of a reservation is recorded under. -/
structure Unrecorded (b : Books) (row : Reservation) : Prop where
  event : ∀ u ∈ b.usageEvents, u.eventId ≠ "evt-reservation-" ++ row.id
  idempotencyKey : ∀ t ∈ b.transactions, t.idempotencyKey ≠ "reservation:" ++ row.id

/-- The usage is within the limits of a dispatched reservation. -/
structure Covers (row : Reservation) (request : SettleRequest) : Prop where
  dispatched : row.state = .dispatched
  wellFormed : request.wellFormed = true
  input : request.inputTokens ≤ row.spec.inputTokenLimit
  output : request.outputTokens ≤ row.spec.outputTokenLimit

/-- What a settlement needs of the state besides room for its sums. -/
structure Settleable (db : Db) (call : Call) (a : BillingAccount) (row : Reservation)
    (request : SettleRequest) : Prop where
  covers : Covers row request
  month : (Calendar.checkedAddMonth (Calendar.firstOfMonth (Calendar.ofTimestamp call.now))).isSome = true
  unrecorded : Unrecorded db.books row
  fresh : call.Fresh db.books
  funds : Funded a (db.books.available a.id)
  outbox : ∃ digests, db.outbox.Sound digests
  numbered : Fits (db.outbox.last a.id + 2)

/-- Where the sums have room, a settlement never fails for the range of a number; where it has all it needs, it
never fails. -/
theorem settleLocked_avoids (g : Good db.books db.projections) (sound : db.books.Sound) (charging : db.books.Charging)
    (ha : a ∈ db.books.accounts) (hp : a.projectId = row.projectId) (hr : row ∈ db.books.reservations)
    (room : Room db.books call.now a row request) (h : e ∈ rangeErrors ∨ Settleable db call a row request) :
    Tx.Avoids e (settleLocked call a row request) db := by
  have database : ServiceError.database ≠ e ∨ Settleable db call a row request := by
    refine h.imp ?_ id
    rintro he rfl
    revert he
    decide
  have unknown : ServiceError.invalid "settlement requires known, nonnegative usage and a final outcome" ≠ e ∨
      Covers row request := by
    refine h.imp ?_ Settleable.covers
    rintro he rfl
    revert he
    decide
  have conflict : (∀ m, ServiceError.conflict m ≠ e) ∨ Covers row request := by
    refine h.imp ?_ Settleable.covers
    rintro he m rfl
    simp [rangeErrors] at he
  unfold settleLocked
  apply Tx.avoids_bind
  · apply Tx.avoids_reject
    intro malformed
    rcases unknown with unknown | covers
    · exact unknown
    · rw [covers.wellFormed] at malformed
      cases malformed
  intro _ s h'
  obtain ⟨wf, h'⟩ := Tx.reject_ok.1 h'
  obtain rfl : db = s := congrArg Prod.snd h'
  obtain ⟨hi, ho⟩ := wellFormed_tokens (by simpa using wf)
  split
  · rename_i settled
    apply Tx.avoids_bind
    · apply Tx.avoids_reject
      intro _
      rcases conflict with conflict | covers
      · exact conflict _
      · rw [covers.dispatched] at settled
        cases settled
    intro _ _ _
    exact Tx.avoids_pure row
  apply Tx.avoids_bind
  · apply Tx.avoids_reject
    intro state
    rcases conflict with conflict | covers
    · exact conflict _
    · exact absurd covers.dispatched state
  intro _ s h'
  obtain ⟨state, h'⟩ := Tx.reject_ok.1 h'
  obtain rfl : db = s := congrArg Prod.snd h'
  have dispatched : row.state = .dispatched := not_not.1 state
  apply Tx.avoids_bind
  · apply Tx.avoids_reject
    intro exceeds
    rcases conflict with conflict | covers
    · exact conflict _
    · have := covers.input
      have := covers.output
      omega
  intro _ s h'
  obtain ⟨limits, h'⟩ := Tx.reject_ok.1 h'
  obtain rfl : db = s := congrArg Prod.snd h'
  rw [not_or, not_lt, not_lt] at limits
  obtain ⟨cost, le⟩ := sound.settled_cost hr hi ho limits.1 limits.2
  have nonneg : 0 ≤ settledCost row request := cost_nonneg (sound.reservations row hr).1 cost
  rw [cost]
  show Tx.Avoids e (monthly _ _ >>= _) db
  apply Tx.avoids_bind (monthly_avoids (Calendar.firstOfMonth_idem _) (h.imp id fun st => ⟨g.covered, st.month⟩))
  intro spend s h'
  obtain ⟨p, rfl, shows, keep, found, balances, keyHolds⟩ :=
    monthly_spec h' g.shows (Calendar.firstOfMonth_idem _) (fun _ => rfl)
  -- the holds of the account and of the key contain the reservation
  have owner : a.id = row.billingAccountId := g.owned.account_eq ha hr hp
  obtain ⟨⟨x, hx⟩, ⟨y, hy⟩⟩ := g.covered.reservations row hr
  rw [← owner, ← balances] at hx
  rw [← keyHolds] at hy
  have reserved := sound.held_nonneg hr
  have part : row.reservedMicrounits ≤ db.books.held a.id :=
    Table.le_sumWhere (fun _ h _ => sound.held_nonneg h) hr (by simp [owner, dispatched, ReservationState.held])
  have keyPart : row.reservedMicrounits ≤ db.books.keyHeld row.apiKeyId :=
    Table.le_sumWhere (fun _ h _ => sound.held_nonneg h) hr (by simp [dispatched, ReservationState.held])
  apply Tx.avoids_bind
  · have total : ∃ s, changeHold a.id row.apiKeyId (-row.reservedMicrounits) (db.withProjections p) = .ok ((), s) :=
      changeHold_total shows hx hy (neg_nonpos.2 reserved) (by change 0 ≤ db.books.held a.id + _; omega)
        (by change 0 ≤ db.books.keyHeld row.apiKeyId + _; omega)
    obtain ⟨s, h'⟩ := total
    unfold Tx.Avoids
    rw [h']
    intro avoided
    cases avoided
  intro _ s h'
  obtain ⟨q, rfl, shows', keep', ⟨x', hx'⟩, -, months, -, -⟩ :=
    changeHold_spec h' shows (fun _ => ⟨rfl, rfl⟩) (fun _ => rfl)
  apply Tx.avoids_bind
  · apply insertRow_avoids
    exact database.imp id fun st u hu => ⟨rfl, st.unrecorded.event u hu⟩
  intro _ s h'
  obtain ⟨-, us, inserted, h'⟩ := insertRow_ok.1 h'
  cases h'
  -- the spend read before is still the counter of the month
  obtain ⟨spent, -⟩ := shows.months spend (Table.get?_mem found)
  obtain ⟨key, month⟩ := Prod.mk.inj (Table.get?_key found : (spend.apiKeyId, spend.month) = _)
  rw [key, month] at spent
  have sum : Fits (spend.spentMicrounits + settledCost row request) := by
    rw [spent]
    exact room.1
  have positive : 0 ≤ spend.spentMicrounits := by
    rw [spent]
    exact Table.sumWhere_nonneg fun u hu _ => charging u hu
  apply Tx.avoids_bind
  · unfold Tx.Avoids changeSpend
    rw [Tx.bind_of_ok (add_fits sum fun _ => add_nonneg positive nonneg)]
    intro avoided
    cases avoided
  intro _ s h'
  obtain ⟨q', rfl, shows'', -, balances', -⟩ := changeSpend_spec h' shows' (by rw [key, month]; exact months ▸ found)
  apply Tx.avoids_bind (Tx.avoids_write _)
  intro _ s h'
  cases Tx.write_ok.1 h'
  have counter : q'.balances.get? a.id = some x' := by
    rw [balances']
    exact hx'
  have held : (db.books.totals.addHold a.id row.apiKeyId (-row.reservedMicrounits)).held a.id =
      db.books.held a.id - row.reservedMicrounits := by
    simp [Totals.addHold, Books.totals, sub_eq_add_neg]
  apply Tx.avoids_bind
  · refine postCharge_avoids shows'' counter (fun y hy hyp => g.owned.unique y hy a ha hyp) (cost_fits cost) ?_ ?_
    · exact room.2
    refine h.imp id fun st => ⟨ha, ?_, ?_, ?_, ?_, ?_, st.outbox, ?_⟩
    · show 0 ≤ (db.books.totals.addHold a.id row.apiKeyId (-row.reservedMicrounits)).held a.id
      rw [held]
      omega
    · -- the hold that is given up covers the charge
      intro enforced
      have available := st.funds enforced
      show 0 ≤ db.books.balance a.id - (db.books.totals.addHold a.id row.apiKeyId
        (-row.reservedMicrounits)).held a.id - _
      rw [held]
      have : db.books.available a.id = db.books.balance a.id - db.books.held a.id := rfl
      omega
    · exact fun t ht => ⟨beq_eq_false_iff_ne.2 (st.unrecorded.idempotencyKey t ht).symm, st.fresh.transaction t ht⟩
    · exact fun x hx => ⟨rfl, st.fresh.customer x hx⟩
    · exact fun x hx => ⟨rfl, st.fresh.counter x hx⟩
    · have numbered := st.numbered
      obtain ⟨digests, sound⟩ := st.outbox
      have := sound.last_nonneg a.id
      exact fits_zero.of_between numbered (by show 0 ≤ db.outbox.last a.id + 1; omega)
        (by show db.outbox.last a.id + 1 ≤ _; omega)
  intro _ s h'
  have appended := postCharge_outbox h' shows'' counter fun y hy hyp => g.owned.unique y hy a ha hyp
  apply Tx.avoids_bind
  · apply appendEvent_avoids
    refine h.imp id fun st => ?_
    obtain ⟨digests, outbox⟩ := st.outbox
    have low := outbox.last_nonneg a.id
    rcases appended with same | appended
    · rw [show s.outbox = db.outbox from same]
      exact ⟨⟨digests, outbox⟩, fits_zero.of_between st.numbered (by omega) (by omega)⟩
    · refine ⟨⟨digests, appended.sound outbox⟩, ?_⟩
      have next : s.outbox.last a.id = db.outbox.last a.id + 1 := appended.last
      rw [next, add_assoc]
      exact st.numbered
  intro _ _ _
  exact Tx.avoids_pure _

/-- A settlement that succeeds had room for its cost. -/
theorem settleLocked_room (g : Good db.books db.projections) (sound : db.books.Sound) (ha : a ∈ db.books.accounts)
    (hp : a.projectId = row.projectId) (hr : row ∈ db.books.reservations) (dispatched : row.state = .dispatched)
    {r : Reservation × Db} (h : settleLocked call a row request db = .ok r) :
    Room db.books call.now a row request ∧ r.1.settledMicrounits = some (settledCost row request) := by
  obtain ⟨amount, us, b', p, o, rfl, wf, -, hin, hout, cost, hi, charged, shows, covered, -⟩ :=
    settleLocked_inv g ha hp hr (by rw [dispatched]; decide) h
  obtain ⟨tokens, tokens'⟩ := wellFormed_tokens wf
  obtain ⟨exact_, -⟩ := sound.settled_cost hr tokens tokens' hin hout
  rw [exact_] at cost
  obtain rfl : settledCost row request = amount := Except.ok.inj cost
  have owner : a.id = row.billingAccountId := g.owned.account_eq ha hr hp
  have nonneg : 0 ≤ settledCost row request := cost_nonneg (sound.reservations row hr).1 exact_
  have totals := (charged.totals (by simp [settledPosting])).trans
    (congrArg (fun t => Totals.addBalance t a.id _) (totals_settle hr dispatched hi))
  have recorded : settledUsage call.now a row request (settledCost row request) ∈ b'.usageEvents := by
    obtain ⟨ts, es, rfl⟩ := charged.eq
    exact (Table.mem_insert? hi).2 (.inl rfl)
  have stored : settledReservation call.now row request (settledCost row request) ∈ b'.reservations := by
    obtain ⟨ts, es, rfl⟩ := charged.eq
    exact Table.mem_put.2 (.inr ⟨rfl, row, hr, rfl⟩)
  refine ⟨⟨?_, ?_⟩, rfl⟩
  · obtain ⟨x, hx⟩ := covered.usageEvents _ recorded
    obtain ⟨spent, fits, -⟩ := shows.months x (Table.get?_mem hx)
    obtain ⟨key, month⟩ := Prod.mk.inj (Table.get?_key hx : (x.apiKeyId, x.month) = _)
    rw [spent, totals, key, month] at fits
    simpa [Totals.addBalance, Totals.addSpent, Totals.addHold, Books.totals, settledUsage] using fits
  · obtain ⟨⟨x, hx⟩, -⟩ := covered.reservations _ stored
    obtain ⟨balance, -, fits, -⟩ := shows.balances x (Table.get?_mem hx)
    rw [show x.billingAccountId = a.id from (Table.get?_key hx).trans owner.symm] at balance
    rw [balance, totals] at fits
    by_cases pos : 0 < settledCost row request
    · simpa [Totals.addBalance, Totals.addSpent, Totals.addHold, Books.totals, settledPosting, pos,
        sub_eq_add_neg] using fits
    · have zero : settledCost row request = 0 := by omega
      simpa [Totals.addBalance, Totals.addSpent, Totals.addHold, Books.totals, settledPosting, zero] using fits

end

/-- Price arithmetic is exact at the admitted token counts whose cost leaves room for rounding up. In every run
usage within the limits of a reservation costs what its frozen price says and no more than is reserved, and its
settlement fails for the range of a number only where the month's spend or the balance has no room for the cost. -/
theorem Op.runAll_priced_exactly (digests : Digests) (ops : List Op) :
    let db := Op.runAll digests ops Db.empty
    (∀ (m : Model) (input output : Int), m.validate = .ok () → 0 ≤ input → 0 ≤ output →
      input + output ≤ m.maxContextTokens →
      (PricedExactly m input output ↔ m.exactCost input output ≤ maxCost)) ∧
    ∀ call a row request, a ∈ db.books.accounts → a.projectId = row.projectId → row ∈ db.books.reservations →
      row.state = .dispatched →
      0 ≤ request.inputTokens → 0 ≤ request.outputTokens → request.inputTokens ≤ row.spec.inputTokenLimit →
      request.outputTokens ≤ row.spec.outputTokenLimit →
      (PricedExactly row.price request.inputTokens request.outputTokens ↔ settledCost row request ≤ maxCost) ∧
      settledCost row request ≤ row.reservedMicrounits ∧
      (Room db.books call.now a row request → ∀ e ∈ rangeErrors, settleLocked call a row request db ≠ .error e) ∧
      ∀ r, settleLocked call a row request db = .ok r →
        Room db.books call.now a row request ∧ r.1.settledMicrounits = some (settledCost row request) := by
  intro db
  have good : Good db.books db.projections := Op.runAll_good digests ops Good.empty
  have sound : db.books.Sound := Op.runAll_sound digests ops
  constructor
  · intro m input output valid hi ho sum
    exact pricedExactly_iff (validate_priced valid) hi ho (validate_fits valid hi ho sum)
  · intro call a row request ha hp hr dispatched hi ho hin hout
    obtain ⟨cost, le⟩ := sound.settled_cost hr hi ho hin hout
    refine ⟨pricedExactly_iff (sound.reservations row hr).1 hi ho (cost_fits cost), le, fun room e he => ?_,
      fun r h => ?_⟩
    · exact settleLocked_avoids good sound (Op.runAll_charging digests ops) ha hp hr room (.inl he)
    · exact settleLocked_room good sound ha hp hr dispatched h

/-- The dearest model of two tokens. -/
def dearestModel : Model :=
  { id := "dearest"
    displayName := "Dearest"
    maxContextTokens := 2
    inputPerMillionTokens := Money.cny 4611686018427387903
    outputPerMillionTokens := Money.cny 4611686018427387903
    priceVersion := "1" }

/-- The cost of one token each way of an admitted model is in range, its rounding is not. -/
theorem dearestModel_wraps : dearestModel.validate = .ok () ∧ (1 : Int) + 1 ≤ dearestModel.maxContextTokens ∧
    usageCostMicrounits dearestModel 1 1 = .ok 9223372036854775806 ∧
      ceilMinorUnits 9223372036854775806 = -9223372036853 ∧
    ¬PricedExactly dearestModel 1 1 := by
  refine ⟨by decide, by decide, by decide, by decide, fun h => ?_⟩
  have last := h.ceilFits (dearestModel.exactCost 1 1 + microsPerMinorUnit) (by decide)
  exact absurd last (by decide)

end Xscope
