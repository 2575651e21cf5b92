/-
What the counter functions do to the projections, stated against totals that may run ahead of
the books: inside a transaction a counter is moved before the rows it counts are written. A
counter that is missing is filled from the books, so the totals must agree with the books there.
-/
import Xscope.Billing.Projection

namespace Xscope

/-! ## Totals -/

/-- What every counter should show. -/
@[ext] structure Totals where
  balance : String → Int
  held : String → Int
  keyHeld : String → Int
  spent : String → Int → Int

/-- The totals of the books. -/
def Books.totals (b : Books) : Totals := ⟨b.balance, b.held, b.keyHeld, b.spent⟩

namespace Totals

def addHold (t : Totals) (account key : String) (delta : Int) : Totals :=
  { t with
    held := fun a => t.held a + if a = account then delta else 0
    keyHeld := fun k => t.keyHeld k + if k = key then delta else 0 }

def addBalance (t : Totals) (account : String) (delta : Int) : Totals :=
  { t with balance := fun a => t.balance a + if a = account then delta else 0 }

def addSpent (t : Totals) (key : String) (month delta : Int) : Totals :=
  { t with spent := fun k m => t.spent k m + if k = key ∧ m = month then delta else 0 }

end Totals

@[simp] theorem Totals.addHold_zero (t : Totals) (account key : String) : t.addHold account key 0 = t := by
  simp [Totals.addHold]

/-! ## Projections that show totals -/

/-- Every counter that exists is in range, shows its total, and a month counter is for a month. -/
structure Projections.Shows (p : Projections) (t : Totals) : Prop where
  balances : ∀ row ∈ p.balances, row.balanceMicrounits = t.balance row.billingAccountId ∧
    row.heldMicrounits = t.held row.billingAccountId ∧ Fits row.balanceMicrounits ∧ Fits row.heldMicrounits
  keyHolds : ∀ row ∈ p.keyHolds, row.heldMicrounits = t.keyHeld row.apiKeyId ∧ Fits row.heldMicrounits
  months : ∀ row ∈ p.monthSpends, row.spentMicrounits = t.spent row.apiKeyId row.month ∧ Fits row.spentMicrounits ∧
    Calendar.firstOfMonth row.month = row.month

/-- No counter is lost. -/
structure Projections.Keeps (p p' : Projections) : Prop where
  balances : ∀ k row, p.balances.get? k = some row → ∃ row', p'.balances.get? k = some row'
  keyHolds : ∀ k row, p.keyHolds.get? k = some row → ∃ row', p'.keyHolds.get? k = some row'
  months : ∀ k row, p.monthSpends.get? k = some row → ∃ row', p'.monthSpends.get? k = some row'

theorem Projections.Keeps.refl (p : Projections) : p.Keeps p :=
  ⟨fun _ r h => ⟨r, h⟩, fun _ r h => ⟨r, h⟩, fun _ r h => ⟨r, h⟩⟩

theorem Projections.Keeps.trans {p q r : Projections} (h1 : p.Keeps q) (h2 : q.Keeps r) : p.Keeps r := by
  refine ⟨fun k x hx => ?_, fun k x hx => ?_, fun k x hx => ?_⟩
  · obtain ⟨y, hy⟩ := h1.balances k x hx; exact h2.balances k y hy
  · obtain ⟨y, hy⟩ := h1.keyHolds k x hx; exact h2.keyHolds k y hy
  · obtain ⟨y, hy⟩ := h1.months k x hx; exact h2.months k y hy

/-- An account counter that is missing now was missing before. -/
theorem Projections.Keeps.missing {p p' : Projections} (h : p.Keeps p') {k : String} (hn : p'.balances.get? k = none) :
    p.balances.get? k = none := by
  cases hx : p.balances.get? k with
  | none => rfl
  | some x =>
    obtain ⟨y, hy⟩ := h.balances k x hx
    rw [hn] at hy; cases hy

theorem Projections.keeps_putBalance (p : Projections) (row : BillingBalance) :
    p.Keeps { p with balances := p.balances.put row } :=
  ⟨fun _ _ h => Table.put_keeps row h, fun _ r h => ⟨r, h⟩, fun _ r h => ⟨r, h⟩⟩

theorem Projections.keeps_putKeyHold (p : Projections) (row : BillingKeyHold) :
    p.Keeps { p with keyHolds := p.keyHolds.put row } :=
  ⟨fun _ r h => ⟨r, h⟩, fun _ _ h => Table.put_keeps row h, fun _ r h => ⟨r, h⟩⟩

theorem Projections.keeps_putMonth (p : Projections) (row : BillingMonthSpend) :
    p.Keeps { p with monthSpends := p.monthSpends.put row } :=
  ⟨fun _ r h => ⟨r, h⟩, fun _ r h => ⟨r, h⟩, fun _ _ h => Table.put_keeps row h⟩

/-- The database with other projections. -/
def Db.withProjections (db : Db) (p : Projections) : Db := { db with projections := p }

@[simp] theorem withProjections_books (db : Db) (p : Projections) : (db.withProjections p).books = db.books := rfl
@[simp] theorem withProjections_outbox (db : Db) (p : Projections) : (db.withProjections p).outbox = db.outbox := rfl
@[simp] theorem withProjections_projections (db : Db) (p : Projections) : (db.withProjections p).projections = p := rfl
@[simp] theorem withProjections_twice (db : Db) (p q : Projections) :
    (db.withProjections p).withProjections q = db.withProjections q := rfl
@[simp] theorem withProjections_self (db : Db) : db.withProjections db.projections = db := rfl

/-! ## The guards -/

@[simp] theorem lockAccount_bind {α : Type} {project : String} {f : BillingAccount → DbTx α} {db : Db} {r : α × Db} :
    (lockAccount project >>= f) db = .ok r ↔
      ∃ a, db.books.accounts.find (fun a => a.projectId == project) = some a ∧ f a db = .ok r := by
  unfold lockAccount
  rw [Tx.bind_ok]
  simp only [findWhere_bind, Tx.expect_ok]
  constructor
  · rintro ⟨a, s, ⟨h1, h2⟩, h3⟩; cases h2; exact ⟨a, h1, h3⟩
  · rintro ⟨a, h1, h3⟩; exact ⟨a, db, ⟨h1, rfl⟩, h3⟩

@[simp] theorem checkNonneg_bind {α : Type} {value : Int} {f : Unit → DbTx α} {db : Db} {r : α × Db} :
    (checkNonneg value >>= f) db = .ok r ↔ 0 ≤ value ∧ f () db = .ok r := by
  unfold checkNonneg; rw [Tx.reject_bind, not_lt]

@[simp] theorem historicalBalanceAndHeld_bind {α : Type} {id : String} {f : Int × Int → DbTx α} {db : Db} {r : α × Db} :
    (historicalBalanceAndHeld id >>= f) db = .ok r ↔
      Fits (db.books.balance id) ∧ Fits (db.books.held id) ∧ f (db.books.balance id, db.books.held id) db = .ok r := by
  rw [Tx.bind_ok]
  unfold historicalBalanceAndHeld
  simp only [total_bind, Tx.pure_ok]
  constructor
  · rintro ⟨_, _, ⟨h1, h2, h3⟩, hf⟩; cases h3; exact ⟨h1, h2, hf⟩
  · rintro ⟨h1, h2, hf⟩; exact ⟨_, _, ⟨h1, h2, rfl⟩, hf⟩

@[simp] theorem historicalSpend_bind {α : Type} {id : String} {period : Int} {f : Int → DbTx α} {db : Db} {r : α × Db} :
    (historicalSpend id period >>= f) db = .ok r ↔ ∃ stop, Calendar.checkedAddMonth period = some stop ∧
      Fits (db.books.spentBetween id (Calendar.midnight period) (Calendar.midnight stop)) ∧
      f (db.books.spentBetween id (Calendar.midnight period) (Calendar.midnight stop)) db = .ok r := by
  rw [Tx.bind_ok]
  unfold historicalSpend
  simp only [Tx.expect_bind, total_ok]
  constructor
  · rintro ⟨_, _, ⟨stop, h1, h2, h3⟩, hf⟩; cases h3; exact ⟨stop, h1, h2, hf⟩
  · rintro ⟨stop, h1, h2, hf⟩; exact ⟨_, _, ⟨stop, h1, h2, rfl⟩, hf⟩

@[simp] theorem add_bind {α : Type} {value delta : Int} {nonneg : Bool} {f : Int → DbTx α} {db : Db} {r : α × Db} :
    (add value delta nonneg >>= f) db = .ok r ↔
      Fits (value + delta) ∧ (nonneg = true → 0 ≤ value + delta) ∧ f (value + delta) db = .ok r := by
  unfold add
  rw [Tx.expect_bind]
  simp only [Option.filter_eq_some_iff, checkedAdd, checked_some]
  constructor
  · rintro ⟨n, ⟨⟨rfl, hf⟩, hp⟩, h⟩
    refine ⟨hf, fun hn => ?_, h⟩
    rw [hn] at hp; simpa using hp
  · rintro ⟨hf, hp, h⟩
    refine ⟨_, ⟨⟨rfl, hf⟩, ?_⟩, h⟩
    cases nonneg with
    | false => rfl
    | true => simpa using hp rfl

/-! ## Filling a missing counter -/

theorem account_spec {id : String} {t : Totals} {db : Db} {r : BillingBalance × Db} (h : account id db = .ok r)
    (hs : db.projections.Shows t)
    (ht : db.projections.balances.get? id = none → t.balance id = db.books.balance id ∧ t.held id = db.books.held id) :
    ∃ p, r.2 = db.withProjections p ∧ p.Shows t ∧ db.projections.Keeps p ∧ p.balances.get? id = some r.1 ∧
      p.keyHolds = db.projections.keyHolds ∧ p.monthSpends = db.projections.monthSpends := by
  unfold account at h
  rw [findById_bind] at h
  cases hg : db.projections.balances.get? id with
  | some row =>
    rw [show (Slot.balances.get db).get? id = some row from hg] at h
    cases Tx.pure_ok.1 h
    exact ⟨db.projections, rfl, hs, .refl _, hg, rfl, rfl⟩
  | none =>
    rw [show (Slot.balances.get db).get? id = none from hg] at h
    simp only [historicalBalanceAndHeld_bind, checkNonneg_bind, insertRow_bind, Tx.pure_ok] at h
    obtain ⟨fb, fh, -, -, tb, hi, rfl⟩ := h
    obtain ⟨e1, e2⟩ := ht hg
    refine ⟨{ db.projections with balances := tb }, rfl, ⟨fun x hx => ?_, hs.keyHolds, hs.months⟩,
      ⟨fun k x hx => Table.insert?_keeps hi hx, (Projections.Keeps.refl _).keyHolds, (Projections.Keeps.refl _).months⟩,
      Table.get?_insert?_self hi, rfl, rfl⟩
    rcases (Table.mem_insert? hi).1 hx with rfl | hx
    · exact ⟨e1.symm, e2.symm, fb, fh⟩
    · exact hs.balances x hx

theorem keyHold_spec {id : String} {t : Totals} {db : Db} {r : BillingKeyHold × Db} (h : keyHold id db = .ok r)
    (hs : db.projections.Shows t)
    (ht : db.projections.keyHolds.get? id = none → t.keyHeld id = db.books.keyHeld id) :
    ∃ p, r.2 = db.withProjections p ∧ p.Shows t ∧ db.projections.Keeps p ∧ p.keyHolds.get? id = some r.1 ∧
      p.balances = db.projections.balances ∧ p.monthSpends = db.projections.monthSpends := by
  unfold keyHold at h
  rw [findById_bind] at h
  cases hg : db.projections.keyHolds.get? id with
  | some row =>
    rw [show (Slot.keyHolds.get db).get? id = some row from hg] at h
    cases Tx.pure_ok.1 h
    exact ⟨db.projections, rfl, hs, .refl _, hg, rfl, rfl⟩
  | none =>
    rw [show (Slot.keyHolds.get db).get? id = none from hg] at h
    simp only [historicalKeyHold, total_bind, checkNonneg_bind, insertRow_bind, Tx.pure_ok] at h
    obtain ⟨fh, -, -, tk, hi, rfl⟩ := h
    refine ⟨{ db.projections with keyHolds := tk }, rfl, ⟨hs.balances, fun x hx => ?_, hs.months⟩,
      ⟨(Projections.Keeps.refl _).balances, fun k x hx => Table.insert?_keeps hi hx, (Projections.Keeps.refl _).months⟩,
      Table.get?_insert?_self hi, rfl, rfl⟩
    rcases (Table.mem_insert? hi).1 hx with rfl | hx
    · exact ⟨(ht hg).symm, fh⟩
    · exact hs.keyHolds x hx

/-- The window the month query uses holds the usage of that month. -/
theorem spentBetween_eq (b : Books) (key : String) {period stop : Int} (hp : Calendar.firstOfMonth period = period)
    (hstop : Calendar.checkedAddMonth period = some stop) :
    b.spentBetween key (Calendar.midnight period) (Calendar.midnight stop) = b.spent key period := by
  unfold Books.spentBetween Books.spent
  refine Table.sumWhere_congr fun u _ => ?_
  rw [Bool.eq_iff_iff]
  simp only [Bool.and_eq_true, beq_iff_eq, decide_eq_true_eq, and_assoc]
  rw [Calendar.month_window hp hstop]

theorem monthly_spec {id : String} {period : Int} {t : Totals} {db : Db} {r : BillingMonthSpend × Db}
    (h : monthly id period db = .ok r) (hs : db.projections.Shows t) (hp : Calendar.firstOfMonth period = period)
    (ht : db.projections.monthSpends.get? (id, period) = none → t.spent id period = db.books.spent id period) :
    ∃ p, r.2 = db.withProjections p ∧ p.Shows t ∧ db.projections.Keeps p ∧ p.monthSpends.get? (id, period) = some r.1 ∧
      p.balances = db.projections.balances ∧ p.keyHolds = db.projections.keyHolds := by
  unfold monthly at h
  rw [findById_bind] at h
  cases hg : db.projections.monthSpends.get? (id, period) with
  | some row =>
    rw [show (Slot.monthSpends.get db).get? (id, period) = some row from hg] at h
    cases Tx.pure_ok.1 h
    exact ⟨db.projections, rfl, hs, .refl _, hg, rfl, rfl⟩
  | none =>
    rw [show (Slot.monthSpends.get db).get? (id, period) = none from hg] at h
    simp only [historicalSpend_bind, checkNonneg_bind, insertRow_bind, Tx.pure_ok] at h
    obtain ⟨stop, hstop, fs, -, -, tm, hi, rfl⟩ := h
    rw [spentBetween_eq db.books id hp hstop] at fs hi
    refine ⟨{ db.projections with monthSpends := tm }, rfl, ⟨hs.balances, hs.keyHolds, fun x hx => ?_⟩,
      ⟨(Projections.Keeps.refl _).balances, (Projections.Keeps.refl _).keyHolds,
        fun k x hx => Table.insert?_keeps hi hx⟩,
      ?_, rfl, rfl⟩
    · rcases (Table.mem_insert? hi).1 hx with rfl | hx
      · exact ⟨(ht hg).symm, fs, hp⟩
      · exact hs.months x hx
    · rw [spentBetween_eq db.books id hp hstop]; exact Table.get?_insert?_self hi

/-! ## Moving a counter -/

/-- Rewriting the balance row of an account shows totals that differ in that account only. -/
theorem shows_putBalance {p : Projections} {t t' : Totals} {row : BillingBalance} (hs : p.Shows t)
    (hb : row.balanceMicrounits = t'.balance row.billingAccountId)
    (hh : row.heldMicrounits = t'.held row.billingAccountId) (fb : Fits row.balanceMicrounits)
    (fh : Fits row.heldMicrounits)
    (hne : ∀ a, a ≠ row.billingAccountId → t'.balance a = t.balance a ∧ t'.held a = t.held a)
    (hk : t'.keyHeld = t.keyHeld) (hm : t'.spent = t.spent) : { p with balances := p.balances.put row }.Shows t' := by
  refine ⟨fun x hx => ?_, fun x hx => ?_, fun x hx => ?_⟩
  · rcases Table.mem_put.1 hx with ⟨hx, hne'⟩ | ⟨rfl, -⟩
    · obtain ⟨e1, e2⟩ := hne x.billingAccountId hne'
      rw [e1, e2]; exact hs.balances x hx
    · exact ⟨hb, hh, fb, fh⟩
  · rw [hk]; exact hs.keyHolds x hx
  · rw [hm]; exact hs.months x hx

/-- The same for the hold of a key. -/
theorem shows_putKeyHold {p : Projections} {t t' : Totals} {row : BillingKeyHold} (hs : p.Shows t)
    (hk : row.heldMicrounits = t'.keyHeld row.apiKeyId) (fk : Fits row.heldMicrounits)
    (hne : ∀ k, k ≠ row.apiKeyId → t'.keyHeld k = t.keyHeld k) (hb : t'.balance = t.balance) (hh : t'.held = t.held)
    (hm : t'.spent = t.spent) : { p with keyHolds := p.keyHolds.put row }.Shows t' := by
  refine ⟨fun x hx => ?_, fun x hx => ?_, fun x hx => ?_⟩
  · rw [hb, hh]; exact hs.balances x hx
  · rcases Table.mem_put.1 hx with ⟨hx, hne'⟩ | ⟨rfl, -⟩
    · rw [hne x.apiKeyId hne']; exact hs.keyHolds x hx
    · exact ⟨hk, fk⟩
  · rw [hm]; exact hs.months x hx

/-- The same for the spend of a key in a month. -/
theorem shows_putMonth {p : Projections} {t t' : Totals} {row : BillingMonthSpend} (hs : p.Shows t)
    (hv : row.spentMicrounits = t'.spent row.apiKeyId row.month) (fv : Fits row.spentMicrounits)
    (hf : Calendar.firstOfMonth row.month = row.month)
    (hne : ∀ k m, ¬(k = row.apiKeyId ∧ m = row.month) → t'.spent k m = t.spent k m) (hb : t'.balance = t.balance)
    (hh : t'.held = t.held) (hk : t'.keyHeld = t.keyHeld) :
    { p with monthSpends := p.monthSpends.put row }.Shows t' := by
  refine ⟨fun x hx => ?_, fun x hx => ?_, fun x hx => ?_⟩
  · rw [hb, hh]; exact hs.balances x hx
  · rw [hk]; exact hs.keyHolds x hx
  · rcases Table.mem_put.1 hx with ⟨hx, hne'⟩ | ⟨rfl, -⟩
    · rw [hne x.apiKeyId x.month fun ⟨e1, e2⟩ => hne' (Prod.ext e1 e2)]; exact hs.months x hx
    · exact ⟨hv, fv, hf⟩

theorem changeHold_spec {a k : String} {delta : Int} {t : Totals} {db : Db} {r : Unit × Db}
    (h : changeHold a k delta db = .ok r) (hs : db.projections.Shows t)
    (ha : db.projections.balances.get? a = none → t.balance a = db.books.balance a ∧ t.held a = db.books.held a)
    (hk : db.projections.keyHolds.get? k = none → t.keyHeld k = db.books.keyHeld k) :
    ∃ p, r.2 = db.withProjections p ∧ p.Shows (t.addHold a k delta) ∧ db.projections.Keeps p ∧
      (∃ x, p.balances.get? a = some x) ∧ (∃ x, p.keyHolds.get? k = some x) ∧
      p.monthSpends = db.projections.monthSpends ∧ 0 ≤ t.held a + delta ∧ 0 ≤ t.keyHeld k + delta := by
  unfold changeHold at h
  obtain ⟨row, s1, h1, h2⟩ := Tx.bind_ok.1 h
  obtain ⟨p1, rfl, hs1, keep1, hrow, hkh, hmo⟩ := account_spec h1 hs ha
  simp only [add_bind, updateRow_bind] at h2
  obtain ⟨fit1, nn1, h2⟩ := h2
  obtain ⟨hmem, hid⟩ := Table.get?_some_iff.1 hrow
  change row.billingAccountId = a at hid
  subst hid
  obtain ⟨eb, eh, fb, -⟩ := hs1.balances row hmem
  rw [eh] at fit1 nn1
  -- the account counter has moved, the key counter has not
  let t1 : Totals := { t with held := fun x => t.held x + if x = row.billingAccountId then delta else 0 }
  let q : Projections :=
    { p1 with balances := p1.balances.put { row with heldMicrounits := row.heldMicrounits + delta } }
  have hs2 : q.Shows t1 := shows_putBalance hs1 eb (by simp [t1, eh]) fb (by rw [eh]; exact fit1)
    (fun x hx => ⟨rfl, by simp [t1, hx]⟩) rfl rfl
  obtain ⟨krow, s2, h3, h4⟩ := Tx.bind_ok.1 h2
  change keyHold k (db.withProjections q) = .ok (krow, s2) at h3
  obtain ⟨p2, hp2, hs3, keep2, hkrow, hbal, hmo2⟩ := keyHold_spec h3 hs2 fun hg =>
    hk (by rw [← hkh]; exact hg)
  simp only [add_bind, updateRow_ok] at h4
  obtain ⟨fit2, nn2, rfl⟩ := h4
  obtain ⟨hkmem, hkid⟩ := Table.get?_some_iff.1 hkrow
  change krow.apiKeyId = k at hkid
  subst hkid
  obtain ⟨ek, -⟩ := hs3.keyHolds krow hkmem
  rw [ek] at fit2 nn2
  simp only at hp2
  subst hp2
  refine ⟨{ p2 with keyHolds := p2.keyHolds.put { krow with heldMicrounits := krow.heldMicrounits + delta } }, rfl,
    ?_, ?_, ?_, ?_, by rw [hmo2]; exact hmo, nn1 trivial, nn2 trivial⟩
  · exact shows_putKeyHold hs3 (by simp [Totals.addHold, ek, t1]) (by rw [ek]; exact fit2)
      (fun x hx => by simp only [Totals.addHold]; rw [if_neg hx, add_zero]) rfl rfl rfl
  · exact keep1.trans ((p1.keeps_putBalance _).trans (keep2.trans (p2.keeps_putKeyHold _)))
  · simp only [hbal]
    exact Table.put_keeps _ hrow
  · exact Table.put_keeps _ hkrow

theorem changeBalance_spec {a : String} {delta : Int} {t : Totals} {db : Db} {r : Unit × Db}
    (h : changeBalance a delta db = .ok r) (hs : db.projections.Shows t)
    (ha : db.projections.balances.get? a = none → t.balance a = db.books.balance a ∧ t.held a = db.books.held a) :
    ∃ p, r.2 = db.withProjections p ∧ p.Shows (t.addBalance a delta) ∧ db.projections.Keeps p ∧
      (∃ x, p.balances.get? a = some x) ∧ p.keyHolds = db.projections.keyHolds ∧
      p.monthSpends = db.projections.monthSpends := by
  unfold changeBalance at h
  obtain ⟨row, s1, h1, h2⟩ := Tx.bind_ok.1 h
  obtain ⟨p1, rfl, hs1, keep1, hrow, hkh, hmo⟩ := account_spec h1 hs ha
  simp only [add_bind, updateRow_ok] at h2
  obtain ⟨fit, -, rfl⟩ := h2
  obtain ⟨hmem, hid⟩ := Table.get?_some_iff.1 hrow
  change row.billingAccountId = a at hid
  subst hid
  obtain ⟨eb, eh, -, fh⟩ := hs1.balances row hmem
  refine ⟨{ p1 with balances := p1.balances.put { row with balanceMicrounits := row.balanceMicrounits + delta } }, rfl,
    ?_, keep1.trans (p1.keeps_putBalance _),
    Table.put_keeps _ hrow, hkh, hmo⟩
  exact shows_putBalance hs1 (by simp [Totals.addBalance, eb]) eh fit fh
    (fun x hx => ⟨by simp only [Totals.addBalance]; rw [if_neg hx, add_zero], rfl⟩) rfl rfl

theorem changeSpend_spec {row : BillingMonthSpend} {delta : Int} {t : Totals} {db : Db} {r : Unit × Db}
    (h : changeSpend row delta db = .ok r) (hs : db.projections.Shows t)
    (hrow : db.projections.monthSpends.get? (row.apiKeyId, row.month) = some row) :
    ∃ p, r.2 = db.withProjections p ∧ p.Shows (t.addSpent row.apiKeyId row.month delta) ∧ db.projections.Keeps p ∧
      p.balances = db.projections.balances ∧ p.keyHolds = db.projections.keyHolds := by
  unfold changeSpend at h
  simp only [add_bind, updateRow_ok] at h
  obtain ⟨fit, -, rfl⟩ := h
  obtain ⟨es, -, hm⟩ := hs.months row (Table.get?_mem hrow)
  refine ⟨{ db.projections with
      monthSpends := db.projections.monthSpends.put { row with spentMicrounits := row.spentMicrounits + delta } }, rfl,
    ?_, db.projections.keeps_putMonth _, rfl, rfl⟩
  exact shows_putMonth hs (by simp [Totals.addSpent, es]) fit hm
    (fun k m hne => by simp only [Totals.addSpent]; rw [if_neg hne, add_zero]) rfl rfl rfl

end Xscope
