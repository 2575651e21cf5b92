/-
The monthly budget of a key. Admission checks the spend of the month it runs in together with
the holds taken in any month; a settlement replaces a hold by at most its amount. Under a clock
that does not run backwards the spend of a month and the holds stay within the budget together,
so that no month is charged more, whenever its reservations were taken.
-/
import Xscope.Billing.Prepaid

namespace Xscope

/-! ## Months -/

/-- The first day of the UTC month of an instant. -/
def monthOf (t : Int) : Int := Calendar.firstOfMonth (Calendar.ofTimestamp t)

theorem monthOf_mono {s t : Int} (h : s ≤ t) : monthOf s ≤ monthOf t :=
  Calendar.firstOfMonth_mono (Calendar.ofTimestamp_mono h)

/-! ## The invariant of one key -/

/-- What a key may be charged in a month. -/
def ApiKey.budget (k : ApiKey) : Int := k.monthlyBudgetAmount * microsPerMinorUnit

/-- Nothing was charged to `key` after `now`, and within its budget are the spend of every month,
and from the month of `now` on also the spend together with the holds. -/
structure Books.Budgets (b : Books) (key : String) (now : Int) : Prop where
  reservations : ∀ r ∈ b.reservations, r.apiKeyId = key → ∃ k ∈ b.apiKeys, k.id = key
  usage : ∀ u ∈ b.usageEvents, u.apiKeyId = key → ∃ k ∈ b.apiKeys, k.id = key
  past : ∀ u ∈ b.usageEvents, u.apiKeyId = key → u.occurredAt ≤ now ∧ 0 ≤ u.costMicrounits
  spent : ∀ k ∈ b.apiKeys, k.id = key → 0 < k.monthlyBudgetAmount → ∀ m, b.spent key m ≤ k.budget
  held : ∀ k ∈ b.apiKeys, k.id = key → 0 < k.monthlyBudgetAmount → ∀ m, monthOf now ≤ m →
    b.spent key m + b.keyHeld key ≤ k.budget

section

variable {b b' : Books} {key : String} {now : Int}

theorem Books.Budgets.later (h : b.Budgets key now) {now' : Int} (hn : now ≤ now') : b.Budgets key now' := by
  refine ⟨h.reservations, h.usage, fun u hu hk => ?_, h.spent, fun k hk hid hpos m hm => ?_⟩
  · obtain ⟨ht, hc⟩ := h.past u hu hk
    exact ⟨ht.trans hn, hc⟩
  · exact h.held k hk hid hpos m ((monthOf_mono hn).trans hm)

/-- The charges and holds of a key are sums of what is not negative. -/
theorem Books.Budgets.spent_nonneg (h : b.Budgets key now) (m : Int) : 0 ≤ b.spent key m := by
  refine Table.sumWhere_nonneg fun u hu hp => ?_
  simp only [Bool.and_eq_true, beq_iff_eq] at hp
  exact (h.past u hu hp.1).2

/-- A held reservation is part of what its key holds. -/
theorem Books.Sound.le_keyHeld (s : b.Sound) {r : Reservation} (hr : r ∈ b.reservations) (hs : r.state.held = true) :
    r.reservedMicrounits ≤ b.keyHeld r.apiKeyId :=
  Table.le_sumWhere (fun _ hx _ => s.held_nonneg hx) hr (by simp [hs])

/-- Nothing is spent in a month that has not begun. -/
theorem Books.Budgets.spent_future (h : b.Budgets key now) {m : Int} (hm : monthOf now < m) : b.spent key m = 0 := by
  refine Table.sumWhere_eq_zero fun u hu => ?_
  by_cases hk : u.apiKeyId = key
  · have := monthOf_mono (h.past u hu hk).1
    have hne : monthOf u.occurredAt ≠ m := by omega
    simpa [hk, monthOf] using hne
  · simp [hk]

/-- The invariant reads the keys, the charges and the holds. -/
theorem Books.Budgets.congr (h : b.Budgets key now) (hk : b'.apiKeys = b.apiKeys)
    (hr : b'.reservations = b.reservations) (hu : b'.usageEvents = b.usageEvents) : b'.Budgets key now := by
  have hs : ∀ m, b'.spent key m = b.spent key m := fun m => by unfold Books.spent; rw [hu]
  have hh : b'.keyHeld key = b.keyHeld key := by unfold Books.keyHeld; rw [hr]
  refine ⟨?_, ?_, ?_, ?_, ?_⟩
  · rw [hr, hk]; exact h.reservations
  · rw [hu, hk]; exact h.usage
  · rw [hu]; exact h.past
  · intro k hm hid hpos m
    rw [hk] at hm
    rw [hs]; exact h.spent k hm hid hpos m
  · intro k hm hid hpos m hle
    rw [hk] at hm
    rw [hs, hh]; exact h.held k hm hid hpos m hle

/-- A reservation that holds no more than before leaves the budget kept. -/
theorem Books.Budgets.put (h : b.Budgets key now) {old row : Reservation} (ho : old ∈ b.reservations)
    (terms : SameTerms old row) (hh : row.state.holds old.reservedMicrounits ≤ old.state.holds old.reservedMicrounits) :
    ({ b with reservations := b.reservations.put row } : Books).Budgets key now := by
  have less : ({ b with reservations := b.reservations.put row } : Books).keyHeld key ≤ b.keyHeld key := by
    have := congrFun (congrArg Totals.keyHeld (totals_putReservation ho terms)) key
    simp only [Books.totals, Totals.addHold] at this
    rw [this]
    split <;> omega
  refine ⟨fun r hr hk => ?_, h.usage, h.past, h.spent, fun k hk hid hpos m hm => ?_⟩
  · rcases Table.mem_put.1 hr with ⟨hr, -⟩ | ⟨rfl, -⟩
    · exact h.reservations r hr hk
    · exact h.reservations old ho (terms.apiKeyId ▸ hk)
  · have := h.held k hk hid hpos m hm
    have hs : ({ b with reservations := b.reservations.put row } : Books).spent key m = b.spent key m := rfl
    omega

/-- Keys keep their budget, and nothing was charged to a new key. -/
theorem Registry.budgets (g : Registry b b') (h : b.Budgets key now) : b'.Budgets key now := by
  have hs : ∀ m, b'.spent key m = b.spent key m := fun m => by unfold Books.spent; rw [g.usageEvents]
  have hh : b'.keyHeld key = b.keyHeld key := by unfold Books.keyHeld; rw [g.reservations]
  have kept : (∃ k ∈ b.apiKeys, k.id = key) → ∃ k ∈ b'.apiKeys, k.id = key := by
    rintro ⟨k, hk, hid⟩
    obtain ⟨k', hk', hid', -⟩ := g.apiKeys k hk
    exact ⟨k', hk', hid'.trans hid⟩
  -- a key that was not there has neither charges nor holds
  have nothing : ∀ k ∈ b'.apiKeys, k.id = key → (∀ x ∈ b.apiKeys, x.id ≠ key) → 0 < k.monthlyBudgetAmount →
      (∀ m, b.spent key m = 0) ∧ b.keyHeld key = 0 ∧ 0 ≤ k.budget := by
    intro k hk hid hno hpos
    refine ⟨fun m => ?_, ?_, ?_⟩
    · refine Table.sumWhere_eq_zero fun u hu => ?_
      have hne : u.apiKeyId ≠ key := fun e => by
        obtain ⟨x, hx, hxid⟩ := h.usage u hu e
        exact hno x hx hxid
      simp [hne]
    · refine Table.sumWhere_eq_zero fun r hr => ?_
      have hne : r.apiKeyId ≠ key := fun e => by
        obtain ⟨x, hx, hxid⟩ := h.reservations r hr e
        exact hno x hx hxid
      simp [hne]
    · unfold ApiKey.budget microsPerMinorUnit; omega
  -- a key that was there has the same budget
  have same : ∀ k ∈ b'.apiKeys, k.id = key → ∀ x ∈ b.apiKeys, x.id = key →
      k.monthlyBudgetAmount = x.monthlyBudgetAmount := by
    intro k hk hid x hx hxid
    obtain ⟨x', hx', hid', hb⟩ := g.apiKeys x hx
    have : k = x' := Table.eq_of_key hk hx' (hid.trans (hid'.trans hxid).symm)
    rw [this]; exact hb
  refine ⟨?_, ?_, ?_, fun k hk hid hpos m => ?_, fun k hk hid hpos m hm => ?_⟩
  · rw [g.reservations]
    exact fun r hr e => kept (h.reservations r hr e)
  · rw [g.usageEvents]
    exact fun u hu e => kept (h.usage u hu e)
  · rw [g.usageEvents]; exact h.past
  · rw [hs]
    by_cases hx : ∃ x ∈ b.apiKeys, x.id = key
    · obtain ⟨x, hx, hxid⟩ := hx
      have e := same k hk hid x hx hxid
      have := h.spent x hx hxid (by omega) m
      unfold ApiKey.budget at this ⊢
      rwa [e]
    · obtain ⟨h0, -, hb⟩ := nothing k hk hid (fun x hxm e => hx ⟨x, hxm, e⟩) hpos
      rw [h0]; exact hb
  · rw [hs, hh]
    by_cases hx : ∃ x ∈ b.apiKeys, x.id = key
    · obtain ⟨x, hx, hxid⟩ := hx
      have e := same k hk hid x hx hxid
      have := h.held x hx hxid (by omega) m hm
      unfold ApiKey.budget at this ⊢
      rwa [e]
    · obtain ⟨h0, h1, hb⟩ := nothing k hk hid (fun x hxm e => hx ⟨x, hxm, e⟩) hpos
      rw [h0, h1]; exact hb

/-- A reservation is admitted when the month it runs in has room beside every hold. -/
theorem Books.Budgets.reserve (h : b.Budgets key now) {row : Reservation} {rs : Table Reservation} {k : ApiKey}
    (hk : k ∈ b.apiKeys) (hkid : k.id = row.apiKeyId) (hs : row.state.held = true)
    (budget : Budgeted b k now row.reservedMicrounits) (hi : b.reservations.insert? row = some rs) :
    ({ b with reservations := rs } : Books).Budgets key now := by
  have held : ({ b with reservations := rs } : Books).keyHeld key =
      b.keyHeld key + if key = row.apiKeyId then row.reservedMicrounits else 0 :=
    congrFun (congrArg Totals.keyHeld (totals_insertReservation hi hs)) key
  refine ⟨fun r hr he => ?_, h.usage, h.past, h.spent, fun k' hk' hid hpos m hm => ?_⟩
  · rcases (Table.mem_insert? hi).1 hr with rfl | hr
    · exact ⟨k, hk, hkid.trans he⟩
    · exact h.reservations r hr he
  · rw [held]
    show b.spent key m + _ ≤ _
    split
    · rename_i e
      have : k' = k := Table.eq_of_key hk' hk (hid.trans (e.trans hkid.symm))
      subst this
      have room := budget hpos
      change b.spent k'.id (monthOf now) + b.keyHeld k'.id + row.reservedMicrounits ≤ k'.budget at room
      rw [hid] at room
      -- later months have no charges yet, so they have at least the room of this one
      have : b.spent key m ≤ b.spent key (monthOf now) := by
        rcases lt_or_eq_of_le hm with hlt | rfl
        · rw [h.spent_future hlt]; exact h.spent_nonneg _
        · exact le_rfl
      omega
    · have := h.held k' hk' hid hpos m hm
      omega

/-- A settlement charges the month it runs in at most what it stops to hold. -/
theorem Books.Budgets.settle (h : b.Budgets key now) (s : b.Sound) {call : Call} {a : BillingAccount} {r : Reservation}
    {request : SettleRequest} {amount : Int} {us : Table UsageRow} (hr : r ∈ b.reservations)
    (hs : r.state = .dispatched) (hin : request.inputTokens ≤ r.spec.inputTokenLimit)
    (hout : request.outputTokens ≤ r.spec.outputTokenLimit)
    (cost : usageCostMicrounits r.price request.inputTokens request.outputTokens = .ok amount)
    (hi : b.usageEvents.insert? (settledUsage call.now a r request amount) = some us) (hnow : call.now = now) :
    ({ b with usageEvents := us, reservations := b.reservations.put (settledReservation call.now r request amount) } :
      Books).Budgets key now := by
  subst hnow
  have le : amount ≤ r.reservedMicrounits := s.settled_le hr hin hout cost
  have nonneg : 0 ≤ amount := cost_nonneg (s.reservations r hr).1 cost
  have hheld := s.le_keyHeld hr (show r.state.held = true by rw [hs]; rfl)
  have totals := totals_settle hr hs hi
  have spent : ∀ m,
    ({ b with
        usageEvents := us
        reservations := b.reservations.put (settledReservation call.now r request amount) } : Books).spent key m =
      b.spent key m + if key = r.apiKeyId ∧ m = monthOf call.now then amount else 0 :=
    fun m => congrFun (congrFun (congrArg Totals.spent totals) key) m
  have held : ({ b with usageEvents := us, reservations := b.reservations.put (settledReservation call.now r request
      amount) } : Books).keyHeld key = b.keyHeld key + if key = r.apiKeyId then -r.reservedMicrounits else 0 :=
    congrFun (congrArg Totals.keyHeld totals) key
  refine ⟨fun x hx he => ?_, fun u hu he => ?_, fun u hu he => ?_, fun k hk hid hpos m => ?_,
    fun k hk hid hpos m hm => ?_⟩
  · rcases Table.mem_put.1 hx with ⟨hx, -⟩ | ⟨rfl, -⟩
    · exact h.reservations x hx he
    · exact h.reservations r hr he
  · rcases (Table.mem_insert? hi).1 hu with rfl | hu
    · exact h.reservations r hr he
    · exact h.usage u hu he
  · rcases (Table.mem_insert? hi).1 hu with rfl | hu
    · exact ⟨le_rfl, nonneg⟩
    · exact h.past u hu he
  · rw [spent]
    split
    · rename_i e
      obtain ⟨rfl, rfl⟩ := e
      have := h.held k hk hid hpos _ le_rfl
      omega
    · have := h.spent k hk hid hpos m
      omega
  · have := h.held k hk hid hpos m hm
    rw [spent, held]
    -- the month is charged at most what the hold gives up
    by_cases hkey : key = r.apiKeyId
    · rw [if_pos hkey]
      split <;> omega
    · rw [if_neg hkey, if_neg fun e => hkey e.1]
      omega

end

/-! ## Moves and runs -/

/-- A move reads the clock at `now`, when it reads the clock for a budget. -/
def Kind.At (now : Int) : Kind → Prop
  | .reserve t | .settle t => t = now
  | _ => True

/-- A move records usage of other keys only. -/
def Kind.Spares (key : String) : Kind → Prop
  | .usage e => e.apiKeyId ≠ key
  | _ => True

theorem Move.budgets {k : Kind} {b b' : Books} (m : Move k b b') {key : String} {now : Int} (clock : k.At now)
    (spares : k.Spares key) (s : b.Sound) (h : b.Budgets key now) : b'.Budgets key now := by
  cases m with
  | registry g => exact g.budgets h
  | review reviews audits => exact h.congr rfl rfl rfl
  | policy a ha flag => exact h.congr rfl rfl rfl
  | reserve t a request entry k amount rs ha hp wf hm hid hk hkid cost fresh unused funds budget hi =>
    have e : t = now := clock
    subst e
    exact h.reserve hk hkid rfl budget hi
  | dispatch t r hr hs =>
    refine h.put hr (dispatched_terms t r) ?_
    rw [hs]; exact le_rfl
  | release t r reason hr hs =>
    refine h.put hr (released_terms t r reason) ?_
    rw [hs]; exact s.held_nonneg hr
  | report t r request hr hs => exact h.put hr (unresolved_terms t r request) le_rfl
  | settle call a r request amount us ha hp hr hs wf hin hout cost funds hi post =>
    have settled := h.settle s hr hs hin hout cost hi clock
    obtain ⟨ts, es, rfl⟩ := post.eq
    exact settled.congr rfl rfl rfl
  | waive t r hr hs =>
    refine h.put hr (waived_terms t r) ?_
    rw [ReservationState.holds_of_held hs]; exact s.held_nonneg hr
  | usage call a e cost us ha hp unreserved priced funds hi post =>
    have hne : e.apiKeyId ≠ key := spares
    have spent : ∀ m, ({ b with usageEvents := us } : Books).spent key m = b.spent key m := by
      intro m
      have := congrFun (congrFun (congrArg Totals.spent (totals_insertUsage hi)) key) m
      simp only [Books.totals, Totals.addSpent] at this
      rw [this, if_neg fun e => hne e.1.symm, add_zero]
    obtain ⟨ts, es, rfl⟩ := post.eq
    refine ⟨h.reservations, fun u hu he => ?_, fun u hu he => ?_, fun k hk hid hpos m => ?_,
      fun k hk hid hpos m hm => ?_⟩
    · rcases (Table.mem_insert? hi).1 hu with rfl | hu
      · exact absurd he hne
      · exact h.usage u hu he
    · rcases (Table.mem_insert? hi).1 hu with rfl | hu
      · exact absurd he hne
      · exact h.past u hu he
    · exact (spent m).trans_le (h.spent k hk hid hpos m)
    · have := h.held k hk hid hpos m hm
      rw [← spent m] at this
      exact this
  | topUp call a o id provider reference currency key description ps ha hp ho hpend hfit hi post =>
    obtain ⟨ts, es, rfl⟩ := post.eq; exact h.congr rfl rfl rfl
  | refund call a o p row key description rs ha hp ho hpay hprov hrow hst hpos le limit funds hi post =>
    obtain ⟨ts, es, rfl⟩ := post.eq; exact h.congr rfl rfl rfl
  | prepare call a o p row key description rs ha hp ho hpay hprov hrow hst hpos limit funds hi post =>
    obtain ⟨ts, es, rfl⟩ := post.eq; exact h.congr rfl rfl rfl
  | complete call a o p row trade ha hp ho hpay hprov hrow hpid hst post =>
    obtain ⟨ts, es, rfl⟩ := post.eq; exact h.congr rfl rfl rfl

theorem Moves.budgets {ks : List Kind} {b b' : Books} (h : Moves ks b b') {key : String} {now : Int}
    (clock : ∀ k ∈ ks, k.At now) (spares : ∀ k ∈ ks, k.Spares key) (s : b.Sound) (hb : b.Budgets key now) :
    b'.Budgets key now := by
  refine (h.keeps (I := fun b => b.Sound ∧ b.Budgets key now) ?_ ⟨s, hb⟩).2
  rintro k hk b b' m ⟨s, hb⟩
  exact ⟨m.sound s, m.budgets (clock k hk) (spares k hk) s hb⟩

/-- The clock reading of an operation of the reservation protocol. -/
def Op.clock : Op → Option Int
  | .reserve call _ | .dispatch call .. | .release call .. | .settle call .. | .unresolved call
    .. | .submitEvidence call ..
  | .submitWaiver call .. | .decideReview call .. => some call.now
  | _ => none

/-- The operation records usage of `key` outside of any reservation. -/
def Op.recordsUsageOf (key : String) : Op → Bool
  | .recordUsage _ e => e.apiKeyId == key
  | _ => false

theorem Op.kinds_at (op : Op) (now : Int) (h : ∀ t ∈ op.clock, t = now) : ∀ k ∈ op.kinds, k.At now := by
  cases op with
  | reserve call request => simpa [Op.kinds, Kind.At, Op.clock] using h
  | settle call project id request => simpa [Op.kinds, Kind.At, Op.clock] using h
  | decideReview call project id actor subject request => simpa [Op.kinds, Kind.At, Op.clock] using h
  | _ => simp [Op.kinds, Kind.At]

theorem Op.kinds_spare (op : Op) {key : String} (h : op.recordsUsageOf key = false) : ∀ k ∈ op.kinds, k.Spares key := by
  cases op with
  | recordUsage call e => simpa [Op.kinds, Kind.Spares, Op.recordsUsageOf] using h
  | _ => simp [Op.kinds, Kind.Spares]

/-- The readings of the clock over a run. -/
def Op.readings (ops : List Op) : List Int := ops.filterMap Op.clock

theorem Op.runAll_budgets (digests : Digests) {key : String} : ∀ (ops : List Op) {db : Db} {now later : Int},
    Good db.books db.projections → db.books.Sound → db.books.Budgets key now → (Op.readings ops).Pairwise (· ≤ ·) →
    now ≤ later → (∀ t ∈ Op.readings ops, now ≤ t ∧ t ≤ later) → (∀ op ∈ ops, op.recordsUsageOf key = false) →
    (Op.runAll digests ops db).books.Budgets key later
  | [], db, now, later, _, _, h, _, hl, _, _ => h.later hl
  | op :: ops, db, now, later, g, s, h, mono, hl, range, spares => by
    have step := op.step digests g
    have first := spares op List.mem_cons_self
    have rest := fun o ho => spares o (List.mem_cons_of_mem op ho)
    cases hc : op.clock with
    | none =>
      have e : Op.readings (op :: ops) = Op.readings ops := List.filterMap_cons_none hc
      rw [e] at mono range
      have next := step.moves.budgets (op.kinds_at now (by simp [hc])) (op.kinds_spare first) s h
      exact Op.runAll_budgets digests ops (step.good g) (step.moves.sound s) next mono hl range rest
    | some t =>
      have e : Op.readings (op :: ops) = t :: Op.readings ops := List.filterMap_cons_some hc
      rw [e] at mono range
      obtain ⟨after, mono⟩ := List.pairwise_cons.1 mono
      obtain ⟨lo, hi⟩ := range t List.mem_cons_self
      -- the clock moves on to this reading, then the operation runs at it
      have next := step.moves.budgets (op.kinds_at t (by simp [hc])) (op.kinds_spare first) s (h.later lo)
      exact Op.runAll_budgets digests ops (step.good g) (step.moves.sound s) next mono hi
        (fun t' ht' => ⟨after t' ht', (range t' (List.mem_cons_of_mem _ ht')).2⟩) rest

theorem Books.Budgets.empty (key : String) (now : Int) : Db.empty.books.Budgets key now :=
  ⟨fun r h => absurd h (Table.not_mem_empty r), fun u h => absurd h (Table.not_mem_empty u),
    fun u h => absurd h (Table.not_mem_empty u), fun k h => absurd h (Table.not_mem_empty k),
    fun k h => absurd h (Table.not_mem_empty k)⟩

/-- A lower bound of the readings and of `later`. -/
theorem Op.readings_bounded (later : Int) : ∀ ts : List Int, ∃ now ≤ later, ∀ t ∈ ts, now ≤ t
  | [] => ⟨later, le_rfl, by simp⟩
  | t :: ts => by
    obtain ⟨now, hl, h⟩ := Op.readings_bounded later ts
    refine ⟨min now t, (min_le_left _ _).trans hl, fun x hx => ?_⟩
    rcases List.mem_cons.1 hx with rfl | hx
    · exact min_le_right _ _
    · exact (min_le_left _ _).trans (h x hx)

/-- Over any run whose clock does not run backwards and that records no usage of the key outside
of reservations: what a budgeted key spent in the current month and what it holds are within its
budget, and so is what it was charged in any month. -/
theorem Op.runAll_budget (digests : Digests) (ops : List Op) (key : String)
    (clock : (Op.readings ops).Pairwise (· ≤ ·)) (unrecorded : ∀ op ∈ ops, op.recordsUsageOf key = false) :
    let b := (Op.runAll digests ops Db.empty).books
    ∀ k ∈ b.apiKeys, k.id = key → 0 < k.monthlyBudgetAmount →
      (∀ now, (∀ t ∈ Op.readings ops, t ≤ now) → b.spent key (monthOf now) + b.keyHeld key ≤ k.budget) ∧
      ∀ month, b.spent key month ≤ k.budget := by
  intro b k hk hid hpos
  have run : ∀ now, (∀ t ∈ Op.readings ops, t ≤ now) → b.Budgets key now := by
    intro now hnow
    obtain ⟨start, hle, hstart⟩ := Op.readings_bounded now (Op.readings ops)
    exact Op.runAll_budgets digests ops Good.empty Books.Sound.empty (.empty key start) clock hle
      (fun t ht => ⟨hstart t ht, hnow t ht⟩) unrecorded
  refine ⟨fun now hnow => (run now hnow).held k hk hid hpos _ le_rfl, ?_⟩
  -- some instant is past every reading
  have bounded : ∀ ts : List Int, ∃ now, ∀ t ∈ ts, t ≤ now := by
    intro ts
    induction ts with
    | nil => exact ⟨0, by simp⟩
    | cons t ts ih =>
      obtain ⟨now, h⟩ := ih
      refine ⟨max now t, fun x hx => ?_⟩
      rcases List.mem_cons.1 hx with rfl | hx
      · exact le_max_right _ _
      · exact (h x hx).trans (le_max_left _ _)
  obtain ⟨now, hnow⟩ := bounded (Op.readings ops)
  exact (run now hnow).spent k hk hid hpos

/-- A key with a budget of one minor unit, a request reserved on it, and its settlement in a later
month. -/
def sampleBudgeted : List Op :=
  [.createProject ⟨"project", "tenant", "Project"⟩, .bootstrapCatalog,
    .issueApiKey 0 ⟨"key", "tenant", "project", "Key", [], [], none, 0, 0, ⟨"CNY", 1⟩⟩,
    .ensureAccount "project", .reserve (sampleCall 1) (sampleRequest "r1"), .dispatch (sampleCall 2) "project" "r1",
    .settle { sampleCall 3 with now := 1800000000000000 } "project" "r1" sampleUsage]

/-- The sample key was charged in the month of the settlement, within its budget. -/
theorem sample_budgeted : ∃ k ∈ (Op.runAll sampleDigests sampleBudgeted Db.empty).books.apiKeys, k.id = "key" ∧
    0 < (Op.runAll sampleDigests sampleBudgeted Db.empty).books.spent "key" (monthOf 1800000000000000) ∧
    (Op.runAll sampleDigests sampleBudgeted Db.empty).books.spent "key" (monthOf 1800000000000000) ≤ k.budget := by
  have budget := Op.runAll_budget sampleDigests sampleBudgeted "key" (by decide) (by decide)
  have hk : ("key", 1) ∈ (Op.runAll sampleDigests sampleBudgeted Db.empty).books.apiKeys.rows.map fun k =>
      (k.id, k.monthlyBudgetAmount) := by decide +kernel
  obtain ⟨k, hm, he⟩ := List.mem_map.1 hk
  obtain ⟨hid, hb⟩ := Prod.mk.inj he
  have charged : 0 < (Op.runAll sampleDigests sampleBudgeted Db.empty).books.spent "key"
      (monthOf 1800000000000000) := by
    decide +kernel
  exact ⟨k, hm, hid, charged, (budget k hm hid (by omega)).2 _⟩

end Xscope
