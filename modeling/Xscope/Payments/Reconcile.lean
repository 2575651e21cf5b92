/-
Reconciliation of a provider's settlement lines with the payments of a tenant. Both sides are folded
into maps by reference, and the report is read off the two maps. A map keeps one amount for each
reference, so of several lines with one reference the last one counts.
-/
import Xscope.Billing.Prepaid

namespace Xscope

structure ProviderSettlement where
  providerReference : String
  amount : Money
  deriving DecidableEq

structure ReconcileRequest where
  tenantId : String
  provider : String
  settlements : List ProviderSettlement

structure ReconciliationReport where
  generatedAt : Int
  provider : String
  matched : Int
  platformOnly : List String
  providerOnly : List String
  amountMismatches : Table (String × Money)

/-- The entries of a map, in the order of its keys. -/
def entries {β : Type} (m : Table (String × β)) : List (String × β) := m.rows.mergeSort fun a b => decide (a.1 ≤ b.1)

/-- The keys of a map that another map does not have. -/
def keysOnly (m other : Table (String × Int)) : List String :=
  ((entries m).map Prod.fst).filter fun reference => (other.get? reference).isNone

/-- What the platform was paid, by reference. -/
def platformAmounts (payments : List Payment) : Table (String × Int) :=
  payments.foldl (fun m p => m.upsert (p.providerReference, p.amount)) Table.empty

/-- What the lines say, by reference, added to `m`. -/
def providerAmounts : Table (String × Int) → List ProviderSettlement → Except DomainError (Table (String × Int))
  | m, [] => .ok m
  | m, settlement :: rest => do
    validateMoney settlement.amount
    providerAmounts (m.upsert (settlement.providerReference, settlement.amount.amount)) rest

/-- One entry of the platform against the map of the provider. -/
def compareEntry (provider : Table (String × Int)) (state : Int × Table (String × Money)) (entry : String × Int) :
    Int × Table (String × Money) :=
  match provider.get? entry.1 with
  | none => state
  | some (_, amount) =>
    if amount = entry.2 then (state.1 + 1, state.2)
    else (state.1, state.2.upsert (entry.1, Money.cny (wrapping (amount - entry.2))))

/-- The succeeded payments of a tenant at a provider. -/
def Books.paidThrough (b : Books) (tenant provider : String) : List Payment :=
  let orderIds := (b.orders.select fun o => o.tenantId == tenant).map (·.id)
  b.payments.select fun p => p.provider == provider && p.status == .succeeded && orderIds.contains p.orderId

def reconcile (now : Int) (request : ReconcileRequest) : DbTx ReconciliationReport := do
  Tx.reject (blank request.tenantId ∨ blank request.provider) (.invalid "tenant_id and provider are required")
  let payments ← Tx.read fun db => db.books.paidThrough request.tenantId request.provider
  let platform := platformAmounts payments
  let provider ← checkDomain (providerAmounts Table.empty request.settlements)
  let compared := (entries platform).foldl (compareEntry provider) (0, Table.empty)
  pure
    { generatedAt := now, provider := request.provider, matched := compared.1
      platformOnly := keysOnly platform provider, providerOnly := keysOnly provider platform
      amountMismatches := compared.2 }

/-! ## What a reconciliation is for -/

/-- Some line has the reference. -/
def mentions (lines : List ProviderSettlement) (reference : String) : Bool :=
  lines.any (·.providerReference == reference)

/-- Some payment has the reference. -/
def paidUnder (payments : List Payment) (reference : String) : Bool := payments.any (·.providerReference == reference)

/-- The total of the lines with one reference. -/
def lineTotal (lines : List ProviderSettlement) (reference : String) : Int :=
  ((lines.filter (·.providerReference == reference)).map (·.amount.amount)).sum

/-- The four places of a report that account for a reference. -/
inductive Filed where
  | matched
  | mismatch
  | providerOnly
  | platformOnly

/-- The report accounts for a reference in a place. A match is only counted, so a reference is counted as
matched when both sides have it and no mismatch is listed. -/
def ReconciliationReport.files (report : ReconciliationReport) (lines : List ProviderSettlement)
    (payments : List Payment) (reference : String) : Filed → Bool
  | .matched =>
    mentions lines reference && paidUnder payments reference && (report.amountMismatches.get? reference).isNone
  | .mismatch => (report.amountMismatches.get? reference).isSome
  | .providerOnly => report.providerOnly.contains reference
  | .platformOnly => report.platformOnly.contains reference

/-- The report accounts for the money of both sides. -/
structure ReconciliationReport.Conserves (report : ReconciliationReport) (lines : List ProviderSettlement)
    (payments : List Payment) :
    Prop where
  money : ((lines.filter fun l => paidUnder payments l.providerReference).map (·.amount.amount)).sum
      - ((payments.filter fun p => mentions lines p.providerReference).map (·.amount)).sum
    = report.amountMismatches.total (·.2.amount)
  matched : ∀ p ∈ payments, mentions lines p.providerReference = true →
    (report.files lines payments p.providerReference .matched = true ↔ lineTotal lines p.providerReference = p.amount)
  count : report.matched = payments.countP fun p => report.files lines payments p.providerReference .matched
  accounted : ∀ reference, mentions lines reference = true ∨ paidUnder payments reference = true →
    ∃! place, report.files lines payments reference place = true

/-- Every line whose reference was paid on the platform, and has a later line, is of amount zero. -/
def LastLinesCount (lines : List ProviderSettlement) (payments : List Payment) : Prop :=
  ∀ earlier line later, lines = earlier ++ line :: later → paidUnder payments line.providerReference = true →
    mentions later line.providerReference = true → line.amount.amount = 0

/-! ## The last line of a reference -/

/-- The amount of the last line with a reference. -/
def lastAmount (reference : String) : List ProviderSettlement → Option Int
  | [] => none
  | settlement :: rest => (lastAmount reference rest).or
      (if settlement.providerReference = reference then some settlement.amount.amount else none)

section

variable {lines : List ProviderSettlement} {payments : List Payment} {reference : String}

theorem lastAmount_isSome : (lastAmount reference lines).isSome = mentions lines reference := by
  induction lines with
  | nil => rfl
  | cons l rest ih =>
    unfold lastAmount mentions
    rw [Option.isSome_or, ih, List.any_cons]
    unfold mentions
    split <;> simp_all

/-- The map of the lines has the last amount of each reference. -/
theorem providerAmounts_ok {m m' : Table (String × Int)} (h : providerAmounts m lines = .ok m') (reference : String) :
    m'.get? reference = ((lastAmount reference lines).map fun a => (reference, a)).or (m.get? reference) := by
  induction lines generalizing m with
  | nil =>
    cases h
    rfl
  | cons l rest ih =>
    unfold providerAmounts at h
    cases valid : validateMoney l.amount with
    | error e =>
      rw [valid] at h
      cases h
    | ok _ =>
      rw [valid] at h
      rw [ih h, Table.get?_upsert, lastAmount]
      cases lastAmount reference rest with
      | some a => rfl
      | none =>
        by_cases same : l.providerReference = reference
        · simp [same, Keyed.key]
        · simp [same, Keyed.key]

/-- Accepted lines have no negative amounts. -/
theorem providerAmounts_nonneg {m m' : Table (String × Int)} (h : providerAmounts m lines = .ok m') :
    ∀ l ∈ lines, 0 ≤ l.amount.amount := by
  induction lines generalizing m with
  | nil => exact fun l hl => absurd hl List.not_mem_nil
  | cons l rest ih =>
    unfold providerAmounts at h
    cases valid : validateMoney l.amount with
    | error e =>
      rw [valid] at h
      cases h
    | ok _ =>
      rw [valid] at h
      intro x hx
      rcases List.mem_cons.1 hx with rfl | hx
      · unfold validateMoney at valid
        split at valid
        · cases valid
        · split at valid
          · cases valid
          · omega
      · exact ih h x hx

theorem lineTotal_cons (l : ProviderSettlement) (rest : List ProviderSettlement) (reference : String) :
    lineTotal (l :: rest) reference =
      (if l.providerReference = reference then l.amount.amount else 0) + lineTotal rest reference := by
  unfold lineTotal
  by_cases same : l.providerReference = reference <;> simp [same]

theorem lineTotal_unmentioned (h : mentions lines reference = false) : lineTotal lines reference = 0 := by
  unfold mentions at h
  unfold lineTotal
  rw [List.filter_eq_nil_iff.2 fun l hl => by simpa using List.any_eq_false.1 h l hl]
  rfl

/-- What holds of every line and the lines after it. -/
theorem forall_split_cons {Q : ProviderSettlement → List ProviderSettlement → Prop} {x : ProviderSettlement}
    {rest : List ProviderSettlement} :
    (∀ earlier line later, x :: rest = earlier ++ line :: later → Q line later) ↔
      Q x rest ∧ ∀ earlier line later, rest = earlier ++ line :: later → Q line later := by
  constructor
  · intro h
    exact ⟨h [] x rest rfl, fun earlier line later split => h (x :: earlier) line later (by rw [split]; rfl)⟩
  · rintro ⟨first, others⟩ earlier line later split
    cases earlier with
    | nil =>
      obtain ⟨rfl, rfl⟩ := List.cons.inj split
      exact first
    | cons y earlier => exact others earlier line later (List.cons.inj split).2

/-- The last line of a reference is part of the total, and it is the total when the lines before it are zero. -/
theorem lastAmount_total (nonneg : ∀ l ∈ lines, 0 ≤ l.amount.amount) {a : Int}
    (h : lastAmount reference lines = some a) :
    a ≤ lineTotal lines reference ∧
      (lineTotal lines reference = a ↔ ∀ earlier line later, lines = earlier ++ line :: later →
        line.providerReference = reference → mentions later reference = true → line.amount.amount = 0) := by
  induction lines with
  | nil => cases h
  | cons l rest ih =>
    have first : 0 ≤ l.amount.amount := nonneg l (List.mem_cons_self ..)
    have mentioned : (lastAmount reference rest).isSome = mentions rest reference := lastAmount_isSome
    rw [lineTotal_cons, forall_split_cons]
    unfold lastAmount at h
    cases last : lastAmount reference rest with
    | some b =>
      rw [last] at h mentioned
      cases h
      obtain ⟨le, same⟩ := ih (fun x hx => nonneg x (List.mem_cons_of_mem _ hx)) last
      rw [← same]
      -- a later line counts, so this one must be of another reference or zero
      by_cases here : l.providerReference = reference
      · rw [if_pos here]
        simp only [here, ← mentioned, Option.isSome_some, forall_const]
        constructor
        · omega
        · constructor
          · intro whole
            exact ⟨by omega, by omega⟩
          · rintro ⟨zero, whole⟩
            omega
      · rw [if_neg here, zero_add]
        simp only [here, false_implies, true_and]
        exact ⟨le, trivial⟩
    | none =>
      rw [last] at h mentioned
      have unmentioned : mentions rest reference = false := by rw [← mentioned]; rfl
      rw [lineTotal_unmentioned unmentioned]
      by_cases here : l.providerReference = reference
      · rw [if_pos here] at h ⊢
        cases h
        refine ⟨by omega, fun _ => ⟨fun _ later => ?_, fun earlier line later split same later' => ?_⟩,
          fun _ => by omega⟩
        · rw [unmentioned] at later
          cases later
        · -- the rest has no line of the reference
          have mem : line ∈ rest := by rw [split]; simp
          unfold mentions at unmentioned
          have := List.any_eq_false.1 unmentioned line mem
          simp [same] at this
      · rw [if_neg here] at h
        cases h

end

/-! ## The comparison of the two maps -/

section

variable {provider : Table (String × Int)}

/-- The provider has the reference with this amount. -/
def agrees (provider : Table (String × Int)) (entry : String × Int) : Bool :=
  (provider.get? entry.1).any (·.2 == entry.2)

/-- The provider has the reference with another amount. -/
def differs (provider : Table (String × Int)) (entry : String × Int) : Bool :=
  (provider.get? entry.1).any (·.2 != entry.2)

/-- What the provider has above the platform under a reference both have. -/
def gap (provider : Table (String × Int)) (entry : String × Int) : Int :=
  ((provider.get? entry.1).map fun e => wrapping (e.2 - entry.2)).getD 0

/-- A comparison counts the entries that agree and lists the others that both sides have. -/
theorem compare_fold {es : List (String × Int)} (nodup : (es.map Prod.fst).Nodup) {n : Int} {t : Table (String × Money)}
    (fresh : ∀ e ∈ es, t.get? e.1 = none) :
    (es.foldl (compareEntry provider) (n, t)).1 = n + es.countP (agrees provider) ∧
      (es.foldl (compareEntry provider) (n, t)).2.total (·.2.amount) =
        t.total (·.2.amount) + (es.map (gap provider)).sum ∧
      ∀ k, ((es.foldl (compareEntry provider) (n, t)).2.get? k).isNone =
        ((t.get? k).isNone && !es.any fun e => e.1 == k && differs provider e) := by
  induction es generalizing n t with
  | nil => simp
  | cons e rest ih =>
    rw [List.map_cons, List.nodup_cons] at nodup
    obtain ⟨apart, nodup⟩ := nodup
    have others : ∀ x ∈ rest, t.get? x.1 = none := fun x hx => fresh x (List.mem_cons_of_mem _ hx)
    rw [List.foldl_cons]
    cases found : provider.get? e.1 with
    | none =>
      -- the provider has no line for it
      obtain ⟨count, sum, listed⟩ := ih nodup (n := n) others
      have step : compareEntry provider (n, t) e = (n, t) := by simp [compareEntry, found]
      have agree : agrees provider e = false := by simp [agrees, found]
      have differ : differs provider e = false := by simp [differs, found]
      have nothing : gap provider e = 0 := by simp [gap, found]
      rw [step, List.countP_cons, agree, List.map_cons, List.sum_cons, nothing]
      refine ⟨by simpa using count, by simpa using sum, fun k => ?_⟩
      rw [listed, List.any_cons, differ, Bool.and_false, Bool.false_or]
    | some own =>
      obtain ⟨reference, amount⟩ := own
      by_cases same : amount = e.2
      -- the two amounts agree
      · obtain ⟨count, sum, listed⟩ := ih nodup (n := n + 1) others
        have step : compareEntry provider (n, t) e = (n + 1, t) := by simp [compareEntry, found, same]
        have agree : agrees provider e = true := by simp [agrees, found, same]
        have differ : differs provider e = false := by simp [differs, found, same]
        have nothing : gap provider e = 0 := by simp [gap, found, same, wrapping_of_fits fits_zero]
        rw [step, List.countP_cons, agree, List.map_cons, List.sum_cons, nothing]
        refine ⟨by rw [count, if_pos rfl]; push_cast; ring, by simpa using sum, fun k => ?_⟩
        rw [listed, List.any_cons, differ, Bool.and_false, Bool.false_or]
      -- they differ, and the reference is listed with the difference
      · have absent : t.get? e.1 = none := fresh e (List.mem_cons_self ..)
        obtain ⟨t', inserted⟩ :=
          Table.insert?_of_none (show t.get? (key (e.1, Money.cny (wrapping (amount - e.2)))) = none from absent)
        have step : compareEntry provider (n, t) e = (n, t') := by
          simp [compareEntry, found, same, Table.upsert, inserted]
        have later : ∀ x ∈ rest, t'.get? x.1 = none := fun x hx => by
          have ne : e.1 ≠ x.1 := fun h => apart (h ▸ List.mem_map_of_mem hx)
          rw [Table.get?_insert? inserted]
          exact (if_neg ne).trans (others x hx)
        obtain ⟨count, sum, listed⟩ := ih nodup (n := n) later
        have agree : agrees provider e = false := by simp [agrees, found, same]
        have differ : differs provider e = true := by simp [differs, found, same]
        have value : gap provider e = wrapping (amount - e.2) := by simp [gap, found]
        rw [step, List.countP_cons, agree, List.map_cons, List.sum_cons, value]
        refine ⟨by simpa using count, ?_, fun k => ?_⟩
        · rw [sum, Table.total_insert? inserted]
          simp only [Money.cny]
          omega
        · rw [listed, List.any_cons, differ, Table.get?_insert? inserted]
          have own : key (e.1, Money.cny (wrapping (amount - e.2))) = e.1 := rfl
          rw [own]
          by_cases here : e.1 = k
          · simp [here]
          · rw [if_neg here, beq_false_of_ne here, Bool.false_and, Bool.false_or]

end

/-! ## The maps of the two sides -/

section

variable {payments : List Payment} {lines : List ProviderSettlement} {m : Table (String × Int)} {reference : String}

theorem entries_perm {β : Type} (m : Table (String × β)) : (entries m).Perm m.rows := List.mergeSort_perm ..

theorem entries_nodup {β : Type} (m : Table (String × β)) : ((entries m).map Prod.fst).Nodup :=
  ((entries_perm m).map Prod.fst).nodup_iff.2 m.nodup

theorem keysOnly_contains (m other : Table (String × Int)) (reference : String) :
    (keysOnly m other).contains reference = ((m.get? reference).isSome && (other.get? reference).isNone) := by
  rw [Bool.eq_iff_iff, List.contains_iff_mem, keysOnly, List.mem_filter, Bool.and_eq_true, and_congr_left_iff]
  intro _
  rw [((entries_perm m).map Prod.fst).mem_iff]
  constructor
  · intro mem
    obtain ⟨e, he, rfl⟩ := List.mem_map.1 mem
    exact Option.isSome_iff_exists.2 ⟨e, Table.get?_of_mem (show e ∈ m from he)⟩
  · intro found
    obtain ⟨e, he⟩ := Option.isSome_iff_exists.1 found
    exact List.mem_map.2 ⟨e, Table.get?_mem he, Table.get?_key he⟩

/-- Payments with different references are the entries of their map. -/
theorem platformAmounts_perm (once : (payments.map (·.providerReference)).Nodup) :
    (entries (platformAmounts payments)).Perm (payments.map fun p => (p.providerReference, p.amount)) := by
  have fold : ∀ (ps : List Payment) (t : Table (String × Int)), (ps.map (·.providerReference)).Nodup →
      (∀ p ∈ ps, t.get? p.providerReference = none) →
      (ps.foldl (fun m p => m.upsert (p.providerReference, p.amount)) t).rows.Perm
        (ps.map (fun p => (p.providerReference, p.amount)) ++ t.rows) := by
    intro ps
    induction ps with
    | nil => exact fun t _ _ => .refl _
    | cons p rest ih =>
      intro t nodup fresh
      rw [List.map_cons, List.nodup_cons] at nodup
      obtain ⟨t', inserted⟩ := Table.insert?_of_none
        (show t.get? (key (p.providerReference, p.amount)) = none from fresh p (List.mem_cons_self ..))
      have step : t.upsert (p.providerReference, p.amount) = t' := by simp [Table.upsert, inserted]
      rw [List.foldl_cons, step]
      refine (ih t' nodup.2 fun x hx => ?_).trans ?_
      · have ne : p.providerReference ≠ x.providerReference := fun h => nodup.1 (h ▸ List.mem_map_of_mem hx)
        rw [Table.get?_insert? inserted]
        exact (if_neg ne).trans (fresh x (List.mem_cons_of_mem _ hx))
      · rw [(Table.insert?_some inserted).2, List.map_cons, List.cons_append]
        exact List.perm_middle
  refine (entries_perm _).trans ?_
  have rows := fold payments Table.empty once fun p _ => rfl
  rw [show (Table.empty : Table (String × Int)).rows = [] from rfl, List.append_nil] at rows
  exact rows

theorem platformAmounts_found (once : (payments.map (·.providerReference)).Nodup) (reference : String) :
    ((platformAmounts payments).get? reference).isSome = paidUnder payments reference := by
  have perm := (entries_perm _).symm.trans (platformAmounts_perm once)
  unfold paidUnder
  rw [Bool.eq_iff_iff, List.any_eq_true, Option.isSome_iff_exists]
  constructor
  · rintro ⟨e, he⟩
    obtain ⟨p, hp, rfl⟩ := List.mem_map.1 (perm.mem_iff.1 (Table.get?_mem he))
    exact ⟨p, hp, by simpa [Keyed.key] using Table.get?_key he⟩
  · rintro ⟨p, hp, same⟩
    have mem : (p.providerReference, p.amount) ∈ platformAmounts payments :=
      perm.mem_iff.2 (List.mem_map.2 ⟨p, hp, rfl⟩)
    exact ⟨_, (beq_iff_eq.1 same) ▸ Table.get?_of_mem mem⟩

/-- The amount the provider's map has for a reference, zero when it has none. -/
def lastOr (lines : List ProviderSettlement) (reference : String) : Int := (lastAmount reference lines).getD 0

theorem lastOr_le (nonneg : ∀ l ∈ lines, 0 ≤ l.amount.amount) (reference : String) :
    lastOr lines reference ≤ lineTotal lines reference := by
  unfold lastOr
  cases last : lastAmount reference lines with
  | some a => exact (lastAmount_total nonneg last).1
  | none =>
    have : mentions lines reference = false := by
      rw [← lastAmount_isSome, last]
      rfl
    rw [lineTotal_unmentioned this]
    rfl

/-- Only the last lines count when under every paid reference the total is the last amount. -/
theorem lastLinesCount_iff (nonneg : ∀ l ∈ lines, 0 ≤ l.amount.amount) :
    LastLinesCount lines payments ↔ ∀ p ∈ payments, lineTotal lines p.providerReference =
      lastOr lines p.providerReference := by
  unfold LastLinesCount lastOr
  constructor
  · intro h p hp
    have paid : paidUnder payments p.providerReference = true := List.any_eq_true.2 ⟨p, hp, beq_self_eq_true _⟩
    cases last : lastAmount p.providerReference lines with
    | some a =>
      apply (lastAmount_total nonneg last).2.2
      rintro earlier line later split same mentioned
      rw [← same] at paid mentioned
      exact h earlier line later split paid mentioned
    | none =>
      have : mentions lines p.providerReference = false := by
        rw [← lastAmount_isSome, last]
        rfl
      rw [lineTotal_unmentioned this]
      rfl
  · intro h earlier line later split paid mentioned
    obtain ⟨p, hp, same⟩ := List.any_eq_true.1 paid
    have same : p.providerReference = line.providerReference := beq_iff_eq.1 same
    have whole := h p hp
    rw [same] at whole
    cases last : lastAmount line.providerReference lines with
    | some a =>
      rw [last] at whole
      exact (lastAmount_total nonneg last).2.1 whole earlier line later split rfl mentioned
    | none =>
      have : mentions lines line.providerReference = true := by
        rw [split]
        unfold mentions
        simp
      rw [← lastAmount_isSome, last] at this
      cases this

/-! ## Sums over the references of both sides -/

/-- One reference is met once. -/
theorem sum_single (once : (payments.map (·.providerReference)).Nodup) (reference : String) (a : Int) :
    (payments.map fun p => if reference = p.providerReference then a else 0).sum =
      if paidUnder payments reference then a else 0 := by
  induction payments with
  | nil => rfl
  | cons p rest ih =>
    rw [List.map_cons, List.nodup_cons] at once
    rw [List.map_cons, List.sum_cons, ih once.2]
    have paid : paidUnder (p :: rest) reference = (p.providerReference == reference || paidUnder rest reference) := rfl
    by_cases here : reference = p.providerReference
    · have others : paidUnder rest reference = false := by
        refine List.any_eq_false.2 fun x hx same => once.1 ?_
        rw [← here, ← beq_iff_eq.1 same]
        exact List.mem_map_of_mem hx
      rw [paid, others, here]
      simp
    · rw [paid, if_neg here, beq_false_of_ne fun h => here h.symm, Bool.false_or, zero_add]

/-- The lines of the paid references, reference by reference. -/
theorem sum_paid (once : (payments.map (·.providerReference)).Nodup) (lines : List ProviderSettlement) :
    ((lines.filter fun l => paidUnder payments l.providerReference).map (·.amount.amount)).sum =
      (payments.map fun p => lineTotal lines p.providerReference).sum := by
  induction lines with
  | nil => simp [lineTotal]
  | cons l others ih =>
    simp only [lineTotal_cons]
    rw [List.sum_map_add, sum_single once, ← ih, List.filter_cons]
    by_cases paid : paidUnder payments l.providerReference = true
    · rw [if_pos paid, if_pos paid, List.map_cons, List.sum_cons]
    · rw [if_neg paid, if_neg paid, zero_add]

/-- Sums of larger terms are equal when the terms are. -/
theorem sum_eq_iff {α : Type} {f g : α → Int} {l : List α} (le : ∀ x ∈ l, f x ≤ g x) :
    (l.map g).sum = (l.map f).sum ↔ ∀ x ∈ l, g x = f x := by
  induction l with
  | nil => simp
  | cons x rest ih =>
    have first := le x (List.mem_cons_self ..)
    have others : ∀ y ∈ rest, f y ≤ g y := fun y hy => le y (List.mem_cons_of_mem _ hy)
    have sums : (rest.map f).sum ≤ (rest.map g).sum := List.sum_le_sum others
    rw [List.forall_mem_cons, ← ih others, List.map_cons, List.map_cons, List.sum_cons, List.sum_cons]
    omega

end

/-! ## Reconciliation -/

/-- The amounts of the payments are stored amounts: not negative, in `i64`, and one for each reference of a provider. -/
structure Books.Receivable (b : Books) : Prop where
  amounts : ∀ p ∈ b.payments, 0 ≤ p.amount ∧ Fits p.amount
  once : ∀ p ∈ b.payments, ∀ q ∈ b.payments, p.provider = q.provider → p.providerReference = q.providerReference → p = q

/-- What the platform received, in every run: a payment has the amount of its order. -/
theorem Move.received {k : Kind} {b b' : Books} (m : Move k b b') (s : b.Sound)
    (h : ∀ p ∈ b.payments, 0 ≤ p.amount ∧ Fits p.amount) :
    ∀ p ∈ b'.payments, 0 ≤ p.amount ∧ Fits p.amount := by
  cases m with
  | registry g =>
    rw [g.payments]
    exact h
  | topUp call a o id provider reference currency key description ps ha hp ho hpend hfit hi post =>
    obtain ⟨ts, es, rfl⟩ := post.eq
    intro p hp
    rcases (Table.mem_insert? hi).1 hp with rfl | hp
    · have pos := s.orders o ho
      obtain ⟨-, high⟩ := hfit
      unfold i64Max microsPerMinorUnit at high
      refine ⟨pos.le, ?_⟩
      show Fits o.amount
      unfold Fits i64Min i64Max
      omega
    · exact h p hp
  | settle call a r request amount us ha hp hr hs wf hin hout cost funds hi post =>
    obtain ⟨ts, es, rfl⟩ := post.eq
    exact h
  | usage call a e cost us ha hp unreserved priced funds hi post =>
    obtain ⟨ts, es, rfl⟩ := post.eq
    exact h
  | refund call a o p row key description rs ha hp ho hpay hprov hrow hst hpos le limit funds hi post =>
    obtain ⟨ts, es, rfl⟩ := post.eq
    exact h
  | prepare call a o p row key description rs ha hp ho hpay hprov hrow hst hpos limit funds hi post =>
    obtain ⟨ts, es, rfl⟩ := post.eq
    exact h
  | complete call a o p row trade ha hp ho hpay hprov hrow hpid hst post =>
    obtain ⟨ts, es, rfl⟩ := post.eq
    exact h
  | _ => exact h

theorem Op.runAll_received (digests : Digests) (ops : List Op) :
    ∀ p ∈ (Op.runAll digests ops Db.empty).books.payments, 0 ≤ p.amount ∧ Fits p.amount := by
  have moves := (Op.runAll_moves digests ops Good.empty).moves
  refine (moves.keeps (fun _ _ b b' m (h : b.Sound ∧ ∀ p ∈ b.payments, 0 ≤ p.amount ∧ Fits p.amount) =>
    ⟨m.sound h.1, m.received h.1 h.2⟩) ⟨.empty, ?_⟩).2
  exact fun p hp => absurd hp (Table.not_mem_empty p)

section

variable {db : Db} {b : Books} {tenant provider : String}

theorem Books.Receivable.nodup (h : b.Receivable) (tenant provider : String) :
    ((b.paidThrough tenant provider).map (·.providerReference)).Nodup := by
  have rows : (b.paidThrough tenant provider).Nodup := (List.Nodup.of_map _ b.payments.nodup).filter _
  refine rows.map_on fun p hp q hq same => ?_
  obtain ⟨hp, ofP⟩ := List.mem_filter.1 hp
  obtain ⟨hq, ofQ⟩ := List.mem_filter.1 hq
  simp only [Bool.and_eq_true, beq_iff_eq] at ofP ofQ
  exact h.once p hp q hq (ofP.1.1.trans ofQ.1.1.symm) same

/-- What a successful reconciliation reports. -/
theorem reconcile_ok {now : Int} {request : ReconcileRequest} {r : ReconciliationReport × Db}
    (h : reconcile now request db = .ok r) :
    ∃ amounts, providerAmounts Table.empty request.settlements = .ok amounts ∧
      let payments := db.books.paidThrough request.tenantId request.provider
      let compared := (entries (platformAmounts payments)).foldl (compareEntry amounts) (0, Table.empty)
      r.1.matched = compared.1 ∧ r.1.amountMismatches = compared.2 ∧
      r.1.platformOnly = keysOnly (platformAmounts payments) amounts ∧
      r.1.providerOnly = keysOnly amounts (platformAmounts payments) := by
  unfold reconcile at h
  simp only [Tx.reject_bind, Tx.read_bind] at h
  obtain ⟨-, h⟩ := h
  rw [checkDomain_bind] at h
  obtain ⟨amounts, ok, h⟩ := h
  cases Tx.pure_ok.1 h
  exact ⟨amounts, ok, rfl, rfl, rfl, rfl⟩

end

section

variable {lines : List ProviderSettlement} {payments : List Payment} {amounts : Table (String × Int)}

theorem lastAmount_mem {reference : String} {a : Int} (h : lastAmount reference lines = some a) :
    ∃ l ∈ lines, l.amount.amount = a := by
  induction lines with
  | nil => cases h
  | cons l rest ih =>
    unfold lastAmount at h
    cases last : lastAmount reference rest with
    | some b =>
      rw [last] at h
      obtain ⟨x, hx, same⟩ := ih (last.trans h)
      exact ⟨x, List.mem_cons_of_mem _ hx, same⟩
    | none =>
      rw [last, Option.none_or] at h
      split at h
      · cases h
        exact ⟨l, List.mem_cons_self .., rfl⟩
      · cases h

theorem gap_add (found : ∀ reference, amounts.get? reference = (lastAmount reference lines).map fun a => (reference, a))
    (typed : ∀ l ∈ lines, 0 ≤ l.amount.amount ∧ Fits l.amount.amount) {p : Payment}
    (stored : 0 ≤ p.amount ∧ Fits p.amount) :
    gap amounts (p.providerReference, p.amount) + (if mentions lines p.providerReference then p.amount else 0) =
      lastOr lines p.providerReference := by
  unfold gap lastOr
  rw [found, ← lastAmount_isSome]
  cases last : lastAmount p.providerReference lines with
  | none => rfl
  | some a =>
    obtain ⟨l, hl, rfl⟩ := lastAmount_mem last
    obtain ⟨nonneg, fits⟩ := typed l hl
    have sub : Fits (l.amount.amount - p.amount) := by
      obtain ⟨-, high⟩ := fits
      obtain ⟨nonneg', -, high'⟩ := stored
      unfold i64Max at high high'
      unfold Fits i64Min i64Max
      omega
    simp [wrapping_of_fits sub]

theorem agrees_iff (found : ∀ reference, amounts.get? reference = (lastAmount reference lines).map fun a =>
    (reference, a)) (p : Payment) :
    agrees amounts (p.providerReference, p.amount) = true ↔ lastAmount p.providerReference lines = some p.amount := by
  unfold agrees
  rw [found]
  cases lastAmount p.providerReference lines <;> simp

theorem differs_iff (found : ∀ reference, amounts.get? reference = (lastAmount reference lines).map fun a =>
    (reference, a)) (p : Payment) :
    differs amounts (p.providerReference, p.amount) = true ↔
      mentions lines p.providerReference = true ∧ lastAmount p.providerReference lines ≠ some p.amount := by
  unfold differs
  rw [found, ← lastAmount_isSome]
  cases lastAmount p.providerReference lines <;> simp

theorem sum_mentioned (lines : List ProviderSettlement) (payments : List Payment) :
    ((payments.filter fun p => mentions lines p.providerReference).map (·.amount)).sum =
      (payments.map fun p => if mentions lines p.providerReference then p.amount else 0).sum := by
  induction payments with
  | nil => rfl
  | cons p rest ih =>
    rw [List.filter_cons, List.map_cons, List.sum_cons, ← ih]
    by_cases here : mentions lines p.providerReference = true
    · rw [if_pos here, if_pos here, List.map_cons, List.sum_cons]
    · rw [if_neg here, if_neg here, zero_add]

end

/-- Four exclusive conditions that cover what either side has. -/
theorem filed_once {files : Filed → Bool} {mentioned paid listed : Bool}
    (matched : files .matched = (mentioned && paid && !listed)) (mismatch : files .mismatch = listed)
    (providerOnly : files .providerOnly = (mentioned && !paid))
    (platformOnly : files .platformOnly = (paid && !mentioned))
    (both : listed = true → mentioned = true ∧ paid = true) (either : mentioned = true ∨ paid = true) :
    ∃! place, files place = true := by
  cases mentioned with
  | false =>
    obtain rfl : paid = true := either.resolve_left nofun
    refine ⟨.platformOnly, platformOnly, fun place h => ?_⟩
    cases place <;> simp_all
  | true =>
    cases paid with
    | false =>
      refine ⟨.providerOnly, providerOnly, fun place h => ?_⟩
      cases place <;> simp_all
    | true =>
      cases listed with
      | false =>
        refine ⟨.matched, matched, fun place h => ?_⟩
        cases place <;> simp_all
      | true =>
        refine ⟨.mismatch, mismatch, fun place h => ?_⟩
        cases place <;> simp_all

/-- A reconciliation accounts for the money of both sides exactly when of every reference paid on the platform
only the last line has an amount. -/
theorem reconcile_conserves_iff {db : Db} (stored : db.books.Receivable) {now : Int} {request : ReconcileRequest}
    (typed : ∀ l ∈ request.settlements, Fits l.amount.amount) {r : ReconciliationReport × Db}
    (h : reconcile now request db = .ok r) :
    r.1.Conserves request.settlements (db.books.paidThrough request.tenantId request.provider) ↔
      LastLinesCount request.settlements (db.books.paidThrough request.tenantId request.provider) := by
  obtain ⟨amounts, ok, count, listed, platformOnly, providerOnly⟩ := reconcile_ok h
  have once := stored.nodup request.tenantId request.provider
  have payable : ∀ p ∈ db.books.paidThrough request.tenantId request.provider, 0 ≤ p.amount ∧ Fits p.amount :=
    fun p hp => stored.amounts p (List.mem_of_mem_filter hp)
  generalize db.books.paidThrough request.tenantId request.provider = payments at *
  generalize request.settlements = lines at *
  have nonneg := providerAmounts_nonneg ok
  have found : ∀ reference, amounts.get? reference = (lastAmount reference lines).map fun a => (reference, a) :=
    fun reference => by
    rw [providerAmounts_ok ok, Table.get?_empty, Option.or_none]
  have perm := platformAmounts_perm once
  obtain ⟨counted, sum, absent⟩ := @compare_fold amounts _ (entries_nodup (platformAmounts payments)) 0 Table.empty
    fun e _ => rfl
  rw [← count, perm.countP_eq, List.countP_map, zero_add] at counted
  rw [← listed, (perm.map _).sum_eq, List.map_map] at sum
  simp only [← listed, perm.any_eq, List.any_map, Table.get?_empty] at absent
  -- a paid reference is listed when its last line differs, and another reference is not listed
  have listed_iff : ∀ p ∈ payments, ((r.1.amountMismatches.get? p.providerReference).isNone = true ↔
      ¬(mentions lines p.providerReference = true ∧ lastAmount p.providerReference lines ≠ some p.amount)) := by
    intro p hp
    have own : (payments.any fun q => q.providerReference == p.providerReference &&
      differs amounts (q.providerReference, q.amount)) =
        differs amounts (p.providerReference, p.amount) := by
      rw [Bool.eq_iff_iff, List.any_eq_true]
      constructor
      · rintro ⟨q, hq, h⟩
        rw [Bool.and_eq_true, beq_iff_eq] at h
        obtain rfl := List.inj_on_of_nodup_map once hq hp h.1
        exact h.2
      · intro h
        exact ⟨p, hp, by rw [beq_self_eq_true, h]; rfl⟩
    rw [absent, ← differs_iff found p, ← own, Bool.not_eq_true]
    simp [Function.comp_def]
  have unlisted : ∀ reference, (r.1.amountMismatches.get? reference).isSome = true →
      mentions lines reference = true ∧ paidUnder payments reference = true := by
    intro reference some_
    have := absent reference
    rw [Option.isNone_eq_false_iff.2 some_] at this
    obtain ⟨p, hp, h⟩ : ∃ p ∈ payments, (p.providerReference == reference &&
        differs amounts (p.providerReference, p.amount)) = true := by
      simpa [Function.comp_def] using this
    rw [Bool.and_eq_true, beq_iff_eq] at h
    obtain ⟨rfl, differ⟩ := h
    exact ⟨((differs_iff found p).1 differ).1, List.any_eq_true.2 ⟨p, hp, beq_self_eq_true _⟩⟩
  have files_matched : ∀ p ∈ payments, (r.1.files lines payments p.providerReference .matched = true ↔
      lastAmount p.providerReference lines = some p.amount) := by
    intro p hp
    have paid : paidUnder payments p.providerReference = true := List.any_eq_true.2 ⟨p, hp, beq_self_eq_true _⟩
    unfold ReconciliationReport.files
    rw [paid, Bool.and_true, Bool.and_eq_true, listed_iff p hp, ← lastAmount_isSome]
    cases lastAmount p.providerReference lines <;> simp
  have gaps : (payments.map (gap amounts ∘ fun p => (p.providerReference, p.amount))).sum
      + ((payments.filter fun p => mentions lines p.providerReference).map (·.amount)).sum =
      (payments.map fun p => lastOr lines p.providerReference).sum := by
    rw [sum_mentioned, ← List.sum_map_add]
    congr 1
    exact List.map_congr_left fun p hp => gap_add found (fun l hl => ⟨nonneg l hl, typed l hl⟩) (payable p hp)
  have whole := sum_eq_iff fun p (_ : p ∈ payments) => lastOr_le nonneg p.providerReference
  rw [lastLinesCount_iff nonneg]
  constructor
  · intro h
    have money := h.money
    rw [sum_paid once, sum] at money
    apply whole.1
    simp only [Table.total, Table.empty, List.map_nil, List.sum_nil, zero_add] at money
    omega
  · intro h
    have totals := whole.2 h
    refine ⟨?_, fun p hp mentioned => ?_, ?_, fun reference either => ?_⟩
    · rw [sum_paid once, sum]
      simp only [Table.total, Table.empty, List.map_nil, List.sum_nil, zero_add]
      omega
    · rw [files_matched p hp, h p hp, lastOr]
      rw [← lastAmount_isSome] at mentioned
      obtain ⟨a, last⟩ := Option.isSome_iff_exists.1 mentioned
      rw [last]
      simp
    · rw [counted]
      congr 1
      refine List.countP_congr fun p hp => ?_
      rw [files_matched p hp, ← agrees_iff found p]
      rfl
    · have own : (r.1.amountMismatches.get? reference).isNone = !(r.1.amountMismatches.get? reference).isSome := by
        cases r.1.amountMismatches.get? reference <;> rfl
      have known : (amounts.get? reference).isSome = mentions lines reference := by
        rw [found, Option.isSome_map, lastAmount_isSome]
      have unknown : (amounts.get? reference).isNone = !mentions lines reference := by
        rw [← known]
        cases amounts.get? reference <;> rfl
      have paid := platformAmounts_found once reference
      have unpaid : ((platformAmounts payments).get? reference).isNone = !paidUnder payments reference := by
        rw [← paid]
        cases (platformAmounts payments).get? reference <;> rfl
      refine filed_once (by unfold ReconciliationReport.files; rw [own]) rfl ?_ ?_ (unlisted reference) either
      · unfold ReconciliationReport.files
        rw [providerOnly, keysOnly_contains, known, unpaid]
      · unfold ReconciliationReport.files
        rw [platformOnly, keysOnly_contains, paid, unknown]

/-! ## Samples -/

/-- One order of five minor units, paid under the reference `ref`. -/
def splitDb : Db :=
  { Db.empty with books := { Db.empty.books with
      orders := Table.empty.upsert ⟨"order", "tenant", "project", "top_up", 5, "CNY", .paid, ""⟩
      payments := Table.empty.upsert ⟨"payment", "order", "manual", "ref", 5, "CNY", .succeeded, some 0⟩ } }

/-- The provider settles the payment in two lines. -/
def splitRequest : ReconcileRequest := ⟨"tenant", "manual", [⟨"ref", Money.cny 2⟩, ⟨"ref", Money.cny 3⟩]⟩

/-- The provider settles the payment in one line, after one of no amount and one of a reference of its own. -/
def wholeRequest : ReconcileRequest :=
  ⟨"tenant", "manual", [⟨"ref", Money.cny 0⟩, ⟨"other", Money.cny 1⟩, ⟨"ref", Money.cny 5⟩]⟩

theorem splitDb_receivable : splitDb.books.Receivable := by
  have only : ∀ p ∈ splitDb.books.payments, p =
      ⟨"payment", "order", "manual", "ref", 5, "CNY", .succeeded, some 0⟩ := by
    intro p hp
    rcases Table.mem_upsert hp with rfl | ⟨hp, -⟩
    · rfl
    · exact absurd hp (Table.not_mem_empty p)
  refine ⟨fun p hp => ?_, fun p hp q hq _ _ => (only p hp).trans (only q hq).symm⟩
  rw [only p hp]
  decide

/-- Of two lines of one payment the first is lost: the total agrees with the platform, and a mismatch is reported. -/
theorem split_settlement_lost : splitDb.books.Receivable ∧ ∃ r, reconcile 0 splitRequest splitDb = .ok r ∧
    ¬r.1.Conserves splitRequest.settlements (splitDb.books.paidThrough splitRequest.tenantId
      splitRequest.provider) := by
  refine ⟨splitDb_receivable, ?_⟩
  have run : ∃ r, reconcile 0 splitRequest splitDb = .ok r ∧
      r.1.files splitRequest.settlements (splitDb.books.paidThrough "tenant" "manual") "ref" .matched = false :=
    Tx.exists_ok (by decide +kernel)
  obtain ⟨r, h, missing⟩ := run
  refine ⟨r, h, fun conserves => ?_⟩
  have paid : (⟨"payment", "order", "manual", "ref", 5, "CNY", .succeeded, some 0⟩ : Payment) ∈
    splitDb.books.paidThrough "tenant" "manual" := by decide
  have total := (conserves.matched _ paid (by decide)).2 (by decide)
  exact Bool.false_ne_true (missing.symm.trans total)

/-- A payment is accounted for when only its last line has an amount. -/
theorem whole_settlement_conserved : ∃ r, reconcile 0 wholeRequest splitDb = .ok r ∧ r.1.matched = 1 ∧
    r.1.Conserves wholeRequest.settlements (splitDb.books.paidThrough wholeRequest.tenantId wholeRequest.provider) := by
  have run : ∃ r, reconcile 0 wholeRequest splitDb = .ok r ∧ r.1.matched = 1 := Tx.exists_ok (by decide +kernel)
  have typed : ∀ l ∈ wholeRequest.settlements, Fits l.amount.amount := by decide
  obtain ⟨r, h, matched⟩ := run
  refine ⟨r, h, matched, (reconcile_conserves_iff splitDb_receivable typed h).2 ?_⟩
  rintro earlier line later split paid mentioned
  rcases earlier with _ | ⟨first, _ | ⟨second, _ | ⟨third, earlier⟩⟩⟩
  · obtain ⟨rfl, -⟩ := List.cons.inj split
    rfl
  · -- the platform has no payment of the other reference
    obtain ⟨rfl, -⟩ := List.cons.inj (List.cons.inj split).2
    cases paid
  · -- no line follows the last one
    obtain ⟨-, rfl⟩ := List.cons.inj (List.cons.inj (List.cons.inj split).2).2
    cases mentioned
  · have longer := congrArg List.length split
    simp [wholeRequest] at longer

end Xscope
