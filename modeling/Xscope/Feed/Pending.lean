/-
The reservations that wait for usage evidence. A reconciler reads them page by page, under a cutoff that
stays, while reservations are made, settled and waived: what waits the whole time is returned once.
-/
import Xscope.Base.Paging
import Xscope.Billing.Runs
import Xscope.Payments.Conservation
import Mathlib.Data.Prod.Lex
import Mathlib.Data.String.Basic

namespace Xscope

variable {digests : Digests}

/-! ## Requests and answers -/

def pageLimit : Nat := 50

/-- Five minutes, in microseconds. -/
def pendingAge : Int := 300000000

structure PendingRequest where
  limit : Nat := pageLimit
  createdBefore : Option Int
  afterCreatedAt : Option Int
  afterId : Option String
  deriving DecidableEq

structure PendingNext where
  afterCreatedAt : Int
  afterId : String
  createdBefore : Int
  deriving DecidableEq

structure PendingPage where
  data : List Reservation
  createdBefore : Int
  next : Option PendingNext
  requiresUsageEvidence : Bool
  deriving DecidableEq

def PendingRequest.wellFormed (request : PendingRequest) : Bool :=
  decide (1 ≤ request.limit ∧ request.limit ≤ 100) && request.afterId.isSome == request.afterCreatedAt.isSome &&
    request.afterId.all identifier

def PendingRequest.cutoff (request : PendingRequest) (now : Int) : Int := request.createdBefore.getD (now - pendingAge)

/-- The row comes after the row that the request names, by its creation and then by its id. -/
def PendingRequest.isAfter (request : PendingRequest) (r : Reservation) : Bool :=
  match request.afterCreatedAt, request.afterId with
  | some createdAt, some id => decide (createdAt < r.createdAt ∨ r.createdAt = createdAt ∧ id < r.id)
  | _, _ => true

def pendingOrder (a b : Reservation) : Bool :=
  decide (a.createdAt < b.createdAt ∨ a.createdAt = b.createdAt ∧ a.id ≤ b.id)

def pendingReservations (now : Int) (project : String) (request : PendingRequest) : DbTx PendingPage := do
  Tx.reject (request.wellFormed = false) (.invalid "invalid pending-reservation limit or cursor")
  let cutoff := request.cutoff now
  Tx.reject (now < cutoff) (.invalid "created_before must not be in the future")
  let account ← findWhere Slot.accounts fun a => a.projectId == project
  let account ← Tx.expect account .notFound
  let found ← selectWhere Slot.reservations fun r => (r.billingAccountId == account.id && r.state == .dispatched &&
    decide (r.createdAt ≤ cutoff)) && request.isAfter r
  let rows := (found.mergeSort pendingOrder).take (request.limit + 1)
  let hasMore := decide (request.limit < rows.length)
  let rows := if hasMore then rows.dropLast else rows
  let next := if hasMore then rows.getLast?.map fun r => ⟨r.createdAt, r.id, cutoff⟩ else none
  pure ⟨rows, cutoff, next, true⟩

/-! ## A page as a keyset page -/

/-- The reservations of an account that wait for evidence and were created up to the cutoff. -/
def Books.pending (b : Books) (account : String) (cutoff : Int) : List Reservation :=
  b.reservations.select fun r => r.billingAccountId == account && r.state == .dispatched &&
    decide (r.createdAt ≤ cutoff)

/-- The reservations in the order of their creation, ties by their ids. -/
def pendingKey (r : Reservation) : Int ×ₗ String := toLex (r.createdAt, r.id)

theorem pendingKey_lt {a b : Reservation} :
    pendingKey a < pendingKey b ↔ a.createdAt < b.createdAt ∨ a.createdAt = b.createdAt ∧ a.id < b.id :=
  Prod.Lex.toLex_lt_toLex

theorem pendingKey_eq {a b : Reservation} : pendingKey a = pendingKey b ↔ a.createdAt = b.createdAt ∧ a.id = b.id := by
  unfold pendingKey
  rw [toLex_inj, Prod.mk.injEq]

/-- Where a request goes on. -/
def PendingRequest.position (request : PendingRequest) : Option (Int ×ₗ String) :=
  match request.afterCreatedAt, request.afterId with
  | some createdAt, some id => some (toLex (createdAt, id))
  | _, _ => none

/-- The answer that shows a keyset page. -/
def PendingPage.of (cutoff : Int) (page : Keyset.Page Reservation (Int ×ₗ String)) : PendingPage :=
  ⟨page.rows, cutoff, page.next.map fun k => ⟨(ofLex k).1, (ofLex k).2, cutoff⟩, true⟩

theorem mem_pending {b : Books} {account : String} {cutoff : Int} {r : Reservation} : r ∈ b.pending account cutoff ↔
    r ∈ b.reservations ∧ r.billingAccountId = account ∧ r.state = .dispatched ∧ r.createdAt ≤ cutoff := by
  unfold Books.pending Table.select
  rw [List.mem_filter]
  simp only [Bool.and_eq_true, beq_iff_eq, decide_eq_true_eq, and_assoc]
  rfl

theorem pending_keys (b : Books) (account : String) (cutoff : Int) :
    ((b.pending account cutoff).map pendingKey).Nodup := by
  have ids : (b.reservations.rows.map pendingKey).Nodup := by
    refine List.Nodup.map_on (fun x hx y hy same => ?_) (List.Nodup.of_map _ b.reservations.nodup)
    exact Table.eq_of_key hx hy (pendingKey_eq.1 same).2
  exact ids.sublist (List.filter_sublist.map pendingKey)

theorem isAfter_position (request : PendingRequest) (r : Reservation) :
    request.isAfter r = request.position.all fun p => decide (p < pendingKey r) := by
  unfold PendingRequest.isAfter PendingRequest.position
  split
  · refine decide_eq_decide.2 ?_
    rw [pendingKey, Prod.Lex.toLex_lt_toLex]
    exact or_congr_right (and_congr_left' eq_comm)
  · rfl

theorem pendingOrder_key (a b : Reservation) : pendingOrder a b = decide (pendingKey a ≤ pendingKey b) := by
  apply decide_eq_decide.2
  rw [pendingKey, pendingKey, Prod.Lex.toLex_le_toLex]

/-- A request that is well formed and not ahead of the clock is answered with the page of its position. -/
theorem pendingReservations_page {now cutoff : Int} {project : String} {request : PendingRequest} {db : Db}
    {a : BillingAccount} (valid : request.wellFormed = true) (cut : request.cutoff now = cutoff) (clock : cutoff ≤ now)
    (owner : db.books.accounts.find (fun a => a.projectId == project) = some a) :
    pendingReservations now project request db =
      .ok (.of cutoff (Keyset.page pendingKey request.limit request.position (db.books.pending a.id cutoff)), db) := by
  have found : (db.books.reservations.select fun r => (r.billingAccountId == a.id && r.state == .dispatched &&
      decide (r.createdAt ≤ cutoff)) && request.isAfter r).mergeSort pendingOrder =
      Keyset.after pendingKey request.position (db.books.pending a.id cutoff) := by
    have order : pendingOrder = fun a b => decide (pendingKey a ≤ pendingKey b) := funext₂ pendingOrder_key
    unfold Keyset.after Books.pending Table.select
    rw [List.filter_filter, order]
    congr 1
    refine List.filter_congr fun r _ => ?_
    rw [isAfter_position, Bool.and_comm]
  have account : findWhere Slot.accounts (fun a => a.projectId == project) db = .ok (some a, db) := by
    show Except.ok (db.books.accounts.find fun a => a.projectId == project, db) = _
    rw [owner]
  unfold pendingReservations
  rw [Tx.bind_of_ok (Tx.reject_of_not (by rw [valid]; decide)), cut, Tx.bind_of_ok (Tx.reject_of_not (not_lt.2 clock)),
    Tx.bind_of_ok account, Tx.bind_of_ok (Tx.expect_some rfl), selectWhere_bind]
  have listed : (Slot.reservations.get db) = db.books.reservations := rfl
  rw [listed, found]
  -- the two pages differ in how they write the key to go on after
  unfold PendingPage.of Keyset.page
  simp only
  split
  · rw [Option.map_map]
    rfl
  · rfl

/-- A page of waiting reservations that are listed in their order. -/
theorem pendingReservations_listed {now cutoff : Int} {project account : String} {request : PendingRequest} {db : Db}
    {listed : List Reservation} (valid : request.wellFormed = true) (cut : request.cutoff now = cutoff)
    (clock : cutoff ≤ now) (owner : (db.books.accounts.find fun a => a.projectId == project).map (·.id) = some account)
    (perm : listed.Perm ((db.books.pending account cutoff).filter request.isAfter))
    (strict : listed.Pairwise fun x y => x.createdAt < y.createdAt ∨ x.createdAt = y.createdAt ∧ x.id < y.id) :
    pendingReservations now project request db = .ok (.of cutoff ⟨listed.take request.limit,
      if request.limit < listed.length then (listed.take request.limit).getLast?.map pendingKey else none⟩, db) := by
  obtain ⟨a, found, rfl⟩ := Option.map_eq_some_iff.1 owner
  have after : Keyset.after pendingKey request.position (db.books.pending a.id cutoff) = listed := by
    rw [List.filter_congr fun r _ => isAfter_position request r] at perm
    exact mergeSort_eq pendingKey perm (strict.imp pendingKey_lt.2)
  rw [pendingReservations_page valid cut clock found, ← after, ← Keyset.page_next, ← Keyset.page_rows]

/-! ## What every move keeps -/

section Kept

variable {b b' c : Books}

/-- A reservation is created with an identifier. -/
def Books.Identified (b : Books) : Prop := ∀ r ∈ b.reservations, identifier r.id = true

theorem Move.identified {k : Kind} (m : Move k b b') (h : b.Identified) : b'.Identified := by
  by_cases admits : ∃ now, k = .reserve now
  · obtain ⟨now, rfl⟩ := admits
    cases m with
    | reserve now a request entry key amount rs ha hp wf hm hid hk hkid cost fresh unused funds budget hi =>
      intro r hr
      rcases (Table.mem_insert? hi).1 hr with rfl | hr
      · have ids := (Bool.and_eq_true_iff.1 (Bool.and_eq_true_iff.1 wf).1).1
        exact List.all_eq_true.1 ids request.id List.mem_cons_self
      · exact h r hr
  · intro r hr
    obtain ⟨old, ho, terms⟩ := m.origin (fun now same => admits ⟨now, same⟩) r hr
    rw [terms.id]
    exact h old ho

theorem Carried.trans (h : Carried b b') (h' : Carried b' c) : Carried b c := by
  intro r hr
  obtain ⟨r', hr', step⟩ := h r hr
  obtain ⟨r'', hr'', step'⟩ := h' r' hr'
  exact ⟨r'', hr'', step.trans step'⟩

/-- A reservation seen before and after has the same creation. -/
theorem Carried.createdAt (h : Carried b b') {r r' : Reservation} (hr : r ∈ b.reservations) (hr' : r' ∈ b'.reservations)
    (same : r'.id = r.id) : r'.createdAt = r.createdAt := by
  obtain ⟨x, hx, step⟩ := h r hr
  rw [Table.eq_of_key hr' hx (same.trans step.terms.id.symm)]
  exact step.terms.createdAt

end Kept

/-- What a page needs of the database it is read from. -/
structure Db.Pageable (db : Db) (project account : String) : Prop where
  good : Good db.books db.projections
  identified : db.books.Identified
  owner : ∃ a ∈ db.books.accounts, a.id = account ∧ a.projectId = project

theorem Db.Pageable.run {db : Db} {project account : String} (h : db.Pageable project account) (digests : Digests)
    (ops : List Op) :
    (Op.runAll digests ops db).Pageable project account ∧ Carried db.books (Op.runAll digests ops db).books := by
  have run := Op.runAll_moves digests ops h.good
  obtain ⟨a, ha, hid, hp⟩ := h.owner
  obtain ⟨flag, kept⟩ := run.moves.accountsStay a ha
  refine ⟨⟨Op.runAll_good digests ops h.good, ?_, _, kept, hid, hp⟩, run.moves.carried⟩
  exact run.moves.keeps (fun _ _ _ _ m => m.identified) h.identified

theorem Db.Pageable.find {db : Db} {project account : String} (h : db.Pageable project account) :
    ∃ a, db.books.accounts.find (fun a => a.projectId == project) = some a ∧ a.id = account := by
  obtain ⟨a, ha, hid, hp⟩ := h.owner
  obtain ⟨x, hx⟩ := Table.find_isSome_of_mem (p := fun a => a.projectId == project) ha (by simp [hp])
  obtain ⟨hm, hpx⟩ := Table.find_some hx
  refine ⟨x, hx, ?_⟩
  rw [h.good.owned.unique x hm a ha ((beq_iff_eq.1 hpx).trans hp.symm)]
  exact hid

/-! ## Following the pages -/

/-- A page is read after some operations of the platform. -/
structure Visit where
  ops : List Op
  now : Int
  limit : Nat

def PendingNext.request (next : PendingNext) : PendingRequest :=
  { createdBefore := some next.createdBefore, afterCreatedAt := some next.afterCreatedAt, afterId := some next.afterId }

/-- A client follows the pages up to the last one: each answer with the database it was read from. -/
def followPages (digests : Digests) (project : String) :
    PendingRequest → List Visit → Db → List (Db × Except ServiceError PendingPage)
  | _, [], _ => []
  | request, visit :: visits, db =>
    let db := Op.runAll digests visit.ops db
    match pendingReservations visit.now project { request with limit := visit.limit } db with
    | .error e => [(db, .error e)]
    | .ok (page, _) => (db, .ok page) :: match page.next with
      | none => []
      | some next => followPages digests project next.request visits db

/-- The reservations that the answers returned. -/
def answered (answers : List (Db × Except ServiceError PendingPage)) : List Reservation :=
  answers.flatMap fun answer => match answer.2 with
    | .ok page => page.data
    | .error _ => []

/-- The client came to the last page. -/
def LastPage (answers : List (Db × Except ServiceError PendingPage)) : Prop :=
  ∃ answer ∈ answers, ∃ page, answer.2 = .ok page ∧ page.next = none

/-- The answers of a client against the keyset pages they show. -/
structure Shown (account : String) (cutoff : Int) (answer : Db × Except ServiceError PendingPage)
    (visit : List Reservation × Keyset.Page Reservation (Int ×ₗ String)) : Prop where
  rows : visit.1 = answer.1.books.pending account cutoff
  page : answer.2 = .ok (.of cutoff visit.2)

section Following

variable {project account : String} {cutoff : Int}

section Unfolding

variable {request : PendingRequest} {visit : Visit} {db db' : Db} {page : PendingPage}

theorem followPages_last (visits : List Visit) (last : page.next = none) (h : pendingReservations visit.now project
      { request with limit := visit.limit } (Op.runAll digests visit.ops db) = .ok (page, db')) :
    followPages digests project request (visit :: visits) db = [(Op.runAll digests visit.ops db, .ok page)] := by
  rw [followPages]
  simp only [h, last]

theorem followPages_more (visits : List Visit) {next : PendingNext} (more : page.next = some next)
    (h : pendingReservations visit.now project
      { request with limit := visit.limit } (Op.runAll digests visit.ops db) = .ok (page, db')) :
    followPages digests project request (visit :: visits) db = (Op.runAll digests visit.ops db, .ok page) ::
      followPages digests project next.request visits (Op.runAll digests visit.ops db) := by
  rw [followPages]
  simp only [h, more]

/-- A client that is through after two pages, with some operations between them. -/
theorem followPages_both {digests : Digests} {project : String} {request : PendingRequest} {db : Db} {ops : List Op}
    {now : Int} {limit : Nat} (visits : List Visit) {page page' : PendingPage} {next : PendingNext}
    (first : pendingReservations now project { request with limit := limit } db = .ok (page, db))
    (more : page.next = some next) (second : pendingReservations now project { next.request with limit := limit }
      (Op.runAll digests ops db) =
      .ok (page', Op.runAll digests ops db)) (last : page'.next = none) :
    followPages digests project request (⟨[], now, limit⟩ :: ⟨ops, now, limit⟩ :: visits) db =
      [(db, .ok page), (Op.runAll digests ops db, .ok page')] :=
  (followPages_more _ more first).trans (congrArg _ (followPages_last visits last second))

end Unfolding

/-- Following the pages is a keyset scan over the reservations that wait when each page is read, and it stops
only at its end. -/
theorem followPages_scan (digests : Digests) (visits : List Visit)
    (limits : ∀ v ∈ visits, 1 ≤ v.limit ∧ v.limit ≤ 100) (clock : ∀ v ∈ visits, cutoff ≤ v.now)
    {request : PendingRequest}
    (valid : request.afterId.isSome = request.afterCreatedAt.isSome ∧ request.afterId.all identifier = true)
    (cut : ∀ v ∈ visits.head?, request.cutoff v.now = cutoff) {db : Db} (h : db.Pageable project account) :
    let answers := followPages digests project request visits db
    ∃ scan, Keyset.Scan pendingKey request.position scan ∧ List.Forall₂ (Shown account cutoff) answers scan ∧
      (LastPage answers ∨ answers.length = visits.length) ∧ (∀ answer ∈ answers, Carried db.books answer.1.books) ∧
      answers.Pairwise fun answer answer' => Carried answer.1.books answer'.1.books := by
  induction visits generalizing request db with
  | nil => exact ⟨[], .stopped _, .nil, .inr rfl, fun _ h => absurd h List.not_mem_nil, .nil⟩
  | cons visit visits ih =>
    obtain ⟨pageable, carried⟩ := h.run digests visit.ops
    let db' := Op.runAll digests visit.ops db
    let request' : PendingRequest := { request with limit := visit.limit }
    obtain ⟨a, owner, hid⟩ := pageable.find
    obtain ⟨low, high⟩ := limits visit List.mem_cons_self
    have wellFormed : request'.wellFormed = true := by
      unfold PendingRequest.wellFormed
      rw [show request'.afterId = request.afterId from rfl, show request'.afterCreatedAt =
        request.afterCreatedAt from rfl, show request'.limit = visit.limit from rfl, valid.1, valid.2]
      simp [low, high]
    let page := Keyset.page pendingKey visit.limit request.position (db'.books.pending account cutoff)
    have answer : pendingReservations visit.now project request' db' = .ok (.of cutoff page, db') := by
      have answered := pendingReservations_page wellFormed (cut visit rfl) (clock visit List.mem_cons_self) owner
      rw [hid] at answered
      exact answered
    have shown : Shown account cutoff (db', .ok (.of cutoff page)) (db'.books.pending account cutoff, page) :=
      ⟨rfl, rfl⟩
    intro answers
    cases hn : page.next with
    | none =>
      have last : (PendingPage.of cutoff page).next = none := Option.map_eq_none_iff.2 hn
      have single : answers = [(db', .ok (.of cutoff page))] := followPages_last visits last answer
      rw [single]
      refine ⟨[(_, page)], .last low hn, .cons shown .nil, .inl ⟨_, List.mem_cons_self, _, rfl, last⟩, fun x hx => ?_,
        List.pairwise_singleton _ _⟩
      · rw [List.mem_singleton.1 hx]
        exact carried
    | some k =>
      let request'' := PendingNext.request ⟨(ofLex k).1, (ofLex k).2, cutoff⟩
      have more : (PendingPage.of cutoff page).next = some ⟨(ofLex k).1, (ofLex k).2, cutoff⟩ :=
        Option.map_eq_some_iff.2 ⟨k, hn, rfl⟩
      have longer : answers = (db', .ok (.of cutoff page)) :: followPages digests project request'' visits db' :=
        followPages_more visits more answer
      rw [longer]
      -- the id to go on after is that of a reservation
      have named : identifier (ofLex k).2 = true := by
        obtain ⟨⟨r, hr, rfl⟩, -, -⟩ := Keyset.page_more (pending_keys _ _ _) hn
        exact pageable.identified r (mem_pending.1 (Keyset.mem_page hr).1).1
      have valid'' : request''.afterId.isSome = request''.afterCreatedAt.isSome ∧
        request''.afterId.all identifier = true := ⟨rfl, named⟩
      obtain ⟨scan, scans, shows, ended, later, chain⟩ := ih (fun v hv => limits v (List.mem_cons_of_mem _ hv))
        (fun v hv => clock v (List.mem_cons_of_mem _ hv)) valid'' (fun v hv => rfl) pageable
      refine ⟨(_, page) :: scan, .more low hn scans, .cons shown shows, ?_, fun x hx => ?_,
        List.pairwise_cons.2 ⟨later, chain⟩⟩
      · rcases ended with ⟨answer, ha, last⟩ | whole
        · exact .inl ⟨answer, List.mem_cons_of_mem _ ha, last⟩
        · exact .inr (congrArg (· + 1) whole)
      · rcases List.mem_cons.1 hx with rfl | hx
        · exact carried
        · exact carried.trans (later x hx)

/-- Over a database that rests every page is read from it. -/
theorem followPages_rests (visits : List Visit) (rests : ∀ v ∈ visits, v.ops = [])
    {request : PendingRequest} {db : Db} :
    ∀ answer ∈ followPages digests project request visits db, answer.1 = db := by
  induction visits generalizing request with
  | nil => exact fun _ h => absurd h List.not_mem_nil
  | cons visit visits ih =>
    have rest : Op.runAll digests visit.ops db = db := by rw [rests visit List.mem_cons_self]; rfl
    have later := @ih fun v hv => rests v (List.mem_cons_of_mem _ hv)
    intro answer ha
    rw [followPages] at ha
    simp only [rest] at ha
    split at ha
    · rw [List.mem_singleton.1 ha]
    · rcases List.mem_cons.1 ha with rfl | ha
      · rfl
      · split at ha
        · exact absurd ha List.not_mem_nil
        · exact later answer ha

section Shows

variable {answers : List (Db × Except ServiceError PendingPage)}
    {scan : List (List Reservation × Keyset.Page Reservation (Int ×ₗ String))}

theorem answered_shown (shows : List.Forall₂ (Shown account cutoff) answers scan) :
    answered answers = Keyset.returned scan := by
  induction shows with
  | nil => rfl
  | @cons answer visit answers scan shown rest ih =>
    have head : (match answer.2 with | .ok page => page.data | .error _ => []) = visit.2.rows := by rw [shown.page]; rfl
    show (match answer.2 with | .ok page => page.data | .error _ => []) ++ answered answers = visit.2.rows ++
      Keyset.returned scan
    rw [head, ih]

theorem finished_shown (shows : List.Forall₂ (Shown account cutoff) answers scan) :
    LastPage answers ↔ Keyset.Finished scan := by
  have each {answer} {visit : List Reservation × Keyset.Page Reservation (Int ×ₗ String)}
    (shown : Shown account cutoff answer visit) :
      (∃ page, answer.2 = .ok page ∧ page.next = none) ↔ visit.2.next = none := by
    rw [shown.page]
    constructor
    · rintro ⟨page, same, last⟩
      cases same
      exact Option.map_eq_none_iff.1 last
    · intro last
      exact ⟨_, rfl, Option.map_eq_none_iff.2 last⟩
  induction shows with
  | nil => simp [LastPage, Keyset.Finished]
  | cons shown rest ih =>
    unfold LastPage Keyset.Finished at *
    rw [List.exists_mem_cons_iff, List.exists_mem_cons_iff, each shown]
    exact or_congr_right ih

theorem shown_of_mem (shows : List.Forall₂ (Shown account cutoff) answers scan)
    {answer : Db × Except ServiceError PendingPage} (h : answer ∈ answers) :
    ∃ visit ∈ scan, Shown account cutoff answer visit := by
  induction shows with
  | nil => exact absurd h List.not_mem_nil
  | cons shown rest ih =>
    rcases List.mem_cons.1 h with rfl | h
    · exact ⟨_, List.mem_cons_self, shown⟩
    · obtain ⟨visit, hv, found⟩ := ih h
      exact ⟨visit, List.mem_cons_of_mem _ hv, found⟩

theorem shown_by_mem (shows : List.Forall₂ (Shown account cutoff) answers scan)
    {visit : List Reservation × Keyset.Page Reservation (Int ×ₗ String)} (h : visit ∈ scan) :
    ∃ answer ∈ answers, Shown account cutoff answer visit := by
  induction shows with
  | nil => exact absurd h List.not_mem_nil
  | cons shown rest ih =>
    rcases List.mem_cons.1 h with rfl | h
    · exact ⟨_, List.mem_cons_self, shown⟩
    · obtain ⟨answer, ha, found⟩ := ih h
      exact ⟨answer, List.mem_cons_of_mem _ ha, found⟩

/-- Two sightings of a reservation, in any two of the databases, are of one creation. -/
theorem sightings (chain : answers.Pairwise fun answer answer' => Carried answer.1.books answer'.1.books)
    {answer answer' : Db × Except ServiceError PendingPage} (ha : answer ∈ answers) (ha' : answer' ∈ answers)
    {r r' : Reservation} (hr : r ∈ answer.1.books.reservations) (hr' : r' ∈ answer'.1.books.reservations)
    (same : r.id = r'.id) : r.createdAt = r'.createdAt := by
  -- the statement is symmetric in the two databases
  let Agree (answer answer' : Db × Except ServiceError PendingPage) : Prop :=
    ∀ r ∈ answer.1.books.reservations, ∀ r' ∈ answer'.1.books.reservations, r.id = r'.id → r.createdAt = r'.createdAt
  have : Std.Symm Agree := ⟨fun x y h r hr r' hr' same => (h r' hr' r hr same.symm).symm⟩
  have agree : answers.Pairwise Agree := chain.imp fun carried r hr r' hr' same =>
    (carried.createdAt hr hr' same.symm).symm
  by_cases one : answer = answer'
  · subst one
    rw [Table.eq_of_key hr hr' same]
  · exact agree.forall ha ha' one r hr r' hr' same

end Shows

end Following

/-! ## Every run -/

theorem Op.runAll_pageable (digests : Digests) (before : List Op) {a : BillingAccount}
    (ha : a ∈ (Op.runAll digests before Db.empty).books.accounts) :
    (Op.runAll digests before Db.empty).Pageable a.projectId a.id := by
  have run := Op.runAll_moves digests before Good.empty
  refine ⟨Op.runAll_good digests before Good.empty, ?_, a, ha, rfl, rfl⟩
  exact run.moves.keeps (fun _ _ _ _ m => m.identified) fun r hr => absurd hr (Table.not_mem_empty r)

/-- A client that follows the pages of a project under one cutoff, while the platform goes on between them:
every page is answered, and holds reservations that wait when it is read; the reservations come in the order of
their creation and ids, none twice; at the last page every reservation that waited at every page has come; the
client that does not stop reaches the last page; and over a database that rests it gets the reservations that
wait, in order. -/
theorem Op.runAll_pending_pages (digests : Digests) (before : List Op) (a : BillingAccount) (request : PendingRequest)
    (cutoff : Int) (visits : List Visit) :
    let db := Op.runAll digests before Db.empty
    let answers := followPages digests a.projectId request visits db
    a ∈ db.books.accounts → request.afterId = none → request.afterCreatedAt = none →
      (∀ v ∈ visits.head?, request.cutoff v.now = cutoff) →
    (∀ v ∈ visits, 1 ≤ v.limit ∧ v.limit ≤ 100) → (∀ v ∈ visits, cutoff ≤ v.now) →
    (∀ answer ∈ answers, ∃ page, answer.2 = .ok page ∧ page.createdBefore = cutoff ∧
      ∀ r ∈ page.data, r ∈ answer.1.books.pending a.id cutoff) ∧
    ((answered answers).Pairwise fun x y => x.createdAt < y.createdAt ∨ x.createdAt = y.createdAt ∧ x.id < y.id) ∧
    ((answered answers).map (·.id)).Nodup ∧
    (LastPage answers → ∀ id, (∀ answer ∈ answers, ∃ r ∈ answer.1.books.pending a.id cutoff, r.id = id) →
      ∃ r ∈ answered answers, r.id = id) ∧
    (LastPage answers ∨ ∀ answer ∈ answers.getLast?, visits.length ≤ answer.1.books.reservations.rows.length) ∧
    ((∀ v ∈ visits, v.ops = []) → LastPage answers → answered answers =
      (db.books.pending a.id cutoff).mergeSort pendingOrder) := by
  intro db answers ha noId noCreated cut limits clock
  have pageable : db.Pageable a.projectId a.id := Op.runAll_pageable digests before ha
  have valid : request.afterId.isSome = request.afterCreatedAt.isSome ∧ request.afterId.all identifier = true := by
    rw [noId, noCreated]
    exact ⟨rfl, rfl⟩
  obtain ⟨scan, scans, shows, ended, -, chain⟩ := followPages_scan digests visits limits clock valid cut pageable
  change List.Forall₂ (Shown a.id cutoff) answers scan at shows
  change LastPage answers ∨ answers.length = visits.length at ended
  change answers.Pairwise fun answer answer' => Carried answer.1.books answer'.1.books at chain
  have start : request.position = none := by
    unfold PendingRequest.position
    rw [noId, noCreated]
  rw [start] at scans
  have keys : ∀ v ∈ scan, (v.1.map pendingKey).Nodup := by
    intro v hv
    obtain ⟨answer, -, shown⟩ := shown_by_mem shows hv
    rw [shown.rows]
    exact pending_keys _ _ _
  have increasing : (answered answers).Pairwise fun x y => pendingKey x < pendingKey y := by
    rw [answered_shown shows]
    exact scans.increasing keys
  have seen : ∀ r ∈ answered answers, ∃ answer ∈ answers, r ∈ answer.1.books.pending a.id cutoff := by
    intro r hr
    rw [answered_shown shows] at hr
    obtain ⟨v, hv, hr⟩ := List.mem_flatMap.1 hr
    obtain ⟨answer, hm, shown⟩ := shown_by_mem shows hv
    refine ⟨answer, hm, ?_⟩
    rw [← shown.rows]
    exact scans.genuine v hv r hr
  have ids : ((answered answers).map (·.id)).Nodup := by
    refine List.pairwise_map.2 ((List.Pairwise.and_mem.1 increasing).imp fun ⟨hx, hy, lt⟩ same => ?_)
    obtain ⟨answer, hm, hp⟩ := seen _ hx
    obtain ⟨answer', hm', hp'⟩ := seen _ hy
    have created := sightings chain hm hm' (mem_pending.1 hp).1 (mem_pending.1 hp').1 same
    exact lt.ne (pendingKey_eq.2 ⟨created, same⟩)
  refine ⟨fun answer hm => ?_, increasing.imp pendingKey_lt.1, ids, fun last id waits => ?_, ?_, fun rests last => ?_⟩
  · obtain ⟨v, hv, shown⟩ := shown_of_mem shows hm
    refine ⟨_, shown.page, rfl, fun r hr => ?_⟩
    rw [← shown.rows]
    exact scans.genuine v hv r hr
  · -- what waits under one id waits under one key
    have ended := (finished_shown shows).1 last
    obtain ⟨answer₀, hm₀, -⟩ := last
    obtain ⟨r₀, hr₀, rfl⟩ := waits answer₀ hm₀
    have present : ∀ v ∈ scan, ∃ r ∈ v.1, pendingKey r = pendingKey r₀ := by
      intro v hv
      obtain ⟨answer, hm, shown⟩ := shown_by_mem shows hv
      obtain ⟨r, hr, same⟩ := waits answer hm
      refine ⟨r, by rw [shown.rows]; exact hr, pendingKey_eq.2 ⟨?_, same⟩⟩
      exact sightings chain hm hm₀ (mem_pending.1 hr).1 (mem_pending.1 hr₀).1 same
    obtain ⟨r, hr, same⟩ := scans.complete keys ended (fun p hp => by cases hp) present
    exact ⟨r, by rw [answered_shown shows]; exact hr, (pendingKey_eq.1 same).2⟩
  · by_cases last : LastPage answers
    · exact .inl last
    · refine .inr fun final hf => ?_
      have whole : answers.length = visits.length := ended.resolve_left last
      have progress := scans.progress keys (fun h => last ((finished_shown shows).2 h))
      rw [← answered_shown shows, ← shows.length_eq, whole] at progress
      -- every returned id is that of a reservation of the last database
      have known : (answered answers).map (·.id) ⊆ final.1.books.reservations.rows.map (·.id) := by
        intro id hid
        obtain ⟨r, hr, rfl⟩ := List.mem_map.1 hid
        obtain ⟨answer, hm, hp⟩ := seen r hr
        obtain ⟨init, split⟩ := List.getLast?_eq_some_iff.1 hf
        have carried : Carried answer.1.books final.1.books := by
          rw [split, List.mem_append, List.mem_singleton] at hm
          rw [split, List.pairwise_append] at chain
          rcases hm with hm | rfl
          · exact chain.2.2 answer hm final (List.mem_singleton_self _)
          · exact .of_eq rfl
        obtain ⟨r', hr', step⟩ := carried r (mem_pending.1 hp).1
        exact List.mem_map.2 ⟨r', hr', step.terms.id⟩
      have bound := (List.subperm_of_subset ids known).length_le
      rw [List.length_map, List.length_map] at bound
      exact le_trans progress bound
  · have still : ∀ v ∈ scan, v.1 = db.books.pending a.id cutoff := by
      intro v hv
      obtain ⟨answer, hm, shown⟩ := shown_by_mem shows hv
      rw [shown.rows, followPages_rests visits rests answer hm]
    rw [answered_shown shows, scans.whole (pending_keys _ _ _) ((finished_shown shows).1 last) still]
    have order : pendingOrder = fun a b => decide (pendingKey a ≤ pendingKey b) := funext₂ pendingOrder_key
    unfold Keyset.after
    have all : (db.books.pending a.id cutoff).filter (fun r => Option.all (fun p => decide (p < pendingKey r)) none) =
        db.books.pending a.id cutoff := List.filter_eq_self.2 fun _ _ => rfl
    rw [order, all]

/-- Three requests are dispatched, two of them made at one time. -/
def sampleWaiting : List Op := sampleSetup ++
  [.reserve (sampleCall 2) (sampleRequest "r1"), .dispatch (sampleCall 3) "project" "r1",
    .reserve (sampleCall 4) (sampleRequest "r2"), .dispatch (sampleCall 5) "project" "r2",
    .reserve { sampleCall 6 with now := (sampleCall 4).now } (sampleRequest "r3"),
      .dispatch (sampleCall 7) "project" "r3"]

/-- The second one is settled after the first page. -/
def sampleVisits : List Visit :=
  [⟨[], 1790000400000000, 1⟩, ⟨[.settle (sampleCall 8) "project" "r2" sampleUsage], 1790000400000000, 1⟩,
    ⟨[], 1790000400000000, 1⟩]

/-- A client that reads one request at a time gets the two that wait all the time. -/
theorem sample_pending :
    let db := Op.runAll sampleDigests sampleWaiting Db.empty
    let answers := followPages sampleDigests "project" ⟨pageLimit, none, none, none⟩ sampleVisits db
    (answered answers).map (·.id) = ["r1", "r3"] ∧ ((answered answers).map (·.id)).Nodup ∧
      ∀ id, (∀ answer ∈ answers, ∃ r ∈ answer.1.books.pending "account-project" 1790000100000000, r.id = id) →
        ∃ r ∈ answered answers, r.id = id := by
  intro db answers
  let settled := Op.runAll sampleDigests [.settle (sampleCall 8) "project" "r2" sampleUsage] db
  let waiting := (db.books.pending "account-project" 1790000100000000).reverse
  let second : PendingRequest := ⟨1, some 1790000100000000, some 1790000000000002, some "r1"⟩
  let left := (settled.books.pending "account-project" 1790000100000000).filter second.isAfter
  -- three wait when the first page is read, and one after its last row when the second one is
  have first : pendingReservations 1790000400000000 "project" ⟨1, none, none, none⟩ db =
      .ok (.of 1790000100000000 ⟨waiting.take 1, some (toLex (1790000000000002, "r1"))⟩, db) := by
    have perm : waiting.Perm ((db.books.pending "account-project" 1790000100000000).filter
        (PendingRequest.isAfter ⟨1, none, none, none⟩)) :=
      (List.reverse_perm _).trans (.of_eq (List.filter_eq_self.2 fun _ _ => rfl).symm)
    have next : (if 1 < waiting.length then (waiting.take 1).getLast?.map pendingKey else none) =
      some (toLex (1790000000000002, "r1")) := by decide +kernel
    rw [pendingReservations_listed (by decide) (by decide) (by decide) (by decide +kernel) perm
      (by decide +kernel), next]
  have last : pendingReservations 1790000400000000 "project" second settled =
      .ok (.of 1790000100000000 ⟨left.take 1, none⟩, settled) := by
    have next : (if 1 < left.length then (left.take 1).getLast?.map pendingKey else none) = none := by decide +kernel
    rw [pendingReservations_listed (by decide) (by decide) (by decide) (by decide +kernel) (.refl left)
      (by decide +kernel), next]
  have pages : answers = [(db, .ok (.of 1790000100000000 ⟨waiting.take 1, some (toLex (1790000000000002, "r1"))⟩)),
      (settled, .ok (.of 1790000100000000 ⟨left.take 1, none⟩))] := followPages_both _ first rfl last rfl
  have owned : ("project", "account-project") ∈ db.books.accounts.rows.map fun a => (a.projectId, a.id) := by
    decide +kernel
  obtain ⟨a, ha, same⟩ := List.mem_map.1 owned
  obtain ⟨project, account⟩ := Prod.mk.inj same
  have scan := Op.runAll_pending_pages sampleDigests sampleWaiting a
    ⟨pageLimit, none, none, none⟩ 1790000100000000 sampleVisits ha rfl rfl
    (by decide) (by decide) (by decide)
  rw [project, account] at scan
  obtain ⟨-, -, distinct, complete, -⟩ := scan
  have ended : LastPage answers := by
    rw [pages]
    exact ⟨_, List.mem_cons_of_mem _ List.mem_cons_self, _, rfl, rfl⟩
  refine ⟨?_, distinct, complete ended⟩
  rw [pages]
  decide +kernel
end Xscope
