/-
The traffic gate of one gateway. A request enters a pool under the generation of the installed grant
and holds a permit until it is over; the counters outlive the grants they were taken under.
-/
import Xscope.Serving.Grants

namespace Xscope.Serving

open Fleet

/-! ## The gate -/

/-- The control of a pool in the installed grant. -/
def Traffic.control (t : Traffic) (pool : String) : Option PoolControl :=
  t.snapshot.bind fun grant => grant.pools.find? fun p => p.id = pool

/-- `Traffic::enter` at a time; the permit is the caller's. -/
def Traffic.enter (t : Traffic) (pool : String) (generation now : Int) : Except String Traffic :=
  if t.closed || (t.deadline.all fun deadline => decide (deadline ≤ now)) ||
      !((t.control pool).any fun p => p.generation = generation && p.accepting) then
    .error "pool is unready, draining, or traffic grant expired"
  else
    -- the counters are `u64`
    if u64Max ≤ countOf t.active pool then .error "active request count exhausted"
    else .ok { t with active := setCount pool (countOf t.active pool + 1) t.active }

/-- `Permit::drop`. -/
def Traffic.leave (t : Traffic) (pool : String) : Traffic := match t.active.lookup pool with
  | some count => { t with active := setCount pool (count - 1) t.active }
  | none => t

def Traffic.report (t : Traffic) : Option TrafficReport := t.snapshot.map fun grant =>
  { closed := t.closed, sessionId := t.sessionId, sequence := grant.sequence, nonce := grant.nonce, active := t.active }

def Traffic.close (t : Traffic) : Traffic := { t with closed := true }

/-! ## Runs -/

/-- A permit, with the generation it was taken under. -/
structure Permit where
  pool : String
  generation : Int
  deriving DecidableEq

/-- A gate with its live permits and the grants installed so far, the newest first. -/
structure Gate where
  traffic : Traffic
  permits : List Permit
  installed : List TrafficSnapshot

def Gate.new (sessionId : String) : Gate := ⟨.new sessionId, [], []⟩

inductive GateOp where
  | install (grant : TrafficSnapshot) (fetchedAt : Int)
  | enter (pool : String) (generation now : Int)
  | leave (permit : Permit)
  | report
  | close

/-- The live permits on a pool. -/
def Gate.live (g : Gate) (pool : String) : Nat := g.permits.countP fun permit => permit.pool = pool

variable (env : Fleet.Env)

def Gate.step (g : Gate) : GateOp → Gate
  | .install grant fetchedAt => match g.traffic.install env grant fetchedAt with
    | .ok t => { g with traffic := t, installed := grant :: g.installed }
    | .error _ => g
  | .enter pool generation now => match g.traffic.enter pool generation now with
    | .ok t => { g with traffic := t, permits := ⟨pool, generation⟩ :: g.permits }
    | .error _ => g
  | .leave permit =>
    if permit ∈ g.permits then { g with traffic := g.traffic.leave permit.pool, permits := g.permits.erase permit }
      else g
  | .report => g
  | .close => { g with traffic := g.traffic.close }

def Gate.run (g : Gate) (ops : List GateOp) : Gate := ops.foldl (Gate.step env) g

variable {env} {t t' : Traffic} {g : Gate} {grant : TrafficSnapshot} {pool : String} {generation now fetchedAt : Int}

/-! ## Counters -/

/-- The counters of the pools of a grant start at zero. -/
theorem countOf_countPools (active : List (String × Nat)) (pools : List PoolControl) (q : String) :
    countOf (countPools active pools) q = countOf active q := by
  unfold countOf countPools
  rw [List.lookup_append]
  cases h : active.lookup q with
  | some n => rfl
  | none =>
    rw [Option.none_or]
    exact lookup_zeros q (fun p : PoolControl => p.id) _

/-! ## What an operation does -/

theorem validateControls_distinct : ∀ {pools : List PoolControl}
    {ids : List String}, validateControls ids pools = .ok () →
    (pools.map fun p => p.id).Nodup ∧ ∀ p ∈ pools, p.id ∉ ids
  | [], ids, _ => ⟨List.nodup_nil, fun p hp => by cases hp⟩
  | pool :: rest, ids, h => by
    unfold validateControls at h
    split at h
    · cases h
    · rename_i guard
      simp only [not_or] at guard
      obtain ⟨distinct, fresh⟩ := validateControls_distinct h
      constructor
      · rw [List.map_cons, List.nodup_cons]
        refine ⟨fun held => ?_, distinct⟩
        obtain ⟨p, hp, same⟩ := List.mem_map.1 held
        exact fresh p hp (same ▸ List.mem_cons_self ..)
      · intro p hp
        rcases List.mem_cons.1 hp with rfl | hp
        · exact guard.2.2
        · exact fun held => fresh p hp (List.mem_cons_of_mem _ held)

/-- An installed grant follows the one before and adds counters only. -/
theorem install_cases (h : t.install env grant fetchedAt = .ok t') :
    t' = { t with
      snapshot := some grant, deadline := some (fetchedAt + seconds leaseSeconds)
      active := countPools t.active grant.pools } ∧
    (grant.pools.map fun p => p.id).Nodup ∧ ∀ previous ∈ t.snapshot, Follows previous grant := by
  unfold Traffic.install at h
  split at h
  · cases h
  cases valid : validateControls [] grant.pools with
  | error message =>
    rw [valid] at h
    cases h
  | ok u =>
    simp only [valid, bind, Except.bind] at h
    split at h
    · cases h
    rename_i fresh
    split at h
    · rename_i kept
      cases h
      refine ⟨rfl, (validateControls_distinct valid).1, ?_⟩
      intro previous hp
      rw [Option.mem_def] at hp
      rw [hp] at fresh kept
      simp only [Option.any_some, decide_eq_true_eq, not_le] at fresh
      refine ⟨fresh, ?_⟩
      intro c hc
      simp only [Option.all_some, keepsPools, List.all_eq_true] at kept
      obtain ⟨c', hc', same⟩ := List.any_eq_true.1 (kept c hc)
      rw [Bool.and_eq_true, decide_eq_true_eq, decide_eq_true_eq] at same
      exact ⟨c', hc', same.1, same.2⟩
    · cases h

theorem enter_cases (h : t.enter pool generation now = .ok t') :
    t' = { t with active := setCount pool (countOf t.active pool + 1) t.active } ∧ t.closed = false ∧
    ∃ p, t.control pool = some p ∧ p.generation = generation ∧ p.accepting = true := by
  unfold Traffic.enter at h
  split at h
  · cases h
  · rename_i guard
    simp only [Bool.or_eq_true, not_or, Bool.not_eq_true, Bool.not_eq_false'] at guard
    obtain ⟨⟨opened, -⟩, control⟩ := guard
    split at h
    · cases h
    · cases h
      cases found : t.control pool with
      | none =>
        rw [found] at control
        cases control
      | some p =>
        rw [found] at control
        simp only [Option.any_some, Bool.and_eq_true, decide_eq_true_eq] at control
        exact ⟨rfl, opened, p, rfl, control⟩

theorem leave_spec (t : Traffic) (pool q : String) :
    countOf (t.leave pool).active q = countOf t.active q - if q = pool then 1 else 0 := by
  unfold Traffic.leave
  split
  · rename_i count found
    rw [countOf_setCount]
    by_cases h : q = pool
    · subst h
      simp [countOf, found]
    · simp [h]
  · rename_i missing
    by_cases h : q = pool
    · subst h
      simp [countOf, missing]
    · simp [h]

theorem leave_rest (t : Traffic) (pool : String) :
    (t.leave pool).snapshot = t.snapshot ∧ (t.leave pool).closed = t.closed := by
  unfold Traffic.leave
  split
  · exact ⟨rfl, rfl⟩
  · exact ⟨rfl, rfl⟩

/-- Of a grant with distinct pools, the control found for an id is the one with this id. -/
theorem control_of_mem (installed : t.snapshot = some grant) (distinct : (grant.pools.map fun p => p.id).Nodup)
    {p : PoolControl} (hp : p ∈ grant.pools) : t.control p.id = some p := by
  unfold Traffic.control
  rw [installed, Option.bind_some]
  cases found : grant.pools.find? fun q => q.id = p.id with
  | none =>
    rw [List.find?_eq_none] at found
    exact absurd (decide_eq_true rfl) (found p hp)
  | some q =>
    have same : q.id = p.id := by simpa using List.find?_some found
    rw [List.inj_on_of_nodup_map distinct (List.mem_of_find?_eq_some found) hp same]

theorem control_mem {p : PoolControl} (h : t.control pool = some p) :
    ∃ grant, t.snapshot = some grant ∧ p ∈ grant.pools ∧ p.id = pool := by
  unfold Traffic.control at h
  obtain ⟨grant, installed, found⟩ := Option.bind_eq_some_iff.1 h
  exact ⟨grant, installed, List.mem_of_find?_eq_some found, by simpa using List.find?_some found⟩

/-! ## Invariants -/

/-- The newest grant is the installed one, no grant goes behind an earlier one, and a pool counts
    the permits on it. -/
structure Gate.Kept (g : Gate) : Prop where
  newest : g.traffic.snapshot = g.installed.head?
  distinct : ∀ grant ∈ g.installed, (grant.pools.map fun p => p.id).Nodup
  follows : g.installed.Pairwise fun later earlier => Follows earlier later
  counted : ∀ pool, countOf g.traffic.active pool = g.live pool
  granted : g.installed = [] → g.permits = []

theorem Follows.trans {a b c : TrafficSnapshot} (h : Follows a b) (h' : Follows b c) : Follows a c := by
  refine ⟨h.sequence.trans h'.sequence, fun p hp => ?_⟩
  obtain ⟨q, hq, same, le⟩ := h.pools p hp
  obtain ⟨r, hr, same', le'⟩ := h'.pools q hq
  exact ⟨r, hr, same'.trans same, le.trans le'⟩

theorem Gate.new_kept (sessionId : String) : (Gate.new sessionId).Kept :=
  ⟨rfl, by simp [Gate.new], .nil, fun _ => rfl, fun _ => rfl⟩

theorem Gate.step_kept (k : g.Kept) (op : GateOp) : (g.step env op).Kept := by
  cases op with
  | install grant fetchedAt =>
    simp only [Gate.step]
    split
    · rename_i t installed
      obtain ⟨rfl, distinct, follows⟩ := install_cases installed
      refine ⟨rfl, List.forall_mem_cons.2 ⟨distinct, k.distinct⟩, List.pairwise_cons.2 ⟨?_, k.follows⟩, ?_, nofun⟩
      · intro earlier he
        cases history : g.installed with
        | nil =>
          rw [history] at he
          cases he
        | cons last rest =>
          have next : Follows last grant := follows last (by rw [k.newest, history]; rfl)
          have ordered := k.follows
          rw [history] at he ordered
          rcases List.mem_cons.1 he with rfl | he
          · exact next
          · exact ((List.pairwise_cons.1 ordered).1 earlier he).trans next
      · intro pool
        exact (countOf_countPools ..).trans (k.counted pool)
    · exact k
  | enter pool generation now =>
    simp only [Gate.step]
    split
    · rename_i t entered
      obtain ⟨rfl, -, p, control, -⟩ := enter_cases entered
      refine ⟨k.newest, k.distinct, k.follows, ?_, ?_⟩
      · intro q
        -- the counter of the pool goes up with its live permits
        show countOf (setCount pool (countOf g.traffic.active pool + 1) g.traffic.active) q = _
        rw [countOf_setCount, k.counted, k.counted]
        unfold Gate.live
        rw [List.countP_cons]
        by_cases h : q = pool
        · simp [h]
        · have apart : pool ≠ q := Ne.symm h
          simp [h, apart]
      · intro none
        obtain ⟨grant, installed, -⟩ := control_mem control
        rw [k.newest, none] at installed
        cases installed
    · exact k
  | leave permit =>
    simp only [Gate.step]
    split
    · rename_i held
      obtain ⟨snapshot, -⟩ := leave_rest g.traffic permit.pool
      refine ⟨snapshot.trans k.newest, k.distinct, k.follows, ?_, ?_⟩
      · intro q
        -- and down with them
        show countOf (g.traffic.leave permit.pool).active q = (g.permits.erase permit).countP _
        rw [leave_spec, k.counted, List.countP_erase]
        by_cases h : q = permit.pool
        · simp [h, held, Gate.live]
        · have apart : permit.pool ≠ q := Ne.symm h
          simp [h, apart, Gate.live]
      · intro none
        rw [k.granted none] at held
        cases held
    · exact k
  | report => exact k
  | close => exact ⟨k.newest, k.distinct, k.follows, k.counted, k.granted⟩

theorem Gate.run_kept (ops : List GateOp) : ∀ {g : Gate}, g.Kept → (g.run env ops).Kept := by
  induction ops with
  | nil => exact fun k => k
  | cons op rest ih => exact fun k => ih (Gate.step_kept k op)

/-- A generation of a pool that the gate has come to, with no permit from before it. -/
structure Gate.Past (g : Gate) (pool : String) (generation : Int) : Prop where
  control : ∃ p, g.traffic.control pool = some p ∧ generation ≤ p.generation
  permits : ∀ permit ∈ g.permits, permit.pool = pool → generation ≤ permit.generation

theorem Gate.step_past (past : g.Past pool generation) (op : GateOp) : (g.step env op).Past pool generation := by
  obtain ⟨p, control, le⟩ := past.control
  cases op with
  | install grant fetchedAt =>
    simp only [Gate.step]
    split
    · rename_i t installed
      obtain ⟨rfl, distinct, follows⟩ := install_cases installed
      obtain ⟨previous, before, hp, rfl⟩ := control_mem control
      obtain ⟨q, hq, same, le'⟩ := (follows previous before).pools p hp
      refine ⟨⟨q, ?_, le.trans le'⟩, past.permits⟩
      rw [← same]
      exact control_of_mem rfl distinct hq
    · exact past
  | enter pool' generation' now =>
    simp only [Gate.step]
    split
    · rename_i t entered
      obtain ⟨rfl, -, q, current, same, -⟩ := enter_cases entered
      refine ⟨⟨p, control, le⟩, ?_⟩
      intro permit hp on
      rcases List.mem_cons.1 hp with rfl | hp
      · -- the permit is taken under the installed control
        obtain rfl : pool' = pool := on
        cases Option.some.inj (current.symm.trans control)
        show generation ≤ generation'
        omega
      · exact past.permits permit hp on
    · exact past
  | leave permit =>
    simp only [Gate.step]
    split
    · obtain ⟨snapshot, -⟩ := leave_rest g.traffic permit.pool
      refine ⟨⟨p, ?_, le⟩, fun q hq => past.permits q (List.mem_of_mem_erase hq)⟩
      unfold Traffic.control
      rw [snapshot]
      exact control
    · exact past
  | report => exact past
  | close => exact ⟨past.control, past.permits⟩

theorem Gate.run_past (ops : List GateOp) : ∀ {g : Gate}, g.Past pool generation →
    (g.run env ops).Past pool generation := by
  induction ops with
  | nil => exact fun past => past
  | cons op rest ih => exact fun past => ih (Gate.step_past past op)

theorem Gate.step_closed (h : g.traffic.closed = true) (op : GateOp) : (g.step env op).traffic.closed = true := by
  cases op with
  | install grant fetchedAt =>
    simp only [Gate.step]
    split
    · rename_i t installed
      obtain ⟨rfl, -⟩ := install_cases installed
      exact h
    · exact h
  | enter pool generation now =>
    simp only [Gate.step]
    split
    · rename_i t entered
      obtain ⟨rfl, -⟩ := enter_cases entered
      exact h
    · exact h
  | leave permit =>
    simp only [Gate.step]
    split
    · exact (leave_rest g.traffic permit.pool).2.trans h
    · exact h
  | report => exact h
  | close => rfl

theorem Gate.run_closed (ops : List GateOp) : ∀ {g : Gate}, (g.traffic.closed = true ∨ .close ∈ ops) →
    (g.run env ops).traffic.closed = true := by
  induction ops with
  | nil =>
    rintro g (closed | none)
    · exact closed
    · cases none
  | cons op rest ih =>
    rintro g (closed | close)
    · exact ih (.inl (Gate.step_closed closed op))
    · rcases List.mem_cons.1 close with rfl | close
      · exact ih (.inl rfl)
      · exact ih (.inr close)

/-! ## Admission -/

/-- What a gate admits and reports. -/
structure Gate.Admits (env : Fleet.Env) (g : Gate) : Prop where
  /-- A report counts the live permits. -/
  counts : ∀ report, g.traffic.report = some report → ∀ pool, countOf report.active pool = g.live pool
  listed : ∀ report, g.traffic.report = some report →
    ∀ permit ∈ g.permits, ∃ n, report.active.lookup permit.pool = some n
  unreported : g.traffic.report = none → g.permits = []
  older : ∀ grant ∈ g.installed, ∀ p ∈ grant.pools, ∀ generation < p.generation, ∀ now,
    ∃ message, g.traffic.enter p.id generation now = .error message
  draining : ∀ grant, g.installed.head? = some grant → ∀ p ∈ grant.pools, p.accepting = false → ∀ generation now,
    ∃ message, g.traffic.enter p.id generation now = .error message
  forward : g.installed.Pairwise fun later earlier => Follows earlier later
  rejected : ∀ grant fetchedAt message, g.traffic.install env grant fetchedAt = .error message →
    g.step env (.install grant fetchedAt) = g

theorem enter_refused (h : ∀ t', t.enter pool generation now ≠ .ok t') :
    ∃ message, t.enter pool generation now = .error message := by
  cases entered : t.enter pool generation now with
  | error message => exact ⟨message, rfl⟩
  | ok t' => exact absurd entered (h t')

/-- The installed grant has each pool of an earlier one at no earlier generation. -/
theorem Gate.Kept.current (k : g.Kept) {grant : TrafficSnapshot} (hg : grant ∈ g.installed) {p : PoolControl}
    (hp : p ∈ grant.pools) :
    ∃ q, g.traffic.control p.id = some q ∧ p.generation ≤ q.generation := by
  cases history : g.installed with
  | nil =>
    rw [history] at hg
    cases hg
  | cons last rest =>
    have installed : g.traffic.snapshot = some last := by
      rw [k.newest, history]
      rfl
    have distinct := k.distinct last (by rw [history]; exact List.mem_cons_self ..)
    have ordered := k.follows
    rw [history] at hg ordered
    rcases List.mem_cons.1 hg with rfl | hg
    · exact ⟨p, control_of_mem installed distinct hp, le_rfl⟩
    · obtain ⟨q, hq, same, le⟩ := ((List.pairwise_cons.1 ordered).1 grant hg).pools p hp
      refine ⟨q, ?_, le⟩
      rw [← same]
      exact control_of_mem installed distinct hq

theorem Gate.Kept.admits (k : g.Kept) : g.Admits env where
  counts := by
    intro report reported pool
    obtain ⟨grant, -, rfl⟩ := Option.map_eq_some_iff.1 reported
    exact k.counted pool
  listed := by
    intro report reported permit held
    obtain ⟨grant, -, rfl⟩ := Option.map_eq_some_iff.1 reported
    have live : 0 < g.live permit.pool := List.countP_pos_iff.2 ⟨permit, held, by simp⟩
    rw [← k.counted] at live
    cases found : g.traffic.active.lookup permit.pool with
    | some n => exact ⟨n, rfl⟩
    | none => simp [countOf, found] at live
  unreported := by
    intro none
    apply k.granted
    rw [Traffic.report, Option.map_eq_none_iff, k.newest] at none
    exact List.head?_eq_none_iff.1 none
  older := by
    intro grant hg p hp generation lt now
    apply enter_refused
    intro t' entered
    obtain ⟨q, control, le⟩ := k.current hg hp
    obtain ⟨-, -, q', control', same, -⟩ := enter_cases entered
    cases Option.some.inj (control.symm.trans control')
    omega
  draining := by
    intro grant newest p hp closed generation now
    apply enter_refused
    intro t' entered
    have installed : g.traffic.snapshot = some grant := k.newest.trans newest
    have control := control_of_mem installed (k.distinct grant (List.mem_of_head? newest)) hp
    obtain ⟨-, -, q, control', -, accepting⟩ := enter_cases entered
    cases Option.some.inj (control.symm.trans control')
    rw [closed] at accepting
    cases accepting
  forward := k.follows
  rejected := by
    intro grant fetchedAt message refused
    simp only [Gate.step, refused]

/-- In every run of a gate its reports count the live permits and lose none of them, no request
    enters under a generation that was left, a pool that does not accept or after the close, and no
    grant takes a sequence or a generation back; after a report of zero at a generation, no permit
    of an earlier one is alive any more. -/
theorem Gate.run_admits (sessionId : String) (ops : List GateOp) :
    ((Gate.new sessionId).run env ops).Admits env ∧
    (.close ∈ ops → ∀ pool generation now,
      ∃ message, ((Gate.new sessionId).run env ops).traffic.enter pool generation now = .error message) ∧
    ∀ report p, ((Gate.new sessionId).run env ops).traffic.report = some report →
      ((Gate.new sessionId).run env ops).traffic.control p.id = some p → countOf report.active p.id = 0 →
      ∀ more, ∀ permit ∈ (((Gate.new sessionId).run env ops).run env more).permits,
        permit.pool = p.id → p.generation ≤ permit.generation := by
  have kept : ((Gate.new sessionId).run env ops).Kept := Gate.run_kept ops (Gate.new_kept sessionId)
  have admits : ((Gate.new sessionId).run env ops).Admits env := kept.admits
  refine ⟨admits, ?_, ?_⟩
  · intro close pool generation now
    apply enter_refused
    intro t' entered
    obtain ⟨-, opened, -⟩ := enter_cases entered
    rw [Gate.run_closed ops (.inr close)] at opened
    cases opened
  · intro report p reported control zero more permit held
    rw [admits.counts report reported] at zero
    have past : ((Gate.new sessionId).run env ops).Past p.id p.generation := by
      refine ⟨⟨p, control, le_rfl⟩, ?_⟩
      intro q hq on
      exact absurd (decide_eq_true on) (List.countP_eq_zero.1 zero q hq)
    exact (Gate.run_past more past).permits permit held

end Xscope.Serving
