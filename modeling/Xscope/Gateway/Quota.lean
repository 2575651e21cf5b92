/-
The quota of an API key in one minute: a Redis hash that two scripts read and write, each of them
atomically. Every reservation has its own fields beside the two counters, so that a repeated
command is recognised; the counters always show what the reservations add up to.
-/
import Xscope.Base.Table

namespace Xscope.Gateway

/-! ## The scripts -/

inductive Field where
  | requests
  | tokens
  | reserved (id : String)
  | settled (id : String)
  deriving DecidableEq

/-- The hash of one window. Its numbers stay below `2 ^ 53`, where the arithmetic of the scripts is exact. -/
abbrev Bucket := Table (Field × Int)

def hget (bucket : Bucket) (field : Field) : Option Int := (bucket.get? field).map Prod.snd

def hset (bucket : Bucket) (field : Field) (value : Int) : Bucket := bucket.upsert (field, value)

/-- A counter, zero when the field is missing. -/
def counter (bucket : Bucket) (field : Field) : Int := (hget bucket field).getD 0

inductive Command where
  | reserve (now expiresAt : Int) (rpm tpm tokens : Nat) (id : String)
  | settle (reserved actual : Nat) (id : String)
  deriving DecidableEq

/-- The reply of a script. -/
abbrev Reply := Except String (List Int)

def reserveScript (now expiresAt : Int) (rpm tpm requested : Nat) (id : String) (bucket : Bucket) : Reply × Bucket :=
  match hget bucket (.reserved id) with
  | some prior => if prior ≠ requested then (.error "reservation payload conflict", bucket) else (.ok [1, 0], bucket)
  | none =>
    if expiresAt ≤ now then (.error "quota window expired", bucket)
    else
      let requests := counter bucket .requests
      let tokens := counter bucket .tokens
      if rpm < requests + 1 then (.ok [0, 1, requests, tokens], bucket)
      else if tpm < tokens + requested then (.ok [0, 2, requests, tokens], bucket)
      else
        (.ok [1, 0, requests + 1, tokens + requested],
          hset (hset (hset bucket .requests (requests + 1)) .tokens (tokens + requested)) (.reserved id) requested)

def settleScript (reserved actual : Nat) (id : String) (bucket : Bucket) : Reply × Bucket :=
  if bucket.rows.isEmpty then (.ok [0], bucket)
  else if hget bucket (.reserved id) ≠ some (reserved : Int) then (.error "unknown or conflicting reservation", bucket)
  else match hget bucket (.settled id) with
  | some prior => if prior ≠ actual then (.error "settlement payload conflict", bucket) else (.ok [0], bucket)
  | none =>
    let tokens := max 0 (counter bucket .tokens - reserved + actual)
    (.ok [tokens], hset (hset bucket .tokens tokens) (.settled id) actual)

def Command.run : Command → Bucket → Reply × Bucket
  | .reserve now expiresAt rpm tpm tokens id => reserveScript now expiresAt rpm tpm tokens id
  | .settle reserved actual id => settleScript reserved actual id

/-- A window: its bucket, and the commands that were run with their replies, the last one first. -/
structure Window where
  bucket : Bucket
  history : List (Command × Reply)

def Command.step (window : Window) (command : Command) : Window :=
  let (reply, bucket) := command.run window.bucket
  ⟨bucket, (command, reply) :: window.history⟩

/-- The window after a sequence of commands, of any gateways. -/
def Command.runAll (commands : List Command) : Window := commands.foldl Command.step ⟨.empty, []⟩

/-! ## The ledger of a window -/

/-- An accepted request: its reservation, and its usage once it is settled. -/
structure Admission where
  id : String
  reserved : Nat
  settled : Option Nat
  deriving DecidableEq

instance : Keyed Admission String := ⟨Admission.id⟩

def Admission.tokens (a : Admission) : Int := a.settled.getD a.reserved

/-- The reply by which the gateway takes a reservation as granted. -/
def accepted : Reply → Bool
  | .ok (1 :: _) => true
  | _ => false

/-- What one more reply says about the accepted requests. -/
def record (ledger : Table Admission) : Command → Reply → Table Admission
  | .reserve _ _ _ _ tokens id, reply =>
    if accepted reply then (ledger.insert? ⟨id, tokens, none⟩).getD ledger else ledger
  | .settle _ actual id, .ok _ => match ledger.get? id with
    | some a => if a.settled = none then ledger.put { a with settled := some actual } else ledger
    | none => ledger
  | .settle .., .error _ => ledger

/-- The accepted requests, by the replies alone. -/
def ledger : List (Command × Reply) → Table Admission
  | [] => .empty
  | (command, reply) :: before => record (ledger before) command reply

/-! ## Fields -/

theorem hget_hset (bucket : Bucket) (field field' : Field) (value : Int) :
    hget (hset bucket field value) field' = if field = field' then some value else hget bucket field' := by
  unfold hget hset
  rw [Table.get?_upsert]
  show Option.map _ (if field = field' then _ else _) = _
  split <;> rfl

theorem counter_hset (bucket : Bucket) (field field' : Field) (value : Int) :
    counter (hset bucket field value) field' = if field = field' then value else counter bucket field' := by
  unfold counter
  rw [hget_hset]
  split <;> rfl

/-- The hash shows the ledger. -/
structure Exact (bucket : Bucket) (ledger : Table Admission) : Prop where
  reserved : ∀ id, hget bucket (.reserved id) = (ledger.get? id).map fun a => (a.reserved : Int)
  settled : ∀ id, hget bucket (.settled id) = (ledger.get? id).bind fun a => a.settled.map fun n : Nat => (n : Int)
  requests : counter bucket .requests = ledger.rows.length
  tokens : counter bucket .tokens = ledger.total Admission.tokens

theorem Exact.empty : Exact .empty .empty := ⟨fun _ => rfl, fun _ => rfl, rfl, rfl⟩

variable {bucket : Bucket} {l : Table Admission} {id : String}

/-! ## What the scripts do -/

/-- A reservation: a replay, a refusal, or a new acceptance within the limits. -/
inductive Reserves (bucket : Bucket) (l : Table Admission) (rpm tpm requested : Nat) (id : String) :
    Reply × Bucket → Prop
  | replayed (a : Admission) (found : l.get? id = some a) (same : a.reserved = requested) :
      Reserves bucket l rpm tpm requested id (.ok [1, 0], bucket)
  | conflicting (a : Admission) (found : l.get? id = some a) (other : a.reserved ≠ requested) :
      Reserves bucket l rpm tpm requested id (.error "reservation payload conflict", bucket)
  | refused (absent : l.get? id = none) {reply : Reply} (not : accepted reply = false) :
      Reserves bucket l rpm tpm requested id (reply, bucket)
  | granted (absent : l.get? id = none) (requests : counter bucket .requests + 1 ≤ rpm)
      (tokens : counter bucket .tokens + requested ≤ tpm) :
      Reserves bucket l rpm tpm requested id
        (.ok [1, 0, counter bucket .requests + 1, counter bucket .tokens + requested], hset
          (hset (hset bucket .requests (counter bucket .requests + 1)) .tokens (counter bucket .tokens + requested))
          (.reserved id) requested)

theorem reserveScript_spec (exact : Exact bucket l) (now expiresAt : Int) (rpm tpm requested : Nat) (id : String) :
    Reserves bucket l rpm tpm requested id (reserveScript now expiresAt rpm tpm requested id bucket) := by
  unfold reserveScript
  rw [exact.reserved]
  cases found : l.get? id with
  | some a =>
    dsimp only [Option.map_some]
    split
    · rename_i other
      exact .conflicting a found fun he => other (by rw [he])
    · rename_i same
      exact .replayed a found (by simpa using same)
  | none =>
    dsimp only [Option.map_none]
    split
    · exact .refused found rfl
    · split
      · exact .refused found rfl
      · split
        · exact .refused found rfl
        · rename_i requests tokens
          exact .granted found (not_lt.1 requests) (not_lt.1 tokens)

/-- A settlement: of nothing that was accepted, a replay, a conflict, or the usage of an accepted request. -/
inductive Settles (bucket : Bucket) (l : Table Admission) (reserved actual : Nat) (id : String) : Reply × Bucket → Prop
  | unknown (absent : l.get? id = none) (reply : Reply) : Settles bucket l reserved actual id (reply, bucket)
  | replayed (a : Admission) (found : l.get? id = some a) (same : a.reserved = reserved)
      (settled : a.settled = some actual) :
      Settles bucket l reserved actual id (.ok [0], bucket)
  | conflicting (a : Admission) (found : l.get? id = some a)
      (other : a.reserved ≠ reserved ∨ ∃ n, a.settled = some n ∧ n ≠ actual)
      (message : String) : Settles bucket l reserved actual id (.error message, bucket)
  | settled (a : Admission) (found : l.get? id = some a) (same : a.reserved = reserved) (unsettled : a.settled = none) :
      Settles bucket l reserved actual id (.ok [max 0 (counter bucket .tokens - reserved + actual)],
        hset (hset bucket .tokens (max 0 (counter bucket .tokens - reserved + actual))) (.settled id) actual)

theorem settleScript_spec (exact : Exact bucket l) (reserved actual : Nat) (id : String) :
    Settles bucket l reserved actual id (settleScript reserved actual id bucket) := by
  unfold settleScript
  split
  · rename_i empty
    refine .unknown ?_ _
    have none : hget bucket (.reserved id) = none := by
      unfold hget Table.get?
      rw [List.isEmpty_iff.1 empty]
      rfl
    rw [exact.reserved] at none
    exact Option.map_eq_none_iff.1 none
  · rw [exact.reserved, exact.settled]
    cases found : l.get? id with
    | none => exact .unknown found _
    | some a =>
      simp only [Option.map_some, Option.bind_some]
      split
      · rename_i other
        exact .conflicting a found (.inl fun he => other (by rw [he])) _
      · rename_i same
        have same : a.reserved = reserved := by simpa using same
        cases settled : a.settled with
        | none => exact .settled a found same settled
        | some n =>
          simp only [Option.map_some]
          split
          · rename_i other
            exact .conflicting a found (.inr ⟨n, settled, fun he => other (by rw [he])⟩) _
          · rename_i equal
            exact .replayed a found same (by rw [settled]; simpa using equal)

/-! ## The counters are exact -/

theorem Exact.granted (exact : Exact bucket l) (absent : l.get? id = none) (requested : Nat) :
    Exact (hset (hset (hset bucket .requests (counter bucket .requests + 1)) .tokens
      (counter bucket .tokens + requested))
      (.reserved id) requested) ((l.insert? ⟨id, requested, none⟩).getD l) := by
  obtain ⟨l', inserted⟩ := Table.insert?_of_none (r := (⟨id, requested, none⟩ : Admission)) absent
  rw [inserted]
  have lookup := Table.get?_insert? inserted
  constructor
  · intro k
    rw [hget_hset, hget_hset, hget_hset]
    show _ = Option.map _ (l'.get? k)
    rw [lookup]
    show _ = Option.map _ (if id = k then _ else _)
    by_cases hk : id = k
    · simp [hk]
    · simp [hk, exact.reserved]
  · intro k
    rw [hget_hset, hget_hset, hget_hset]
    show _ = Option.bind (l'.get? k) _
    rw [lookup]
    show _ = Option.bind (if id = k then _ else _) _
    by_cases hk : id = k
    · subst hk
      simp [exact.settled, absent]
    · simp [hk, exact.settled]
  · rw [counter_hset, counter_hset, counter_hset]
    show _ = (l'.rows.length : Int)
    rw [(Table.insert?_some inserted).2, exact.requests]
    simp
  · rw [counter_hset, counter_hset]
    show _ = l'.total _
    rw [Table.total_insert? inserted, exact.tokens]
    simp [Admission.tokens, add_comm]

/-- A reserved request is at most the token counter, so its settlement is never clamped. -/
theorem Exact.reserved_le (exact : Exact bucket l) {a : Admission} (found : l.get? id = some a)
    (unsettled : a.settled = none) :
    a.reserved ≤ counter bucket .tokens := by
  rw [exact.tokens]
  have := Table.le_sumWhere (t := l) (p := fun _ => true) (w := Admission.tokens)
    (fun x _ _ => Int.natCast_nonneg _) (Table.get?_mem found) rfl
  have tokens : a.tokens = a.reserved := by simp [Admission.tokens, unsettled]
  rw [Table.sumWhere_eq_total, tokens] at this
  exact this

theorem Exact.settle (exact : Exact bucket l) {a : Admission} (found : l.get? id = some a)
    (unsettled : a.settled = none) (actual : Nat) :
    Exact (hset (hset bucket .tokens (counter bucket .tokens - a.reserved + actual)) (.settled id) actual)
      (l.put { a with settled := some actual }) := by
  obtain rfl : a.id = id := Table.get?_key found
  have lookup := Table.get?_put (r := { a with settled := some actual }) found
  have total := Table.total_put (r := { a with settled := some actual }) found
  constructor
  · intro k
    rw [hget_hset, hget_hset, lookup, exact.reserved]
    show _ = Option.map _ (if a.id = k then _ else _)
    by_cases hk : a.id = k
    · subst hk
      simp [found]
    · simp [hk]
  · intro k
    rw [hget_hset, hget_hset, lookup, exact.settled]
    show _ = Option.bind (if a.id = k then _ else _) _
    by_cases hk : a.id = k <;> simp [hk]
  · rw [counter_hset, counter_hset]
    simp [exact.requests, Table.put]
  · rw [counter_hset, counter_hset, total, exact.tokens]
    simp [Admission.tokens, unsettled]

/-! ## Every window -/

/-- What one command does to a window. -/
structure Keeps (window : Window) (command : Command) : Prop where
  exact : Exact (command.step window).bucket (ledger (command.step window).history)
  /-- A new acceptance is within the limits passed with it. -/
  limits : ∀ now expiresAt rpm tpm tokens id, command = .reserve now expiresAt rpm tpm tokens id →
    (ledger window.history).get? id = none → accepted (command.run window.bucket).1 = true →
      counter (command.step window).bucket .requests ≤ rpm ∧ counter (command.step window).bucket .tokens ≤ tpm
  /-- The usage of an accepted request moves the token counter by the difference: it is not clamped. -/
  unclamped : ∀ actual id a, command = .settle a.reserved actual id → (ledger window.history).get? id = some a →
    a.settled = none →
    0 ≤ counter window.bucket .tokens - a.reserved + actual ∧
      counter (command.step window).bucket .tokens = counter window.bucket .tokens - a.reserved + actual
  /-- A repeated reservation changes nothing, and a conflicting one is an error. -/
  reserved : ∀ now expiresAt rpm tpm tokens id a, command = .reserve now expiresAt rpm tpm tokens id →
    (ledger window.history).get? id = some a → (command.step window).bucket = window.bucket ∧
      (if tokens = a.reserved then accepted (command.run window.bucket).1 = true
        else ∃ message, (command.run window.bucket).1 = .error message)
  /-- So does a repeated settlement, and one that conflicts with the reservation or with the usage settled before. -/
  settled : ∀ reserved actual id a, command = .settle reserved actual id → (ledger window.history).get? id = some a →
    reserved ≠ a.reserved ∨ a.settled.isSome → (command.step window).bucket = window.bucket ∧
      (if reserved = a.reserved ∧ a.settled = some actual then (command.run window.bucket).1 = .ok [0]
        else ∃ message, (command.run window.bucket).1 = .error message)

theorem Command.step_eq (command : Command) (window : Window) : command.step window =
    ⟨(command.run window.bucket).2, (command, (command.run window.bucket).1) :: window.history⟩ := rfl

theorem Command.keeps {window : Window} (exact : Exact window.bucket (ledger window.history)) (command : Command) :
    Keeps window command := by
  cases command with
  | reserve now expiresAt rpm tpm tokens id =>
    have spec := reserveScript_spec exact now expiresAt rpm tpm tokens id
    generalize hr : reserveScript now expiresAt rpm tpm tokens id window.bucket = r at spec
    have run : (Command.reserve now expiresAt rpm tpm tokens id).run window.bucket = r := hr
    have step : (Command.reserve now expiresAt rpm tpm tokens id).step window =
        ⟨r.2, (.reserve now expiresAt rpm tpm tokens id, r.1) :: window.history⟩ := by
      rw [Command.step_eq, run]
    -- two of the fields are about settlements alone
    refine ⟨?_, ?_, ?unclamped, ?_, ?settled⟩
    case unclamped =>
      intro _ _ _ he
      cases he
    case settled =>
      intro _ _ _ _ he
      cases he
    · rw [step]
      show Exact r.2 (record (ledger window.history) _ r.1)
      cases spec with
      | replayed a found same =>
        have taken : (ledger window.history).insert? ⟨id, tokens, none⟩ = none := Table.insert?_none_iff.2 ⟨a, found⟩
        simp only [record, accepted, ite_true, taken, Option.getD_none]
        exact exact
      | conflicting a found other => exact exact
      | refused absent not =>
        simp only [record, not]
        exact exact
      | granted absent requests tokens => exact exact.granted absent _
    -- only a new reservation reaches the counters
    · intro _ _ _ _ _ _ he absent granted
      cases he
      rw [step]
      rw [run] at granted
      cases spec with
      | replayed a found same => rw [absent] at found; cases found
      | conflicting a found other => cases granted
      | refused _ not => rw [not] at granted; cases granted
      | granted _ requests tokens => simpa [counter_hset] using ⟨requests, tokens⟩
    -- a known one is answered from its own fields, as a replay or as a conflict
    · intro _ _ _ _ _ _ a he found
      cases he
      rw [step, run]
      cases spec with
      | replayed a' found' same =>
        cases Option.some.inj (found.symm.trans found')
        exact ⟨rfl, by rw [if_pos same.symm]; rfl⟩
      | conflicting a' found' other =>
        cases Option.some.inj (found.symm.trans found')
        exact ⟨rfl, by rw [if_neg (Ne.symm other)]; exact ⟨_, rfl⟩⟩
      | refused absent not => rw [absent] at found; cases found
      | granted absent requests tokens => rw [absent] at found; cases found
  | settle reserved actual id =>
    have spec := settleScript_spec exact reserved actual id
    generalize hr : settleScript reserved actual id window.bucket = r at spec
    have run : (Command.settle reserved actual id).run window.bucket = r := hr
    have step : (Command.settle reserved actual id).step window =
        ⟨r.2, (.settle reserved actual id, r.1) :: window.history⟩ := by
      rw [Command.step_eq, run]
    refine ⟨?_, ?limited, ?_, ?reserved, ?_⟩
    case limited =>
      intro _ _ _ _ _ _ he
      cases he
    case reserved =>
      intro _ _ _ _ _ _ _ he
      cases he
    · rw [step]
      show Exact r.2 (record (ledger window.history) _ r.1)
      cases spec with
      | unknown absent reply =>
        cases reply with
        | error message => exact exact
        | ok values =>
          simp only [record, absent]
          exact exact
      | replayed a found same settled =>
        simp only [record, found, settled]
        exact exact
      | conflicting a found other message => exact exact
      | settled a found same unsettled =>
        simp only [record, found, unsettled, ite_true]
        -- the counter still holds the reserved tokens, so the lower bound of the script does not bite
        have := exact.reserved_le found unsettled
        rw [← same, max_eq_right (by omega)]
        exact exact.settle found unsettled actual
    · intro _ _ a he found unsettled
      cases he
      rw [step]
      have bound := exact.reserved_le found unsettled
      cases spec with
      | unknown absent reply => rw [absent] at found; cases found
      | replayed a' found' same settled =>
        cases Option.some.inj (found.symm.trans found')
        rw [unsettled] at settled
        cases settled
      | conflicting a' found' other message =>
        cases Option.some.inj (found.symm.trans found')
        rcases other with other | ⟨n, settled, -⟩
        · exact absurd rfl other
        · rw [unsettled] at settled
          cases settled
      | settled a' found' same _ =>
        refine ⟨by omega, ?_⟩
        show counter (hset (hset _ _ _) _ _) _ = _
        rw [counter_hset, counter_hset, if_neg (by simp), if_pos rfl]
        exact max_eq_right (by omega)
    -- after the first settlement only replays and conflicts are left
    · intro _ _ _ a he found again
      cases he
      rw [step, run]
      cases spec with
      | unknown absent reply => rw [absent] at found; cases found
      | replayed a' found' same settled =>
        cases Option.some.inj (found.symm.trans found')
        exact ⟨rfl, by rw [if_pos ⟨same.symm, settled⟩]⟩
      | conflicting a' found' other message =>
        cases Option.some.inj (found.symm.trans found')
        refine ⟨rfl, ?_⟩
        rw [if_neg]
        · exact ⟨_, rfl⟩
        · rintro ⟨he, settled⟩
          rcases other with other | ⟨n, settled', other⟩
          · exact other he.symm
          · rw [settled] at settled'
            exact other (Option.some.inj settled').symm
      | settled a' found' same unsettled =>
        cases Option.some.inj (found.symm.trans found')
        rcases again with other | settled
        · exact absurd same.symm other
        · rw [unsettled] at settled
          cases settled

/-- One more reply adds at most the id it accepted. -/
theorem get?_record (l : Table Admission) (command : Command) (reply : Reply) (k : String) :
    (∃ a, (record l command reply).get? k = some a) ↔ (∃ a, l.get? k = some a) ∨
      ∃ now expiresAt rpm tpm tokens, command = .reserve now expiresAt rpm tpm tokens k ∧ accepted reply = true := by
  cases command with
  | reserve now expiresAt rpm tpm tokens id =>
    cases ha : accepted reply with
    | false => simp [record, ha]
    | true =>
      simp only [record, ha, ite_true]
      cases hi : l.insert? ⟨id, tokens, none⟩ with
      | none =>
        -- a replay: the id was accepted before
        obtain ⟨a, found⟩ := Table.insert?_none_iff.1 hi
        constructor
        · exact .inl
        · rintro (h | ⟨_, _, _, _, _, he, -⟩)
          · exact h
          · cases he
            exact ⟨a, found⟩
      | some l' =>
        show (∃ a, l'.get? k = some a) ↔ _
        rw [Table.get?_insert? hi]
        constructor
        · rintro ⟨a, h⟩
          split at h
          · rename_i hk
            exact .inr ⟨now, expiresAt, rpm, tpm, tokens, by rw [← hk]; rfl, trivial⟩
          · exact .inl ⟨a, h⟩
        · rintro (⟨a, h⟩ | ⟨_, _, _, _, _, he, -⟩)
          · split
            · exact ⟨_, rfl⟩
            · exact ⟨a, h⟩
          · cases he
            exact ⟨_, if_pos rfl⟩
  | settle reserved actual id =>
    have same : (∃ a, l.get? k = some a) ↔ (∃ a, l.get? k = some a) ∨ ∃ now expiresAt rpm tpm tokens,
        Command.settle reserved actual id = .reserve now expiresAt rpm tpm tokens k ∧ accepted reply = true := by simp
    cases reply with
    | error message => exact same
    | ok values =>
      unfold record
      dsimp only
      split
      · rename_i a found
        split
        · rw [← same]
          obtain rfl : a.id = id := Table.get?_key found
          have lookup := Table.get?_put (r := { a with settled := some actual }) found k
          rw [lookup]
          show (∃ x, (if a.id = k then _ else _) = some x) ↔ _
          by_cases hk : a.id = k
          · subst hk
            simp [found]
          · simp [hk]
        · exact same
      · exact same

/-- The ids of the ledger are those with an accepted reply. -/
theorem mem_ledger (id : String) : ∀ history : List (Command × Reply), (∃ a, (ledger history).get? id = some a) ↔
    ∃ now expiresAt rpm tpm tokens reply, (.reserve now expiresAt rpm tpm tokens id, reply) ∈ history ∧
      accepted reply = true
  | [] => by simp [ledger]
  | (command, reply) :: before => by
    rw [ledger, get?_record, mem_ledger id before]
    constructor
    · rintro (⟨now, expiresAt, rpm, tpm, tokens, reply, mem, yes⟩ | ⟨now, expiresAt, rpm, tpm, tokens, rfl, yes⟩)
      · exact ⟨now, expiresAt, rpm, tpm, tokens, reply, List.mem_cons_of_mem _ mem, yes⟩
      · exact ⟨now, expiresAt, rpm, tpm, tokens, reply, List.mem_cons_self .., yes⟩
    · rintro ⟨now, expiresAt, rpm, tpm, tokens, reply', mem, yes⟩
      rcases List.mem_cons.1 mem with he | mem
      · cases he
        exact .inr ⟨now, expiresAt, rpm, tpm, tokens, rfl, yes⟩
      · exact .inl ⟨now, expiresAt, rpm, tpm, tokens, reply', mem, yes⟩

theorem Command.runAll_concat (commands : List Command) (command : Command) :
    Command.runAll (commands ++ [command]) = command.step (Command.runAll commands) := by
  simp [Command.runAll]

theorem Command.runAll_keeps (commands : List Command) :
    Exact (Command.runAll commands).bucket (ledger (Command.runAll commands).history) := by
  induction commands using List.reverseRecOn with
  | nil => exact .empty
  | append_singleton commands command ih =>
    rw [Command.runAll_concat]
    exact (command.keeps ih).exact

/-- In every window the counters are exact over the accepted requests, and every further command keeps them so. -/
theorem Command.runAll_exact (commands : List Command) (command : Command) :
    let window := Command.runAll commands
    (counter window.bucket .requests = (ledger window.history).rows.length ∧
      counter window.bucket .tokens = (ledger window.history).total Admission.tokens) ∧
    (∀ id, (∃ a, (ledger window.history).get? id = some a) ↔ ∃ now expiresAt rpm tpm tokens reply,
      (.reserve now expiresAt rpm tpm tokens id, reply) ∈ window.history ∧ accepted reply = true) ∧
    Keeps window command := by
  intro window
  have exact : Exact window.bucket (ledger window.history) := Command.runAll_keeps commands
  exact ⟨⟨exact.requests, exact.tokens⟩, fun id => mem_ledger id window.history, command.keeps exact⟩

end Xscope.Gateway
