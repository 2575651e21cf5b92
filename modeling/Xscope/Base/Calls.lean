/-
Clients of named objects. A client makes one call at a time, others write in between, a call can be refused, and
it can take effect although its answer is lost. A client is careful when it only writes objects that it has read
and found to be its own: then, in every interleaving, nobody but its owners changes an object.
-/
import Xscope.Base.Objects

namespace Xscope

inductive CallError where
  | notFound
  | conflict
  | unavailable
  deriving DecidableEq

inductive ObjectCall (κ α : Type) where
  | get (name : κ)
  | list (kind : κ → Bool)
  | create (name : κ) (content : α)
  | replace (read : Stored κ α) (content : α)
  | remove (read : Stored κ α)

/-- The objects that a call is answered with, or why it failed. -/
abbrev Answer (κ α : Type) := Except CallError (List (Stored κ α))

def Answer.told {κ α : Type} : Answer κ α → List (Stored κ α)
  | .ok objects => objects
  | .error _ => []

variable {κ α ι P : Type}

/-- What an answer to the call is like. -/
def ObjectCall.Answers : ObjectCall κ α → Answer κ α → Prop
  | _, .error _ => True
  | .get name, .ok objects => objects = [] ∨ ∃ o, objects = [o] ∧ o.name = name
  | .list kind, .ok objects => ∀ o ∈ objects, kind o.name = true
  | .create name content, .ok objects => ∃ o, objects = [o] ∧ o.name = name ∧ o.content = content
  | .replace read content, .ok objects => ∃ o, objects = [o] ∧ o.name = read.name ∧ o.content = content
  | .remove _, .ok objects => objects = []

/-- The call writes what is `mine`, and over what is `mine`. -/
def ObjectCall.Allowed (mine : α → Prop) (seen : List (Stored κ α)) : ObjectCall κ α → Prop
  | .get _ => True
  | .list _ => True
  | .create _ content => mine content
  | .replace read content => read ∈ seen ∧ mine read.content ∧ mine content
  | .remove read => read ∈ seen ∧ mine read.content

section

variable [DecidableEq κ]

/-- A write by somebody else. -/
def Objects.overwrite (objects : Objects κ α) (name : κ) (uid : String) : Option α → Objects κ α
  | none => objects.delete name
  | some content => match objects.get? name with
    | some o => objects.store o content
    | none => (objects.create name uid content).getD objects

theorem Objects.overwrite_seen (objects : Objects κ α) (name : κ) (uid : String) (content : Option α)
    {read : Stored κ α} (h : objects.Seen read) : (objects.overwrite name uid content).Seen read := by
  unfold Objects.overwrite
  split
  · exact h.delete
  · split
    · rename_i o found
      obtain rfl := get?_name found
      exact h.store found
    · cases created : objects.create name uid _ with
      | none => exact h
      | some objects' => exact h.create created

theorem Objects.overwrite_others (objects : Objects κ α) (name : κ) (uid : String) (content : Option α) {k : κ}
    (apart : name ≠ k) :
    (objects.overwrite name uid content).get? k = objects.get? k := by
  unfold Objects.overwrite
  split
  · rw [get?_delete, if_neg apart]
  · split
    · rename_i o found
      obtain rfl := get?_name found
      rw [get?_store found, if_neg apart]
    · cases created : objects.create name uid _ with
      | none => rfl
      | some objects' =>
        obtain ⟨-, -, lookup⟩ := get?_create created
        exact (lookup k).trans (if_neg apart)

/-- What a call leaves of the object under a name: it keeps it, or the object was its caller's and is that still
if it is there. -/
def Spared (mine : α → Prop) (objects objects' : Objects κ α) : Prop := ∀ k,
  objects'.get? k = objects.get? k ∨ (∀ o, objects.get? k = some o → mine o.content) ∧
    ∀ o', objects'.get? k = some o' → mine o'.content ∧
    ∀ o, objects.get? k = some o → o'.uid = o.uid

theorem Spared.refl {mine : α → Prop} (objects : Objects κ α) : Spared mine objects objects := fun _ => .inl rfl

variable [DecidableEq α]

/-- The objects after a call, and its answer. -/
def Objects.call (objects : Objects κ α) (uid : String) : ObjectCall κ α → Objects κ α × Answer κ α
  | .get name => (objects, .ok (objects.get? name).toList)
  | .list kind => (objects, .ok (objects.rows.select fun o => kind o.name))
  | .create name content => match objects.create name uid content with
    | some objects' => (objects', .ok (objects'.get? name).toList)
    | none => (objects, .error .conflict)
  | .replace read content => match objects.replace read content with
    | some objects' => (objects', .ok (objects'.get? read.name).toList)
    | none => (objects, .error (if (objects.get? read.name).isNone then .notFound else .conflict))
  | .remove read => match objects.remove read with
    | some objects' => (objects', .ok [])
    | none => (objects, .error (if (objects.get? read.name).isNone then .notFound else .conflict))

/-! ## What a call does -/

variable {mine : α → Prop} {seen : List (Stored κ α)}

theorem Objects.call_answers (objects : Objects κ α) (uid : String) (c : ObjectCall κ α)
    (h : ∀ o ∈ seen, objects.Seen o) (allowed : c.Allowed mine seen) : c.Answers (objects.call uid c).2 := by
  cases c with
  | get name =>
    show objects.get? name |>.toList |> fun l => l = [] ∨ ∃ o, l = [o] ∧ o.name = name
    cases found : objects.get? name with
    | none => exact .inl rfl
    | some o => exact .inr ⟨o, rfl, get?_name found⟩
  | list kind => exact fun o ho => (List.mem_filter.1 ho).2
  | create name content =>
    unfold Objects.call
    dsimp only
    split
    · rename_i objects' created
      obtain ⟨-, -, lookup⟩ := get?_create created
      rw [lookup, if_pos rfl]
      exact ⟨_, rfl, rfl, rfl⟩
    · trivial
  | replace read content =>
    unfold Objects.call
    dsimp only
    split
    · rename_i objects' replaced
      obtain ⟨holds, rfl⟩ := replace_some replaced
      have stored := (h read allowed.1).holds holds
      split
      · rename_i same
        rw [stored]
        exact ⟨read, rfl, rfl, same⟩
      · rw [get?_store stored, if_pos rfl]
        exact ⟨_, rfl, rfl, rfl⟩
    · trivial
  | remove read =>
    unfold Objects.call
    dsimp only
    split
    · exact rfl
    · trivial

/-- What has been seen stays so, and what the call tells is seen. -/
theorem Objects.call_seen (objects : Objects κ α) (uid : String) (c : ObjectCall κ α) (h : ∀ o ∈ seen, objects.Seen o)
    (allowed : c.Allowed mine seen) :
    (∀ read, objects.Seen read → (objects.call uid c).1.Seen read) ∧
      ∀ o ∈ (objects.call uid c).2.told, (objects.call uid c).1.Seen o := by
  cases c with
  | get name => exact ⟨fun _ hs => hs, fun o ho => .of_get? (Option.mem_toList.1 ho)⟩
  | list kind => exact ⟨fun _ hs => hs, fun o ho => .of_get? (Table.get?_of_mem (List.mem_filter.1 ho).1)⟩
  | create name content =>
    unfold Objects.call
    dsimp only
    split
    · rename_i objects' created
      exact ⟨fun _ hs => hs.create created, fun o ho => .of_get? (Option.mem_toList.1 ho)⟩
    · exact ⟨fun _ hs => hs, fun _ ho => absurd ho List.not_mem_nil⟩
  | replace read content =>
    unfold Objects.call
    dsimp only
    split
    · rename_i objects' replaced
      obtain ⟨holds, rfl⟩ := replace_some replaced
      refine ⟨fun other hs => ?_, fun o ho => .of_get? (Option.mem_toList.1 ho)⟩
      split
      · exact hs
      · exact hs.store ((h read allowed.1).holds holds)
    · exact ⟨fun _ hs => hs, fun _ ho => absurd ho List.not_mem_nil⟩
  | remove read =>
    unfold Objects.call
    dsimp only
    split
    · rename_i objects' removed
      obtain ⟨-, rfl⟩ := remove_some removed
      exact ⟨fun _ hs => hs.delete, fun _ ho => absurd ho List.not_mem_nil⟩
    · exact ⟨fun _ hs => hs, fun _ ho => absurd ho List.not_mem_nil⟩

/-- An allowed call touches nothing but what is `mine`. -/
theorem Objects.call_spared (objects : Objects κ α) (uid : String) (c : ObjectCall κ α) (h : ∀ o ∈ seen, objects.Seen o)
    (allowed : c.Allowed mine seen) : Spared mine objects (objects.call uid c).1 := by
  cases c with
  | get name => exact .refl objects
  | list kind => exact .refl objects
  | create name content =>
    unfold Objects.call
    dsimp only
    split
    · rename_i objects' created
      obtain ⟨absent, -, lookup⟩ := get?_create created
      intro k
      rw [lookup]
      split
      · rename_i same
        subst same
        refine .inr ⟨fun o ho => ?_, fun o' ho' => ?_⟩
        · rw [absent] at ho
          cases ho
        · cases ho'
          refine ⟨allowed, fun o ho => ?_⟩
          rw [absent] at ho
          cases ho
      · exact .inl rfl
    · exact .refl objects
  | replace read content =>
    unfold Objects.call
    dsimp only
    split
    · rename_i objects' replaced
      -- the object that was read still stands, so what is written over is known
      obtain ⟨holds, rfl⟩ := replace_some replaced
      have stored := (h read allowed.1).holds holds
      split
      · exact .refl objects
      · intro k
        rw [get?_store stored]
        split
        · rename_i same
          subst same
          refine .inr ⟨fun o ho => ?_, fun o' ho' => ?_⟩
          · cases Option.some.inj (stored.symm.trans ho)
            exact allowed.2.1
          · cases ho'
            refine ⟨allowed.2.2, fun o ho => ?_⟩
            cases Option.some.inj (stored.symm.trans ho)
            rfl
        · exact .inl rfl
    · exact .refl objects
  | remove read =>
    unfold Objects.call
    dsimp only
    split
    · rename_i objects' removed
      obtain ⟨holds, rfl⟩ := remove_some removed
      have stored := (h read allowed.1).holds holds
      intro k
      rw [get?_delete]
      split
      · rename_i same
        subst same
        refine .inr ⟨fun o ho => ?_, fun _ gone => by cases gone⟩
        cases Option.some.inj (stored.symm.trans ho)
        exact allowed.2
      · exact .inl rfl
    · exact .refl objects

end

/-! ## Clients -/

/-- How clients go on: whom they act for, the call they stand at, and what they do with its answer. -/
structure Client (κ α ι P : Type) where
  who : P → ι
  call : P → Option (ObjectCall κ α)
  next : P → Answer κ α → P

/-- The clients only make calls that are allowed by what they know to have seen. -/
structure Client.Careful (client : Client κ α ι P) (mine : ι → α → Prop)
    (knows : P → List (Stored κ α) → Prop) : Prop where
  who : ∀ p answer, client.who (client.next p answer) = client.who p
  allowed : ∀ {p seen c}, knows p seen → client.call p = some c → c.Allowed (mine (client.who p)) seen
  learns : ∀ {p seen c answer}, knows p seen → client.call p = some c → c.Answers answer →
    knows (client.next p answer) (answer.told ++ seen)

/-- A call that failed tells nothing. -/
theorem Client.Careful.fails {client : Client κ α ι P} {mine : ι → α → Prop} {knows : P → List (Stored κ α) → Prop}
    (careful : client.Careful mine knows) {p : P} {seen : List (Stored κ α)} {c : ObjectCall κ α} (known : knows p seen)
    (stands : client.call p = some c) (error : CallError) : knows (client.next p (.error error)) seen := by
  have answers : c.Answers (.error error : Answer κ α) := by cases c <;> trivial
  exact careful.learns known stands answers

/-- The objects and the clients that are at work on them. -/
structure Shared (κ α P : Type) where
  objects : Objects κ α
  clients : List P

/-- How a call fares: it is answered, it takes effect but the answer is lost, or it is refused. -/
inductive Fault where
  | none
  | lost (error : CallError)
  | refused (error : CallError)

/-- A client comes, one of them makes its call, or somebody else writes an object. -/
inductive Shared.Act (κ α P : Type) where
  | start (p : P)
  | call (i : Nat) (uid : String) (fault : Fault)
  | touch (name : κ)
  | other (name : κ) (uid : String) (content : Option α)

/-- The client that makes a call. -/
def Shared.Act.caller : Shared.Act κ α P → Option Nat
  | .call i _ _ => some i
  | _ => none

section

variable [DecidableEq κ]

/-- Every client has seen what it knows. -/
def Shared.Sound (knows : P → List (Stored κ α) → Prop) (s : Shared κ α P) : Prop :=
  ∀ p ∈ s.clients, ∃ seen, knows p seen ∧ ∀ o ∈ seen, s.objects.Seen o

theorem Shared.Sound.keeps {s : Shared κ α P} {knows : P → List (Stored κ α) → Prop} (sound : s.Sound knows)
    {objects : Objects κ α} (seen : ∀ read, s.objects.Seen read → objects.Seen read) :
    Shared.Sound knows ⟨objects, s.clients⟩ := by
  intro p hp
  obtain ⟨known, hk, h⟩ := sound p hp
  exact ⟨known, hk, fun o ho => seen o (h o ho)⟩

theorem Shared.Sound.set {s : Shared κ α P} {knows : P → List (Stored κ α) → Prop} (sound : s.Sound knows) {i : Nat}
    {p : P} (known : ∃ seen, knows p seen ∧ ∀ o ∈ seen, s.objects.Seen o) :
    Shared.Sound knows ⟨s.objects, s.clients.set i p⟩ := by
  intro q hq
  rcases List.mem_or_eq_of_mem_set hq with hq | rfl
  · exact sound q hq
  · exact known

theorem Shared.start_sound (knows : P → List (Stored κ α) → Prop) (objects : Objects κ α) :
    Shared.Sound knows ⟨objects, []⟩ :=
  fun _ h => absurd h List.not_mem_nil

variable [DecidableEq α]

variable (client : Client κ α ι P) in
def Shared.call (s : Shared κ α P) (i : Nat) (uid : String) (fault : Fault) : Shared κ α P := match s.clients[i]? with
  | none => s
  | some p => match client.call p with
    | none => s
    | some c => match fault with
      | .none => ⟨(s.objects.call uid c).1, s.clients.set i (client.next p (s.objects.call uid c).2)⟩
      | .lost error => ⟨(s.objects.call uid c).1, s.clients.set i (client.next p (.error error))⟩
      | .refused error => ⟨s.objects, s.clients.set i (client.next p (.error error))⟩

variable (client : Client κ α ι P) in
def Shared.step (s : Shared κ α P) : Shared.Act κ α P → Shared κ α P
  | .start p => ⟨s.objects, s.clients ++ [p]⟩
  | .call i uid fault => s.call client i uid fault
  | .touch name => ⟨s.objects.touch name, s.clients⟩
  | .other name uid content => ⟨s.objects.overwrite name uid content, s.clients⟩

variable (client : Client κ α ι P) in
def Shared.run (s : Shared κ α P) (acts : List (Shared.Act κ α P)) : Shared κ α P := acts.foldl (Shared.step client) s

variable {client : Client κ α ι P} {mine : ι → α → Prop} {knows : P → List (Stored κ α) → Prop} {s : Shared κ α P}

/-- A call keeps the clients sound and spares what is not its client's. -/
theorem Shared.Sound.call (sound : s.Sound knows) (careful : client.Careful mine knows) (i : Nat) (uid : String)
    (fault : Fault) :
    (s.call client i uid fault).Sound knows ∧
      ((s.call client i uid fault).objects = s.objects ∨
        ∃ p, s.clients[i]? = some p ∧ Spared (mine (client.who p)) s.objects (s.call client i uid fault).objects) := by
  unfold Shared.call
  cases found : s.clients[i]? with
  | none => exact ⟨sound, .inl rfl⟩
  | some p =>
    dsimp only
    cases stands : client.call p with
    | none => exact ⟨sound, .inl rfl⟩
    | some c =>
      obtain ⟨seen, known, h⟩ := sound p (List.mem_of_getElem? found)
      have allowed := careful.allowed known stands
      obtain ⟨kept, told⟩ := s.objects.call_seen uid c h allowed
      have answers := s.objects.call_answers uid c h allowed
      have spared := s.objects.call_spared uid c h allowed
      dsimp only
      cases fault with
      | none =>
        refine ⟨(sound.keeps kept).set ⟨_, careful.learns known stands answers, fun o ho => ?_⟩, .inr ⟨p, rfl, spared⟩⟩
        rcases List.mem_append.1 ho with new | old
        · exact told o new
        · exact kept o (h o old)
      | lost error =>
        exact ⟨(sound.keeps kept).set ⟨_, careful.fails known stands error, fun o ho => kept o (h o ho)⟩,
          .inr ⟨p, rfl, spared⟩⟩
      | refused error =>
        exact ⟨sound.set ⟨_, careful.fails known stands error, h⟩, .inl rfl⟩

theorem Shared.Sound.step (sound : s.Sound knows) (careful : client.Careful mine knows) (act : Shared.Act κ α P)
    (started : ∀ p, act = .start p → knows p []) : (s.step client act).Sound knows := by
  cases act with
  | start p =>
    intro q hq
    rcases List.mem_append.1 hq with hq | hq
    · exact sound q hq
    · obtain rfl := List.mem_singleton.1 hq
      exact ⟨[], started _ rfl, fun _ h => absurd h List.not_mem_nil⟩
  | call i uid fault => exact (sound.call careful i uid fault).1
  | touch name => exact sound.keeps fun _ hs => hs.touch
  | other name uid content => exact sound.keeps fun _ hs => s.objects.overwrite_seen name uid content hs

theorem Shared.Sound.run (careful : client.Careful mine knows) (acts : List (Shared.Act κ α P)) :
    ∀ {s : Shared κ α P}, s.Sound knows → (∀ p, .start p ∈ acts → knows p []) → (s.run client acts).Sound knows := by
  induction acts with
  | nil => exact fun sound _ => sound
  | cons act rest ih =>
    intro s sound started
    exact ih (sound.step careful act fun p he => started p (he ▸ List.mem_cons_self ..)) fun p hp =>
      started p (List.mem_cons_of_mem _ hp)

/-! ## Runs -/

/-- Clients go on acting for the same. -/
theorem Shared.step_who (careful : client.Careful mine knows) (act : Shared.Act κ α P) {i : Nat} {p : P}
    (h : s.clients[i]? = some p) :
    ∃ p', (s.step client act).clients[i]? = some p' ∧ client.who p' = client.who p := by
  have set : ∀ {j : Nat} {q : P} {answer : Answer κ α}, s.clients[j]? = some q →
    ∃ p', (s.clients.set j (client.next q answer))[i]? = some p' ∧
      client.who p' = client.who p := by
    intro j q answer found
    by_cases same : j = i
    · subst same
      cases Option.some.inj (found.symm.trans h)
      obtain ⟨lt, -⟩ := List.getElem?_eq_some_iff.1 h
      exact ⟨_, List.getElem?_set_self lt, careful.who p answer⟩
    · exact ⟨p, (List.getElem?_set_ne same).trans h, rfl⟩
  cases act with
  | start q =>
    obtain ⟨lt, -⟩ := List.getElem?_eq_some_iff.1 h
    exact ⟨p, (List.getElem?_append_left lt).trans h, rfl⟩
  | call j uid fault =>
    show ∃ p', (s.call client j uid fault).clients[i]? = some p' ∧ _
    unfold Shared.call
    cases found : s.clients[j]? with
    | none => exact ⟨p, h, rfl⟩
    | some q =>
      dsimp only
      cases client.call q with
      | none => exact ⟨p, h, rfl⟩
      | some c =>
        cases fault with
        | none => exact set found
        | lost error => exact set found
        | refused error => exact set found
  | touch name => exact ⟨p, h, rfl⟩
  | other name uid content => exact ⟨p, h, rfl⟩

theorem Shared.run_who (careful : client.Careful mine knows) (acts : List (Shared.Act κ α P)) :
    ∀ {s : Shared κ α P} {i : Nat} {p : P}, s.clients[i]? = some p →
      ∃ p', (s.run client acts).clients[i]? = some p' ∧ client.who p' = client.who p := by
  induction acts with
  | nil => exact fun h => ⟨_, h, rfl⟩
  | cons act rest ih =>
    intro s i p h
    obtain ⟨p₁, h₁, same⟩ := Shared.step_who careful act h
    obtain ⟨p₂, h₂, same'⟩ := ih h₁
    exact ⟨p₂, h₂, same'.trans same⟩

/-- An object that neither somebody else writes nor a client whose it is keeps its content. -/
theorem Shared.step_foreign (sound : s.Sound knows) (careful : client.Careful mine knows) (act : Shared.Act κ α P)
    {k : κ} {o : Stored κ α} (h : s.objects.get? k = some o) (quiet : ∀ uid content, act ≠ .other k uid content)
    (strangers : ∀ i, act.caller = some i → ∀ p, s.clients[i]? = some p → ¬mine (client.who p) o.content) :
    ∃ o', (s.step client act).objects.get? k = some o' ∧ o'.uid = o.uid ∧ o'.content = o.content := by
  cases act with
  | start p => exact ⟨o, h, rfl, rfl⟩
  | call i uid fault =>
    rcases (sound.call careful i uid fault).2 with same | ⟨p, found, spared⟩
    · exact ⟨o, by rw [← h]; exact congrArg (·.get? k) same, rfl, rfl⟩
    · rcases spared k with same | ⟨owned, -⟩
      · exact ⟨o, same.trans h, rfl, rfl⟩
      · exact absurd (owned o h) (strangers i rfl p found)
  | touch name =>
    rcases Objects.get?_touch s.objects name k with same | ⟨o', ho', touched⟩
    · exact ⟨o, same.trans h, rfl, rfl⟩
    · cases Option.some.inj (ho'.symm.trans h)
      exact ⟨_, touched, rfl, rfl⟩
  | other name uid content =>
    have apart : name ≠ k := fun same => quiet uid content (same ▸ rfl)
    exact ⟨o, (s.objects.overwrite_others name uid content apart).trans h, rfl, rfl⟩

/-- An object that is still there after a step is the same one, and its content is as it was or was written by a
client whose it is. -/
theorem Shared.step_owned (sound : s.Sound knows) (careful : client.Careful mine knows) (act : Shared.Act κ α P)
    {k : κ} {o o' : Stored κ α} (h : s.objects.get? k = some o) (h' : (s.step client act).objects.get? k = some o')
    (quiet : ∀ uid content, act ≠ .other k uid content) :
    o'.uid = o.uid ∧ (o'.content = o.content ∨ ∃ p ∈ s.clients, mine (client.who p) o.content ∧
      mine (client.who p) o'.content) := by
  by_cases stranger : ∀ i, act.caller = some i → ∀ p, s.clients[i]? = some p → ¬mine (client.who p) o.content
  · obtain ⟨o₁, h₁, uid, content⟩ := Shared.step_foreign sound careful act h quiet stranger
    cases Option.some.inj (h₁.symm.trans h')
    exact ⟨uid, .inl content⟩
  · simp only [not_forall, not_not] at stranger
    obtain ⟨i, calls, p, found, owned⟩ := stranger
    cases act with
    | call j uid fault =>
      obtain rfl : j = i := Option.some.inj calls
      rcases (sound.call careful j uid fault).2 with same | ⟨q, known, spared⟩
      · have kept : (s.step client (.call j uid fault)).objects.get? k = s.objects.get? k := congrArg (·.get? k) same
        rw [h', h] at kept
        cases kept
        exact ⟨rfl, .inl rfl⟩
      · obtain rfl : q = p := Option.some.inj (known.symm.trans found)
        rcases spared k with same | ⟨-, after⟩
        · have kept : (s.step client (.call j uid fault)).objects.get? k = s.objects.get? k := same
          rw [h', h] at kept
          cases kept
          exact ⟨rfl, .inl rfl⟩
        · obtain ⟨kept, uid⟩ := after o' h'
          exact ⟨uid o h, .inr ⟨q, List.mem_of_getElem? found, owned, kept⟩⟩
    | start p => cases calls
    | touch name => cases calls
    | other name uid content => cases calls

/-- Over a run, too: whatever the clients have read before and still have under way. -/
theorem Shared.run_foreign (careful : client.Careful mine knows) (acts : List (Shared.Act κ α P)) :
    ∀ {s : Shared κ α P}, s.Sound knows → (∀ p, .start p ∈ acts → knows p []) →
      ∀ {k : κ} {o : Stored κ α}, s.objects.get? k = some o →
      (∀ uid content, .other k uid content ∉ acts) →
      (∀ act ∈ acts, ∀ i, act.caller = some i → ∀ p, (s.run client acts).clients[i]? = some p →
        ¬mine (client.who p) o.content) →
      ∃ o', (s.run client acts).objects.get? k = some o' ∧ o'.uid = o.uid ∧ o'.content = o.content := by
  induction acts with
  | nil => exact fun _ _ _ _ h _ _ => ⟨_, h, rfl, rfl⟩
  | cons act rest ih =>
    intro s sound started k o h quiet strangers
    have stranger : ∀ i, act.caller = some i → ∀ p, s.clients[i]? = some p → ¬mine (client.who p) o.content := by
      intro i calls p found
      obtain ⟨p', found', same⟩ := Shared.run_who careful (act :: rest) found
      rw [← same]
      exact strangers act (List.mem_cons_self ..) i calls p' found'
    obtain ⟨o₁, h₁, uid₁, content₁⟩ := Shared.step_foreign sound careful act h
      (fun uid content he => quiet uid content (he ▸ List.mem_cons_self ..)) stranger
    have sound₁ := sound.step careful act fun p he => started p (he ▸ List.mem_cons_self ..)
    obtain ⟨o₂, h₂, uid₂, content₂⟩ := ih sound₁ (fun p hp => started p (List.mem_cons_of_mem _ hp)) h₁
      (fun uid content he => quiet uid content (List.mem_cons_of_mem _ he))
      (fun act' he i calls p
        found => by rw [content₁]; exact strangers act' (List.mem_cons_of_mem _ he) i calls p found)
    exact ⟨o₂, h₂, uid₂.trans uid₁, content₂.trans content₁⟩

/-- What careful clients leave of an object, after any run and over any further one: it stays the same object
for as long as it is there, its content is that of before or was written over it by a client whose it is, and
nothing happens to it without one of those. -/
theorem Shared.run_theirs (careful : client.Careful mine knows) (objects : Objects κ α)
    (before after : List (Shared.Act κ α P)) (started : ∀ p, .start p ∈ before ++ after → knows p []) :
    let s := Shared.run client ⟨objects, []⟩ before
    let s' := Shared.run client s after
    ∀ k o, s.objects.get? k = some o →
      (∀ act o', (∀ uid content, act ≠ .other k uid content) → (s.step client act).objects.get? k = some o' →
        o'.uid = o.uid ∧ (o'.content = o.content ∨ ∃ p ∈ s.clients, mine (client.who p) o.content ∧
          mine (client.who p) o'.content)) ∧
      ((∀ uid content, .other k uid content ∉ after) →
        (∀ act ∈ after, ∀ i, act.caller = some i → ∀ p, s'.clients[i]? = some p → ¬mine (client.who p) o.content) →
        ∃ o', s'.objects.get? k = some o' ∧ o'.uid = o.uid ∧ o'.content = o.content) := by
  intro s s' k o found
  have sound : s.Sound knows := Shared.Sound.run careful before (Shared.start_sound knows objects)
    fun p hp => started p (List.mem_append_left _ hp)
  constructor
  · exact fun act o' quiet found' => Shared.step_owned sound careful act found found' quiet
  · exact Shared.run_foreign careful after sound (fun p hp => started p (List.mem_append_right _ hp)) found

end

/-! ## Programs -/

/-- A program of calls, with its result or the error it ends with. -/
inductive Program (κ α ε β : Type) where
  | done (result : Except ε β)
  | call (c : ObjectCall κ α) (next : Answer κ α → Program κ α ε β)

namespace Program

variable {ε β γ : Type}

def bind : Program κ α ε β → (β → Program κ α ε γ) → Program κ α ε γ
  | .done (.ok b), f => f b
  | .done (.error e), _ => .done (.error e)
  | .call c next, f => .call c fun answer => (next answer).bind f

instance : Monad (Program κ α ε) where
  pure b := .done (.ok b)
  bind := bind

def fail (e : ε) : Program κ α ε β := .done (.error e)

def lift (result : Except ε β) : Program κ α ε β := .done result

/-- A call, with its answer as the result. -/
def ask (c : ObjectCall κ α) : Program κ α ε (Answer κ α) := .call c fun answer => .done (.ok answer)

/-- The call that a program stands at. -/
def stands : Program κ α ε β → Option (ObjectCall κ α)
  | .done _ => none
  | .call c _ => some c

def next : Program κ α ε β → Answer κ α → Program κ α ε β
  | .done result, _ => .done result
  | .call _ next, answer => next answer

/-- Every call of the program is allowed by what it has seen until then, and its result meets `post`. -/
def Ensures (mine : α → Prop) : List (Stored κ α) → Program κ α ε β → (List (Stored κ α) → β → Prop) → Prop
  | seen, .done (.ok b), post => post seen b
  | _, .done (.error _), _ => True
  | seen, .call c next, post =>
    c.Allowed mine seen ∧ ∀ answer, c.Answers answer → Ensures mine (answer.told ++ seen) (next answer) post

variable {mine : α → Prop} {seen : List (Stored κ α)} {post post' : List (Stored κ α) → β → Prop}

theorem Ensures.mono {p : Program κ α ε β} (h : Ensures mine seen p post)
    (weaken : ∀ more b, seen ⊆ more → post more b → post' more b) :
    Ensures mine seen p post' := by
  induction p generalizing seen with
  | done result =>
    cases result with
    | ok b => exact weaken seen b (List.Subset.refl _) h
    | error e => trivial
  | call c next ih =>
    refine ⟨h.1, fun answer answers => ih answer (h.2 answer answers) fun more b sub => weaken more b ?_⟩
    exact List.Subset.trans (List.subset_append_right _ _) sub

theorem Ensures.bind {p : Program κ α ε β} {f : β → Program κ α ε γ} {post : List (Stored κ α) → γ → Prop}
    (h : Ensures mine seen p fun more b => Ensures mine more (f b) post) : Ensures mine seen (p.bind f) post := by
  induction p generalizing seen with
  | done result =>
    cases result with
    | ok b => exact h
    | error e => trivial
  | call c next ih => exact ⟨h.1, fun answer answers => ih answer (h.2 answer answers)⟩

/-- The rule for a sequence: what the first part has seen is still seen in the second one. -/
theorem Ensures.seq {p : Program κ α ε β} {f : β → Program κ α ε γ} {post : List (Stored κ α) → γ → Prop}
    {M : List (Stored κ α) → β → Prop} (h : Ensures mine seen p M)
    (k : ∀ more b, seen ⊆ more → M more b → Ensures mine more (f b) post) : Ensures mine seen (p >>= f) post :=
  Ensures.bind (h.mono k)

theorem Ensures.lift {result : Except ε β} (h : ∀ b, result = .ok b → post seen b) :
    Ensures mine seen (Program.lift result : Program κ α ε β) post := by
  cases result with
  | ok b => exact h b rfl
  | error e => trivial

/-- A check comes first, or a computation that can fail. -/
theorem Ensures.check {result : Except ε γ} {p : γ → Program κ α ε β}
    (h : ∀ c, result = .ok c → Ensures mine seen (p c) post) :
    Ensures mine seen (Program.lift result >>= p) post := by
  cases result with
  | ok c => exact h c rfl
  | error e => trivial

/-- A call comes first. -/
theorem Ensures.asked {c : ObjectCall κ α} {p : Answer κ α → Program κ α ε β} (allowed : c.Allowed mine seen)
    (h : ∀ answer, c.Answers answer → Ensures mine (answer.told ++ seen) (p answer) post) :
    Ensures mine seen (Program.ask c >>= p) post :=
  ⟨allowed, h⟩

theorem Ensures.ite {q : Prop} [Decidable q] {a b : Program κ α ε β} (yes : q → Ensures mine seen a post)
    (no : ¬q → Ensures mine seen b post) :
    Ensures mine seen (if q then a else b) post := by
  split
  · exact yes ‹_›
  · exact no ‹_›

/-- The program makes allowed calls only. -/
def Careful (mine : α → Prop) (p : Program κ α ε β) (seen : List (Stored κ α)) : Prop :=
  Ensures mine seen p fun _ _ => True

theorem Careful.allowed {p : Program κ α ε β} (h : p.Careful mine seen) {c : ObjectCall κ α}
    (stands : p.stands = some c) : c.Allowed mine seen := by
  cases p with
  | done => cases stands
  | call c' next => cases stands; exact h.1

theorem Careful.next {p : Program κ α ε β} (h : p.Careful mine seen) {c : ObjectCall κ α} (stands : p.stands = some c)
    {answer : Answer κ α} (answers : c.Answers answer) : (p.next answer).Careful mine (answer.told ++ seen) := by
  cases p with
  | done => cases stands
  | call c' next => cases stands; exact h.2 answer answers

end Program

/-- Programs as clients, each with the one it acts for. -/
def programs (κ α ι ε β : Type) : Client κ α ι (ι × Program κ α ε β) where
  who p := p.1
  call p := p.2.stands
  next p answer := (p.1, p.2.next answer)

theorem programs_careful {ε β : Type} (mine : ι → α → Prop) :
    (programs κ α ι ε β).Careful mine fun p seen => p.2.Careful (mine p.1) seen :=
  ⟨fun _ _ => rfl, fun known stands => known.allowed stands, fun known stands answers => known.next stands answers⟩

end Xscope
