/-
Metering of a streamed response. The meter observes the chunks that pass, decodes their server-sent
events and keeps the usage, the end marker and whether the stream is valid. Its result is a function
of the events alone, so it does not depend on how the stream was cut into chunks.
-/
import Xscope.Base.Decoder
import Xscope.Base.Json
import Xscope.Domain.Model

namespace Xscope.Gateway

/-! ## Usage objects -/

/-- The counts are `u64`. -/
structure CompletionUsage where
  promptTokens : Nat
  completionTokens : Nat
  deriving DecidableEq

/-- A `u64` of a JSON value. -/
def asU64 : Json → Option Nat
  | .int n => if 0 ≤ n ∧ n < 18446744073709551616 then some n.toNat else none
  | _ => none

/-- A usage value: an object with both counts, or the two counts in order. -/
def completionUsage : Json → Option CompletionUsage
  | .obj members => do
    let prompt ← asU64 (← members.lookup "prompt_tokens")
    let completion ← asU64 (← members.lookup "completion_tokens")
    pure ⟨prompt, completion⟩
  | .arr [prompt, completion] => do pure ⟨← asU64 prompt, ← asU64 completion⟩
  | _ => none

/-! ## The meter -/

/-- What the event decoder hands out: the data of a message, or something the meter skips. -/
inductive SseEvent where
  | message (data : String)
  | other
  deriving DecidableEq

/-- The text without the white space around it. -/
def trim (text : String) : List Char := ((text.toList.dropWhile isSpace).reverse.dropWhile isSpace).reverse

/-- The event decoder of the library, and its JSON parser. -/
structure Codec where
  sse : Decoder UInt8 String SseEvent
  parse : String → Option Json

structure StreamMeter (codec : Codec) where
  decoder : codec.sse.State
  usage : Option CompletionUsage
  done : Bool
  invalid : Bool

namespace StreamMeter

variable {codec : Codec}

def default (codec : Codec) : StreamMeter codec := ⟨codec.sse.fresh, none, false, false⟩

/-- The message of one event: the usage it leaves and whether it ends the stream. -/
def account (codec : Codec) (usage : Option CompletionUsage) (done : Bool) (data : String) :
    Except String (Option CompletionUsage × Bool) :=
  if done then .error "SSE event received after [DONE]"
  else if trim data = "[DONE]".toList then .ok (usage, true)
  else match codec.parse data with
    | none => .error "invalid JSON in provider SSE event"
    | some value =>
      if value.get "error" ≠ .null then .error "provider returned an SSE error event"
      else if value.get "usage" = .null then .ok (usage, done)
      else match completionUsage (value.get "usage") with
        | none => .error "invalid usage in provider SSE event"
        | some reported =>
          if usage.any (· ≠ reported) then .error "conflicting final usage in provider SSE stream"
          else .ok (some reported, done)

/-- The loop over the frames of one chunk. -/
def decode (m : StreamMeter codec) (bytes : List UInt8) : Except String Unit × StreamMeter codec :=
  match h : codec.sse.next m.decoder bytes with
  | (none, decoder, _) => (.ok (), { m with decoder := decoder })
  | (some (.error e), decoder, _) => (.error e, { m with decoder := decoder })
  | (some (.ok .other), decoder, rest) =>
    have := codec.sse.consumes m.decoder bytes .other decoder rest h
    decode { m with decoder := decoder } rest
  | (some (.ok (.message data)), decoder, rest) =>
    have := codec.sse.consumes m.decoder bytes (.message data) decoder rest h
    match account codec m.usage m.done data with
    | .error e => (.error e, { m with decoder := decoder })
    | .ok (usage, done) => decode { m with decoder := decoder, usage := usage, done := done } rest
  termination_by bytes.length

def observe (m : StreamMeter codec) (bytes : List UInt8) : Except String Unit × StreamMeter codec :=
  if m.invalid then (.error "stream metering already failed", m)
  else match m.decode bytes with
    | (.error e, m') => (.error e, { m' with invalid := true, usage := none, decoder := codec.sse.clear m'.decoder })
    | (.ok (), m') => (.ok (), m')

/-- The meter after the chunks of a stream. -/
def observeAll (m : StreamMeter codec) (chunks : List (List UInt8)) : StreamMeter codec :=
  chunks.foldl (fun m chunk => (m.observe chunk).2) m

end StreamMeter

/-! ## What a stream of events means -/

/-- The result of metering. -/
structure Metering where
  usage : Option CompletionUsage
  done : Bool
  invalid : Bool
  deriving DecidableEq

def StreamMeter.metering {codec : Codec} (m : StreamMeter codec) : Metering := ⟨m.usage, m.done, m.invalid⟩

namespace Metering

def start : Metering := ⟨none, false, false⟩

/-- A failure ends the metering. -/
def fail (t : Metering) : Metering := { t with usage := none, invalid := true }

/-- One event, unless the metering has failed. -/
def event (codec : Codec) (t : Metering) : SseEvent → Metering
  | .other => t
  | .message data =>
    if t.invalid then t
    else match StreamMeter.account codec t.usage t.done data with
      | .error _ => t.fail
      | .ok (usage, done) => { t with usage := usage, done := done }

/-- The events of a stream, and then the failure of the decoder if it failed. -/
def events (codec : Codec) (t : Metering) (stream : List SseEvent × Bool) : Metering :=
  if stream.2 then (stream.1.foldl (event codec) t).fail else stream.1.foldl (event codec) t

/-- A failed metering has no usage. -/
def Closed (t : Metering) : Prop := t.invalid = true → t.usage = none

end Metering

/-! ## The meter computes the meaning -/

section

variable {codec : Codec} {m : StreamMeter codec} {chunk : List UInt8} {t : Metering} {es : List SseEvent}

theorem event_invalid (h : t.invalid = true) (e : SseEvent) : t.event codec e = t := by
  cases e with
  | other => rfl
  | message data =>
    simp only [Metering.event, if_pos h]

theorem foldl_invalid (h : t.invalid = true) (es : List SseEvent) : es.foldl (Metering.event codec) t = t := by
  induction es with
  | nil => rfl
  | cons e es ih => rw [List.foldl_cons, event_invalid h, ih]

theorem fail_of_invalid (closed : t.Closed) (h : t.invalid = true) : t.fail = t := by
  obtain ⟨usage, done, invalid⟩ := t
  cases h
  cases closed rfl
  rfl

theorem event_closed (closed : t.Closed) (e : SseEvent) : (t.event codec e).Closed := by
  cases e with
  | other => exact closed
  | message data =>
    unfold Metering.event
    split
    · exact closed
    · rename_i data _
      split
      · exact closed
      · rename_i valid
        split
        · exact fun _ => rfl
        · exact fun h => absurd h valid

theorem foldl_closed (closed : t.Closed) (es : List SseEvent) : (es.foldl (Metering.event codec) t).Closed := by
  induction es generalizing t with
  | nil => exact closed
  | cons e es ih => exact ih (event_closed closed e)

theorem events_closed (closed : t.Closed) (stream : List SseEvent × Bool) : (t.events codec stream).Closed := by
  unfold Metering.events
  split
  · exact fun _ => rfl
  · exact foldl_closed closed stream.1

theorem events_invalid (closed : t.Closed) (h : t.invalid = true)
    (stream : List SseEvent × Bool) : t.events codec stream = t := by
  unfold Metering.events
  rw [foldl_invalid h, fail_of_invalid closed h]
  split <;> rfl

/-- Metering a stream is metering its first part, then the rest. -/
theorem events_append (es : List SseEvent) (stream : List SseEvent × Bool) :
    t.events codec (es ++ stream.1, stream.2) = (t.events codec (es, false)).events codec stream := by
  unfold Metering.events
  rw [List.foldl_append]
  rfl

theorem events_append_invalid (closed : t.Closed) (h : (es.foldl (Metering.event codec) t).invalid = true)
    (es' : List SseEvent) (f : Bool) : t.events codec (es ++ es', f) = t.events codec (es, false) := by
  have first : (t.events codec (es, false)).invalid = true := h
  rw [events_append es (es', f)]
  exact events_invalid (events_closed closed _) first _

/-- The decoder failed over a chunk. -/
def failed {ε σ : Type} : Except ε σ → Bool
  | .ok _ => false
  | .error _ => true

/-- A loop that comes to the end of its chunk accounted for all its frames. -/
theorem decode_ok (m : StreamMeter codec) (bytes : List UInt8) {m' : StreamMeter codec} (valid : m.invalid = false)
    (h : m.decode bytes = (.ok (), m')) :
    m'.metering = (codec.sse.drain m.decoder bytes).1.foldl (Metering.event codec) m.metering ∧ m'.invalid = false ∧
      (codec.sse.drain m.decoder bytes).2 = .ok m'.decoder := by
  fun_induction StreamMeter.decode m bytes with
  | case1 m bytes s rest next =>
    cases h
    rw [Decoder.drain_none next]
    exact ⟨rfl, valid, rfl⟩
  | case2 m bytes e s rest next => cases h
  | case3 m bytes s rest next smaller ih =>
    rw [Decoder.drain_some next]
    exact ih valid h
  | case4 m bytes data s rest next smaller e bad => cases h
  | case5 m bytes data s rest next smaller usage done good ih =>
    rw [Decoder.drain_some next, List.foldl_cons]
    have step : m.metering.event codec (.message data) = ⟨usage, done, m.invalid⟩ := by
      simp [Metering.event, StreamMeter.metering, valid, good]
    rw [step]
    exact ih valid h

/-- A loop that fails met a bad event, or the failure of the decoder. -/
theorem decode_error (m : StreamMeter codec) (bytes : List UInt8) {e : String} {m' : StreamMeter codec}
    (valid : m.invalid = false) (h : m.decode bytes = (.error e, m')) :
    m'.metering.fail = ((codec.sse.drain m.decoder bytes).1.foldl (Metering.event codec) m.metering).fail ∧
      (((codec.sse.drain m.decoder bytes).1.foldl (Metering.event codec) m.metering).invalid = true ∨
        failed (codec.sse.drain m.decoder bytes).2 = true) := by
  fun_induction StreamMeter.decode m bytes with
  | case1 m bytes s rest next => cases h
  | case2 m bytes e s rest next =>
    cases h
    rw [Decoder.drain_error next]
    exact ⟨rfl, .inr rfl⟩
  | case3 m bytes s rest next smaller ih =>
    rw [Decoder.drain_some next]
    exact ih valid h
  | case4 m bytes data s rest next smaller e bad =>
    cases h
    rw [Decoder.drain_some next, List.foldl_cons]
    have step : m.metering.event codec (.message data) = m.metering.fail := by
      simp [Metering.event, StreamMeter.metering, valid, bad]
    rw [step, foldl_invalid rfl]
    exact ⟨rfl, .inl rfl⟩
  | case5 m bytes data s rest next smaller usage done good ih =>
    rw [Decoder.drain_some next, List.foldl_cons]
    have step : m.metering.event codec (.message data) = ⟨usage, done, m.invalid⟩ := by
      simp [Metering.event, StreamMeter.metering, valid, good]
    rw [step]
    exact ih valid h

/-- Observing a chunk is metering its events. -/
theorem observe_events (m : StreamMeter codec) (bytes : List UInt8) (valid : m.invalid = false)
    (closed : m.metering.Closed) :
    (m.observe bytes).2.metering =
        m.metering.events codec ((codec.sse.drain m.decoder bytes).1, failed (codec.sse.drain m.decoder bytes).2) ∧
      ((m.observe bytes).2.invalid = false → (codec.sse.drain m.decoder bytes).2 =
        .ok (m.observe bytes).2.decoder) := by
  unfold StreamMeter.observe
  rw [if_neg (by rw [valid]; exact Bool.false_ne_true)]
  cases run : m.decode bytes with
  | mk answer m' =>
    cases answer with
    | ok _ =>
      obtain ⟨folded, still, rest⟩ := decode_ok m bytes valid run
      refine ⟨?_, fun _ => rest⟩
      rw [Metering.events, rest, ← folded]
      rfl
    | error e =>
      obtain ⟨same, why⟩ := decode_error m bytes valid run
      refine ⟨?_, nofun⟩
      show m'.metering.fail = _
      rw [same, Metering.events]
      split
      · rfl
      · rename_i well
        exact fail_of_invalid (foldl_closed closed _) (why.resolve_right well)

/-- An invalid meter stays as it is. -/
theorem observe_invalid (h : m.invalid = true) (bytes : List UInt8) :
    m.observe bytes = (.error "stream metering already failed", m) := by
  unfold StreamMeter.observe
  rw [if_pos h]

theorem observeAll_invalid (h : m.invalid = true) (chunks : List (List UInt8)) : m.observeAll chunks = m := by
  unfold StreamMeter.observeAll
  induction chunks with
  | nil => rfl
  | cons chunk chunks ih => rw [List.foldl_cons, observe_invalid h, ih]

/-- Observing a stream is metering its events, chunk after chunk. -/
theorem observeAll_events (chunks : List (List UInt8)) (m : StreamMeter codec) (valid : m.invalid = false)
    (closed : m.metering.Closed) :
    (m.observeAll chunks).metering = m.metering.events codec (codec.sse.feed m.decoder chunks) := by
  induction chunks generalizing m with
  | nil => rfl
  | cons chunk chunks ih =>
    obtain ⟨first, rest⟩ := observe_events m chunk valid closed
    show ((m.observe chunk).2.observeAll chunks).metering = _
    unfold Decoder.feed
    cases drained : codec.sse.drain m.decoder chunk with
    | mk es result =>
      rw [drained] at first rest
      by_cases bad : (m.observe chunk).2.invalid = true
      · -- the meter has failed: the events after do not count
        rw [observeAll_invalid bad, first]
        cases result with
        | error e => rfl
        | ok s =>
          have stuck : (es.foldl (Metering.event codec) m.metering).invalid = true := by
            have := congrArg Metering.invalid first
            rw [show (m.observe chunk).2.metering.invalid = true from bad] at this
            exact this.symm
          exact (events_append_invalid closed stuck _ _).symm
      · have good : (m.observe chunk).2.invalid = false := by simpa using bad
        have resumed := rest good
        simp only at resumed
        subst resumed
        rw [ih _ good (first ▸ events_closed closed _), first]
        exact (events_append es _).symm

/-! ## What the events say -/

/-- The usage an event carries. -/
def usageObject (codec : Codec) : SseEvent → Option Json
  | .other => none
  | .message data =>
    if trim data = "[DONE]".toList then none
    else (codec.parse data).bind fun value => if value.get "usage" = .null then none else some (value.get "usage")

/-- An event that is accepted comes before the end marker, and has no usage or one that agrees with what was
reported before. -/
theorem account_ok {usage usage' : Option CompletionUsage} {done done' : Bool} {data : String}
    (h : StreamMeter.account codec usage done data = .ok (usage', done')) :
    done = false ∧ (trim data = "[DONE]".toList → done' = true) ∧
      (usageObject codec (.message data) = none ∧ usage' = usage ∨
        ∃ v u, usageObject codec (.message data) = some v ∧ completionUsage v = some u ∧ usage' = some u ∧
          (usage = none ∨ usage = some u)) := by
  unfold StreamMeter.account at h
  simp only [usageObject]
  split at h
  · cases h
  · rename_i pending
    refine ⟨by simpa using pending, ?_⟩
    split at h
    · rename_i marker
      cases h
      exact ⟨fun _ => rfl, .inl ⟨if_pos marker, rfl⟩⟩
    · rename_i other
      refine ⟨fun marker => absurd marker other, ?_⟩
      rw [if_neg other]
      cases parsed : codec.parse data with
      | none =>
        rw [parsed] at h
        cases h
      | some value =>
        rw [parsed] at h
        simp only at h
        rw [Option.bind_some]
        split at h
        · cases h
        · split at h
          · rename_i silent
            cases h
            exact .inl ⟨if_pos silent, rfl⟩
          · rename_i loud
            rw [if_neg loud]
            cases reported : completionUsage (value.get "usage") with
            | none =>
              rw [reported] at h
              cases h
            | some u =>
              rw [reported] at h
              simp only at h
              split at h
              · cases h
              · rename_i agree
                cases h
                refine .inr ⟨_, u, rfl, reported, rfl, ?_⟩
                cases usage with
                | none => exact .inl rfl
                | some previous =>
                  right
                  simpa using agree

/-- What an event does to a metering that has not failed. -/
theorem event_message (valid : t.invalid = false) (data : String) :
    t.event codec (.message data) = t.fail ∨ ∃ usage done, StreamMeter.account codec t.usage t.done data =
      .ok (usage, done) ∧
      t.event codec (.message data) = ⟨usage, done, false⟩ := by
  cases accepted : StreamMeter.account codec t.usage t.done data with
  | error e => exact .inl (by simp [Metering.event, valid, accepted])
  | ok p => exact .inr ⟨p.1, p.2, rfl, by simp [Metering.event, valid, accepted]⟩

/-- A usage that is left after the events is the usage of each of them. -/
theorem foldl_usage (closed : t.Closed) {u : CompletionUsage} (h : (es.foldl (Metering.event codec) t).usage = some u) :
    (t.usage = none ∨ t.usage = some u) ∧ ∀ e ∈ es, ∀ v, usageObject codec e = some v → completionUsage v = some u := by
  induction es generalizing t with
  | nil => exact ⟨.inr h, fun e he => absurd he List.not_mem_nil⟩
  | cons e es ih =>
    obtain ⟨before, others⟩ := ih (event_closed closed e) h
    rw [List.forall_mem_cons]
    cases e with
    | other => exact ⟨before, nofun, others⟩
    | message data =>
      -- a failed metering would have lost the usage
      have kept : ∀ t' : Metering, t.event codec (.message data) = t' → t'.invalid = true → t'.usage ≠ none := by
        rintro t' same bad lost
        rw [List.foldl_cons, same, foldl_invalid bad, lost] at h
        cases h
      have valid : t.invalid = false := by
        by_contra bad
        rw [Bool.not_eq_false] at bad
        exact kept t (event_invalid bad _) bad (closed bad)
      rcases event_message valid data with failed | ⟨usage, done, accepted, step⟩
      · exact absurd rfl (kept _ failed rfl)
      · rw [step] at before
        obtain ⟨-, -, ⟨silent, same⟩ | ⟨v, u', carried, known, reported, agree⟩⟩ := account_ok accepted
        · rw [same] at before
          exact ⟨before, by rw [silent]; exact nofun, others⟩
        · obtain rfl : u' = u := by
            rcases before with none_ | same
            · rw [reported] at none_
              cases none_
            · rw [reported] at same
              exact Option.some.inj same
          refine ⟨agree, fun w hw => ?_, others⟩
          rw [carried] at hw
          cases hw
          exact known

/-- The end marker stays. -/
theorem foldl_done (h : t.invalid = true ∨ t.done = true) (es : List SseEvent) :
    (es.foldl (Metering.event codec) t).invalid = true ∨ (es.foldl (Metering.event codec) t).done = true := by
  induction es generalizing t with
  | nil => exact h
  | cons e es ih =>
    apply ih
    cases e with
    | other => exact h
    | message data =>
      rcases h with bad | done
      · rw [event_invalid bad]
        exact .inl bad
      · by_cases bad : t.invalid = true
        · rw [event_invalid bad]
          exact .inl bad
        · rcases event_message (by simpa using bad) data with failed | ⟨usage, done', accepted, -⟩
          · rw [failed]
            exact .inl rfl
          · rw [(account_ok accepted).1] at done
            cases done

theorem foldl_marker {data : String} (he : SseEvent.message data ∈ es) (marker : trim data = "[DONE]".toList) :
    (es.foldl (Metering.event codec) t).invalid = true ∨ (es.foldl (Metering.event codec) t).done = true := by
  obtain ⟨before, after, rfl⟩ := List.append_of_mem he
  rw [List.foldl_append, List.foldl_cons]
  apply foldl_done
  generalize before.foldl (Metering.event codec) t = t'
  by_cases bad : t'.invalid = true
  · rw [event_invalid bad]
    exact .inl bad
  · rcases event_message (by simpa using bad) data with failed | ⟨usage, done, accepted, step⟩
    · rw [failed]
      exact .inl rfl
    · rw [step]
      exact .inr ((account_ok accepted).2.1 marker)

/-- A message after the end marker makes the stream invalid. -/
theorem foldl_after {before after : List SseEvent} {marker data : String} (he : SseEvent.message marker ∈ before)
    (isMarker : trim marker = "[DONE]".toList) :
    ((before ++ .message data :: after).foldl (Metering.event codec) t).invalid = true := by
  rw [List.foldl_append, List.foldl_cons]
  have ended : (before.foldl (Metering.event codec) t).invalid = true ∨
      (before.foldl (Metering.event codec) t).done = true :=
    foldl_marker he isMarker
  generalize before.foldl (Metering.event codec) t = t' at ended
  have failed : (t'.event codec (.message data)).invalid = true := by
    by_cases bad : t'.invalid = true
    · rw [event_invalid bad]
      exact bad
    · rcases event_message (by simpa using bad) data with failed | ⟨usage, done, accepted, -⟩
      · rw [failed]
        rfl
      · rw [(account_ok accepted).1] at ended
        exact absurd (ended.resolve_left bad) Bool.false_ne_true
  rw [foldl_invalid failed]
  exact failed

end

/-- For a decoder that does not depend on the chunks, neither does the meter. An invalid meter has no usage and
stays as it is, a usage is the one of every usage object of the stream, and a message after the end marker makes
the stream invalid. -/
theorem StreamMeter.observeAll_metering (codec : Codec) (stable : codec.sse.ChunkInvariant)
    (chunks : List (List UInt8)) :
    let m := (StreamMeter.default codec).observeAll chunks
    let stream := (codec.sse.feed codec.sse.fresh [chunks.flatten]).1
    m.metering = ((StreamMeter.default codec).observe chunks.flatten).2.metering ∧
    (m.invalid = true → m.usage = none ∧ ∀ more, m.observeAll more = m) ∧
    (∀ u, m.usage = some u → ∀ e ∈ stream, ∀ v, usageObject codec e = some v → completionUsage v = some u) ∧
    ∀ before data after, stream = before ++ .message data :: after →
      (∃ marker, SseEvent.message marker ∈ before ∧ trim marker = "[DONE]".toList) → m.invalid = true := by
  intro m stream
  have closed : Metering.start.Closed := fun _ => rfl
  have parts : m.metering = Metering.start.events codec (codec.sse.feed codec.sse.fresh chunks) :=
    observeAll_events chunks (StreamMeter.default codec) rfl closed
  have whole := observeAll_events [chunks.flatten] (StreamMeter.default codec) rfl closed
  rw [stable] at parts
  refine ⟨parts.trans whole.symm, fun bad => ⟨?_, observeAll_invalid bad⟩, fun u reported => ?_, ?_⟩
  · have shut : (Metering.start.events codec (codec.sse.feed codec.sse.fresh [chunks.flatten])).Closed :=
      events_closed closed _
    rw [← parts] at shut
    exact shut bad
  · have usage := congrArg Metering.usage parts
    rw [show m.metering.usage = some u from reported, Metering.events] at usage
    split at usage
    · cases usage
    · exact (foldl_usage closed usage.symm).2
  · rintro before data after split ⟨marker, he, isMarker⟩
    have bad : (stream.foldl (Metering.event codec) Metering.start).invalid = true := by
      rw [split]
      exact foldl_after he isMarker
    have invalid := congrArg Metering.invalid parts
    rw [Metering.events] at invalid
    split at invalid
    · exact invalid
    · exact invalid.trans bad

/-! ## A sample -/

/-- The open line, the data lines of the open event, latest byte and line first, and whether the last byte was a
carriage return. -/
structure SseLines where
  line : List UInt8
  data : List (List UInt8)
  afterReturn : Bool
  deriving DecidableEq

/-- The end of a line: an empty one ends the event, a `data:` line adds to it, other fields and comments are skipped. -/
def SseLines.endLine (s : SseLines) (afterReturn : Bool) : Option SseEvent × SseLines :=
  let text (bytes : List UInt8) : String := String.ofList (bytes.map fun b => Char.ofNat b.toNat)
  match s.line.reverse with
  | [] => match s.data with
    | [] => (none, ⟨[], [], afterReturn⟩)
    | lines => (some (.message (text ([10].intercalate lines.reverse))), ⟨[], [], afterReturn⟩)
  | 100 :: 97 :: 116 :: 97 :: 58 :: 32 :: rest => (none, ⟨[], rest :: s.data, afterReturn⟩)
  | 100 :: 97 :: 116 :: 97 :: 58 :: rest => (none, ⟨[], rest :: s.data, afterReturn⟩)
  | _ => (none, ⟨[], s.data, afterReturn⟩)

/-- One byte of an ASCII event stream. -/
def SseLines.push (s : SseLines) (byte : UInt8) : Except String (Option SseEvent × SseLines) :=
  if byte = 10 then .ok (if s.afterReturn then (none, { s with afterReturn := false }) else s.endLine false)
  else if byte = 13 then .ok (s.endLine true)
  else if 65536 < (s.line :: s.data).flatten.length then .error "payload too large"
  else .ok (none, { s with line := byte :: s.line, afterReturn := false })

def sampleUsageText : String := "\x7b\"usage\":\x7b\"prompt_tokens\":2,\"completion_tokens\":3\x7d\x7d"

/-- A codec that parses the one text of the sample. -/
def sampleCodec : Codec where
  sse := Decoder.ofPush SseLines.push ⟨[], [], false⟩
  parse text := if text = sampleUsageText then
      some (.obj [("usage", .obj [("completion_tokens", .int 3), ("prompt_tokens", .int 2)])])
    else none

/-- A usage event and the end marker, cut inside the first event. -/
def sampleChunks : List (List UInt8) :=
  let bytes := (("data: " ++ sampleUsageText ++ "\r\n\ndata: [DONE]\n\n").toList.map fun c => c.toNat.toUInt8)
  [bytes.take 9, bytes.drop 9]

/-- The sample is metered as in one chunk, and its usage is the one of every usage object in it. -/
theorem sample_metered :
    let m := (StreamMeter.default sampleCodec).observeAll sampleChunks
    m.metering = ⟨some ⟨2, 3⟩, true, false⟩ ∧
      m.metering = ((StreamMeter.default sampleCodec).observe sampleChunks.flatten).2.metering ∧
      ∀ e ∈ (sampleCodec.sse.feed sampleCodec.sse.fresh [sampleChunks.flatten]).1,
        ∀ v, usageObject sampleCodec e = some v → completionUsage v = some ⟨2, 3⟩ := by
  intro m
  have result : m.metering = ⟨some ⟨2, 3⟩, true, false⟩ := by decide +kernel
  obtain ⟨whole, -, agree, -⟩ := StreamMeter.observeAll_metering sampleCodec Decoder.ofPush_chunkInvariant sampleChunks
  exact ⟨result, whole, agree ⟨2, 3⟩ (congrArg Metering.usage result)⟩

end Xscope.Gateway
