import Muxwire.Proofs.FrameStream.Reading
import Muxwire.Proofs.Inbound
import Muxwire.Proofs.Log

/-!
# The inbound stage on a stream

What the stage makes of a stream is told without the stage: read all frames, decode their bodies up
to the first that is no response, and see what stopped this.

* `Inbound.responsesOf`, `Inbound.outcomeOf` -- those responses, and the result for the stream
  (`exists_splits` says what they are).
* `Inbound.Feed` -- the stage, and what is still to arrive at its socket. The octets come in pieces
  of any length, the responses are taken at any time, and the stop signal may fire.
* `Feed.Fed` -- the invariant, carried by `Fed.step`: the octets that arrived are the frames of the
  responses that were queued, and what is not read yet.
* **`Feed.run_refines`** -- at every moment the responses that were queued are the first of those of
  the stream, and none is lost on the queue. A stage that ends by itself has queued them all, with
  the result of the stream.
-/

namespace Muxwire.Mux.Inbound

open Wire

/-! ## 1. What a stream comes to -/

/-- The responses of the bodies up to the first that is none, and its error. -/
def decodeFront : List Octets → List Response × Option Error
  | [] => ([], none)
  | body :: bodies =>
    match Response.decode body with
    | .ok r => (r :: (decodeFront bodies).1, (decodeFront bodies).2)
    | .error e => ([], some e)

/-- The responses that a stream holds. -/
def responsesOf (s : Source) : List Response :=
  (decodeFront s.readFrames.1).1

/-- The result for a stream: the error of the first body that is no response, else the error that
stopped the reading. A stream that ended is no error. -/
def outcomeOf (s : Source) : Except Error Unit :=
  match (decodeFront s.readFrames.1).2, s.readFrames.2.1.error with
  | some e, _ => .error e
  | none, .connectionClosed => .ok ()
  | none, e => .error e

/-- Bodies that are responses come off the front. -/
theorem decodeFront_append {bodies : List Octets} {responses : List Response}
    (h : Decoded bodies responses) (more : List Octets) :
    decodeFront (bodies ++ more) = (responses ++ (decodeFront more).1, (decodeFront more).2) := by
  obtain ⟨-, decode⟩ := h
  induction bodies generalizing responses with
  | nil =>
    cases List.map_eq_nil_iff.mp decode.symm
    rfl
  | cons body bodies ih =>
    rw [List.map_cons] at decode
    obtain ⟨r, rest, rfl, hr, hrest⟩ := List.map_eq_cons_iff.mp decode.symm
    rw [List.cons_append, decodeFront, ← hr, ih hrest.symm]
    rfl

/-- Behind the responses there is nothing, or a body with the error. -/
theorem decodeFront_eq (bodies : List Octets) :
    ∃ front behind, bodies = front ++ behind
      ∧ front.map Response.decode = (decodeFront bodies).1.map .ok
      ∧ ((behind = [] ∧ (decodeFront bodies).2 = none)
        ∨ ∃ body rest e, behind = body :: rest ∧ Response.decode body = .error e
          ∧ (decodeFront bodies).2 = some e) := by
  induction bodies with
  | nil => exact ⟨[], [], rfl, rfl, .inl ⟨rfl, rfl⟩⟩
  | cons body bodies ih =>
    rw [decodeFront]
    cases hd : Response.decode body with
    | ok r =>
      obtain ⟨front, behind, he, hfront, hbehind⟩ := ih
      refine ⟨body :: front, behind, congrArg (body :: ·) he, ?_, hbehind⟩
      rw [List.map_cons, List.map_cons, hd, hfront]
    | error e => exact ⟨[], body :: bodies, rfl, rfl, .inr ⟨body, bodies, e, rfl, hd, rfl⟩⟩

/-- The stream as the reading and the decoding see it: its bodies are a front of responses, and
behind it nothing or a body that is none. -/
structure Splits (s : Source) (front behind : List Octets) : Prop where
  bodies : s.readFrames.1 = front ++ behind
  decode : front.map Response.decode = (responsesOf s).map .ok
  outcome : (behind = [] ∧ s.readFrames.2.1.error = .connectionClosed ∧ outcomeOf s = .ok ())
    ∨ (behind = [] ∧ s.readFrames.2.1.error ≠ .connectionClosed
      ∧ outcomeOf s = .error s.readFrames.2.1.error)
    ∨ ∃ body rest e, behind = body :: rest ∧ Response.decode body = .error e
      ∧ outcomeOf s = .error e

/-- The result when the end of the stream stopped the reading. -/
theorem outcomeOf_of_closed {s : Source} (all : (decodeFront s.readFrames.1).2 = none)
    (closed : s.readFrames.2.1.error = .connectionClosed) : outcomeOf s = .ok () := by
  rw [outcomeOf, all, closed]

/-- The result when an error stopped the reading. -/
theorem outcomeOf_of_failed {s : Source} (all : (decodeFront s.readFrames.1).2 = none)
    (failed : s.readFrames.2.1.error ≠ .connectionClosed) :
    outcomeOf s = .error s.readFrames.2.1.error := by
  rw [outcomeOf, all]
  split
  · contradiction
  · exact absurd ‹_› failed
  · rfl

/-- The stage reports just that when it meets the error. -/
theorem outcomeOf_eq_resultOf {s : Source} (all : (decodeFront s.readFrames.1).2 = none) :
    outcomeOf s = resultOf s.readFrames.2.1.error := by
  by_cases closed : s.readFrames.2.1.error = .connectionClosed
  · rw [outcomeOf_of_closed all closed, closed, resultOf]
  · rw [outcomeOf_of_failed all closed, resultOf]
    exact closed

/-- **The responses of a stream are those of the longest front of its bodies that are responses**,
and its result is the error of the body behind it, or what stopped the reading. -/
theorem exists_splits (s : Source) : ∃ front behind, Splits s front behind := by
  obtain ⟨front, behind, bodies, decode, outcome⟩ := decodeFront_eq s.readFrames.1
  refine ⟨front, behind, bodies, decode, ?_⟩
  rcases outcome with ⟨nothing, all⟩ | ⟨body, rest, e, hb, hd, he⟩
  · by_cases closed : s.readFrames.2.1.error = .connectionClosed
    · exact .inl ⟨nothing, closed, outcomeOf_of_closed all closed⟩
    · exact .inr (.inl ⟨nothing, closed, outcomeOf_of_failed all closed⟩)
  · exact .inr (.inr ⟨body, rest, e, hb, hd, by rw [outcomeOf, he]⟩)

section Streams

variable {s : Source} {bodies : List Octets} {queued : List Response} {rest : Octets}

/-- Frames of responses in front of a stream give its first responses. -/
theorem prefix_responsesOf (hd : Decoded bodies queued) (hp : stream bodies <+: s.octets) :
    queued <+: responsesOf s := by
  obtain ⟨_, decomposes, -⟩ := s.exists_decomposes
  obtain ⟨more, he⟩ := decomposes.front hd.fits hp
  rw [responsesOf, ← he, decodeFront_append hd]
  exact List.prefix_append _ _

/-- A stream whose reading stops behind them holds no others. -/
theorem of_stops {e : Error} {unread : Octets} (hd : Decoded bodies queued)
    (he : s.octets = stream bodies ++ rest) (stops : Stops s.ending rest e unread) :
    queued = responsesOf s ∧ outcomeOf s = resultOf e := by
  obtain ⟨rest', decomposes, stops'⟩ := s.exists_decomposes
  have here : Decomposes s.octets bodies rest := ⟨hd.fits, he, stops.stuck⟩
  obtain ⟨same, rfl⟩ := decomposes.unique here
  have all := decodeFront_append hd []
  rw [List.append_nil, ← same] at all
  refine ⟨?_, ?_⟩
  · rw [responsesOf, all]
    exact (List.append_nil _).symm
  · rw [outcomeOf_eq_resultOf (congrArg Prod.snd all), (stops.unique stops').1]

/-- A stream that goes on with a body that is no response holds no others, either. -/
theorem of_undecodable {body : Octets} {e : Error} (hd : Decoded bodies queued) (hf : Fits body)
    (hb : Response.decode body = .error e)
    (he : s.octets = stream bodies ++ (frameOf body ++ rest)) :
    queued = responsesOf s ∧ outcomeOf s = .error e := by
  obtain ⟨_, decomposes, -⟩ := s.exists_decomposes
  have fits : ∀ b ∈ bodies ++ [body], Fits b := by
    intro b h
    rcases List.mem_append.mp h with h | h
    · exact hd.fits b h
    · exact List.mem_singleton.mp h ▸ hf
  have front : stream (bodies ++ [body]) <+: s.octets := by
    rw [he, stream_append, ← List.append_assoc]
    refine ⟨rest, ?_⟩
    simp
  obtain ⟨more, hm⟩ := decomposes.front fits front
  have all := decodeFront_append hd (body :: more)
  rw [List.append_assoc, List.singleton_append] at hm
  rw [hm, decodeFront, hb] at all
  refine ⟨?_, ?_⟩
  · rw [responsesOf, all]
    exact (List.append_nil _).symm
  · rw [outcomeOf, all]

end Streams

/-! ## 2. Steps and the end -/

/-- What a step of the stage does to the queue, and what it leaves. -/
structure StepKeeps (a : Action) (v v' : View) : Prop where
  stop : v'.stop = v.stop
  ending : v'.stage.ending? = v.stage.ending?
  receiving : v'.responses.receiving = v.responses.receiving
  items : v'.responses.items = v.responses.items ++ (queued? a v).toList
  /-- Nothing is queued that nobody would take. -/
  nobodyTakes : v.responses.receiving = false → queued? a v = none
  /-- It goes on with its side of the queue, or ends and queues nothing. -/
  goesOn : v'.responses.sending = v.responses.sending ∧ (∀ result, v.stage.phase ≠ .ended result)
      ∧ (∀ result, v'.stage.phase ≠ .ended result)
    ∨ queued? a v = none ∧ ∃ result, v'.stage.phase = .ended result

theorem Step.keeps {a : Action} {v v' : View} (st : Step v a v') : StepKeeps a v v' := by
  cases st with
  | read hp hs hr =>
    exact {
      stop := rfl
      ending := rfl
      receiving := rfl
      items := (List.append_nil _).symm
      nobodyTakes := fun _ => rfl
      goesOn := .inl ⟨rfl, by rw [hp]; exact fun _ => nofun, fun _ => nofun⟩ }
  | @offer r hp hq =>
    have queued : queued? .offer v = some r := by
      simp only [queued?, hp, hq, if_true]
    exact {
      stop := rfl
      ending := rfl
      receiving := Queue.receiving_push _ _
      items := by
        rw [queued]
        exact Queue.items_push_of_queued hq
      nobodyTakes := by
        intro gone
        have there := ((Queue.push_queued_iff _ _).mp hq).2.1
        rw [gone] at there
        cases there
      goesOn := .inl ⟨Queue.sending_push _ _, by rw [hp]; exact fun _ => nofun, fun _ => nofun⟩ }
  | finish arrived result ha =>
    have queued := queued?_eq_none ha
    exact {
      stop := rfl
      ending := rfl
      receiving := rfl
      items := by
        rw [queued]
        exact (List.append_nil _).symm
      nobodyTakes := fun _ => queued
      goesOn := .inr ⟨queued, result, rfl⟩ }

/-- How an action ends the stage, and with which result. -/
inductive Ends (v : View) : Action → Except Error Unit → Prop where
  | badPrefix {fault : PrefixFault} {rest : Octets} (hp : v.stage.phase = .reading)
      (hs : split v.stage.arrived = .bad fault rest) :
      Ends v .read (.error (.protocol fault.message))
  | undecodable {body rest : Octets} {e : Error} (hp : v.stage.phase = .reading)
      (hs : split v.stage.arrived = .frame body rest) (hb : Response.decode body = .error e) :
      Ends v .read (.error e)
  | streamEnded {ending : Ending} (hp : v.stage.phase = .reading)
      (hs : split v.stage.arrived = .incomplete) (he : v.stage.ending? = some ending) :
      Ends v .hitEnd (resultOf (Source.closedAt ending))
  | nobodyTakes {r : Response} (hp : v.stage.phase = .offering r)
      (hq : (v.responses.push r).1 = .closed) : Ends v .offer (.ok ())
  | stopped (fired : v.stop.fired = true) : Ends v .stop (.ok ())

/-- **The stage ends in no other way.** -/
theorem ends_of_act {a : Action} {v v' : View} {result : Except Error Unit}
    (h : act a v = some v') (he : v'.stage.phase = .ended result) : Ends v a result := by
  unfold act at h
  split at h
  · rename_i hp
    split at h
    · cases h
    · rename_i hs
      cases h
      cases he
      exact .badPrefix hp hs
    · rename_i hs
      dsimp only at h
      split at h
      · rename_i hb
        cases h
        cases he
        exact .undecodable hp hs hb
      · cases h
        cases he
  · rename_i hp
    split at h
    · rename_i hs hend
      cases h
      cases he
      exact .streamEnded hp hs hend
    · cases h
  · rename_i r hp
    cases hq : v.responses.push r with
    | mk admission responses =>
      have hm : (v.responses.push r).1 = admission := by rw [hq]
      rw [hq] at h
      cases admission with
      | queued =>
        cases h
        cases he
      | full => cases h
      | closed =>
        cases h
        cases he
        exact .nobodyTakes hp hm
  · split at h
    · rename_i fired
      cases h
      cases he
      exact .stopped fired
    · cases h
  · split at h
    · rename_i fired
      cases h
      cases he
      exact .stopped fired
    · cases h
  · cases h

/-- **The stage stands still** only at its end, before a full queue, or where octets are missing. -/
theorem still {v : View} (h : ∀ a, act a v = none) :
    (∃ result, v.stage.phase = .ended result)
      ∨ (∃ r, v.stage.phase = .offering r ∧ (v.responses.push r).1 = .full)
      ∨ (v.stage.phase = .reading ∧ split v.stage.arrived = .incomplete
        ∧ v.stage.ending? = none) := by
  cases hp : v.stage.phase with
  | ended result => exact .inl ⟨result, rfl⟩
  | offering r =>
    refine .inr (.inl ⟨r, rfl, ?_⟩)
    have offer := h .offer
    cases hq : v.responses.push r with
    | mk admission responses =>
      cases admission with
      | full => rfl
      | queued | closed => simp [act, hp, hq] at offer
  | reading =>
    refine .inr (.inr ⟨rfl, ?_⟩)
    have read := h .read
    have hitEnd := h .hitEnd
    cases hs : split v.stage.arrived with
    | bad fault rest => simp [act, hp, hs] at read
    | frame body rest =>
      cases hb : Response.decode body with
      | error e => simp [act, hp, hs, hb] at read
      | ok r => simp [act, hp, hs, hb] at read
    | incomplete =>
      refine ⟨rfl, ?_⟩
      cases he : v.stage.ending? with
      | none => rfl
      | some ending => simp [act, hp, hs, he] at hitEnd

/-! ## 3. The stage and its stream -/

/-- The stage, and what is still to arrive at its socket. -/
structure Feed where
  view : View
  rest : Octets
  ending : Ending

namespace Feed

/-- A stage that has done nothing, with a queue of the given capacity and all octets to come. -/
def start (s : Source) (capacity : Nat) : Feed :=
  ⟨⟨.start, .new capacity, .new⟩, s.octets, s.ending⟩

/-- The feed after an event, if the event is possible: only the next octets of the stream can
arrive, and its end only behind the last of them. -/
def occur (e : Event) (f : Feed) : Option Feed :=
  match e with
  | .arrive octets =>
    if octets <+: f.rest then
      some { f with view := f.view.arrive octets, rest := f.rest.drop octets.length }
    else none
  | .serverEnds ending =>
    if f.rest = [] ∧ ending = f.ending then some { f with view := f.view.serverEnds ending }
    else none
  | e => (f.view.occur e).map fun view => { f with view }

/-- What an event that is possible adds to the log. -/
def observe (e : Event) (f : Feed) : Log :=
  match e with
  | .acts a => (queued? a f.view).toList.map .arrived
  | .takeResponses n => (f.view.takeResponses n).1.map .routed
  | _ => []

/-- The runs of the stage on its stream. -/
abbrev Run (f₀ : Feed) : Log → Feed → Prop :=
  Logged occur observe f₀

/-! ## 4. The invariant -/

/-- Why an action ends the stage after a log, and with which result. -/
inductive Reason (s : Source) (log : Log) (f : Feed) : Action → Except Error Unit → Prop where
  | stopped (fired : f.view.stop.fired = true) : Reason s log f .stop (.ok ())
  | nobodyTakes (gone : f.view.responses.receiving = false) : Reason s log f .offer (.ok ())
  /-- The stage has queued all responses of the stream. -/
  | exhausted {a : Action} (ha : a = .read ∨ a = .hitEnd) (all : log.arrived = responsesOf s) :
      Reason s log f a (outcomeOf s)

/-- What is true of every stage on a stream. -/
structure Fed (s : Source) (log : Log) (f : Feed) : Prop where
  /-- The octets that arrived are those that were read and those that were not. -/
  octets : ∃ octets, Reads f.view.stage octets log.arrived ∧ octets ++ f.rest = s.octets
  ending : f.ending = s.ending
  /-- The end of the stream is known behind the last octet. -/
  known : ∀ ending, f.view.stage.ending? = some ending → f.rest = [] ∧ ending = s.ending
  /-- The stage holds its side of the queue until it ends. -/
  sending : (∀ result, f.view.stage.phase ≠ .ended result) → f.view.responses.sending = true
  /-- What it queued comes off the queue in order. -/
  taken : log.routed <+: log.arrived
  kept : f.view.responses.receiving = true →
    log.routed ++ f.view.responses.items = log.arrived
  lost : f.view.responses.receiving = false → f.view.responses.items = []
  ended : ∀ result, f.view.stage.phase = .ended result → ∃ a, Reason s log f a result

variable {s : Source} {log more : Log} {f f' : Feed} {v : View} {a : Action}
  {result : Except Error Unit}

/-- A reason stays one. -/
theorem Reason.mono (h : Reason s log f a result)
    (stop : f.view.stop.fired = true → f'.view.stop.fired = true)
    (gone : f.view.responses.receiving = false → f'.view.responses.receiving = false)
    (quiet : more.arrived = []) : Reason s (log ++ more) f' a result := by
  cases h with
  | stopped fired => exact .stopped (stop fired)
  | nobodyTakes there => exact .nobodyTakes (gone there)
  | exhausted ha all =>
    refine .exhausted ha ?_
    rw [Log.arrived_append, quiet, List.append_nil, all]

/-- A bad prefix is one whatever follows. -/
theorem split_append_of_bad {octets rest : Octets} {fault : PrefixFault}
    (h : split octets = .bad fault rest) (after : Octets) :
    split (octets ++ after) = .bad fault (rest ++ after) := by
  obtain ⟨marker, length, four, bad, rfl⟩ := split_eq_bad_iff.mp h
  refine split_eq_bad_iff.mpr ⟨marker, length, four, bad, ?_⟩
  rw [List.cons_append, List.append_assoc]

/-- **By itself the stage ends with the whole stream read.** -/
theorem Fed.reason (h : Fed s log f) (ha : act a f.view = some v)
    (he : v.stage.phase = .ended result) : Reason s log f a result := by
  obtain ⟨octets, reads, ho⟩ := h.octets
  cases ends_of_act ha he with
  | stopped fired => exact .stopped fired
  | @nobodyTakes r hp hq =>
    have sending := h.sending (by rw [hp]; nofun)
    have closed := (Queue.push_closed_iff _ _).mp hq
    refine .nobodyTakes ?_
    simpa [Queue.isClosed, sending] using closed
  | @badPrefix fault rest hp hs =>
    simp only [Reads, hp] at reads
    obtain ⟨bodies, hd, rfl⟩ := reads
    rw [List.append_assoc] at ho
    have stops : Stops s.ending (f.view.stage.arrived ++ f.rest) (.protocol fault.message) _ :=
      stops_iff.mpr (.inl ⟨fault, split_append_of_bad hs f.rest, rfl⟩)
    obtain ⟨all, outcome⟩ := of_stops hd ho.symm stops
    have outcome : outcomeOf s = .error (.protocol fault.message) := outcome
    exact outcome ▸ .exhausted (.inl rfl) all
  | @undecodable body rest e hp hs hb =>
    simp only [Reads, hp] at reads
    obtain ⟨bodies, hd, rfl⟩ := reads
    obtain ⟨hf, harrived⟩ := split_eq_frame_iff.mp hs
    rw [List.append_assoc, harrived, List.append_assoc] at ho
    obtain ⟨all, outcome⟩ := of_undecodable hd hf hb ho.symm
    exact outcome ▸ .exhausted (.inl rfl) all
  | @streamEnded ending hp hs hend =>
    simp only [Reads, hp] at reads
    obtain ⟨bodies, hd, rfl⟩ := reads
    obtain ⟨nothing, rfl⟩ := h.known ending hend
    rw [nothing, List.append_nil] at ho
    have stops : Stops s.ending f.view.stage.arrived (Source.closedAt s.ending) [] :=
      stops_iff.mpr (.inr ⟨hs, rfl, rfl⟩)
    obtain ⟨all, outcome⟩ := of_stops hd ho.symm stops
    exact outcome ▸ .exhausted (.inr rfl) all

/-! ## 5. One event -/

theorem arrived_acts (a : Action) (f : Feed) :
    (observe (.acts a) f).arrived = (queued? a f.view).toList := by
  simp only [observe]
  cases queued? a f.view <;> rfl

theorem routed_acts (a : Action) (f : Feed) : (observe (.acts a) f).routed = [] := by
  simp only [observe]
  cases queued? a f.view <;> rfl

theorem arrived_takeResponses (n : Nat) (f : Feed) :
    (observe (.takeResponses n) f).arrived = [] := by
  show Log.arrived ((f.view.takeResponses n).1.map .routed) = []
  rw [Log.arrived, List.filterMap_map]
  exact List.filterMap_eq_nil_iff.mpr fun _ _ => rfl

theorem routed_takeResponses (n : Nat) (f : Feed) :
    (observe (.takeResponses n) f).routed = f.view.responses.items.take n := by
  show Log.routed ((f.view.takeResponses n).1.map .routed) = _
  rw [Log.routed, List.filterMap_map]
  exact List.filterMap_some

namespace Fed

/-- **A step of the stage keeps the invariant.** -/
theorem acts (h : Fed s log f) (ha : act a f.view = some v) :
    Fed s (log ++ observe (.acts a) f) { f with view := v } := by
  have st := step_of_act ha
  have keeps := st.keeps
  have arrived : (log ++ observe (.acts a) f).arrived
      = log.arrived ++ (queued? a f.view).toList := by
    rw [Log.arrived_append, arrived_acts]
  have routed : (log ++ observe (.acts a) f).routed = log.routed := by
    rw [Log.routed_append, routed_acts, List.append_nil]
  exact {
    octets := by
      obtain ⟨octets, reads, ho⟩ := h.octets
      exact ⟨octets, arrived ▸ reads.step st, ho⟩
    ending := h.ending
    known := fun ending he => h.known ending (keeps.ending ▸ he)
    sending := by
      intro running
      rcases keeps.goesOn with ⟨same, before, -⟩ | ⟨-, result, he⟩
      · exact same.trans (h.sending before)
      · exact absurd he (running result)
    taken := by
      rw [arrived, routed]
      exact h.taken.trans (List.prefix_append _ _)
    kept := by
      intro there
      have there : f.view.responses.receiving = true := keeps.receiving ▸ there
      rw [arrived, routed, keeps.items, ← List.append_assoc, h.kept there]
    lost := by
      intro gone
      have gone : f.view.responses.receiving = false := keeps.receiving ▸ gone
      rw [keeps.items, h.lost gone, keeps.nobodyTakes gone]
      rfl
    ended := by
      intro result he
      refine ⟨a, (h.reason ha he).mono ?_ ?_ ?_⟩
      · exact fun fired => keeps.stop ▸ fired
      · exact fun gone => keeps.receiving ▸ gone
      · rcases keeps.goesOn with ⟨-, -, running⟩ | ⟨none, -⟩
        · exact absurd he (running result)
        · rw [arrived_acts, none]
          rfl }

/-- What the world around does leaves the reason of the end. -/
theorem ended_mono (h : Fed s log f) (phase : f'.view.stage.phase = f.view.stage.phase)
    (stop : f.view.stop.fired = true → f'.view.stop.fired = true)
    (gone : f.view.responses.receiving = false → f'.view.responses.receiving = false)
    (quiet : more.arrived = []) :
    ∀ result, f'.view.stage.phase = .ended result → ∃ a, Reason s (log ++ more) f' a result := by
  intro result he
  obtain ⟨a, reason⟩ := h.ended result (phase ▸ he)
  exact ⟨a, reason.mono stop gone quiet⟩

/-- Octets arrive. -/
theorem arrive (h : Fed s log f) {octets : Octets} (hp : octets <+: f.rest) :
    Fed s (log ++ []) { f with
      view := f.view.arrive octets, rest := f.rest.drop octets.length } := by
  obtain ⟨behind, hb⟩ := hp
  have rest : f.rest.drop octets.length = behind := by
    rw [← hb, List.drop_left]
  exact {
    octets := by
      obtain ⟨before, reads, ho⟩ := h.octets
      rw [List.append_nil]
      refine ⟨before ++ octets, reads.arrive octets, ?_⟩
      rw [rest, List.append_assoc, hb, ho]
    ending := h.ending
    known := by
      intro ending he
      obtain ⟨nothing, same⟩ := h.known ending he
      exact ⟨by rw [nothing, List.drop_nil], same⟩
    sending := h.sending
    taken := by
      rw [List.append_nil]
      exact h.taken
    kept := by
      rw [List.append_nil]
      exact h.kept
    lost := h.lost
    ended := h.ended_mono rfl id id rfl }

/-- The end of the stream is known. -/
theorem serverEnds (h : Fed s log f) (nothing : f.rest = []) :
    Fed s (log ++ []) { f with view := f.view.serverEnds f.ending } := by
  have known : (f.view.serverEnds f.ending).stage.ending? = some s.ending := by
    have before := h.known
    rw [← h.ending] at before ⊢
    cases he : f.ending with
    | fault fault => rfl
    | eof =>
      -- no fault was reported before, since that would be the end
      cases hf : f.view.stage.fault with
      | none => simp [View.serverEnds, ending?, hf]
      | some fault =>
        have := (before (.fault fault) (by simp [ending?, hf])).2
        rw [he] at this
        cases this
  have stage : (f.view.serverEnds f.ending).stage.phase = f.view.stage.phase
      ∧ (f.view.serverEnds f.ending).responses = f.view.responses
      ∧ (f.view.serverEnds f.ending).stop = f.view.stop := by
    cases f.ending <;> exact ⟨rfl, rfl, rfl⟩
  obtain ⟨phase, responses, stop⟩ := stage
  exact {
    octets := by
      obtain ⟨octets, reads, ho⟩ := h.octets
      rw [List.append_nil]
      exact ⟨octets, reads.serverEnds f.ending, ho⟩
    ending := h.ending
    known := by
      intro ending he
      cases known.symm.trans he
      exact ⟨nothing, rfl⟩
    sending := by
      show (∀ result, (f.view.serverEnds f.ending).stage.phase ≠ _) →
        (f.view.serverEnds f.ending).responses.sending = true
      rw [phase, responses]
      exact h.sending
    taken := by
      rw [List.append_nil]
      exact h.taken
    kept := by
      show (f.view.serverEnds f.ending).responses.receiving = true → _
      rw [responses, List.append_nil]
      exact h.kept
    lost := by
      show (f.view.serverEnds f.ending).responses.receiving = false → _
      rw [responses]
      exact h.lost
    ended := h.ended_mono phase (fun fired => stop ▸ fired) (fun gone => responses ▸ gone) rfl }

/-- Responses are taken off the queue. -/
theorem takeResponses (h : Fed s log f) (n : Nat) :
    Fed s (log ++ observe (.takeResponses n) f)
      { f with view := (f.view.takeResponses n).2 } := by
  have arrived : (log ++ observe (.takeResponses n) f).arrived = log.arrived := by
    rw [Log.arrived_append, arrived_takeResponses, List.append_nil]
  have routed : (log ++ observe (.takeResponses n) f).routed
      = log.routed ++ f.view.responses.items.take n := by
    rw [Log.routed_append, routed_takeResponses]
  exact {
    octets := by
      rw [arrived]
      exact h.octets
    ending := h.ending
    known := h.known
    sending := h.sending
    taken := by
      rw [arrived, routed]
      cases there : f.view.responses.receiving with
      | true =>
        rw [← h.kept there]
        exact (List.prefix_append_right_inj _).mpr (List.take_prefix _ _)
      | false =>
        rw [h.lost there, List.take_nil, List.append_nil]
        exact h.taken
    kept := by
      intro there
      show _ ++ f.view.responses.items.drop n = _
      rw [arrived, routed, List.append_assoc, List.take_append_drop]
      exact h.kept there
    lost := by
      intro gone
      show f.view.responses.items.drop n = []
      rw [h.lost gone, List.drop_nil]
    ended := h.ended_mono rfl id id (arrived_takeResponses n f) }

/-- **Every event keeps the invariant.** -/
theorem step (h : Fed s log f) {e : Event} (he : occur e f = some f') :
    Fed s (log ++ observe e f) f' := by
  cases e with
  | acts a =>
    obtain ⟨v, ha, rfl⟩ := Option.map_eq_some_iff.mp he
    exact h.acts ha
  | arrive octets =>
    rw [occur] at he
    split at he
    · rename_i hp
      cases he
      exact h.arrive hp
    · cases he
  | serverEnds ending =>
    rw [occur] at he
    split at he
    · rename_i hend
      obtain ⟨nothing, rfl⟩ := hend
      cases he
      exact h.serverEnds nothing
    · cases he
  | takeResponses n =>
    cases he
    exact h.takeResponses n
  | closeResponses =>
    cases he
    have same := List.append_nil log
    exact {
      octets := same.symm ▸ h.octets
      ending := h.ending
      known := h.known
      sending := h.sending
      taken := same.symm ▸ h.taken
      kept := nofun
      lost := fun _ => rfl
      ended := h.ended_mono rfl id (fun _ => rfl) rfl }
  | trigger =>
    cases he
    have same := List.append_nil log
    exact {
      octets := same.symm ▸ h.octets
      ending := h.ending
      known := h.known
      sending := h.sending
      taken := same.symm ▸ h.taken
      kept := same.symm ▸ h.kept
      lost := h.lost
      ended := h.ended_mono rfl (fun _ => rfl) id rfl }

end Fed

theorem fed_start (s : Source) (capacity : Nat) : Fed s [] (start s capacity) where
  octets := ⟨[], reads_start, rfl⟩
  ending := rfl
  known := nofun
  sending _ := rfl
  taken := List.nil_prefix
  kept _ := rfl
  lost := nofun
  ended := nofun

theorem fed_of_run {capacity : Nat} (run : Run (start s capacity) log f) : Fed s log f := by
  induction run with
  | start => exact fed_start s capacity
  | step e _ he ih => exact ih.step he

/-! ## 6. The stage as a function of the stream -/

/-- What the stage makes of a stream. -/
structure Refines (s : Source) (log : Log) (f : Feed) : Prop where
  /-- The stream holds the responses of the longest front of its bodies. -/
  stream : ∃ front behind, Splits s front behind
  /-- The responses that were queued are the first of them, in order. -/
  queued : log.arrived <+: responsesOf s
  /-- None is lost on the queue or taken twice, as long as someone takes them. -/
  taken : log.routed <+: log.arrived
  kept : f.view.responses.receiving = true →
    log.routed ++ f.view.responses.items = log.arrived
  /-- An action that ends the stage follows the stop signal, or finds that nobody takes responses,
  and then the end is a good one; or all responses of the stream were queued, and the result is
  that of the stream. -/
  ends : ∀ a v result, act a f.view = some v → v.stage.phase = .ended result →
    Reason s log f a result
  /-- Whoever finds the stage ended finds that it has ended in one of these ways. -/
  ended : ∀ result, f.view.stage.phase = .ended result → ∃ a, Reason s log f a result
  /-- It stands still only at its end, before a full queue, or where octets are missing and the
  stream has not ended. -/
  still : (∀ a, act a f.view = none) →
    (∃ result, f.view.stage.phase = .ended result)
      ∨ (∃ r, f.view.stage.phase = .offering r ∧ (f.view.responses.push r).1 = .full)
      ∨ (f.view.stage.phase = .reading ∧ split f.view.stage.arrived = .incomplete
        ∧ f.view.stage.ending? = none)

/-- **The stage queues the responses of its stream and ends with its result**, whatever the stream
and its end, the pieces in which it comes, the capacity of the queue, and whoever takes the
responses, unless the stop signal or the taker stops it. -/
theorem run_refines {capacity : Nat} (run : Run (start s capacity) log f) : Refines s log f := by
  have h := fed_of_run run
  obtain ⟨octets, reads, ho⟩ := h.octets
  obtain ⟨bodies, hd, hp⟩ := reads.decoded
  exact {
    stream := exists_splits s
    queued := prefix_responsesOf hd (hp.trans (ho ▸ List.prefix_append _ _))
    taken := h.taken
    kept := h.kept
    ends := fun a v result ha he => h.reason ha he
    ended := h.ended
    still := Inbound.still }

/-- A stream of one response, cut short behind the first octet of the next frame. -/
def cutShort : Source :=
  ⟨[[0xce, 0, 0, 0, 5, 0x82, 0x00, 0x00, 0x01, 0x01, 0xce]], .eof⟩

theorem Run.read {f₀ : Feed} {body rest : Octets} {r : Response} (run : Run f₀ log f)
    (hp : f.view.stage.phase = .reading) (hs : split f.view.stage.arrived = .frame body rest)
    (hr : Response.decode body = .ok r) :
    Run f₀ log { f with view := { f.view with
      stage := { f.view.stage with arrived := rest, phase := .offering r } } } := by
  have taken : occur (.acts .read) f = some _ := congrArg (Option.map _) (act_read hp hs hr)
  exact List.append_nil log ▸ run.step _ taken

/-- The stage queues the response, and ends well. -/
theorem run_refines_cutShort : ∃ log f, Run (start cutShort 1) log f
    ∧ f.view.stage.phase = .ended (.ok ()) ∧ log.arrived = [⟨1, 0, none, none, none⟩]
    ∧ Refines cutShort log f := by
  have begun : Run (start cutShort 1) _ _ := Logged.of_follow
    [.arrive [0xce, 0, 0], .arrive [0, 5, 0x82, 0x00, 0x00, 0x01, 0x01, 0xce],
      .serverEnds .eof] rfl
  have run : Run (start cutShort 1) _ _ := (begun.read rfl rfl Response.decode_pong).trans
    (Logged.of_follow [.acts .offer, .takeResponses 1, .acts .hitEnd] rfl)
  exact ⟨_, _, run, rfl, rfl, run_refines run⟩

end Feed

end Muxwire.Mux.Inbound
