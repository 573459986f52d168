import Muxwire.Proofs.Book

/-!
# The course of the dispatch stage

The stage stands in several systems: on its own with callers and server around it, under the
supervisor that ends it, and in the pipeline. What each of them does to it is a sequence of `Move`s,
and each move adds at most one record to the log. What holds of every `Course` holds in all of
them; `Course.of_run` is the first of the three.

A submission may be queued by whoever holds a ticket that nobody entered before and whose slot is
empty (`Unused`): in the pipeline time passes between the ticket and the queue.

Whatever is no step of the stage itself happens around it (`Around`): it puts submissions and
responses on the queues, and takes none off.
-/

namespace Muxwire.Mux

open Request Wire

namespace Dispatch

/-! ## 1. The stage after an acceptance -/

/-- A query that can be packed goes on the table, and its frame waits for room. -/
theorem accept_of_ok {s : Submission} {d : Dispatch} {frame : Octets}
    (h : s.query.pack d.counter.following d.space = .ok frame) :
    accept s d = { d with
      phase := .forwarding frame
      counter := d.counter.next.2
      ledger := (d.ledger.evict d.counter.following (reissued d.counter.following)).2.register
        d.counter.following s.ticket } := by
  simp only [accept, SyncCounter.next, h]

/-- A query that cannot be packed is answered with its error. -/
theorem accept_of_error {s : Submission} {d : Dispatch} {e : Error}
    (h : s.query.pack d.counter.following d.space = .error e) :
    accept s d = { d with
      phase := .ready
      counter := d.counter.next.2
      ledger := (d.ledger.evict d.counter.following (reissued d.counter.following)).2.deliver
        s.ticket (.error e) } := by
  simp only [accept, SyncCounter.next, h]

/-- A query that finds room enters with a new ticket. -/
theorem submit_of_queued {q : Query} {d : Dispatch}
    (h : (d.submissions.push ⟨q, d.ledger.slots.length⟩).1 = .queued) :
    (d.submit q).2 = { d with
      submissions := (d.submissions.push ⟨q, d.ledger.slots.length⟩).2
      ledger := d.ledger.openSlot.2 } := by
  cases hq : d.submissions.push ⟨q, d.ledger.slots.length⟩ with
  | mk admission submissions =>
    rw [hq] at h
    cases h
    simp only [submit, Ledger.openSlot, hq]

/-- A query that finds no room is answered at once. -/
theorem submit_of_not_queued {q : Query} {d : Dispatch}
    (h : (d.submissions.push ⟨q, d.ledger.slots.length⟩).1 ≠ .queued) :
    (d.submit q).2 = { d with
      ledger := d.ledger.openSlot.2.deliver d.ledger.slots.length (.error .connectionClosed) } := by
  cases hq : d.submissions.push ⟨q, d.ledger.slots.length⟩ with
  | mk admission submissions =>
    rw [hq] at h
    cases admission with
    | queued => exact absurd rfl h
    | _ => simp only [submit, Ledger.openSlot, hq]

/-- A stage that has done nothing: it has no items, slots or waiting tickets. -/
structure Blank (d : Dispatch) : Prop where
  phase : d.phase = .ready
  submissions : d.submissions.items = []
  responses : d.responses.items = []
  outbound : d.outbound.items = []
  ledger : d.ledger = .empty

theorem blank_new (submissions responses outbound : Nat) (intake : Intake) (space : String)
    (counter : SyncCounter) :
    Blank (new submissions responses outbound intake space counter) :=
  ⟨rfl, rfl, rfl, rfl, rfl⟩

/-! ## 2. Moves -/

/-- A ticket has an empty slot, and no submission with it was queued. -/
structure Unused (log : Log) (d : Dispatch) (t : Ticket) : Prop where
  inRange : t < d.ledger.slots.length
  empty : d.ledger.deliveries t = []
  notEntered : ∀ s ∈ log.entered, s.ticket ≠ t

/-- What may happen to the stage after a log, and what it adds to the log. -/
inductive Move (log : Log) (d : Dispatch) : Option Record → Dispatch → Prop where
  | look (accepting : Bool) (hp : d.phase = .ready) :
      Move log d none { d with phase := .selecting accepting }
  | acceptPacked {s : Submission} {submissions : Queue Submission} {frame : Octets}
      (hp : d.phase = .selecting true) (hq : d.submissions.pop? = some (s, submissions))
      (hpack : s.query.pack d.counter.following d.space = .ok frame) :
      Move log d (some (.accepted d.counter.following s)) { d with
        phase := .forwarding frame
        submissions
        counter := d.counter.next.2
        ledger := (d.ledger.evict d.counter.following (reissued d.counter.following)).2.register
          d.counter.following s.ticket }
  | acceptFailed {s : Submission} {submissions : Queue Submission} {e : Error}
      (hp : d.phase = .selecting true) (hq : d.submissions.pop? = some (s, submissions))
      (hpack : s.query.pack d.counter.following d.space = .error e) :
      Move log d (some (.accepted d.counter.following s)) { d with
        phase := .ready
        submissions
        counter := d.counter.next.2
        ledger := (d.ledger.evict d.counter.following (reissued d.counter.following)).2.deliver
          s.ticket (.error e) }
  | route {accepting : Bool} {r : Response} {responses : Queue Response}
      (hp : d.phase = .selecting accepting) (hq : d.responses.pop? = some (r, responses)) :
      Move log d (some (.routed r))
        { d with phase := .ready, responses, ledger := (d.ledger.complete r).2 }
  | forward {frame : Octets} (hp : d.phase = .forwarding frame)
      (hq : (d.outbound.push frame).1 = .queued) :
      Move log d (some (.forwarded frame))
        { d with phase := .ready, outbound := (d.outbound.push frame).2 }
  | finish : Move log d none d.finish
  | openSlot : Move log d none { d with ledger := d.ledger.openSlot.2 }
  /-- A caller whose query is not queued gets a slot with its reply. -/
  | refuse (r : Reply) :
      Move log d none { d with ledger := d.ledger.openSlot.2.deliver d.ledger.slots.length r }
  | enter {s : Submission} (hs : Unused log d s.ticket)
      (hq : (d.submissions.push s).1 = .queued) :
      Move log d (some (.entered s)) { d with submissions := (d.submissions.push s).2 }
  | arrive {r : Response} (hq : (d.responses.push r).1 = .queued) :
      Move log d (some (.arrived r)) { d with responses := (d.responses.push r).2 }
  | take {frame : Octets} {outbound : Queue Octets}
      (hq : d.outbound.pop? = some (frame, outbound)) :
      Move log d (some (.taken frame)) { d with outbound }
  | abandon (t : Ticket) : Move log d none (d.abandon t)
  /-- The stop signal changes, and sides of the queues go; no item moves. -/
  | signal (stop : StopSignal) : Move log d none { d with stop }
  | shutSubmissions (submissions : Queue Submission)
      (hq : submissions.items = d.submissions.items) : Move log d none { d with submissions }
  | closeResponses : Move log d none d.closeResponses
  | closeOutbound : Move log d none d.closeOutbound
  /-- Everyone on the table is given up. -/
  | giveUp (hp : d.phase = .ended) :
      Move log d (some .givenUp) { d with ledger := (d.ledger.failAll .connectionClosed).2 }
  /-- A submission on the queue is given up. -/
  | drain {s : Submission} {submissions : Queue Submission} (hp : d.phase = .ended)
      (hq : d.submissions.pop? = some (s, submissions)) :
      Move log d (some (.drained s))
        { d with submissions, ledger := d.ledger.deliver s.ticket (.error .connectionClosed) }

/-- The courses of a stage: the log of a course, and the stage after it. -/
inductive Course (d₀ : Dispatch) : Log → Dispatch → Prop where
  | start : Course d₀ [] d₀
  | step {log : Log} {d d' : Dispatch} {x : Option Record} :
      Course d₀ log d → Move log d x d' → Course d₀ (log ++ x.toList) d'

namespace Course

variable {d₀ d d' : Dispatch} {log : Log}

/-- A move that adds nothing to the log. -/
theorem silent (c : Course d₀ log d) (m : Move log d none d') : Course d₀ log d' := by
  simpa using c.step m

/-- A move that adds a record to the log. -/
theorem record {x : Record} (c : Course d₀ log d) (m : Move log d (some x) d') :
    Course d₀ (log ++ [x]) d' :=
  c.step m

end Course

/-! ## 3. The runs of the stage are courses -/

/-- No move takes a slot away. -/
theorem Move.length_le {log : Log} {d d' : Dispatch} {x : Option Record} (m : Move log d x d') :
    d.ledger.slots.length ≤ d'.ledger.slots.length := by
  cases m with
  | acceptPacked => exact Nat.le_of_eq (Ledger.length_finish ..).symm
  | acceptFailed =>
    exact Nat.le_of_eq ((Ledger.length_deliver ..).trans (Ledger.length_finish ..)).symm
  | route => exact Nat.le_of_eq (Ledger.length_finish ..).symm
  | openSlot => exact Nat.le_of_lt (Nat.lt_of_lt_of_eq (Nat.lt_succ_self _)
      (Ledger.length_openSlot _).symm)
  | refuse =>
    rw [Ledger.length_deliver, Ledger.length_openSlot]
    exact Nat.le_succ _
  | abandon => exact Nat.le_of_eq (Ledger.length_abandon ..).symm
  | giveUp => exact Nat.le_of_eq (Ledger.length_failAll ..).symm
  | drain => exact Nat.le_of_eq (Ledger.length_deliver ..).symm
  | _ => exact Nat.le_refl _

/-- A course takes no slot away. -/
theorem Course.length_le {d₀ d : Dispatch} {log : Log} (c : Course d₀ log d) :
    d₀.ledger.slots.length ≤ d.ledger.slots.length := by
  induction c with
  | start => exact Nat.le_refl _
  | step _ m ih => exact Nat.le_trans ih m.length_le

/-- What is queued by a move has an unused ticket. -/
theorem Move.unused_of_entered {log : Log} {d d' : Dispatch} {s : Submission}
    (m : Move log d (some (.entered s)) d') : Unused log d s.ticket := by
  cases m with
  | enter hs hq => exact hs

/-- The stage itself does not touch the stop signal. -/
theorem stop_act {a : Action} {d d' : Dispatch} (h : act a d = some d') : d'.stop = d.stop := by
  unfold act at h
  split at h
  · cases h
    rfl
  · split at h
    · cases h
      unfold accept
      dsimp only
      split <;> rfl
    · split at h <;> cases h
      rfl
  · split at h
    · cases h
      rfl
    · split at h <;> cases h
      rfl
  · split at h <;> cases h <;> rfl
  · split at h <;> cases h
    rfl
  · split at h <;> cases h
    rfl
  · cases h

/-- **Every step of the stage itself is a move**, and queues no submission. -/
theorem exists_move (log : Log) {a : Action} {d d' : Dispatch} (h : act a d = some d') :
    ∃ x, Move log d x d' ∧ observe (.acts a) d = x.toList ∧ x.bind Record.entered? = none := by
  unfold act at h
  split at h
  · rename_i hp
    cases h
    exact ⟨_, .look _ hp, rfl, rfl⟩
  · rename_i hp
    cases hq : d.submissions.pop? with
    | some popped =>
      obtain ⟨s, submissions⟩ := popped
      rw [hq] at h
      cases h
      cases hpack : s.query.pack d.counter.following d.space with
      | ok frame =>
        rw [accept_of_ok (d := { d with submissions }) hpack]
        exact ⟨_, .acceptPacked hp hq hpack, by simp [observe, hq], rfl⟩
      | error e =>
        rw [accept_of_error (d := { d with submissions }) hpack]
        exact ⟨_, .acceptFailed hp hq hpack, by simp [observe, hq], rfl⟩
    | none =>
      rw [hq] at h
      dsimp only at h
      split at h
      · cases h
        exact ⟨_, .finish, by simp [observe, hq], rfl⟩
      · cases h
  · rename_i hp
    cases hq : d.responses.pop? with
    | some popped =>
      obtain ⟨r, responses⟩ := popped
      rw [hq] at h
      cases h
      exact ⟨_, .route hp hq, by simp [observe, hq], rfl⟩
    | none =>
      rw [hq] at h
      dsimp only at h
      split at h
      · cases h
        exact ⟨_, .finish, by simp [observe, hq], rfl⟩
      · cases h
  · rename_i frame hp
    cases hq : d.outbound.push frame with
    | mk admission outbound =>
      have hm : (d.outbound.push frame).1 = admission := by rw [hq]
      rw [hq] at h
      cases admission with
      | queued =>
        cases h
        have ho : (d.outbound.push frame).2 = outbound := by rw [hq]
        subst ho
        exact ⟨_, .forward hp hm, by simp [observe, hp, hm], rfl⟩
      | full => cases h
      | closed =>
        cases h
        exact ⟨_, .finish, by simp [observe, hp, hm], rfl⟩
  · split at h
    · cases h
      exact ⟨_, .finish, rfl, rfl⟩
    · cases h
  · split at h
    · cases h
      exact ⟨_, .finish, rfl, rfl⟩
    · cases h
  · cases h

namespace Course

variable {d₀ d : Dispatch} {log : Log}

/-- Whoever was queued has a slot. -/
theorem inRange (c : Course d₀ log d) : ∀ s ∈ log.entered, s.ticket < d.ledger.slots.length := by
  induction c with
  | start => exact nofun
  | @step log d d' x _ m ih =>
    intro s hs
    cases x with
    | none => exact Nat.lt_of_lt_of_le (ih s (by simpa using hs)) m.length_le
    | some x =>
      rw [Option.toList_some, Log.entered_concat, List.mem_append] at hs
      rcases hs with hs | hs
      · exact Nat.lt_of_lt_of_le (ih s hs) m.length_le
      · cases x with
        | entered s' =>
          cases List.mem_singleton.mp hs
          exact Nat.lt_of_lt_of_le m.unused_of_entered.inRange m.length_le
        | _ => cases hs

/-- A new slot is unused. -/
theorem unused_openSlot (c : Course d₀ log d) :
    Unused log { d with ledger := d.ledger.openSlot.2 } d.ledger.slots.length where
  inRange := by
    rw [Ledger.length_openSlot]
    exact Nat.lt_succ_self _
  empty := by
    rw [Ledger.deliveries_openSlot]
    exact Ledger.deliveries_of_length_le (Nat.le_refl _)
  notEntered s hs := Nat.ne_of_lt (c.inRange s hs)

/-- A step of the stage continues its course. -/
theorem act {a : Action} {d' : Dispatch} (c : Course d₀ log d) (h : Dispatch.act a d = some d') :
    Course d₀ (log ++ observe (.acts a) d) d' := by
  obtain ⟨x, m, hx, -⟩ := exists_move log h
  exact hx ▸ c.step m

/-- A caller with a new ticket enters or is refused. -/
theorem submit (c : Course d₀ log d) (q : Query) :
    Course d₀ (log ++ observe (.submit q) d) (d.submit q).2 := by
  have opened := c.silent .openSlot
  have unused := c.unused_openSlot
  by_cases h : (d.submissions.push ⟨q, d.ledger.slots.length⟩).1 = .queued
  · simp only [observe, h, if_true, submit_of_queued h]
    exact opened.record (.enter unused h)
  · simp only [observe, h, if_false, submit_of_not_queued h, List.append_nil]
    exact c.silent (.refuse (.error .connectionClosed))

theorem respond (c : Course d₀ log d) (r : Response) :
    Course d₀ (log ++ observe (.respond r) d) (d.respond r).2 := by
  by_cases h : (d.responses.push r).1 = .queued
  · simpa [observe, Dispatch.respond, h] using c.record (.arrive h)
  · simpa [observe, Dispatch.respond, h, Queue.push_eq_of_not_queued h] using c

/-- Frames are taken one by one. -/
theorem takeFrames (c : Course d₀ log d) (n : Nat) :
    Course d₀ (log ++ (d.takeFrames n).1.map .taken) (d.takeFrames n).2 := by
  induction n generalizing log d with
  | zero => simpa [Dispatch.takeFrames, Queue.takeUpTo] using c
  | succ n ih =>
    cases hi : d.outbound.items with
    | nil =>
      simpa [Dispatch.takeFrames, Queue.takeUpTo_of_nil hi] using c
    | cons frame items =>
      have hq : d.outbound.pop? = some (frame, { d.outbound with items }) := by
        simp [Queue.pop?, hi]
      simpa [Dispatch.takeFrames, Queue.takeUpTo, hi] using ih (c.record (.take hq))

/-- What may happen to the stage continues its course. -/
theorem occur {e : Event} {d' : Dispatch} (c : Course d₀ log d)
    (h : Dispatch.occur e d = some d') : Course d₀ (log ++ observe e d) d' := by
  cases e with
  | acts a => exact c.act h
  | submit q =>
    cases h
    exact c.submit q
  | respond r =>
    cases h
    exact c.respond r
  | takeFrames n =>
    cases h
    exact c.takeFrames n
  | trigger =>
    cases h
    exact c.step (.signal _)
  | abandon t =>
    cases h
    exact c.step (.abandon t)
  | closeSubmissions =>
    cases h
    exact c.step (.shutSubmissions d.submissions.closeSending rfl)
  | closeResponses =>
    cases h
    exact c.step .closeResponses
  | closeOutbound =>
    cases h
    exact c.step .closeOutbound

/-- **Every run of the stage is a course.** -/
theorem of_run (run : Run d₀ log d) : Course d₀ log d := by
  induction run with
  | start => exact .start
  | step e _ he ih => exact ih.occur he

end Course

/-! ## 4. What happens around the stage -/

/-- What happens around the stage, and what it adds to the log: it puts items on the queues of
submissions and responses and takes none off them, and leaves the stage alone. -/
structure Around (d : Dispatch) (x : Log) (d' : Dispatch) : Prop where
  phase : d'.phase = d.phase
  responses : d'.responses.items = d.responses.items ++ x.arrived
  /-- Only takers of frames touch the outbound queue, as long as they are there. -/
  outbound : x.taken = [] → d'.outbound.receiving = true → d'.outbound = d.outbound
  receiving : d'.outbound.receiving = true → d.outbound.receiving = true
  counter : d'.counter = d.counter
  intake : d'.intake = d.intake
  fired : d.stop.fired = true → d'.stop.fired = true
  routed : x.routed = []
  left : x.left = []
  forwarded : x.forwarded = []

/-- What adds nothing to the log and leaves the stage, its queues and the gate alone. -/
theorem Around.silent {d d' : Dispatch} (phase : d'.phase = d.phase)
    (responses : d'.responses.items = d.responses.items)
    (outbound : d'.outbound.receiving = true → d'.outbound = d.outbound)
    (counter : d'.counter = d.counter) (intake : d'.intake = d.intake)
    (fired : d.stop.fired = true → d'.stop.fired = true) : Around d [] d' :=
  ⟨phase, responses.trans (List.append_nil _).symm, fun _ => outbound,
    fun there => outbound there ▸ there, counter, intake, fired, rfl, rfl, rfl⟩

/-- **Whatever is no step of the stage itself happens around it.** -/
theorem around_of_occur {e : Event} {d d' : Dispatch} (own : ∀ a, e ≠ .acts a)
    (he : occur e d = some d') : Around d (observe e d) d' := by
  cases e with
  | acts a => exact absurd rfl (own a)
  | submit q =>
    cases he
    by_cases hq : (d.submissions.push ⟨q, d.ledger.slots.length⟩).1 = .queued
    · simp only [submit_of_queued hq, observe, hq, if_true]
      exact ⟨rfl, (List.append_nil _).symm, fun _ _ => rfl, id, rfl, rfl, id, rfl, rfl, rfl⟩
    · simp only [submit_of_not_queued hq, observe, hq, if_false]
      exact .silent rfl rfl (fun _ => rfl) rfl rfl id
  | respond r =>
    cases he
    by_cases hq : (d.responses.push r).1 = .queued
    · simp only [observe, hq, if_true]
      exact ⟨rfl, Queue.items_push_of_queued hq, fun _ _ => rfl, id, rfl, rfl, id, rfl, rfl, rfl⟩
    · simp only [observe, hq, if_false]
      have same : (d.responses.push r).2.items = d.responses.items := by
        rw [Queue.push_eq_of_not_queued hq]
      exact .silent rfl same (fun _ => rfl) rfl rfl id
  | takeFrames n =>
    cases he
    have none : ∀ {α : Type} (f : Record → Option α), (∀ frame, f (.taken frame) = none) →
        (observe (.takeFrames n) d).filterMap f = [] := by
      intro α f hf
      refine List.filterMap_eq_nil_iff.mpr fun x hx => ?_
      obtain ⟨frame, -, rfl⟩ := List.mem_map.mp hx
      exact hf frame
    refine ⟨rfl, ?_, fun untaken _ => ?_, id, rfl, rfl, id, none _ fun _ => rfl,
      none _ fun _ => rfl, none _ fun _ => rfl⟩
    · rw [Log.arrived, none _ fun _ => rfl, List.append_nil]
      rfl
    · rw [observe, Log.taken_map] at untaken
      have untaken : d.outbound.items.take n = [] := untaken
      have items := List.take_append_drop n d.outbound.items
      rw [untaken, List.nil_append] at items
      simp only [takeFrames, Queue.takeUpTo, items]
  | trigger =>
    cases he
    exact .silent rfl rfl (fun _ => rfl) rfl rfl fun _ => rfl
  | closeOutbound =>
    cases he
    exact .silent rfl rfl (fun there => by cases there) rfl rfl id
  | abandon | closeSubmissions | closeResponses =>
    cases he
    exact .silent rfl rfl (fun _ => rfl) rfl rfl id

/-! ## 5. The end of the stage -/

variable {d₀ d d' : Dispatch} {log : Log}

/-- A stage that has ended stays so. -/
theorem Move.ended {x : Option Record} (m : Move log d x d') (h : d.phase = .ended) :
    d'.phase = .ended := by
  cases m with
  | finish => rfl
  | look _ hp | acceptPacked hp | acceptFailed hp | route hp | forward hp =>
    rw [h] at hp
    cases hp
  | _ => exact h

/-- It takes responses as long as it has not ended. -/
theorem Course.receiving_iff (blank : Blank d₀) (there : d₀.responses.receiving = true)
    (c : Course d₀ log d) : d.responses.receiving = true ↔ d.phase ≠ .ended := by
  induction c with
  | start =>
    rw [blank.phase]
    exact ⟨fun _ => nofun, fun _ => there⟩
  | @step log d d' x c m ih =>
    cases m with
    | finish => exact ⟨nofun, fun h => absurd rfl h⟩
    | look _ hp | acceptPacked hp | acceptFailed hp | forward hp =>
      rw [hp] at ih
      exact ⟨fun _ => nofun, fun _ => ih.mpr nofun⟩
    | route hp hq =>
      rw [hp, ← Queue.receiving_pop? hq] at ih
      exact ⟨fun _ => nofun, fun _ => ih.mpr nofun⟩
    | @arrive r hq =>
      rw [← Queue.receiving_push d.responses r] at ih
      exact ih
    | _ => exact ih

end Dispatch

end Muxwire.Mux
