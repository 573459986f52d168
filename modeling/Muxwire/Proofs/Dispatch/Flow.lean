import Muxwire.Proofs.Dispatch.Routing

/-!
# Responses behind a full outbound queue

The stage hands out responses and forwards frames, one thing at a time. With a frame at hand for
which the outbound queue has no room it does neither (`WaitsForRoom`).

* **`run_flow`** -- as long as nothing is closed and the stop signal has not fired, the stage hands
  out the first response on the queue by its own actions, unless it waits for room. While it waits
  it can do nothing, and whatever else happens the responses stay on the queue until a frame is
  taken; one frame is enough.
* `responses_held` -- the stage does come to wait with a response on the queue.

NOT here: that responses keep leaving the queue whatever becomes of the frames. They do not.
-/

namespace Muxwire.Mux.Dispatch

open Request Wire

/-! ## 1. Waiting for room -/

/-- The stop signal has not fired, and no queue is closed. -/
structure Undisturbed (d : Dispatch) : Prop where
  running : d.stop.fired = false
  submissions : d.submissions.isClosed = false
  responses : d.responses.isClosed = false
  outbound : d.outbound.isClosed = false

/-- The stage has a frame at hand for which the outbound queue has no room. -/
def WaitsForRoom (d : Dispatch) (frame : Octets) : Prop :=
  d.phase = .forwarding frame ∧ (d.outbound.push frame).1 = .full

/-- The runs of the stage through its own actions alone. -/
abbrev OwnRun (d : Dispatch) : Log → Dispatch → Prop :=
  Logged act (fun a => observe (.acts a)) d

/-- By its own actions alone the stage takes the first response off the queue, so that `rest` is
left on it, and hands it to whoever waits for its sync and to nobody else. -/
def HandsOut (d : Dispatch) (r : Response) (rest : List Response) : Prop :=
  ∃ log d', OwnRun d log d' ∧ log.routed = [r] ∧ d'.responses.items = rest
    ∧ d.ledger.Delivers [r] d'.ledger

variable {d₀ d d' : Dispatch} {log more : Log} {frame : Octets} {r : Response}
  {rest : List Response}

/-- **While the stage waits for room it can do nothing.** -/
theorem WaitsForRoom.act_eq_none (h : WaitsForRoom d frame) (running : d.stop.fired = false)
    (a : Action) : act a d = none := by
  obtain ⟨hp, hf⟩ := h
  cases a with
  | forward =>
    cases hq : d.outbound.push frame with
    | mk admission outbound =>
      rw [hq] at hf
      cases hf
      simp only [act, hp, hq]
  | stop => simp [act, hp, running]
  | _ => simp [act, hp]

/-- It hands out nothing by its own actions. -/
theorem WaitsForRoom.not_handsOut (h : WaitsForRoom d frame) (running : d.stop.fired = false) :
    ¬ HandsOut d r rest := by
  rintro ⟨log, d', run, routed, -⟩
  have still : log = [] ∧ d' = d := by
    clear routed
    induction run with
    | start => exact ⟨rfl, rfl⟩
    | step a _ ha ih =>
      obtain ⟨-, rfl⟩ := ih
      rw [h.act_eq_none running a] at ha
      cases ha
  rw [still.1] at routed
  cases routed

/-- The stop signal stays fired, and a receiving side that went stays away. -/
theorem calm_of_occur {e : Event} (he : occur e d = some d') :
    (d'.stop.fired = false → d.stop.fired = false)
      ∧ (d'.outbound.receiving = true → d.outbound.receiving = true) := by
  by_cases own : ∃ a, e = .acts a
  · obtain ⟨a, rfl⟩ := own
    have he : act a d = some d' := he
    refine ⟨fun h => stop_act he ▸ h, ?_⟩
    obtain ⟨x, m, -, -⟩ := exists_move [] he
    cases m with
    | forward hp hq =>
      intro h
      rw [← Queue.receiving_push]
      exact h
    | take hq =>
      intro h
      rw [← Queue.receiving_pop? hq]
      exact h
    | closeOutbound => exact nofun
    | _ => exact id
  · have around := around_of_occur (fun a ha => own ⟨a, ha⟩) he
    refine ⟨fun running => Bool.eq_false_iff.mpr fun fired => ?_, around.receiving⟩
    rw [around.fired fired] at running
    cases running

/-- One event cannot end the waiting, unless it takes a frame, fires the stop signal or takes the
receiving side of the outbound queue away. -/
theorem WaitsForRoom.occur {e : Event} (h : WaitsForRoom d frame) (he : occur e d = some d')
    (none : (observe e d).taken = []) (running : d'.stop.fired = false)
    (there : d'.outbound.receiving = true) :
    WaitsForRoom d' frame ∧ (observe e d).routed = []
      ∧ d'.responses.items = d.responses.items ++ (observe e d).arrived := by
  by_cases own : ∃ a, e = .acts a
  · obtain ⟨a, rfl⟩ := own
    have he : act a d = some d' := he
    rw [h.act_eq_none (stop_act he ▸ running) a] at he
    cases he
  · have around := around_of_occur (fun a ha => own ⟨a, ha⟩) he
    refine ⟨⟨around.phase.trans h.1, ?_⟩, around.routed, around.responses⟩
    rw [around.outbound none there]
    exact h.2

/-- **The waiting goes on**, whatever happens, until a frame is taken, the stop signal fires or
nobody takes frames any more; and until then no response leaves the queue. -/
theorem WaitsForRoom.run (h : WaitsForRoom d frame) (run : Run d more d')
    (none : more.taken = []) (running : d'.stop.fired = false)
    (there : d'.outbound.receiving = true) :
    WaitsForRoom d' frame ∧ more.routed = []
      ∧ d'.responses.items = d.responses.items ++ more.arrived := by
  induction run with
  | start => exact ⟨h, rfl, (List.append_nil _).symm⟩
  | @step more d₁ d₂ e _ he ih =>
    rw [Log.taken_append, List.append_eq_nil_iff] at none
    obtain ⟨before, last⟩ := none
    obtain ⟨calm, open_⟩ := calm_of_occur he
    obtain ⟨waits, unrouted, items⟩ := ih before (calm running) (open_ there)
    obtain ⟨waits', unrouted', items'⟩ := waits.occur he last running there
    refine ⟨waits', ?_, ?_⟩
    · rw [Log.routed_append, unrouted, unrouted', List.append_nil]
    · rw [items', items, Log.arrived_append, List.append_assoc]

/-! ## 2. Handing out -/

/-- A step that hands out nothing may come first. -/
theorem HandsOut.after {a : Action} (h : HandsOut d' r rest) (ha : act a d = some d')
    (silent : (observe (.acts a) d).routed = []) (same : d'.ledger = d.ledger) :
    HandsOut d r rest := by
  obtain ⟨log, last, run, routed, items, delivers⟩ := h
  refine ⟨_, last, run.head a ha, ?_, items, same ▸ delivers⟩
  rw [Log.routed_append, silent, routed, List.nil_append]

theorem handsOut_of_selecting {accepting : Bool} (proper : d.ledger.Proper)
    (hp : d.phase = .selecting accepting) (hr : d.responses.items = r :: rest) :
    HandsOut d r rest := by
  have hq : d.responses.pop? = some (r, { d.responses with items := rest }) := by
    simp only [Queue.pop?, hr]
  have taken : act .takeResponse d = some { d with
      phase := .ready
      responses := { d.responses with items := rest }
      ledger := (d.ledger.complete r).2 } := by
    simp only [act, hp, hq]
  have run : OwnRun d _ _ := Logged.step .takeResponse .start taken
  refine ⟨_, _, run, ?_, rfl, proper.delivers [r]⟩
  simp [observe, hq, Log.routed]

theorem handsOut_of_ready (proper : d.ledger.Proper) (hp : d.phase = .ready)
    (hr : d.responses.items = r :: rest) : HandsOut d r rest := by
  have looked : act .look d
      = some { d with phase := .selecting (d.intake.isOpen d.responses.size) } := by
    simp only [act, hp]
  have selecting :
      HandsOut { d with phase := .selecting (d.intake.isOpen d.responses.size) } r rest :=
    handsOut_of_selecting proper rfl hr
  exact selecting.after looked rfl rfl

theorem handsOut_of_forwarding (proper : d.ledger.Proper) (hp : d.phase = .forwarding frame)
    (hq : (d.outbound.push frame).1 = .queued) (hr : d.responses.items = r :: rest) :
    HandsOut d r rest := by
  have forwarded : act .forward d
      = some { d with phase := .ready, outbound := (d.outbound.push frame).2 } := by
    cases ho : d.outbound.push frame with
    | mk admission outbound =>
      rw [ho] at hq
      cases hq
      simp only [act, hp, ho]
  have ready : HandsOut { d with phase := .ready, outbound := (d.outbound.push frame).2 } r rest :=
    handsOut_of_ready proper rfl hr
  refine ready.after forwarded ?_ rfl
  simp [observe, hp, hq, Log.routed]

/-- **Unless it waits for room, a stage that has not ended hands out the first response.** -/
theorem handsOut (proper : d.ledger.Proper) (running : d.phase ≠ .ended)
    (opened : d.outbound.isClosed = false) (hr : d.responses.items = r :: rest)
    (free : ∀ frame, ¬ WaitsForRoom d frame) : HandsOut d r rest := by
  cases hp : d.phase with
  | ready => exact handsOut_of_ready proper hp hr
  | selecting accepting => exact handsOut_of_selecting proper hp hr
  | forwarding frame =>
    refine handsOut_of_forwarding proper hp ?_ hr
    have room : ¬ d.outbound.capacity ≤ d.outbound.size := by
      intro full
      exact free frame ⟨hp, (Queue.push_full_iff _ _).mpr ⟨opened, full⟩⟩
    have sides : d.outbound.sending = true ∧ d.outbound.receiving = true := by
      simpa [Queue.isClosed] using opened
    exact (Queue.push_queued_iff _ _).mpr ⟨sides.1, sides.2, Nat.not_le.mp room⟩
  | ended => exact absurd hp running

/-! ## 3. Making room -/

/-- The outbound queue keeps its capacity and never holds more. -/
theorem Course.size_outbound_le (blank : Blank d₀) (c : Course d₀ log d) :
    d.outbound.capacity = d₀.outbound.capacity ∧ d.outbound.size ≤ d.outbound.capacity := by
  induction c with
  | start =>
    rw [Queue.size, blank.outbound]
    exact ⟨rfl, Nat.zero_le _⟩
  | @step log d d' x _ m ih =>
    cases m with
    | @forward frame hp hq =>
      have room := ((Queue.push_queued_iff _ _).mp hq).2.2
      have size : (d.outbound.push frame).2.size = d.outbound.size + 1 := by
        rw [Queue.size, Queue.items_push_of_queued hq, List.length_append]
        rfl
      have capacity := Queue.capacity_push d.outbound frame
      show (d.outbound.push frame).2.capacity = _
        ∧ (d.outbound.push frame).2.size ≤ (d.outbound.push frame).2.capacity
      omega
    | @take frame outbound hq =>
      have size := Queue.size_pop? hq
      have capacity := Queue.capacity_pop? hq
      show outbound.capacity = _ ∧ outbound.size ≤ outbound.capacity
      omega
    | closeOutbound => exact ⟨ih.1, Nat.zero_le _⟩
    | _ => exact ih

/-- **One frame taken makes room.** -/
theorem not_waits_takeFrames {n : Nat} (hn : 0 < n) (pos : 0 < d.outbound.capacity)
    (le : d.outbound.size ≤ d.outbound.capacity) (frame : Octets) :
    ¬ WaitsForRoom (d.takeFrames n).2 frame := by
  rintro ⟨-, hf⟩
  have full : d.outbound.capacity ≤ (d.outbound.items.drop n).length :=
    ((Queue.push_full_iff _ _).mp hf).2
  rw [List.length_drop] at full
  simp only [Queue.size] at le
  omega

/-! ## 4. What becomes of the first response -/

/-- What becomes of the first response on the queue, with `rest` behind it. -/
structure Flow (d : Dispatch) (r : Response) (rest : List Response) : Prop where
  /-- The stage hands it out by its own actions alone, unless it waits for room. -/
  handsOut_iff : HandsOut d r rest ↔ ∀ frame, ¬ WaitsForRoom d frame
  /-- While the stage waits for room it can do nothing. -/
  stuck : ∀ frame, WaitsForRoom d frame → ∀ a, act a d = none
  /-- Whatever happens, until a frame is taken, the stop signal fires or nobody takes frames any
  more, it goes on waiting and all responses stay on the queue. -/
  held : ∀ frame, WaitsForRoom d frame → ∀ more d', Run d more d' → more.taken = [] →
    d'.stop.fired = false → d'.outbound.receiving = true →
    WaitsForRoom d' frame ∧ more.routed = [] ∧ d'.responses.items = r :: rest ++ more.arrived
  /-- A single frame that is taken lets the stage hand the response out. -/
  released : ∀ n, 0 < n → HandsOut (d.takeFrames n).2 r rest

/-- **A response is handed out unless the stage waits for room in the outbound queue**, in every
run, whatever the capacities of the queues, the gate, and the position of the counter. -/
theorem run_flow {submissions responses outbound : Nat} {intake : Intake} {space : String}
    {counter : SyncCounter}
    (run : Run (new submissions responses outbound intake space counter) log d)
    (calm : Undisturbed d) (hr : d.responses.items = r :: rest) : Flow d r rest := by
  have blank := blank_new submissions responses outbound intake space counter
  have c := Course.of_run run
  have receiving : d.responses.receiving = true := by
    have sides : d.responses.sending = true ∧ d.responses.receiving = true := by
      simpa [Queue.isClosed] using calm.responses
    exact sides.2
  have running : d.phase ≠ .ended := (c.receiving_iff blank rfl).mp receiving
  obtain ⟨capacity, le⟩ := c.size_outbound_le blank
  have pos : 0 < d.outbound.capacity :=
    capacity ▸ Nat.lt_of_lt_of_le Nat.zero_lt_one (Nat.le_max_right outbound 1)
  have proper := c.proper blank
  refine ⟨⟨?_, handsOut proper running calm.outbound hr⟩, ?_, ?_, ?_⟩
  · exact fun out frame waits => waits.not_handsOut calm.running out
  · exact fun frame waits => waits.act_eq_none calm.running
  · intro frame waits more d' later none running there
    exact hr ▸ waits.run later none running there
  · intro n hn
    exact handsOut (d := (d.takeFrames n).2) proper running calm.outbound hr
      (not_waits_takeFrames hn pos le)

/-- With one frame of room two pings were submitted, and a response has arrived to the first: the
stage waits for room, with the response on the queue. -/
theorem exists_held : ∃ log d frame, Run (new 2 1 1 ⟨1⟩ "" .new) log d ∧ Undisturbed d
    ∧ d.responses.items = [⟨1, 0, none, none, none⟩] ∧ d.ledger.ticket? 1 = some 0
    ∧ WaitsForRoom d frame := by
  have run : Run (new 2 1 1 ⟨1⟩ "" .new) _ _ := Logged.of_follow
    [.submit .ping, .submit .ping, .acts .look, .acts .takeSubmission, .acts .forward, .acts .look,
      .acts .takeSubmission, .respond ⟨1, 0, none, none, none⟩] rfl
  exact ⟨_, _, _, run, ⟨rfl, rfl, rfl, rfl⟩, rfl, rfl, ⟨rfl, rfl⟩⟩

/-- The response that is held there is handed out once a frame is taken. -/
theorem run_flow_pings : ∃ log d, Run (new 2 1 1 ⟨1⟩ "" .new) log d ∧ Undisturbed d
    ∧ d.responses.items = [⟨1, 0, none, none, none⟩]
    ∧ HandsOut (d.takeFrames 1).2 ⟨1, 0, none, none, none⟩ [] := by
  obtain ⟨log, d, frame, run, calm, hr, -, -⟩ := exists_held
  exact ⟨log, d, run, calm, hr, (run_flow run calm hr).released 1 Nat.zero_lt_one⟩

/-- **A response may have to wait for the frames**: the stage comes to a state in which nothing is
closed, the stop signal has not fired, and a response for a request on the table is on the queue,
and by its own actions it never hands it out. -/
theorem responses_held : ∃ log d, Run (new 2 1 1 ⟨1⟩ "" .new) log d ∧ Undisturbed d
    ∧ d.responses.items = [⟨1, 0, none, none, none⟩] ∧ d.ledger.ticket? 1 = some 0
    ∧ ¬ HandsOut d ⟨1, 0, none, none, none⟩ [] := by
  obtain ⟨log, d, frame, run, calm, hr, waited, waits⟩ := exists_held
  exact ⟨log, d, run, calm, hr, waited, waits.not_handsOut calm.running⟩

end Muxwire.Mux.Dispatch
