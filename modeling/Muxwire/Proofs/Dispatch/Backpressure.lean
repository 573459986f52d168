import Muxwire.Proofs.Dispatch.Routing

/-!
# Backpressure

The stage looks at the gate once an iteration. If more responses are on the queue than the threshold
it takes no submission in this iteration, so it takes a response; and it does not have to wait for
one, as responses only leave the queue when the stage takes them.

* `Rounds` -- the runs of the stage by the number of looks at the gate; every run is one of them
  (`exists_rounds`).
* `Rounds.draining` -- as long as more responses were there than the threshold and the looks, each
  iteration takes the first response and nothing else, or stops.
* `Run.shut` -- the stage chooses with the gate shut only while there are more responses than the
  threshold.
* **`run_backpressure`** -- in every run, whatever the capacity and the divisor: no submission is
  taken until the gate is open again, which is after as many iterations as there are responses too
  many; and a stage that can do nothing has its gate open.
-/

namespace Muxwire.Mux.Dispatch

open Request Wire

variable {d₀ d d' : Dispatch} {log more : Log} {n : Nat} {r : Response} {rest : List Response}

/-! ## 1. Looks at the gate -/

theorem Move.intake {x : Option Record} (m : Move log d x d') : d'.intake = d.intake := by
  cases m <;> rfl

/-- The gate does not change. -/
theorem Course.intake (c : Course d₀ log d) : d.intake = d₀.intake := by
  induction c with
  | start => rfl
  | step _ m ih => exact m.intake.trans ih

/-- Before a look the stage can only look. -/
theorem act_of_ready {a : Action} (hp : d.phase = .ready) (h : act a d = some d') :
    a = .look ∧ d' = { d with phase := .selecting (d.intake.isOpen d.responses.size) } := by
  cases a with
  | look =>
    simp only [act, hp] at h
    cases h
    exact ⟨rfl, rfl⟩
  | _ => simp [act, hp] at h

/-- With the gate shut and a response on the queue the stage takes the response, or stops. -/
theorem act_of_shut {a : Action} (hp : d.phase = .selecting false)
    (hr : d.responses.items = r :: rest) (h : act a d = some d') :
    (observe (.acts a) d = [.routed r] ∧ d' = { d with
        phase := .ready
        responses := { d.responses with items := rest }
        ledger := (d.ledger.complete r).2 })
      ∨ observe (.acts a) d = [] ∧ d.stop.fired = true ∧ d' = d.finish := by
  have hq : d.responses.pop? = some (r, { d.responses with items := rest }) := by
    simp only [Queue.pop?, hr]
  cases a with
  | takeResponse =>
    simp only [act, hp, hq] at h
    cases h
    exact .inl ⟨by simp [observe, hq], rfl⟩
  | stop =>
    simp only [act, hp] at h
    split at h
    · rename_i fired
      cases h
      exact .inr ⟨rfl, fired, rfl⟩
    · cases h
  | _ => simp [act, hp] at h

/-- The stage comes to choose only by a look. -/
theorem look_of_act {a : Action} {accepting : Bool} (h : act a d = some d')
    (hp : d'.phase = .selecting accepting) :
    accepting = d.intake.isOpen d.responses.size ∧ d'.responses = d.responses
      ∧ d'.intake = d.intake := by
  unfold act at h
  split at h
  · cases h
    cases hp
    exact ⟨rfl, rfl, rfl⟩
  · split at h
    · cases h
      unfold accept at hp
      dsimp only at hp
      split at hp <;> cases hp
    · split at h <;> cases h
      cases hp
  · split at h
    · cases h
      cases hp
    · split at h <;> cases h
      cases hp
  · split at h <;> cases h <;> cases hp
  · split at h <;> cases h
    cases hp
  · split at h <;> cases h
    cases hp
  · cases h

/-- **The gate was shut only with more responses than its threshold**, and until one is taken there
are as many. -/
theorem Run.shut (run : Run d₀ log d) (ready : d₀.phase = .ready)
    (hp : d.phase = .selecting false) : d.intake.threshold < d.responses.size := by
  induction run with
  | start =>
    rw [ready] at hp
    cases hp
  | @step log d d' e _ he ih =>
    by_cases own : ∃ a, e = .acts a
    · obtain ⟨a, rfl⟩ := own
      obtain ⟨shut, responses, intake⟩ := look_of_act he hp
      rw [responses, intake]
      refine Nat.lt_of_not_le fun le => ?_
      rw [(d.intake.isOpen_iff _).mpr le] at shut
      cases shut
    · have around := around_of_occur (fun a ha => own ⟨a, ha⟩) he
      have before := ih (around.phase ▸ hp)
      rw [Queue.size, around.responses, around.intake, List.length_append]
      exact Nat.lt_add_right _ before

/-! ## 2. Rounds -/

/-- How many looks at the gate an event is. -/
def Event.looks : Event → Nat
  | .acts .look => 1
  | _ => 0

/-- The runs of the stage by the number of looks at the gate, which is how many iterations have
begun. -/
inductive Rounds (d₀ : Dispatch) : Nat → Log → Dispatch → Prop where
  | start : Rounds d₀ 0 [] d₀
  | step {n : Nat} {log : Log} {d d' : Dispatch} (e : Event) :
      Rounds d₀ n log d → occur e d = some d' → Rounds d₀ (n + e.looks) (log ++ observe e d) d'

theorem Rounds.run (rounds : Rounds d₀ n log d) : Run d₀ log d := by
  induction rounds with
  | start => exact .start
  | step e _ he ih => exact .step e ih he

/-- Every run has a number of looks. -/
theorem exists_rounds (run : Run d₀ log d) : ∃ n, Rounds d₀ n log d := by
  induction run with
  | start => exact ⟨0, .start⟩
  | step e _ he ih =>
    obtain ⟨n, rounds⟩ := ih
    exact ⟨n + e.looks, .step e rounds he⟩

/-- How far a stage is that began with `items` on the queue of responses and has looked `n` times,
if every look found the gate shut. -/
inductive Progress (items : List Response) (n : Nat) (more : Log) (d : Dispatch) : Prop where
  /-- Each iteration has taken one response. -/
  | between (phase : d.phase = .ready) (taken : more.routed.length = n)
      (queue : more.routed ++ d.responses.items = items ++ more.arrived)
  /-- The last iteration has taken none yet. -/
  | choosing (phase : d.phase = .selecting false) (taken : more.routed.length + 1 = n)
      (queue : more.routed ++ d.responses.items = items ++ more.arrived)
  /-- The last iteration followed the stop signal. -/
  | stopped (phase : d.phase = .ended) (fired : d.stop.fired = true)
      (taken : more.routed.length + 1 = n) (queue : more.routed <+: items ++ more.arrived)

/-- What a stage with the gate shut has done since `d`. -/
structure Draining (d : Dispatch) (n : Nat) (more : Log) (d' : Dispatch) : Prop where
  progress : Progress d.responses.items n more d'
  left : more.left = []
  forwarded : more.forwarded = []
  counter : d'.counter = d.counter

/-- What happens around the stage takes no part in this. -/
theorem Progress.around {items : List Response} {x : Log} (h : Progress items n more d)
    (around : Around d x d') : Progress items n (more ++ x) d' := by
  have routed : (more ++ x).routed = more.routed := by
    rw [Log.routed_append, around.routed, List.append_nil]
  have queue : more.routed ++ d.responses.items = items ++ more.arrived →
      (more ++ x).routed ++ d'.responses.items = items ++ (more ++ x).arrived := by
    intro queue
    rw [routed, around.responses, Log.arrived_append, ← List.append_assoc, queue, List.append_assoc]
  cases h with
  | between phase taken before =>
    exact .between (around.phase.trans phase) (routed ▸ taken) (queue before)
  | choosing phase taken before =>
    exact .choosing (around.phase.trans phase) (routed ▸ taken) (queue before)
  | stopped phase fired taken before =>
    refine .stopped (around.phase.trans phase) (around.fired fired) (routed ▸ taken) ?_
    rw [routed, Log.arrived_append, ← List.append_assoc]
    exact before.trans (List.prefix_append _ _)

/-- **A step of the stage takes the first response, or begins another iteration with the gate
shut**, as long as more responses were there than the threshold and the iterations. -/
theorem Draining.act {a : Action} {d'' : Dispatch} (h : Draining d n more d')
    (few : n + (Event.acts a).looks ≤ d.responses.size - d'.intake.threshold)
    (ha : act a d' = some d'') :
    Draining d (n + (Event.acts a).looks) (more ++ observe (.acts a) d') d'' := by
  obtain ⟨progress, left, forwarded, counter⟩ := h
  cases progress with
  | between phase taken queue =>
    obtain ⟨rfl, rfl⟩ := act_of_ready phase ha
    have size := congrArg List.length queue
    simp only [List.length_append, taken] at size
    have few : n + 1 ≤ d.responses.items.length - d'.intake.threshold := few
    -- one response has left the queue for each iteration, so more than the threshold are left
    have shut : d'.intake.isOpen d'.responses.size = false := by
      refine Bool.eq_false_iff.mpr fun opened => ?_
      have le : d'.responses.items.length ≤ d'.intake.threshold := (Intake.isOpen_iff _ _).mp opened
      omega
    have silent : observe (.acts .look) d' = [] := rfl
    rw [shut, silent, List.append_nil]
    exact ⟨.choosing rfl (congrArg (· + 1) taken) queue, left, forwarded, counter⟩
  | choosing phase taken queue =>
    have size := congrArg List.length queue
    simp only [List.length_append] at size
    have few : n + (Event.acts a).looks ≤ d.responses.items.length - d'.intake.threshold := few
    cases hr : d'.responses.items with
    | nil =>
      -- the iteration that has taken none yet leaves at least one
      rw [hr, List.length_nil] at size
      omega
    | cons r rest =>
      rw [hr] at queue
      have silent : (Event.acts a).looks = 0 := by
        cases a with
        | look => simp [Dispatch.act, phase] at ha
        | _ => rfl
      rw [silent]
      rcases act_of_shut phase hr ha with ⟨ho, rfl⟩ | ⟨ho, fired, rfl⟩
      · rw [ho]
        refine ⟨.between rfl ?_ ?_, ?_, ?_, counter⟩
        · simpa using taken
        · simpa using queue
        · simpa using left
        · simpa using forwarded
      · rw [ho, List.append_nil]
        exact ⟨.stopped rfl fired taken ⟨_, queue⟩, left, forwarded, counter⟩
  | stopped phase => simp [Dispatch.act, phase] at ha

/-- **As long as more responses were there than the threshold and the iterations, every iteration
takes the first response and nothing else**, or stops. -/
theorem Rounds.draining (rounds : Rounds d n more d') (ready : d.phase = .ready)
    (few : n ≤ d.responses.size - d.intake.threshold) : Draining d n more d' := by
  induction rounds with
  | start => exact ⟨.between ready rfl (List.append_nil _).symm, rfl, rfl, rfl⟩
  | @step n more d₁ d₂ e rounds he ih =>
    have before := ih (Nat.le_trans (Nat.le_add_right _ _) few)
    by_cases own : ∃ a, e = .acts a
    · obtain ⟨a, rfl⟩ := own
      have intake := (Course.of_run rounds.run).intake
      exact before.act (intake ▸ few) he
    · have around := around_of_occur (fun a ha => own ⟨a, ha⟩) he
      have silent : e.looks = 0 := by
        cases e with
        | acts a => exact absurd ⟨a, rfl⟩ own
        | _ => rfl
      rw [silent]
      refine ⟨before.progress.around around, ?_, ?_, around.counter.trans before.counter⟩
      · rw [Log.left_append, before.left, around.left, List.append_nil]
      · rw [Log.forwarded_append, before.forwarded, around.forwarded, List.append_nil]

/-! ## 3. The release -/

/-- Looking and taking in turn hands out the responses first to last. -/
theorem follow_take (n : Nat) (ready : d.phase = .ready) (le : n ≤ d.responses.size) :
    Logged.follow act (fun a => observe (.acts a))
        (List.replicate n [.look, .takeResponse]).flatten d
      = some ((d.responses.items.take n).map .routed, { d with
          responses := { d.responses with items := d.responses.items.drop n }
          ledger := (d.ledger.completeAll (d.responses.items.take n)).2 }) := by
  induction n generalizing d with
  | zero => rfl
  | succ n ih =>
    cases hr : d.responses.items with
    | nil => simp [Queue.size, hr] at le
    | cons r rest =>
      have hq : d.responses.pop? = some (r, { d.responses with items := rest }) := by
        simp only [Queue.pop?, hr]
      let d₁ : Dispatch := { d with phase := .selecting (d.intake.isOpen d.responses.size) }
      let d₂ : Dispatch := { d with
        responses := { d.responses with items := rest }
        ledger := (d.ledger.complete r).2 }
      have looked : act .look d = some d₁ := by
        simp only [act, ready, d₁]
      have taken : act .takeResponse d₁ = some d₂ := by
        simp only [act, hq, d₁, d₂, ready]
      have le : n ≤ d₂.responses.size := by
        rw [Queue.size, hr, List.length_cons] at le
        exact Nat.le_of_succ_le_succ le
      have routed : observe (.acts .takeResponse) d₁ = [.routed r] := by
        simp only [observe, hq, d₁, Option.map_some, Option.toList_some]
      refine (Logged.follow_cons looked (Logged.follow_cons taken (ih ready le))).trans ?_
      rw [routed]
      rfl

/-- What has become of an iteration that began with `r` and `rest` on the queue of responses. -/
structure Iteration (d : Dispatch) (r : Response) (rest : List Response) (more : Log)
    (d' : Dispatch) : Prop where
  /-- It takes no submission, issues no sync and forwards nothing. -/
  left : more.left = []
  forwarded : more.forwarded = []
  counter : d'.counter = d.counter
  /-- It can go on until it has taken the first response, and takes no other, unless it stops. -/
  outcome :
    (d'.phase = .selecting false ∧ more.routed = []
        ∧ d'.responses.items = r :: rest ++ more.arrived ∧ ∃ d'', act .takeResponse d' = some d'')
      ∨ (d'.phase = .ready ∧ more.routed = [r] ∧ d'.responses.items = rest ++ more.arrived)
      ∨ (d'.phase = .ended ∧ more.routed = [] ∧ d'.stop.fired = true)
  /-- The response goes to whoever waits for it, and to nobody else. -/
  callers : d.ledger.Delivers more.routed d'.ledger

/-- How far the stage is after `n` looks, while no response arrives. -/
structure Release (d : Dispatch) (n : Nat) (more : Log) (d' : Dispatch) : Prop where
  /-- Nothing was taken off the queue of submissions, forwarded or issued. -/
  left : more.left = []
  forwarded : more.forwarded = []
  counter : d'.counter = d.counter
  /-- Each iteration took a response, first to last. The gate is open again when there are no more
  of them than its threshold. -/
  outcome :
    (d'.phase = .ready ∧ more.routed = d.responses.items.take n
        ∧ d'.responses.items = d.responses.items.drop n
        ∧ (d'.intake.isOpen d'.responses.size = true ↔ n = d.responses.size - d.intake.threshold))
      ∨ (d'.phase = .selecting false ∧ 0 < n ∧ more.routed = d.responses.items.take (n - 1)
        ∧ d'.responses.items = d.responses.items.drop (n - 1)
        ∧ ∃ d'', act .takeResponse d' = some d'')
  /-- The responses went to whoever waited for them, and to nobody else. -/
  callers : d.ledger.Delivers more.routed d'.ledger

/-- How a stage with a gate holds submissions back. -/
structure Backpressure (threshold : Nat) (d : Dispatch) : Prop where
  gate : ∀ waiting, d.intake.isOpen waiting = true ↔ waiting ≤ threshold
  /-- An iteration that begins with more responses than the threshold takes the first of them. -/
  iteration : ∀ {r rest more d'}, d.phase = .ready → d.responses.items = r :: rest →
    threshold < d.responses.size → Rounds d 1 more d' → Iteration d r rest more d'
  /-- Every iteration takes the first response until there are no more than the threshold. -/
  release : ∀ {n more d'}, d.phase = .ready → n ≤ d.responses.size - threshold →
    Rounds d n more d' → more.arrived = [] → d'.stop.fired = false → Release d n more d'
  /-- The stage comes by itself to where there are no more than the threshold. -/
  reached : d.phase = .ready → ∃ d',
    Logged.follow act (fun a => observe (.acts a))
        (List.replicate (d.responses.size - threshold) [.look, .takeResponse]).flatten d
      = some ((d.responses.items.take (d.responses.size - threshold)).map .routed, d')
      ∧ d'.phase = .ready ∧ d'.intake.isOpen d'.responses.size = true
  /-- When there is nothing that it can do, the gate is open. -/
  waits : ∀ {accepting}, d.phase = .selecting accepting → (∀ a, act a d = none) →
    accepting = true ∧ d.intake.isOpen d.responses.size = true

/-- A response on the queue can be taken. -/
theorem exists_takeResponse {accepting : Bool} (hp : d.phase = .selecting accepting)
    (hr : d.responses.items ≠ []) : ∃ d', act .takeResponse d = some d' := by
  cases hi : d.responses.items with
  | nil => exact absurd hi hr
  | cons r rest => simp [act, hp, Queue.pop?, hi]

/-- The callers get just what was taken. -/
theorem Draining.callers (h : Draining d n more d') (run : Run d more d')
    (proper : d.ledger.Proper) : d.ledger.Delivers more.routed d'.ledger := by
  have none : more.accepted = [] := by
    refine List.eq_nil_iff_forall_not_mem.mpr ?_
    rintro ⟨sync, s⟩ accepted
    have left := Log.mem_left_of_accepted accepted
    rw [h.left] at left
    cases left
  exact (run.completeAll none).delivers proper (proper.delivers _)

theorem Draining.iteration (h : Draining d 1 more d') (run : Run d more d')
    (proper : d.ledger.Proper) (hr : d.responses.items = r :: rest) :
    Iteration d r rest more d' := by
  refine ⟨h.left, h.forwarded, h.counter, ?_, h.callers run proper⟩
  cases h.progress with
  | between phase taken queue =>
    obtain ⟨first, hf⟩ := List.length_eq_one_iff.mp taken
    rw [hr, hf] at queue
    obtain ⟨rfl, items⟩ := List.cons.inj queue
    exact .inr (.inl ⟨phase, hf, items⟩)
  | choosing phase taken queue =>
    have routed : more.routed = [] := List.length_eq_zero_iff.mp (Nat.succ.inj taken)
    rw [hr, routed, List.nil_append] at queue
    refine .inl ⟨phase, routed, queue, exists_takeResponse phase ?_⟩
    rw [queue]
    exact nofun
  | stopped phase fired taken _ =>
    exact .inr (.inr ⟨phase, List.length_eq_zero_iff.mp (Nat.succ.inj taken), fired⟩)

theorem Draining.release (h : Draining d n more d') (run : Run d more d')
    (proper : d.ledger.Proper) (few : n ≤ d.responses.size - d.intake.threshold)
    (none : more.arrived = []) (running : d'.stop.fired = false) : Release d n more d' := by
  refine ⟨h.left, h.forwarded, h.counter, ?_, h.callers run proper⟩
  have intake : d'.intake = d.intake := (Course.of_run run).intake
  rw [Queue.size] at few
  cases h.progress with
  | between phase taken queue =>
    rw [none, List.append_nil] at queue
    have routed : more.routed = d.responses.items.take n := by
      rw [← queue, List.take_left' taken]
    have items : d'.responses.items = d.responses.items.drop n := by
      rw [← queue, List.drop_left' taken]
    refine .inl ⟨phase, routed, items, ?_⟩
    rw [Intake.isOpen_iff, intake, Queue.size, Queue.size, items, List.length_drop]
    omega
  | choosing phase taken queue =>
    rw [none, List.append_nil] at queue
    have before : more.routed.length = n - 1 := Nat.eq_sub_of_add_eq taken
    have routed : more.routed = d.responses.items.take (n - 1) := by
      rw [← queue, List.take_left' before]
    have items : d'.responses.items = d.responses.items.drop (n - 1) := by
      rw [← queue, List.drop_left' before]
    refine .inr ⟨phase, taken ▸ Nat.succ_pos _, routed, items, exists_takeResponse phase ?_⟩
    rw [items, ne_eq, List.drop_eq_nil_iff]
    omega
  | stopped _ fired =>
    rw [running] at fired
    cases fired

/-- **Backpressure and its release**, in every run, for every capacity of the queue of responses
and every divisor. -/
theorem run_backpressure {submissions capacity divisor outbound : Nat} {space : String}
    {counter : SyncCounter}
    (run : Run (new submissions capacity outbound (.ofSizes capacity divisor) space counter)
      log d) :
    Backpressure (capacity / max divisor 1) d := by
  have blank := blank_new submissions capacity outbound (.ofSizes capacity divisor) space counter
  have proper := (Course.of_run run).proper blank
  have intake : d.intake = .ofSizes capacity divisor := (Course.of_run run).intake
  have threshold : d.intake.threshold = capacity / max divisor 1 := congrArg Intake.threshold intake
  rw [← threshold]
  refine ⟨fun waiting => Intake.isOpen_iff _ _, ?_, ?_, ?_, ?_⟩
  · intro r rest more d' ready hr high rounds
    have few : 1 ≤ d.responses.size - d.intake.threshold := Nat.sub_pos_of_lt high
    exact (rounds.draining ready few).iteration rounds.run proper hr
  · intro n more d' ready few rounds none running
    exact (rounds.draining ready few).release rounds.run proper few none running
  · intro ready
    refine ⟨_, follow_take _ ready (Nat.sub_le ..), ready, (Intake.isOpen_iff _ _).mpr ?_⟩
    show (d.responses.items.drop _).length ≤ d.intake.threshold
    rw [List.length_drop, Queue.size]
    omega
  · intro accepting hp stuck
    have empty : d.responses.items = [] := by
      refine Classical.byContradiction fun hr => ?_
      obtain ⟨d', h⟩ := exists_takeResponse hp hr
      rw [stuck] at h
      cases h
    have size : d.responses.size = 0 := congrArg List.length empty
    refine ⟨?_, (Intake.isOpen_iff _ _).mpr (size ▸ Nat.zero_le _)⟩
    cases accepting with
    | true => rfl
    | false =>
      have high := run.shut rfl hp
      rw [size] at high
      exact absurd high (Nat.not_lt_zero _)

/-- With one response allowed, two on the queue and a ping submitted: after one iteration the gate
is open again. -/
theorem run_backpressure_pings : ∃ log d r d', Run (new 3 3 2 (.ofSizes 3 3) "" .new) log d
    ∧ d.phase = .ready ∧ d.responses.size = 2 ∧ d.submissions.size = 1 ∧ Backpressure 1 d
    ∧ Logged.follow act (fun a => observe (.acts a)) [.look, .takeResponse] d
      = some ([.routed r], d')
    ∧ d'.intake.isOpen d'.responses.size = true := by
  have run : Run (new 3 3 2 (.ofSizes 3 3) "" .new) _ _ := Logged.of_follow
    [.submit .ping, .submit .ping, .submit .ping, .acts .look, .acts .takeSubmission,
      .acts .forward, .acts .look, .acts .takeSubmission, .acts .forward,
      .respond ⟨1, 0, none, none, none⟩, .respond ⟨2, 0, none, none, none⟩] rfl
  have backpressure := run_backpressure run
  obtain ⟨d', followed, -, opened⟩ := backpressure.reached rfl
  exact ⟨_, _, _, d', run, rfl, rfl, rfl, backpressure, followed, opened⟩

end Muxwire.Mux.Dispatch
