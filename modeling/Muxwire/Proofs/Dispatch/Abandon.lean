import Muxwire.Proofs.Dispatch.Teardown

/-!
# Callers that stop waiting

A caller may stop waiting at any moment: before its submission is taken, while it is on the table,
or when it has its reply already. To stop waiting commutes with every step, so a run with it and one
without it go on side by side.

* `Ledger.finish_abandon`, `Dispatch.act_abandon`, `Teardown.act_abandon` -- a step of the ledger,
  the stage and the supervisor is the same with and without a caller that has stopped waiting.
* `Teardown.follow_abandon` -- so is a whole run, under any schedule.
* **`Teardown.run_unnoticed`** -- nobody notices: the log, the table at every step, the number given
  up, and the slots of all others are the same. The entry stays on the table as long as the
  submission is pending, and a late response for it reaches nobody.
-/

namespace Muxwire.Mux

open Request Wire

/-! ## 1. The ledger -/

namespace Ledger

variable {l : Ledger} {t : Ticket}

/-- Whoever stops waiting touches no other slot. -/
theorem slot_abandon_of_ne {u : Ticket} (h : u ≠ t) (l : Ledger) :
    (l.abandon t).slots[u]? = l.slots[u]? := by
  simp [abandon, Ne.symm h]

/-- Whoever has stopped waiting gets nothing. -/
theorem reply?_abandon (t : Ticket) (l : Ledger) : (l.abandon t).reply? t = none := by
  simp only [abandon, reply?, List.getElem?_modify]
  cases l.slots[t]? <;> simp [Slot.reply?]

/-- Two ledgers with the same table and slots are the same. -/
theorem ext_slots {l' : Ledger} (hw : l.waiting = l'.waiting)
    (hs : ∀ u : Ticket, l.slots[u]? = l'.slots[u]?) : l = l' := by
  obtain ⟨slots, waiting⟩ := l
  obtain ⟨slots', waiting'⟩ := l'
  cases hw
  cases List.ext_getElem? hs
  rfl

theorem deliver_abandon (u : Ticket) (r : Reply) (l : Ledger) :
    (l.abandon t).deliver u r = (l.deliver u r).abandon t := by
  refine ext_slots rfl fun v => ?_
  simp only [deliver, abandon, List.getElem?_modify]
  cases l.slots[v]? with
  | none => rfl
  | some s => by_cases hu : u = v <;> by_cases ht : t = v <;> simp [hu, ht]

theorem abandon_abandon (u : Ticket) (l : Ledger) :
    (l.abandon t).abandon u = (l.abandon u).abandon t := by
  refine ext_slots rfl fun v => ?_
  simp only [abandon, List.getElem?_modify]
  cases l.slots[v]? with
  | none => rfl
  | some s => by_cases hu : u = v <;> by_cases ht : t = v <;> simp [hu, ht]

/-- A new slot is another one. -/
theorem openSlot_abandon (h : t < l.slots.length) :
    (l.abandon t).openSlot = (l.openSlot.1, l.openSlot.2.abandon t) := by
  refine Prod.ext (length_abandon ..) (ext_slots rfl fun v => ?_)
  simp only [openSlot, abandon, List.getElem?_modify, List.getElem?_append, List.length_modify]
  by_cases hv : v < l.slots.length
  · simp [hv]
  · have other : t ≠ v := fun he => hv (he ▸ h)
    simp [hv, other]

theorem finish_abandon (sync : UInt32) (r : Reply) (l : Ledger) :
    (l.abandon t).finish sync r = ((l.finish sync r).1, (l.finish sync r).2.abandon t) := by
  have same : (l.abandon t).ticket? sync = l.ticket? sync := rfl
  unfold finish
  rw [same]
  cases l.ticket? sync with
  | none => rfl
  | some u =>
    have struck : (l.abandon t).strike sync = (l.strike sync).abandon t := rfl
    simp only [struck, deliver_abandon]

theorem deliverAll_abandon (e : Error) (ts : List Ticket) (l : Ledger) :
    (l.abandon t).deliverAll e ts = (l.deliverAll e ts).abandon t := by
  induction ts generalizing l with
  | nil => rfl
  | cons u ts ih =>
    show ((l.abandon t).deliver u (.error e)).deliverAll e ts = _
    rw [deliver_abandon, ih]
    rfl

theorem failAll_abandon (e : Error) (l : Ledger) :
    (l.abandon t).failAll e = ((l.failAll e).1, (l.failAll e).2.abandon t) :=
  Prod.ext rfl (deliverAll_abandon e _ { l with waiting := [] })

end Ledger

/-! ## 2. The stage -/

namespace Dispatch

variable {d d' : Dispatch} {t : Ticket}

theorem accept_abandon (s : Submission) (d : Dispatch) :
    accept s (d.abandon t) = (accept s d).abandon t := by
  cases hp : s.query.pack d.counter.following d.space with
  | ok frame =>
    have hp' : s.query.pack (d.abandon t).counter.following (d.abandon t).space = .ok frame := hp
    rw [accept_of_ok hp, accept_of_ok hp']
    simp only [abandon, Ledger.evict, Ledger.finish_abandon]
    rfl
  | error e =>
    have hp' : s.query.pack (d.abandon t).counter.following (d.abandon t).space = .error e := hp
    rw [accept_of_error hp, accept_of_error hp']
    simp only [abandon, Ledger.evict, Ledger.finish_abandon, Ledger.deliver_abandon]

/-- **Every step of the stage is the same with and without a caller that stopped waiting.** -/
theorem act_abandon (a : Action) (d : Dispatch) :
    act a (d.abandon t) = (act a d).map (·.abandon t) := by
  obtain ⟨phase, submissions, responses, outbound, stop, ledger, counter, intake, space⟩ := d
  cases a with
  | look => cases phase <;> rfl
  | takeSubmission =>
    cases phase with
    | selecting accepting =>
      cases accepting with
      | false => rfl
      | true =>
        cases hq : submissions.pop? with
        | some popped =>
          let taken : Dispatch :=
            ⟨.selecting true, popped.2, responses, outbound, stop, ledger, counter, intake, space⟩
          have accepted : accept popped.1 (taken.abandon t) = (accept popped.1 taken).abandon t :=
            accept_abandon popped.1 taken
          simpa only [act, abandon, hq, Option.map_some] using congrArg some accepted
        | none => by_cases hf : submissions.isFinished <;> simp [act, abandon, finish, hq, hf]
    | _ => rfl
  | takeResponse =>
    cases phase with
    | selecting accepting =>
      cases hq : responses.pop? with
      | some popped => simp [act, abandon, hq, Ledger.complete, Ledger.finish_abandon]
      | none => by_cases hf : responses.isFinished <;> simp [act, abandon, finish, hq, hf]
    | _ => rfl
  | forward =>
    cases phase with
    | forwarding frame =>
      cases hq : outbound.push frame with
      | mk admission queue => cases admission <;> simp [act, abandon, finish, hq]
    | _ => rfl
  | stop =>
    cases phase with
    | selecting | forwarding => by_cases hf : stop.fired <;> simp [act, abandon, finish, hf]
    | _ => rfl

theorem submit_abandon (h : t < d.ledger.slots.length) (q : Query) :
    (d.abandon t).submit q = ((d.submit q).1, (d.submit q).2.abandon t) := by
  have opened : (d.ledger.abandon t).openSlot
      = (d.ledger.openSlot.1, d.ledger.openSlot.2.abandon t) := Ledger.openSlot_abandon h
  simp only [submit, abandon, opened]
  cases hq : d.submissions.push ⟨q, d.ledger.openSlot.1⟩ with
  | mk admission submissions => cases admission <;> simp [Ledger.deliver_abandon]

/-- **Whatever may happen is the same with a caller gone, but for its slot.** -/
theorem occur_abandon (h : t < d.ledger.slots.length) (e : Event) :
    occur e (d.abandon t) = (occur e d).map (·.abandon t) := by
  cases e with
  | acts a => exact act_abandon a d
  | submit q => exact congrArg (fun r => some r.2) (submit_abandon h q)
  | abandon u =>
    exact congrArg (fun ledger => some { d with ledger }) (Ledger.abandon_abandon u d.ledger)
  | _ => rfl

theorem observe_abandon (e : Event) (d : Dispatch) : observe e (d.abandon t) = observe e d := by
  cases e with
  | acts a => cases a <;> rfl
  | submit q =>
    have same : (d.abandon t).ledger.slots.length = d.ledger.slots.length :=
      Ledger.length_abandon ..
    simp only [observe, same]
    rfl
  | _ => rfl

theorem failAll_abandon (d : Dispatch) :
    (d.abandon t).failAll = (d.failAll.1, d.failAll.2.abandon t) := by
  have table : (d.ledger.abandon t).failAll .connectionClosed
      = ((d.ledger.failAll .connectionClosed).1,
          (d.ledger.failAll .connectionClosed).2.abandon t) :=
    Ledger.failAll_abandon ..
  simp only [failAll, abandon, table, Ledger.deliverAll_abandon]

/-- A response that is taken is handed out. -/
theorem ledger_of_takeResponse {r : Response} {responses : Queue Response}
    (hq : d.responses.pop? = some (r, responses)) (h : act .takeResponse d = some d') :
    d'.ledger = (d.ledger.complete r).2 := by
  cases hp : d.phase with
  | selecting accepting =>
    simp only [act, hp, hq] at h
    cases h
    rfl
  | _ => simp [act, hp] at h

end Dispatch

/-! ## 3. Whole runs -/

namespace Teardown

variable {log more : Log} {t t' t'' : Teardown} {u : Ticket}

/-- The stage and its supervisor, with a caller that has stopped waiting. -/
def abandon (u : Ticket) (t : Teardown) : Teardown :=
  { t with dispatch := t.dispatch.abandon u }

/-- No step takes a slot away. -/
theorem length_le_of_act {a : Action} (h : act a t = some t') :
    t.dispatch.ledger.slots.length ≤ t'.dispatch.ledger.slots.length := by
  obtain ⟨d, stage, failed⟩ := t
  cases a with
  | occurs e =>
    obtain ⟨d', hd, rfl⟩ := Option.map_eq_some_iff.mp h
    exact (Dispatch.Course.occur .start hd).length_le
  | failTable =>
    cases stage with
    | waiting =>
      simp only [act] at h
      split at h
      · cases h
        exact Nat.le_of_eq (Ledger.length_failAll ..).symm
      · cases h
    | _ => cases h
  | closeQueue =>
    cases stage with
    | tableFailed =>
      cases h
      exact Nat.le_refl _
    | _ => cases h
  | failNext =>
    cases stage with
    | queueClosed =>
      obtain ⟨⟨s, submissions⟩, -, rfl⟩ := Option.map_eq_some_iff.mp h
      exact Nat.le_of_eq (Ledger.length_deliver ..).symm
    | _ => cases h
  | finish =>
    cases stage with
    | queueClosed =>
      simp only [act] at h
      split at h
      · cases h
        exact Nat.le_refl _
      · cases h
    | _ => cases h

theorem act_abandon (h : u < t.dispatch.ledger.slots.length) (a : Action) :
    act a (t.abandon u) = (act a t).map (·.abandon u) := by
  obtain ⟨d, stage, failed⟩ := t
  cases a with
  | occurs e =>
    simp only [act, abandon, Dispatch.occur_abandon h]
    cases Dispatch.occur e d <;> rfl
  | failTable =>
    cases stage with
    | waiting =>
      have table : (d.ledger.abandon u).failAll .connectionClosed
          = ((d.ledger.failAll .connectionClosed).1,
              (d.ledger.failAll .connectionClosed).2.abandon u) :=
        Ledger.failAll_abandon ..
      by_cases hp : d.phase = .ended <;>
        simp [act, abandon, Dispatch.abandon, Dispatch.isEnded, hp, table]
    | _ => rfl
  | closeQueue => cases stage <;> rfl
  | failNext =>
    cases stage with
    | queueClosed =>
      cases hq : d.submissions.pop? with
      | none => simp [act, abandon, Dispatch.abandon, hq]
      | some popped => simp [act, abandon, Dispatch.abandon, hq, Ledger.deliver_abandon]
    | _ => rfl
  | finish =>
    cases stage with
    | queueClosed =>
      by_cases hi : d.submissions.items = [] <;> simp [act, abandon, Dispatch.abandon, hi]
    | _ => rfl

theorem observe_abandon (a : Action) (t : Teardown) : observe a (t.abandon u) = observe a t := by
  cases a with
  | occurs e => exact Dispatch.observe_abandon e t.dispatch
  | _ => rfl

/-- **Under any schedule the run is the same with and without a caller that stopped waiting.** -/
theorem follow_abandon (as : List Action) (h : u < t.dispatch.ledger.slots.length) :
    Logged.follow act observe as (t.abandon u)
      = (Logged.follow act observe as t).map fun (log, t') => (log, t'.abandon u) := by
  induction as generalizing t with
  | nil => rfl
  | cons a as ih =>
    simp only [Logged.follow, act_abandon h, observe_abandon]
    cases ha : act a t with
    | none => rfl
    | some t₁ =>
      have rest := ih (Nat.lt_of_lt_of_le h (length_le_of_act ha))
      simp only [Option.map_some, Option.bind_eq_bind, Option.bind_some, rest]
      cases Logged.follow act observe as t₁ <;> rfl

/-- Whatever comes after a caller stopped waiting could also have come if it had not. -/
theorem exists_run_of_abandon (h : u < t.dispatch.ledger.slots.length)
    (run : Run (t.abandon u) more t') : ∃ t₁, Run t more t₁ ∧ t' = t₁.abandon u := by
  obtain ⟨as, has⟩ := run.exists_follow
  rw [follow_abandon as h] at has
  obtain ⟨⟨log, t₁⟩, ht, he⟩ := Option.map_eq_some_iff.mp has
  cases he
  exact ⟨t₁, Logged.of_follow as ht, rfl⟩

/-- Two states that differ at most in whether the caller of one slot still waits. -/
structure SameBut (u : Ticket) (t t' : Teardown) : Prop where
  stage : t'.stage = t.stage
  failed : t'.failed = t.failed
  /-- As many would be given up. -/
  remains : t'.dispatch.failAll.1 = t.dispatch.failAll.1
  rest : t'.dispatch = { t.dispatch with ledger := t'.dispatch.ledger }
  table : t'.dispatch.ledger.waiting = t.dispatch.ledger.waiting
  others : ∀ v : Ticket, v ≠ u → t'.dispatch.ledger.slots[v]? = t.dispatch.ledger.slots[v]?
  delivered : t'.dispatch.ledger.deliveries u = t.dispatch.ledger.deliveries u

theorem sameBut_abandon (u : Ticket) (t : Teardown) : SameBut u t (t.abandon u) where
  stage := rfl
  failed := rfl
  remains := by
    show (t.dispatch.abandon u).failAll.1 = t.dispatch.failAll.1
    rw [Dispatch.failAll_abandon]
  rest := rfl
  table := rfl
  others _ hv := Ledger.slot_abandon_of_ne hv _
  delivered := Ledger.deliveries_abandon ..

/-- That the caller of a submission stops waiting after a log, for all that may come. -/
structure Unnoticed (space : String) (log : Log) (t : Teardown) (s : Submission) : Prop where
  possible : act (.occurs (.abandon s.ticket)) t = some (t.abandon s.ticket)
  /-- Whatever is done afterwards is possible in both runs or in neither, leaves the same log, and
  comes to states that differ in nothing else. -/
  schedule : ∀ as : List Action,
    (Logged.follow act observe as t = none
        ∧ Logged.follow act observe as (t.abandon s.ticket) = none)
      ∨ ∃ more t₁ t₂, Logged.follow act observe as t = some (more, t₁)
        ∧ Logged.follow act observe as (t.abandon s.ticket) = some (more, t₂)
        ∧ SameBut s.ticket t₁ t₂
  /-- The submission is on the table as long as it is pending. -/
  entry : ∀ {more : Log} {t' : Teardown}, Run (t.abandon s.ticket) more t' → ∀ sync : UInt32,
    (sync, s.ticket) ∈ t'.dispatch.ledger.waiting ↔ Log.Pending space (log ++ more) sync s
  /-- A late response strikes off the entry that it is for. It is put into the slot of that entry,
  where nobody sees it, and into no other. -/
  late : ∀ {more : Log} {t₁ t₂ : Teardown} {r : Response} {responses : Queue Response},
    Run (t.abandon s.ticket) more t₁ → t₁.dispatch.responses.pop? = some (r, responses) →
    t₁.dispatch.ledger.ticket? r.sync = some s.ticket →
    act (.occurs (.acts .takeResponse)) t₁ = some t₂ →
      t₂.dispatch.ledger.waiting = t₁.dispatch.ledger.waiting.filter (·.1 != r.sync)
        ∧ t₂.dispatch.ledger.deliveries s.ticket = [.ok r]
        ∧ t₂.dispatch.ledger.reply? s.ticket = none
        ∧ ∀ v : Ticket, v ≠ s.ticket →
          t₂.dispatch.ledger.slots[v]? = t₁.dispatch.ledger.slots[v]?

/-- **Nobody notices that a caller stops waiting.** In every run of a stage and its supervisor, the
caller of whatever was queued may stop waiting at any moment: everything goes on as it would have
otherwise. -/
theorem run_unnoticed {submissions responses outbound : Nat} {intake : Intake} {space : String}
    {counter : SyncCounter} {log : Log} {t : Teardown} {s : Submission}
    (run : Run (start (.new submissions responses outbound intake space counter)) log t)
    (entered : s ∈ log.entered) : Unnoticed space log t s := by
  have blank := Dispatch.blank_new submissions responses outbound intake space counter
  have sound : Sound _ log t := (sound_start .start).run run
  have inRange := sound.course.inRange s entered
  have abandoned : Run (start (.new submissions responses outbound intake space counter)) log
      (t.abandon s.ticket) := by
    have step : Run _ _ (t.abandon s.ticket) := run.step (.occurs (.abandon s.ticket)) rfl
    rwa [show observe (.occurs (.abandon s.ticket)) t = [] from rfl, List.append_nil] at step
  have later : ∀ {more t'}, Run (t.abandon s.ticket) more t' →
      Dispatch.Course (.new submissions responses outbound intake space counter) (log ++ more)
        t'.dispatch :=
    fun rest => ((sound_start .start).run (abandoned.trans rest)).course
  refine ⟨rfl, fun as => ?_, fun {more t'} rest sync => ?_,
    fun {more t₁ t₂ r responses} rest hq waits h => ?_⟩
  · rw [follow_abandon as inRange]
    cases Logged.follow act observe as t with
    | none => exact .inl ⟨rfl, rfl⟩
    | some last => exact .inr ⟨last.1, last.2, _, rfl, rfl, sameBut_abandon s.ticket last.2⟩
  · have course := later rest
    rw [course.mem_waiting_iff blank]
    constructor
    · rintro ⟨s', same, pending⟩
      have known := course.entered_of_left blank pending.mem_left
      have here := (Log.entered_mono (List.prefix_append log more)).subset entered
      exact course.submission_ext blank known here same ▸ pending
    · exact fun pending => ⟨s, rfl, pending⟩
  · have course := later rest
    obtain ⟨slot, empty⟩ := course.waiting_empty blank waits
    obtain ⟨d', hd, rfl⟩ := Option.map_eq_some_iff.mp h
    have handed : d'.ledger = (t₁.dispatch.ledger.complete r).2 :=
      Dispatch.ledger_of_takeResponse hq hd
    have delivered : d'.ledger.deliveries s.ticket = [.ok r] := by
      rw [handed, Ledger.complete, Ledger.deliveries_finish, if_pos ⟨waits, slot⟩, empty]
      rfl
    refine ⟨?_, delivered, ?_, fun v hv => ?_⟩
    · rw [handed]
      exact Ledger.waiting_finish ..
    · have next := rest.step (.occurs (.acts .takeResponse)) h
      obtain ⟨t₂, -, gone⟩ := exists_run_of_abandon inRange next
      have ledger : d'.ledger = t₂.dispatch.ledger.abandon s.ticket :=
        congrArg (fun t => t.dispatch.ledger) gone
      rw [ledger]
      exact Ledger.reply?_abandon ..
    · have other : t₁.dispatch.ledger.ticket? r.sync ≠ some v := by
        rw [waits]
        exact fun he => hv (Option.some.inj he).symm
      rw [handed]
      exact Ledger.slot_finish_of_ne other _

/-- Two pings on the table, of which the first is abandoned and then answered. -/
theorem run_unnoticed_pings : ∃ log t s as more t' r,
    Run (start (.new 3 1 2 ⟨1⟩ "" .new)) log t ∧ s ∈ log.entered ∧ Unnoticed "" log t s
      ∧ Logged.follow act observe as (t.abandon s.ticket) = some (more, t')
      ∧ more.routed = [r] ∧ t'.dispatch.ledger.waiting = [(2, 1)]
      ∧ t'.dispatch.ledger.deliveries s.ticket = [.ok r]
      ∧ t'.dispatch.ledger.reply? s.ticket = none := by
  have run : Run (start (.new 3 1 2 ⟨1⟩ "" .new)) _ _ := Logged.of_follow
    [.occurs (.submit .ping), .occurs (.submit .ping), .occurs (.acts .look),
      .occurs (.acts .takeSubmission), .occurs (.acts .forward)] rfl
  have unnoticed := run_unnoticed run (s := ⟨.ping, 0⟩) List.mem_cons_self
  exact ⟨_, _, _,
    [.occurs (.acts .look), .occurs (.acts .takeSubmission), .occurs (.acts .forward),
      .occurs (.respond ⟨1, 0, none, none, none⟩), .occurs (.acts .look),
      .occurs (.acts .takeResponse)],
    _, _, _, run, List.mem_cons_self, unnoticed, rfl, rfl, rfl, rfl, rfl⟩

end Teardown

end Muxwire.Mux
