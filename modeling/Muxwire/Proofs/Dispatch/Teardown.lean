import Muxwire.Proofs.Dispatch.Accounts

/-!
# The end of a stage

After the stage has ended the supervisor gives up what is left: everyone on the table, then, once
the queue takes nothing more, every submission on it. `Dispatch.failAll` does so at once; here each
of its steps is a step of its own, and callers go on submitting and abandoning in between
(`Teardown`).

* `Teardown.follow_failAll` -- the steps without anything in between are `Dispatch.failAll`.
* **`Teardown.one_reply`** -- in every run, each submission that was queued has one reply at most,
  at every moment, and exactly one when the supervisor is done; and the reply has a `Cause`.
-/

namespace Muxwire.Mux

open Request Wire

/-- How far the supervisor is. -/
inductive Teardown.Stage where
  /-- It has not begun. -/
  | waiting
  /-- Everyone on the table was given up. -/
  | tableFailed
  /-- The queue takes nothing more. -/
  | queueClosed
  | done
  deriving DecidableEq, Repr

/-- A stage and its supervisor. -/
structure Teardown where
  dispatch : Dispatch
  stage : Teardown.Stage
  /-- How many were given up. -/
  failed : Nat

namespace Teardown

/-- What may happen. -/
inductive Action where
  /-- The stage or the world around it goes on. -/
  | occurs (e : Dispatch.Event)
  | failTable
  | closeQueue
  | failNext
  | finish

/-- A supervisor that has not begun. -/
def start (d : Dispatch) : Teardown :=
  ⟨d, .waiting, 0⟩

/-- One step, if it is possible. -/
def act (a : Action) (t : Teardown) : Option Teardown :=
  match a, t.stage with
  | .occurs e, _ => (Dispatch.occur e t.dispatch).map fun dispatch => { t with dispatch }
  | .failTable, .waiting =>
    if t.dispatch.isEnded then
      let (failed, ledger) := t.dispatch.ledger.failAll .connectionClosed
      some ⟨{ t.dispatch with ledger }, .tableFailed, failed⟩
    else none
  | .closeQueue, .tableFailed =>
    some { t with dispatch.submissions.receiving := false, stage := .queueClosed }
  | .failNext, .queueClosed =>
    t.dispatch.submissions.pop?.map fun (s, submissions) =>
      { t with
        dispatch.submissions := submissions
        dispatch.ledger := t.dispatch.ledger.deliver s.ticket (.error .connectionClosed)
        failed := t.failed + 1 }
  | .finish, .queueClosed =>
    if t.dispatch.submissions.items.isEmpty then some { t with stage := .done } else none
  | _, _ => none

/-- What a step that is possible adds to the log. -/
def observe (a : Action) (t : Teardown) : Log :=
  match a with
  | .occurs e => Dispatch.observe e t.dispatch
  | .failTable => [.givenUp]
  | .failNext => (t.dispatch.submissions.pop?.map fun (s, _) => .drained s).toList
  | _ => []

/-- The runs of a stage and its supervisor. -/
abbrev Run (t₀ : Teardown) : Log → Teardown → Prop :=
  Logged act observe t₀

/-! ## 1. The steps in a row -/

/-- The submissions left are given up one by one. -/
theorem follow_failNext (items : List Submission) {d : Dispatch} (n : Nat)
    (hi : d.submissions.items = items) (hr : d.submissions.receiving = false) :
    Logged.follow act observe (List.replicate items.length .failNext ++ [.finish])
        ⟨d, .queueClosed, n⟩
      = some (items.map .drained,
          ⟨{ d with
              submissions := d.submissions.closeReceiving
              ledger := d.ledger.deliverAll .connectionClosed (items.map Submission.ticket) },
            .done, n + items.length⟩) := by
  induction items generalizing d n with
  | nil =>
    obtain ⟨_, ⟨_, _, _, _⟩, _, _, _, _, _, _, _⟩ := d
    cases hi
    cases hr
    rfl
  | cons s items ih =>
    have hq : d.submissions.pop? = some (s, { d.submissions with items }) := by
      simp only [Queue.pop?, hi]
    have next : act .failNext ⟨d, .queueClosed, n⟩ = some ⟨{ d with
        submissions := { d.submissions with items }
        ledger := d.ledger.deliver s.ticket (.error .connectionClosed) }, .queueClosed, n + 1⟩ := by
      simp only [act, hq, Option.map_some]
    refine (Logged.follow_cons next (ih (n + 1) rfl hr)).trans ?_
    simp only [observe, hq]
    rw [Nat.add_right_comm, Nat.add_assoc]
    rfl

/-- **Without anything in between the steps are `Dispatch.failAll`.** -/
theorem follow_failAll {d : Dispatch} (h : d.isEnded) :
    Logged.follow act observe
        (.failTable :: .closeQueue :: (List.replicate d.submissions.size .failNext ++ [.finish]))
        (start d)
      = some (.givenUp :: d.submissions.items.map .drained, ⟨d.failAll.2, .done, d.failAll.1⟩) := by
  have first : act .failTable (start d) = some ⟨{ d with
      ledger := (d.ledger.failAll .connectionClosed).2 }, .tableFailed,
      (d.ledger.failAll .connectionClosed).1⟩ := if_pos h
  have rest := follow_failNext d.submissions.items (d := { d with
      submissions := { d.submissions with receiving := false }
      ledger := (d.ledger.failAll .connectionClosed).2 }) (d.ledger.failAll .connectionClosed).1
    rfl rfl
  refine (Logged.follow_cons first (Logged.follow_cons rfl rest)).trans ?_
  simp [observe, Dispatch.failAll, Queue.closeReceiving]

/-! ## 2. What holds in every run -/

/-- A stage that has ended stays so, and its table and what is closed stay as they are. -/
theorem occur_of_ended {e : Dispatch.Event} {d d' : Dispatch} (hp : d.phase = .ended)
    (h : Dispatch.occur e d = some d') :
    d'.phase = .ended ∧ d'.ledger.waiting = d.ledger.waiting
      ∧ (d.submissions.receiving = false → d'.submissions.receiving = false
        ∧ d'.submissions.items = d.submissions.items) := by
  cases e with
  | acts a => cases a <;> simp [Dispatch.occur, Dispatch.act, hp] at h
  | submit q =>
    cases h
    by_cases hq : (d.submissions.push ⟨q, d.ledger.slots.length⟩).1 = .queued
    · rw [Dispatch.submit_of_queued hq]
      refine ⟨hp, rfl, ?_⟩
      intro hr
      have receiving := ((Queue.push_queued_iff _ _).mp hq).2.1
      rw [hr] at receiving
      cases receiving
    · rw [Dispatch.submit_of_not_queued hq]
      exact ⟨hp, rfl, fun hr => ⟨hr, rfl⟩⟩
  | _ =>
    cases h
    exact ⟨hp, rfl, fun hr => ⟨hr, rfl⟩⟩

/-- How the supervisor stands to the stage and its log. -/
structure Sound (d₀ : Dispatch) (log : Log) (t : Teardown) : Prop where
  course : Dispatch.Course d₀ log t.dispatch
  ended : t.stage ≠ .waiting → t.dispatch.phase = .ended
  /-- Nobody is on the table after everyone was given up. -/
  table : t.stage ≠ .waiting → t.dispatch.ledger.waiting = []
  closed : t.stage = .queueClosed ∨ t.stage = .done → t.dispatch.submissions.receiving = false
  drained : t.stage = .done → t.dispatch.submissions.items = []

/-- **Every step keeps the supervisor sound.** -/
theorem Sound.step {d₀ : Dispatch} {log : Log} {t t' : Teardown} {a : Action}
    (h : Sound d₀ log t) (ha : act a t = some t') : Sound d₀ (log ++ observe a t) t' := by
  obtain ⟨d, stage, failed⟩ := t
  cases a with
  | occurs e =>
    obtain ⟨d', hd, rfl⟩ := Option.map_eq_some_iff.mp ha
    have kept := fun hs => occur_of_ended (h.ended hs) hd
    refine ⟨h.course.occur hd, fun hs => (kept hs).1, ?_, ?_, ?_⟩
    · intro hs
      exact (kept hs).2.1.trans (h.table hs)
    · intro hs
      have begun : stage ≠ .waiting := by rintro rfl; simp at hs
      exact ((kept begun).2.2 (h.closed hs)).1
    · intro hs
      have begun : stage ≠ .waiting := by rintro rfl; cases hs
      exact ((kept begun).2.2 (h.closed (.inr hs))).2.trans (h.drained hs)
  | failTable =>
    cases stage with
    | waiting =>
      simp only [act] at ha
      split at ha
      · rename_i ended
        cases ha
        have hp : d.phase = .ended := of_decide_eq_true ended
        have cleared : (d.ledger.failAll .connectionClosed).2.waiting = [] :=
          Ledger.waiting_deliverAll ..
        exact ⟨h.course.record (.giveUp hp), fun _ => hp, fun _ => cleared, by simp, nofun⟩
      · cases ha
    | _ => cases ha
  | closeQueue =>
    cases stage with
    | tableFailed =>
      cases ha
      have begun : Stage.tableFailed ≠ .waiting := nofun
      exact ⟨h.course.step (.shutSubmissions { d.submissions with receiving := false } rfl),
        fun _ => h.ended begun, fun _ => h.table begun, fun _ => rfl, nofun⟩
    | _ => cases ha
  | failNext =>
    cases stage with
    | queueClosed =>
      obtain ⟨⟨s, submissions⟩, hq, rfl⟩ := Option.map_eq_some_iff.mp ha
      have hp : d.phase = .ended := h.ended nofun
      have closed : d.submissions.receiving = false := h.closed (.inl rfl)
      simp only [observe, hq, Option.map_some, Option.toList_some]
      exact ⟨h.course.record (.drain hp hq), fun _ => hp, fun _ => h.table nofun,
        fun _ => (Queue.receiving_pop? hq).trans closed, nofun⟩
    | _ => cases ha
  | finish =>
    cases stage with
    | queueClosed =>
      simp only [act] at ha
      split at ha
      · rename_i empty
        cases ha
        simp only [observe, List.append_nil]
        exact ⟨h.course, fun _ => h.ended nofun, fun _ => h.table nofun,
          fun _ => h.closed (.inl rfl), fun _ => List.isEmpty_iff.mp empty⟩
      · cases ha
    | _ => cases ha

theorem Sound.run {d₀ : Dispatch} {log log' : Log} {t t' : Teardown} (h : Sound d₀ log t)
    (run : Run t log' t') : Sound d₀ (log ++ log') t' := by
  induction run with
  | start => simpa using h
  | step a _ ha ih =>
    rw [← List.append_assoc]
    exact ih.step ha

/-- A stage in its course, before the supervisor begins. -/
theorem sound_start {d₀ d : Dispatch} {log : Log} (c : Dispatch.Course d₀ log d) :
    Sound d₀ log (start d) :=
  ⟨c, fun h => absurd rfl h, fun h => absurd rfl h, by simp [start], nofun⟩

/-- **Giving up all that is left continues the course of a stage.** -/
theorem course_failAll {d₀ d : Dispatch} {log : Log} (c : Dispatch.Course d₀ log d)
    (h : d.isEnded) :
    Dispatch.Course d₀ (log ++ .givenUp :: d.submissions.items.map .drained) d.failAll.2 :=
  ((sound_start c).run (Logged.of_follow _ (follow_failAll h))).course

/-! ## 3. One reply -/

/-- When the supervisor is done, nobody is left without a reply. -/
theorem Sound.settled {d₀ : Dispatch} {log : Log} {t : Teardown} (h : Sound d₀ log t)
    (blank : Dispatch.Blank d₀) (hd : t.stage = .done) {s : Submission} (hs : s ∈ log.entered) :
    ∃ r, log.standing d₀.space s.ticket = .settled r := by
  have begun : t.stage ≠ .waiting := by simp [hd]
  exact h.course.settled blank (h.table begun) (h.drained hd) hs

/-- **Everyone who was queued gets one reply.** In every run of a stage and its supervisor, whatever
the capacities of the queues, the gate, and the position of the counter: no two queued submissions
share a slot, a slot has one reply at most, it has exactly one when the supervisor is done, and the
reply has a cause. -/
theorem one_reply {submissions responses outbound : Nat} {intake : Intake} {space : String}
    {counter : SyncCounter} {log : Log} {t : Teardown}
    (run : Run (start (.new submissions responses outbound intake space counter)) log t) :
    (log.entered.map (·.ticket)).Nodup
      ∧ ∀ s ∈ log.entered,
        (t.dispatch.ledger.deliveries s.ticket).length ≤ 1
          ∧ (t.stage = .done → (t.dispatch.ledger.deliveries s.ticket).length = 1)
          ∧ ∀ r ∈ t.dispatch.ledger.deliveries s.ticket, Cause space log s r := by
  have blank := Dispatch.blank_new submissions responses outbound intake space counter
  have sound : Sound _ log t := (sound_start .start).run run
  have accounted := sound.course.accounted blank
  refine ⟨accounted.once, ?_⟩
  intro s hs
  refine ⟨sound.course.length_deliveries_le blank hs, ?_, ?_⟩
  · intro hd
    obtain ⟨r, hr⟩ := sound.settled blank hd hs
    rw [accounted.book.filled _ (Dispatch.mem_tickets hs)]
    exact congrArg (fun st => st.replies.length) hr
  · intro r hr
    exact (sound.course.cause blank hs hr).2

/-- Stopped with one ping answered, one on the table and one on the queue. -/
theorem one_reply_pings : ∃ log t, Run (start (.new 3 1 2 ⟨1⟩ "" .new)) log t
    ∧ t.stage = .done ∧ log.entered.length = 3
    ∧ ∀ s ∈ log.entered, (t.dispatch.ledger.deliveries s.ticket).length = 1
      ∧ ∀ r ∈ t.dispatch.ledger.deliveries s.ticket, Cause "" log s r := by
  have run : Run (start (.new 3 1 2 ⟨1⟩ "" .new)) _ _ := Logged.of_follow
    [.occurs (.submit .ping), .occurs (.submit .ping), .occurs (.submit .ping),
      .occurs (.acts .look), .occurs (.acts .takeSubmission), .occurs (.acts .forward),
      .occurs (.respond ⟨1, 0, none, none, none⟩), .occurs (.acts .look),
      .occurs (.acts .takeResponse), .occurs (.acts .look), .occurs (.acts .takeSubmission),
      .occurs .trigger, .occurs (.acts .stop), .failTable, .closeQueue, .failNext, .finish] rfl
  have h := (one_reply run).2
  exact ⟨_, _, run, rfl, rfl, fun s hs => ⟨(h s hs).2.1 rfl, (h s hs).2.2⟩⟩

end Teardown

end Muxwire.Mux
