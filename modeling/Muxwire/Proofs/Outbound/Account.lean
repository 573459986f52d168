import Muxwire.Proofs.Outbound

/-!
# The account of the outbound stage

What the stage owes and what it has done, after every run: frames are offered at any time, the
socket answers each write and each flush as it likes or not at all, and the stop signal may fire at
any moment.

* `Entry` -- what is recorded of a run: the frames that were queued and taken, and the failures of
  the socket. `Run` are the runs, each with its history.
* `Kept` -- the invariant, carried by `Kept.step`: at most one frame was taken beyond those that are
  completed, and a stage that has ended has a reason for its result.
* `exists_completion` -- a stage that is offered no more frames completes those that it has, if the
  socket lets it.
* **`Run.accounts`** -- the account. For some `k` the first `k` frames are written whole, each with
  one flush behind it; of the next one a front part; no other was taken. The result is an error
  exactly if the socket failed, and the socket is not tried again.
-/

namespace Muxwire.Mux.Outbound

/-! ## 1. Histories -/

/-- One entry of the history of a run. -/
inductive Entry where
  /-- A frame was queued. -/
  | queued (frame : Octets)
  /-- A frame was taken off the queue. -/
  | taken (frame : Octets)
  /-- A write or a flush failed, or a write of at least one octet accepted none. -/
  | failed (fault : IoFault)

/-- The failure that an answer of the socket is. -/
def failure? : Action → Option IoFault
  | .accept 0 => some .writeZero
  | .writeFails fault | .flushFails fault => some fault
  | _ => none

/-- What an event that is possible adds to the history. -/
def View.observe (v : View) : Event → List Entry
  | .acts a => (taken? a v).toList.map .taken ++ (failure? a).toList.map .failed
  | .push frame => if (v.frames.push frame).1 = .queued then [.queued frame] else []
  | _ => []

/-- The frames that were queued. -/
def queued (history : List Entry) : List Octets :=
  history.filterMap fun | .queued frame => some frame | _ => none

/-- The frames that were taken off the queue. -/
def taken (history : List Entry) : List Octets :=
  history.filterMap fun | .taken frame => some frame | _ => none

/-- The failures of the socket. -/
def failures (history : List Entry) : List IoFault :=
  history.filterMap fun | .failed fault => some fault | _ => none

/-- The runs of the stage: what happened, first to last, and what it comes to. -/
inductive Run (v₀ : View) : List Entry → View → Prop where
  | start : Run v₀ [] v₀
  | step {history : List Entry} {v v' : View} (e : Event) :
      Run v₀ history v → v.occur e = some v' → Run v₀ (history ++ v.observe e) v'

/-- The stage before the first frame, with a queue of the given capacity. -/
def opened (capacity : Nat) : View :=
  ⟨.start, .new capacity, .new⟩

variable {history more : List Entry} {v v' : View} {a : Action} {result : Except Error Unit}

theorem queued_append (history more : List Entry) :
    queued (history ++ more) = queued history ++ queued more :=
  List.filterMap_append

theorem taken_append (history more : List Entry) :
    taken (history ++ more) = taken history ++ taken more :=
  List.filterMap_append

theorem failures_append (history more : List Entry) :
    failures (history ++ more) = failures history ++ failures more :=
  List.filterMap_append

section Acts

variable (a : Action) (v : View)

/-- What the stage does queues no frame. -/
theorem queued_acts : queued (v.observe (.acts a)) = [] := by
  simp only [View.observe]
  cases taken? a v <;> cases failure? a <;> rfl

theorem taken_acts : taken (v.observe (.acts a)) = (taken? a v).toList := by
  simp only [View.observe]
  cases taken? a v <;> cases failure? a <;> rfl

theorem failures_acts : failures (v.observe (.acts a)) = (failure? a).toList := by
  simp only [View.observe]
  cases taken? a v <;> cases failure? a <;> rfl

end Acts

/-! ## 2. The end -/

/-- How an action ends the stage, and with which result. -/
inductive Ends (v : View) : Action → Except Error Unit → Prop where
  | drained (hp : v.stage.phase = .idle) (hq : v.frames.pop? = none)
      (finished : v.frames.isFinished = true) : Ends v .take (.ok ())
  | stopped (fired : v.stop.fired = true) : Ends v .stop (.ok ())
  | failed {a : Action} {fault : IoFault} (ha : failure? a = some fault) :
      Ends v a (.error (.io fault))

/-- **The stage ends in no other way.** -/
theorem ends_of_act (h : act a v = some v') (he : v'.stage.phase = .ended result) :
    Ends v a result := by
  unfold act at h
  split at h
  · rename_i hp
    split at h
    · rename_i frame frames hq
      cases h
      rw [phaseOf] at he
      split at he <;> cases he
    · rename_i hq
      split at h
      · rename_i finished
        cases h
        cases he
        exact .drained hp hq finished
      · cases h
  · rename_i count rest hp
    split at h
    · rename_i zero
      subst zero
      cases h
      cases he
      exact .failed rfl
    · split at h
      · cases h
        rw [phaseOf] at he
        split at he <;> cases he
      · cases h
  · cases h
    cases he
    exact .failed rfl
  · cases h
    cases he
  · cases h
    cases he
    exact .failed rfl
  · split at h
    · rename_i fired
      cases h
      cases he
      exact .stopped fired
    · cases h
  · split at h
    · rename_i fired
      cases h
      cases he
      exact .stopped fired
    · cases h
  · split at h
    · rename_i fired
      cases h
      cases he
      exact .stopped fired
    · cases h
  · cases h

/-! ## 3. The invariant -/

/-- At most one frame was taken beyond those that are completed, and what is begun is a front part
of it. -/
inductive OneAtMost (log : List SocketEvent) (taken : List Octets) : Prop where
  | none (all : taken = completed log) (nothing : begun log = [])
  | one {frame : Octets} (all : taken = completed log ++ [frame]) (front : begun log <+: frame)

/-- Why the stage has ended after a history, and with which result. -/
inductive Reason (history : List Entry) (v : View) : Except Error Unit → Prop where
  | stopped (fired : v.stop.fired = true) (clean : failures history = []) :
      Reason history v (.ok ())
  /-- No more frames come, and all frames are completed. -/
  | drained (closed : v.frames.sending = false)
      (all : completed v.stage.log = queued history) (nothing : begun v.stage.log = [])
      (clean : failures history = []) : Reason history v (.ok ())
  /-- The socket has failed, once and last of all. -/
  | failed {fault : IoFault} {before : List Entry} (last : history = before ++ [.failed fault])
      (clean : failures before = []) : Reason history v (.error (.io fault))

/-- What is true after every history. -/
structure Kept (history : List Entry) (v : View) : Prop where
  serves : Serves v.stage (taken history)
  oneAtMost : OneAtMost v.stage.log (taken history)
  /-- No octets are written by a call of no octets. -/
  nonempty : v.stage.phase ≠ .writing []
  /-- Frames are taken in the order in which they were queued. -/
  front : taken history <+: queued history
  /-- As long as the stage runs, the frames that were not taken stay queued. -/
  running : (∀ result, v.stage.phase ≠ .ended result) → v.frames.receiving = true
    ∧ taken history ++ v.frames.items = queued history ∧ failures history = []
  /-- When the stage has ended, no more frames are queued. -/
  ended : ∀ result, v.stage.phase = .ended result → v.frames.receiving = false
    ∧ Reason history v result

theorem kept_opened (capacity : Nat) : Kept [] (opened capacity) where
  serves := serves_start
  oneAtMost := .none rfl rfl
  nonempty := nofun
  front := List.nil_prefix
  running _ := ⟨rfl, rfl, rfl⟩
  ended := nofun

/-- A stage that runs has at most the frame at hand. -/
theorem Serves.oneAtMost {s : Outbound} {taken : List Octets} (h : Serves s taken)
    (running : ∀ result, s.phase ≠ .ended result) : OneAtMost s.log taken := by
  obtain ⟨phase, log⟩ := s
  cases phase with
  | idle => exact .none h.1.symm h.2
  | writing rest => exact .one h.symm (List.prefix_append _ _)
  | flushing => exact .one h.symm (List.prefix_refl _)
  | ended result => exact absurd rfl (running result)

/-- A stage that can act has not ended. -/
theorem running_of_act (h : act a v = some v') : ∀ result, v.stage.phase ≠ .ended result := by
  intro result hp
  have none := act_of_ended (v := v) (by simp [result?, hp]) a
  rw [none] at h
  cases h

theorem running_phaseOf (rest : Octets) : ∀ result, phaseOf rest ≠ .ended result := by
  intro result he
  rw [phaseOf] at he
  split at he <;> cases he

theorem phaseOf_ne_writing_nil (rest : Octets) : phaseOf rest ≠ .writing [] := by
  cases rest <;> exact fun he => by cases he

namespace Kept

/-- A stage that finds its queue finished has completed all frames. -/
theorem all_of_finished (h : Kept history v) (hp : v.stage.phase = .idle)
    (finished : v.frames.isFinished = true) :
    v.frames.sending = false ∧ completed v.stage.log = queued history
      ∧ begun v.stage.log = [] := by
  obtain ⟨none, closed⟩ := (Bool.and_eq_true _ _).mp finished
  obtain ⟨-, items, -⟩ := h.running (by rw [hp]; exact fun _ he => by cases he)
  have idle := h.serves
  simp only [Serves, hp] at idle
  refine ⟨by simpa using closed, ?_, idle.2⟩
  rw [← items, List.isEmpty_iff.mp none, List.append_nil]
  exact idle.1

/-- **A step of the stage keeps the invariant.** -/
theorem acts (h : Kept history v) (ha : act a v = some v') :
    Kept (history ++ v.observe (.acts a)) v' := by
  have st := step_of_act ha
  have running := running_of_act ha
  obtain ⟨receiving, items, clean⟩ := h.running running
  have serves : Serves v'.stage (taken (history ++ v.observe (.acts a))) := by
    rw [taken_append, taken_acts]
    exact h.serves.step st
  have queue : queued (history ++ v.observe (.acts a)) = queued history := by
    rw [queued_append, queued_acts, List.append_nil]
  -- a step that does not end the stage takes what it takes off the queue, and meets no failure
  have goesOn (still : ∀ result, v'.stage.phase ≠ .ended result)
      (nonempty : v'.stage.phase ≠ .writing [])
      (there : v'.frames.receiving = v.frames.receiving)
      (off : (taken? a v).toList ++ v'.frames.items = v.frames.items)
      (fine : failure? a = none) : Kept (history ++ v.observe (.acts a)) v' := by
    have all : taken (history ++ v.observe (.acts a)) ++ v'.frames.items
        = queued (history ++ v.observe (.acts a)) := by
      rw [taken_append, taken_acts, List.append_assoc, off, queue, items]
    exact {
      serves
      oneAtMost := serves.oneAtMost still
      nonempty
      front := all ▸ List.prefix_append _ _
      running := fun _ => ⟨there.trans receiving, all, by
        rw [failures_append, failures_acts, clean, fine]
        rfl⟩
      ended := fun result he => absurd he (still result) }
  cases st with
  | @take frame frames hp hq =>
    refine goesOn (running_phaseOf frame) (phaseOf_ne_writing_nil frame)
      (Queue.receiving_pop? hq) ?_ rfl
    have front := Queue.items_pop? hq
    simp only [taken?, hq, Option.map_some, Option.toList_some, List.singleton_append]
    exact front.symm
  | @accept count rest hp pos le =>
    refine goesOn (running_phaseOf _) (phaseOf_ne_writing_nil _) rfl rfl ?_
    cases count with
    | zero => cases pos
    | succ count => rfl
  | flush hp => exact goesOn (fun _ he => by cases he) (fun he => by cases he) rfl rfl rfl
  | finish result hn =>
    have ends := ends_of_act ha rfl
    have untaken : taken? a v = none := by
      cases a with
      | take => simp [taken?, hn rfl]
      | _ => rfl
    have same : taken (history ++ v.observe (.acts a)) = taken history := by
      rw [taken_append, taken_acts, untaken]
      exact List.append_nil _
    exact {
      serves
      oneAtMost := same.symm ▸ h.oneAtMost
      nonempty := fun he => by cases he
      front := by
        rw [same, queue]
        exact h.front
      running := fun still => absurd rfl (still result)
      ended := by
        rintro _ ⟨⟩
        refine ⟨rfl, ?_⟩
        have observed : failures (history ++ v.observe (.acts a)) = (failure? a).toList := by
          rw [failures_append, failures_acts, clean, List.nil_append]
        cases ends with
        | drained hp hq finished =>
          obtain ⟨closed, all, nothing⟩ := h.all_of_finished hp finished
          exact .drained closed (all.trans queue.symm) nothing observed
        | stopped fired => exact .stopped fired observed
        | @failed _ fault hf =>
          have last : history ++ v.observe (.acts a) = history ++ [.failed fault] := by
            simp [View.observe, untaken, hf]
          exact .failed last clean }

/-- What the world around does leaves the stage and what it took. -/
theorem around (h : Kept history v) (stage : v'.stage = v.stage)
    (receiving : v'.frames.receiving = v.frames.receiving)
    (items : v'.frames.items = v.frames.items ++ queued more) (untaken : taken more = [])
    (clean : failures more = []) (quiet : v.frames.receiving = false → more = [])
    (stop : v.stop.fired = true → v'.stop.fired = true)
    (closed : v.frames.sending = false → v'.frames.sending = false) :
    Kept (history ++ more) v' := by
  have same : taken (history ++ more) = taken history := by
    rw [taken_append, untaken, List.append_nil]
  exact {
    serves := by
      rw [stage, same]
      exact h.serves
    oneAtMost := by
      rw [stage, same]
      exact h.oneAtMost
    nonempty := stage ▸ h.nonempty
    front := by
      rw [same, queued_append]
      exact h.front.trans (List.prefix_append _ _)
    running := by
      rw [stage, receiving, same, queued_append, failures_append, clean, List.append_nil, items,
        ← List.append_assoc]
      intro running
      obtain ⟨there, all, fine⟩ := h.running running
      exact ⟨there, by rw [all], fine⟩
    ended := by
      rw [stage, receiving]
      intro result he
      obtain ⟨gone, reason⟩ := h.ended result he
      rw [quiet gone, List.append_nil]
      refine ⟨gone, ?_⟩
      cases reason with
      | stopped fired clean => exact .stopped (stop fired) clean
      | drained shut all nothing clean =>
        refine .drained (closed shut) ?_ ?_ clean
        · rw [stage]
          exact all
        · rw [stage]
          exact nothing
      | failed last clean => exact .failed last clean }

/-- **Every event keeps the invariant.** -/
theorem step (h : Kept history v) {e : Event} (he : v.occur e = some v') :
    Kept (history ++ v.observe e) v' := by
  cases e with
  | acts a => exact h.acts he
  | push frame =>
    cases he
    by_cases hq : (v.frames.push frame).1 = .queued
    · have observed : v.observe (.push frame) = [.queued frame] := if_pos hq
      have there := ((Queue.push_queued_iff _ _).mp hq).2.1
      rw [observed]
      refine h.around rfl (Queue.receiving_push _ _) (Queue.items_push_of_queued hq) rfl rfl
        ?_ id ?_
      · intro gone
        rw [there] at gone
        cases gone
      · intro shut
        exact (Queue.sending_push _ _).trans shut
    · have observed : v.observe (.push frame) = [] := if_neg hq
      have same : (v.frames.push frame).2 = v.frames := Queue.push_eq_of_not_queued hq
      rw [observed]
      refine h.around rfl (Queue.receiving_push _ _) ?_ rfl rfl (fun _ => rfl) id ?_
      · show (v.frames.push frame).2.items = v.frames.items ++ []
        rw [same, List.append_nil]
      · intro shut
        exact (Queue.sending_push _ _).trans shut
  | closeFrames =>
    cases he
    exact h.around rfl rfl (List.append_nil _).symm rfl rfl (fun _ => rfl) id fun _ => rfl
  | trigger =>
    cases he
    exact h.around rfl rfl (List.append_nil _).symm rfl rfl (fun _ => rfl) (fun _ => rfl) id

end Kept

theorem kept_of_run {capacity : Nat} (run : Run (opened capacity) history v) : Kept history v := by
  induction run with
  | start => exact kept_opened capacity
  | step e _ he ih => exact ih.step he

/-! ## 4. What is still to come -/

/-- A run after another one. -/
theorem Run.trans {v₀ : View} (run : Run v₀ history v) (rest : Run v more v') :
    Run v₀ (history ++ more) v' := by
  induction rest with
  | start => rwa [List.append_nil]
  | step e _ he ih =>
    rw [← List.append_assoc]
    exact .step e ih he

/-- The stage does not touch the sending side of its queue. -/
theorem sending_of_act (h : act a v = some v') : v'.frames.sending = v.frames.sending := by
  cases step_of_act h with
  | take hp hq => exact Queue.sending_pop? hq
  | _ => rfl

/-- A stage that runs and is offered no more frames is held up by the socket alone: if that accepts
what is written and flushes, there is a next step. -/
theorem exists_act (h : Kept history v) (running : ∀ result, v.stage.phase ≠ .ended result)
    (closed : v.frames.sending = false) :
    ∃ a, failure? a = none ∧ a ≠ .stop ∧ ∃ v', act a v = some v' := by
  cases hp : v.stage.phase with
  | idle =>
    refine ⟨.take, rfl, by simp, Option.isSome_iff_exists.mp ?_⟩
    cases hi : v.frames.items with
    | cons frame items => simp [act, hp, Queue.pop?, hi]
    | nil => simp [act, hp, Queue.pop?, hi, Queue.isFinished, closed]
  | writing rest =>
    have nonempty : rest ≠ [] := fun he => h.nonempty (he ▸ hp)
    obtain ⟨octet, rest, rfl⟩ := List.exists_cons_of_ne_nil nonempty
    refine ⟨.accept (rest.length + 1), rfl, by simp, Option.isSome_iff_exists.mp ?_⟩
    simp [act, hp]
  | flushing =>
    refine ⟨.flush, rfl, by simp, Option.isSome_iff_exists.mp ?_⟩
    simp [act, hp]
  | ended result => exact absurd hp (running result)

/-- **The stage completes the frames that it has**, if no more are offered and the socket accepts
what is written and flushes. -/
theorem exists_completion (h : Kept history v)
    (running : ∀ result, v.stage.phase ≠ .ended result) (closed : v.frames.sending = false) :
    ∃ more v', Run v more v' ∧ queued more = [] ∧ failures more = []
      ∧ v'.stage.phase = .ended (.ok ()) ∧ completed v'.stage.log = queued history
      ∧ begun v'.stage.log = [] := by
  -- every step lowers the weight
  induction hw : v.weight using Nat.strongRecOn generalizing history v with
  | ind weight ih =>
    obtain ⟨a, fine, unstopped, v₁, ha⟩ := exists_act h running closed
    have step : Run v ([] ++ v.observe (.acts a)) v₁ := .step (.acts a) .start ha
    have lighter := View.weight_act_lt ha
    rw [List.nil_append] at step
    by_cases ended : ∃ result, v₁.stage.phase = .ended result
    · obtain ⟨result, he⟩ := ended
      refine ⟨_, v₁, step, queued_acts a v, ?_, ?_⟩
      · rw [failures_acts, fine]
        rfl
      · cases ends_of_act ha he with
        | drained hp hq finished =>
          simp only [act, hp, hq, finished, if_true, Option.some.injEq] at ha
          subst ha
          exact ⟨rfl, (h.all_of_finished hp finished).2⟩
        | stopped fired => exact absurd rfl unstopped
        | failed hf =>
          rw [fine] at hf
          cases hf
    · have running₁ : ∀ result, v₁.stage.phase ≠ .ended result :=
        fun result he => ended ⟨result, he⟩
      have closed₁ : v₁.frames.sending = false := (sending_of_act ha).trans closed
      obtain ⟨more, v', run, none, clean, he, all, nothing⟩ :=
        ih _ (hw ▸ lighter) (h.step (e := .acts a) ha) running₁ closed₁ rfl
      refine ⟨_, v', step.trans run, ?_, ?_, he, ?_, nothing⟩
      · rw [queued_append, queued_acts, none]
        rfl
      · rw [failures_append, failures_acts, fine, clean]
        rfl
      · rw [all, queued_append, queued_acts, List.append_nil]

/-! ## 5. The account -/

/-- The stage is through with the first `k` frames, and not with the next. -/
structure Through (k : Nat) (queued taken : List Octets) (s : Outbound) : Prop where
  /-- What was written between one flush and the next are the first `k` frames, each whole. -/
  completed : completed s.log = queued.take k
  /-- There is one flush behind each of them. -/
  flushes : s.flushes = k
  /-- What was written since is a front part of the next frame, if there is one. -/
  begun : begun s.log <+: queued[k]?.getD []
  /-- Nothing else was written. -/
  written : s.written = (queued.take k).flatten ++ Outbound.begun s.log
  /-- No frame beyond the next was taken, and none out of order. -/
  taken : queued.take k <+: taken ∧ taken <+: queued.take (k + 1)

theorem length_completed (log : List SocketEvent) :
    (completed log).length = log.count .flushed := by
  induction log with
  | nil => rfl
  | cons event log ih =>
    cases event with
    | wrote octets => simpa [completed] using ih
    | flushed => simpa [completed] using ih

/-- **There is such a number**: that of the flushes. -/
theorem OneAtMost.through {s : Outbound} {queued taken : List Octets}
    (h : OneAtMost s.log taken) (front : taken <+: queued) :
    Through s.flushes queued taken s := by
  have count : (completed s.log).length = s.flushes := length_completed s.log
  obtain ⟨after, rfl⟩ := front
  cases h with
  | none all nothing =>
    have first : (taken ++ after).take s.flushes = completed s.log := by
      rw [all, ← count, List.take_left]
    refine ⟨first.symm, rfl, ?_, by rw [first, written_eq], ?_⟩
    · rw [nothing]
      exact List.nil_prefix
    · rw [first, all]
      refine ⟨List.prefix_refl _, ?_⟩
      rw [List.prefix_take_iff]
      exact ⟨List.prefix_append _ _, by omega⟩
  | @one frame all begun =>
    have first : (taken ++ after).take s.flushes = completed s.log := by
      rw [all, ← count, List.append_assoc, List.take_left]
    have next : (taken ++ after)[s.flushes]? = some frame := by
      rw [all, ← count, List.append_assoc, List.getElem?_append_right (Nat.le_refl _)]
      simp
    refine ⟨first.symm, rfl, ?_, by rw [first, written_eq], ?_⟩
    · rw [next]
      exact begun
    · rw [first]
      refine ⟨all ▸ List.prefix_append _ _, ?_⟩
      rw [List.prefix_take_iff]
      refine ⟨List.prefix_append _ _, ?_⟩
      rw [all, List.length_append, count]
      exact Nat.le_refl _

/-- What the stage owes and what it has done. -/
structure Accounts (history : List Entry) (v : View) : Prop where
  /-- Some first frames are completed, and no other but the next is touched. -/
  frames : ∃ k, Through k (queued history) (taken history) v.stage
  /-- The result is an error exactly if the socket failed, and it is that failure. -/
  failed : ∀ e, v.stage.phase = .ended (.error e) ↔
    ∃ fault, e = .io fault ∧ .failed fault ∈ history
  /-- The socket is not tried again: a failure is the first and the last that happens. -/
  last : ∀ fault before after, history = before ++ .failed fault :: after →
    failures before = [] ∧ after = []
  /-- A stage that has ended does nothing more. -/
  final : ∀ result, v.stage.phase = .ended result → ∀ a, act a v = none
  /-- A good end follows the stop signal, or comes when no more frames are offered and all are
  completed. -/
  ok : v.stage.phase = .ended (.ok ()) → v.stop.fired = true
    ∨ v.frames.sending = false ∧ completed v.stage.log = queued history
      ∧ begun v.stage.log = []
  /-- A stage that awaits a frame and finds no more offered and none queued has completed all of
  them, and comes to that end. -/
  drained : v.stage.phase = .idle → v.frames.isFinished = true →
    act .take v = some (v.finish (.ok ())) ∧ completed v.stage.log = queued history
      ∧ begun v.stage.log = []
  /-- The stage can follow the stop signal wherever it stands. -/
  stops : (∀ result, v.stage.phase ≠ .ended result) → v.stop.fired = true →
    act .stop v = some (v.finish (.ok ()))
  /-- If no more frames are offered, and the socket accepts what is written and flushes, the stage
  completes all frames and comes to a good end. -/
  completes : (∀ result, v.stage.phase ≠ .ended result) → v.frames.sending = false →
    ∃ more v', Run v more v' ∧ queued more = [] ∧ failures more = []
      ∧ v'.stage.phase = .ended (.ok ()) ∧ completed v'.stage.log = queued history
      ∧ begun v'.stage.log = []

/-- A stage that awaits a frame and finds its queue finished ends well. -/
theorem act_of_finished (hp : v.stage.phase = .idle) (finished : v.frames.isFinished = true) :
    act .take v = some (v.finish (.ok ())) := by
  have none : v.frames.items = [] :=
    List.isEmpty_iff.mp ((Bool.and_eq_true _ _).mp finished).1
  have hq : v.frames.pop? = .none := by
    simp only [Queue.pop?, none]
  simp only [act, hp, hq, finished, if_true]

/-- A failure stands at the end of the history of a stage that has ended with it. -/
theorem Kept.of_failed (h : Kept history v) {fault : IoFault} {before after : List Entry}
    (hh : history = before ++ .failed fault :: after) :
    failures before = [] ∧ after = [] ∧ v.stage.phase = .ended (.error (.io fault)) := by
  have mem : fault ∈ failures history := by
    rw [hh, failures_append]
    exact List.mem_append_right _ List.mem_cons_self
  have some_failure : failures history ≠ [] := List.ne_nil_of_mem mem
  by_cases running : ∀ result, v.stage.phase ≠ .ended result
  · exact absurd (h.running running).2.2 some_failure
  · obtain ⟨result, he⟩ := not_forall.mp running
    have he := not_not.mp he
    cases (h.ended result he).2 with
    | stopped _ clean => exact absurd clean some_failure
    | drained _ _ _ clean => exact absurd clean some_failure
    | @failed fault' front last clean =>
      rcases List.eq_nil_or_concat after with rfl | ⟨mid, x, rfl⟩
      · obtain ⟨rfl, same⟩ := List.append_inj' (hh.symm.trans last) rfl
        cases same
        exact ⟨clean, rfl, he⟩
      · -- then the failure would stand among those before the last
        rw [List.concat_eq_append, ← List.cons_append, ← List.append_assoc] at hh
        obtain ⟨rfl, -⟩ := List.append_inj' (hh.symm.trans last) rfl
        rw [failures_append] at clean
        cases (List.append_eq_nil_iff.mp clean).2

/-- **The account of the stage**, after every run. -/
theorem Run.accounts {capacity : Nat} (run : Run (opened capacity) history v) :
    Accounts history v := by
  have h := kept_of_run run
  refine {
    frames := ⟨_, h.oneAtMost.through h.front⟩
    failed := ?_
    last := fun fault before after hh => ⟨(h.of_failed hh).1, (h.of_failed hh).2.1⟩
    final := ?_
    ok := ?_
    drained := fun hp finished => ⟨act_of_finished hp finished, (h.all_of_finished hp finished).2⟩
    stops := ?_
    completes := fun running closed => exists_completion h running closed }
  · intro e
    constructor
    · intro he
      cases (h.ended _ he).2 with
      | @failed fault before last _ => exact ⟨fault, rfl, by simp [last]⟩
    · rintro ⟨fault, rfl, mem⟩
      obtain ⟨before, after, hh⟩ := List.append_of_mem mem
      exact (h.of_failed hh).2.2
  · intro result he
    exact act_of_ended (by simp [result?, he])
  · intro he
    cases (h.ended _ he).2 with
    | stopped fired _ => exact .inl fired
    | drained closed all nothing _ => exact .inr ⟨closed, all, nothing⟩
  · intro running fired
    cases hp : v.stage.phase with
    | ended result => exact absurd hp (running result)
    | _ => simp only [act, hp, fired, if_true]

/-- What the stage does at a socket with a budget is an action of its own. -/
theorem Bench.act_of_advance {b b' : Bench} (h : b.advance = some b') :
    ∃ a, act a b.view = some b'.view := by
  unfold Bench.advance at h
  split at h
  · rename_i ha
    cases h
    exact ⟨_, ha⟩
  split at h
  · rename_i ha
    cases h
    exact ⟨_, ha⟩
  · simp only [Bench.transmit, Option.bind_eq_bind, Option.bind_eq_some_iff] at h
    obtain ⟨⟨a, socket⟩, -, view, ha, h⟩ := h
    cases h
    exact ⟨a, ha⟩

/-- **The stage at a socket with a budget** takes one of these runs. -/
theorem Bench.exists_run (b : Bench) :
    ∃ history, Run b.view history b.run.view ∧ queued history = [] := by
  rw [Bench.run]
  generalize b.view.weight = n
  induction n generalizing b with
  | zero => exact ⟨[], .start, rfl⟩
  | succ n ih =>
    rw [settle]
    cases h : b.advance with
    | none => exact ⟨[], .start, rfl⟩
    | some b' =>
      obtain ⟨a, ha⟩ := Bench.act_of_advance h
      obtain ⟨history, run, none⟩ := ih b'
      refine ⟨_, (Run.step (.acts a) .start ha).trans run, ?_⟩
      rw [List.nil_append, queued_append, queued_acts, none]
      rfl

/-- A socket that accepts four octets and then breaks. -/
def brittle : Socket :=
  ⟨some 4, some ⟨.brokenPipe, "broken pipe"⟩, false, none⟩

/-- Three frames, the first of them empty: two are completed, and one octet of the third is
written. -/
theorem Run.accounts_brittle : ∃ history v, Run (opened 3) history v
    ∧ queued history = [[], [1, 2, 3], [4, 5]]
    ∧ v.stage.phase = .ended (.error (.io ⟨.brokenPipe, "broken pipe"⟩))
    ∧ completed v.stage.log = [[], [1, 2, 3]] ∧ begun v.stage.log = [4]
    ∧ Accounts history v := by
  have offered : Run (opened 3) _ _ :=
    .step (.push [4, 5]) (.step (.push [1, 2, 3]) (.step (.push []) .start rfl) rfl) rfl
  obtain ⟨more, served, none⟩ := Bench.exists_run ⟨_, brittle⟩
  have run := offered.trans served
  refine ⟨_, _, run, ?_, rfl, rfl, rfl, run.accounts⟩
  rw [queued_append, none]
  rfl

end Muxwire.Mux.Outbound
