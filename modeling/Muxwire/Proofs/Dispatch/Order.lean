import Muxwire.Proofs.Dispatch.Course
import Muxwire.Proofs.SyncCounter

/-!
# The order of things

What the queues, the counter and the frame at hand have to do with the log (`InOrder`): submissions
leave in the order in which they were queued, the `k`-th accepted one has the `k`-th sync, frames
are queued in the order of acceptance and taken in that order, and so are responses.

`Course.inOrder` is the invariant; one case for each move carries it.
-/

namespace Muxwire.Mux.Dispatch

open Request Wire

/-- The frame that is packed and not queued yet. -/
def Phase.parked : Phase → List Octets
  | .forwarding frame => [frame]
  | _ => []

@[simp] theorem Phase.parked_ready : Phase.ready.parked = [] := rfl

@[simp] theorem Phase.parked_selecting (accepting : Bool) :
    (Phase.selecting accepting).parked = [] := rfl

@[simp] theorem Phase.parked_forwarding (frame : Octets) :
    (Phase.forwarding frame).parked = [frame] := rfl

@[simp] theorem Phase.parked_ended : Phase.ended.parked = [] := rfl

/-- `xs` is a front part of `ys`, and all of it as long as nothing is lost. -/
structure Front {α : Type} (intact : Prop) (xs ys : List α) : Prop where
  cut : xs <+: ys
  whole : intact → xs = ys

theorem Front.of_eq {α : Type} {intact : Prop} {xs ys : List α} (h : xs = ys) :
    Front intact xs ys :=
  ⟨h ▸ List.prefix_refl xs, fun _ => h⟩

/-- What a stage has to do with the log of its course from `d₀`. -/
structure InOrder (d₀ : Dispatch) (log : Log) (d : Dispatch) : Prop where
  space : d.space = d₀.space
  /-- Submissions leave the queue in order. -/
  queue : log.entered = log.left ++ d.submissions.items
  /-- Those that left were accepted first, and given up after the end of the stage. -/
  left : log.left = log.accepted.map Prod.snd ++ log.drained
  drained : d.phase ≠ .ended → log.drained = []
  /-- Syncs are issued in order. -/
  syncs : log.accepted.map Prod.fst = d₀.counter.take log.accepted.length
  counter : d.counter = d₀.counter.after log.accepted.length
  /-- Frames are queued in the order of acceptance; at the end the last one may be lost. -/
  forwarded : Front (d.phase ≠ .ended) (log.forwarded ++ d.phase.parked) (log.frames d₀.space)
  /-- Frames and responses are taken in order; without the receiving side the rest is lost. -/
  taken : Front d.outbound.receiving (log.taken ++ d.outbound.items) log.forwarded
  routed : Front d.responses.receiving (log.routed ++ d.responses.items) log.arrived

namespace InOrder

variable {d₀ d d' : Dispatch} {log : Log}

theorem start (h : Blank d₀) : InOrder d₀ [] d₀ where
  space := rfl
  queue := h.submissions.symm
  left := rfl
  drained _ := rfl
  syncs := rfl
  counter := rfl
  forwarded := .of_eq (by rw [h.phase]; rfl)
  taken := .of_eq (by rw [h.outbound]; rfl)
  routed := .of_eq (by rw [h.responses]; rfl)

/-- Whatever becomes of the query, the submission in front gets the next sync. -/
theorem issue {s : Submission} {submissions : Queue Submission} {frames : List Octets}
    (o : InOrder d₀ log d) (hp : d.phase = .selecting true)
    (hq : d.submissions.pop? = some (s, submissions))
    (hf : (log ++ [Record.accepted d.counter.following s]).frames d₀.space
      = log.frames d₀.space ++ frames)
    (hd : d'.phase.parked = frames ∧ d'.space = d.space ∧ d'.submissions = submissions
      ∧ d'.counter = d.counter.next.2 ∧ d'.outbound = d.outbound ∧ d'.responses = d.responses) :
    InOrder d₀ (log ++ [.accepted d.counter.following s]) d' := by
  obtain ⟨parked, space, rfl, counter, outbound, responses⟩ := hd
  have running : d.phase ≠ .ended := by simp [hp]
  have queue := o.queue
  rw [Queue.items_pop? hq] at queue
  have whole := o.forwarded.whole running
  rw [hp, Phase.parked_selecting, List.append_nil] at whole
  exact {
    space := space.trans o.space
    queue := by simp [queue]
    left := by simp [o.left, o.drained running]
    drained := fun _ => by simpa using o.drained running
    syncs := by simp [o.syncs, SyncCounter.take_succ_last, o.counter]
    counter := by simp [counter, SyncCounter.after_succ_last, o.counter]
    forwarded := .of_eq (by rw [hf, parked, ← whole]; simp)
    taken := by simpa [outbound] using o.taken
    routed := by simpa [responses] using o.routed }

/-- A record that is not about submissions leaves their order and the syncs alone. -/
theorem other {log' : Log} (o : InOrder d₀ log d)
    (hl : log'.entered = log.entered ∧ log'.left = log.left ∧ log'.accepted = log.accepted
      ∧ log'.drained = log.drained)
    (hd : d'.space = d.space ∧ d'.submissions = d.submissions ∧ d'.counter = d.counter)
    (hp : d'.phase ≠ .ended → d.phase ≠ .ended)
    (forwarded : Front (d'.phase ≠ .ended) (log'.forwarded ++ d'.phase.parked)
      (log.frames d₀.space))
    (taken : Front d'.outbound.receiving (log'.taken ++ d'.outbound.items) log'.forwarded)
    (routed : Front d'.responses.receiving (log'.routed ++ d'.responses.items) log'.arrived) :
    InOrder d₀ log' d' := by
  obtain ⟨entered, left, accepted, drained⟩ := hl
  obtain ⟨space, submissions, counter⟩ := hd
  have frames : log'.frames d₀.space = log.frames d₀.space := by
    rw [Log.frames, Log.packed, accepted]
    rfl
  exact {
    space := space.trans o.space
    queue := by rw [entered, left, submissions, o.queue]
    left := by rw [accepted, left, drained, o.left]
    drained := fun h => by rw [drained, o.drained (hp h)]
    syncs := by rw [accepted, o.syncs]
    counter := by rw [accepted, counter, o.counter]
    forwarded := frames ▸ forwarded
    taken, routed }

/-- **Every move keeps the order.** -/
theorem move {x : Option Record} (o : InOrder d₀ log d) (m : Move log d x d') :
    InOrder d₀ (log ++ x.toList) d' := by
  cases m with
  | look accepting hp =>
    have running : d.phase ≠ .ended := by simp [hp]
    have whole := o.forwarded.whole running
    rw [hp] at whole
    simp only [Option.toList_none, List.append_nil]
    exact { o with drained := fun _ => o.drained running, forwarded := .of_eq whole }
  | acceptPacked hp hq hpack =>
    exact o.issue hp hq (Log.frames_accepted_of_ok (o.space ▸ hpack)) ⟨rfl, rfl, rfl, rfl, rfl, rfl⟩
  | acceptFailed hp hq hpack =>
    refine o.issue hp hq ?_ ⟨rfl, rfl, rfl, rfl, rfl, rfl⟩
    rw [Log.frames_accepted_of_error (o.space ▸ hpack)]
    exact (List.append_nil _).symm
  | @route accepting r responses hp hq =>
    have running : d.phase ≠ .ended := by simp [hp]
    have whole := o.forwarded.whole running
    rw [hp] at whole
    have routed := o.routed
    rw [Queue.items_pop? hq, ← Queue.receiving_pop? hq] at routed
    exact o.other (by simp) ⟨rfl, rfl, rfl⟩ (fun _ => running)
      (.of_eq (by simpa using whole)) (by simpa using o.taken) (by simpa using routed)
  | @forward frame hp hq =>
    have running : d.phase ≠ .ended := by simp [hp]
    have whole := o.forwarded.whole running
    rw [hp] at whole
    have taken := o.taken.whole ((Queue.push_queued_iff _ _).mp hq).2.1
    refine o.other (by simp) ⟨rfl, rfl, rfl⟩ (fun _ => running)
      (.of_eq (by simpa using whole)) (.of_eq ?_) (by simpa using o.routed)
    show Log.taken _ ++ (d.outbound.push frame).2.items = _
    simp [Queue.items_push_of_queued hq, ← taken]
  | finish =>
    have forwarded := (List.prefix_append _ _).trans o.forwarded.cut
    have routed := (List.prefix_append _ _).trans o.routed.cut
    simp only [Option.toList_none, List.append_nil]
    exact { o with
      drained := fun h => absurd rfl h
      forwarded := ⟨by simpa [Dispatch.finish] using forwarded, fun h => absurd rfl h⟩
      routed.cut := by simpa [Dispatch.finish, Queue.closeReceiving] using routed
      routed.whole := fun h => by cases h }
  | @enter s hs hq =>
    have queue : Log.entered (log ++ [.entered s])
        = Log.left (log ++ [.entered s]) ++ (d.submissions.push s).2.items := by
      simp [Queue.items_push_of_queued hq, o.queue]
    exact {
      space := o.space
      queue
      left := by simpa using o.left
      drained := fun h => by simpa using o.drained h
      syncs := by simpa using o.syncs
      counter := by simpa using o.counter
      forwarded := by simpa using o.forwarded
      taken := by simpa using o.taken
      routed := by simpa using o.routed }
  | @arrive r hq =>
    have routed := o.routed.whole ((Queue.push_queued_iff _ _).mp hq).2.1
    refine o.other (by simp) ⟨rfl, rfl, rfl⟩ id (by simpa using o.forwarded)
      (by simpa using o.taken) (.of_eq ?_)
    show Log.routed _ ++ (d.responses.push r).2.items = _
    simp [Queue.items_push_of_queued hq, ← routed]
  | @take frame outbound hq =>
    have taken := o.taken
    rw [Queue.items_pop? hq, ← Queue.receiving_pop? hq] at taken
    exact o.other (by simp) ⟨rfl, rfl, rfl⟩ id (by simpa using o.forwarded)
      (by simpa using taken) (by simpa using o.routed)
  | @shutSubmissions submissions hq =>
    simp only [Option.toList_none, List.append_nil]
    exact { o with queue := hq ▸ o.queue }
  | closeOutbound =>
    have taken := (List.prefix_append _ _).trans o.taken.cut
    simp only [Option.toList_none, List.append_nil]
    exact { o with
      taken.cut := by simpa [Dispatch.closeOutbound, Queue.closeReceiving] using taken
      taken.whole := fun h => by cases h }
  | giveUp hp =>
    exact o.other (by simp) ⟨rfl, rfl, rfl⟩ id (by simpa using o.forwarded)
      (by simpa using o.taken) (by simpa using o.routed)
  | @drain s submissions hp hq =>
    have queue := o.queue
    rw [Queue.items_pop? hq] at queue
    exact {
      space := o.space
      queue := by simp [queue]
      left := by simp [o.left]
      drained := fun h => absurd hp h
      syncs := by simpa using o.syncs
      counter := by simpa using o.counter
      forwarded := by simpa using o.forwarded
      taken := by simpa using o.taken
      routed := by simpa using o.routed }
  | _ =>
    simp only [Option.toList_none, List.append_nil]
    exact { o with }

end InOrder

/-- **Every course is in order.** -/
theorem Course.inOrder {d₀ d : Dispatch} {log : Log} (h : Blank d₀) (c : Course d₀ log d) :
    InOrder d₀ log d := by
  induction c with
  | start => exact .start h
  | step _ m ih => exact ih.move m

end Muxwire.Mux.Dispatch
