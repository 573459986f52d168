import Muxwire.Proofs.Pipeline.Course

/-!
# The order on the wire

**`run_wireOrder`** -- in every run of the pipeline, whatever the socket accepts at a time, wherever
it fails and whenever the stop signal fires: what is on the wire are the frames of the accepted
queries, in the order in which they were submitted, each whole and flushed before the next begins.
A query that cannot be packed has its sync and no octet.

`serves_of_run` and `inFull_of_run` link the stages: the outbound stage serves the frames that were
taken, and those are a front part of the frames that the dispatch stage queued (`InOrder.taken`,
`InOrder.forwarded`).
-/

namespace Muxwire.Mux

open Request Wire

namespace Pipeline

open Dispatch

variable {log : Log} {p p' : Pipeline}

/-- Only the outbound stage takes frames. -/
theorem taken_observe (a : Action) (p : Pipeline) :
    (observe a p).taken =
      match a with
      | .outbound a => (Outbound.taken? a p.outboundView).toList
      | _ => [] := by
  cases a with
  | outbound a =>
    cases a with
    | take =>
      cases hq : p.dispatch.outbound.pop? <;>
        simp [observe, hq, Outbound.taken?, outboundView, Log.taken]
    | _ => rfl
  | _ =>
    refine List.filterMap_eq_nil_iff.mpr ?_
    intro x hx
    cases adds_of_mem_observe hx <;> rfl

/-- **The outbound stage serves the frames that were taken**, in every run. -/
theorem serves_of_run {d₀ : Dispatch} (run : Run (.start d₀) log p) :
    Outbound.Serves p.outbound log.taken := by
  induction run with
  | start => exact Outbound.serves_start
  | @step log p p' a _ ha ih =>
    rw [Log.taken_append, taken_observe]
    cases a with
    | outbound a =>
      obtain ⟨v, hv, rfl⟩ := Option.map_eq_some_iff.mp ha
      exact ih.step (Outbound.step_of_act hv)
    | _ =>
      rw [List.append_nil, (untouched_of_act ha).outbound nofun]
      exact ih

/-- **What was written are frames of the accepted queries, in order**, in every run. -/
theorem inFull_of_run {d₀ : Dispatch} (blank : Blank d₀) (run : Run (.start d₀) log p) :
    Outbound.InFull p.outbound (log.frames d₀.space) := by
  have order := (sound_of_run blank run).course.inOrder blank
  have taken : log.taken <+: log.forwarded := (List.prefix_append _ _).trans order.taken.cut
  have forwarded : log.forwarded <+: log.frames d₀.space :=
    (List.prefix_append _ _).trans order.forwarded.cut
  exact (serves_of_run run).inFull.mono (taken.trans forwarded)

/-- What is on the wire after a log, for a default space and a counter at the start. -/
structure WireOrder (space : String) (counter : SyncCounter) (log : Log) (p : Pipeline) : Prop where
  /-- Submissions are accepted in the order in which they were queued. -/
  accepted : log.accepted.map Prod.snd <+: log.entered
  /-- The `k`-th one accepted has the `k`-th sync, whether or not it can be packed. -/
  syncs : log.accepted.map Prod.fst = counter.take log.accepted.length
  /-- What was written between two flushes is one frame each, in the order of acceptance, and what
  was written since is a front part of the next frame. -/
  inFull : Outbound.InFull p.outbound (log.frames space)
  /-- All together it is a front part of all frames. -/
  written : p.outbound.written <+: (log.frames space).flatten

/-- **On the wire are the frames of the accepted queries in order**, in every run of the
pipeline. -/
theorem run_wireOrder {submissions responses outbound : Nat} {intake : Intake} {space : String}
    {counter : SyncCounter}
    (run : Run (.start (.new submissions responses outbound intake space counter)) log p) :
    WireOrder space counter log p := by
  have blank := blank_new submissions responses outbound intake space counter
  have order := (sound_of_run blank run).course.inOrder blank
  have inFull : Outbound.InFull p.outbound (log.frames space) := inFull_of_run blank run
  refine ⟨?_, order.syncs, inFull, inFull.written_front⟩
  rw [order.queue, order.left, List.append_assoc]
  exact List.prefix_append _ _

/-- With a query between two pings that cannot be packed, and the second frame written in part. -/
theorem run_wireOrder_pings : ∃ log p, Run (.start (.new 3 1 1 ⟨1⟩ "" .new)) log p
    ∧ log.accepted.length = 3 ∧ p.outbound.written.length = 18 ∧ WireOrder "" .new log p := by
  have run : Run (.start (.new 3 1 1 ⟨1⟩ "" .new)) _ _ := Logged.of_follow
    [.submit .ping, .submit (.custom 1 fun _ buffer => ⟨buffer, some (.encode "refused")⟩),
      .submit .ping, .dispatch .look, .dispatch .takeSubmission, .dispatch .forward,
      .outbound .take, .outbound (.accept 3), .dispatch .look, .dispatch .takeSubmission,
      .outbound (.accept 11), .outbound .flush, .dispatch .look, .dispatch .takeSubmission,
      .dispatch .forward, .outbound .take, .outbound (.accept 4), .trigger, .outbound .stop] rfl
  exact ⟨_, _, run, rfl, rfl, run_wireOrder run⟩

end Pipeline

end Muxwire.Mux
