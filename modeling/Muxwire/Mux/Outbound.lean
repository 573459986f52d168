import Muxwire.Error
import Muxwire.Mux.Queue
import Muxwire.Mux.Settle
import Muxwire.Mux.StopSignal

/-!
# The outbound stage

From the queue of frames to the socket.

* The stage takes one frame, writes it whole, in as many pieces as the socket wants, and flushes
  it; only then does it take the next. An empty frame is flushed alone.
* It ends well when the stop signal fires or when the queue is finished. A write or flush that
  fails, and a write of which the socket accepts nothing, end it with that error.

What the socket does with a write or a flush is part of the action, so that a run of the stage is a
run for any socket; `Socket` is a socket with a budget.
-/

namespace Muxwire.Mux

/-- Where the stage stands. -/
inductive Outbound.Phase where
  /-- A frame is awaited. -/
  | idle
  /-- These octets of a frame are still to be written; there is at least one. -/
  | writing (rest : Octets)
  /-- A frame is written and not flushed. -/
  | flushing
  | ended (result : Except Error Unit)

/-- What happened at the socket. -/
inductive SocketEvent where
  | wrote (octets : Octets)
  | flushed
  deriving DecidableEq, Repr

/-- The stage, and what happened at the socket, last to first. -/
structure Outbound where
  phase : Outbound.Phase
  log : List SocketEvent

namespace Outbound

/-- What the stage may do, with the answer of the socket. -/
inductive Action where
  /-- Takes a frame, or notices that the queue is finished. -/
  | take
  /-- The socket accepts this many octets. -/
  | accept (count : Nat)
  | writeFails (fault : IoFault)
  | flush
  | flushFails (fault : IoFault)
  /-- Follows the stop signal. -/
  | stop
  deriving DecidableEq, Repr

/-- The stage before the first frame. -/
def start : Outbound :=
  ⟨.idle, []⟩

/-- The phase for octets that are to be written. -/
def phaseOf (rest : Octets) : Phase :=
  if rest.isEmpty then .flushing else .writing rest

/-- The stage, the queue of frames, and whether the stop signal has fired. -/
structure View where
  stage : Outbound
  frames : Queue Octets
  stop : StopSignal

/-- The stage ends, and with it the receiving side of the queue. -/
def View.finish (v : View) (result : Except Error Unit) : View :=
  { v with stage := { v.stage with phase := .ended result }, frames := v.frames.closeReceiving }

/-- One action, if it is possible. -/
def act (a : Action) (v : View) : Option View :=
  match a, v.stage.phase with
  | .take, .idle =>
    match v.frames.pop? with
    | some (frame, frames) => some { v with frames, stage.phase := phaseOf frame }
    | none => if v.frames.isFinished then some (v.finish (.ok ())) else none
  | .accept count, .writing rest =>
    if count = 0 then some (v.finish (.error (.io .writeZero)))
    else if count ≤ rest.length then
      some { v with
        stage := ⟨phaseOf (rest.drop count), .wrote (rest.take count) :: v.stage.log⟩ }
    else none
  | .writeFails fault, .writing _ => some (v.finish (.error (.io fault)))
  | .flush, .flushing => some { v with stage := ⟨.idle, .flushed :: v.stage.log⟩ }
  | .flushFails fault, .flushing => some (v.finish (.error (.io fault)))
  | .stop, .idle | .stop, .writing _ | .stop, .flushing =>
    if v.stop.fired then some (v.finish (.ok ())) else none
  | _, _ => none

end Outbound

/-! ## The world around -/

namespace Outbound

/-- A frame is offered. -/
def View.push (v : View) (frame : Octets) : Admission × View :=
  let (admission, frames) := v.frames.push frame
  (admission, { v with frames })

/-- No more frames will be offered. -/
def View.closeFrames (v : View) : View :=
  { v with frames := v.frames.closeSending }

/-- The stop signal is triggered; the answer is whether it fired by this. -/
def View.trigger (v : View) : Bool × View :=
  let (first, stop) := v.stop.trigger
  (first, { v with stop })

/-- What may happen to the stage: its own actions, and what the world around does. -/
inductive Event where
  | acts (a : Action)
  | push (frame : Octets)
  | closeFrames
  | trigger

/-- The stage after an event, if the event is possible. -/
def View.occur (v : View) : Event → Option View
  | .acts a => act a v
  | .push frame => some (v.push frame).2
  | .closeFrames => some v.closeFrames
  | .trigger => some v.trigger.2

/-- How the stage ended, if it did. -/
def result? (s : Outbound) : Option (Except Error Unit) :=
  match s.phase with
  | .ended result => some result
  | _ => none

theorem isSome_result?_iff (s : Outbound) :
    s.result?.isSome = true ↔ ∃ result, s.phase = .ended result := by
  cases hp : s.phase <;> simp [result?, hp]

end Outbound

/-! ## A socket with a budget -/

/-- A socket that accepts a limited number of octets. -/
structure Socket where
  /-- How many octets it still accepts; no limit if none is given. -/
  budget : Option Nat
  /-- The fault of the first write beyond the budget. -/
  fault : Option IoFault
  /-- Whether writes beyond the budget accept nothing; otherwise they block. -/
  acceptsNothing : Bool
  /-- The fault of the next flush. -/
  flushFault : Option IoFault
  deriving DecidableEq, Repr

namespace Socket

/-- The answer to a write of `n` octets, at least one; none while the write blocks. -/
def write? (s : Socket) (n : Nat) : Option (Outbound.Action × Socket) :=
  match s.budget with
  | none => some (.accept n, s)
  | some 0 =>
    match s.fault with
    | some fault => some (.writeFails fault, { s with fault := none })
    | none => if s.acceptsNothing then some (.accept 0, s) else none
  | some budget => some (.accept (min budget n), { s with budget := some (budget - min budget n) })

/-- The answer to a flush. -/
def flush (s : Socket) : Outbound.Action × Socket :=
  match s.flushFault with
  | some fault => (.flushFails fault, { s with flushFault := none })
  | none => (.flush, s)

end Socket

namespace Outbound

/-- The stage at a socket with a budget. -/
structure Bench where
  view : View
  socket : Socket

/-- The answer of the socket to what the stage is about to do with it. -/
def Bench.answer? (b : Bench) : Option (Action × Socket) :=
  match b.view.stage.phase with
  | .writing rest => b.socket.write? rest.length
  | .flushing => some b.socket.flush
  | _ => none

/-- The next step that writes or flushes the frame at hand. -/
def Bench.transmit (b : Bench) : Option Bench := do
  let (a, socket) ← b.answer?
  let view ← act a b.view
  some ⟨view, socket⟩

/-- The next step of the stage on its own. -/
def Bench.advance (b : Bench) : Option Bench :=
  match act .stop b.view with
  | some view => some { b with view }
  | none =>
    match act .take b.view with
    | some view => some { b with view }
    | none => b.transmit

/-- The steps that a phase allows before a frame is taken. -/
def Phase.weight : Phase → Nat
  | .idle => 1
  | .writing rest => rest.length + 2
  | .flushing => 2
  | .ended _ => 0

@[simp] theorem Phase.weight_idle : Phase.idle.weight = 1 := rfl

@[simp] theorem Phase.weight_writing (rest : Octets) :
    (Phase.writing rest).weight = rest.length + 2 :=
  rfl

@[simp] theorem Phase.weight_flushing : Phase.flushing.weight = 2 := rfl

@[simp] theorem Phase.weight_ended (result : Except Error Unit) : (Phase.ended result).weight = 0 :=
  rfl

/-- A bound for the steps that the stage can take before a frame is offered. -/
def View.weight (v : View) : Nat :=
  v.frames.items.flatten.length + 2 * v.frames.items.length + v.stage.phase.weight

theorem weight_phaseOf_le (rest : Octets) : (phaseOf rest).weight ≤ rest.length + 2 := by
  unfold phaseOf
  split <;> simp

theorem View.weight_finish_lt {v : View} (result : Except Error Unit)
    (h : v.stage.phase.weight ≠ 0) : (v.finish result).weight < v.weight := by
  simp only [View.weight, View.finish, Phase.weight_ended, Queue.closeReceiving,
    List.flatten_nil, List.length_nil]
  omega

/-- **Every action of the stage lowers its weight.** -/
theorem View.weight_act_lt {a : Action} {v v' : View} (h : act a v = some v') :
    v'.weight < v.weight := by
  unfold act at h
  split at h
  · rename_i hp
    split at h
    · rename_i frame frames hq
      cases h
      have hi := Queue.items_pop? hq
      have := weight_phaseOf_le frame
      simp only [View.weight, hp, hi, Phase.weight_idle, List.flatten_cons, List.length_append,
        List.length_cons]
      omega
    · split at h
      · cases h
        exact View.weight_finish_lt _ (by simp [hp])
      · cases h
  · rename_i count rest hp
    split at h
    · cases h
      exact View.weight_finish_lt _ (by simp [hp])
    · split at h
      · cases h
        have := weight_phaseOf_le (rest.drop count)
        simp only [List.length_drop] at this
        simp only [View.weight, hp, Phase.weight_writing]
        omega
      · cases h
  · rename_i hp
    cases h
    exact View.weight_finish_lt _ (by simp [hp])
  · rename_i hp
    cases h
    simp [View.weight, hp]
  · rename_i hp
    cases h
    exact View.weight_finish_lt _ (by simp [hp])
  · rename_i hp
    split at h
    · cases h
      exact View.weight_finish_lt _ (by simp [hp])
    · cases h
  · rename_i hp
    split at h
    · cases h
      exact View.weight_finish_lt _ (by simp [hp])
    · cases h
  · rename_i hp
    split at h
    · cases h
      exact View.weight_finish_lt _ (by simp [hp])
    · cases h
  · cases h

theorem Bench.weight_transmit_lt {b b' : Bench} (h : b.transmit = some b') :
    b'.view.weight < b.view.weight := by
  simp only [Bench.transmit, Option.bind_eq_bind, Option.bind_eq_some_iff] at h
  obtain ⟨⟨a, socket⟩, -, view, hact, h⟩ := h
  cases h
  exact View.weight_act_lt hact

theorem Bench.weight_advance_lt {b b' : Bench} (h : b.advance = some b') :
    b'.view.weight < b.view.weight := by
  unfold Bench.advance at h
  split at h
  · rename_i hact
    cases h
    exact View.weight_act_lt hact
  · split at h
    · rename_i hact
      cases h
      exact View.weight_act_lt hact
    · exact Bench.weight_transmit_lt h

/-- The stage after all the steps that it can take on its own. -/
def Bench.run (b : Bench) : Bench :=
  settle Bench.advance b.view.weight b

/-- **A stage that ran can do nothing more** until something is offered or the socket changes. -/
theorem Bench.advance_run (b : Bench) : b.run.advance = none :=
  advance_settle (·.view.weight) (fun _ _ => Bench.weight_advance_lt) (Nat.le_refl _)

/-- One frame written and flushed on its own, as far as the socket lets it. -/
def Bench.transmitFrame (frame : Octets) (socket : Socket) : Bench :=
  let view : View := ⟨⟨phaseOf frame, []⟩, .new 1, .new⟩
  settle Bench.transmit view.weight ⟨view, socket⟩

/-- All octets written, in order. -/
def written (s : Outbound) : Octets :=
  s.log.reverse.flatMap fun
    | .wrote octets => octets
    | .flushed => []

/-- The number of flushes. -/
def flushes (s : Outbound) : Nat :=
  s.log.count .flushed

end Outbound

end Muxwire.Mux
