import Muxwire.Mux.Ledger
import Muxwire.Mux.Queue
import Muxwire.Mux.Settle
import Muxwire.Mux.StopSignal
import Muxwire.Wire.Source

/-!
# The inbound stage

From the octets that arrive at the socket to the queue of responses.

* The stage takes one frame after the other, decodes its body, and offers the response to the
  queue, waiting while the queue is full. It reads nothing more until the response is queued.
* It ends well when the stop signal fires, when the stream ends (inside a frame, too), or when
  nobody takes responses any more. A frame or a body that is malformed, or a fault of the stream,
  ends it with that error: from there on the position in the stream means nothing.
-/

namespace Muxwire.Mux

open Wire

/-- Where the stage stands. -/
inductive Inbound.Phase where
  /-- A frame is awaited. -/
  | reading
  /-- A response waits for room in the queue. -/
  | offering (response : Response)
  | ended (result : Except Error Unit)

/-- The stage and its side of the socket. -/
structure Inbound where
  phase : Inbound.Phase
  /-- What has arrived and is not read yet. -/
  arrived : Octets
  /-- The fault that the socket reports once all that arrived is read. -/
  fault : Option IoFault
  /-- Whether the stream ends once all that arrived is read. -/
  closing : Bool

namespace Inbound

/-- What the stage may do. -/
inductive Action where
  /-- Takes a frame off what arrived, and its response out of it. -/
  | read
  /-- Notices that the stream has ended. -/
  | hitEnd
  /-- Queues the response that is offered, or notices that nobody takes it. -/
  | offer
  /-- Follows the stop signal. -/
  | stop
  deriving DecidableEq, Repr

/-- The stage before anything arrived. -/
def start : Inbound :=
  ⟨.reading, [], none, false⟩

/-- The end of the stream, if it is known. -/
def ending? (s : Inbound) : Option Ending :=
  match s.fault with
  | some fault => some (.fault fault)
  | none => if s.closing then some .eof else none

/-- What the error that ended the reading makes of the stage: the end of a stream is no error. -/
def resultOf : Error → Except Error Unit
  | .connectionClosed => .ok ()
  | e => .error e

/-- The stage, the queue of responses, and whether the stop signal has fired. -/
structure View where
  stage : Inbound
  responses : Queue Response
  stop : StopSignal

/-- The stage ends, and with it the sending side of the queue. -/
def View.finish (v : View) (result : Except Error Unit) : View :=
  { v with stage := { v.stage with phase := .ended result }, responses := v.responses.closeSending }

/-- One action, if it is possible. -/
def act (a : Action) (v : View) : Option View :=
  match a, v.stage.phase with
  | .read, .reading =>
    match split v.stage.arrived with
    | .incomplete => none
    | .bad fault rest =>
      some ({ v with stage.arrived := rest }.finish (.error (.protocol fault.message)))
    | .frame body rest =>
      let v := { v with stage.arrived := rest }
      match Response.decode body with
      | .error e => some (v.finish (.error e))
      | .ok r => some { v with stage.phase := .offering r }
  | .hitEnd, .reading =>
    match split v.stage.arrived, v.stage.ending? with
    | .incomplete, some ending =>
      some ({ v with stage.arrived := [] }.finish (resultOf (Source.closedAt ending)))
    | _, _ => none
  | .offer, .offering r =>
    match v.responses.push r with
    | (.queued, responses) => some { v with responses, stage.phase := .reading }
    | (.full, _) => none
    | (.closed, _) => some (v.finish (.ok ()))
  | .stop, .reading | .stop, .offering _ => if v.stop.fired then some (v.finish (.ok ())) else none
  | _, _ => none

/-! ## The world around -/

/-- Octets arrive. -/
def View.arrive (v : View) (octets : Octets) : View :=
  { v with stage.arrived := v.stage.arrived ++ octets }

/-- The stream ends once all that arrived is read. -/
def View.serverEnds (v : View) : Ending → View
  | .eof => { v with stage.closing := true }
  | .fault fault => { v with stage.fault := some fault }

/-- Takes up to `n` responses off the queue. -/
def View.takeResponses (v : View) (n : Nat) : List Response × View :=
  let (taken, responses) := v.responses.takeUpTo n
  (taken, { v with responses })

/-- Nobody takes responses any more. -/
def View.closeResponses (v : View) : View :=
  { v with responses := v.responses.closeReceiving }

/-- The stop signal is triggered; the answer is whether it fired by this. -/
def View.trigger (v : View) : Bool × View :=
  let (first, stop) := v.stop.trigger
  (first, { v with stop })

/-- What may happen to the stage: its own actions, and what the world around does. -/
inductive Event where
  | acts (a : Action)
  | arrive (octets : Octets)
  | serverEnds (ending : Ending)
  | takeResponses (count : Nat)
  | closeResponses
  | trigger

/-- The stage after an event, if the event is possible. -/
def View.occur (v : View) : Event → Option View
  | .acts a => act a v
  | .arrive octets => some (v.arrive octets)
  | .serverEnds ending => some (v.serverEnds ending)
  | .takeResponses n => some (v.takeResponses n).2
  | .closeResponses => some v.closeResponses
  | .trigger => some v.trigger.2

/-! ## Running -/

/-- The next step of the stage on its own. -/
def View.advance (v : View) : Option View :=
  firstEnabled act [.stop, .offer, .read, .hitEnd] v

/-- How the stage ended, if it did. -/
def result? (s : Inbound) : Option (Except Error Unit) :=
  match s.phase with
  | .ended result => some result
  | _ => none

theorem isSome_result?_iff (s : Inbound) :
    s.result?.isSome = true ↔ ∃ result, s.phase = .ended result := by
  cases hp : s.phase <;> simp [result?, hp]

/-- The steps that a phase allows before something is read. -/
def Phase.weight : Phase → Nat
  | .reading => 1
  | .offering _ => 2
  | .ended _ => 0

@[simp] theorem Phase.weight_ended (result : Except Error Unit) : (Phase.ended result).weight = 0 :=
  rfl

/-- A bound for the steps that the stage can take before something arrives. -/
def View.weight (v : View) : Nat :=
  v.stage.arrived.length + v.stage.phase.weight

theorem View.weight_finish_lt {v : View} (result : Except Error Unit)
    (h : v.stage.phase.weight ≠ 0) : (v.finish result).weight < v.weight := by
  simp only [View.finish, View.weight, Phase.weight_ended]
  omega

/-- **Every action of the stage lowers its weight.** -/
theorem View.weight_act_lt {a : Action} {v v' : View} (h : act a v = some v') :
    v'.weight < v.weight := by
  unfold act at h
  split at h
  · rename_i hp
    split at h
    · cases h
    · rename_i hs
      have := length_of_split_bad hs
      cases h
      simp only [View.weight, View.finish, hp, Phase.weight]
      omega
    · rename_i hs
      have := length_of_split_frame hs
      simp only [prefixSize] at this
      dsimp only at h
      split at h <;> cases h <;> simp only [View.weight, View.finish, hp, Phase.weight] <;> omega
  · rename_i hp
    split at h
    · cases h
      simp [View.weight, View.finish, hp, Phase.weight]
    · cases h
  · rename_i hp
    split at h
    · cases h
      simp [View.weight, hp, Phase.weight]
    · cases h
    · cases h
      exact View.weight_finish_lt _ (by simp [hp, Phase.weight])
  · rename_i hp
    split at h
    · cases h
      exact View.weight_finish_lt _ (by simp [hp, Phase.weight])
    · cases h
  · rename_i hp
    split at h
    · cases h
      exact View.weight_finish_lt _ (by simp [hp, Phase.weight])
    · cases h
  · cases h

theorem View.weight_advance_lt {v v' : View} (h : v.advance = some v') : v'.weight < v.weight :=
  have ⟨_, _, hact⟩ := exists_of_firstEnabled h
  View.weight_act_lt hact

/-- The stage after all the steps that it can take on its own. -/
def View.run (v : View) : View :=
  settle View.advance v.weight v

/-- **A stage that ran can do nothing more.** -/
theorem View.advance_run (v : View) : v.run.advance = none :=
  advance_settle View.weight (fun _ _ => View.weight_advance_lt) (Nat.le_refl _)

end Inbound

end Muxwire.Mux
