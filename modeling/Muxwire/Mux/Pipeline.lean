import Muxwire.Mux.Dispatch
import Muxwire.Mux.Inbound
import Muxwire.Mux.Outbound

/-!
# The pipeline

The three stages of a connection, the callers before it, and its end.

    callers ──▶ submissions ──▶ dispatch ──▶ outbound frames ──▶ outbound stage ──▶ server
       ▲                        │      ▲
       └─────── replies ────────┘      └──── responses ◀── inbound stage ◀── server

* `act` is one atomic step: of a stage, of a caller, of the server, or of the supervisor. A run is
  any sequence of possible steps (`Reachable`).
* A caller whose query finds the queue full is parked until there is room; the stop signal sends it
  away, and its query is never packed.
* A stage runs in a task of its own, which triggers the stop signal when the stage has ended. Once
  all three tasks are over, the supervisor answers everything that is left and then reports the
  connection closed.
-/

namespace Muxwire.Mux

open Request Wire

/-- The three stages. -/
inductive Stage where
  | inbound
  | dispatch
  | outbound
  deriving DecidableEq, Repr

/-- The life of a connection. -/
inductive Lifecycle where
  | running
  | closing
  | closed
  deriving DecidableEq, Repr

/-- A connection at work. -/
structure Pipeline where
  /-- The dispatch stage with all queues, reply slots and the stop signal. -/
  dispatch : Dispatch
  inbound : Inbound
  outbound : Outbound
  /-- Submissions of callers that wait for room, first to last. -/
  parked : List Submission
  /-- The tickets of callers that were sent away. -/
  refused : List Ticket
  /-- The stages whose tasks are over. -/
  exited : List Stage
  /-- Whether everything left over was answered. -/
  drained : Bool
  closed : Bool

namespace Pipeline

/-- A connection at its start. -/
def start (d : Dispatch) : Pipeline where
  dispatch := d
  inbound := .start
  outbound := .start
  parked := []
  refused := []
  exited := []
  drained := false
  closed := false

/-! ## 1. Views of the stages -/

/-- What the inbound stage sees. -/
def inboundView (p : Pipeline) : Inbound.View :=
  ⟨p.inbound, p.dispatch.responses, p.dispatch.stop⟩

/-- The pipeline after a step of the inbound stage. -/
def putInbound (p : Pipeline) (v : Inbound.View) : Pipeline :=
  { p with inbound := v.stage, dispatch.responses := v.responses }

/-- What the outbound stage sees. -/
def outboundView (p : Pipeline) : Outbound.View :=
  ⟨p.outbound, p.dispatch.outbound, p.dispatch.stop⟩

/-- The pipeline after a step of the outbound stage. -/
def putOutbound (p : Pipeline) (v : Outbound.View) : Pipeline :=
  { p with outbound := v.stage, dispatch.outbound := v.frames }

/-- Whether a stage has ended. -/
def hasEnded (p : Pipeline) : Stage → Bool
  | .inbound => p.inbound.result?.isSome
  | .dispatch => p.dispatch.isEnded
  | .outbound => p.outbound.result?.isSome

/-- Whether the task of a stage is over. -/
def hasExited (p : Pipeline) (stage : Stage) : Bool :=
  p.exited.contains stage

/-- Whether the tasks of all stages are over. -/
def allExited (p : Pipeline) : Bool :=
  p.hasExited .inbound && p.hasExited .dispatch && p.hasExited .outbound

theorem allExited_iff (p : Pipeline) :
    p.allExited = true ↔ ∀ stage, p.hasExited stage = true := by
  simp only [allExited, Bool.and_eq_true]
  refine ⟨fun h stage => ?_, fun h => ⟨⟨h .inbound, h .dispatch⟩, h .outbound⟩⟩
  cases stage with
  | inbound => exact h.1.1
  | dispatch => exact h.1.2
  | outbound => exact h.2

/-- Where the connection stands. -/
def lifecycle (p : Pipeline) : Lifecycle :=
  if p.closed then .closed else if p.dispatch.stop.fired then .closing else .running

/-! ## 2. Steps -/

/-- What may happen. -/
inductive Action where
  | inbound (a : Inbound.Action)
  | dispatch (a : Dispatch.Action)
  | outbound (a : Outbound.Action)
  /-- Octets of the server arrive. -/
  | arrive (octets : Octets)
  /-- The server ends its side, or the stream fails. -/
  | serverEnds (ending : Ending)
  /-- A caller submits a query. -/
  | submit (query : Query)
  /-- There is room for the caller parked first. -/
  | enter
  /-- The caller parked first sees the stop signal. -/
  | sendAway
  /-- A caller stops waiting for its reply. -/
  | abandon (ticket : Ticket)
  /-- A caller closes or drops the connection. -/
  | trigger
  /-- The task of a stage that ended triggers the stop signal, and is over. -/
  | stageEnds (stage : Stage)
  /-- The supervisor, who waited for all tasks, answers everything left. -/
  | drain
  /-- The supervisor reports the connection closed. -/
  | report

/-- A caller submits: it is queued, parked or sent away. -/
def submit (q : Query) (p : Pipeline) : Pipeline :=
  let (ticket, ledger) := p.dispatch.ledger.openSlot
  let p := { p with dispatch.ledger := ledger }
  if p.dispatch.stop.fired then { p with refused := ticket :: p.refused }
  else if !p.parked.isEmpty then { p with parked := p.parked ++ [⟨q, ticket⟩] }
  else
    match p.dispatch.submissions.push ⟨q, ticket⟩ with
    | (.queued, submissions) => { p with dispatch.submissions := submissions }
    | (.full, _) => { p with parked := [⟨q, ticket⟩] }
    | (.closed, _) => { p with refused := ticket :: p.refused }

/-- The caller parked first is queued, if there is room and the stop signal has not fired. -/
def enter (p : Pipeline) : Option Pipeline :=
  match p.parked with
  | [] => none
  | s :: parked =>
    if p.dispatch.stop.fired then none
    else
      match p.dispatch.submissions.push s with
      | (.queued, submissions) => some { p with parked, dispatch.submissions := submissions }
      | (.full, _) => none
      | (.closed, _) => some { p with parked, refused := s.ticket :: p.refused }

/-- The caller parked first is sent away once the stop signal has fired. -/
def sendAway (p : Pipeline) : Option Pipeline :=
  match p.parked with
  | [] => none
  | s :: parked =>
    if p.dispatch.stop.fired then some { p with parked, refused := s.ticket :: p.refused } else none

/-- The stop signal is triggered. -/
def trigger (p : Pipeline) : Pipeline :=
  { p with dispatch := p.dispatch.trigger.2 }

/-- The task of a stage is over. The last thing that it does is to trigger the stop signal. -/
def exit (stage : Stage) (p : Pipeline) : Pipeline :=
  { p.trigger with exited := stage :: p.exited }

/-- One step, if it is possible. -/
def act (a : Action) (p : Pipeline) : Option Pipeline :=
  match a with
  | .inbound a => (Inbound.act a p.inboundView).map p.putInbound
  | .dispatch a => (Dispatch.act a p.dispatch).map fun dispatch => { p with dispatch }
  | .outbound a => (Outbound.act a p.outboundView).map p.putOutbound
  | .arrive octets => some (p.putInbound (p.inboundView.arrive octets))
  | .serverEnds ending => some (p.putInbound (p.inboundView.serverEnds ending))
  | .submit q => some (p.submit q)
  | .enter => p.enter
  | .sendAway => p.sendAway
  | .abandon ticket => some { p with dispatch := p.dispatch.abandon ticket }
  | .trigger => some p.trigger
  | .stageEnds stage =>
    if p.hasEnded stage && !p.hasExited stage then some (p.exit stage) else none
  | .drain =>
    if p.allExited && !p.drained then
      some { p with dispatch := p.dispatch.failAll.2, drained := true }
    else none
  | .report => if p.drained then some { p with closed := true } else none

/-- The states that a connection can come to from `p`. -/
inductive Reachable (p : Pipeline) : Pipeline → Prop where
  | refl : Reachable p p
  | step {q r : Pipeline} (a : Action) : Reachable p q → act a q = some r → Reachable p r

end Pipeline

end Muxwire.Mux
