import Muxwire.Mux.Intake
import Muxwire.Mux.Ledger
import Muxwire.Mux.Queue
import Muxwire.Mux.Settle
import Muxwire.Mux.StopSignal
import Muxwire.Mux.SyncCounter
import Muxwire.Request.Query

/-!
# The dispatch stage

From submitted queries to frames, and from responses to the callers that wait for them.

    submissions ──┐                 ┌──▶ outbound frames
                  ├──▶ dispatch ────┤
    responses  ───┘                 └──▶ replies

* The stage looks at the gate, then waits for whatever comes first: the stop signal, a submission
  (if the gate was open) or a response.
* A submission gets the next sync. Whoever still waits for that sync is given up. A query that
  cannot be packed is answered with its error at once; else its ticket goes on the table and its
  frame to the outbound queue, where the stage waits for room.
* The stage ends when the stop signal fires or a queue is finished or has no receiver. What it
  leaves, tickets on the table and submissions in the queue, `failAll` answers with
  `Error.connectionClosed`.
-/

namespace Muxwire.Mux

open Wire Request

/-- A submitted query and the ticket of its reply slot. -/
structure Submission where
  query : Query
  ticket : Ticket

/-- Where the stage stands. -/
inductive Dispatch.Phase where
  /-- Before a look at the gate. -/
  | ready
  /-- Waits for what comes first; `accepting` tells whether that may be a submission. -/
  | selecting (accepting : Bool)
  /-- Waits for room for a frame in the outbound queue. -/
  | forwarding (frame : Octets)
  | ended
  deriving DecidableEq, Repr

/-- The stage with its queues. -/
structure Dispatch where
  phase : Dispatch.Phase
  submissions : Queue Submission
  responses : Queue Response
  outbound : Queue Octets
  stop : StopSignal
  ledger : Ledger
  counter : SyncCounter
  intake : Intake
  /-- The default space of queries. -/
  space : String

namespace Dispatch

/-- What the stage may do. -/
inductive Action where
  /-- Looks at the gate. -/
  | look
  /-- Takes a submission, or notices that there will be none. -/
  | takeSubmission
  /-- Takes a response, or notices that there will be none. -/
  | takeResponse
  /-- Queues the frame at hand, or notices that nobody takes it. -/
  | forward
  /-- Follows the stop signal. -/
  | stop
  deriving DecidableEq, Repr

/-- A stage that has done nothing, with queues of the given capacities. -/
def new (submissions responses outbound : Nat) (intake : Intake) (space : String)
    (counter : SyncCounter) : Dispatch where
  phase := .ready
  submissions := .new submissions
  responses := .new responses
  outbound := .new outbound
  stop := .new
  ledger := .empty
  counter := counter
  intake := intake
  space := space

/-- The stage ends: it takes no more responses and sends no more frames. -/
def finish (d : Dispatch) : Dispatch :=
  { d with
    phase := .ended
    responses := d.responses.closeReceiving
    outbound := d.outbound.closeSending }

/-- The error of a caller whose sync is issued again. -/
def reissued (sync : UInt32) : Error :=
  .connection s!"request id {sync.toNat} reissued while pending"

/-- Gives a submission the next sync and packs its query. -/
def accept (s : Submission) (d : Dispatch) : Dispatch :=
  let (sync, counter) := d.counter.next
  let ledger := (d.ledger.evict sync (reissued sync)).2
  match s.query.pack sync d.space with
  | .error e => { d with phase := .ready, counter, ledger := ledger.deliver s.ticket (.error e) }
  | .ok frame =>
    { d with phase := .forwarding frame, counter, ledger := ledger.register sync s.ticket }

/-- One action, if it is possible. -/
def act (a : Action) (d : Dispatch) : Option Dispatch :=
  match a, d.phase with
  | .look, .ready => some { d with phase := .selecting (d.intake.isOpen d.responses.size) }
  | .takeSubmission, .selecting true =>
    match d.submissions.pop? with
    | some (s, submissions) => some (accept s { d with submissions })
    | none => if d.submissions.isFinished then some d.finish else none
  | .takeResponse, .selecting _ =>
    match d.responses.pop? with
    | some (r, responses) =>
      some { d with phase := .ready, responses, ledger := (d.ledger.complete r).2 }
    | none => if d.responses.isFinished then some d.finish else none
  | .forward, .forwarding frame =>
    match d.outbound.push frame with
    | (.queued, outbound) => some { d with phase := .ready, outbound }
    | (.full, _) => none
    | (.closed, _) => some d.finish
  | .stop, .selecting _ | .stop, .forwarding _ => if d.stop.fired then some d.finish else none
  | _, _ => none

/-- The next step of the stage on its own. -/
def advance (d : Dispatch) : Option Dispatch :=
  firstEnabled act [.look, .forward, .stop, .takeResponse, .takeSubmission] d

/-- The steps that a phase allows before something is taken. -/
def Phase.weight : Phase → Nat
  | .ready => 2
  | .selecting _ => 1
  | .forwarding _ => 3
  | .ended => 0

@[simp] theorem Phase.weight_ended : Phase.ended.weight = 0 := rfl

/-- A bound for the steps that the stage can take before something arrives: three for a submission
and two for a response. -/
def weight (d : Dispatch) : Nat :=
  3 * d.submissions.size + 2 * d.responses.size + d.phase.weight

theorem weight_accept_le (s : Submission) (d : Dispatch) :
    (accept s d).weight ≤ 3 * d.submissions.size + 2 * d.responses.size + 3 := by
  unfold accept
  split
  dsimp only
  split <;> simp [weight, Phase.weight]

theorem weight_finish_lt {d : Dispatch} (h : d.phase.weight ≠ 0) : d.finish.weight < d.weight := by
  simp only [finish, weight, Phase.weight_ended, Queue.closeReceiving, Queue.size, List.length_nil]
  omega

/-- **Every action of the stage lowers its weight.** -/
theorem weight_act_lt {a : Action} {d d' : Dispatch} (h : act a d = some d') :
    d'.weight < d.weight := by
  unfold act at h
  split at h
  · rename_i hp
    cases h
    simp [weight, hp, Phase.weight]
  · rename_i hp
    split at h
    · rename_i s q hq
      cases h
      have := Queue.size_pop? hq
      have hle := weight_accept_le s { d with submissions := q }
      simp only [weight, hp, Phase.weight] at hle ⊢
      omega
    · split at h
      · cases h
        exact weight_finish_lt (by simp [hp, Phase.weight])
      · cases h
  · rename_i hp
    split at h
    · rename_i r q hq
      cases h
      have := Queue.size_pop? hq
      simp only [weight, hp, Phase.weight]
      omega
    · split at h
      · cases h
        exact weight_finish_lt (by simp [hp, Phase.weight])
      · cases h
  · rename_i hp
    split at h
    · cases h
      simp [weight, hp, Phase.weight]
    · cases h
    · cases h
      exact weight_finish_lt (by simp [hp, Phase.weight])
  · rename_i hp
    split at h
    · cases h
      exact weight_finish_lt (by simp [hp, Phase.weight])
    · cases h
  · rename_i hp
    split at h
    · cases h
      exact weight_finish_lt (by simp [hp, Phase.weight])
    · cases h
  · cases h

theorem weight_advance_lt {d d' : Dispatch} (h : d.advance = some d') : d'.weight < d.weight :=
  have ⟨_, _, hact⟩ := exists_of_firstEnabled h
  weight_act_lt hact

/-- The stage after all the steps that it can take on its own. -/
def run (d : Dispatch) : Dispatch :=
  settle advance d.weight d

/-- **A stage that ran can do nothing more.** -/
theorem advance_run (d : Dispatch) : d.run.advance = none :=
  advance_settle weight (fun _ _ => weight_advance_lt) (Nat.le_refl _)

/-! ## The world around -/

/-- A caller submits a query: its ticket, and whether the query was queued. A query that was not
is dropped, and its caller finds the connection closed. -/
def submit (d : Dispatch) (q : Query) : Admission × Dispatch :=
  let (ticket, ledger) := d.ledger.openSlot
  match d.submissions.push ⟨q, ticket⟩ with
  | (.queued, submissions) => (.queued, { d with submissions, ledger })
  | (refusal, _) => (refusal, { d with ledger := ledger.deliver ticket (.error .connectionClosed) })

/-- A response arrives. -/
def respond (d : Dispatch) (r : Response) : Admission × Dispatch :=
  let (admission, responses) := d.responses.push r
  (admission, { d with responses })

/-- Takes up to `n` frames off the outbound queue. -/
def takeFrames (d : Dispatch) (n : Nat) : List Octets × Dispatch :=
  let (frames, outbound) := d.outbound.takeUpTo n
  (frames, { d with outbound })

/-- The stop signal is triggered; the answer is whether it fired by this. -/
def trigger (d : Dispatch) : Bool × Dispatch :=
  let (first, stop) := d.stop.trigger
  (first, { d with stop })

/-- A caller stops waiting. -/
def abandon (d : Dispatch) (t : Ticket) : Dispatch :=
  { d with ledger := d.ledger.abandon t }

/-- No more queries will be submitted. -/
def closeSubmissions (d : Dispatch) : Dispatch :=
  { d with submissions := d.submissions.closeSending }

/-- No more responses will arrive. -/
def closeResponses (d : Dispatch) : Dispatch :=
  { d with responses := d.responses.closeSending }

/-- Nobody takes frames any more. -/
def closeOutbound (d : Dispatch) : Dispatch :=
  { d with outbound := d.outbound.closeReceiving }

/-- What may happen to the stage: its own actions, and what the world around does. -/
inductive Event where
  | acts (a : Action)
  | submit (query : Query)
  | respond (response : Response)
  | takeFrames (count : Nat)
  | trigger
  | abandon (ticket : Ticket)
  | closeSubmissions
  | closeResponses
  | closeOutbound

/-- The stage after an event, if the event is possible. -/
def occur (e : Event) (d : Dispatch) : Option Dispatch :=
  match e with
  | .acts a => act a d
  | .submit q => some (d.submit q).2
  | .respond r => some (d.respond r).2
  | .takeFrames n => some (d.takeFrames n).2
  | .trigger => some d.trigger.2
  | .abandon t => some (d.abandon t)
  | .closeSubmissions => some d.closeSubmissions
  | .closeResponses => some d.closeResponses
  | .closeOutbound => some d.closeOutbound

/-- The states that the stage can come to from `d`. -/
inductive Reachable (d : Dispatch) : Dispatch → Prop where
  | refl : Reachable d d
  | step {b c : Dispatch} (e : Event) : Reachable d b → occur e b = some c → Reachable d c

/-- Whether the stage has ended. -/
def isEnded (d : Dispatch) : Bool :=
  d.phase = .ended

/-- After the end: answers everyone on the table and every submission left in the queue with
`Error.connectionClosed`, and closes the queue. The answer is how many they were. -/
def failAll (d : Dispatch) : Nat × Dispatch :=
  let (registered, ledger) := d.ledger.failAll .connectionClosed
  let queued := d.submissions.items.map Submission.ticket
  (registered + queued.length,
    { d with
      ledger := ledger.deliverAll .connectionClosed queued
      submissions := d.submissions.closeReceiving })

end Dispatch

end Muxwire.Mux
