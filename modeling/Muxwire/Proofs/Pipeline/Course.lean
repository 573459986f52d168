import Muxwire.Mux.Pipeline
import Muxwire.Proofs.Dispatch.Teardown
import Muxwire.Proofs.Inbound
import Muxwire.Proofs.Outbound

/-!
# The dispatch stage inside the pipeline

A step of the pipeline is a sequence of moves of its dispatch stage, so that every run of the
pipeline (`Pipeline.Run`) is a course of the stage (`Sound.course`), and what holds of every course
holds in the pipeline. A parked caller has its ticket before it enters; `Sound.parked` keeps its
slot unused until then.

`Step` lists what a step of the pipeline can be; what is proved of every step goes by its cases, and
`Untouched` says what each kind of step leaves alone. The supervisor does not test the stop signal:
that it has fired when the supervisor begins follows from how the tasks end (`Exits`).
-/

namespace Muxwire.Mux.Pipeline

open Request Wire Dispatch

/-- What a step that is possible adds to the log. -/
def observe (a : Action) (p : Pipeline) : Log :=
  match a with
  | .dispatch a => Dispatch.observe (.acts a) p.dispatch
  | .inbound .offer =>
    match p.inbound.phase with
    | .offering r => if (p.dispatch.responses.push r).1 = .queued then [.arrived r] else []
    | _ => []
  | .outbound .take =>
    (p.dispatch.outbound.pop?.map fun (frame, _) => .taken frame).toList
  | .submit q =>
    let s : Submission := ⟨q, p.dispatch.ledger.slots.length⟩
    if p.dispatch.stop.fired = false ∧ p.parked = [] ∧ (p.dispatch.submissions.push s).1 = .queued
    then [.entered s] else []
  | .enter =>
    match p.parked with
    | s :: _ => if (p.dispatch.submissions.push s).1 = .queued then [.entered s] else []
    | [] => []
  | .drain => .givenUp :: p.dispatch.submissions.items.map .drained
  | _ => []

/-- The runs of a pipeline. -/
abbrev Run (p₀ : Pipeline) : Log → Pipeline → Prop :=
  Logged act observe p₀

/-- **The states that have a run are the reachable ones.** -/
theorem reachable_iff_run {p₀ p : Pipeline} : Reachable p₀ p ↔ ∃ log, Run p₀ log p := by
  constructor
  · intro h
    induction h with
    | refl => exact ⟨[], .start⟩
    | step a _ ha ih =>
      obtain ⟨log, run⟩ := ih
      exact ⟨_, .step a run ha⟩
  · rintro ⟨log, run⟩
    induction run with
    | start => exact .refl
    | step a _ ha ih => exact .step a ih ha

/-! ## 1. Who adds what to the log -/

/-- The records that an action may add. -/
inductive Adds : Action → Record → Prop where
  | accepted {sync : UInt32} {s : Submission} :
      Adds (.dispatch .takeSubmission) (.accepted sync s)
  | routed {r : Response} : Adds (.dispatch .takeResponse) (.routed r)
  | forwarded {frame : Octets} : Adds (.dispatch .forward) (.forwarded frame)
  | taken {frame : Octets} : Adds (.outbound .take) (.taken frame)
  | arrived {r : Response} : Adds (.inbound .offer) (.arrived r)
  | submitted {q : Query} {s : Submission} : Adds (.submit q) (.entered s)
  | entered {s : Submission} : Adds .enter (.entered s)
  | givenUp : Adds .drain .givenUp
  | drained {s : Submission} : Adds .drain (.drained s)

/-- **Each kind of record is added by one stage.** -/
theorem adds_of_mem_observe {a : Action} {p : Pipeline} {x : Record} (hx : x ∈ observe a p) :
    Adds a x := by
  cases a with
  | dispatch a =>
    cases a with
    | takeSubmission =>
      obtain ⟨s, -, rfl⟩ := Option.map_eq_some_iff.mp (Option.mem_toList.mp hx)
      exact .accepted
    | takeResponse =>
      obtain ⟨r, -, rfl⟩ := Option.map_eq_some_iff.mp (Option.mem_toList.mp hx)
      exact .routed
    | forward =>
      simp only [observe, Dispatch.observe] at hx
      split at hx
      · split at hx
        · cases List.mem_singleton.mp hx
          exact .forwarded
        · cases hx
      · cases hx
    | _ => cases hx
  | inbound a =>
    cases a with
    | offer =>
      simp only [observe] at hx
      split at hx
      · split at hx
        · cases List.mem_singleton.mp hx
          exact .arrived
        · cases hx
      · cases hx
    | _ => cases hx
  | outbound a =>
    cases a with
    | take =>
      obtain ⟨frame, -, rfl⟩ := Option.map_eq_some_iff.mp (Option.mem_toList.mp hx)
      exact .taken
    | _ => cases hx
  | submit q =>
    simp only [observe] at hx
    split at hx
    · cases List.mem_singleton.mp hx
      exact .submitted
    · cases hx
  | enter =>
    simp only [observe] at hx
    split at hx
    · split at hx
      · cases List.mem_singleton.mp hx
        exact .entered
      · cases hx
    · cases hx
  | drain =>
    rcases List.mem_cons.mp hx with rfl | hx
    · exact .givenUp
    · obtain ⟨s, -, rfl⟩ := List.mem_map.mp hx
      exact .drained
  | _ => cases hx

/-! ## 2. Steps of the other stages, as moves -/

/-- What a step does to the dispatch stage: a move that queues no submission, or nothing. -/
def MoveOrNone (log : Log) (d : Dispatch) (new : Log) (d' : Dispatch) : Prop :=
  (d' = d ∧ new = [])
    ∨ ∃ x, Move log d x d' ∧ new = x.toList ∧ x.bind Record.entered? = none

theorem moveOrNone_inbound (log : Log) {a : Inbound.Action} {p : Pipeline} {v : Inbound.View}
    (st : Inbound.Step p.inboundView a v) :
    MoveOrNone log p.dispatch (observe (.inbound a) p) (p.putInbound v).dispatch := by
  cases st with
  | read => exact .inl ⟨rfl, rfl⟩
  | offer hp hq =>
    have hp : p.inbound.phase = .offering _ := hp
    have hq : (p.dispatch.responses.push _).1 = .queued := hq
    exact .inr ⟨_, .arrive hq, by simp [observe, hp, hq], rfl⟩
  | finish arrived result ha =>
    refine .inr ⟨_, .closeResponses, ?_, rfl⟩
    cases a with
    | offer =>
      cases hp : p.inbound.phase with
      | offering r =>
        have hq : (p.dispatch.responses.push r).1 ≠ .queued := ha r rfl hp
        simp [observe, hp, hq]
      | _ => simp [observe, hp]
    | _ => rfl

theorem moveOrNone_outbound (log : Log) {a : Outbound.Action} {p : Pipeline} {v : Outbound.View}
    (st : Outbound.Step p.outboundView a v) :
    MoveOrNone log p.dispatch (observe (.outbound a) p) (p.putOutbound v).dispatch := by
  cases st with
  | take hp hq =>
    have hq : p.dispatch.outbound.pop? = some (_, _) := hq
    exact .inr ⟨_, .take hq, by simp [observe, hq], rfl⟩
  | accept | flush => exact .inl ⟨rfl, rfl⟩
  | finish result ha =>
    refine .inr ⟨_, .closeOutbound, ?_, rfl⟩
    cases a with
    | take =>
      have hq : p.dispatch.outbound.pop? = none := ha rfl
      simp [observe, hq]
    | _ => rfl

/-! ## 3. What becomes of a caller -/

/-- What becomes of a caller who submits. -/
inductive Submits (q : Query) (p : Pipeline) : Log → Pipeline → Prop where
  | refused : Submits q p [] { p with
      dispatch.ledger := p.dispatch.ledger.openSlot.2
      refused := p.dispatch.ledger.slots.length :: p.refused }
  | parked (running : p.dispatch.stop.fired = false) : Submits q p [] { p with
      dispatch.ledger := p.dispatch.ledger.openSlot.2
      parked := p.parked ++ [⟨q, p.dispatch.ledger.slots.length⟩] }
  | entered (running : p.dispatch.stop.fired = false)
      (hq : (p.dispatch.submissions.push ⟨q, p.dispatch.ledger.slots.length⟩).1 = .queued)
      (hp : p.parked = []) :
      Submits q p [.entered ⟨q, p.dispatch.ledger.slots.length⟩] { p with
        dispatch := { p.dispatch with
          submissions := (p.dispatch.submissions.push ⟨q, p.dispatch.ledger.slots.length⟩).2
          ledger := p.dispatch.ledger.openSlot.2 } }

/-- **A caller who submits is queued, parked or sent away.** -/
theorem submits (q : Query) (p : Pipeline) : Submits q p (observe (.submit q) p) (p.submit q) := by
  by_cases hf : p.dispatch.stop.fired
  · have hs : p.submit q = { p with
        dispatch := { p.dispatch with ledger := p.dispatch.ledger.openSlot.2 }
        refused := p.dispatch.ledger.slots.length :: p.refused } := by
      simp [Pipeline.submit, Ledger.openSlot, hf]
    have ho : observe (.submit q) p = [] := by simp [observe, hf]
    rw [hs, ho]
    exact .refused
  have running : p.dispatch.stop.fired = false := Bool.eq_false_iff.mpr hf
  cases hparked : p.parked with
  | cons s parked =>
    have hs : p.submit q = { p with
        dispatch := { p.dispatch with ledger := p.dispatch.ledger.openSlot.2 }
        parked := p.parked ++ [⟨q, p.dispatch.ledger.slots.length⟩] } := by
      simp [Pipeline.submit, Ledger.openSlot, running, hparked]
    have ho : observe (.submit q) p = [] := by simp [observe, hparked]
    rw [hs, ho]
    exact .parked running
  | nil =>
    cases hq : p.dispatch.submissions.push ⟨q, p.dispatch.ledger.slots.length⟩ with
    | mk admission submissions =>
      have hm : (p.dispatch.submissions.push ⟨q, p.dispatch.ledger.slots.length⟩).1
          = admission := by rw [hq]
      cases admission with
      | queued =>
        have hs : p.submit q = { p with dispatch := { p.dispatch with
            submissions := (p.dispatch.submissions.push ⟨q, p.dispatch.ledger.slots.length⟩).2
            ledger := p.dispatch.ledger.openSlot.2 } } := by
          simp [Pipeline.submit, Ledger.openSlot, running, hparked, hq]
        have ho : observe (.submit q) p = [.entered ⟨q, p.dispatch.ledger.slots.length⟩] := by
          simp [observe, running, hparked, hm]
        rw [hs, ho]
        exact .entered running hm hparked
      | full =>
        have hs : p.submit q = { p with
            dispatch := { p.dispatch with ledger := p.dispatch.ledger.openSlot.2 }
            parked := p.parked ++ [⟨q, p.dispatch.ledger.slots.length⟩] } := by
          simp [Pipeline.submit, Ledger.openSlot, running, hparked, hq]
        have ho : observe (.submit q) p = [] := by simp [observe, hm]
        rw [hs, ho]
        exact .parked running
      | closed =>
        have hs : p.submit q = { p with
            dispatch := { p.dispatch with ledger := p.dispatch.ledger.openSlot.2 }
            refused := p.dispatch.ledger.slots.length :: p.refused } := by
          simp [Pipeline.submit, Ledger.openSlot, running, hparked, hq]
        have ho : observe (.submit q) p = [] := by simp [observe, hm]
        rw [hs, ho]
        exact .refused

/-- What becomes of the caller parked first. -/
inductive Enters (p : Pipeline) : Log → Pipeline → Prop where
  | entered {s : Submission} {parked : List Submission} (running : p.dispatch.stop.fired = false)
      (hp : p.parked = s :: parked) (hq : (p.dispatch.submissions.push s).1 = .queued) :
      Enters p [.entered s]
        { p with parked, dispatch.submissions := (p.dispatch.submissions.push s).2 }
  | refused {s : Submission} {parked : List Submission} (running : p.dispatch.stop.fired = false)
      (hp : p.parked = s :: parked) :
      Enters p [] { p with parked, refused := s.ticket :: p.refused }

/-- **The caller parked first is queued or sent away**, before the stop signal fires. -/
theorem enters {p p' : Pipeline} (ha : p.enter = some p') : Enters p (observe .enter p) p' := by
  unfold Pipeline.enter at ha
  cases hp : p.parked with
  | nil =>
    rw [hp] at ha
    cases ha
  | cons s parked =>
    rw [hp] at ha
    dsimp only at ha
    split at ha
    · cases ha
    · rename_i running
      have running : p.dispatch.stop.fired = false := Bool.eq_false_iff.mpr running
      cases hq : p.dispatch.submissions.push s with
      | mk admission submissions =>
        have hm : (p.dispatch.submissions.push s).1 = admission := by rw [hq]
        rw [hq] at ha
        cases admission with
        | queued =>
          cases ha
          have hr : (p.dispatch.submissions.push s).2 = submissions := by rw [hq]
          subst hr
          have ho : observe .enter p = [.entered s] := by simp [observe, hp, hm]
          rw [ho]
          exact .entered running hp hm
        | full => cases ha
        | closed =>
          cases ha
          have ho : observe .enter p = [] := by simp [observe, hp, hm]
          rw [ho]
          exact .refused running hp

/-! ## 4. Steps -/

/-- Whether an action triggers the stop signal. -/
def Action.triggers : Action → Bool
  | .trigger | .stageEnds _ => true
  | _ => false

/-- What a step of the pipeline can be, and what it adds to the log. -/
inductive Step (p : Pipeline) : Action → Log → Pipeline → Prop where
  | inbound {a : Inbound.Action} {v : Inbound.View} (hv : Inbound.act a p.inboundView = some v) :
      Step p (.inbound a) (observe (.inbound a) p) (p.putInbound v)
  | outbound {a : Outbound.Action} {v : Outbound.View}
      (hv : Outbound.act a p.outboundView = some v) :
      Step p (.outbound a) (observe (.outbound a) p) (p.putOutbound v)
  | dispatch {a : Dispatch.Action} {d : Dispatch} (hd : Dispatch.act a p.dispatch = some d) :
      Step p (.dispatch a) (Dispatch.observe (.acts a) p.dispatch) { p with dispatch := d }
  | arrive (octets : Octets) :
      Step p (.arrive octets) [] (p.putInbound (p.inboundView.arrive octets))
  | serverEnds (ending : Ending) :
      Step p (.serverEnds ending) [] (p.putInbound (p.inboundView.serverEnds ending))
  | submit {q : Query} {new : Log} {p' : Pipeline} (st : Submits q p new p') :
      Step p (.submit q) new p'
  | enter {new : Log} {p' : Pipeline} (st : Enters p new p') : Step p .enter new p'
  | sendAway {s : Submission} {parked : List Submission} (fired : p.dispatch.stop.fired = true)
      (hp : p.parked = s :: parked) :
      Step p .sendAway [] { p with parked, refused := s.ticket :: p.refused }
  | abandon (t : Ticket) : Step p (.abandon t) [] { p with dispatch := p.dispatch.abandon t }
  /-- Whoever triggers the stop signal does nothing else. -/
  | trigger : Step p .trigger [] p.trigger
  | stageEnds {stage : Stage} (ended : p.hasEnded stage = true) :
      Step p (.stageEnds stage) [] (p.exit stage)
  | drain (exited : p.allExited = true) (first : p.drained = false) :
      Step p .drain (.givenUp :: p.dispatch.submissions.items.map .drained)
        { p with dispatch := p.dispatch.failAll.2, drained := true }
  | report (drained : p.drained = true) : Step p .report [] { p with closed := true }

/-- **The steps that are possible are those listed.** -/
theorem step_of_act {a : Action} {p p' : Pipeline} (ha : act a p = some p') :
    Step p a (observe a p) p' := by
  cases a with
  | inbound a =>
    obtain ⟨v, hv, rfl⟩ := Option.map_eq_some_iff.mp ha
    exact .inbound hv
  | outbound a =>
    obtain ⟨v, hv, rfl⟩ := Option.map_eq_some_iff.mp ha
    exact .outbound hv
  | dispatch a =>
    obtain ⟨d, hd, rfl⟩ := Option.map_eq_some_iff.mp ha
    exact .dispatch hd
  | arrive octets =>
    cases ha
    exact .arrive octets
  | serverEnds ending =>
    cases ha
    exact .serverEnds ending
  | submit q =>
    cases ha
    exact .submit (submits q p)
  | enter => exact .enter (enters ha)
  | sendAway =>
    simp only [act, Pipeline.sendAway] at ha
    split at ha
    · cases ha
    · rename_i hp
      split at ha
      · rename_i fired
        cases ha
        exact .sendAway fired hp
      · cases ha
  | abandon t =>
    cases ha
    exact .abandon t
  | trigger =>
    cases ha
    exact .trigger
  | stageEnds stage =>
    simp only [act] at ha
    split at ha
    · rename_i ended
      cases ha
      exact .stageEnds (Bool.and_eq_true_iff.mp ended).1
    · cases ha
  | drain =>
    simp only [act] at ha
    split at ha
    · rename_i hd
      cases ha
      simp only [Bool.and_eq_true, Bool.not_eq_true'] at hd
      exact .drain hd.1 hd.2
    · cases ha
  | report =>
    simp only [act] at ha
    split at ha
    · rename_i drained
      cases ha
      exact .report drained
    · cases ha

/-! ## 5. What a step leaves alone -/

/-- Only their own steps and the server touch the outer stages, only a trigger touches the stop
signal, which stays, only the end of a task is noted as such, and only the supervisor marks the rest
as answered and the connection as closed. -/
structure Untouched (a : Action) (p p' : Pipeline) : Prop where
  inbound : (∀ b, a ≠ .inbound b) → (∀ octets, a ≠ .arrive octets) →
    (∀ ending, a ≠ .serverEnds ending) → p'.inbound = p.inbound
  outbound : (∀ b, a ≠ .outbound b) → p'.outbound = p.outbound
  stop : p.dispatch.stop.fired = true → p'.dispatch.stop.fired = true
  signal : a.triggers = false → p'.dispatch.stop = p.dispatch.stop
  exited : (∀ stage, a ≠ .stageEnds stage) → p'.exited = p.exited
  drained : a ≠ .drain → p'.drained = p.drained
  closed : a ≠ .report → p'.closed = p.closed

theorem untouched_of_act {a : Action} {p p' : Pipeline} (ha : act a p = some p') :
    Untouched a p p' := by
  have st := step_of_act ha
  generalize observe a p = new at st
  cases st with
  | inbound =>
    exact ⟨fun hn => absurd rfl (hn _), fun _ => rfl, id, fun _ => rfl, fun _ => rfl, fun _ => rfl,
      fun _ => rfl⟩
  | outbound =>
    exact ⟨fun _ _ _ => rfl, fun hn => absurd rfl (hn _), id, fun _ => rfl, fun _ => rfl,
      fun _ => rfl, fun _ => rfl⟩
  | @dispatch a d hd =>
    refine ⟨fun _ _ _ => rfl, fun _ => rfl, fun hs => ?_, fun _ => stop_act hd, fun _ => rfl,
      fun _ => rfl, fun _ => rfl⟩
    show d.stop.fired = true
    rw [stop_act hd]
    exact hs
  | arrive octets =>
    exact ⟨fun _ hn => absurd rfl (hn octets), fun _ => rfl, id, fun _ => rfl, fun _ => rfl,
      fun _ => rfl, fun _ => rfl⟩
  | serverEnds ending =>
    exact ⟨fun _ _ hn => absurd rfl (hn ending), fun _ => rfl, id, fun _ => rfl, fun _ => rfl,
      fun _ => rfl, fun _ => rfl⟩
  | submit st =>
    cases st <;>
      exact ⟨fun _ _ _ => rfl, fun _ => rfl, id, fun _ => rfl, fun _ => rfl, fun _ => rfl,
        fun _ => rfl⟩
  | enter st =>
    cases st <;>
      exact ⟨fun _ _ _ => rfl, fun _ => rfl, id, fun _ => rfl, fun _ => rfl, fun _ => rfl,
        fun _ => rfl⟩
  | sendAway | abandon =>
    exact ⟨fun _ _ _ => rfl, fun _ => rfl, id, fun _ => rfl, fun _ => rfl, fun _ => rfl,
      fun _ => rfl⟩
  | trigger =>
    exact ⟨fun _ _ _ => rfl, fun _ => rfl, fun _ => rfl, nofun, fun _ => rfl, fun _ => rfl,
      fun _ => rfl⟩
  | stageEnds =>
    exact ⟨fun _ _ _ => rfl, fun _ => rfl, fun _ => rfl, nofun, fun hn => absurd rfl (hn _),
      fun _ => rfl, fun _ => rfl⟩
  | drain =>
    exact ⟨fun _ _ _ => rfl, fun _ => rfl, id, fun _ => rfl, fun _ => rfl, fun hn => absurd rfl hn,
      fun _ => rfl⟩
  | report =>
    exact ⟨fun _ _ _ => rfl, fun _ => rfl, id, fun _ => rfl, fun _ => rfl, fun _ => rfl,
      fun hn => absurd rfl hn⟩

/-- What triggers the stop signal does nothing else than to note the end of a task. -/
theorem eq_trigger_of_act {a : Action} {p p' : Pipeline} (ht : a.triggers = true)
    (ha : act a p = some p') :
    p' = { p.trigger with exited := p'.exited } ∧ observe a p = [] := by
  have st := step_of_act ha
  generalize observe a p = new at st ⊢
  cases st with
  | trigger | stageEnds => exact ⟨rfl, rfl⟩
  | _ => cases ht

/-- What is answered stays answered. -/
theorem drained_of_act {a : Action} {p p' : Pipeline} (ha : act a p = some p')
    (h : p.drained = true) : p'.drained = true := by
  by_cases drain : a = .drain
  · subst drain
    simp [act, h] at ha
  · exact ((untouched_of_act ha).drained drain).trans h

/-- What is closed stays closed. -/
theorem closed_of_act {a : Action} {p p' : Pipeline} (ha : act a p = some p')
    (h : p.closed = true) : p'.closed = true := by
  by_cases report : a = .report
  · subst report
    simp only [act] at ha
    split at ha <;> cases ha
    rfl
  · exact ((untouched_of_act ha).closed report).trans h

/-- The inbound stage reads a frame that has arrived. -/
theorem act_read {p : Pipeline} {body rest : Octets} {r : Response}
    (hp : p.inbound.phase = .reading) (hs : split p.inbound.arrived = .frame body rest)
    (hr : Response.decode body = .ok r) :
    act (.inbound .read) p
      = some { p with inbound := { p.inbound with arrived := rest, phase := .offering r } } :=
  congrArg (Option.map p.putInbound) (Inbound.act_read hp hs hr)

/-- The supervisor reports the connection closed only after it has answered what was left. -/
theorem drained_of_report {p p' : Pipeline} (ha : act .report p = some p') : p.drained = true := by
  have st := step_of_act ha
  generalize observe .report p = new at st
  cases st with
  | report drained => exact drained

/-! ## 6. Tasks that are over -/

/-- What has ended stays so. -/
theorem hasEnded_of_act {a : Action} {p p' : Pipeline} {stage : Stage} (ha : act a p = some p')
    (h : p.hasEnded stage = true) : p'.hasEnded stage = true := by
  have st := step_of_act ha
  generalize observe a p = new at st
  cases st with
  | inbound hv =>
    cases stage with
    | inbound =>
      have none := Inbound.act_of_ended (v := p.inboundView) h
      rw [none] at hv
      cases hv
    | _ => exact h
  | outbound hv =>
    cases stage with
    | outbound =>
      have none := Outbound.act_of_ended (v := p.outboundView) h
      rw [none] at hv
      cases hv
    | _ => exact h
  | @dispatch a d hd =>
    cases stage with
    | dispatch =>
      have ended : p.dispatch.phase = .ended := of_decide_eq_true h
      cases a <;> simp [Dispatch.act, ended] at hd
    | _ => exact h
  | submit st => cases st <;> exact h
  | enter st => cases st <;> exact h
  | serverEnds ending => cases ending <;> exact h
  | _ => exact h

/-- A stage whose task is over has ended, and the stop signal has fired. -/
structure Exits (p : Pipeline) : Prop where
  ended : ∀ stage, p.hasExited stage = true → p.hasEnded stage = true
  fired : ∀ stage, p.hasExited stage = true → p.dispatch.stop.fired = true

theorem exits_start (d : Dispatch) : Exits (.start d) :=
  ⟨nofun, nofun⟩

/-- The task of a stage ends when the stage has ended, and it triggers the stop signal. -/
theorem Exits.act {a : Action} {p p' : Pipeline} (h : Exits p) (ha : act a p = some p') :
    Exits p' := by
  have untouched := untouched_of_act ha
  have before (stage : Stage) (hs : p'.hasExited stage = true) : p.hasExited stage = true
      ∨ p.hasEnded stage = true ∧ p'.dispatch.stop.fired = true := by
    by_cases hn : ∃ other, a = .stageEnds other
    · obtain ⟨other, rfl⟩ := hn
      have st := step_of_act ha
      generalize observe (.stageEnds other) p = new at st
      cases st with
      | stageEnds ended =>
        rcases List.mem_cons.mp (List.contains_iff_mem.mp hs) with rfl | hs
        · exact .inr ⟨ended, rfl⟩
        · exact .inl (List.contains_iff_mem.mpr hs)
    · rw [hasExited, untouched.exited fun stage he => hn ⟨stage, he⟩] at hs
      exact .inl hs
  refine ⟨fun stage hs => ?_, fun stage hs => ?_⟩
  · rcases before stage hs with exited | ⟨ended, -⟩
    · exact hasEnded_of_act ha (h.ended stage exited)
    · exact hasEnded_of_act ha ended
  · rcases before stage hs with exited | ⟨-, fired⟩
    · exact untouched.stop (h.fired stage exited)
    · exact fired

/-- **The supervisor answers what is left only after the stop signal.** It does not ask for that; it
waits for the tasks, and each of them triggers the signal. -/
theorem Exits.fired_of_drain {p p' : Pipeline} (h : Exits p)
    (ha : Pipeline.act .drain p = some p') : p.dispatch.stop.fired = true := by
  have st := step_of_act ha
  generalize observe .drain p = new at st
  cases st with
  | drain exited => exact h.fired .inbound ((allExited_iff p).mp exited .inbound)

theorem Exits.run {p₀ p : Pipeline} {log : Log} (h : Exits p₀) (run : Run p₀ log p) : Exits p := by
  induction run with
  | start => exact h
  | step a _ ha ih => exact ih.act ha

/-- **Before the stop signal fires nobody is given up**, in every run. -/
theorem Exits.fired_of_givesUp {p₀ p : Pipeline} {log : Log} (h : Exits p₀) (run : Run p₀ log p)
    {x : Record} (hx : x ∈ log) (hg : x.givesUp = true) : p.dispatch.stop.fired = true := by
  induction run with
  | start => cases hx
  | @step log p p' a run ha ih =>
    refine (untouched_of_act ha).stop ?_
    rcases List.mem_append.mp hx with hx | hx
    · exact ih hx
    · cases adds_of_mem_observe hx with
      | givenUp | drained => exact (h.run run).fired_of_drain ha
      | _ => cases hg

/-! ## 7. The pipeline -/

/-- How the dispatch stage and the parked callers stand to the log. -/
structure Sound (d₀ : Dispatch) (log : Log) (p : Pipeline) : Prop where
  course : Course d₀ log p.dispatch
  /-- Nobody used the slots of those who may still enter. -/
  parked : p.dispatch.stop.fired = false → ∀ s ∈ p.parked, Unused log p.dispatch s.ticket
  /-- No two of those who may still enter share a slot. -/
  once : (p.parked.map (·.ticket)).Nodup

namespace Sound

variable {d₀ : Dispatch} {log new : Log} {p p' : Pipeline}

/-- A move that queues nobody, after which no more callers are parked. -/
theorem move (h : Sound d₀ log p) (blank : Blank d₀)
    (m : MoveOrNone log p.dispatch new p'.dispatch) (hp : p'.parked.Sublist p.parked)
    (hs : p'.dispatch.stop.fired = false → p.dispatch.stop.fired = false) :
    Sound d₀ (log ++ new) p' := by
  have once := h.once.sublist (hp.map _)
  rcases m with ⟨hd, rfl⟩ | ⟨x, m, rfl, hx⟩
  · rw [List.append_nil]
    refine ⟨hd ▸ h.course, ?_, once⟩
    intro hf s hs'
    exact hd ▸ h.parked (hs hf) s (hp.subset hs')
  · refine ⟨h.course.step m, ?_, once⟩
    intro hf s hs'
    have unused := h.parked (hs hf) s (hp.subset hs')
    refine (h.course.accounted blank).unused (h.course.inOrder blank) m unused ?_
    rintro s' rfl
    cases hx

/-- The caller parked first enters. -/
theorem enter (h : Sound d₀ log p) (blank : Blank d₀) (st : Enters p new p') :
    Sound d₀ (log ++ new) p' := by
  cases st with
  | @entered s parked running hp hq =>
    have unused := h.parked running
    have once := h.once
    rw [hp] at unused once
    obtain ⟨fresh, once⟩ := List.nodup_cons.mp once
    have m : Move log p.dispatch (some (.entered s)) _ := .enter (unused s List.mem_cons_self) hq
    refine ⟨h.course.record m, ?_, once⟩
    intro _ s' hs'
    refine (h.course.accounted blank).unused (h.course.inOrder blank) m
      (unused s' (List.mem_cons_of_mem _ hs')) fun s'' he => ?_
    cases he
    exact fun ht => fresh (List.mem_map.mpr ⟨s', hs', ht.symm⟩)
  | @refused s parked running hp =>
    exact h.move blank (.inl ⟨rfl, rfl⟩) (hp ▸ List.sublist_cons_self s parked) id

/-- A caller gets a ticket, and enters, is parked or is sent away. -/
theorem submit {q : Query} (h : Sound d₀ log p) (blank : Blank d₀) (st : Submits q p new p') :
    Sound d₀ (log ++ new) p' := by
  have opened : Course d₀ log { p.dispatch with ledger := p.dispatch.ledger.openSlot.2 } :=
    h.course.silent .openSlot
  have own := h.course.unused_openSlot
  have unused : p.dispatch.stop.fired = false → ∀ s ∈ p.parked,
      Unused log { p.dispatch with ledger := p.dispatch.ledger.openSlot.2 } s.ticket := by
    intro hf s hs
    simpa using (h.course.accounted blank).unused (h.course.inOrder blank) .openSlot
      (h.parked hf s hs) nofun
  cases st with
  | refused =>
    rw [List.append_nil]
    exact ⟨opened, unused, h.once⟩
  | parked running =>
    rw [List.append_nil]
    refine ⟨opened, ?_, ?_⟩
    · intro _ s' hs'
      rcases List.mem_append.mp hs' with hs' | hs'
      · exact unused running s' hs'
      · cases List.mem_singleton.mp hs'
        exact own
    · rw [List.map_append, List.map_singleton, ← List.concat_eq_append]
      refine h.once.concat ?_
      intro ht
      obtain ⟨s', hs', he⟩ := List.mem_map.mp ht
      exact absurd he (Nat.ne_of_lt (h.parked running s' hs').inRange)
  | entered running hq hp =>
    refine ⟨opened.record (.enter own hq), fun _ s hs => ?_, h.once⟩
    have none : s ∈ p.parked := hs
    rw [hp] at none
    cases none

/-- **Every step of the pipeline continues the course of its dispatch stage.** -/
theorem step {a : Action} (h : Sound d₀ log p) (exits : Exits p) (blank : Blank d₀)
    (ha : act a p = some p') : Sound d₀ (log ++ observe a p) p' := by
  have same := List.Sublist.refl p.parked
  have st := step_of_act ha
  generalize observe a p = new at st ⊢
  cases st with
  | inbound hv => exact h.move blank (moveOrNone_inbound log (Inbound.step_of_act hv)) same id
  | outbound hv => exact h.move blank (moveOrNone_outbound log (Outbound.step_of_act hv)) same id
  | dispatch hd =>
    refine h.move blank (.inr (exists_move log hd)) same ?_
    intro hf
    rw [← stop_act hd]
    exact hf
  | submit st => exact h.submit blank st
  | enter st => exact h.enter blank st
  | @sendAway s parked _ hp =>
    exact h.move blank (.inl ⟨rfl, rfl⟩) (hp ▸ List.sublist_cons_self s parked) id
  | abandon t => exact h.move blank (.inr ⟨_, .abandon t, rfl, rfl⟩) same id
  | trigger | stageEnds => exact h.move blank (.inr ⟨_, .signal _, rfl, rfl⟩) same nofun
  | drain exited =>
    have ended : p.dispatch.isEnded = true :=
      exits.ended .dispatch ((allExited_iff p).mp exited .dispatch)
    refine ⟨Teardown.course_failAll h.course ended, ?_, h.once⟩
    intro hf
    have hf : p.dispatch.stop.fired = false := hf
    rw [exits.fired_of_drain ha] at hf
    cases hf
  | report => exact h.move blank (.inl ⟨rfl, rfl⟩) same id
  | arrive octets => exact h.move blank (.inl ⟨rfl, rfl⟩) same id
  | serverEnds ending =>
    exact h.move blank (.inl ⟨by cases ending <;> rfl, rfl⟩) same (by cases ending <;> exact id)

end Sound

/-- **Every run of the pipeline continues the course of its dispatch stage.** -/
theorem Sound.run {d₀ : Dispatch} {log : Log} {p₀ p : Pipeline} (h : Sound d₀ [] p₀)
    (exits : Exits p₀) (blank : Blank d₀) (run : Run p₀ log p) : Sound d₀ log p := by
  induction run with
  | start => exact h
  | step a run ha ih => exact ih.step (exits.run run) blank ha

/-- A run from the start is such a course. -/
theorem sound_of_run {d₀ : Dispatch} {log : Log} {p : Pipeline} (blank : Blank d₀)
    (run : Run (.start d₀) log p) : Sound d₀ log p := by
  have start : Sound d₀ [] (.start d₀) := ⟨.start, fun _ => nofun, List.nodup_nil⟩
  exact start.run (exits_start d₀) blank run

end Muxwire.Mux.Pipeline
