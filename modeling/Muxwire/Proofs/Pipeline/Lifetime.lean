import Mathlib.Data.List.Perm.Basic
import Muxwire.Proofs.Pipeline.Callers

/-!
# The lifetime of a connection

A connection with all who hold its stop signal: whoever closes or drops it, the stages that end, and
whoever waits. The signal is triggered through handles that were cloned from each other
(`SignalBoard`), and every step of the pipeline may come in between (`Lifetime.act`). Parked callers
leave in any order, or give up.

* `exists_run` -- every run of the pipeline is part of a lifetime.
* `Signalled` -- there is one signal behind all handles, and only its first trigger is answered with
  yes.
* `Running`, `Sound` -- how a connection stands to its log; `Sound.step` carries it through every
  step.
* `Later` -- what no step takes back, and that nobody is queued once the signal has fired.
* **`run_orderly`** -- in every run: one trigger fires the signal, which stays fired; the life of
  the connection goes on from running to closing to closed; it is closed only when all stages have
  ended and everyone who was queued has a reply; and nothing is done with a query that is sent away.
-/

namespace Muxwire.Mux

open Request Wire

/-- How far the life of a connection has come. -/
def Lifecycle.rank : Lifecycle → Nat
  | .running => 0
  | .closing => 1
  | .closed => 2

/-- A connection with the handles on its stop signal and the calls on it. -/
structure Lifetime where
  pipeline : Pipeline
  /-- The handles on the stop signal, and who waits for it. -/
  board : SignalBoard
  /-- What the triggers answered, first to last. -/
  answers : List Bool
  /-- The calls that close the connection, and whether each has returned. -/
  closes : List Bool
  /-- The tickets of callers who gave up while they were parked. -/
  gone : List Ticket

namespace Lifetime

/-! ## 1. Steps -/

/-- What may happen. -/
inductive Action where
  /-- A step of the pipeline in which nobody triggers the stop signal. -/
  | goes (a : Pipeline.Action)
  /-- Someone drops the connection, or a stage ends, and triggers the signal through its handle. -/
  | triggers (handle : Nat) (a : Pipeline.Action)
  /-- A caller closes the connection and waits until it is closed. -/
  | close (handle : Nat)
  /-- A call that closes the connection returns. -/
  | closeReturns (call : Nat)
  /-- Someone takes another handle on the stop signal. -/
  | clone (handle : Nat)
  /-- Someone begins to wait for the stop signal. -/
  | wait (handle : Nat)
  /-- Whoever waits for the stop signal goes on, if it has fired. -/
  | wake
  /-- A parked caller sees the stop signal, wherever it stands. -/
  | leave (place : Nat)
  /-- A parked caller gives up. -/
  | giveUp (place : Nat)

/-- A connection at its start, with one handle on the stop signal. -/
def start (d : Dispatch) : Lifetime :=
  ⟨.start d, .new, [], [], []⟩

/-- The stop signal was triggered through a handle, which made the pipeline `p`. -/
def fire (handle : Nat) (l : Lifetime) (p : Pipeline) : Lifetime :=
  { l with
    pipeline := p
    board := (l.board.trigger handle).2
    answers := l.answers ++ [(l.board.trigger handle).1] }

/-- Whether someone holds a handle. -/
def holds (l : Lifetime) (handle : Nat) : Bool :=
  handle < l.board.handles.length

/-- One step, if it is possible. -/
def act (a : Action) (l : Lifetime) : Option Lifetime :=
  match a with
  | .goes a =>
    if a.triggers then none else (Pipeline.act a l.pipeline).map fun pipeline => { l with pipeline }
  | .triggers handle a =>
    if a.triggers && l.holds handle then (Pipeline.act a l.pipeline).map (l.fire handle) else none
  | .close handle =>
    if l.holds handle then
      some { l.fire handle l.pipeline.trigger with closes := l.closes ++ [false] }
    else none
  | .closeReturns call =>
    if l.pipeline.closed then some { l with closes := l.closes.set call true } else none
  | .clone handle =>
    if l.holds handle then some { l with board := (l.board.clone handle).2 } else none
  | .wait handle =>
    if l.holds handle then some { l with board := (l.board.wait handle).2 } else none
  | .wake => some { l with board := l.board.settle }
  | .leave place =>
    if l.pipeline.dispatch.stop.fired then
      l.pipeline.parked[place]?.map fun s =>
        { l with
          pipeline.parked := l.pipeline.parked.eraseIdx place
          pipeline.refused := s.ticket :: l.pipeline.refused }
    else none
  | .giveUp place =>
    l.pipeline.parked[place]?.map fun s =>
      { l with pipeline.parked := l.pipeline.parked.eraseIdx place, gone := s.ticket :: l.gone }

/-- What a step that is possible adds to the log. -/
def observe (a : Action) (l : Lifetime) : Log :=
  match a with
  | .goes a => Pipeline.observe a l.pipeline
  | _ => []

/-- The runs of a connection. -/
abbrev Run (l₀ : Lifetime) : Log → Lifetime → Prop :=
  Logged act observe l₀

/-- Whether the stop signal has fired. -/
def fired (l : Lifetime) : Bool :=
  l.pipeline.dispatch.stop.fired

/-- What a caller reports who finds out in `l` whether the connection is closed, and after that, in
`l'`, whether the stop signal has fired. -/
def report (l l' : Lifetime) : Lifecycle :=
  if l.pipeline.closed then .closed else if l'.fired then .closing else .running

/-- What a step can be. -/
inductive Step (l : Lifetime) : Action → Lifetime → Prop where
  | goes {a : Pipeline.Action} {p : Pipeline} (silent : a.triggers = false)
      (hp : Pipeline.act a l.pipeline = some p) : Step l (.goes a) { l with pipeline := p }
  | triggers {a : Pipeline.Action} {p : Pipeline} (handle : Nat) (loud : a.triggers = true)
      (hp : Pipeline.act a l.pipeline = some p) : Step l (.triggers handle a) (l.fire handle p)
  | close (handle : Nat) :
      Step l (.close handle)
        { l.fire handle l.pipeline.trigger with closes := l.closes ++ [false] }
  | closeReturns (call : Nat) (closed : l.pipeline.closed = true) :
      Step l (.closeReturns call) { l with closes := l.closes.set call true }
  | clone (handle : Nat) : Step l (.clone handle) { l with board := (l.board.clone handle).2 }
  | wait (handle : Nat) : Step l (.wait handle) { l with board := (l.board.wait handle).2 }
  | wake : Step l .wake { l with board := l.board.settle }
  | leave {place : Nat} {s : Submission} (fired : l.pipeline.dispatch.stop.fired = true)
      (hs : l.pipeline.parked[place]? = some s) :
      Step l (.leave place) { l with
        pipeline.parked := l.pipeline.parked.eraseIdx place
        pipeline.refused := s.ticket :: l.pipeline.refused }
  | giveUp {place : Nat} {s : Submission} (hs : l.pipeline.parked[place]? = some s) :
      Step l (.giveUp place) { l with
        pipeline.parked := l.pipeline.parked.eraseIdx place
        gone := s.ticket :: l.gone }

/-- **The steps that are possible are those listed.** -/
theorem step_of_act {a : Action} {l l' : Lifetime} (ha : act a l = some l') : Step l a l' := by
  cases a with
  | goes a =>
    simp only [act] at ha
    split at ha
    · cases ha
    · rename_i silent
      obtain ⟨p, hp, rfl⟩ := Option.map_eq_some_iff.mp ha
      exact .goes (Bool.eq_false_iff.mpr silent) hp
  | triggers handle a =>
    simp only [act] at ha
    split at ha
    · rename_i held
      obtain ⟨p, hp, rfl⟩ := Option.map_eq_some_iff.mp ha
      exact .triggers handle (Bool.and_eq_true_iff.mp held).1 hp
    · cases ha
  | close handle =>
    simp only [act] at ha
    split at ha <;> cases ha
    exact .close handle
  | closeReturns call =>
    simp only [act] at ha
    split at ha
    · rename_i closed
      cases ha
      exact .closeReturns call closed
    · cases ha
  | clone handle =>
    simp only [act] at ha
    split at ha <;> cases ha
    exact .clone handle
  | wait handle =>
    simp only [act] at ha
    split at ha <;> cases ha
    exact .wait handle
  | wake =>
    cases ha
    exact .wake
  | leave place =>
    simp only [act] at ha
    split at ha
    · rename_i fired
      obtain ⟨s, hs, rfl⟩ := Option.map_eq_some_iff.mp ha
      exact .leave fired hs
    · cases ha
  | giveUp place =>
    obtain ⟨s, hs, rfl⟩ := Option.map_eq_some_iff.mp ha
    exact .giveUp hs

/-- **Every run of the pipeline is part of a lifetime**, with one handle on the stop signal. -/
theorem exists_run {d : Dispatch} {log : Log} {p : Pipeline}
    (run : Pipeline.Run (.start d) log p) :
    ∃ l, Run (start d) log l ∧ l.pipeline = p ∧ l.holds 0 = true := by
  induction run with
  | start => exact ⟨start d, .start, rfl, rfl⟩
  | @step log p p' a _ ha ih =>
    obtain ⟨l, run, rfl, held⟩ := ih
    cases ht : a.triggers with
    | true =>
      have fires : act (.triggers 0 a) l = some (l.fire 0 p') := by
        simp only [act, ht, held, Bool.and_self, if_true, ha, Option.map_some]
      have next := run.step (.triggers 0 a) fires
      rw [(Pipeline.eq_trigger_of_act ht ha).2]
      exact ⟨l.fire 0 p', next, rfl, held⟩
    | false =>
      have goes : act (.goes a) l = some { l with pipeline := p' } := by
        simp [act, ht, ha]
      have next := run.step (.goes a) goes
      exact ⟨{ l with pipeline := p' }, next, rfl, held⟩

/-! ## 2. The stop signal -/

/-- How the handles and the answers stand to the stop signal. -/
structure Signalled (stop : StopSignal) (board : SignalBoard) (answers : List Bool) : Prop where
  /-- There is one signal, and all handles and waiters are on it. -/
  signals : board.signals = [stop]
  handles : ∀ n ∈ board.handles, n = 0
  waiters : ∀ w ∈ board.waiters, w.1 = 0 ∧ (w.2 = true → stop.fired = true)
  /-- The first trigger was answered with yes, and no other. -/
  answers : (stop.fired = false ∧ answers = [])
    ∨ (stop.fired = true ∧ ∃ n, answers = true :: List.replicate n false)

theorem mem_through_iff (b : SignalBoard) (w : Nat) :
    w ∈ b.through ↔ ∃ signal, b.waiters[w]? = some (signal, true) := by
  simp only [SignalBoard.through, List.mem_map, List.mem_filter, List.mem_zipIdx_iff_getElem?]
  constructor
  · rintro ⟨⟨⟨signal, through⟩, i⟩, ⟨hw, ht⟩, rfl⟩
    have ht : through = true := ht
    exact ⟨signal, ht ▸ hw⟩
  · rintro ⟨signal, hw⟩
    exact ⟨((signal, true), w), ⟨hw, rfl⟩, rfl⟩

namespace Signalled

variable {stop : StopSignal} {board : SignalBoard} {answers : List Bool}

theorem signalOf (h : Signalled stop board answers) (handle : Nat) : board.signalOf handle = 0 := by
  rw [SignalBoard.signalOf, List.getD_eq_getElem?_getD]
  cases hn : board.handles[handle]? with
  | none => rfl
  | some n => exact h.handles n (List.mem_of_getElem? hn)

/-- Every handle shows the same. -/
theorem isTriggered (h : Signalled stop board answers) (handle : Nat) :
    board.isTriggered handle = stop.fired := by
  rw [SignalBoard.isTriggered, h.signalOf, SignalBoard.hasFired, h.signals]
  rfl

theorem clone (h : Signalled stop board answers) (handle : Nat) :
    Signalled stop (board.clone handle).2 answers := by
  refine ⟨h.signals, ?_, h.waiters, h.answers⟩
  intro n hn
  rcases List.mem_append.mp hn with hn | hn
  · exact h.handles n hn
  · exact (List.mem_singleton.mp hn).trans (h.signalOf handle)

theorem wait (h : Signalled stop board answers) (handle : Nat) :
    Signalled stop (board.wait handle).2 answers := by
  refine ⟨h.signals, h.handles, ?_, h.answers⟩
  intro w hw
  rcases List.mem_append.mp hw with hw | hw
  · exact h.waiters w hw
  · cases List.mem_singleton.mp hw
    exact ⟨h.signalOf handle, nofun⟩

theorem settle (h : Signalled stop board answers) : Signalled stop board.settle answers := by
  refine ⟨h.signals, h.handles, ?_, h.answers⟩
  intro w hw
  obtain ⟨⟨signal, through⟩, before, rfl⟩ := List.mem_map.mp hw
  obtain ⟨zero, fired⟩ := h.waiters _ before
  refine ⟨zero, ?_⟩
  intro ht
  cases through with
  | true => exact fired rfl
  | false =>
    have zero : signal = 0 := zero
    have ht : (false || board.hasFired signal) = true := ht
    rw [Bool.false_or, zero, SignalBoard.hasFired, h.signals] at ht
    exact ht

/-- After that nobody waits, if the signal has fired. -/
theorem mem_through (h : Signalled stop board answers) (fired : stop.fired = true) {w : Nat}
    (hw : w < board.settle.waiters.length) : w ∈ board.settle.through := by
  have hw : w < board.waiters.length := by simpa [SignalBoard.settle] using hw
  refine (mem_through_iff _ w).mpr ⟨board.waiters[w].1, ?_⟩
  have zero := (h.waiters _ (List.getElem_mem hw)).1
  have seen : board.hasFired board.waiters[w].1 = true := by
    rw [zero, SignalBoard.hasFired, h.signals]
    exact fired
  simp only [SignalBoard.settle, List.getElem?_map, List.getElem?_eq_getElem hw, Option.map_some,
    seen, Bool.or_true]

/-- A trigger is answered with yes if it is the first one. -/
theorem trigger (h : Signalled stop board answers) (handle : Nat) :
    Signalled stop.trigger.2 (board.trigger handle).2
      (answers ++ [(board.trigger handle).1]) := by
  have signal := h.signalOf handle
  have answer : (board.trigger handle).1 = !stop.fired := by
    rw [SignalBoard.trigger, signal, h.signals]
    rfl
  refine ⟨?_, h.handles, fun w hw => ⟨(h.waiters w hw).1, fun _ => rfl⟩, .inr ⟨rfl, ?_⟩⟩
  · rw [SignalBoard.trigger, signal, h.signals]
    rfl
  · rw [answer]
    rcases h.answers with ⟨running, rfl⟩ | ⟨fired, n, rfl⟩
    · rw [running]
      exact ⟨0, rfl⟩
    · rw [fired]
      exact ⟨n + 1, by rw [List.replicate_succ', List.cons_append, Bool.not_true]⟩

end Signalled

/-! ## 3. What holds in every run -/

/-- How a pipeline stands to its log and to the callers who gave up. -/
structure Running (d₀ : Dispatch) (log : Log) (gone : List Ticket) (p : Pipeline) : Prop where
  sound : Pipeline.Sound d₀ log p
  exits : Pipeline.Exits p
  /-- Each caller is in one place. -/
  callers : Pipeline.Distinct (Pipeline.callers log p ++ gone) p.dispatch.ledger.slots.length
  settled : p.drained = true → p.Settled
  closed : p.closed = true → p.drained = true

namespace Running

variable {d₀ : Dispatch} {log : Log} {gone : List Ticket} {p p' : Pipeline}

theorem act {a : Pipeline.Action} (h : Running d₀ log gone p) (blank : Dispatch.Blank d₀)
    (ha : Pipeline.act a p = some p') :
    Running d₀ (log ++ Pipeline.observe a p) gone p' := by
  have untouched := Pipeline.untouched_of_act ha
  refine ⟨h.sound.step h.exits blank ha, h.exits.act ha, ?_, fun hd => ?_, fun hc => ?_⟩
  · have places := (Pipeline.moves_of_act log ha).places.append_right gone
    rw [List.append_assoc] at places
    exact h.callers.act ha places
  · by_cases drain : a = .drain
    · subst drain
      exact h.exits.settled_of_drain ha
    · rw [untouched.drained drain] at hd
      exact (h.settled hd).act ha
  · by_cases report : a = .report
    · subst report
      exact Pipeline.drained_of_act ha (Pipeline.drained_of_report ha)
    · rw [untouched.closed report] at hc
      exact Pipeline.drained_of_act ha (h.closed hc)

/-- A parked caller sees the stop signal. -/
theorem leave {s : Submission} {parked : List Submission} (h : Running d₀ log gone p)
    (blank : Dispatch.Blank d₀) (hp : (s :: parked).Perm p.parked)
    (sub : parked.Sublist p.parked) :
    Running d₀ log gone { p with parked, refused := s.ticket :: p.refused } := by
  refine ⟨?_, ⟨h.exits.ended, h.exits.fired⟩, ?_, ?_, h.closed⟩
  · rw [← List.append_nil log]
    exact h.sound.move blank (.inl ⟨rfl, rfl⟩) sub id
  · exact h.callers.perm ((Pipeline.callers_refuse hp).append_right gone)
  · intro hd
    have settled := h.settled hd
    exact ⟨settled.fired, settled.ended, settled.table, settled.queue⟩

/-- A parked caller gives up. -/
theorem giveUp {s : Submission} {parked : List Submission} (h : Running d₀ log gone p)
    (blank : Dispatch.Blank d₀) (hp : (s :: parked).Perm p.parked)
    (sub : parked.Sublist p.parked) :
    Running d₀ log (s.ticket :: gone) { p with parked } := by
  refine ⟨?_, ⟨h.exits.ended, h.exits.fired⟩, ?_, ?_, h.closed⟩
  · rw [← List.append_nil log]
    exact h.sound.move blank (.inl ⟨rfl, rfl⟩) sub id
  · exact h.callers.perm (Pipeline.callers_giveUp hp gone)
  · intro hd
    have settled := h.settled hd
    exact ⟨settled.fired, settled.ended, settled.table, settled.queue⟩

end Running

/-- How a connection stands to its log. -/
structure Sound (d₀ : Dispatch) (log : Log) (l : Lifetime) : Prop where
  running : Running d₀ log l.gone l.pipeline
  signalled : Signalled l.pipeline.dispatch.stop l.board l.answers
  returned : true ∈ l.closes → l.pipeline.closed = true

/-- What is at a place in a list, and the rest, are the list. -/
theorem perm_of_getElem? {α : Type} {xs : List α} {i : Nat} {x : α} (h : xs[i]? = some x) :
    (x :: xs.eraseIdx i).Perm xs := by
  obtain ⟨hi, rfl⟩ := List.getElem?_eq_some_iff.mp h
  exact List.getElem_cons_eraseIdx_perm hi

variable {d₀ : Dispatch} {log more : Log} {l l' : Lifetime} {a : Action}

/-- **Every step keeps the connection sound.** -/
theorem Sound.step (h : Sound d₀ log l) (blank : Dispatch.Blank d₀) (ha : act a l = some l') :
    Sound d₀ (log ++ observe a l) l' := by
  have triggered : Running d₀ (log ++ []) l.gone l.pipeline.trigger :=
    h.running.act (a := .trigger) blank rfl
  rw [List.append_nil] at triggered
  cases step_of_act ha with
  | goes silent hp =>
    refine ⟨h.running.act blank hp, ?_, fun hr => ?_⟩
    · rw [(Pipeline.untouched_of_act hp).signal silent]
      exact h.signalled
    · exact Pipeline.closed_of_act hp (h.returned hr)
  | triggers handle loud hp =>
    have next := h.running.act blank hp
    obtain ⟨same, nothing⟩ := Pipeline.eq_trigger_of_act loud hp
    rw [nothing] at next
    refine ⟨next, ?_, fun hr => Pipeline.closed_of_act hp (h.returned hr)⟩
    rw [Lifetime.fire, same]
    exact h.signalled.trigger handle
  | close handle =>
    simp only [observe, List.append_nil]
    refine ⟨triggered, h.signalled.trigger handle, fun hr => ?_⟩
    rcases List.mem_append.mp hr with hr | hr
    · exact h.returned hr
    · cases List.mem_singleton.mp hr
  | closeReturns call closed =>
    simp only [observe, List.append_nil]
    exact ⟨h.running, h.signalled, fun _ => closed⟩
  | clone handle =>
    simp only [observe, List.append_nil]
    exact ⟨h.running, h.signalled.clone handle, h.returned⟩
  | wait handle =>
    simp only [observe, List.append_nil]
    exact ⟨h.running, h.signalled.wait handle, h.returned⟩
  | wake =>
    simp only [observe, List.append_nil]
    exact ⟨h.running, h.signalled.settle, h.returned⟩
  | leave _ hs =>
    simp only [observe, List.append_nil]
    exact ⟨h.running.leave blank (perm_of_getElem? hs) (List.eraseIdx_sublist ..), h.signalled,
      h.returned⟩
  | giveUp hs =>
    simp only [observe, List.append_nil]
    exact ⟨h.running.giveUp blank (perm_of_getElem? hs) (List.eraseIdx_sublist ..), h.signalled,
      h.returned⟩

theorem Sound.run (h : Sound d₀ log l) (blank : Dispatch.Blank d₀) (run : Run l more l') :
    Sound d₀ (log ++ more) l' := by
  induction run with
  | start => simpa using h
  | step a _ ha ih =>
    rw [← List.append_assoc]
    exact ih.step blank ha

/-- **Every run is sound.** -/
theorem sound_of_run (blank : Dispatch.Blank d₀) (hs : d₀.stop = .new)
    (run : Run (start d₀) log l) : Sound d₀ log l := by
  have signalled : Signalled d₀.stop .new [] := by
    rw [hs]
    exact ⟨rfl, fun _ => List.mem_singleton.mp, nofun, .inl ⟨rfl, rfl⟩⟩
  have first : Sound d₀ [] (start d₀) :=
    ⟨⟨⟨.start, fun _ => nofun, List.nodup_nil⟩, Pipeline.exits_start d₀, ⟨List.nodup_nil, nofun⟩,
      nofun, nofun⟩, signalled, nofun⟩
  exact first.run blank run

/-! ## 4. What later steps keep -/

/-- All callers, those who gave up included. -/
def callers (log : Log) (l : Lifetime) : List Ticket :=
  Pipeline.callers log l.pipeline ++ l.gone

/-- What a run from `l` to `l'` keeps. -/
structure Later (log : Log) (l : Lifetime) (more : Log) (l' : Lifetime) : Prop where
  fired : l.fired = true → l'.fired = true
  /-- Nobody is queued once the stop signal has fired. -/
  quiet : l.fired = true → more.entered = []
  closed : l.pipeline.closed = true → l'.pipeline.closed = true
  refused : l.pipeline.refused <:+ l'.pipeline.refused
  gone : l.gone <:+ l'.gone
  callers : l.callers log ⊆ l'.callers (log ++ more)

theorem later_of_act (log : Log) (ha : act a l = some l') : Later log l (observe a l) l' := by
  cases step_of_act ha with
  | goes silent hp =>
    have moves := Pipeline.moves_of_act log hp
    refine ⟨(Pipeline.untouched_of_act hp).stop, fun hf => Pipeline.entered_of_fired hf hp,
      Pipeline.closed_of_act hp, moves.refused, List.suffix_refl _, fun t ht => ?_⟩
    rcases List.mem_append.mp ht with ht | ht
    · exact List.mem_append_left _ (moves.places.symm.subset (List.mem_append_right _ ht))
    · exact List.mem_append_right _ ht
  | triggers handle loud hp =>
    obtain ⟨same, -⟩ := Pipeline.eq_trigger_of_act loud hp
    rw [Lifetime.fire, same]
    refine ⟨fun _ => rfl, fun _ => rfl, id, List.suffix_refl _, List.suffix_refl _, ?_⟩
    simp only [observe, List.append_nil]
    exact List.Subset.refl _
  | close =>
    refine ⟨fun _ => rfl, fun _ => rfl, id, List.suffix_refl _, List.suffix_refl _, ?_⟩
    simp only [observe, List.append_nil]
    exact List.Subset.refl _
  | leave _ hs =>
    refine ⟨id, fun _ => rfl, id, List.suffix_cons _ _, List.suffix_refl _, ?_⟩
    simp only [observe, List.append_nil]
    exact ((Pipeline.callers_refuse (perm_of_getElem? hs)).append_right _).symm.subset
  | giveUp hs =>
    refine ⟨id, fun _ => rfl, id, List.suffix_refl _, List.suffix_cons _ _, ?_⟩
    simp only [observe, List.append_nil]
    exact (Pipeline.callers_giveUp (perm_of_getElem? hs) _).symm.subset
  | closeReturns | clone | wait | wake =>
    refine ⟨id, fun _ => rfl, id, List.suffix_refl _, List.suffix_refl _, ?_⟩
    simp only [observe, List.append_nil]
    exact List.Subset.refl _

theorem later_of_run (log : Log) (run : Run l more l') : Later log l more l' := by
  induction run with
  | start =>
    refine ⟨id, fun _ => rfl, id, List.suffix_refl _, List.suffix_refl _, ?_⟩
    rw [List.append_nil]
    exact List.Subset.refl _
  | @step more l₁ l₂ a _ ha before =>
    have last := later_of_act (log ++ more) ha
    refine ⟨fun hf => last.fired (before.fired hf), fun hf => ?_,
      fun hc => last.closed (before.closed hc), before.refused.trans last.refused,
      before.gone.trans last.gone, ?_⟩
    · rw [Log.entered_append, before.quiet hf, last.quiet (before.fired hf), List.append_nil]
    · rw [← List.append_assoc]
      exact List.Subset.trans before.callers last.callers

/-! ## 5. The lifetime -/

/-- All stages have ended after the stop signal fired, and everyone who was queued has one reply. -/
structure Ended (log : Log) (l : Lifetime) : Prop where
  fired : l.fired = true
  inbound : ∃ result, l.pipeline.inbound.phase = .ended result
  dispatch : l.pipeline.dispatch.phase = .ended
  outbound : ∃ result, l.pipeline.outbound.phase = .ended result
  answered : ∀ s ∈ log.entered, ∃ r, l.pipeline.dispatch.ledger.deliveries s.ticket = [r]

/-- Nothing was done with the query of a ticket: it was not queued, it got no sync, it was not
packed, and no frame that was forwarded is its. -/
structure Unsent (space : String) (log : Log) (t : Ticket) : Prop where
  queued : ∀ s ∈ log.entered, s.ticket ≠ t
  issued : ∀ entry ∈ log.accepted, entry.2.ticket ≠ t
  packed : ∀ p ∈ log.packed space, p.submission.ticket ≠ t
  forwarded : ∀ frame ∈ log.forwarded,
    ∃ p ∈ log.packed space, p.frame = frame ∧ p.submission.ticket ≠ t

theorem Sound.ended (h : Sound d₀ log l) (blank : Dispatch.Blank d₀)
    (closed : l.pipeline.closed = true) : Ended log l := by
  have settled := h.running.settled (h.running.closed closed)
  exact {
    fired := settled.fired
    inbound := (Inbound.isSome_result?_iff _).mp (settled.ended .inbound)
    dispatch := of_decide_eq_true (settled.ended .dispatch)
    outbound := (Outbound.isSome_result?_iff _).mp (settled.ended .outbound)
    answered := fun _ hs =>
      h.running.sound.course.exists_reply blank settled.table settled.queue hs }

/-- The tickets of the callers who were not queued. -/
def unqueued (l : Lifetime) : List Ticket :=
  l.pipeline.parked.map (·.ticket) ++ (l.pipeline.refused ++ l.gone)

theorem callers_eq (log : Log) (l : Lifetime) :
    l.callers log = Pipeline.queued log ++ l.unqueued := by
  simp only [callers, Pipeline.callers, unqueued, List.append_assoc]

theorem Sound.unsent (h : Sound d₀ log l) (blank : Dispatch.Blank d₀) {t : Ticket}
    (ht : t ∈ l.unqueued) : Unsent d₀.space log t := by
  have once : (l.callers log).Nodup := h.running.callers.once
  rw [callers_eq, List.nodup_append] at once
  have course := h.running.sound.course
  have queued : ∀ s ∈ log.entered, s.ticket ≠ t :=
    fun s hs => once.2.2 _ (List.mem_map_of_mem hs) _ ht
  have issued : ∀ entry ∈ log.accepted, entry.2.ticket ≠ t :=
    fun entry he => queued _ (course.entered_of_left blank (Log.mem_left_of_accepted he))
  have packed : ∀ p ∈ log.packed d₀.space, p.submission.ticket ≠ t :=
    fun p hp => issued _ (Log.mem_packed_iff.mp hp).1
  refine ⟨queued, issued, packed, fun frame hf => ?_⟩
  have front := (course.inOrder blank).forwarded.cut.subset (List.mem_append_left _ hf)
  obtain ⟨p, hp, rfl⟩ := List.mem_map.mp front
  exact ⟨p, hp, rfl, packed p hp⟩

/-- A report of a connection that is closed says so, and no other does. -/
theorem report_eq_closed_iff : l.report l' = .closed ↔ l.pipeline.closed = true := by
  unfold report
  cases l.pipeline.closed <;> cases l'.fired <;> simp

/-- **Reports never go back**, if one is begun after the other is made. -/
theorem rank_report_le {more₁ more₂ more₃ : Log} {l₁ l₂ l₃ : Lifetime} (r₁ : Run l more₁ l₁)
    (r₂ : Run l₁ more₂ l₂) (r₃ : Run l₂ more₃ l₃) :
    (l.report l₁).rank ≤ (l₂.report l₃).rank := by
  have closed := (later_of_run [] (r₁.trans r₂)).closed
  have fired := (later_of_run [] (r₂.trans r₃)).fired
  unfold report
  cases hc : l.pipeline.closed with
  | true =>
    rw [closed hc]
    exact Nat.le_refl _
  | false =>
    cases hf : l₁.fired with
    | true =>
      rw [fired hf]
      cases l₂.pipeline.closed <;> decide
    | false => exact Nat.zero_le _

/-- A connection becomes closed only after everyone was answered. -/
theorem drained_of_closed (ha : act a l = some l') (hc : l'.pipeline.closed = true) :
    l.pipeline.drained = true ∨ l.pipeline.closed = true := by
  cases step_of_act ha with
  | @goes a p silent hp =>
    by_cases report : a = .report
    · subst report
      exact .inl (Pipeline.drained_of_report hp)
    · exact .inr (((Pipeline.untouched_of_act hp).closed report).symm.trans hc)
  | @triggers a p handle loud hp =>
    refine .inr (((Pipeline.untouched_of_act hp).closed ?_).symm.trans hc)
    rintro rfl
    cases loud
  | _ => exact .inr hc

/-- **The life of a connection goes on by one at a time.** -/
theorem Sound.rank_le (h : Sound d₀ log l) (ha : act a l = some l') :
    l'.pipeline.lifecycle.rank ≤ l.pipeline.lifecycle.rank + 1 := by
  have fired : l'.pipeline.closed = true → l.fired = true := fun hc =>
    have drained := (drained_of_closed ha hc).elim id h.running.closed
    (h.running.settled drained).fired
  unfold Pipeline.lifecycle
  cases hc : l'.pipeline.closed with
  | true =>
    have fired : l.pipeline.dispatch.stop.fired = true := fired hc
    rw [fired]
    cases l.pipeline.closed <;> simp [Lifecycle.rank]
  | false =>
    cases l'.pipeline.dispatch.stop.fired with
    | true => exact Nat.succ_le_succ (Nat.zero_le _)
    | false => exact Nat.zero_le _

/-- What holds of a connection in the middle of its life, of its past and of all that may come. -/
structure Orderly (space : String) (log : Log) (l : Lifetime) : Prop where
  /-- The first trigger of all was answered with yes, and no other. -/
  first : ∀ (i : Nat) (answer : Bool), l.answers[i]? = some answer → (answer = true ↔ i = 0)
  triggered : l.fired = true ↔ l.answers ≠ []
  /-- Every handle shows the signal, and whoever is through has seen it. -/
  handles : ∀ handle, l.board.isTriggered handle = l.fired
  through : ∀ w ∈ l.board.through, l.fired = true
  /-- Once it has fired it stays so for every handle, and lets everyone through who waits. -/
  stays : l.fired = true → ∀ {more l₁}, Run l more l₁ →
    (∀ handle, l₁.board.isTriggered handle = true)
      ∧ ∀ l₂, act .wake l₁ = some l₂ → ∀ w < l₂.board.waiters.length, w ∈ l₂.board.through
  /-- What is reported goes on from running to closing to closed. -/
  reports : ∀ {more₁ more₂ more₃ l₁ l₂ l₃}, Run l more₁ l₁ → Run l₁ more₂ l₂ → Run l₂ more₃ l₃ →
    (l.report l₁).rank ≤ (l₂.report l₃).rank
  next : ∀ {a l'}, act a l = some l' →
    l'.pipeline.lifecycle.rank ≤ l.pipeline.lifecycle.rank + 1
  /-- The connection is reported closed, and a call that closes it returns, only at the end. -/
  closed : ∀ l', l.report l' = .closed → Ended log l
  returned : ∀ call : Nat, l.closes[call]? = some true → Ended log l
  /-- Who submits after the stop signal has fired is sent away at once. -/
  late : l.fired = true → ∀ q, ∃ l', act (.goes (.submit q)) l = some l'
    ∧ l'.pipeline.refused = l.pipeline.dispatch.ledger.slots.length :: l.pipeline.refused
  /-- Who is parked when it has fired can be sent away, and never comes to be queued. -/
  parked : l.fired = true → ∀ (place : Nat) (s : Submission), l.pipeline.parked[place]? = some s →
    (∃ l', act (.leave place) l = some l' ∧ l'.pipeline.refused = s.ticket :: l.pipeline.refused)
      ∧ ∀ {more l'}, Run l more l' → s.ticket ∈ l'.unqueued ∧ Unsent space (log ++ more) s.ticket
  /-- Whoever was sent away stays so, and nothing is ever done with the query. -/
  refused : ∀ t ∈ l.pipeline.refused, ∀ {more l'}, Run l more l' →
    t ∈ l'.pipeline.refused ∧ Unsent space (log ++ more) t

/-- **The lifetime of a connection is orderly**, in every run, whatever the capacities of the
queues, the gate, and the position of the counter. -/
theorem run_orderly {submissions responses outbound : Nat} {intake : Intake} {space : String}
    {counter : SyncCounter}
    (run : Run (start (.new submissions responses outbound intake space counter)) log l) :
    Orderly space log l := by
  have blank := Dispatch.blank_new submissions responses outbound intake space counter
  have sound := sound_of_run blank rfl run
  have signalled := sound.signalled
  have later : ∀ {more l'}, Run l more l' → Sound _ (log ++ more) l' := sound.run blank
  refine ⟨?_, ?_, signalled.isTriggered, ?_, ?_, rank_report_le, sound.rank_le, ?_, ?_, ?_, ?_, ?_⟩
  · intro i answer hi
    rcases signalled.answers with ⟨-, none⟩ | ⟨-, n, all⟩
    · simp [none] at hi
    · rw [all] at hi
      cases i with
      | zero =>
        cases hi
        exact ⟨fun _ => rfl, fun _ => rfl⟩
      | succ i =>
        have no := (List.mem_replicate.mp (List.mem_of_getElem? hi)).2
        simp [no]
  · rcases signalled.answers with ⟨running, none⟩ | ⟨fired, n, all⟩
    · simp [fired, running, none]
    · simp [Lifetime.fired, fired, all]
  · intro w hw
    obtain ⟨signal, hw⟩ := (mem_through_iff _ w).mp hw
    exact (signalled.waiters _ (List.mem_of_getElem? hw)).2 rfl
  · intro hf more l₁ rest
    have hf := (later_of_run log rest).fired hf
    have signalled := (later rest).signalled
    refine ⟨fun handle => (signalled.isTriggered handle).trans hf, fun l₂ woken w hw => ?_⟩
    cases woken
    exact signalled.mem_through hf hw
  · exact fun l' closed => sound.ended blank (report_eq_closed_iff.mp closed)
  · exact fun call hc => sound.ended blank (sound.returned (List.mem_of_getElem? hc))
  · intro hf q
    refine ⟨{ l with pipeline := l.pipeline.submit q }, rfl, ?_⟩
    have st := Pipeline.submits q l.pipeline
    generalize Pipeline.observe (.submit q) l.pipeline = new, l.pipeline.submit q = p at st ⊢
    cases st with
    | refused => rfl
    | parked running | entered running => exact absurd hf (Bool.eq_false_iff.mp running)
  · intro hf place s hs
    have here : s.ticket ∈ l.unqueued :=
      List.mem_append_left _ (List.mem_map_of_mem (List.mem_of_getElem? hs))
    refine ⟨⟨_, (if_pos hf).trans (congrArg _ hs), rfl⟩, fun {more l'} rest => ?_⟩
    have kept := later_of_run log rest
    -- nobody is queued after the signal, so the caller can only be where it was not queued before
    have listed : s.ticket ∈ l'.callers (log ++ more) := by
      refine kept.callers ?_
      rw [callers_eq]
      exact List.mem_append_right _ here
    rw [callers_eq, Pipeline.queued, Log.entered_append, kept.quiet hf, List.append_nil] at listed
    have unqueued : s.ticket ∈ l'.unqueued := by
      rcases List.mem_append.mp listed with queued | unqueued
      · obtain ⟨s', hs', same⟩ := List.mem_map.mp queued
        exact absurd same ((sound.unsent blank here).queued s' hs')
      · exact unqueued
    exact ⟨unqueued, (later rest).unsent blank unqueued⟩
  · intro t ht more l' rest
    have stays := (later_of_run log rest).refused.subset ht
    have unqueued : t ∈ l'.unqueued := List.mem_append_right _ (List.mem_append_left _ stays)
    exact ⟨stays, (later rest).unsent blank unqueued⟩

/-- With room for one submission: one ping is queued and one parked when the connection is closed
through a clone of its handle, and one more comes after. -/
theorem run_orderly_pings : ∃ log l, Run (start (.new 1 1 1 ⟨1⟩ "" .new)) log l
    ∧ log.entered.length = 1 ∧ l.answers = [true, false, false, false] ∧ l.board.through = [0, 1]
    ∧ l.pipeline.refused = [1, 2] ∧ l.closes = [true] ∧ Orderly "" log l ∧ Ended log l := by
  have run : Run (start (.new 1 1 1 ⟨1⟩ "" .new)) _ _ := Logged.of_follow
    [.goes (.submit .ping), .goes (.submit .ping), .clone 0, .wait 1, .close 1, .wait 0,
      .goes (.submit .ping), .leave 0, .goes (.inbound .stop), .goes (.dispatch .look),
      .goes (.dispatch .stop), .goes (.outbound .stop), .triggers 0 (.stageEnds .dispatch), .wake,
      .triggers 0 (.stageEnds .inbound), .triggers 0 (.stageEnds .outbound), .goes .drain,
      .goes .report, .closeReturns 0] rfl
  have orderly := run_orderly run
  exact ⟨_, _, run, rfl, rfl, rfl, rfl, rfl, orderly, orderly.returned 0 rfl⟩

end Lifetime

end Muxwire.Mux
