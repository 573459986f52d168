import Muxwire.Proofs.Pipeline.Course

/-!
# Callers, and the end of a connection

A caller who submits gets a ticket, and from then on is in one place: queued, parked or sent away.

* `Moves`, `moves_of_act` -- a step moves callers from one place to another, and takes nobody back
  who was sent away.
* `Distinct.act` -- no two callers share a ticket.
* `entered_of_fired` -- nobody is queued any more once the stop signal has fired.
* `Settled` -- how the supervisor leaves a connection when all stages have ended; it stays so
  (`Settled.act`).
-/

namespace Muxwire.Mux.Pipeline

open Request Wire Dispatch

variable {d₀ : Dispatch} {log : Log} {p p' : Pipeline} {a : Action}

/-! ## 1. Where a caller is -/

/-- The tickets of the callers who were queued. -/
def queued (log : Log) : List Ticket :=
  log.entered.map (·.ticket)

/-- The tickets of all callers: who was queued, who is parked, and who was sent away. -/
def callers (log : Log) (p : Pipeline) : List Ticket :=
  queued log ++ p.parked.map (·.ticket) ++ p.refused

/-- The ticket that a step hands out. -/
def newcomer (a : Action) (p : Pipeline) : List Ticket :=
  match a with
  | .submit _ => [p.dispatch.ledger.slots.length]
  | _ => []

/-- Only a caller's own step queues anyone. -/
theorem entered_observe_eq_nil (hs : ∀ q, a ≠ .submit q) (he : a ≠ .enter) :
    (observe a p).entered = [] := by
  refine List.filterMap_eq_nil_iff.mpr fun x hx => ?_
  cases adds_of_mem_observe hx with
  | submitted => exact absurd rfl (hs _)
  | entered => exact absurd rfl he
  | _ => rfl

/-- Nobody is queued any more once the stop signal has fired. -/
theorem entered_of_fired (fired : p.dispatch.stop.fired = true) (ha : act a p = some p') :
    (observe a p).entered = [] := by
  by_cases hs : ∃ q, a = .submit q
  · obtain ⟨q, rfl⟩ := hs
    simp [observe, fired, Log.entered]
  · refine entered_observe_eq_nil (fun q hq => hs ⟨q, hq⟩) ?_
    rintro rfl
    have st := enters ha
    generalize observe .enter p = new at st
    cases st with
    | entered running | refused running =>
      rw [fired] at running
      cases running

/-- A caller who is sent away was parked. -/
theorem callers_refuse {s : Submission} {parked : List Submission}
    (hp : (s :: parked).Perm p.parked) :
    (callers log { p with parked, refused := s.ticket :: p.refused }).Perm (callers log p) := by
  simp only [callers, List.append_assoc]
  refine (List.perm_middle.trans ?_).append_left _
  exact (hp.map (·.ticket)).append_right p.refused

/-- A caller who gives up was parked. -/
theorem callers_giveUp {s : Submission} {parked : List Submission}
    (hp : (s :: parked).Perm p.parked) (gone : List Ticket) :
    (callers log { p with parked } ++ s.ticket :: gone).Perm (callers log p ++ gone) := by
  simp only [callers, List.append_assoc]
  have front : (parked.map (·.ticket) ++ (p.refused ++ s.ticket :: gone)).Perm
      (s.ticket :: parked.map (·.ticket) ++ (p.refused ++ gone)) :=
    (List.perm_middle.append_left _).trans List.perm_middle
  exact (front.trans ((hp.map (·.ticket)).append_right _)).append_left _

/-- What a step does to the callers: it adds `new` to the log and hands out the tickets `fresh`. -/
structure Moves (fresh : List Ticket) (log new : Log) (p p' : Pipeline) : Prop where
  /-- Callers go from one place to another. -/
  places : (callers (log ++ new) p').Perm (fresh ++ callers log p)
  /-- Whoever was sent away stays so. -/
  refused : p.refused <:+ p'.refused

/-- **A step moves callers from one place to another**, and only `submit` brings one more. -/
theorem moves_of_act (log : Log) (ha : act a p = some p') :
    Moves (newcomer a p) log (observe a p) p p' := by
  have still (hn : newcomer a p = []) (hp : p'.parked = p.parked) (hr : p'.refused = p.refused)
      (he : (observe a p).entered = []) : Moves (newcomer a p) log (observe a p) p p' := by
    refine ⟨?_, hr ▸ List.suffix_refl _⟩
    rw [hn, callers, callers, hp, hr, queued, Log.entered_append, he, List.append_nil, queued,
      List.nil_append]
  have st := step_of_act ha
  generalize hnew : observe a p = new at st still ⊢
  cases st with
  | submit st =>
    cases st with
    | refused =>
      refine ⟨?_, List.suffix_cons _ _⟩
      rw [List.append_nil]
      exact List.perm_middle
    | parked =>
      refine ⟨?_, List.suffix_refl _⟩
      simp only [callers, newcomer, List.append_nil, List.map_append, List.map_singleton,
        List.append_assoc, List.singleton_append]
      exact (List.perm_middle.append_left _).trans List.perm_middle
    | entered =>
      refine ⟨?_, List.suffix_refl _⟩
      simp only [callers, newcomer, queued, Log.entered_concat, Record.entered?, Option.toList_some,
        List.map_append, List.map_singleton, List.append_assoc, List.singleton_append]
      exact List.perm_middle
  | enter st =>
    cases st with
    | entered _ hp =>
      refine ⟨?_, List.suffix_refl _⟩
      simp [callers, newcomer, queued, hp]
    | refused _ hp =>
      refine ⟨?_, List.suffix_cons _ _⟩
      rw [List.append_nil]
      exact callers_refuse (.of_eq hp.symm)
  | sendAway _ hp =>
    refine ⟨?_, List.suffix_cons _ _⟩
    rw [List.append_nil]
    exact callers_refuse (.of_eq hp.symm)
  | inbound | outbound | dispatch | drain =>
    exact still rfl rfl rfl (hnew ▸ entered_observe_eq_nil nofun nofun)
  | arrive | serverEnds | abandon | trigger | stageEnds | report => exact still rfl rfl rfl rfl

/-- Giving up what is left makes no slot. -/
theorem length_failAll (d : Dispatch) :
    d.failAll.2.ledger.slots.length = d.ledger.slots.length := by
  show (Ledger.deliverAll _ _ (d.ledger.failAll _).2).slots.length = _
  rw [Ledger.length_deliverAll, Ledger.length_failAll]

/-- Giving up what is left leaves nobody on the table. -/
theorem waiting_failAll (d : Dispatch) : d.failAll.2.ledger.waiting = [] := by
  show (Ledger.deliverAll _ _ (d.ledger.failAll _).2).waiting = []
  rw [Ledger.waiting_deliverAll, Ledger.waiting_failAll]

/-- The ticket handed out is that of a new slot, and no slot goes. -/
theorem length_add_le_of_act (ha : act a p = some p') :
    p.dispatch.ledger.slots.length + (newcomer a p).length ≤ p'.dispatch.ledger.slots.length := by
  have st := step_of_act ha
  generalize observe a p = new at st
  cases st with
  | submit st =>
    have opened := Nat.le_of_eq (Ledger.length_openSlot p.dispatch.ledger).symm
    cases st <;> exact opened
  | enter st => cases st <;> exact Nat.le_refl _
  | dispatch hd =>
    obtain ⟨x, m, -, -⟩ := exists_move [] hd
    exact m.length_le
  | abandon t => exact Nat.le_of_eq (Ledger.length_abandon ..).symm
  | drain => exact Nat.le_of_eq (length_failAll p.dispatch).symm
  | _ => exact Nat.le_refl _

/-- Tickets of which each is there once, and has a slot. -/
structure Distinct (tickets : List Ticket) (slots : Nat) : Prop where
  once : tickets.Nodup
  range : ∀ t ∈ tickets, t < slots

theorem Distinct.perm {tickets tickets' : List Ticket} {slots : Nat} (h : Distinct tickets slots)
    (places : tickets'.Perm tickets) : Distinct tickets' slots :=
  ⟨places.nodup_iff.mpr h.once, fun t ht => h.range t (places.subset ht)⟩

/-- **No two callers share a ticket**, whatever they do. -/
theorem Distinct.act {tickets tickets' : List Ticket}
    (h : Distinct tickets p.dispatch.ledger.slots.length) (ha : act a p = some p')
    (places : tickets'.Perm (newcomer a p ++ tickets)) :
    Distinct tickets' p'.dispatch.ledger.slots.length := by
  have le := length_add_le_of_act ha
  have fresh : ∀ t ∈ newcomer a p, t = p.dispatch.ledger.slots.length
      ∧ p.dispatch.ledger.slots.length < p'.dispatch.ledger.slots.length := by
    intro t ht
    cases a with
    | submit q => exact ⟨List.mem_singleton.mp ht, le⟩
    | _ => cases ht
  refine ⟨places.nodup_iff.mpr (List.nodup_append.mpr ⟨?_, h.once, ?_⟩), fun t ht => ?_⟩
  · cases a with
    | submit q => exact List.nodup_singleton _
    | _ => exact List.nodup_nil
  · intro t ht u hu
    rw [(fresh t ht).1]
    exact Nat.ne_of_gt (h.range u hu)
  · rcases List.mem_append.mp (places.subset ht) with ht | ht
    · rw [(fresh t ht).1]
      exact (fresh t ht).2
    · exact Nat.lt_of_lt_of_le (h.range t ht) (Nat.le_trans (Nat.le_add_right ..) le)

/-! ## 2. The end -/

/-- All stages have ended, and nobody is left. -/
structure Settled (p : Pipeline) : Prop where
  fired : p.dispatch.stop.fired = true
  ended : ∀ stage, p.hasEnded stage = true
  table : p.dispatch.ledger.waiting = []
  queue : p.dispatch.submissions.items = []

/-- The supervisor answers everyone when all stages have ended. -/
theorem Exits.settled_of_drain (h : Exits p) (ha : Pipeline.act .drain p = some p') :
    Settled p' := by
  have fired := h.fired_of_drain ha
  have st := step_of_act ha
  generalize observe .drain p = new at st
  cases st with
  | drain exited =>
    have ended (stage : Stage) := h.ended stage ((allExited_iff p).mp exited stage)
    exact ⟨fired, ended, waiting_failAll p.dispatch, rfl⟩

/-- **A connection that is settled stays so.** -/
theorem Settled.act (h : Settled p) (ha : act a p = some p') : Settled p' := by
  have ended (stage : Stage) : p'.hasEnded stage = true := hasEnded_of_act ha (h.ended stage)
  have still (running : p.dispatch.stop.fired = false) : Settled p' := by
    rw [h.fired] at running
    cases running
  have st := step_of_act ha
  generalize observe a p = new at st
  cases st with
  | @dispatch a d hd =>
    have ended : p.dispatch.phase = .ended := of_decide_eq_true (h.ended .dispatch)
    cases a <;> simp [Dispatch.act, ended] at hd
  | submit st =>
    cases st with
    | refused => exact ⟨h.fired, ended, h.table, h.queue⟩
    | parked running | entered running => exact still running
  | enter st =>
    cases st with
    | entered running | refused running => exact still running
  | drain =>
    refine ⟨h.fired, ended, ?_, rfl⟩
    exact waiting_failAll p.dispatch
  | trigger | stageEnds => exact ⟨rfl, ended, h.table, h.queue⟩
  | serverEnds ending => cases ending <;> exact ⟨h.fired, ended, h.table, h.queue⟩
  | inbound | outbound | sendAway | arrive | abandon | report =>
    exact ⟨h.fired, ended, h.table, h.queue⟩

end Muxwire.Mux.Pipeline
