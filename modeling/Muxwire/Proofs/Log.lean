import Muxwire.Mux.Dispatch

/-!
# Logs of runs

A run leaves a log: one record for every item that goes into a queue or comes off it, first to
last. What a stage has to do is then a statement about the log alone.

* `Logged` are the runs of a system of partial actions, each with its log; `Dispatch.Run` are those
  of the dispatch stage. Every reachable state has such a run (`Dispatch.reachable_iff_run`).
* `Log.entered`, `Log.accepted` and the like list the records of one kind; `Log.packed` are the
  accepted submissions whose queries could be packed, and `Log.frames` their frames.
* `Log.Pending` says from the log who waits for a response: whoever was accepted under a sync and
  packed, if since then no response had that sync, it was not issued again, and nobody was given
  up.
-/

namespace Muxwire.Mux

open Request Wire

/-! ## 1. Records -/

/-- One entry of a log. -/
inductive Record where
  /-- A submission was queued. -/
  | entered (s : Submission)
  /-- A submission was taken off the queue and given a sync. -/
  | accepted (sync : UInt32) (s : Submission)
  /-- A frame was queued. -/
  | forwarded (frame : Octets)
  /-- A frame was taken off the queue. -/
  | taken (frame : Octets)
  /-- A response was queued. -/
  | arrived (r : Response)
  /-- A response was taken off the queue. -/
  | routed (r : Response)
  /-- Everyone on the table was given up. -/
  | givenUp
  /-- A submission was taken off the queue and given up. -/
  | drained (s : Submission)

namespace Record

/-- The submission that was queued. -/
@[simp] def entered? : Record → Option Submission
  | .entered s => some s
  | _ => none

/-- The submission that was given a sync, and the sync. -/
@[simp] def accepted? : Record → Option (UInt32 × Submission)
  | .accepted sync s => some (sync, s)
  | _ => none

/-- The submission that was given up on the queue. -/
@[simp] def drained? : Record → Option Submission
  | .drained s => some s
  | _ => none

/-- The submission that was taken off the queue. -/
@[simp] def left? : Record → Option Submission
  | .accepted _ s | .drained s => some s
  | _ => none

/-- The frame that was queued. -/
@[simp] def forwarded? : Record → Option Octets
  | .forwarded frame => some frame
  | _ => none

/-- The frame that was taken off the queue. -/
@[simp] def taken? : Record → Option Octets
  | .taken frame => some frame
  | _ => none

/-- The response that was queued. -/
@[simp] def arrived? : Record → Option Response
  | .arrived r => some r
  | _ => none

/-- The response that was taken off the queue. -/
@[simp] def routed? : Record → Option Response
  | .routed r => some r
  | _ => none

/-- Whether the record gives someone up. -/
def givesUp : Record → Bool
  | .givenUp | .drained _ => true
  | _ => false

end Record

/-! ## 2. Logs -/

/-- A log, first to last. -/
abbrev Log := List Record

/-- A submission that was packed under its sync, and its frame. -/
structure Packed where
  sync : UInt32
  submission : Submission
  frame : Octets

namespace Log

/-- The submissions that were queued. -/
def entered (log : Log) : List Submission :=
  log.filterMap Record.entered?

/-- The submissions that were given a sync. -/
def accepted (log : Log) : List (UInt32 × Submission) :=
  log.filterMap Record.accepted?

/-- The submissions that were given up on the queue. -/
def drained (log : Log) : List Submission :=
  log.filterMap Record.drained?

/-- The submissions that were taken off the queue. -/
def left (log : Log) : List Submission :=
  log.filterMap Record.left?

/-- The frames that were queued. -/
def forwarded (log : Log) : List Octets :=
  log.filterMap Record.forwarded?

/-- The frames that were taken off the queue. -/
def taken (log : Log) : List Octets :=
  log.filterMap Record.taken?

/-- The responses that were queued. -/
def arrived (log : Log) : List Response :=
  log.filterMap Record.arrived?

/-- The responses that were taken off the queue. -/
def routed (log : Log) : List Response :=
  log.filterMap Record.routed?

/-- The frame of an accepted submission, if its query can be packed. -/
def pack? (space : String) (entry : UInt32 × Submission) : Option Packed :=
  match entry.2.query.pack entry.1 space with
  | .ok frame => some ⟨entry.1, entry.2, frame⟩
  | .error _ => none

/-- The accepted submissions whose queries could be packed. -/
def packed (space : String) (log : Log) : List Packed :=
  log.accepted.filterMap (pack? space)

/-- The frames of the accepted submissions, in the order of acceptance. -/
def frames (space : String) (log : Log) : List Octets :=
  (log.packed space).map (·.frame)

/-- Someone waits for a response with the sync: the submission was accepted under it and packed,
and since then no response had the sync, it was not issued again, and nobody was given up. -/
def Pending (space : String) (log : Log) (sync : UInt32) (s : Submission) : Prop :=
  ∃ later : Log, .accepted sync s :: later <:+ log
    ∧ (∃ frame, s.query.pack sync space = .ok frame)
    ∧ (∀ r ∈ later.routed, r.sync ≠ sync) ∧ (∀ entry ∈ later.accepted, entry.1 ≠ sync)
    ∧ .givenUp ∉ later

theorem filterMap_concat {α β : Type} (f : α → Option β) (l : List α) (a : α) :
    (l ++ [a]).filterMap f = l.filterMap f ++ (f a).toList := by
  cases h : f a <;> simp [h]

@[simp] theorem entered_concat (log : Log) (x : Record) :
    (log ++ [x]).entered = log.entered ++ x.entered?.toList :=
  filterMap_concat ..

@[simp] theorem accepted_concat (log : Log) (x : Record) :
    (log ++ [x]).accepted = log.accepted ++ x.accepted?.toList :=
  filterMap_concat ..

@[simp] theorem drained_concat (log : Log) (x : Record) :
    (log ++ [x]).drained = log.drained ++ x.drained?.toList :=
  filterMap_concat ..

@[simp] theorem left_concat (log : Log) (x : Record) :
    (log ++ [x]).left = log.left ++ x.left?.toList :=
  filterMap_concat ..

@[simp] theorem forwarded_concat (log : Log) (x : Record) :
    (log ++ [x]).forwarded = log.forwarded ++ x.forwarded?.toList :=
  filterMap_concat ..

@[simp] theorem taken_concat (log : Log) (x : Record) :
    (log ++ [x]).taken = log.taken ++ x.taken?.toList :=
  filterMap_concat ..

@[simp] theorem arrived_concat (log : Log) (x : Record) :
    (log ++ [x]).arrived = log.arrived ++ x.arrived?.toList :=
  filterMap_concat ..

@[simp] theorem routed_concat (log : Log) (x : Record) :
    (log ++ [x]).routed = log.routed ++ x.routed?.toList :=
  filterMap_concat ..

@[simp] theorem packed_concat (space : String) (log : Log) (x : Record) :
    (log ++ [x]).packed space = log.packed space ++ (x.accepted?.bind (pack? space)).toList := by
  rw [packed, packed, accepted_concat, List.filterMap_append]
  cases x.accepted? with
  | none => rfl
  | some entry => cases h : pack? space entry <;> simp [h]

@[simp] theorem frames_concat (space : String) (log : Log) (x : Record) :
    (log ++ [x]).frames space
      = log.frames space ++ ((x.accepted?.bind (pack? space)).map (·.frame)).toList := by
  rw [frames, packed_concat, List.map_append]
  cases x.accepted?.bind (pack? space) <;> rfl

theorem entered_append (log more : Log) : (log ++ more).entered = log.entered ++ more.entered :=
  List.filterMap_append

theorem taken_append (log more : Log) : (log ++ more).taken = log.taken ++ more.taken :=
  List.filterMap_append

theorem routed_append (log more : Log) : (log ++ more).routed = log.routed ++ more.routed :=
  List.filterMap_append

theorem left_append (log more : Log) : (log ++ more).left = log.left ++ more.left :=
  List.filterMap_append

theorem forwarded_append (log more : Log) :
    (log ++ more).forwarded = log.forwarded ++ more.forwarded :=
  List.filterMap_append

theorem arrived_append (log more : Log) : (log ++ more).arrived = log.arrived ++ more.arrived :=
  List.filterMap_append

theorem taken_map (frames : List Octets) : Log.taken (frames.map .taken) = frames := by
  rw [taken, List.filterMap_map]
  exact List.filterMap_some

/-- A query that can be packed adds its frame. -/
theorem frames_accepted_of_ok {space : String} {log : Log} {sync : UInt32} {s : Submission}
    {frame : Octets} (h : s.query.pack sync space = .ok frame) :
    (log ++ [Record.accepted sync s]).frames space = log.frames space ++ [frame] := by
  simp [pack?, h]

/-- A query that cannot be packed adds no frame. -/
theorem frames_accepted_of_error {space : String} {log : Log} {sync : UInt32} {s : Submission}
    {e : Error} (h : s.query.pack sync space = .error e) :
    (log ++ [Record.accepted sync s]).frames space = log.frames space := by
  simp [pack?, h]

end Log

/-! ## 3. Who was accepted and packed -/

namespace Log

theorem Pending.mem_accepted {space : String} {log : Log} {sync : UInt32} {s : Submission}
    (h : Pending space log sync s) : (sync, s) ∈ log.accepted := by
  obtain ⟨later, hs, -⟩ := h
  exact List.mem_filterMap.mpr ⟨.accepted sync s, hs.subset List.mem_cons_self, rfl⟩

theorem mem_left_of_accepted {log : Log} {sync : UInt32} {s : Submission}
    (h : (sync, s) ∈ log.accepted) : s ∈ log.left := by
  obtain ⟨x, hx, ha⟩ := List.mem_filterMap.mp h
  refine List.mem_filterMap.mpr ⟨x, hx, ?_⟩
  cases x <;> cases ha
  rfl

theorem Pending.mem_left {space : String} {log : Log} {sync : UInt32} {s : Submission}
    (h : Pending space log sync s) : s ∈ log.left :=
  mem_left_of_accepted h.mem_accepted

theorem mem_packed_iff {space : String} {log : Log} {p : Packed} :
    p ∈ log.packed space
      ↔ (p.sync, p.submission) ∈ log.accepted
        ∧ p.submission.query.pack p.sync space = .ok p.frame := by
  constructor
  · intro h
    obtain ⟨⟨sync, s⟩, ha, hp⟩ := List.mem_filterMap.mp h
    rw [pack?] at hp
    split at hp
    · rename_i hk
      cases hp
      exact ⟨ha, hk⟩
    · cases hp
  · rintro ⟨ha, hp⟩
    refine List.mem_filterMap.mpr ⟨_, ha, ?_⟩
    simp [pack?, hp]

theorem Pending.mem_packed {space : String} {log : Log} {sync : UInt32} {s : Submission}
    (h : Pending space log sync s) : ∃ frame, ⟨sync, s, frame⟩ ∈ log.packed space := by
  have accepted := h.mem_accepted
  obtain ⟨later, -, ⟨frame, hp⟩, -⟩ := h
  exact ⟨frame, mem_packed_iff.mpr ⟨accepted, hp⟩⟩

theorem entered_mono {log log' : Log} (h : log <+: log') : log.entered <+: log'.entered :=
  h.filterMap _

theorem accepted_mono {log log' : Log} (h : log <+: log') : log.accepted <+: log'.accepted :=
  h.filterMap _

theorem packed_mono {space : String} {log log' : Log} (h : log <+: log') :
    log.packed space <+: log'.packed space :=
  (accepted_mono h).filterMap _

/-- The packed submissions have their syncs in the order of acceptance. -/
theorem packed_syncs_sublist (space : String) (log : Log) :
    ((log.packed space).map (·.sync)).Sublist (log.accepted.map Prod.fst) := by
  rw [packed]
  generalize log.accepted = entries
  induction entries with
  | nil => exact .slnil
  | cons entry entries ih =>
    cases h : pack? space entry with
    | none =>
      rw [List.filterMap_cons_none h]
      exact ih.cons _
    | some p =>
      have sync : p.sync = entry.1 := by
        rw [pack?] at h
        split at h <;> cases h
        rfl
      rw [List.filterMap_cons_some h, List.map_cons, List.map_cons, sync]
      exact ih.cons_cons _

end Log

/-! ## 4. Runs -/

/-- The runs of a system from a state: the log of a run, and the state that it comes to. -/
inductive Logged {σ α : Type} (act : α → σ → Option σ) (observe : α → σ → Log) (s₀ : σ) :
    Log → σ → Prop where
  | start : Logged act observe s₀ [] s₀
  | step {log : Log} {s s' : σ} (a : α) :
      Logged act observe s₀ log s → act a s = some s' →
        Logged act observe s₀ (log ++ observe a s) s'

namespace Logged

variable {σ α : Type} {act : α → σ → Option σ} {observe : α → σ → Log}

/-- A run after a first step. -/
theorem head {s₀ s₁ s : σ} {log : Log} (a : α) (h : act a s₀ = some s₁)
    (run : Logged act observe s₁ log s) : Logged act observe s₀ (observe a s₀ ++ log) s := by
  induction run with
  | start => simpa using Logged.step a .start h
  | step b _ hb ih =>
    rw [← List.append_assoc]
    exact .step b ih hb

/-- A run after another one. -/
theorem trans {s₀ s₁ s : σ} {log more : Log} (run : Logged act observe s₀ log s₁)
    (rest : Logged act observe s₁ more s) : Logged act observe s₀ (log ++ more) s := by
  induction rest with
  | start => rwa [List.append_nil]
  | step a _ ha ih =>
    rw [← List.append_assoc]
    exact .step a ih ha

/-- The run that takes the given actions, if they are possible one after the other. -/
def follow (act : α → σ → Option σ) (observe : α → σ → Log) : List α → σ → Option (Log × σ)
  | [], s => some ([], s)
  | a :: as, s => do
    let s' ← act a s
    let (log, last) ← follow act observe as s'
    some (observe a s ++ log, last)

theorem follow_cons {a : α} {as : List α} {s s' last : σ} {log : Log} (ha : act a s = some s')
    (h : follow act observe as s' = some (log, last)) :
    follow act observe (a :: as) s = some (observe a s ++ log, last) := by
  simp [follow, ha, h]

theorem of_follow : ∀ (as : List α) {s₀ s : σ} {log : Log},
    follow act observe as s₀ = some (log, s) → Logged act observe s₀ log s
  | [], s₀, s, log, h => by
    simp only [follow, Option.some.injEq, Prod.mk.injEq] at h
    obtain ⟨rfl, rfl⟩ := h
    exact .start
  | a :: as, s₀, s, log, h => by
    simp only [follow, Option.bind_eq_bind, Option.bind_eq_some_iff] at h
    obtain ⟨s₁, h₁, ⟨rest, last⟩, h₂, h⟩ := h
    cases h
    exact head a h₁ (of_follow as h₂)

theorem follow_concat {as : List α} {a : α} {s₀ s s' : σ} {log : Log}
    (h : follow act observe as s₀ = some (log, s)) (ha : act a s = some s') :
    follow act observe (as ++ [a]) s₀ = some (log ++ observe a s, s') := by
  induction as generalizing s₀ log with
  | nil =>
    cases h
    simp [follow, ha]
  | cons b as ih =>
    simp only [follow, Option.bind_eq_bind, Option.bind_eq_some_iff] at h
    obtain ⟨s₁, h₁, ⟨rest, last⟩, h₂, h⟩ := h
    cases h
    rw [List.append_assoc]
    exact follow_cons h₁ (ih h₂)

/-- Every run takes some actions one after the other. -/
theorem exists_follow {s₀ s : σ} {log : Log} (run : Logged act observe s₀ log s) :
    ∃ as, follow act observe as s₀ = some (log, s) := by
  induction run with
  | start => exact ⟨[], rfl⟩
  | step a _ ha ih =>
    obtain ⟨as, h⟩ := ih
    exact ⟨as ++ [a], follow_concat h ha⟩

end Logged

namespace Dispatch

/-- What an event that is possible adds to the log. -/
def observe (e : Event) (d : Dispatch) : Log :=
  match e with
  | .acts .takeSubmission =>
    (d.submissions.pop?.map fun (s, _) => .accepted d.counter.following s).toList
  | .acts .takeResponse => (d.responses.pop?.map fun (r, _) => .routed r).toList
  | .acts .forward =>
    match d.phase with
    | .forwarding frame => if (d.outbound.push frame).1 = .queued then [.forwarded frame] else []
    | _ => []
  | .submit q =>
    let s : Submission := ⟨q, d.ledger.slots.length⟩
    if (d.submissions.push s).1 = .queued then [.entered s] else []
  | .respond r => if (d.responses.push r).1 = .queued then [.arrived r] else []
  | .takeFrames n => (d.takeFrames n).1.map .taken
  | _ => []

/-- The stage itself gives up nobody. -/
theorem not_givesUp_observe {e : Event} {d : Dispatch} {x : Record} (hx : x ∈ observe e d) :
    x.givesUp = false := by
  cases e with
  | acts a =>
    cases a with
    | takeSubmission =>
      obtain ⟨s, -, rfl⟩ := Option.map_eq_some_iff.mp (Option.mem_toList.mp hx)
      rfl
    | takeResponse =>
      obtain ⟨r, -, rfl⟩ := Option.map_eq_some_iff.mp (Option.mem_toList.mp hx)
      rfl
    | forward =>
      simp only [observe] at hx
      split at hx
      · split at hx
        · cases List.mem_singleton.mp hx
          rfl
        · cases hx
      · cases hx
    | _ => cases hx
  | submit q =>
    simp only [observe] at hx
    split at hx
    · cases List.mem_singleton.mp hx
      rfl
    · cases hx
  | respond r =>
    simp only [observe] at hx
    split at hx
    · cases List.mem_singleton.mp hx
      rfl
    · cases hx
  | takeFrames n =>
    obtain ⟨frame, -, rfl⟩ := List.mem_map.mp hx
    rfl
  | _ => cases hx

/-- The runs of the stage, through its own actions and what the world around does. -/
abbrev Run (d₀ : Dispatch) : Log → Dispatch → Prop :=
  Logged occur observe d₀

/-- Nobody is given up in a run of the stage. -/
theorem not_givesUp_of_run {d₀ d : Dispatch} {log : Log} (run : Run d₀ log d) {x : Record}
    (hx : x ∈ log) : x.givesUp = false := by
  induction run with
  | start => cases hx
  | step e _ _ ih =>
    rcases List.mem_append.mp hx with hx | hx
    · exact ih hx
    · exact not_givesUp_observe hx

/-- **The states that have a run are the reachable ones.** -/
theorem reachable_iff_run {d₀ d : Dispatch} : Reachable d₀ d ↔ ∃ log, Run d₀ log d := by
  constructor
  · intro h
    induction h with
    | refl => exact ⟨[], .start⟩
    | step e _ he ih =>
      obtain ⟨log, run⟩ := ih
      exact ⟨_, .step e run he⟩
  · rintro ⟨log, run⟩
    induction run with
    | start => exact .refl
    | step e _ he ih => exact .step e ih he

end Dispatch

end Muxwire.Mux
