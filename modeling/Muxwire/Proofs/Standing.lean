import Mathlib.Data.List.Induction
import Muxwire.Proofs.Log
import Muxwire.Proofs.Pack

/-!
# The standing of a submission

What has become of a submission, read off the log.

* `Log.standing` folds the log: from the queue to the table (`waiting`) or straight to its reply
  (`settled`), and from the table to its reply. No record takes a reply back.
* **`Log.standing_eq_waiting_iff`** -- who waits under a sync is who is `Pending` under it.
* **`Log.cause_of_settled`** -- whoever has a reply has it for one of five causes (`Cause`), and
  the log shows the record that brought it.
-/

namespace Muxwire.Mux

open Request Wire

/-! ## 1. Standings -/

/-- What has become of a submission. -/
inductive Standing where
  /-- On the queue, or not there yet. -/
  | queued
  /-- Packed, and on the table under a sync. -/
  | waiting (sync : UInt32)
  | settled (r : Reply)

namespace Standing

/-- What the slot of the submission holds. -/
def replies : Standing → List Reply
  | .settled r => [r]
  | _ => []

/-- The standing after replies to whoever waits, by sync. -/
def receive (reply? : UInt32 → Option Reply) : Standing → Standing
  | .waiting sync =>
    match reply? sync with
    | some r => .settled r
    | none => .waiting sync
  | st => st

@[simp] theorem replies_queued : queued.replies = [] := rfl

@[simp] theorem replies_waiting (sync : UInt32) : (waiting sync).replies = [] := rfl

@[simp] theorem replies_settled (r : Reply) : (settled r).replies = [r] := rfl

@[simp] theorem receive_queued (f : UInt32 → Option Reply) : queued.receive f = .queued := rfl

@[simp] theorem receive_settled (f : UInt32 → Option Reply) (r : Reply) :
    (settled r).receive f = .settled r := rfl

theorem receive_waiting_of_some {f : UInt32 → Option Reply} {sync : UInt32} {r : Reply}
    (h : f sync = some r) : (waiting sync).receive f = .settled r := by
  simp [receive, h]

theorem receive_waiting_of_none {f : UInt32 → Option Reply} {sync : UInt32} (h : f sync = none) :
    (waiting sync).receive f = .waiting sync := by
  simp [receive, h]

/-- Replies that go to nobody change nothing. -/
@[simp] theorem receive_none (st : Standing) : st.receive (fun _ => none) = st := by
  cases st <;> rfl

/-- Replies that come later go to whoever got none before. -/
theorem receive_receive (f g : UInt32 → Option Reply) (st : Standing) :
    (st.receive f).receive g = st.receive fun sync => (f sync).or (g sync) := by
  cases st with
  | queued => rfl
  | settled r => rfl
  | waiting sync => cases h : f sync <;> simp [receive, h]

theorem receive_eq_queued_iff {f : UInt32 → Option Reply} {st : Standing} :
    st.receive f = .queued ↔ st = .queued := by
  cases st with
  | queued => simp
  | waiting sync => cases h : f sync <;> simp [receive, h]
  | settled r => simp

theorem receive_eq_waiting_iff {f : UInt32 → Option Reply} {st : Standing} {sync : UInt32} :
    st.receive f = .waiting sync ↔ st = .waiting sync ∧ f sync = none := by
  cases st with
  | queued => simp
  | settled r => simp
  | waiting other =>
    cases h : f other with
    | some r =>
      rw [receive_waiting_of_some h]
      refine ⟨nofun, ?_⟩
      rintro ⟨he, hn⟩
      cases he
      rw [h] at hn
      cases hn
    | none =>
      rw [receive_waiting_of_none h]
      refine ⟨fun he => ⟨he, ?_⟩, And.left⟩
      cases he
      exact h

/-- A reply was there before, or comes to someone who waits. -/
theorem receive_eq_settled_iff {f : UInt32 → Option Reply} {st : Standing} {r : Reply} :
    st.receive f = .settled r
      ↔ st = .settled r ∨ ∃ sync, st = .waiting sync ∧ f sync = some r := by
  cases st with
  | queued => simp
  | settled r => simp
  | waiting sync => cases h : f sync <;> simp [receive, h]

end Standing

/-! ## 2. What a record does to a standing -/

namespace Record

/-- The reply that a record brings to whoever waits for `sync`, if it brings one. -/
def settles? (sync : UInt32) : Record → Option Reply
  | .accepted other _ =>
    if other = sync then
      some (.error (.connection s!"request id {sync.toNat} reissued while pending"))
    else none
  | .routed r => if r.sync = sync then some (.ok r) else none
  | .givenUp => some (.error .connectionClosed)
  | _ => none

/-- Where a record puts the submission with a ticket, if it takes that one off the queue. -/
def places? (space : String) (t : Ticket) : Record → Option Standing
  | .accepted sync s =>
    if s.ticket = t then
      match s.query.pack sync space with
      | .error e => some (.settled (.error e))
      | .ok _ => some (.waiting sync)
    else none
  | .drained s => if s.ticket = t then some (.settled (.error .connectionClosed)) else none
  | _ => none

/-- The standing of the submission with a ticket after one more record. -/
def next (space : String) (t : Ticket) (st : Standing) (x : Record) : Standing :=
  match x.places? space t with
  | some placed => placed
  | none => st.receive x.settles?

/-- The records that bring a reply. -/
theorem settles?_cases {x : Record} {sync : UInt32} {r : Reply} (h : x.settles? sync = some r) :
    (∃ s, x = .accepted sync s
        ∧ r = .error (.connection s!"request id {sync.toNat} reissued while pending"))
      ∨ (∃ answer : Response, x = .routed answer ∧ answer.sync = sync ∧ r = .ok answer)
      ∨ (x = .givenUp ∧ r = .error .connectionClosed) := by
  cases x with
  | accepted other s =>
    by_cases he : other = sync
    · subst he
      exact .inl ⟨s, rfl, by simpa [settles?] using h.symm⟩
    · simp [settles?, he] at h
  | routed answer =>
    by_cases he : answer.sync = sync
    · exact .inr (.inl ⟨answer, rfl, he, by simpa [settles?, he] using h.symm⟩)
    · simp [settles?, he] at h
  | givenUp => exact .inr (.inr ⟨rfl, by simpa [settles?] using h.symm⟩)
  | _ => cases h

/-- The records that take the submission with a ticket off the queue. -/
theorem places?_cases {space : String} {t : Ticket} {x : Record} {placed : Standing}
    (h : x.places? space t = some placed) :
    (∃ sync s frame, x = .accepted sync s ∧ s.ticket = t ∧ s.query.pack sync space = .ok frame
        ∧ placed = .waiting sync)
      ∨ (∃ sync s text, x = .accepted sync s ∧ s.ticket = t
        ∧ s.query.pack sync space = .error (.query text) ∧ placed = .settled (.error (.query text)))
      ∨ (∃ s, x = .drained s ∧ s.ticket = t ∧ placed = .settled (.error .connectionClosed)) := by
  cases x with
  | accepted sync s =>
    by_cases he : s.ticket = t
    · cases hp : s.query.pack sync space with
      | ok frame =>
        exact .inl ⟨sync, s, frame, rfl, he, hp, by simpa [places?, he, hp] using h.symm⟩
      | error e =>
        obtain ⟨text, rfl⟩ := Query.pack_error hp
        exact .inr (.inl ⟨sync, s, text, rfl, he, hp, by simpa [places?, he, hp] using h.symm⟩)
    · simp [places?, he] at h
  | drained s =>
    by_cases he : s.ticket = t
    · exact .inr (.inr ⟨s, rfl, he, by simpa [places?, he] using h.symm⟩)
    · simp [places?, he] at h
  | _ => cases h

theorem places?_accepted_of_ok {space : String} {sync : UInt32} {s : Submission} {frame : Octets}
    (h : s.query.pack sync space = .ok frame) :
    (accepted sync s).places? space s.ticket = some (.waiting sync) := by
  simp [places?, h]

end Record

/-! ## 3. Standings in a log -/

namespace Log

/-- The standing of the submission with a ticket, as the log says. -/
def standing (space : String) (t : Ticket) (log : Log) : Standing :=
  log.foldl (Record.next space t) .queued

@[simp] theorem standing_concat (space : String) (t : Ticket) (log : Log) (x : Record) :
    (log ++ [x]).standing space t = Record.next space t (log.standing space t) x := by
  simp [standing]

/-- Only who is taken off the queue leaves it. -/
theorem standing_eq_queued_iff {space : String} {t : Ticket} {log : Log} :
    log.standing space t = .queued ↔ ∀ s ∈ log.left, s.ticket ≠ t := by
  induction log using List.reverseRecOn with
  | nil => exact ⟨fun _ _ hs => absurd hs List.not_mem_nil, fun _ => rfl⟩
  | append_singleton log x ih =>
    rw [standing_concat, left_concat, Record.next]
    cases x with
    | accepted sync s =>
      by_cases h : s.ticket = t
      · cases hp : s.query.pack sync space <;> simp [Record.places?, h, hp]
      · simp [Record.places?, h, Standing.receive_eq_queued_iff, ih, or_imp, forall_and]
    | drained s =>
      by_cases h : s.ticket = t
      · simp [Record.places?, h]
      · simp [Record.places?, h, Standing.receive_eq_queued_iff, ih, or_imp, forall_and]
    | _ => simp [Record.places?, Standing.receive_eq_queued_iff, ih]

/-- Whoever has left the queue is not taken off it again. -/
theorem places?_eq_none_of_mem_left {space : String} {log : Log} {x : Record} {s : Submission}
    (once : ((log ++ [x]).left.map (·.ticket)).Nodup) (hs : s ∈ log.left) :
    x.places? space s.ticket = none := by
  rw [left_concat, List.map_append, List.nodup_append] at once
  obtain ⟨-, -, disjoint⟩ := once
  cases h : x.places? space s.ticket with
  | none => rfl
  | some placed =>
    rcases Record.places?_cases h with ⟨_, s', _, rfl, ht, -⟩ | ⟨_, s', _, rfl, ht, -⟩
      | ⟨s', rfl, ht, -⟩
    all_goals
      exact absurd ht.symm (disjoint _ (List.mem_map_of_mem hs) _ (List.mem_singleton_self _))

/-- **No record takes a reply back**, if no ticket left the queue twice. -/
theorem standing_eq_settled_of_prefix {space : String} {t : Ticket} {log log' : Log} {r : Reply}
    (h : log <+: log') (once : (log'.left.map (·.ticket)).Nodup)
    (hs : log.standing space t = .settled r) : log'.standing space t = .settled r := by
  obtain ⟨more, rfl⟩ := h
  induction more using List.reverseRecOn with
  | nil =>
    rw [List.append_nil]
    exact hs
  | append_singleton more x ih =>
    rw [← List.append_assoc] at once
    have before : ((log ++ more).left.map (·.ticket)).Nodup := by
      rw [left_concat, List.map_append] at once
      exact (List.nodup_append.mp once).1
    have kept := ih before
    -- whoever has a reply left the queue before, so `x` cannot be the record by which it leaves
    have known : ∃ s ∈ (log ++ more).left, s.ticket = t := by
      refine Decidable.byContradiction fun none => ?_
      have queued : (log ++ more).standing space t = .queued :=
        standing_eq_queued_iff.mpr fun s hl ht => none ⟨s, hl, ht⟩
      rw [kept] at queued
      cases queued
    obtain ⟨s, hl, rfl⟩ := known
    rw [← List.append_assoc, standing_concat, Record.next, places?_eq_none_of_mem_left once hl,
      kept, Standing.receive_settled]

/-- Who is pending after one more record: who was accepted by it, or was pending before and got
no reply by it. -/
theorem pending_concat {space : String} {log : Log} {x : Record} {sync : UInt32} {s : Submission} :
    Pending space (log ++ [x]) sync s
      ↔ (x = .accepted sync s ∧ ∃ frame, s.query.pack sync space = .ok frame)
        ∨ (Pending space log sync s ∧ x.settles? sync = none) := by
  constructor
  · rintro ⟨later, hs, hp, hr, ha, hg⟩
    rcases List.suffix_concat_iff.mp hs with h | ⟨front, hf, hfront⟩
    · cases h
    · cases front with
      | nil =>
        cases hf
        exact .inl ⟨rfl, hp⟩
      | cons y front =>
        cases hf
        refine .inr ⟨⟨front, hfront, hp, ?_, ?_, ?_⟩, ?_⟩
        · intro r h
          exact hr r (by simp [h])
        · intro entry h
          exact ha entry (by simp [h])
        · intro h
          exact hg (by simp [h])
        · cases x with
          | accepted other s' => simpa [Record.settles?] using ha (other, s') (by simp)
          | routed r => simpa [Record.settles?] using hr r (by simp)
          | givenUp => simp at hg
          | _ => rfl
  · rintro (⟨rfl, hp⟩ | ⟨⟨later, hs, hp, hr, ha, hg⟩, hx⟩)
    · refine ⟨[], List.suffix_append _ _, hp, ?_, ?_, List.not_mem_nil⟩
      · intro r hr
        cases hr
      · intro entry he
        cases he
    · refine ⟨later ++ [x], List.suffix_concat_iff.mpr (.inr ⟨_, rfl, hs⟩), hp, ?_, ?_, ?_⟩
      · intro r h
        rw [routed_concat, List.mem_append] at h
        rcases h with h | h
        · exact hr r h
        · cases x <;> simp_all [Record.settles?]
      · intro e h
        rw [accepted_concat, List.mem_append] at h
        rcases h with h | h
        · exact ha e h
        · cases x <;> simp_all [Record.settles?]
      · intro h
        rcases List.mem_append.mp h with h | h
        · exact hg h
        · cases List.mem_singleton.mp h
          cases hx

/-- No record of the log settles a sync. -/
def Quiet (sync : UInt32) (log : Log) : Prop :=
  ∀ x ∈ log, x.settles? sync = none

/-- What settles a sync is a response, another submission, or the end. -/
theorem quiet_iff {sync : UInt32} {log : Log} : log.Quiet sync
    ↔ (∀ r ∈ log.routed, r.sync ≠ sync) ∧ (∀ entry ∈ log.accepted, entry.1 ≠ sync)
      ∧ .givenUp ∉ log := by
  constructor
  · intro quiet
    refine ⟨fun r hr he => ?_, fun entry ha he => ?_, fun hg => ?_⟩
    · obtain ⟨x, hx, h⟩ := List.mem_filterMap.mp hr
      have none := quiet x hx
      cases x <;> cases h
      simp [Record.settles?, he] at none
    · obtain ⟨x, hx, h⟩ := List.mem_filterMap.mp ha
      have none := quiet x hx
      cases x <;> cases h
      exact absurd he (by simpa [Record.settles?] using none)
    · cases quiet .givenUp hg
  · intro h x hx
    rcases h with ⟨hr, ha, hg⟩
    cases hset : x.settles? sync with
    | none => rfl
    | some reply =>
      rcases Record.settles?_cases hset with ⟨other, rfl, -⟩ | ⟨answer, rfl, hs, -⟩ | ⟨rfl, -⟩
      · exact absurd rfl (ha (sync, other) (List.mem_filterMap.mpr ⟨_, hx, rfl⟩))
      · exact absurd hs (hr answer (List.mem_filterMap.mpr ⟨_, hx, rfl⟩))
      · exact absurd hx hg

/-- Whom no record settles goes on waiting. -/
theorem Pending.append {space : String} {log more : Log} {sync : UInt32} {s : Submission}
    (h : Pending space log sync s) (quiet : more.Quiet sync) :
    Pending space (log ++ more) sync s := by
  induction more using List.reverseRecOn with
  | nil =>
    rw [List.append_nil]
    exact h
  | append_singleton more x ih =>
    rw [← List.append_assoc]
    have before := ih fun y hy => quiet y (List.mem_append_left _ hy)
    have last := quiet x (List.mem_append_right _ (List.mem_singleton_self x))
    exact pending_concat.mpr (.inr ⟨before, last⟩)

/-- **Who waits under a sync is who is pending under it**, if no ticket left the queue twice. -/
theorem standing_eq_waiting_iff {space : String} {t : Ticket} {log : Log} {sync : UInt32}
    (once : (log.left.map (·.ticket)).Nodup) :
    log.standing space t = .waiting sync ↔ ∃ s, s.ticket = t ∧ Pending space log sync s := by
  induction log using List.reverseRecOn with
  | nil =>
    constructor
    · intro h
      cases h
    · rintro ⟨s, -, later, hs, -⟩
      cases List.suffix_nil.mp hs
  | append_singleton log x ih =>
    rw [left_concat, List.map_append, List.nodup_append] at once
    obtain ⟨before, -, disjoint⟩ := once
    specialize ih before
    simp only [standing_concat, pending_concat, Record.next]
    cases h : x.places? space t with
    | none =>
      rw [Standing.receive_eq_waiting_iff, ih]
      constructor
      · rintro ⟨⟨s, ht, hs⟩, hx⟩
        exact ⟨s, ht, .inr ⟨hs, hx⟩⟩
      · rintro ⟨s, rfl, ⟨rfl, frame, hp⟩ | ⟨hs, hx⟩⟩
        · rw [Record.places?_accepted_of_ok hp] at h
          cases h
        · exact ⟨⟨s, rfl, hs⟩, hx⟩
    | some placed =>
      -- who leaves the queue by `x` did not leave it before, so nobody with its ticket waits
      have fresh : ∀ s, x.left? = some s → s.ticket = t → standing space t log = .queued := by
        intro s hx ht
        refine standing_eq_queued_iff.mpr ?_
        intro s' hs' he
        refine disjoint s'.ticket (List.mem_map_of_mem hs') t ?_ he
        rw [hx, ← ht]
        exact List.mem_singleton_self _
      have nobody : ∀ s, s.ticket = t → ¬ Pending space log sync s := by
        intro s ht hs
        have hw := ih.mpr ⟨s, ht, hs⟩
        rcases Record.places?_cases h with ⟨_, s', _, rfl, ht', -⟩ | ⟨_, s', _, rfl, ht', -⟩
          | ⟨s', rfl, ht', -⟩
        all_goals
          rw [fresh s' rfl ht'] at hw
          cases hw
      constructor
      · rintro rfl
        rcases Record.places?_cases h with ⟨_, s, frame, rfl, ht, hp, hw⟩ | ⟨_, _, _, -, -, -, hw⟩
          | ⟨_, -, -, hw⟩
        · cases hw
          exact ⟨s, ht, .inl ⟨rfl, frame, hp⟩⟩
        · cases hw
        · cases hw
      · rintro ⟨s, rfl, ⟨rfl, frame, hp⟩ | ⟨hs, -⟩⟩
        · rw [Record.places?_accepted_of_ok hp] at h
          exact (Option.some.inj h).symm
        · exact absurd hs (nobody s rfl)

end Log

/-! ## 4. Causes -/

/-- Why a submission got its reply. -/
inductive Cause (space : String) (log : Log) (s : Submission) : Reply → Prop where
  /-- A response with its sync was taken off the queue while it was pending. -/
  | answered {before : Log} {r : Response} : before ++ [.routed r] <+: log →
      Log.Pending space before r.sync s → Cause space log s (.ok r)
  /-- Its own query could not be packed. -/
  | unpackable {before : Log} {sync : UInt32} {text : String} :
      before ++ [.accepted sync s] <+: log → s.query.pack sync space = .error (.query text) →
      Cause space log s (.error (.query text))
  /-- Its sync was issued again while it was pending. -/
  | reissued {before : Log} {sync : UInt32} {other : Submission} :
      before ++ [.accepted sync other] <+: log → Log.Pending space before sync s →
      Cause space log s (.error (.connection s!"request id {sync.toNat} reissued while pending"))
  /-- Everyone was given up while it was pending. -/
  | givenUp {before : Log} {sync : UInt32} : before ++ [.givenUp] <+: log →
      Log.Pending space before sync s → Cause space log s (.error .connectionClosed)
  /-- It was taken off the queue and given up. -/
  | drained {before : Log} : before ++ [.drained s] <+: log →
      Cause space log s (.error .connectionClosed)

/-- A cause stays one. -/
theorem Cause.mono {space : String} {log log' : Log} {s : Submission} {r : Reply}
    (h : log <+: log') : Cause space log s r → Cause space log' s r
  | .answered hb hp => .answered (hb.trans h) hp
  | .unpackable hb hp => .unpackable (hb.trans h) hp
  | .reissued hb hp => .reissued (hb.trans h) hp
  | .givenUp hb hp => .givenUp (hb.trans h) hp
  | .drained hb => .drained (hb.trans h)

namespace Log

/-- **A reply has a cause in the log.** -/
theorem cause_of_settled {space : String} {t : Ticket} {log : Log} {r : Reply}
    (once : (log.left.map (·.ticket)).Nodup) (h : log.standing space t = .settled r) :
    ∃ s ∈ log.left, s.ticket = t ∧ Cause space log s r := by
  induction log using List.reverseRecOn with
  | nil => cases h
  | append_singleton log x ih =>
    rw [left_concat, List.map_append] at once
    have before := (List.nodup_append.mp once).1
    rw [standing_concat, Record.next] at h
    rw [left_concat]
    cases hx : x.places? space t with
    | none =>
      rw [hx] at h
      rcases Standing.receive_eq_settled_iff.mp h with h | ⟨sync, hw, hr⟩
      · obtain ⟨s, hs, ht, hc⟩ := ih before h
        exact ⟨s, List.mem_append_left _ hs, ht, hc.mono (List.prefix_append ..)⟩
      · obtain ⟨s, ht, hp⟩ := (standing_eq_waiting_iff before).mp hw
        refine ⟨s, List.mem_append_left _ hp.mem_left, ht, ?_⟩
        rcases Record.settles?_cases hr with
          ⟨other, rfl, rfl⟩ | ⟨answer, rfl, rfl, rfl⟩ | ⟨rfl, rfl⟩
        · exact .reissued (List.prefix_refl _) hp
        · exact .answered (List.prefix_refl _) hp
        · exact .givenUp (List.prefix_refl _) hp
    | some placed =>
      rw [hx] at h
      subst h
      rcases Record.places?_cases hx with ⟨_, _, _, -, -, -, h⟩ | ⟨sync, s, text, rfl, ht, hp, h⟩
        | ⟨s, rfl, ht, h⟩
      · cases h
      · cases h
        exact ⟨s, by simp, ht, .unpackable (List.prefix_refl _) hp⟩
      · cases h
        exact ⟨s, by simp, ht, .drained (List.prefix_refl _)⟩

end Log

end Muxwire.Mux
