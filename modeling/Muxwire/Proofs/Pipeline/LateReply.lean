import Muxwire.Proofs.Headers
import Muxwire.Proofs.Pipeline.Course

/-!
# Replies that are still queued at the end

A response that the inbound stage has queued is not yet with its caller. What becomes of it is
decided by the dispatch stage, which ends as soon as it follows the stop signal, and the queue is
lost with it.

* `Awaited` -- someone waits for the response that is queued next.
* **`run_lateReply`** -- the caller gets this response exactly if the dispatch stage still takes it
  off the queue. Only the end of that stage can prevent this, and then the caller is told that the
  connection closed.
* `queued_then_closed` -- that does happen: with one frame of room, the dispatch stage waits to
  forward the next request while the response to the first one is on the queue, and leaves it there
  when the stop signal fires.

NOT here: that the dispatch stage takes what is on the queue before it ends. It does not.
-/

namespace Muxwire.Mux

open Request Wire Msgpack

namespace Dispatch

variable {d₀ d d' : Dispatch} {log : Log}

/-! ## 1. When someone was given up -/

/-- Everyone is given up only after the end. -/
theorem Course.ended_of_givenUp (c : Course d₀ log d) (h : .givenUp ∈ log) : d.phase = .ended := by
  induction c with
  | start => cases h
  | @step log d d' x c m ih =>
    rcases List.mem_append.mp h with h | h
    · exact m.ended (ih h)
    · cases m with
      | giveUp hp => exact hp
      | _ => simp at h

/-- What is on the log was added by a move. -/
theorem Course.exists_move {front : Log} {x : Record} (c : Course d₀ log d)
    (h : front ++ [x] <+: log) : ∃ d₁ d₂, Course d₀ front d₁ ∧ Move front d₁ (some x) d₂ := by
  induction c with
  | start =>
    have none := List.prefix_nil.mp h
    simp at none
  | @step log d d' y c m ih =>
    cases y with
    | none =>
      rw [Option.toList_none, List.append_nil] at h
      exact ih h
    | some y =>
      rcases List.prefix_concat_iff.mp h with h | h
      · obtain ⟨rfl, same⟩ := List.append_inj' h rfl
        cases same
        exact ⟨d, d', c, m⟩
      · exact ih h

/-- Before a response is queued nobody was given up. -/
theorem Course.not_givenUp_of_arrived {front : Log} {r : Response} (blank : Blank d₀)
    (there : d₀.responses.receiving = true) (c : Course d₀ log d)
    (h : front ++ [.arrived r] <+: log) : .givenUp ∉ front := by
  obtain ⟨d₁, d₂, c₁, m⟩ := c.exists_move h
  intro given
  cases m with
  | arrive hq =>
    have receiving := ((Queue.push_queued_iff _ _).mp hq).2.1
    exact (c₁.receiving_iff blank there).mp receiving (c₁.ended_of_givenUp given)

/-- Before a response is taken off the queue nobody was given up. -/
theorem Course.not_givenUp_of_routed {front : Log} {r : Response} (c : Course d₀ log d)
    (h : front ++ [.routed r] <+: log) : .givenUp ∉ front := by
  obtain ⟨d₁, d₂, c₁, m⟩ := c.exists_move h
  intro given
  have ended := c₁.ended_of_givenUp given
  cases m with
  | route hp =>
    rw [ended] at hp
    cases hp

end Dispatch

/-! ## 2. The first record that settles a request -/

namespace Log

variable {space : String} {log : Log} {sync : UInt32} {s : Submission}

/-- The log up to one of its records. -/
theorem upTo (front back : Log) (x : Record) : front ++ [x] <+: front ++ x :: back :=
  ⟨back, by simp⟩

/-- The responses that were queued and not taken off the queue. -/
def backlog (log : Log) : List Response :=
  log.arrived.drop log.routed.length

/-- Whom a record settles has the reply from then on. -/
theorem Pending.settled {x : Record} {reply : Reply} {back : Log} (h : Pending space log sync s)
    (hx : x.settles? sync = some reply)
    (once : ((log ++ x :: back).left.map (·.ticket)).Nodup) :
    (log ++ x :: back).standing space s.ticket = .settled reply := by
  have hl : log <+: log ++ x :: back := List.prefix_append _ _
  have hx' : log ++ [x] <+: log ++ x :: back := upTo log back x
  have waiting : log.standing space s.ticket = .waiting sync :=
    (standing_eq_waiting_iff (((hl.filterMap _).map _).sublist.nodup once)).mpr ⟨s, rfl, h⟩
  have gone : x.places? space s.ticket = none :=
    places?_eq_none_of_mem_left (((hx'.filterMap _).map _).sublist.nodup once) h.mem_left
  refine standing_eq_settled_of_prefix hx' once ?_
  rw [standing_concat, Record.next, gone, waiting]
  exact Standing.receive_waiting_of_some hx

/-- Either no record settles a sync, or there is a first one. -/
theorem first_settles (sync : UInt32) (log : Log) :
    log.Quiet sync
      ∨ ∃ front x back reply, log = front ++ x :: back ∧ x.settles? sync = some reply
        ∧ Quiet sync front := by
  cases hf : log.find? fun x => (x.settles? sync).isSome with
  | none =>
    left
    intro x hx
    have none := List.find?_eq_none.mp hf x hx
    simpa using none
  | some x =>
    right
    obtain ⟨hx, front, back, rfl, quiet⟩ := List.find?_eq_some_iff_append.mp hf
    obtain ⟨reply, hr⟩ := Option.isSome_iff_exists.mp hx
    exact ⟨front, x, back, reply, rfl, hr, fun y hy => by simpa using quiet y hy⟩

end Log

/-- Of two lists of which one begins the other, the first elements with a property are the same. -/
theorem eq_of_first {α : Type} {P : α → Prop} {xs ys zs : List α} {a b : α}
    (h : xs ++ [a] <+: ys ++ b :: zs) (hx : ∀ x ∈ xs, ¬ P x) (hy : ∀ y ∈ ys, ¬ P y) (ha : P a)
    (hb : P b) : xs = ys ∧ a = b := by
  induction xs generalizing ys with
  | nil =>
    cases ys with
    | nil => exact ⟨rfl, (List.cons_prefix_cons.mp h).1⟩
    | cons y ys =>
      obtain ⟨rfl, -⟩ := List.cons_prefix_cons.mp h
      exact absurd ha (hy a List.mem_cons_self)
  | cons x xs ih =>
    cases ys with
    | nil =>
      obtain ⟨rfl, -⟩ := List.cons_prefix_cons.mp h
      exact absurd hb (hx x List.mem_cons_self)
    | cons y ys =>
      obtain ⟨rfl, htail⟩ := List.cons_prefix_cons.mp h
      obtain ⟨rfl, rfl⟩ := ih htail (fun u hu => hx u (List.mem_cons_of_mem _ hu))
        fun u hu => hy u (List.mem_cons_of_mem _ hu)
      exact ⟨rfl, rfl⟩

/-- What was queued was taken off or is the backlog. -/
theorem Dispatch.Course.arrived_eq {d₀ d : Dispatch} {log : Log} (c : Course d₀ log d)
    (blank : Blank d₀) : log.arrived = log.routed ++ log.backlog :=
  List.prefix_iff_eq_append.mp
    ((List.prefix_append _ _).trans (c.inOrder blank).routed.cut) |>.symm

namespace Pipeline

open Dispatch

/-! ## 3. The end of a pipeline -/

/-- The rest is answered exactly when everyone is given up. -/
theorem drained_iff {d₀ : Dispatch} {log : Log} {p : Pipeline} (run : Run (.start d₀) log p) :
    p.drained = true ↔ .givenUp ∈ log := by
  induction run with
  | start => exact ⟨nofun, nofun⟩
  | @step log p p' a _ ha ih =>
    rw [List.mem_append]
    by_cases hn : a = .drain
    · subst hn
      have marked : p'.drained = true := by
        simp only [act] at ha
        split at ha <;> cases ha
        rfl
      exact ⟨fun _ => .inr List.mem_cons_self, fun _ => marked⟩
    · rw [(untouched_of_act ha).drained hn, ih]
      have other : .givenUp ∉ observe a p := by
        intro h
        cases adds_of_mem_observe h
        exact hn rfl
      exact ⟨.inl, fun h => h.resolve_right other⟩

/-! ## 4. What becomes of a queued response -/

/-- After the log a submission waits for the response, and none that is on the queue has its
sync. -/
structure Awaited (space : String) (before : Log) (r : Response) (s : Submission) : Prop where
  pending : Log.Pending space before r.sync s
  first : ∀ other ∈ before.backlog, other.sync ≠ r.sync

/-- The response that was queued between two parts of a log is taken off the queue, and its sync
is not issued again before that. -/
def TakenOff (before after : Log) (r : Response) : Prop :=
  ∃ front : Log, front ++ [.routed r] <+: after ∧ front.routed = before.backlog
    ∧ ∀ entry ∈ front.accepted, entry.1 ≠ r.sync

/-- What becomes of a response that was queued between two parts of a log, and of the submission
that waits for it. -/
structure LateReply (before after : Log) (r : Response) (s : Submission) (p : Pipeline) :
    Prop where
  /-- The caller gets it exactly if it was taken off the queue. -/
  answered : p.dispatch.ledger.deliveries s.ticket = [.ok r] ↔ TakenOff before after r
  /-- Until the dispatch stage ends, it was taken off the queue or is there. -/
  kept : p.dispatch.phase ≠ .ended → (∀ entry ∈ after.accepted, entry.1 ≠ r.sync) →
    TakenOff before after r ∨ r ∈ p.dispatch.responses.items
  /-- If it never is, the caller is told at the end that the connection closed. -/
  lost : p.drained = true → ¬ TakenOff before after r →
    (∀ entry ∈ after.accepted, entry.1 ≠ r.sync) →
    p.dispatch.ledger.deliveries s.ticket = [.error .connectionClosed]

section

variable {d₀ d : Dispatch} {before after front back : Log} {r : Response} {s : Submission}

/-- Until the stage ends, the response was taken off the queue or is there. -/
theorem takenOff_or_queued (blank : Blank d₀) (there : d₀.responses.receiving = true)
    (c : Course d₀ (before ++ .arrived r :: after) d) (running : d.phase ≠ .ended)
    (fresh : ∀ entry ∈ after.accepted, entry.1 ≠ r.sync) :
    TakenOff before after r ∨ r ∈ d.responses.items := by
  have order : after.routed ++ d.responses.items = before.backlog ++ r :: after.arrived := by
    obtain ⟨_, _, c₁, -⟩ := c.exists_move (Log.upTo before after (.arrived r))
    have whole := (c.inOrder blank).routed.whole ((c.receiving_iff blank there).mpr running)
    rw [Log.routed_append, Log.arrived_append, c₁.arrived_eq blank, List.append_assoc,
      List.append_assoc, List.append_cancel_left_eq] at whole
    exact whole
  rcases List.append_eq_append_iff.mp order with ⟨more, -, hi⟩ | ⟨more, hr, hm⟩
  · right
    rw [hi]
    simp
  · cases more with
    | nil =>
      right
      rw [← List.nil_append d.responses.items, ← hm]
      exact List.mem_cons_self
    | cons answer more =>
      left
      obtain ⟨rfl, -⟩ := List.cons_eq_cons.mp hm
      -- the record by which it was taken off, and what the log has before that
      obtain ⟨front, behind, rfl, hf, hb⟩ := List.filterMap_eq_append_iff.mp hr
      obtain ⟨silent, x, back, rfl, hs, hx, -⟩ := List.filterMap_eq_cons_iff.mp hb
      cases x <;> cases hx
      have none : Log.routed silent = [] := List.filterMap_eq_nil_iff.mpr hs
      have hrouted : Log.routed (front ++ silent) = before.backlog := by
        rw [Log.routed_append, none, List.append_nil]
        exact hf
      rw [← List.append_assoc] at fresh ⊢
      have upTo := Log.upTo (front ++ silent) back (.routed r)
      refine ⟨front ++ silent, upTo, hrouted, fun entry he => fresh entry ?_⟩
      exact (Log.accepted_mono ((List.prefix_append _ _).trans upTo)).subset he

/-- Until the response is taken off the queue nobody with its sync is settled. -/
theorem Awaited.quiet (h : Awaited d₀.space before r s)
    (c : Course d₀ (before ++ .arrived r :: after) d) (hf : front ++ [.routed r] <+: after)
    (hr : front.routed = before.backlog) (ha : ∀ entry ∈ front.accepted, entry.1 ≠ r.sync) :
    front.Quiet r.sync := by
  have upTo : (before ++ .arrived r :: front) ++ [.routed r] <+: before ++ .arrived r :: after := by
    rw [List.append_assoc, List.cons_append]
    exact (List.prefix_append_right_inj _).mpr (List.cons_prefix_cons.mpr ⟨rfl, hf⟩)
  refine Log.quiet_iff.mpr ⟨hr ▸ h.first, ha, fun given => ?_⟩
  exact c.not_givenUp_of_routed upTo (List.mem_append_right _ (List.mem_cons_of_mem _ given))

/-- The first response with the sync that is taken off the queue is this one. -/
theorem Awaited.takenOff_of_routed {answer : Response} (h : Awaited d₀.space before r s)
    (blank : Blank d₀) (c : Course d₀ (before ++ .arrived r :: (front ++ .routed answer :: back)) d)
    (hs : answer.sync = r.sync) (quiet : front.Quiet r.sync) :
    answer = r ∧ TakenOff before (front ++ .routed answer :: back) r := by
  obtain ⟨others, fresh, -⟩ := Log.quiet_iff.mp quiet
  obtain ⟨_, _, c₁, -⟩ := c.exists_move (Log.upTo before _ (.arrived r))
  have order : front.routed ++ [answer]
      <+: before.backlog ++ r :: (front ++ .routed answer :: back).arrived := by
    have cut := (List.prefix_append _ _).trans (c.inOrder blank).routed.cut
    rw [Log.routed_append, Log.arrived_append, c₁.arrived_eq blank, List.append_assoc,
      List.prefix_append_right_inj] at cut
    have taken : Log.routed (.arrived r :: (front ++ .routed answer :: back))
        = front.routed ++ [answer] ++ back.routed := by
      rw [List.append_assoc]
      exact Log.routed_append front (.routed answer :: back)
    exact (List.prefix_append _ _).trans (taken ▸ cut)
  obtain ⟨same, rfl⟩ := eq_of_first order others h.first hs rfl
  exact ⟨rfl, front, Log.upTo front back _, same, fresh⟩

/-- If the response is taken off the queue, no other record settles the submission before. -/
theorem Awaited.eq_routed {x : Record} {reply : Reply} (h : Awaited d₀.space before r s)
    (c : Course d₀ (before ++ .arrived r :: (front ++ x :: back)) d)
    (taken : TakenOff before (front ++ x :: back) r) (hx : x.settles? r.sync = some reply)
    (quiet : front.Quiet r.sync) : x = .routed r := by
  obtain ⟨upTo, hf, hr, ha⟩ := taken
  have settles : (Record.routed r).settles? r.sync = some (.ok r) := if_pos rfl
  -- both `x` and the removal of `r` are the first record of the log that settles the sync
  refine (eq_of_first (P := fun y => y.settles? r.sync ≠ none) hf ?_ ?_ ?_ ?_).2.symm
  · exact fun y hy => not_not_intro (h.quiet c hf hr ha y hy)
  · exact fun y hy => not_not_intro (quiet y hy)
  · rw [settles]
    exact nofun
  · rw [hx]
    exact nofun

/-- **The first record that settles the submission gives it its reply.** -/
theorem Awaited.deliveries_eq (h : Awaited d₀.space before r s) (blank : Blank d₀)
    (c : Course d₀ (before ++ .arrived r :: after) d) :
    (after.Quiet r.sync ∧ d.ledger.deliveries s.ticket = [])
      ∨ ∃ front x back reply, after = front ++ x :: back ∧ x.settles? r.sync = some reply
        ∧ Log.Quiet r.sync front ∧ d.ledger.deliveries s.ticket = [reply] := by
  have once := c.once_left blank
  have left : s ∈ Log.left (before ++ .arrived r :: after) :=
    ((List.prefix_append _ _).filterMap _).subset h.pending.mem_left
  rw [(c.accounted blank).book.filled _ (mem_tickets (c.entered_of_left blank left))]
  -- that the response is queued settles nobody
  have queued : (Record.arrived r).settles? r.sync = none := rfl
  rcases Log.first_settles r.sync after with quiet | ⟨front, x, back, reply, rfl, hx, quiet⟩
  · have pending := h.pending.append (List.forall_mem_cons.mpr ⟨queued, quiet⟩)
    rw [(Log.standing_eq_waiting_iff once).mpr ⟨s, rfl, pending⟩]
    exact .inl ⟨quiet, rfl⟩
  · have pending := h.pending.append (List.forall_mem_cons.mpr ⟨queued, quiet⟩)
    rw [← List.cons_append, ← List.append_assoc] at once ⊢
    rw [pending.settled hx once]
    exact .inr ⟨front, x, back, reply, rfl, hx, quiet, rfl⟩

end

/-! ## 5. Whole runs -/

/-- The inbound stage reads a frame that has arrived. -/
theorem run_read {p₀ p : Pipeline} {log : Log} {body rest : Octets} {r : Response}
    (run : Run p₀ log p) (hp : p.inbound.phase = .reading)
    (hs : split p.inbound.arrived = .frame body rest) (hr : Response.decode body = .ok r) :
    Run p₀ log { p with inbound := { p.inbound with arrived := rest, phase := .offering r } } :=
  List.append_nil log ▸ run.step _ (act_read hp hs hr)

/-- A response to the first request. -/
def firstReply : Response :=
  dataResponse 1 (natValue 7)

/-- The body in which the server sends it. -/
def firstBody : Octets :=
  replyBody 1 (natValue 7)

theorem decode_firstBody : Response.decode firstBody = .ok firstReply := by
  have fits : (natValue 7).Fits := trivial
  have cost : (natValue 7).cost + 2 ≤ Value.fullBudget := by
    simp [natValue, Value.cost, Value.fullBudget]
  exact (isReply_replyBody 1 fits cost rfl).decode

/-- **A queued response is the reply exactly if the dispatch stage still takes it.** -/
theorem run_lateReply {submissions responses outbound : Nat} {intake : Intake} {space : String}
    {counter : SyncCounter} {before after : Log} {p : Pipeline} {r : Response} {s : Submission}
    (run : Run (.start (.new submissions responses outbound intake space counter))
      (before ++ .arrived r :: after) p)
    (awaited : Awaited space before r s) : LateReply before after r s p := by
  have blank := blank_new submissions responses outbound intake space counter
  have c := (sound_of_run blank run).course
  rcases awaited.deliveries_eq blank c with
    ⟨quiet, waits⟩ | ⟨front, x, back, reply, rfl, hx, quiet, replied⟩
  · -- nobody settles the submission: the response was not taken off, and nobody given up
    have never : ¬ TakenOff before after r := by
      intro taken
      rcases taken with ⟨front, hf, -⟩
      have routed : .routed r ∈ after := hf.subset (by simp)
      exact (Log.quiet_iff.mp quiet).1 r (List.mem_filterMap.mpr ⟨_, routed, rfl⟩) rfl
    refine ⟨?_, takenOff_or_queued blank rfl c, ?_⟩
    · rw [waits]
      exact ⟨nofun, fun taken => absurd taken never⟩
    · intro drained
      rcases List.mem_append.mp ((drained_iff run).mp drained) with given | given
      · exact absurd given (c.not_givenUp_of_arrived blank rfl (Log.upTo before after _))
      · have given := (List.mem_cons.mp given).resolve_left nofun
        exact absurd given (Log.quiet_iff.mp quiet).2.2
  · refine ⟨?_, takenOff_or_queued blank rfl c, ?_⟩
    · rw [replied]
      constructor
      · intro answered
        cases answered
        rcases Record.settles?_cases hx with ⟨_, -, he⟩ | ⟨answer, rfl, hs, -⟩ | ⟨-, he⟩
        · cases he
        · exact (awaited.takenOff_of_routed blank c hs quiet).2
        · cases he
      · intro taken
        cases awaited.eq_routed c taken hx quiet
        rw [Record.settles?, if_pos rfl] at hx
        cases hx
        rfl
    · intro _ lost fresh
      rcases Record.settles?_cases hx with ⟨other, rfl, -⟩ | ⟨answer, rfl, hs, -⟩ | ⟨-, rfl⟩
      · have accepted : .accepted r.sync other ∈ front ++ .accepted r.sync other :: back := by simp
        exact absurd rfl (fresh (r.sync, other) (List.mem_filterMap.mpr ⟨_, accepted, rfl⟩))
      · exact absurd (awaited.takenOff_of_routed blank c hs quiet).2 lost
      · exact replied

/-- When the response to a ping is taken off the queue. -/
theorem run_lateReply_taken : ∃ before after p,
    Run (.start (.new 2 1 1 ⟨1⟩ "" .new)) (before ++ .arrived firstReply :: after) p
      ∧ Awaited "" before firstReply ⟨.ping, 0⟩ ∧ p.dispatch.ledger.deliveries 0 = [.ok firstReply]
      ∧ LateReply before after firstReply ⟨.ping, 0⟩ p := by
  let frame := frameOf (requestBody .ping 1 "")
  have asked : Run (.start (.new 2 1 1 ⟨1⟩ "" .new))
      [.entered ⟨.ping, 0⟩, .accepted 1 ⟨.ping, 0⟩, .forwarded frame, .taken frame] _ :=
    Logged.of_follow [.submit .ping, .dispatch .look, .dispatch .takeSubmission,
      .dispatch .forward, .outbound .take, .outbound (.accept 14), .outbound .flush,
      .arrive (frameOf firstBody)] rfl
  have read := run_read asked rfl rfl decode_firstBody
  have run : Run _ (_ ++ [.arrived firstReply, .routed firstReply]) _ := read.trans
    (Logged.of_follow [.inbound .offer, .dispatch .look, .dispatch .takeResponse] rfl)
  have pending : Log.Pending "" _ 1 ⟨.ping, 0⟩ := ⟨[.forwarded frame, .taken frame],
    ⟨[.entered ⟨.ping, 0⟩], rfl⟩, ⟨frame, rfl⟩, nofun, nofun, nofun⟩
  have awaited : Awaited "" _ firstReply ⟨.ping, 0⟩ := ⟨pending, nofun⟩
  exact ⟨_, _, _, run, awaited, rfl, run_lateReply run awaited⟩

/-- **A response that was queued before the stop signal fired may never reach its caller**, who is
told that the connection closed: here the dispatch stage has no room for another frame when the
signal fires. -/
theorem queued_then_closed : ∃ before after p₁ p,
    Run (.start (.new 2 1 1 ⟨1⟩ "" .new)) (before ++ [.arrived firstReply]) p₁
      ∧ Awaited "" before firstReply ⟨.ping, 0⟩ ∧ p₁.dispatch.stop.fired = false ∧ Run p₁ after p
      ∧ p.dispatch.ledger.deliveries 0 = [.error .connectionClosed] := by
  let frame := frameOf (requestBody .ping 1 "")
  let later : Log := [.forwarded frame, .taken frame, .entered ⟨.ping, 1⟩, .entered ⟨.ping, 2⟩,
      .accepted 2 ⟨.ping, 1⟩, .forwarded (frameOf (requestBody .ping 2 "")),
      .accepted 3 ⟨.ping, 2⟩]
  have asked : Run (.start (.new 2 1 1 ⟨1⟩ "" .new))
      (.entered ⟨.ping, 0⟩ :: .accepted 1 ⟨.ping, 0⟩ :: later) _ := Logged.of_follow
    [.submit .ping, .dispatch .look, .dispatch .takeSubmission, .dispatch .forward,
      .outbound .take, .outbound (.accept 14), .outbound .flush,
      .submit .ping, .submit .ping, .dispatch .look, .dispatch .takeSubmission, .dispatch .forward,
      .dispatch .look, .dispatch .takeSubmission, .arrive (frameOf firstBody)] rfl
  have queued := (run_read asked rfl rfl decode_firstBody).step (.inbound .offer) rfl
  have fresh : ∀ entry ∈ later.accepted, entry.1 ≠ 1 :=
    List.forall_mem_cons.mpr ⟨by decide, List.forall_mem_singleton.mpr (by decide)⟩
  have pending : Log.Pending "" _ 1 ⟨.ping, 0⟩ :=
    ⟨later, ⟨[.entered ⟨.ping, 0⟩], rfl⟩, ⟨frame, rfl⟩, nofun, fresh, by simp [later]⟩
  exact ⟨_, _, _, _, queued, ⟨pending, nofun⟩, rfl, Logged.of_follow
    [.trigger, .dispatch .stop, .stageEnds .dispatch, .inbound .stop, .stageEnds .inbound,
      .outbound .stop, .stageEnds .outbound, .drain, .report] rfl, rfl⟩

end Pipeline

end Muxwire.Mux
