import Muxwire.Proofs.Dispatch.Table

/-!
# Queries that cannot be packed

A submission gets its sync before its query is packed, and whoever still waits for that sync is
given up at once. So a query that cannot be packed has used up a sync, and may have cost another
caller its place on the table.

* **`run_packFailure`** -- in every run, from any position of the counter: the submitter gets the
  error of the query, the counter moves on by one, and nothing else changes but for the caller who
  waits for that very sync, if there is one. Within the first period of the counter there is none.
* `packFailure_evicts` -- a period later there can be one. The run takes `2^32 - 2` rounds
  (`Lapping.next` is one of them).
-/

namespace Muxwire.Mux

open Request Wire

namespace Dispatch

variable {d₀ d d' : Dispatch} {log : Log} {s : Submission} {submissions : Queue Submission}
  {e : Error}

/-! ## 1. A query that cannot be packed -/

/-- A query that cannot be packed: there is no salt for its scramble. -/
def unsalted : Query := .auth "" "" []

/-- Why it cannot. -/
def unsaltedError : Error := .query "Authentication failed: salt too short: 0 bytes"

theorem pack_unsalted (sync : UInt32) (space : String) :
    unsalted.pack sync space = .error unsaltedError :=
  rfl

/-- What the acceptance of a submission changes whose query fails with an error. -/
structure Fails (log : Log) (s : Submission) (submissions : Queue Submission) (e : Error)
    (d d' : Dispatch) : Prop where
  /-- The submitter, who had no reply, gets the error. -/
  submitter : d.ledger.deliveries s.ticket = [] ∧ d'.ledger.deliveries s.ticket = [.error e]
  /-- The error is an error of the query. -/
  error : ∃ text, e = .query text
  /-- The stage goes on; but for the submission, the counter and the ledger it is as before. -/
  rest : d' = { d with
    phase := .ready, submissions, counter := ⟨d.counter.following⟩, ledger := d'.ledger }
  /-- The counter moves on by one. -/
  counter : d'.counter.last.toNat = d.counter.last.toNat % (2 ^ 32 - 1) + 1
  /-- The table keeps everyone who waits for another sync than the one issued now. -/
  table : d'.ledger.waiting = d.ledger.waiting.filter (·.1 != d.counter.following)
  /-- Whoever waits for that one is another caller, who is given up. -/
  evicted : ∀ t, d.ledger.ticket? d.counter.following = some t →
    t ≠ s.ticket ∧ d.ledger.deliveries t = []
      ∧ d'.ledger.deliveries t = [.error (.connection
        s!"request id {d.counter.following.toNat} reissued while pending")]
  /-- Every other slot is as before. -/
  others : ∀ t, t ≠ s.ticket → d.ledger.ticket? d.counter.following ≠ some t →
    d'.ledger.slots[t]? = d.ledger.slots[t]?
  /-- If nobody waits for it, the slot of the submitter is all that changes in the ledger. -/
  alone : d.ledger.ticket? d.counter.following = none →
    d'.ledger = d.ledger.deliver s.ticket (.error e)
  /-- Nobody does within the first period of the counter. -/
  fresh : log.accepted.length < 2 ^ 32 - 1 → d.ledger.ticket? d.counter.following = none

/-- **A query that cannot be packed is answered with its error, and costs nobody anything but who
waits for the sync that it was given.** -/
theorem run_packFailure {submitted responses outbound : Nat} {intake : Intake} {space : String}
    {counter : SyncCounter}
    (run : Run (new submitted responses outbound intake space counter) log d)
    (hp : d.phase = .selecting true) (hq : d.submissions.pop? = some (s, submissions))
    (hpack : s.query.pack d.counter.following d.space = .error e) :
    ∃ d', act .takeSubmission d = some d' ∧ Fails log s submissions e d d' := by
  have blank := blank_new submitted responses outbound intake space counter
  have c := Course.of_run run
  obtain ⟨range, empty, stranger⟩ := c.front blank hq
  have taken : act .takeSubmission d = some (accept s { d with submissions }) := by
    simp only [act, hp, hq]
  rw [accept_of_error (d := { d with submissions }) hpack] at taken
  refine ⟨_, taken, ?_⟩
  exact {
    submitter := by
      refine ⟨empty, ?_⟩
      rw [Ledger.deliveries_deliver, Ledger.evict, Ledger.length_finish, if_pos ⟨rfl, range⟩,
        Ledger.deliveries_finish, if_neg fun h => stranger _ h.1, empty, List.nil_append]
    error := Query.pack_error hpack
    rest := rfl
    counter := SyncCounter.toNat_following d.counter
    table := Ledger.waiting_finish ..
    evicted := by
      intro t ht
      have other : t ≠ s.ticket := by
        rintro rfl
        exact stranger _ ht
      obtain ⟨known, none⟩ := c.waiting_empty blank ht
      refine ⟨other, none, ?_⟩
      rw [Ledger.deliveries_deliver, if_neg fun h => other h.1, Ledger.evict,
        Ledger.deliveries_finish, if_pos ⟨ht, known⟩, none, List.nil_append]
      rfl
    others := by
      intro t other hne
      rw [Ledger.slot_deliver_of_ne other]
      exact Ledger.slot_finish_of_ne hne _
    alone := by
      intro free
      rw [Ledger.evict_of_free free]
    fresh := c.free_of_fresh blank }

/-- With a ping on the table the error reaches its submitter alone. -/
theorem run_packFailure_unsalted : ∃ log d d' s submissions e,
    Run (new 2 1 2 ⟨1⟩ "" .new) log d ∧ d.ledger.waiting = [(1, 0)] ∧ s.query = unsalted
      ∧ act .takeSubmission d = some d' ∧ Fails log s submissions e d d'
      ∧ d'.ledger.waiting = [(1, 0)] := by
  have run : Run (new 2 1 2 ⟨1⟩ "" .new) _ _ := Logged.of_follow
    [.submit .ping, .submit unsalted, .acts .look, .acts .takeSubmission, .acts .forward,
      .acts .look] rfl
  obtain ⟨d', taken, fails⟩ := run_packFailure run rfl rfl (pack_unsalted _ _)
  exact ⟨_, _, d', _, _, _, run, rfl, rfl, taken, fails, fails.table⟩

/-! ## 2. A period of the counter -/

/-- Only the caller with the first ticket waits, for sync 1, while the counter has come to `n`. -/
structure Lapping (n : Nat) (d : Dispatch) : Prop where
  phase : d.phase = .ready
  submissions : d.submissions = .new 1
  accepting : d.intake.isOpen d.responses.size = true
  counter : d.counter.last.toNat = n
  slots : 0 < d.ledger.slots.length
  empty : d.ledger.deliveries 0 = []
  waiting : d.ledger.waiting = [(1, 0)]

/-- The stage once it is about to take one more query that cannot be packed. -/
def offered (d : Dispatch) : Dispatch :=
  { d with
    phase := .selecting true
    submissions := (d.submissions.push ⟨unsalted, d.ledger.slots.length⟩).2
    ledger := d.ledger.openSlot.2 }

theorem Lapping.run_offered {n : Nat} (h : Lapping n d) : ∃ log, Run d log d.offered := by
  have room : (d.submissions.push ⟨unsalted, d.ledger.slots.length⟩).1 = .queued := by
    rw [h.submissions]
    rfl
  have submitted : occur (.submit unsalted) d = some { d with
      submissions := (d.submissions.push ⟨unsalted, d.ledger.slots.length⟩).2
      ledger := d.ledger.openSlot.2 } := by
    rw [← submit_of_queued room]
    rfl
  have looked : occur (.acts .look) { d with
      submissions := (d.submissions.push ⟨unsalted, d.ledger.slots.length⟩).2
      ledger := d.ledger.openSlot.2 } = some d.offered := by
    simp only [occur, act, h.phase, h.accepting, offered]
  exact ⟨_, .step _ (.step _ .start submitted) looked⟩

theorem Lapping.pop?_offered {n : Nat} (h : Lapping n d) :
    d.offered.submissions.pop? = some (⟨unsalted, d.ledger.slots.length⟩, .new 1) := by
  show (d.submissions.push _).2.pop? = _
  rw [h.submissions]
  rfl

/-- What its acceptance comes to. -/
theorem Lapping.take {n : Nat} (h : Lapping n d) :
    occur (.acts .takeSubmission) d.offered = some { d with
      phase := .ready
      submissions := .new 1
      counter := d.counter.next.2
      ledger := (d.ledger.openSlot.2.evict d.counter.following
        (reissued d.counter.following)).2.deliver d.ledger.slots.length
          (.error unsaltedError) } := by
  have taken : occur (.acts .takeSubmission) d.offered = some
      (accept ⟨unsalted, d.ledger.slots.length⟩ { d.offered with submissions := .new 1 }) := by
    show act .takeSubmission d.offered = _
    have hp : d.offered.phase = .selecting true := rfl
    simp only [act, hp, h.pop?_offered]
  rw [taken, accept_of_error (pack_unsalted _ _)]
  rfl

theorem Lapping.ticket? {n : Nat} (h : Lapping n d) (sync : UInt32) :
    d.ledger.openSlot.2.ticket? sync = if sync = 1 then some 0 else none := by
  show d.ledger.waiting.lookup sync = _
  rw [h.waiting]
  by_cases hs : sync = 1
  · simp [hs]
  · have other : (sync == 1) = false := by simp [hs]
    simp [hs, other, List.lookup_cons]

/-- **One more query that cannot be packed**: the counter goes on, and the first caller waits. -/
theorem Lapping.next {n : Nat} (h : Lapping n d) (pos : 0 < n) (lt : n < 2 ^ 32 - 1) :
    ∃ log d', Run d log d' ∧ Lapping (n + 1) d' := by
  obtain ⟨log, run⟩ := h.run_offered
  have following : d.counter.following.toNat = n + 1 := by
    rw [SyncCounter.toNat_following, h.counter, Nat.mod_eq_of_lt lt]
  have ne : d.counter.following ≠ 1 := by
    intro he
    rw [he] at following
    have : 1 = n + 1 := following
    omega
  have free : d.ledger.openSlot.2.ticket? d.counter.following = none := by
    rw [h.ticket?, if_neg ne]
  have first : ¬ 0 = d.ledger.slots.length := Nat.ne_of_lt h.slots
  have taken := h.take
  rw [Ledger.evict_of_free free] at taken
  refine ⟨_, _, .step _ run taken, ?_⟩
  exact {
    phase := rfl
    submissions := rfl
    accepting := h.accepting
    counter := following
    slots := by
      rw [Ledger.length_deliver, Ledger.length_openSlot]
      exact Nat.succ_pos _
    empty := by
      rw [Ledger.deliveries_deliver, if_neg fun h => first h.1, Ledger.deliveries_openSlot,
        h.empty]
    waiting := h.waiting }

/-- A ping was accepted first, and waits. -/
theorem exists_lapping : ∃ log d, Run (new 1 1 1 ⟨1⟩ "" .new) log d ∧ Lapping 1 d := by
  have run : Run (new 1 1 1 ⟨1⟩ "" .new) _ _ := Logged.of_follow
    [.submit .ping, .acts .look, .acts .takeSubmission, .acts .forward] rfl
  exact ⟨_, _, run, rfl, rfl, rfl, rfl, Nat.zero_lt_one, rfl, rfl⟩

/-- It waits until the counter has come to its end. -/
theorem exists_lapping_of_le {n : Nat} (pos : 0 < n) (le : n ≤ 2 ^ 32 - 1) :
    ∃ log d, Run (new 1 1 1 ⟨1⟩ "" .new) log d ∧ Lapping n d := by
  induction n with
  | zero => exact absurd pos (Nat.lt_irrefl 0)
  | succ n ih =>
    rcases Nat.eq_zero_or_pos n with rfl | before
    · exact exists_lapping
    · obtain ⟨log, d, run, lapping⟩ := ih before (Nat.le_of_succ_le le)
      obtain ⟨more, d', later, lapping'⟩ := lapping.next before le
      exact ⟨_, _, run.trans later, lapping'⟩

/-- **A query that cannot be packed can cost another caller its place on the table**: with the
counter at its end, the ping that waits for sync 1 is given up for it. -/
theorem packFailure_evicts : ∃ log d d' s submissions e,
    Run (new 1 1 1 ⟨1⟩ "" .new) log d ∧ d.phase = .selecting true
      ∧ d.submissions.pop? = some (s, submissions)
      ∧ s.query.pack d.counter.following d.space = .error e
      ∧ act .takeSubmission d = some d' ∧ s.ticket ≠ 0
      ∧ d.ledger.waiting = [(1, 0)] ∧ d'.ledger.waiting = []
      ∧ d.ledger.deliveries 0 = []
      ∧ d'.ledger.deliveries 0 = [.error (.connection "request id 1 reissued while pending")] := by
  obtain ⟨log, d, run, h⟩ := exists_lapping_of_le (n := 2 ^ 32 - 1) (by decide) (Nat.le_refl _)
  obtain ⟨more, later⟩ := h.run_offered
  have following : d.counter.following = 1 := by
    apply UInt32.toNat_inj.mp
    rw [SyncCounter.toNat_following, h.counter, Nat.mod_self]
    rfl
  have first : ¬ 0 = d.ledger.slots.length := Nat.ne_of_lt h.slots
  have waits : d.ledger.openSlot.2.ticket? 1 = some 0 := by
    rw [h.ticket?, if_pos rfl]
  refine ⟨_, d.offered, _, _, _, _, run.trans later, rfl, h.pop?_offered, pack_unsalted _ _, h.take,
    Ne.symm first, h.waiting, ?_, ?_, ?_⟩
  · rw [Ledger.waiting_deliver, Ledger.evict, Ledger.waiting_finish, following]
    show d.ledger.waiting.filter _ = _
    rw [h.waiting]
    rfl
  · exact (Ledger.deliveries_openSlot ..).trans h.empty
  · have slot : 0 < d.ledger.openSlot.2.slots.length := by
      rw [Ledger.length_openSlot]
      exact Nat.succ_pos _
    rw [Ledger.deliveries_deliver, if_neg fun h => first h.1, following, Ledger.evict,
      Ledger.deliveries_finish, if_pos ⟨waits, slot⟩, Ledger.deliveries_openSlot, h.empty,
      List.nil_append]
    rfl

end Dispatch

end Muxwire.Mux
