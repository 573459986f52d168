import Muxwire.Proofs.Dispatch.Accounts

/-!
# The table of syncs

**`run_tableSound`** -- in every run of the dispatch stage, from any position of the counter, the
table of the ledger is what the log says: each accepted and packed submission that was neither
answered nor evicted, under the sync that was packed into its frame. `TableSound` lists what
follows. Evictions need a sync that was issued before, so there is none within the first period of
the counter (`evict_of_fresh`).
-/

namespace Muxwire.Mux

open Request Wire

namespace Dispatch

/-! ## 1. Evictions -/

variable {d₀ d : Dispatch} {log : Log}

namespace Course

/-- Who is pending under a sync was given one of the first syncs of the counter. -/
theorem mem_take_of_pending (h : Blank d₀) (c : Course d₀ log d) {sync : UInt32} {s : Submission}
    (hp : Log.Pending d₀.space log sync s) : sync ∈ d₀.counter.take log.accepted.length := by
  rw [← (c.inOrder h).syncs]
  exact List.mem_map_of_mem hp.mem_accepted

/-- Within the first period nobody waits for the next sync. -/
theorem free_of_fresh (h : Blank d₀) (c : Course d₀ log d)
    (few : log.accepted.length < 2 ^ 32 - 1) : d.ledger.ticket? d.counter.following = none := by
  cases hf : d.ledger.ticket? d.counter.following with
  | none => rfl
  | some t =>
    obtain ⟨s, -, hp⟩ := (c.mem_waiting_iff h).mp (Ledger.mem_of_ticket? hf)
    have old := c.mem_take_of_pending h hp
    -- the next sync would be issued for the second time within one period
    have once := d₀.counter.nodup_take (Nat.succ_le_of_lt few)
    rw [SyncCounter.take_succ_last, ← (c.inOrder h).counter, List.nodup_append] at once
    exact absurd rfl (once.2.2 _ old _ (List.mem_singleton_self _))

/-- **Within the first period nobody is evicted.** -/
theorem evict_of_fresh (h : Blank d₀) (c : Course d₀ log d)
    (few : log.accepted.length < 2 ^ 32 - 1) (e : Error) :
    d.ledger.evict d.counter.following e = (false, d.ledger) :=
  Ledger.evict_of_free (c.free_of_fresh h few) e

/-- A response reaches only the caller into whose frame its sync was packed. -/
theorem packed_of_ok (h : Blank d₀) (c : Course d₀ log d) {s : Submission}
    (hs : s ∈ log.entered) {r : Response} (hr : .ok r ∈ d.ledger.deliveries s.ticket) :
    ∃ frame, ⟨r.sync, s, frame⟩ ∈ log.packed d₀.space := by
  obtain ⟨-, cause⟩ := c.cause h hs hr
  cases cause with
  | answered hb hp =>
    obtain ⟨frame, hf⟩ := hp.mem_packed
    exact ⟨frame, (Log.packed_mono ((List.prefix_append ..).trans hb)).subset hf⟩

end Course

/-! ## 2. The table -/

/-- What is true of the table, the log and the counter of a stage with some default space. -/
structure TableSound (space : String) (log : Log) (d : Dispatch) : Prop where
  /-- On the table is who is pending. -/
  pending : ∀ sync t, (sync, t) ∈ d.ledger.waiting
    ↔ ∃ s, s.ticket = t ∧ Log.Pending space log sync s
  /-- Nobody was given up, so that waiting ends by an answer or an eviction only. -/
  noGivenUp : .givenUp ∉ log
  /-- No key is zero, and none is there twice. -/
  ne_zero : ∀ entry ∈ d.ledger.waiting, entry.1 ≠ 0
  keys : (d.ledger.waiting.map Prod.fst).Nodup
  /-- After an eviction for the next sync the table has no entry with it. -/
  free : ∀ e, (d.ledger.evict d.counter.following e).2.ticket? d.counter.following = none
  /-- The frames that were queued are those of the accepted submissions, in order. -/
  forwarded : log.forwarded <+: log.frames space
  /-- Each frame has its sync in octets 10 to 14. -/
  sync_octets : ∀ p ∈ log.packed space,
    (p.frame.drop 10).take 4 = Octets.bigEndian 4 p.sync.toNat
  /-- A response reaches only the caller into whose own frame its sync was packed. -/
  own : ∀ s ∈ log.entered, ∀ r, .ok r ∈ d.ledger.deliveries s.ticket →
    ∃ frame, ⟨r.sync, s, frame⟩ ∈ log.packed space
  /-- Nobody is evicted as long as no sync is issued twice. -/
  no_eviction : log.accepted.length < 2 ^ 32 - 1 →
    ∀ e, d.ledger.evict d.counter.following e = (false, d.ledger)

/-- **In every run the table is exactly who is pending**, whatever the capacities of the queues,
the gate, and the position of the counter at the start. -/
theorem run_tableSound {submissions responses outbound : Nat} {intake : Intake} {space : String}
    {counter : SyncCounter}
    (run : Run (new submissions responses outbound intake space counter) log d) :
    TableSound space log d := by
  have blank := blank_new submissions responses outbound intake space counter
  have c := Course.of_run run
  have order := c.inOrder blank
  have pending : ∀ sync t, (sync, t) ∈ d.ledger.waiting
      ↔ ∃ s, s.ticket = t ∧ Log.Pending space log sync s := fun _ _ => c.mem_waiting_iff blank
  exact {
    pending
    noGivenUp := fun given => nomatch not_givesUp_of_run run given
    ne_zero := by
      rintro ⟨sync, t⟩ hw
      obtain ⟨s, -, hp⟩ := (pending sync t).mp hw
      exact SyncCounter.ne_zero_of_mem_take (c.mem_take_of_pending blank hp)
    keys := (c.accounted blank).book.keys
    free := fun e => by
      have struck := Ledger.ticket?_strike d.ledger d.counter.following d.counter.following
      rw [if_pos rfl] at struck
      rw [Ledger.evict, Ledger.ticket?, Ledger.waiting_finish]
      exact struck
    forwarded := (List.prefix_append _ _).trans order.forwarded.cut
    sync_octets := fun p hp => sync_of_pack (Log.mem_packed_iff.mp hp).2
    own := fun s hs r => c.packed_of_ok blank hs
    no_eviction := fun few e => c.evict_of_fresh blank few e }

/-- With a ping on the table and another one answered. -/
theorem run_tableSound_pings : ∃ log d, Run (new 2 1 2 ⟨1⟩ "" .new) log d
    ∧ d.ledger.waiting = [(2, 1)] ∧ (d.ledger.deliveries 0).length = 1 ∧ TableSound "" log d := by
  have run : Run (new 2 1 2 ⟨1⟩ "" .new) _ _ := Logged.of_follow
    [.submit .ping, .submit .ping, .acts .look, .acts .takeSubmission, .acts .forward,
      .respond ⟨1, 0, none, none, none⟩, .acts .look, .acts .takeResponse,
      .acts .look, .acts .takeSubmission] rfl
  exact ⟨_, _, run, rfl, rfl, run_tableSound run⟩

end Dispatch

end Muxwire.Mux
