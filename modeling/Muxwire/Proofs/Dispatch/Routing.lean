import Mathlib.Data.List.Nodup
import Muxwire.Proofs.Dispatch.Accounts

/-!
# Responses handed out one after another

A response belongs to the caller that waits for its sync and to no other, and whoever has got one
waits no more. So of a sequence of responses each caller gets the first one with its sync, whatever
else is in the sequence, and the table keeps everyone whose sync is not there.

* `Ledger.completeAll` -- hands out several responses.
* `waiting_completeAll`, `count_completeAll`, `slot_completeAll` -- what this does to the table, how
  often someone waited, and what it does to a slot.
* `Ledger.Delivers` -- who got which response, and who is on the table after that.
* `Course.completeAll` -- a stage that takes no submission does just this with the responses that
  it takes off the queue.
* **`completeAll_independent`** -- no caller's reply depends on what the others get.
-/

namespace Muxwire.Mux

open Wire

namespace Ledger

variable {l : Ledger} {sync : UInt32} {t : Ticket}

/-! ## 1. Several responses -/

/-- Hands responses out, first to last; the answers are whether someone waited for each. -/
def completeAll : List Response → Ledger → List Bool × Ledger
  | [], l => ([], l)
  | r :: rs, l =>
    let (waited, l) := l.complete r
    let (others, l) := completeAll rs l
    (waited :: others, l)

/-- The first response with a sync. -/
def first? (sync : UInt32) (rs : List Response) : Option Response :=
  rs.find? (·.sync = sync)

/-- A table of slots: each sync and each ticket is there once, and each ticket has a slot. -/
structure Proper (l : Ledger) : Prop where
  keys : (l.waiting.map Prod.fst).Nodup
  tickets : (l.waiting.map Prod.snd).Nodup
  range : ∀ entry ∈ l.waiting, entry.2 < l.slots.length

theorem completeAll_cons (r : Response) (rs : List Response) (l : Ledger) :
    l.completeAll (r :: rs)
      = ((l.complete r).1 :: ((l.complete r).2.completeAll rs).1,
          ((l.complete r).2.completeAll rs).2) := rfl

theorem completeAll_concat (rs : List Response) (r : Response) (l : Ledger) :
    (l.completeAll (rs ++ [r])).2 = ((l.completeAll rs).2.complete r).2 := by
  induction rs generalizing l with
  | nil => rfl
  | cons r' rs ih => exact ih _

/-- Handing out opens no slot. -/
theorem length_completeAll (rs : List Response) (l : Ledger) :
    (l.completeAll rs).2.slots.length = l.slots.length := by
  induction rs generalizing l with
  | nil => rfl
  | cons r rs ih => exact (ih _).trans (length_finish ..)

theorem waiting_complete (r : Response) (l : Ledger) :
    (l.complete r).2.waiting = l.waiting.filter (·.1 != r.sync) :=
  waiting_finish ..

/-- The table stays proper. -/
theorem Proper.complete (h : l.Proper) (r : Response) : (l.complete r).2.Proper := by
  have sub : (l.complete r).2.waiting.Sublist l.waiting := by
    rw [waiting_complete]
    exact List.filter_sublist
  refine ⟨h.keys.sublist (sub.map _), h.tickets.sublist (sub.map _), ?_⟩
  intro entry he
  exact Nat.lt_of_lt_of_eq (h.range entry (sub.subset he)) (length_finish ..).symm

/-! ## 2. The table -/

/-- **The table keeps who waits for none of the syncs.** -/
theorem waiting_completeAll (rs : List Response) (l : Ledger) :
    (l.completeAll rs).2.waiting = l.waiting.filter fun entry => entry.1 ∉ rs.map (·.sync) := by
  induction rs generalizing l with
  | nil => simp [completeAll]
  | cons r rs ih =>
    rw [completeAll_cons, ih, waiting_complete, List.filter_filter]
    refine List.filter_congr ?_
    intro entry _
    by_cases hr : entry.1 = r.sync <;> simp [hr]

/-- **The entries that are gone are as many as the responses for which someone waited.** -/
theorem count_completeAll (h : l.Proper) (rs : List Response) :
    (l.completeAll rs).1.count true + (l.completeAll rs).2.size = l.size := by
  induction rs generalizing l with
  | nil => simp [completeAll]
  | cons r rs ih =>
    have rest := ih (h.complete r)
    have one : (l.complete r).1.toNat + (l.complete r).2.size = l.size := size_finish h.keys ..
    rw [completeAll_cons, List.count_cons]
    cases hw : (l.complete r).1 <;> rw [hw] at one <;> simp at one ⊢ <;> omega

/-! ## 3. Slots -/

/-- A slot whose ticket is not on the table stays as it is. -/
theorem slot_completeAll_of_notMem (h : ∀ sync, (sync, t) ∉ l.waiting) (rs : List Response) :
    (l.completeAll rs).2.slots[t]? = l.slots[t]? := by
  induction rs generalizing l with
  | nil => rfl
  | cons r rs ih =>
    have stranger : l.ticket? r.sync ≠ some t := fun hf => h _ (mem_of_ticket? hf)
    have gone : ∀ sync, (sync, t) ∉ (l.complete r).2.waiting := by
      intro sync hw
      rw [waiting_complete] at hw
      exact h sync (List.mem_filter.mp hw).1
    rw [completeAll_cons, ih gone, complete, slot_finish_of_ne stranger]

/-- A delivery to a slot. -/
theorem slot_deliver (t : Ticket) (r : Reply) (l : Ledger) :
    (l.deliver t r).slots[t]?
      = l.slots[t]?.map fun s => { s with deliveries := s.deliveries ++ [r] } := by
  simp [deliver]

/-- A ticket is on the table under one sync. -/
theorem Proper.sync_ext (h : l.Proper) {other : UInt32} (hw : (sync, t) ∈ l.waiting)
    (ho : (other, t) ∈ l.waiting) : other = sync := by
  have same := List.inj_on_of_nodup_map h.tickets ho hw rfl
  exact congrArg Prod.fst same

/-- **Of a sequence of responses a caller gets the first one with its sync**, and nothing else. -/
theorem slot_completeAll (h : l.Proper) (hw : (sync, t) ∈ l.waiting) (rs : List Response) :
    (l.completeAll rs).2.slots[t]? = l.slots[t]?.map fun s =>
      { s with deliveries := s.deliveries ++ ((first? sync rs).map .ok).toList } := by
  induction rs generalizing l with
  | nil => simp [completeAll, first?]
  | cons r rs ih =>
    rw [completeAll_cons]
    by_cases hr : r.sync = sync
    · -- the response is for this caller, who is not on the table from then on
      subst hr
      have found : l.ticket? r.sync = some t := (ticket?_eq_some_iff h.keys).mpr hw
      have gone : ∀ sync, (sync, t) ∉ (l.complete r).2.waiting := by
        intro sync ho
        rw [waiting_complete, List.mem_filter] at ho
        have same := h.sync_ext hw ho.1
        simp [same] at ho
      rw [slot_completeAll_of_notMem gone, complete, finish, found, slot_deliver]
      simp [strike, first?]
    · -- the response is for another caller, if for any
      have stranger : l.ticket? r.sync ≠ some t := by
        intro hf
        exact hr (h.sync_ext hw (mem_of_ticket? hf))
      have stays : (sync, t) ∈ (l.complete r).2.waiting := by
        rw [waiting_complete, List.mem_filter]
        exact ⟨hw, by simpa using Ne.symm hr⟩
      rw [ih (h.complete r) stays, complete, slot_finish_of_ne stranger]
      simp [first?, hr]

/-- What responses that were handed out have made of the callers of a ledger `l`, in `l'`. -/
structure Delivers (l : Ledger) (rs : List Response) (l' : Ledger) : Prop where
  /-- Whoever waited got the first response with its sync, and nothing else. -/
  given : ∀ sync t, (sync, t) ∈ l.waiting →
    l'.deliveries t = l.deliveries t ++ ((first? sync rs).map .ok).toList
  /-- Whoever did not wait got nothing. -/
  others : ∀ t, t < l.slots.length → (∀ sync, (sync, t) ∉ l.waiting) →
    l'.deliveries t = l.deliveries t
  /-- On the table is exactly who waited for none of the syncs. -/
  table : ∀ sync t, (sync, t) ∈ l'.waiting ↔ (sync, t) ∈ l.waiting ∧ ∀ r ∈ rs, r.sync ≠ sync

/-- **Handing responses out delivers them**, each to the caller that waits for it. -/
theorem Proper.delivers (h : l.Proper) (rs : List Response) :
    l.Delivers rs (l.completeAll rs).2 := by
  refine ⟨?given, ?others, ?table⟩
  case given =>
    intro sync t hw
    have range : t < l.slots.length := h.range _ hw
    have slot : l.slots[t]? = some l.slots[t] := List.getElem?_eq_getElem range
    rw [deliveries, slot_completeAll h hw, deliveries, slot]
    rfl
  case others =>
    intro t _ unlisted
    rw [deliveries, slot_completeAll_of_notMem unlisted, deliveries]
  case table =>
    intro sync t
    rw [waiting_completeAll, List.mem_filter]
    simp [eq_comm]

end Ledger

namespace Dispatch

/-! ## 4. A stage that takes no submission -/

variable {d₀ d d' : Dispatch} {log : Log}

/-- Two ledgers have one table, and the same deliveries in their first slots. -/
structure Agrees (n : Nat) (l l' : Ledger) : Prop where
  waiting : l'.waiting = l.waiting
  deliveries : ∀ t, t < n → l'.deliveries t = l.deliveries t

theorem Agrees.complete {n : Nat} {l l' : Ledger} (h : Agrees n l l') (hl : n ≤ l.slots.length)
    (hl' : n ≤ l'.slots.length) (r : Response) : Agrees n (l.complete r).2 (l'.complete r).2 where
  waiting := by rw [Ledger.waiting_complete, Ledger.waiting_complete, h.waiting]
  deliveries t ht := by
    have same : l'.ticket? r.sync = l.ticket? r.sync := by
      rw [Ledger.ticket?, Ledger.ticket?, h.waiting]
    have slot := Nat.lt_of_lt_of_le ht hl
    have slot' := Nat.lt_of_lt_of_le ht hl'
    rw [Ledger.complete, Ledger.complete, Ledger.deliveries_finish, Ledger.deliveries_finish, same,
      h.deliveries t ht]
    simp only [slot, slot', and_true]

/-- **A stage that takes no submission hands out the responses that it takes**, and does nothing
else to those who had a slot before. -/
theorem Course.completeAll (c : Course d₀ log d) (untaken : log.left = []) (kept : .givenUp ∉ log) :
    Agrees d₀.ledger.slots.length (d₀.ledger.completeAll log.routed).2 d.ledger := by
  induction c with
  | start => exact ⟨rfl, fun _ _ => rfl⟩
  | @step log d d' x c m ih =>
    have before : log.left = [] ∧ .givenUp ∉ log := by
      refine ⟨?_, fun h => kept (List.mem_append_left _ h)⟩
      rw [Log.left_append] at untaken
      exact (List.append_eq_nil_iff.mp untaken).1
    have agrees := ih before.1 before.2
    have le := c.length_le
    cases m with
    | acceptPacked | acceptFailed | drain => simp at untaken
    | giveUp => simp at kept
    | @route accepting r responses hp hq =>
      have known := Nat.le_of_eq (Ledger.length_completeAll log.routed d₀.ledger).symm
      have routed : (log ++ [Record.routed r]).routed = log.routed ++ [r] := by simp
      rw [Option.toList_some, routed, Ledger.completeAll_concat]
      exact agrees.complete known le r
    | openSlot =>
      rw [Option.toList_none, List.append_nil]
      refine ⟨agrees.waiting, fun t ht => ?_⟩
      rw [Ledger.deliveries_openSlot]
      exact agrees.deliveries t ht
    | refuse r =>
      rw [Option.toList_none, List.append_nil]
      refine ⟨agrees.waiting, fun t ht => ?_⟩
      have old : ¬ t = d.ledger.slots.length := Nat.ne_of_lt (Nat.lt_of_lt_of_le ht le)
      rw [Ledger.deliveries_deliver, if_neg fun h => old h.1, Ledger.deliveries_openSlot]
      exact agrees.deliveries t ht
    | abandon u =>
      rw [Option.toList_none, List.append_nil]
      refine ⟨agrees.waiting, fun t ht => ?_⟩
      exact (Ledger.deliveries_abandon ..).trans (agrees.deliveries t ht)
    | forward | enter | arrive | take => simpa using agrees
    | _ =>
      rw [Option.toList_none, List.append_nil]
      exact agrees

/-- Who has one table and the same deliveries got the same responses. -/
theorem Agrees.delivers {l l₁ l₂ : Ledger} {rs : List Response}
    (h : Agrees l.slots.length l₁ l₂) (proper : l.Proper) (delivers : l.Delivers rs l₁) :
    l.Delivers rs l₂ where
  given sync t hw := by
    rw [h.deliveries t (proper.range _ hw)]
    exact delivers.given sync t hw
  others t range unlisted := by
    rw [h.deliveries t range]
    exact delivers.others t range unlisted
  table sync t := by
    rw [h.waiting]
    exact delivers.table sync t

/-- A run in which nothing is accepted hands out the responses that it takes. -/
theorem Run.completeAll (run : Run d₀ log d) (none : log.accepted = []) :
    Agrees d₀.ledger.slots.length (d₀.ledger.completeAll log.routed).2 d.ledger := by
  have untaken : log.left = [] := by
    refine List.filterMap_eq_nil_iff.mpr fun x hx => ?_
    have unaccepted := List.filterMap_eq_nil_iff.mp none x hx
    have kept := not_givesUp_of_run run hx
    cases x with
    | accepted => cases unaccepted
    | drained => cases kept
    | _ => rfl
  have kept : .givenUp ∉ log := fun h => nomatch not_givesUp_of_run run h
  exact (Course.of_run run).completeAll untaken kept

/-- **The table of a stage is proper**, in every course. -/
theorem Course.proper (blank : Blank d₀) (c : Course d₀ log d) : d.ledger.Proper where
  keys := (c.accounted blank).book.keys
  tickets := (c.accounted blank).book.nodup_tickets
  range := by
    rintro ⟨sync, t⟩ hw
    have book := (c.accounted blank).book
    exact book.range t (book.listed sync t ((book.table sync t).mp hw))

end Dispatch

/-! ## 5. Independence -/

namespace Ledger

/-- What responses do to the callers of a ledger, whatever their number, order and content. -/
structure Independent (l : Ledger) : Prop where
  /-- Whoever waits gets the first response with its sync, and nothing else. -/
  given : ∀ rs sync t, (sync, t) ∈ l.waiting →
    (l.completeAll rs).2.deliveries t = l.deliveries t ++ ((first? sync rs).map .ok).toList
  /-- Two sequences that agree on this response leave its slot the same. -/
  outcome : ∀ rs rs' sync t, (sync, t) ∈ l.waiting → first? sync rs = first? sync rs' →
    (l.completeAll rs).2.slots[t]? = (l.completeAll rs').2.slots[t]?
  /-- On the table stays exactly who waits for none of the syncs. -/
  table : ∀ rs sync t, (sync, t) ∈ (l.completeAll rs).2.waiting
    ↔ (sync, t) ∈ l.waiting ∧ ∀ r ∈ rs, r.sync ≠ sync
  /-- The slot of whoever stays on the table is as it was, and so is that of everyone who was not on
  it. -/
  kept : ∀ rs t, (∀ sync, (sync, t) ∈ l.waiting → ∀ r ∈ rs, r.sync ≠ sync) →
    (l.completeAll rs).2.slots[t]? = l.slots[t]?
  /-- The entries that are gone are as many as the responses for which someone waited. -/
  count : ∀ rs, (l.completeAll rs).1.count true + (l.completeAll rs).2.size = l.size
  /-- A stage does just this with the responses that it takes, as long as it accepts nothing. -/
  stage : ∀ d₀ log d, Dispatch.Run d₀ log d → d₀.ledger = l → log.accepted = [] →
    Dispatch.Agrees l.slots.length (l.completeAll log.routed).2 d.ledger
  /-- Two stages that take the same first response for a caller give it the same. -/
  stages : ∀ d₀ d₀' log log' d d' sync t, Dispatch.Run d₀ log d → Dispatch.Run d₀' log' d' →
    d₀.ledger = l → d₀'.ledger = l → log.accepted = [] → log'.accepted = [] →
    (sync, t) ∈ l.waiting → first? sync log.routed = first? sync log'.routed →
    d.ledger.deliveries t = d'.ledger.deliveries t

/-- **No caller's reply depends on what the others get**, for every table of slots. -/
theorem completeAll_independent {l : Ledger} (proper : l.Proper) : l.Independent := by
  have given : ∀ rs sync t, (sync, t) ∈ l.waiting →
      (l.completeAll rs).2.deliveries t = l.deliveries t ++ ((first? sync rs).map .ok).toList :=
    fun rs => (proper.delivers rs).given
  have stage : ∀ d₀ log d, Dispatch.Run d₀ log d → d₀.ledger = l → log.accepted = [] →
      Dispatch.Agrees l.slots.length (l.completeAll log.routed).2 d.ledger := by
    rintro d₀ log d run rfl none
    exact Dispatch.Run.completeAll run none
  exact {
    given
    outcome := by
      intro rs rs' sync t hw same
      rw [slot_completeAll proper hw, slot_completeAll proper hw, same]
    table := fun rs => (proper.delivers rs).table
    kept := by
      intro rs t none
      by_cases listed : ∃ sync, (sync, t) ∈ l.waiting
      · obtain ⟨sync, hw⟩ := listed
        have unanswered : first? sync rs = Option.none :=
          List.find?_eq_none.mpr fun r hr => by simpa using none sync hw r hr
        rw [slot_completeAll proper hw, unanswered]
        simp
      · exact slot_completeAll_of_notMem (fun sync hw => listed ⟨sync, hw⟩) rs
    count := count_completeAll proper
    stage
    stages := by
      intro d₀ d₀' log log' d d' sync t run run' hl hl' none none' hw same
      have slot := proper.range _ hw
      rw [(stage _ _ _ run hl none).deliveries t slot,
        (stage _ _ _ run' hl' none').deliveries t slot, given _ sync t hw, given _ sync t hw,
        same] }

/-- Responses to two requests, with a stray one and a second one to the first. -/
def busy : List Response :=
  [⟨2, 0x8001, none, none, some ⟨1, "no"⟩⟩, ⟨9, 0, none, none, none⟩, ⟨1, 0, some 7, none, none⟩,
    ⟨1, 0, none, none, none⟩]

/-- A response to the first request alone. -/
def calm : List Response :=
  [⟨1, 0, some 7, none, none⟩]

/-- With two pings on the table, the first caller gets the response to its own among strays,
duplicates and the other's, and gets the same without them. -/
theorem completeAll_independent_pings : ∃ log d,
    Dispatch.Run (.new 2 2 2 ⟨1⟩ "" .new) log d ∧ d.ledger.waiting = [(2, 1), (1, 0)]
      ∧ d.ledger.Proper
      ∧ (d.ledger.completeAll busy).2.slots[0]? = (d.ledger.completeAll calm).2.slots[0]?
      ∧ (d.ledger.completeAll busy).2.deliveries 0 = [.ok ⟨1, 0, some 7, none, none⟩] := by
  have run : Dispatch.Run (.new 2 2 2 ⟨1⟩ "" .new) _ _ := Logged.of_follow
    [.submit .ping, .submit .ping, .acts .look, .acts .takeSubmission, .acts .forward,
      .acts .look, .acts .takeSubmission, .acts .forward] rfl
  have blank := Dispatch.blank_new 2 2 2 ⟨1⟩ "" .new
  have proper := (Dispatch.Course.of_run run).proper blank
  have waits := List.mem_cons_of_mem ((2, 1) : UInt32 × Ticket) (List.mem_singleton_self (1, 0))
  have independent := completeAll_independent proper
  exact ⟨_, _, run, rfl, proper, independent.outcome _ _ 1 0 waits rfl,
    independent.given _ 1 0 waits⟩

end Ledger

end Muxwire.Mux
