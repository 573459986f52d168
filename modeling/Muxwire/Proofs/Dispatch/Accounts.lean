import Muxwire.Proofs.Dispatch.Order

/-!
# Every slot accounted for

The ledger of a course says what the standings in its log say (`Accounted`), and no two queued
submissions have one ticket. So a slot is filled once at most, and who is on the table is who is
pending: the other modules about replies read both off this one invariant, `Course.accounted`.
-/

namespace Muxwire.Mux.Dispatch

open Request Wire

/-- The tickets of the submissions that were queued. -/
def tickets (log : Log) : List Ticket :=
  log.entered.map (·.ticket)

theorem mem_tickets {log : Log} {s : Submission} (h : s ∈ log.entered) : s.ticket ∈ tickets log :=
  List.mem_map_of_mem h

/-- The ledger says what the log says, and no ticket was queued twice. -/
structure Accounted (space : String) (log : Log) (d : Dispatch) : Prop where
  once : (tickets log).Nodup
  book : Book d.ledger (log.standing space) (tickets log)

namespace Accounted

variable {space : String} {d d' : Dispatch} {log : Log}

/-- Whoever is on the queue has left it by no record. -/
theorem standing_of_queued {s : Submission} {items : List Submission}
    (a : Accounted space log d) (hq : log.entered = log.left ++ items) (hs : s ∈ items) :
    log.standing space s.ticket = .queued := by
  refine Log.standing_eq_queued_iff.mpr ?_
  intro s' hs' he
  have once := a.once
  rw [tickets, hq, List.map_append, List.nodup_append] at once
  exact once.2.2 _ (List.mem_map_of_mem hs') _ (List.mem_map_of_mem hs) he

/-- Whoever stands in front of the queue is known, and queued by its standing. -/
theorem front {d₀ : Dispatch} {s : Submission} {submissions : Queue Submission}
    (a : Accounted space log d) (o : InOrder d₀ log d)
    (hq : d.submissions.pop? = some (s, submissions)) :
    s ∈ log.entered ∧ log.standing space s.ticket = .queued := by
  have queue := o.queue
  rw [Queue.items_pop? hq] at queue
  refine ⟨?_, a.standing_of_queued queue List.mem_cons_self⟩
  rw [queue]
  exact List.mem_append_right _ List.mem_cons_self

/-- A record that queues nobody changes the standings, and the ledger with them. -/
theorem record {x : Record} (a : Accounted space log d) (hx : x.entered? = none)
    (b : Book d'.ledger (fun t => Record.next space t (log.standing space t) x) (tickets log)) :
    Accounted space (log ++ [x]) d' := by
  have known : tickets (log ++ [x]) = tickets log := by
    rw [tickets, Log.entered_concat, hx]
    simp [tickets]
  refine ⟨known ▸ a.once, known ▸ b.congr fun t => ?_⟩
  exact Log.standing_concat ..

/-- A record that neither settles nor places anyone changes no standing. -/
theorem quiet {x : Record} (a : Accounted space log d) (hx : x.entered? = none)
    (hp : ∀ t, x.places? space t = none) (hs : ∀ sync, x.settles? sync = none)
    (hl : d'.ledger = d.ledger) : Accounted space (log ++ [x]) d' := by
  refine a.record hx (hl ▸ a.book.congr fun t => ?_)
  have none : x.settles? = fun _ => none := funext hs
  rw [Record.next, hp t, none, Standing.receive_none]

/-- An acceptance gives up whoever waits for the sync. -/
theorem evicted (a : Accounted space log d) (s : Submission) :
    let sync := d.counter.following
    Book (d.ledger.evict sync (reissued sync)).2
      (fun t => (log.standing space t).receive (Record.accepted sync s).settles?)
      (tickets log) := by
  refine (a.book.finish d.counter.following _).congr ?_
  intro t
  congr 1
  funext i
  by_cases h : d.counter.following = i
  · subst h
    rfl
  · simp [Record.settles?, h]

/-- **Every move keeps the accounts.** -/
theorem move {d₀ : Dispatch} {x : Option Record} (a : Accounted d₀.space log d)
    (o : InOrder d₀ log d) (m : Move log d x d') : Accounted d₀.space (log ++ x.toList) d' := by
  cases m with
  | @acceptPacked s submissions frame hp hq hpack =>
    obtain ⟨entered, queued⟩ := a.front o hq
    have known := mem_tickets entered
    refine a.record rfl (((a.evicted s).register known ?_ fun u hu => ?_).congr fun t => ?_)
    · rw [queued]
      rfl
    · have := (Standing.receive_eq_waiting_iff.mp hu).2
      simp [Record.settles?] at this
    · by_cases h : t = s.ticket
      · subst h
        rw [Record.next, Record.places?_accepted_of_ok (o.space ▸ hpack), if_pos rfl]
      · simp [Record.next, Record.places?, h, Ne.symm h]
  | @acceptFailed s submissions e hp hq hpack =>
    obtain ⟨entered, queued⟩ := a.front o hq
    have known := mem_tickets entered
    refine a.record rfl (((a.evicted s).deliver known ?_ _).congr fun t => ?_)
    · rw [queued]
      rfl
    · have hpack : s.query.pack d.counter.following d₀.space = .error e := o.space ▸ hpack
      by_cases h : t = s.ticket
      · subst h
        simp [Record.next, Record.places?, hpack]
      · simp [Record.next, Record.places?, h, Ne.symm h]
  | @route accepting r responses hp hq =>
    exact a.record rfl ((a.book.finish r.sync (.ok r)).congr fun t => rfl)
  | refuse r =>
    simp only [Option.toList_none, List.append_nil]
    exact ⟨a.once, a.book.deliver_new r⟩
  | @enter s hs hq =>
    have known : tickets (log ++ [.entered s]) = tickets log ++ [s.ticket] := by simp [tickets]
    have fresh : s.ticket ∉ tickets log := by
      intro h
      obtain ⟨s', hs', he⟩ := List.mem_map.mp h
      exact hs.notEntered s' hs' he
    have queued : log.standing d₀.space s.ticket = .queued := by
      refine Log.standing_eq_queued_iff.mpr fun s' hs' => hs.notEntered s' ?_
      rw [o.queue]
      exact List.mem_append_left _ hs'
    refine ⟨?_, ?_⟩
    · show (tickets (log ++ [.entered s])).Nodup
      rw [known, ← List.concat_eq_append]
      exact a.once.concat fresh
    · show Book d.ledger _ (tickets (log ++ [.entered s]))
      rw [known]
      refine (a.book.enlist hs.inRange hs.empty queued).congr ?_
      intro t
      exact (Log.standing_concat ..).trans (Standing.receive_none _)
  | giveUp hp => exact a.record rfl ((a.book.failAll .connectionClosed).congr fun t => rfl)
  | @drain s submissions hp hq =>
    obtain ⟨entered, queued⟩ := a.front o hq
    refine a.record rfl ((a.book.deliver (mem_tickets entered) queued _).congr fun t => ?_)
    by_cases h : t = s.ticket
    · simp [Record.next, Record.places?, h]
    · have : (Record.drained s).settles? = fun _ => none := rfl
      simp [Record.next, Record.places?, h, Ne.symm h, this]
  | forward | take | arrive => exact a.quiet rfl (fun _ => rfl) (fun _ => rfl) rfl
  | openSlot =>
    simp only [Option.toList_none, List.append_nil]
    exact ⟨a.once, a.book.openSlot⟩
  | abandon t =>
    simp only [Option.toList_none, List.append_nil]
    exact ⟨a.once, a.book.abandon t⟩
  | _ =>
    simp only [Option.toList_none, List.append_nil]
    exact ⟨a.once, a.book⟩

/-- A slot that nobody uses stays empty until its ticket enters. -/
theorem unused {d₀ : Dispatch} {x : Option Record} {t : Ticket} (a : Accounted d₀.space log d)
    (o : InOrder d₀ log d) (m : Move log d x d') (u : Unused log d t)
    (hx : ∀ s, x = some (.entered s) → s.ticket ≠ t) : Unused (log ++ x.toList) d' t := by
  have unknown : t ∉ tickets log := by
    intro h
    obtain ⟨s, hs, he⟩ := List.mem_map.mp h
    exact u.notEntered s hs he
  -- nobody on the table and nobody in front of the queue has the ticket
  have finished : ∀ sync r, (d.ledger.finish sync r).2.deliveries t = [] := by
    intro sync r
    rw [Ledger.deliveries_finish, if_neg, u.empty]
    rintro ⟨hf, -⟩
    exact unknown (a.book.listed _ _ (a.book.ticket?_iff.mp hf))
  have front : ∀ {s submissions}, d.submissions.pop? = some (s, submissions) → ¬ t = s.ticket := by
    rintro s submissions hq rfl
    exact u.notEntered s (a.front o hq).1 rfl
  refine ⟨Nat.lt_of_lt_of_le u.inRange m.length_le, ?_, ?_⟩
  · cases m with
    | acceptPacked hp hq hpack => exact finished ..
    | acceptFailed hp hq hpack =>
      show Ledger.deliveries (Ledger.deliver _ _ _) t = []
      rw [Ledger.deliveries_deliver, if_neg fun h => front hq h.1]
      exact finished ..
    | route => exact finished ..
    | openSlot => exact (Ledger.deliveries_openSlot ..).trans u.empty
    | refuse =>
      have old : ¬ t = d.ledger.slots.length := Nat.ne_of_lt u.inRange
      show Ledger.deliveries (Ledger.deliver _ _ _) t = []
      rw [Ledger.deliveries_deliver, if_neg fun h => old h.1, Ledger.deliveries_openSlot, u.empty]
    | abandon => exact (Ledger.deliveries_abandon ..).trans u.empty
    | giveUp =>
      show Ledger.deliveries (Ledger.deliverAll _ _ _) t = []
      rw [Ledger.deliveries_deliverAll _ a.book.nodup_tickets, if_neg]
      · exact u.empty
      · rintro ⟨hm, -⟩
        obtain ⟨⟨sync, t⟩, hw, rfl⟩ := List.mem_map.mp hm
        exact unknown (a.book.listed _ _ ((a.book.table _ _).mp hw))
    | drain hp hq =>
      show Ledger.deliveries (Ledger.deliver _ _ _) t = []
      rw [Ledger.deliveries_deliver, if_neg fun h => front hq h.1, u.empty]
    | _ => exact u.empty
  · intro s hs
    cases x with
    | none => exact u.notEntered s (by simpa using hs)
    | some x =>
      rw [Option.toList_some, Log.entered_concat, List.mem_append] at hs
      rcases hs with hs | hs
      · exact u.notEntered s hs
      · cases x with
        | entered s' =>
          cases List.mem_singleton.mp hs
          exact hx _ rfl
        | _ => cases hs

end Accounted

/-- **Every course is accounted for.** -/
theorem Course.accounted {d₀ d : Dispatch} {log : Log} (h : Blank d₀) (c : Course d₀ log d) :
    Accounted d₀.space log d := by
  induction c with
  | start => exact ⟨List.nodup_nil, h.ledger ▸ Book.empty⟩
  | step c m ih => exact ih.move (c.inOrder h) m

/-! ## What the accounts say -/

namespace Course

variable {d₀ d : Dispatch} {log : Log}

/-- A ticket belongs to one submission. -/
theorem submission_ext (h : Blank d₀) (c : Course d₀ log d) {s s' : Submission}
    (hs : s ∈ log.entered) (hs' : s' ∈ log.entered) (ht : s.ticket = s'.ticket) : s = s' :=
  List.inj_on_of_nodup_map (c.accounted h).once hs hs' ht

theorem entered_of_left (h : Blank d₀) (c : Course d₀ log d) {s : Submission}
    (hs : s ∈ log.left) : s ∈ log.entered := by
  rw [(c.inOrder h).queue]
  exact List.mem_append_left _ hs

/-- No ticket leaves the queue twice. -/
theorem once_left (h : Blank d₀) (c : Course d₀ log d) : (log.left.map (·.ticket)).Nodup := by
  have once := (c.accounted h).once
  rw [tickets, (c.inOrder h).queue, List.map_append] at once
  exact (List.nodup_append.mp once).1

/-- **On the table is who is pending.** -/
theorem mem_waiting_iff (h : Blank d₀) (c : Course d₀ log d) {sync : UInt32} {t : Ticket} :
    (sync, t) ∈ d.ledger.waiting ↔ ∃ s, s.ticket = t ∧ Log.Pending d₀.space log sync s := by
  rw [(c.accounted h).book.table, Log.standing_eq_waiting_iff (c.once_left h)]

/-- **A slot holds one reply at most, and that one has a cause.** -/
theorem cause (h : Blank d₀) (c : Course d₀ log d) {s : Submission} (hs : s ∈ log.entered)
    {r : Reply} (hr : r ∈ d.ledger.deliveries s.ticket) :
    d.ledger.deliveries s.ticket = [r] ∧ Cause d₀.space log s r := by
  have filled := (c.accounted h).book.filled _ (mem_tickets hs)
  rw [filled] at hr ⊢
  cases hst : log.standing d₀.space s.ticket with
  | settled r' =>
    rw [hst] at hr
    cases List.mem_singleton.mp hr
    refine ⟨rfl, ?_⟩
    obtain ⟨s', hs', ht, cause⟩ := Log.cause_of_settled (c.once_left h) hst
    exact c.submission_ext h (c.entered_of_left h hs') hs ht ▸ cause
  | queued =>
    rw [hst] at hr
    cases hr
  | waiting sync =>
    rw [hst] at hr
    cases hr

theorem length_deliveries_le (h : Blank d₀) (c : Course d₀ log d) {s : Submission}
    (hs : s ∈ log.entered) : (d.ledger.deliveries s.ticket).length ≤ 1 := by
  rw [(c.accounted h).book.filled _ (mem_tickets hs)]
  cases log.standing d₀.space s.ticket <;> simp

/-- Whoever is first on the queue has an empty slot and waits for nothing. -/
theorem front (blank : Blank d₀) (c : Course d₀ log d) {s : Submission}
    {submissions : Queue Submission} (hq : d.submissions.pop? = some (s, submissions)) :
    s.ticket < d.ledger.slots.length ∧ d.ledger.deliveries s.ticket = []
      ∧ ∀ sync, d.ledger.ticket? sync ≠ some s.ticket := by
  have book := (c.accounted blank).book
  obtain ⟨entered, standing⟩ := (c.accounted blank).front (c.inOrder blank) hq
  refine ⟨c.inRange s entered, ?_, ?_⟩
  · rw [book.filled _ (mem_tickets entered), standing]
    rfl
  · intro sync h
    rw [book.ticket?_iff, standing] at h
    cases h

/-- Whoever waits for a sync has an empty slot. -/
theorem waiting_empty (blank : Blank d₀) (c : Course d₀ log d) {sync : UInt32} {t : Ticket}
    (h : d.ledger.ticket? sync = some t) :
    t < d.ledger.slots.length ∧ d.ledger.deliveries t = [] := by
  have book := (c.accounted blank).book
  have standing := book.ticket?_iff.mp h
  have known := book.listed _ _ standing
  refine ⟨book.range _ known, ?_⟩
  rw [book.filled _ known, standing]
  rfl

/-- With nobody on the table and nobody on the queue, nobody is left without a reply. -/
theorem settled (blank : Blank d₀) (c : Course d₀ log d) (table : d.ledger.waiting = [])
    (queue : d.submissions.items = []) {s : Submission} (hs : s ∈ log.entered) :
    ∃ r, log.standing d₀.space s.ticket = .settled r := by
  cases hst : log.standing d₀.space s.ticket with
  | settled r => exact ⟨r, rfl⟩
  | waiting sync =>
    have listed := ((c.accounted blank).book.table sync s.ticket).mpr hst
    rw [table] at listed
    cases listed
  | queued =>
    -- the queue is empty, so whoever was queued has left it
    have left := (c.inOrder blank).queue
    rw [queue, List.append_nil] at left
    exact absurd rfl (Log.standing_eq_queued_iff.mp hst s (left ▸ hs))

/-- With nobody on the table and nobody on the queue everyone has one reply. -/
theorem exists_reply (blank : Blank d₀) (c : Course d₀ log d) (table : d.ledger.waiting = [])
    (queue : d.submissions.items = []) {s : Submission} (hs : s ∈ log.entered) :
    ∃ r, d.ledger.deliveries s.ticket = [r] := by
  obtain ⟨r, hr⟩ := c.settled blank table queue hs
  refine ⟨r, ?_⟩
  rw [(c.accounted blank).book.filled _ (mem_tickets hs), hr]
  rfl

/-- Within the first period no two of the accepted have one sync. -/
theorem fresh (h : Blank d₀) (c : Course d₀ log d) (few : log.accepted.length ≤ 2 ^ 32 - 1) :
    (log.accepted.map Prod.fst).Nodup := by
  rw [(c.inOrder h).syncs]
  exact d₀.counter.nodup_take few

/-- Nobody is accepted twice. -/
theorem accepted_ext (h : Blank d₀) (c : Course d₀ log d) {sync sync' : UInt32} {s : Submission}
    (hs : (sync, s) ∈ log.accepted) (hs' : (sync', s) ∈ log.accepted) : sync = sync' := by
  have once := c.once_left h
  rw [(c.inOrder h).left, List.map_append, List.map_map] at once
  have he := List.inj_on_of_nodup_map (List.nodup_append.mp once).1 hs hs' rfl
  exact congrArg Prod.fst he

/-- Nobody is both accepted and given up on the queue. -/
theorem not_drained_of_accepted (h : Blank d₀) (c : Course d₀ log d) {sync : UInt32}
    {s : Submission} (hs : (sync, s) ∈ log.accepted) : s ∉ log.drained := by
  intro hd
  have once := c.once_left h
  rw [(c.inOrder h).left, List.map_append, List.nodup_append] at once
  have ha : s ∈ log.accepted.map Prod.snd := List.mem_map_of_mem hs
  exact once.2.2 _ (List.mem_map_of_mem ha) _ (List.mem_map_of_mem hd) rfl

/-- Whoever was accepted has a reply or is pending. -/
theorem replied_or_pending (h : Blank d₀) (c : Course d₀ log d) {sync : UInt32} {s : Submission}
    (hs : (sync, s) ∈ log.accepted) :
    (∃ r, d.ledger.deliveries s.ticket = [r]) ∨ Log.Pending d₀.space log sync s := by
  have left := Log.mem_left_of_accepted hs
  rw [(c.accounted h).book.filled _ (mem_tickets (c.entered_of_left h left))]
  cases hst : log.standing d₀.space s.ticket with
  | queued => exact absurd rfl (Log.standing_eq_queued_iff.mp hst s left)
  | settled r => exact .inl ⟨r, rfl⟩
  | waiting sync' =>
    obtain ⟨s', ht, hp⟩ := (Log.standing_eq_waiting_iff (c.once_left h)).mp hst
    have same := c.submission_ext h (c.entered_of_left h hp.mem_left) (c.entered_of_left h left) ht
    subst same
    exact .inr (c.accepted_ext h hs hp.mem_accepted ▸ hp)

/-- **Whose query cannot be packed gets the error of the query**, whatever else happens. -/
theorem deliveries_of_unpackable (h : Blank d₀) (c : Course d₀ log d) {sync : UInt32}
    {s : Submission} {e : Error} (hs : (sync, s) ∈ log.accepted)
    (hp : s.query.pack sync d₀.space = .error e) :
    d.ledger.deliveries s.ticket = [.error e] := by
  have never : ∀ {front sync'}, front <+: log → ¬ Log.Pending d₀.space front sync' s := by
    intro front sync' hf hpending
    have he := c.accepted_ext h hs ((Log.accepted_mono hf).subset hpending.mem_accepted)
    subst he
    obtain ⟨-, -, ⟨frame, hk⟩, -⟩ := hpending
    rw [hp] at hk
    cases hk
  have entered := c.entered_of_left h (Log.mem_left_of_accepted hs)
  rcases c.replied_or_pending h hs with ⟨r, hr⟩ | hpending
  · obtain ⟨-, cause⟩ := c.cause h entered (hr ▸ List.mem_singleton_self r)
    rw [hr]
    cases cause with
    | answered hb hpending => exact absurd hpending (never ((List.prefix_append _ _).trans hb))
    | @unpackable before sync' text hb hk =>
      have accepted := (Log.accepted_mono hb).subset (a := (sync', s)) (by simp)
      cases c.accepted_ext h hs accepted
      rw [hp] at hk
      cases hk
      rfl
    | reissued hb hpending => exact absurd hpending (never ((List.prefix_append _ _).trans hb))
    | givenUp hb hpending => exact absurd hpending (never ((List.prefix_append _ _).trans hb))
    | drained hb =>
      have drained := (hb.filterMap Record.drained?).subset (a := s) (by simp)
      exact absurd drained (c.not_drained_of_accepted h hs)
  · exact absurd hpending (never (List.prefix_refl _))

end Course

end Muxwire.Mux.Dispatch
