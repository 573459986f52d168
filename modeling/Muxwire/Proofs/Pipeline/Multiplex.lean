import Muxwire.Proofs.Pipeline.Exchange

/-!
# Every caller gets its own answer

**`run_multiplexed`** -- in every run of the pipeline and a server, in whatever order the server
answers and in whatever pieces the octets go both ways: a response that a caller gets is the answer
to that caller's own frame. Once every answer is routed, and before the stop signal fires, each
caller has what is due to it: the answer, the error of its own query, or nothing yet.

The syncs carry it: within the first period of the counter no two callers share one
(`Course.fresh`), the server finds the caller's sync in the frame (`Admissible.isTo`), and an
answer is routed only after its caller went on the table (`preceded_of_run`).
-/

namespace Muxwire.Mux

open Request Wire Msgpack Dispatch

namespace Exchange

/-! ## 1. Whose answer it is -/

/-- The replies in the slot of a ticket. -/
def replies (x : Exchange) (t : Ticket) : List Reply :=
  x.pipeline.dispatch.ledger.deliveries t

/-- The stop signal has not fired, and every answer of the server was read and routed. -/
structure CaughtUp (log : Log) (x : Exchange) : Prop where
  running : x.pipeline.dispatch.stop.fired = false
  routed : log.routed.length = x.answers.length

section

variable {d₀ : Dispatch} {log : Log} {x : Exchange}
variable (blank : Blank d₀) (run : Run d₀ log x)
variable (codes : ∀ s ∈ log.entered, s.query.code < 128)
variable (few : log.accepted.length ≤ 2 ^ 32 - 1)

include blank run

theorem course_of_run : Course d₀ log x.pipeline.dispatch :=
  (Pipeline.sound_of_run blank run.ofPipeline).course

include few in
/-- A submission has one answer at most. -/
theorem answer_ext {s : Submission} {a b : Answer} (ha : a ∈ x.answers) (hb : b ∈ x.answers)
    (hsa : a.IsTo d₀.space log s) (hsb : b.IsTo d₀.space log s) : a = b := by
  have c := course_of_run blank run
  have sync := c.accepted_ext blank hsa.mem_accepted hsb.mem_accepted
  have once := (c.fresh blank few).sublist (Log.packed_syncs_sublist d₀.space log)
  have place : a.place = b.place := by
    have inRange : a.place < ((log.packed d₀.space).map (·.sync)).length := by
      rw [List.length_map]
      exact (List.getElem?_eq_some_iff.mp hsa).1
    refine (List.getElem?_inj inRange once).mp ?_
    have hsa : (log.packed d₀.space)[a.place]? = _ := hsa
    have hsb : (log.packed d₀.space)[b.place]? = _ := hsb
    rw [List.getElem?_map, List.getElem?_map, hsa, hsb]
    exact congrArg some sync
  exact List.inj_on_of_nodup_map (served_of_run blank run).once ha hb place

include codes few in
/-- **A response that a caller gets is the answer to its own frame.** -/
theorem own_answer {s : Submission} (hs : s ∈ log.entered) {r : Response}
    (hr : .ok r ∈ x.replies s.ticket) :
    ∃ a ∈ x.answers, a.IsTo d₀.space log s ∧ r = a.response := by
  have c := course_of_run blank run
  obtain ⟨-, cause⟩ := c.cause blank hs hr
  cases cause with
  | @answered before r hb pending =>
    have routed := (hb.filterMap Record.routed?).subset (a := r) (by simp)
    obtain ⟨a, ha, rfl⟩ := List.mem_map.mp ((routed_answers blank run).subset routed)
    obtain ⟨s', hs'⟩ := (served_of_run blank run).addressed codes a ha
    -- both went on the table under the sync of the response
    have accepted := (Log.accepted_mono ((List.prefix_append _ _).trans hb)).subset
      pending.mem_accepted
    have same := List.inj_on_of_nodup_map (c.fresh blank few) accepted hs'.mem_accepted rfl
    cases same
    exact ⟨a, ha, hs', rfl⟩

include codes few in
/-- Nobody is pending under a sync once a response with it was routed. -/
theorem not_pending_of_routed {r : Response} (hr : r ∈ log.routed) {s : Submission} :
    ¬ Log.Pending d₀.space log r.sync s := by
  rintro ⟨later, ⟨before, rfl⟩, -, unanswered, -, -⟩
  have routed : r ∈ Log.routed before := by
    rw [Log.routed, List.filterMap_append] at hr
    rcases List.mem_append.mp hr with hr | hr
    · exact hr
    · exact absurd rfl (unanswered r hr)
  obtain ⟨s', hs'⟩ := preceded_of_run blank run codes (List.prefix_append _ _) routed
  have once := (course_of_run blank run).fresh blank few
  rw [Log.accepted, List.filterMap_append, List.map_append, List.nodup_append] at once
  exact once.2.2 _ (List.mem_map_of_mem hs') _ (by simp) rfl

include few in
/-- Before the stop signal fires, a reply is a response or the error of the caller's own query. -/
theorem ok_or_unpackable (running : x.pipeline.dispatch.stop.fired = false) {s : Submission}
    (hs : s ∈ log.entered) {reply : Reply} (hr : reply ∈ x.replies s.ticket) :
    (∃ r, reply = .ok r) ∨ ∃ sync e, (sync, s) ∈ log.accepted
      ∧ s.query.pack sync d₀.space = .error e ∧ reply = .error e := by
  have c := course_of_run blank run
  have kept : ∀ y ∈ log, y.givesUp = true → False := by
    intro y hy hg
    rw [(Pipeline.exits_start d₀).fired_of_givesUp run.ofPipeline hy hg] at running
    cases running
  obtain ⟨-, cause⟩ := c.cause blank hs hr
  cases cause with
  | @answered _ r _ _ => exact .inl ⟨r, rfl⟩
  | @unpackable before sync text hb hk =>
    have accepted := (Log.accepted_mono hb).subset (a := (sync, s)) (by simp)
    exact .inr ⟨sync, _, accepted, hk, rfl⟩
  | @reissued before sync other hb pending =>
    have once := ((Log.accepted_mono hb).map Prod.fst).sublist.nodup (c.fresh blank few)
    rw [Log.accepted_concat, List.map_append, List.nodup_append] at once
    exact absurd rfl (once.2.2 _ (List.mem_map_of_mem pending.mem_accepted) sync (by simp))
  | givenUp hb _ => exact (kept .givenUp (hb.subset (by simp)) rfl).elim
  | drained hb => exact (kept (.drained s) (hb.subset (by simp)) rfl).elim

include codes few in
/-- **When all is read and routed, who was answered has the answer.** -/
theorem replies_of_answered (caught : x.CaughtUp log) {s : Submission} {a : Answer}
    (ha : a ∈ x.answers) (hs : a.IsTo d₀.space log s) : x.replies s.ticket = [.ok a.response] := by
  have c := course_of_run blank run
  have entered := c.entered_of_left blank (Log.mem_left_of_accepted hs.mem_accepted)
  rcases c.replied_or_pending blank hs.mem_accepted with ⟨reply, hr⟩ | pending
  · have hr : x.replies s.ticket = [reply] := hr
    have mem : reply ∈ x.replies s.ticket := hr ▸ List.mem_singleton_self reply
    rcases ok_or_unpackable blank run few caught.running entered mem with
      ⟨r, rfl⟩ | ⟨sync, e, accepted, hp, -⟩
    · obtain ⟨b, hb, hsb, rfl⟩ := own_answer blank run codes few entered mem
      rw [hr, answer_ext blank run few ha hb hs hsb]
    · -- its frame was packed under the one sync that it has
      have packed := (Log.mem_packed_iff.mp hs.mem_packed).2
      cases c.accepted_ext blank hs.mem_accepted accepted
      rw [hp] at packed
      cases packed
  · -- its answer is among the responses, and all of them were routed
    have all := (routed_answers blank run).eq_of_length (by simp [caught.routed])
    have routed : a.response ∈ log.routed := all ▸ List.mem_map_of_mem ha
    exact absurd pending (not_pending_of_routed blank run codes few routed)

include codes few in
/-- Before the stop signal fires, who was not answered waits, unless its query cannot be packed. -/
theorem replies_of_unanswered (running : x.pipeline.dispatch.stop.fired = false) {s : Submission}
    (hs : s ∈ log.entered) (unanswered : ∀ a ∈ x.answers, ¬ a.IsTo d₀.space log s)
    (packed : ∀ sync, (sync, s) ∈ log.accepted → ∃ frame, s.query.pack sync d₀.space = .ok frame) :
    x.replies s.ticket = [] := by
  refine List.eq_nil_iff_forall_not_mem.mpr ?_
  intro reply mem
  rcases ok_or_unpackable blank run few running hs mem with ⟨r, rfl⟩ | ⟨sync, e, accepted, hp, -⟩
  · obtain ⟨a, ha, hsa, -⟩ := own_answer blank run codes few hs mem
    exact unanswered a ha hsa
  · obtain ⟨frame, hk⟩ := packed sync accepted
    rw [hp] at hk
    cases hk

end

/-! ## 2. Every caller -/

/-- What every caller of an exchange gets. -/
structure Multiplexed (space : String) (log : Log) (x : Exchange) : Prop where
  /-- Each answer is to one caller's frame. -/
  addressed : ∀ a ∈ x.answers, ∃ s ∈ log.entered, a.IsTo space log s
  /-- To each frame there is one answer at most. -/
  once : ∀ s, ∀ a ∈ x.answers, ∀ b ∈ x.answers, a.IsTo space log s → b.IsTo space log s → a = b
  /-- A caller gets one reply at most, and if that is a response, the answer to its own frame. -/
  single : ∀ s ∈ log.entered, (x.replies s.ticket).length ≤ 1
  own : ∀ s ∈ log.entered, ∀ r, .ok r ∈ x.replies s.ticket →
    ∃ a ∈ x.answers, a.IsTo space log s ∧ r = a.response
  /-- A query that cannot be packed gets its error at once. -/
  unpackable : ∀ sync s e, (sync, s) ∈ log.accepted → s.query.pack sync space = .error e →
    x.replies s.ticket = [.error e]
  /-- When all is read and routed, who was answered has the answer. -/
  answered : x.CaughtUp log → ∀ s, ∀ a ∈ x.answers, a.IsTo space log s →
    x.replies s.ticket = [.ok a.response]
  /-- Until the stop signal fires, who was not answered waits. -/
  waiting : x.pipeline.dispatch.stop.fired = false → ∀ s ∈ log.entered,
    (∀ a ∈ x.answers, ¬ a.IsTo space log s) →
    (∀ sync, (sync, s) ∈ log.accepted → ∃ frame, s.query.pack sync space = .ok frame) →
    x.replies s.ticket = []

/-- **Every caller gets the answer to its own request and no other**, in every run of the pipeline
and a server, as long as no sync is issued twice and codes are below 128. -/
theorem run_multiplexed {submissions responses outbound : Nat} {intake : Intake} {space : String}
    {counter : SyncCounter} {log : Log} {x : Exchange}
    (run : Run (.new submissions responses outbound intake space counter) log x)
    (codes : ∀ s ∈ log.entered, s.query.code < 128)
    (few : log.accepted.length ≤ 2 ^ 32 - 1) : Multiplexed space log x := by
  have blank := blank_new submissions responses outbound intake space counter
  have c := course_of_run blank run
  exact {
    addressed := fun a ha => by
      obtain ⟨s, hs⟩ := (served_of_run blank run).addressed codes a ha
      exact ⟨s, c.entered_of_left blank (Log.mem_left_of_accepted hs.mem_accepted), hs⟩
    once := fun s a ha b hb hsa hsb => answer_ext blank run few ha hb hsa hsb
    single := fun s hs => c.length_deliveries_le blank hs
    own := fun s hs r hr => own_answer blank run codes few hs hr
    unpackable := fun sync s e hs hp => c.deliveries_of_unpackable blank hs hp
    answered := fun caught s a ha hs => replies_of_answered blank run codes few caught ha hs
    waiting := fun running s hs unanswered packed =>
      replies_of_unanswered blank run codes few running hs unanswered packed }

/-- The answer to a ping by a number, in the shortest form. -/
def pong (place : Nat) (sync n : UInt32) : Answer :=
  ⟨place, requestBody .ping sync "", sync, natValue n.toUInt64,
    replyBody sync (natValue n.toUInt64)⟩

theorem isReply_pong (place : Nat) (sync n : UInt32) :
    IsReply sync (natValue n.toUInt64) (pong place sync n).body :=
  isReply_replyBody sync trivial (by simp [natValue, Value.cost, Value.fullBudget]) rfl

/-- With two pings that are answered last first, and the second answer in two pieces. -/
theorem run_multiplexed_pings : ∃ log x, Run (.new 2 1 1 ⟨1⟩ "" .new) log x
    ∧ x.CaughtUp log ∧ x.replies 0 = [.ok (dataResponse 1 (natValue 8))]
    ∧ x.replies 1 = [.ok (dataResponse 2 (natValue 7))] ∧ Multiplexed "" log x := by
  have begun : Run (.new 2 1 1 ⟨1⟩ "" .new) [] _ := .start
  have asked := begun.follow
    [.submit .ping, .submit .ping, .dispatch .look, .dispatch .takeSubmission, .dispatch .forward,
      .outbound .take, .outbound (.accept 14), .outbound .flush, .dispatch .look,
      .dispatch .takeSubmission, .dispatch .forward, .outbound .take, .outbound (.accept 5),
      .outbound (.accept 9)] nofun rfl
  let requests := [requestBody .ping 1 "", requestBody .ping 2 ""]
  have second := asked.step (.answer (a := pong 1 2 7) ⟨⟨requests, by decide, ⟨[], rfl⟩, rfl⟩,
    syncOf?_requestBody (by decide) 2 "", nofun, by decide, isReply_pong 1 2 7⟩)
  have first := second.step (.answer (a := pong 0 1 8) ⟨⟨requests, by decide, ⟨[], rfl⟩, rfl⟩,
    syncOf?_requestBody (by decide) 1 "", by decide, by decide, isReply_pong 0 1 8⟩)
  let replies := stream [(pong 1 2 7).body, (pong 0 1 8).body]
  have piece := first.step (.arrive (replies.take 17) ⟨replies.drop 17, rfl⟩)
  have read := piece.read rfl rfl (isReply_pong 1 2 7).decode
  have offered := read.follow [.inbound .offer, .dispatch .look] nofun rfl
  have rest := offered.step (.arrive (replies.drop 17) ⟨[], rfl⟩)
  have read := rest.read rfl rfl (isReply_pong 0 1 8).decode
  have run := read.follow [.dispatch .takeResponse, .inbound .offer, .dispatch .look,
    .dispatch .takeResponse] nofun rfl
  have codes : ∀ s ∈ [(⟨.ping, 0⟩ : Submission), ⟨.ping, 1⟩], s.query.code < 128 := by
    simp only [List.forall_mem_cons]
    decide
  exact ⟨_, _, run, ⟨rfl, rfl⟩, rfl, rfl, run_multiplexed run codes (by decide)⟩

end Exchange

end Muxwire.Mux
