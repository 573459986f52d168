import Muxwire.Proofs.Dispatch.Table
import Muxwire.Proofs.Headers
import Muxwire.Proofs.Pipeline.WireOrder

/-!
# A server at the other end

The pipeline and a server that answers its requests, joined by the two streams of octets.

* `Exchange.Step` -- the pipeline takes a step, the server answers a request that it has read to its
  end (`Admissible`), or octets of its answers arrive, in pieces of any length.
* **`Exchange.Served`** -- what holds in every run (`served_of_run`): each answer is to one packed
  submission, under the sync in its frame, and the responses that were read are the answers in the
  order in which the server sent them.
* `Exchange.preceded_of_run` -- a response is routed only after its sync was issued.
-/

namespace Muxwire.Mux

open Request Wire Msgpack Dispatch

/-! ## 1. The frames of a log as bodies -/

/-- Whoever has a place in the front part has it in the whole. -/
theorem place_of_front {α : Type} {front whole : List α} (h : front <+: whole) {i : Nat} {a : α}
    (ha : front[i]? = some a) : whole[i]? = some a := by
  obtain ⟨hi, rfl⟩ := List.getElem?_eq_some_iff.mp ha
  exact List.prefix_iff_getElem?.mp h i hi

namespace Log

variable {space : String} {log : Log}

/-- The bodies of the accepted submissions' frames, in the order of acceptance. -/
def bodies (space : String) (log : Log) : List Octets :=
  (log.packed space).map fun p => requestBody p.submission.query p.sync space

theorem frame_of_mem_packed {p : Packed} (h : p ∈ log.packed space) :
    Fits (requestBody p.submission.query p.sync space)
      ∧ p.frame = frameOf (requestBody p.submission.query p.sync space) := by
  obtain ⟨-, le, he⟩ := Query.pack_eq_ok_iff.mp (mem_packed_iff.mp h).2
  refine ⟨⟨?_, le⟩, he⟩
  rw [length_requestBody]
  exact Nat.lt_of_lt_of_le (by decide) (Nat.le_add_right _ _)

theorem fits_bodies : ∀ body ∈ log.bodies space, Fits body := by
  intro body h
  obtain ⟨p, hp, rfl⟩ := List.mem_map.mp h
  exact (frame_of_mem_packed hp).1

/-- All frames together are the stream of the bodies. -/
theorem flatten_frames : (log.frames space).flatten = stream (log.bodies space) := by
  rw [stream_eq_flatten, bodies, List.map_map, frames]
  congr 1
  exact List.map_congr_left fun p hp => (frame_of_mem_packed hp).2

end Log

/-! ## 2. The exchange -/

/-- An answer of the server. -/
structure Answer where
  /-- The place of its request among the requests on the wire. -/
  place : Nat
  request : Octets
  sync : UInt32
  /-- The value that the server chose. -/
  value : Value
  /-- What the server sends, as the body of a frame. -/
  body : Octets

/-- What the answer is to the caller. -/
def Answer.response (a : Answer) : Response :=
  dataResponse a.sync a.value

/-- The answer is to the frame of the submission. -/
def Answer.IsTo (a : Answer) (space : String) (log : Log) (s : Submission) : Prop :=
  (log.packed space)[a.place]? = some ⟨a.sync, s, frameOf a.request⟩

namespace Answer.IsTo

variable {a : Answer} {space : String} {log log' : Log} {s : Submission}

/-- An answer stays one to its submission. -/
theorem mono (h : a.IsTo space log s) (hl : log <+: log') : a.IsTo space log' s :=
  place_of_front (Log.packed_mono hl) h

theorem mem_packed (h : a.IsTo space log s) :
    ⟨a.sync, s, frameOf a.request⟩ ∈ log.packed space :=
  List.mem_of_getElem? h

theorem mem_accepted (h : a.IsTo space log s) : (a.sync, s) ∈ log.accepted :=
  (Log.mem_packed_iff.mp h.mem_packed).1

end Answer.IsTo

/-- A pipeline and its server. -/
structure Exchange where
  pipeline : Pipeline
  /-- The answers of the server, first to last. -/
  answers : List Answer
  /-- The octets of the answers that have arrived. -/
  arrived : Octets

namespace Exchange

/-- An exchange before anything was sent. -/
def start (d₀ : Dispatch) : Exchange :=
  ⟨.start d₀, [], []⟩

/-- The octets that the server sent. -/
def sent (x : Exchange) : Octets :=
  stream (x.answers.map (·.body))

/-- What the server keeps to. -/
structure Admissible (x : Exchange) (a : Answer) : Prop where
  /-- It answers a request that is written to its end. -/
  read : ∃ bodies, (∀ body ∈ bodies, Fits body) ∧ stream bodies <+: x.pipeline.outbound.written
    ∧ bodies[a.place]? = some a.request
  /-- It answers under the sync that it finds in there. -/
  sync : syncOf? a.request = some a.sync.toNat
  /-- It answers a request once. -/
  once : ∀ b ∈ x.answers, b.place ≠ a.place
  /-- It answers with a reply that brings the value. -/
  fits : Fits a.body
  reply : IsReply a.sync a.value a.body

/-- One step, and what it adds to the log of the pipeline. -/
inductive Step : Exchange → Log → Exchange → Prop where
  | pipeline {x : Exchange} {p : Pipeline} (a : Pipeline.Action)
      (ha : Pipeline.act a x.pipeline = some p) (hn : ∀ octets, a ≠ .arrive octets) :
      Step x (Pipeline.observe a x.pipeline) { x with pipeline := p }
  | answer {x : Exchange} {a : Answer} (ha : x.Admissible a) :
      Step x [] { x with answers := x.answers ++ [a] }
  | arrive {x : Exchange} (octets : Octets) (hp : x.arrived ++ octets <+: x.sent) :
      Step x [] { x with
        pipeline := x.pipeline.putInbound (x.pipeline.inboundView.arrive octets)
        arrived := x.arrived ++ octets }

/-- The runs of an exchange: the log of the pipeline, and the state that the run comes to. -/
inductive Run (d₀ : Dispatch) : Log → Exchange → Prop where
  | start : Run d₀ [] (start d₀)
  | step {log new : Log} {x x' : Exchange} :
      Run d₀ log x → Step x new x' → Run d₀ (log ++ new) x'

variable {d₀ : Dispatch} {log new : Log} {x x' : Exchange}

/-- To the pipeline the server is no more than octets that arrive. -/
theorem Run.ofPipeline (run : Run d₀ log x) : Pipeline.Run (.start d₀) log x.pipeline := by
  induction run with
  | start => exact .start
  | step _ st ih =>
    cases st with
    | pipeline a ha _ => exact .step a ih ha
    | answer => simpa using ih
    | arrive octets => exact .step (.arrive octets) ih rfl

/-- The pipeline takes the given actions, if they are possible one after the other, while the
server does nothing. -/
theorem Run.follow : ∀ (as : List Pipeline.Action) {log more : Log} {x : Exchange} {p : Pipeline},
    Run d₀ log x → (∀ octets, .arrive octets ∉ as) →
    Logged.follow Pipeline.act Pipeline.observe as x.pipeline = some (more, p) →
    Run d₀ (log ++ more) { x with pipeline := p }
  | [], log, more, x, p, run, _, h => by
    simp only [Logged.follow, Option.some.injEq, Prod.mk.injEq] at h
    obtain ⟨rfl, rfl⟩ := h
    rw [List.append_nil]
    exact run
  | a :: as, log, more, x, p, run, hn, h => by
    simp only [Logged.follow, Option.bind_eq_bind, Option.bind_eq_some_iff] at h
    obtain ⟨p₁, h₁, ⟨rest, last⟩, h₂, h⟩ := h
    cases h
    rw [← List.append_assoc]
    have first := run.step (.pipeline a h₁ fun octets he => hn octets (he ▸ List.mem_cons_self))
    exact first.follow as (fun octets h => hn octets (List.mem_cons_of_mem _ h)) h₂

/-- The inbound stage reads a frame that has arrived. -/
theorem Run.read {body rest : Octets} {r : Response} (run : Run d₀ log x)
    (hp : x.pipeline.inbound.phase = .reading)
    (hs : split x.pipeline.inbound.arrived = .frame body rest)
    (hr : Response.decode body = .ok r) :
    Run d₀ log { x with pipeline.inbound :=
      { x.pipeline.inbound with arrived := rest, phase := .offering r } } := by
  have st : Step x [] _ := .pipeline (.inbound .read) (Pipeline.act_read hp hs hr) nofun
  exact List.append_nil log ▸ run.step st

/-! ## 3. What the server has answered -/

/-- Only the inbound stage queues responses. -/
theorem arrived_observe (a : Pipeline.Action) (p : Pipeline) :
    (Pipeline.observe a p).arrived =
      match a with
      | .inbound a => (Inbound.queued? a p.inboundView).toList
      | _ => [] := by
  cases a with
  | inbound a =>
    cases a with
    | offer =>
      cases hp : p.inbound.phase with
      | offering r =>
        by_cases hq : (p.dispatch.responses.push r).1 = .queued <;>
          simp [Pipeline.observe, hp, hq, Inbound.queued?, Pipeline.inboundView, Log.arrived]
      | _ => simp [Pipeline.observe, hp, Inbound.queued?, Pipeline.inboundView, Log.arrived]
    | _ => rfl
  | _ =>
    refine List.filterMap_eq_nil_iff.mpr ?_
    intro y hy
    cases Pipeline.adds_of_mem_observe hy <;> rfl

/-- How the answers stand to the log of a run. -/
structure Served (space : String) (log : Log) (x : Exchange) : Prop where
  /-- Each answer is to one packed submission, as long as codes are below 128. -/
  addressed : (∀ s ∈ log.entered, s.query.code < 128) →
    ∀ a ∈ x.answers, ∃ s, a.IsTo space log s
  /-- No two answers are to the same submission. -/
  once : (x.answers.map (·.place)).Nodup
  replies : ∀ a ∈ x.answers, Fits a.body ∧ IsReply a.sync a.value a.body
  /-- The octets of the answers arrive in order, and are read in order. -/
  arrived : x.arrived <+: x.sent
  reads : Inbound.Reads x.pipeline.inbound x.arrived log.arrived

/-- **A request that is on the wire belongs to an accepted submission**, and a server reads the
sync of that one in it. -/
theorem Admissible.isTo {a : Answer} (h : x.Admissible a) (blank : Blank d₀) (run : Run d₀ log x)
    (codes : ∀ s ∈ log.entered, s.query.code < 128) : ∃ s, a.IsTo d₀.space log s := by
  obtain ⟨bodies, fits, written, place⟩ := h.read
  have front : stream bodies <+: stream (log.bodies d₀.space) := by
    rw [← Log.flatten_frames]
    exact written.trans (Pipeline.inFull_of_run blank run.ofPipeline).written_front
  have place := place_of_front (front_of_stream fits Log.fits_bodies front) place
  rw [Log.bodies, List.getElem?_map, Option.map_eq_some_iff] at place
  obtain ⟨p, hp, hr⟩ := place
  have mem := List.mem_of_getElem? hp
  have code : p.submission.query.code < 128 := by
    have left := Log.mem_left_of_accepted (Log.mem_packed_iff.mp mem).1
    have course := (Pipeline.sound_of_run blank run.ofPipeline).course
    exact codes _ (course.entered_of_left blank left)
  have sync : a.sync = p.sync := by
    have hs := h.sync
    rw [← hr, syncOf?_requestBody code] at hs
    exact UInt32.toNat_inj.mp (Option.some.inj hs).symm
  refine ⟨p.submission, ?_⟩
  rw [Answer.IsTo, hp, sync, ← hr, ← (Log.frame_of_mem_packed mem).2]

namespace Served

variable {space : String}

theorem start : Served space [] (start d₀) where
  addressed _ := nofun
  once := List.nodup_nil
  replies := nofun
  arrived := List.nil_prefix
  reads := Inbound.reads_start

/-- **Every step keeps to what was answered and what was read.** -/
theorem step (h : Served d₀.space log x) (blank : Blank d₀) (run : Run d₀ log x)
    (st : Step x new x') : Served d₀.space (log ++ new) x' := by
  cases st with
  | @pipeline p a ha hn =>
    refine {
      addressed := ?_
      once := h.once
      replies := h.replies
      arrived := h.arrived
      reads := ?_ }
    · intro codes b hb
      have before : ∀ s ∈ log.entered, s.query.code < 128 := fun s hs =>
        codes s ((Log.entered_mono (List.prefix_append _ _)).subset hs)
      obtain ⟨s, hs⟩ := h.addressed before b hb
      exact ⟨s, hs.mono (List.prefix_append _ _)⟩
    · rw [Log.arrived, List.filterMap_append]
      show Inbound.Reads p.inbound x.arrived
        (log.arrived ++ (Pipeline.observe a x.pipeline).arrived)
      rw [arrived_observe]
      cases a with
      | inbound a =>
        obtain ⟨v, hv, rfl⟩ := Option.map_eq_some_iff.mp ha
        exact h.reads.step (Inbound.step_of_act hv)
      | serverEnds ending =>
        cases ha
        rw [List.append_nil]
        exact h.reads.serverEnds ending
      | _ =>
        rw [List.append_nil, (Pipeline.untouched_of_act ha).inbound (by simp) hn (by simp)]
        exact h.reads
  | @answer a ha =>
    rw [List.append_nil]
    refine {
      addressed := ?_
      once := ?_
      replies := ?_
      arrived := ?_
      reads := h.reads }
    · intro codes b hb
      rcases List.mem_append.mp hb with hb | hb
      · exact h.addressed codes b hb
      · cases List.mem_singleton.mp hb
        exact ha.isTo blank run codes
    · rw [List.map_append, List.map_singleton, ← List.concat_eq_append]
      refine h.once.concat ?_
      intro hp
      obtain ⟨b, hb, he⟩ := List.mem_map.mp hp
      exact ha.once b hb he
    · intro b hb
      rcases List.mem_append.mp hb with hb | hb
      · exact h.replies b hb
      · cases List.mem_singleton.mp hb
        exact ⟨ha.fits, ha.reply⟩
    · refine h.arrived.trans ?_
      rw [sent, sent, List.map_append, stream_append]
      exact List.prefix_append _ _
  | arrive octets hp =>
    rw [List.append_nil]
    exact { h with
      arrived := hp
      reads := h.reads.arrive octets }

end Served

/-- **What was answered and what was read**, in every run. -/
theorem served_of_run (blank : Blank d₀) (run : Run d₀ log x) : Served d₀.space log x := by
  induction run with
  | start => exact .start
  | step run st ih => exact ih.step blank run st

/-! ## 4. What was routed -/

/-- **The responses that were read are the first answers.** -/
theorem Served.arrived_answers {space : String} (h : Served space log x) :
    log.arrived <+: x.answers.map Answer.response := by
  obtain ⟨bodies, hd, hp⟩ := h.reads.decoded
  have fits : ∀ body ∈ x.answers.map (·.body), Fits body := by
    intro body hb
    obtain ⟨a, ha, rfl⟩ := List.mem_map.mp hb
    exact (h.replies a ha).1
  have decode : (x.answers.map (·.body)).map Response.decode
      = (x.answers.map Answer.response).map .ok := by
    rw [List.map_map, List.map_map]
    exact List.map_congr_left fun a ha => (h.replies a ha).2.decode
  have front := (front_of_stream hd.fits fits (hp.trans h.arrived)).map Response.decode
  rw [hd.decode, decode] at front
  exact (List.prefix_map_iff_of_injective fun _ _ => Except.ok.inj).mp front

/-- Responses are routed in the order of the answers. -/
theorem routed_answers (blank : Blank d₀) (run : Run d₀ log x) :
    log.routed <+: x.answers.map Answer.response := by
  have order := (Pipeline.sound_of_run blank run.ofPipeline).course.inOrder blank
  exact ((List.prefix_append _ _).trans order.routed.cut).trans
    (served_of_run blank run).arrived_answers

/-- **A response is routed only after its sync was issued**, as long as codes are below 128: the
server has read the frame. -/
theorem preceded_of_run (blank : Blank d₀) (run : Run d₀ log x)
    (codes : ∀ s ∈ log.entered, s.query.code < 128) {front : Log} (hf : front <+: log)
    {r : Response} (hr : r ∈ front.routed) : ∃ s, (r.sync, s) ∈ front.accepted := by
  induction run with
  | start =>
    cases List.prefix_nil.mp hf
    cases hr
  | @step log new x x' run st ih =>
    have before : ∀ s ∈ log.entered, s.query.code < 128 := fun s hs =>
      codes s ((Log.entered_mono (List.prefix_append _ _)).subset hs)
    have routed := (hf.filterMap Record.routed?).subset hr
    have answers := (routed_answers blank (.step run st)).subset routed
    cases st with
    | pipeline a ha hn =>
      rcases List.prefix_or_prefix_of_prefix hf (List.prefix_append log _) with h | h
      · exact ih before h
      · -- the answer was there before this step, and so was its frame
        obtain ⟨b, hb, rfl⟩ := List.mem_map.mp answers
        obtain ⟨s, hs⟩ := (served_of_run blank run).addressed before b hb
        exact ⟨s, (Log.accepted_mono h).subset hs.mem_accepted⟩
    | answer | arrive =>
      rw [List.append_nil] at hf
      exact ih before hf

end Exchange

end Muxwire.Mux
