import Muxwire.Mux.Inbound
import Muxwire.Proofs.FrameStream

/-!
# What the inbound stage has read

* `Inbound.Step` lists what a step of the stage can be; `Inbound.step_of_act` is the inversion of
  `Inbound.act`.
* `Inbound.Reads` says how the octets that arrived so far stand to the responses that were queued,
  phase by phase; `Reads.step` and `Reads.arrive` carry it, whatever the pieces in which the octets
  come. **`Reads.decoded`** is what it comes to: the stream begins with frames whose bodies decode
  to the responses, in order.
-/

namespace Muxwire.Mux.Inbound

open Wire

/-! ## 1. Steps -/

/-- What a step of the stage can be. -/
inductive Step (v : View) : Action → View → Prop where
  | read {body rest : Octets} {r : Response} (hp : v.stage.phase = .reading)
      (hs : split v.stage.arrived = .frame body rest) (hr : Response.decode body = .ok r) :
      Step v .read { v with stage := { v.stage with arrived := rest, phase := .offering r } }
  | offer {r : Response} (hp : v.stage.phase = .offering r)
      (hq : (v.responses.push r).1 = .queued) :
      Step v .offer { v with responses := (v.responses.push r).2, stage.phase := .reading }
  /-- Any step may end the stage, but for an offer that finds room. -/
  | finish {a : Action} (arrived : Octets) (result : Except Error Unit)
      (ha : ∀ r, a = .offer → v.stage.phase = .offering r → (v.responses.push r).1 ≠ .queued) :
      Step v a (View.finish { v with stage.arrived := arrived } result)

/-- **The steps that are possible are those listed.** -/
theorem step_of_act {a : Action} {v v' : View} (h : act a v = some v') : Step v a v' := by
  unfold act at h
  split at h
  · rename_i hp
    split at h
    · cases h
    · cases h
      exact .finish _ _ nofun
    · rename_i hs
      dsimp only at h
      split at h
      · cases h
        exact .finish _ _ nofun
      · rename_i hr
        cases h
        exact .read hp hs hr
  · split at h
    · cases h
      exact .finish _ _ nofun
    · cases h
  · rename_i r hp
    cases hq : v.responses.push r with
    | mk admission responses =>
      have hm : (v.responses.push r).1 = admission := by rw [hq]
      rw [hq] at h
      cases admission with
      | queued =>
        cases h
        have hr : (v.responses.push r).2 = responses := by rw [hq]
        subst hr
        exact .offer hp hm
      | full => cases h
      | closed =>
        cases h
        refine .finish v.stage.arrived _ ?_
        intro r' _ hp'
        rw [hp] at hp'
        cases hp'
        rw [hm]
        nofun
  · split at h
    · cases h
      exact .finish v.stage.arrived _ nofun
    · cases h
  · split at h
    · cases h
      exact .finish v.stage.arrived _ nofun
    · cases h
  · cases h

/-- A frame that has arrived is read, if its body is a response. -/
theorem act_read {v : View} {body rest : Octets} {r : Response} (hp : v.stage.phase = .reading)
    (hs : split v.stage.arrived = .frame body rest) (hr : Response.decode body = .ok r) :
    act .read v
      = some { v with stage := { v.stage with arrived := rest, phase := .offering r } } := by
  simp [act, hp, hs, hr]

/-- A stage that has ended does nothing more. -/
theorem act_of_ended {v : View} (h : v.stage.result?.isSome = true) (a : Action) :
    act a v = none := by
  cases hp : v.stage.phase with
  | ended result => cases a <;> simp only [act, hp]
  | _ => simp [result?, hp] at h

/-! ## 2. What was read -/

/-- The bodies are admissible, and decode to the responses. -/
structure Decoded (bodies : List Octets) (responses : List Response) : Prop where
  fits : ∀ body ∈ bodies, Fits body
  decode : bodies.map Response.decode = responses.map .ok

namespace Decoded

variable {bodies : List Octets} {responses : List Response}

theorem nil : Decoded [] [] :=
  ⟨nofun, rfl⟩

theorem concat {body : Octets} {r : Response} (h : Decoded bodies responses) (hf : Fits body)
    (hr : Response.decode body = .ok r) : Decoded (bodies ++ [body]) (responses ++ [r]) where
  fits b hb := by
    rcases List.mem_append.mp hb with hb | hb
    · exact h.fits b hb
    · exact List.mem_singleton.mp hb ▸ hf
  decode := by simp [h.decode, hr]

/-- All but the last. -/
theorem front {r : Response} (h : Decoded bodies (responses ++ [r])) :
    ∃ front body, bodies = front ++ [body] ∧ Decoded front responses := by
  have decode := h.decode
  rw [List.map_append, List.map_singleton, List.map_eq_append_iff] at decode
  obtain ⟨front, back, rfl, hfront, hback⟩ := decode
  obtain ⟨body, rest, rfl, -, hrest⟩ := List.map_eq_cons_iff.mp hback
  cases List.map_eq_nil_iff.mp hrest
  exact ⟨front, body, rfl, fun b hb => h.fits b (List.mem_append_left _ hb), hfront⟩

end Decoded

/-- How the octets that arrived so far stand to the stage and to the responses that it queued. -/
def Reads (s : Inbound) (octets : Octets) (queued : List Response) : Prop :=
  match s.phase with
  | .reading => ∃ bodies, Decoded bodies queued ∧ octets = stream bodies ++ s.arrived
  | .offering r => ∃ bodies, Decoded bodies (queued ++ [r]) ∧ octets = stream bodies ++ s.arrived
  | .ended _ => ∃ bodies, Decoded bodies queued ∧ stream bodies <+: octets

theorem reads_start : Reads start [] [] :=
  ⟨[], .nil, rfl⟩

/-- The response that a step queues. -/
def queued? (a : Action) (v : View) : Option Response :=
  match a, v.stage.phase with
  | .offer, .offering r => if (v.responses.push r).1 = .queued then some r else none
  | _, _ => none

/-- Only an offer that finds room queues a response. -/
theorem queued?_eq_none {a : Action} {v : View}
    (ha : ∀ r, a = .offer → v.stage.phase = .offering r → (v.responses.push r).1 ≠ .queued) :
    queued? a v = none := by
  unfold queued?
  split
  · rename_i r hp
    exact if_neg (ha r rfl hp)
  · rfl

namespace Reads

variable {octets : Octets} {queued : List Response}

/-- The stream begins with the frames of what was queued. -/
theorem decoded {s : Inbound} (h : Reads s octets queued) :
    ∃ bodies, Decoded bodies queued ∧ stream bodies <+: octets := by
  obtain ⟨phase, arrived, fault, closing⟩ := s
  cases phase with
  | reading =>
    obtain ⟨bodies, hd, rfl⟩ := h
    exact ⟨bodies, hd, List.prefix_append _ _⟩
  | offering r =>
    obtain ⟨bodies, hd, rfl⟩ := h
    obtain ⟨front, body, rfl, hfront⟩ := hd.front
    refine ⟨front, hfront, ?_⟩
    rw [stream_append, List.append_assoc]
    exact List.prefix_append _ _
  | ended result => exact h

/-- More octets may arrive at any time. -/
theorem arrive {s : Inbound} (h : Reads s octets queued) (more : Octets) :
    Reads { s with arrived := s.arrived ++ more } (octets ++ more) queued := by
  obtain ⟨phase, arrived, fault, closing⟩ := s
  cases phase with
  | reading =>
    obtain ⟨bodies, hd, rfl⟩ := h
    exact ⟨bodies, hd, List.append_assoc ..⟩
  | offering r =>
    obtain ⟨bodies, hd, rfl⟩ := h
    exact ⟨bodies, hd, List.append_assoc ..⟩
  | ended result =>
    obtain ⟨bodies, hd, hp⟩ := h
    exact ⟨bodies, hd, hp.trans (List.prefix_append _ _)⟩

/-- The end of the stream takes back nothing. -/
theorem serverEnds {v : View} (h : Reads v.stage octets queued) (ending : Ending) :
    Reads (v.serverEnds ending).stage octets queued := by
  cases ending <;> exact h

/-- **Every step reads the stream in order**, and queues what was read. -/
theorem step {v v' : View} {a : Action} (h : Reads v.stage octets queued) (st : Step v a v') :
    Reads v'.stage octets (queued ++ (queued? a v).toList) := by
  obtain ⟨⟨phase, arrived, fault, closing⟩, responses, stop⟩ := v
  cases st with
  | @read body rest r hp hs hr =>
    cases hp
    obtain ⟨bodies, hd, rfl⟩ := h
    obtain ⟨hf, he⟩ := split_eq_frame_iff.mp hs
    have he : arrived = frameOf body ++ rest := he
    subst he
    show Reads _ _ (queued ++ [])
    rw [List.append_nil]
    exact ⟨bodies ++ [body], hd.concat hf hr, by simp⟩
  | @offer r hp hq =>
    cases hp
    obtain ⟨bodies, hd, rfl⟩ := h
    have hn : queued? .offer ⟨⟨.offering r, arrived, fault, closing⟩, responses, stop⟩ = some r :=
      if_pos hq
    rw [hn]
    exact ⟨bodies, hd, rfl⟩
  | finish _ result ha =>
    rw [queued?_eq_none ha, Option.toList_none, List.append_nil]
    exact h.decoded

end Reads

end Muxwire.Mux.Inbound
