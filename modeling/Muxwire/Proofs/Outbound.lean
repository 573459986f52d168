import Mathlib.Data.List.Basic
import Muxwire.Mux.Outbound

/-!
# What the outbound stage has written

* `Outbound.Step` lists what a step of the stage can be; `Outbound.step_of_act` is the inversion of
  `Outbound.act`.
* `Outbound.completed` and `Outbound.begun` read the socket's events: the octets between one flush
  and the next, and those since the last one.
* `Outbound.Serves` says how they stand to the frames taken off the queue, phase by phase;
  `Serves.step` carries it, and **`Serves.inFull`** is what it comes to: every completed frame is a
  frame that was taken, in order, and what is begun is the front of the next.
-/

namespace Muxwire.Mux.Outbound

/-! ## 1. Steps -/

/-- What a step of the stage can be. -/
inductive Step (v : View) : Action → View → Prop where
  | take {frame : Octets} {frames : Queue Octets} (hp : v.stage.phase = .idle)
      (hq : v.frames.pop? = some (frame, frames)) :
      Step v .take { v with frames, stage.phase := phaseOf frame }
  | accept {count : Nat} {rest : Octets} (hp : v.stage.phase = .writing rest)
      (pos : 0 < count) (le : count ≤ rest.length) :
      Step v (.accept count) { v with
        stage := ⟨phaseOf (rest.drop count), .wrote (rest.take count) :: v.stage.log⟩ }
  | flush (hp : v.stage.phase = .flushing) :
      Step v .flush { v with stage := ⟨.idle, .flushed :: v.stage.log⟩ }
  /-- Any step may end the stage, but for a take while a frame is queued. -/
  | finish {a : Action} (result : Except Error Unit)
      (ha : a = .take → v.frames.pop? = none) : Step v a (v.finish result)

/-- **The steps that are possible are those listed.** -/
theorem step_of_act {a : Action} {v v' : View} (h : act a v = some v') : Step v a v' := by
  unfold act at h
  split at h
  · rename_i hp
    split at h
    · rename_i hq
      cases h
      exact .take hp hq
    · rename_i hq
      split at h
      · cases h
        exact .finish _ fun _ => hq
      · cases h
  · rename_i count rest hp
    split at h
    · cases h
      exact .finish _ nofun
    · rename_i pos
      split at h
      · rename_i le
        cases h
        exact .accept hp (Nat.pos_of_ne_zero pos) le
      · cases h
  · cases h
    exact .finish _ nofun
  · rename_i hp
    cases h
    exact .flush hp
  · cases h
    exact .finish _ nofun
  · split at h
    · cases h
      exact .finish _ nofun
    · cases h
  · split at h
    · cases h
      exact .finish _ nofun
    · cases h
  · split at h
    · cases h
      exact .finish _ nofun
    · cases h
  · cases h

/-- A stage that has ended does nothing more. -/
theorem act_of_ended {v : View} (h : v.stage.result?.isSome = true) (a : Action) :
    act a v = none := by
  cases hp : v.stage.phase with
  | ended result => cases a <;> simp only [act, hp]
  | _ => simp [result?, hp] at h

/-! ## 2. Events of the socket -/

/-- The octets written since the last flush; the events are held last to first. -/
def begun : List SocketEvent → Octets
  | [] => []
  | .wrote octets :: log => begun log ++ octets
  | .flushed :: _ => []

/-- The octets between each flush and the one before. -/
def completed : List SocketEvent → List Octets
  | [] => []
  | .wrote _ :: log => completed log
  | .flushed :: log => completed log ++ [begun log]

/-- All octets are in one of the two. -/
theorem written_eq (s : Outbound) : s.written = (completed s.log).flatten ++ begun s.log := by
  obtain ⟨phase, log⟩ := s
  simp only [written]
  induction log with
  | nil => rfl
  | cons event log ih =>
    rw [List.reverse_cons, List.flatMap_append, ih]
    cases event <;> simp [completed, begun]

/-! ## 3. The frames that were taken -/

/-- How the events stand to the frames that were taken. -/
def Serves (s : Outbound) (taken : List Octets) : Prop :=
  match s.phase with
  | .idle => completed s.log = taken ∧ begun s.log = []
  | .writing rest => completed s.log ++ [begun s.log ++ rest] = taken
  | .flushing => completed s.log ++ [begun s.log] = taken
  | .ended _ => ∃ rest, completed s.log <+: taken
      ∧ (begun s.log = [] ∨ completed s.log ++ [begun s.log ++ rest] <+: taken)

/-- The completed frames are frames that were taken, in order, and what is begun is the front of
the next one. -/
structure InFull (s : Outbound) (taken : List Octets) : Prop where
  completed : completed s.log <+: taken
  begun : begun s.log = [] ∨ ∃ frame, Outbound.completed s.log ++ [frame] <+: taken
    ∧ Outbound.begun s.log <+: frame

/-- The frame that begins to be written; an empty one is only to be flushed. -/
theorem serves_phaseOf {log : List SocketEvent} {rest : Octets} {taken : List Octets}
    (h : completed log ++ [begun log ++ rest] = taken) : Serves ⟨phaseOf rest, log⟩ taken := by
  cases rest with
  | nil =>
    rw [List.append_nil] at h
    exact h
  | cons b rest => exact h

theorem serves_start : Serves start [] :=
  ⟨rfl, rfl⟩

/-- What is served stays so when the stage ends. -/
theorem Serves.ended {s : Outbound} {taken : List Octets} (h : Serves s taken)
    (result : Except Error Unit) : Serves { s with phase := .ended result } taken := by
  obtain ⟨phase, log⟩ := s
  cases phase with
  | idle =>
    obtain ⟨rfl, hb⟩ := h
    exact ⟨[], List.prefix_refl _, .inl hb⟩
  | writing rest =>
    cases h
    exact ⟨rest, List.prefix_append _ _, .inr (List.prefix_refl _)⟩
  | flushing =>
    cases h
    refine ⟨[], List.prefix_append _ _, .inr ?_⟩
    show completed log ++ [begun log ++ []] <+: completed log ++ [begun log]
    simp only [List.append_nil, List.prefix_refl]
  | ended _ => exact h

/-- The frame that a step takes. -/
def taken? (a : Action) (v : View) : Option Octets :=
  match a with
  | .take => v.frames.pop?.map Prod.fst
  | _ => none

/-- **Every step serves the frames that were taken**, and the one that it takes. -/
theorem Serves.step {v v' : View} {a : Action} {taken : List Octets} (h : Serves v.stage taken)
    (st : Step v a v') : Serves v'.stage (taken ++ (taken? a v).toList) := by
  obtain ⟨⟨phase, log⟩, frames, stop⟩ := v
  cases st with
  | @take frame _ hp hq =>
    cases hp
    obtain ⟨rfl, hb⟩ := h
    have ht : taken? .take ⟨⟨.idle, log⟩, frames, stop⟩ = some frame := by simp [taken?, hq]
    rw [ht]
    exact serves_phaseOf (by simp [hb])
  | @accept count rest hp pos le =>
    cases hp
    cases h
    show Serves _ (_ ++ [])
    rw [List.append_nil]
    refine serves_phaseOf ?_
    simp [completed, begun]
  | flush hp =>
    cases hp
    cases h
    show Serves _ (_ ++ [])
    rw [List.append_nil]
    exact ⟨rfl, rfl⟩
  | finish result ha =>
    have ht : taken? a ⟨⟨phase, log⟩, frames, stop⟩ = none := by
      cases a with
      | take => simp [taken?, ha rfl]
      | _ => rfl
    rw [ht, Option.toList_none, List.append_nil]
    exact h.ended result

/-- **No frame is begun before the one before it is completed**, none is left out and none is
written twice. -/
theorem Serves.inFull {s : Outbound} {taken : List Octets} (h : Serves s taken) :
    InFull s taken := by
  obtain ⟨phase, log⟩ := s
  obtain ⟨rest, hc, hb⟩ := h.ended (.ok ())
  refine ⟨hc, hb.imp_right fun hb => ⟨_, hb, List.prefix_append _ _⟩⟩

theorem InFull.mono {s : Outbound} {taken frames : List Octets} (h : InFull s taken)
    (hf : taken <+: frames) : InFull s frames :=
  ⟨h.completed.trans hf, h.begun.imp_right fun ⟨frame, hb, hp⟩ => ⟨frame, hb.trans hf, hp⟩⟩

/-- What was written is a front part of all frames. -/
theorem InFull.written_front {s : Outbound} {frames : List Octets} (h : InFull s frames) :
    s.written <+: frames.flatten := by
  rw [written_eq]
  rcases h.begun with hb | ⟨frame, hf, hb⟩
  · obtain ⟨more, rfl⟩ := h.completed
    rw [hb, List.flatten_append, List.append_nil]
    exact List.prefix_append _ _
  · obtain ⟨more, rfl⟩ := hf
    obtain ⟨rest, rfl⟩ := hb
    simp only [List.flatten_append, List.flatten_singleton, List.append_assoc]
    exact (List.prefix_append_right_inj _).mpr (List.prefix_append _ _)

end Muxwire.Mux.Outbound
