import Mathlib.Logic.Function.Iterate
import Muxwire.Proofs.FrameLimits
import Muxwire.Proofs.Pack

/-!
# Bodies that are appended whole or not at all

A query puts its body behind a buffer that it does not own. Those of this library find out whether
they have a body before they put down the first octet of it.

* `Pen` -- what writes to a buffer piece by piece and may give up on the way, with the pieces put
  down so far left where they are. `Query.write` writes each body in this manner, and
  **`Query.onto_write`** says that it comes to `Query.appendBody`.
* `Query.Refuses` -- why a query of this library has no body; `Query.exists_outcome` -- such a
  query leaves the buffer as it was, and any other one puts the same body behind every buffer.
* `Query.Fails`, `Rewords` -- why a query has no frame, and what becomes of the reason.
* **`Query.allOrNothing`** -- a body or nothing, and of that a frame or an error of the query.
-/

namespace Muxwire.Request

open Msgpack Wire

/-! ## 1. Writing piece by piece -/

/-- What writes to a buffer and may give up on the way. -/
abbrev Pen := ExceptT Error (StateM Octets)

namespace Pen

/-- Puts octets behind the buffer, which takes whatever is put there. -/
def put (octets : Octets) : Pen Unit :=
  modify (· ++ octets)

/-- Does to the buffer what a query of the caller's own does. -/
def ofAppend (append : Octets → Appended) : Pen Unit := fun buffer =>
  match append buffer with
  | ⟨written, none⟩ => (.ok (), written)
  | ⟨written, some e⟩ => (.error e, written)

/-- What comes of a buffer. -/
def onto (buffer : Octets) (pen : Pen Unit) : Appended :=
  match pen.run buffer with
  | (.ok _, written) => ⟨written, none⟩
  | (.error e, written) => ⟨written, some e⟩

@[simp] theorem onto_pure (buffer : Octets) : onto buffer (pure ()) = ⟨buffer, none⟩ := rfl

@[simp] theorem onto_put (buffer octets : Octets) :
    onto buffer (put octets) = ⟨buffer ++ octets, none⟩ := rfl

@[simp] theorem onto_ofAppend (buffer : Octets) (append : Octets → Appended) :
    onto buffer (ofAppend append) = append buffer := by
  cases h : append buffer with
  | mk written failure => cases failure <;> simp [onto, ofAppend, ExceptT.run, h]

/-- What is put down is there for whatever follows, and stays if that gives up. -/
@[simp] theorem onto_put_bind (buffer octets : Octets) (next : Unit → Pen Unit) :
    onto buffer (put octets >>= next) = onto (buffer ++ octets) (next ()) := rfl

/-- What cannot be had is given up for, with the buffer as it is. -/
@[simp] theorem onto_lift_bind {α : Type} (buffer : Octets) (need : Except Error α)
    (next : α → Pen Unit) :
    onto buffer ((liftM need : Pen α) >>= next) =
      match need with
      | .ok a => onto buffer (next a)
      | .error e => ⟨buffer, some e⟩ := by
  cases need <;> rfl

end Pen

namespace Query

open Pen

/-- Writes the map of a name and an argument list. -/
def writeNamed (key : Key) (name : String) (args : Arguments) : Pen Unit := do
  let list ← args.encodeList
  put (Head.map 2).write
  put [key.octet]
  put (textOctets name)
  put [Key.tuple.octet]
  put list

/-- Writes the map of a user and the pair of mechanism and scramble. -/
def writeAuth (user password : String) (salt : Octets) : Pen Unit := do
  let proof ← scramble password salt
  put (Head.map 2).write
  put [Key.userName.octet]
  put (textOctets user)
  put [Key.tuple.octet]
  put (Head.array 2).write
  put (textOctets authMechanism)
  put (Head.str scrambleSize).write
  put proof

/-- Writes the body of a query. -/
def write (space : String) : Query → Pen Unit
  | .ping => pure ()
  | .call name args => writeNamed .functionName name args
  | .eval expression args => writeNamed .expression expression args
  | .auth user password salt => writeAuth user password salt
  | .custom _ append => ofAppend (append space)
  | .boxed inner => inner.write space

theorem onto_writeNamed (key : Key) (name : String) (args : Arguments) (buffer : Octets) :
    (writeNamed key name args).onto buffer = appendAll buffer (namedBody key name args) := by
  rw [writeNamed, onto_lift_bind, namedBody]
  cases args.encodeList with
  | error e => rfl
  | ok list =>
    simp only [onto_put_bind, onto_put]
    simp [appendAll, bind, Except.bind, pure, Except.pure]

theorem onto_writeAuth (user password : String) (salt buffer : Octets) :
    (writeAuth user password salt).onto buffer
      = appendAll buffer (authBody user password salt) := by
  rw [writeAuth, onto_lift_bind, authBody]
  cases scramble password salt with
  | error e => rfl
  | ok proof =>
    simp only [onto_put_bind, onto_put]
    simp [appendAll, bind, Except.bind, pure, Except.pure]

/-- **A body written piece by piece is the body that is appended**, and what fails, fails alike. -/
theorem onto_write (q : Query) (space : String) (buffer : Octets) :
    (q.write space).onto buffer = q.appendBody space buffer := by
  induction q with
  | ping => simp [write, appendBody, appendAll]
  | call name args => exact onto_writeNamed .functionName name args buffer
  | eval expression args => exact onto_writeNamed .expression expression args buffer
  | auth user password salt => exact onto_writeAuth user password salt buffer
  | custom code append => exact onto_ofAppend buffer (append space)
  | boxed inner ih => exact ih

/-! ## 2. A body or none -/

/-- The query is one of this library, behind any number of owners. -/
def BuiltIn : Query → Prop
  | .custom _ _ => False
  | .boxed inner => inner.BuiltIn
  | _ => True

/-- Why a query of this library has no body. -/
inductive Refuses : Query → Error → Prop where
  /-- The arguments are no argument list. -/
  | call {name : String} {args : Arguments} {e : Error} :
      args.encodeList = .error e → Refuses (.call name args) e
  | eval {expression : String} {args : Arguments} {e : Error} :
      args.encodeList = .error e → Refuses (.eval expression args) e
  /-- The salt is too short. -/
  | auth {user password : String} {salt : Octets} :
      salt.length < 20 → Refuses (.auth user password salt)
        (.auth s!"salt too short: {salt.length} bytes")
  | boxed {inner : Query} {e : Error} : Refuses inner e → Refuses (.boxed inner) e

theorem scramble_eq_error_iff {password : String} {salt : Octets} {e : Error} :
    scramble password salt = .error e
      ↔ salt.length < 20 ∧ e = .auth s!"salt too short: {salt.length} bytes" := by
  unfold scramble
  by_cases short : salt.length < scrambleSize
  · rw [if_pos short, Except.error.injEq]
    exact ⟨fun h => ⟨short, h.symm⟩, fun h => h.2.symm⟩
  · rw [if_neg short]
    exact ⟨nofun, fun h => absurd h.1 short⟩

theorem namedBody_eq_error_iff {key : Key} {name : String} {args : Arguments} {e : Error} :
    namedBody key name args = .error e ↔ args.encodeList = .error e := by
  rw [namedBody]
  cases args.encodeList with
  | error e' => exact Iff.rfl
  | ok list => exact ⟨nofun, nofun⟩

theorem authBody_eq_error_iff {user password : String} {salt : Octets} {e : Error} :
    authBody user password salt = .error e ↔ scramble password salt = .error e := by
  rw [authBody]
  cases scramble password salt with
  | error e' => exact Iff.rfl
  | ok proof => exact ⟨nofun, nofun⟩

/-- **Whether there is a body, and which, does not depend on the buffer or the space**: what is
appended is one outcome, which fails for the reasons above and no other. -/
theorem exists_outcome {q : Query} (h : q.BuiltIn) : ∃ outcome : Except Error Octets,
    (∀ space buffer, q.appendBody space buffer = appendAll buffer outcome)
      ∧ ∀ e, outcome = .error e ↔ q.Refuses e := by
  induction q with
  | ping =>
    refine ⟨.ok [], fun _ _ => rfl, fun e => ⟨nofun, ?_⟩⟩
    intro refused
    cases refused
  | call name args =>
    refine ⟨namedBody .functionName name args, fun _ _ => rfl, fun e => ?_⟩
    rw [namedBody_eq_error_iff]
    refine ⟨.call, fun refused => ?_⟩
    cases refused with
    | call list => exact list
  | eval expression args =>
    refine ⟨namedBody .expression expression args, fun _ _ => rfl, fun e => ?_⟩
    rw [namedBody_eq_error_iff]
    refine ⟨.eval, fun refused => ?_⟩
    cases refused with
    | eval list => exact list
  | auth user password salt =>
    refine ⟨authBody user password salt, fun _ _ => rfl, fun e => ?_⟩
    rw [authBody_eq_error_iff, scramble_eq_error_iff]
    constructor
    · intro h
      obtain ⟨short, rfl⟩ := h
      exact .auth short
    · intro refused
      cases refused with
      | auth short => exact ⟨short, rfl⟩
  | custom code append => exact h.elim
  | boxed inner ih =>
    obtain ⟨outcome, appended, refused⟩ := ih h
    refine ⟨outcome, appended, fun e => (refused e).trans ⟨.boxed, fun outside => ?_⟩⟩
    cases outside with
    | boxed inside => exact inside

/-! ## 3. A frame or an error of the query -/

/-- Why a query has no frame. -/
inductive Fails (q : Query) (space : String) : Error → Prop where
  /-- Its body was given up, whatever of it was put down before. -/
  | body {e : Error} : (q.appendBody space []).failure = some e → Fails q space e
  /-- Its body is too long. -/
  | tooLong {body : Octets} : q.appendBody space [] = ⟨body, none⟩ → 2 ^ 30 < 9 + body.length →
      Fails q space (.protocol s!"request body of {body.length} bytes is too large")

/-- What becomes of a reason: an error of the query stays as it is, and any other one is told by
its wording. -/
inductive Rewords : Error → Error → Prop where
  | kept {text : String} : Rewords (.query text) (.query text)
  | told {cause : Error} : (∀ text, cause ≠ .query text) → Rewords cause (.query cause.message)

theorem rewords_iff {cause e : Error} : Rewords cause e ↔ e = asQueryError cause := by
  constructor
  · intro h
    cases h with
    | kept => rfl
    | told other =>
      cases cause with
      | query text => exact absurd rfl (other text)
      | _ => rfl
  · intro h
    subst h
    cases cause with
    | query text => exact .kept
    | _ => exact .told nofun

/-- **A query has no frame for one of the two reasons**, reworded. -/
theorem pack_eq_error_iff {q : Query} {sync : UInt32} {space : String} {e : Error} :
    q.pack sync space = .error e ↔ ∃ cause, q.Fails space cause ∧ Rewords cause e := by
  rw [pack_eq]
  cases written : q.appendBody space [] with
  | mk body failure =>
    cases failure with
    | some cause =>
      have given : q.Fails space cause := .body (congrArg Appended.failure written)
      constructor
      · intro h
        cases h
        exact ⟨cause, given, rewords_iff.mpr rfl⟩
      · intro h
        obtain ⟨other, fails, hr⟩ := h
        cases fails with
        | body hf =>
          cases (congrArg Appended.failure written).symm.trans hf
          rw [rewords_iff.mp hr]
        | tooLong hf long => cases written.symm.trans hf
    | none =>
      show (build q.code sync body).mapError asQueryError = .error e ↔ _
      constructor
      · intro h
        cases hb : build q.code sync body with
        | ok frame =>
          rw [hb] at h
          cases h
        | error cause =>
          rw [hb] at h
          cases h
          obtain ⟨long, rfl⟩ := build_eq_error_iff.mp hb
          exact ⟨_, .tooLong written long, rewords_iff.mpr rfl⟩
      · intro h
        obtain ⟨cause, fails, hr⟩ := h
        cases fails with
        | body hf => cases (congrArg Appended.failure written).symm.trans hf
        | tooLong hf long =>
          cases written.symm.trans hf
          rw [build_eq_error_iff.mpr ⟨long, rfl⟩, rewords_iff.mp hr]
          rfl

theorem pack_eq_ok_iff_build {q : Query} {sync : UInt32} {space : String} {frame : Octets} :
    q.pack sync space = .ok frame
      ↔ ∃ body, q.appendBody space [] = ⟨body, none⟩ ∧ build q.code sync body = .ok frame := by
  rw [pack_eq]
  cases q.appendBody space [] with
  | mk body failure =>
    cases failure with
    | some cause =>
      refine ⟨nofun, fun h => ?_⟩
      obtain ⟨body', hb, -⟩ := h
      cases hb
    | none =>
      show (build q.code sync body).mapError asQueryError = .ok frame ↔ _
      constructor
      · intro h
        refine ⟨body, rfl, ?_⟩
        cases hb : build q.code sync body with
        | ok frame' =>
          rw [hb] at h
          cases h
          rfl
        | error e =>
          rw [hb] at h
          cases h
      · intro h
        obtain ⟨body', hb, built⟩ := h
        cases hb
        rw [built]
        rfl

/-! ## 4. All or nothing -/

/-- What appending and packing a query comes to. -/
structure AllOrNothing (q : Query) : Prop where
  /-- A query of this library leaves every buffer as it was if it refuses to be written, and if not
  it puts the same body behind each, for whatever space. -/
  appended : q.BuiltIn →
    (∃ e, q.Refuses e ∧ ∀ space buffer, q.appendBody space buffer = ⟨buffer, some e⟩)
    ∨ (∀ e, ¬ q.Refuses e) ∧
      ∃ body, ∀ space buffer, q.appendBody space buffer = ⟨buffer ++ body, none⟩
  /-- That is how it is when the body is put down piece by piece, by any query. -/
  written : ∀ space buffer, (q.write space).onto buffer = q.appendBody space buffer
  /-- A frame is the one of the whole body. -/
  framed : ∀ sync space frame, q.pack sync space = .ok frame
    ↔ ∃ body, q.appendBody space [] = ⟨body, none⟩ ∧ build q.code sync body = .ok frame
  /-- An error is an error of the query, which tells why there is no frame. -/
  failed : ∀ sync space e, q.pack sync space = .error e
    ↔ ∃ cause, q.Fails space cause ∧ Rewords cause e
  /-- One owner more makes no difference to any of it. -/
  boxed : ∀ owners sync space buffer, (Query.boxed^[owners] q).code = q.code
    ∧ (Query.boxed^[owners] q).appendBody space buffer = q.appendBody space buffer
    ∧ (Query.boxed^[owners] q).pack sync space = q.pack sync space

/-- **A query is appended whole or not at all**, and packing gives its frame or an error of it. -/
theorem allOrNothing (q : Query) : AllOrNothing q := by
  refine ⟨?appended, onto_write q, fun _ _ _ => pack_eq_ok_iff_build,
    fun _ _ _ => pack_eq_error_iff, ?boxed⟩
  case appended =>
    intro builtIn
    obtain ⟨outcome, appends, refused⟩ := exists_outcome builtIn
    cases outcome with
    | error e => exact .inl ⟨e, (refused e).mp rfl, appends⟩
    | ok body =>
      refine .inr ⟨fun e refuses => ?_, body, appends⟩
      cases (refused e).mpr refuses
  case boxed =>
    intro owners sync space buffer
    induction owners with
    | zero => exact ⟨rfl, rfl, rfl⟩
    | succ owners ih =>
      rw [Function.iterate_succ_apply']
      exact ih

/-- The same for a query that fails with half of its body put down, and for one that has a body,
both with several owners. -/
theorem allOrNothing_boxed :
    (boxed (boxed (custom 10 fun _ buffer =>
        ⟨buffer ++ [0x80], some (.io ⟨.brokenPipe, "gone"⟩)⟩))).pack 7 ""
      = .error (.query "I/O error: gone")
    ∧ ∃ body, ∀ space buffer, (boxed (call "f" (.ofValue (.array [.nil])))).appendBody space buffer
        = ⟨buffer ++ body, none⟩ := by
  refine ⟨((allOrNothing _).failed 7 "" _).mpr
    ⟨.io ⟨.brokenPipe, "gone"⟩, .body rfl, .told nofun⟩, ?_⟩
  rcases (allOrNothing (boxed (call "f" (.ofValue (.array [.nil]))))).appended trivial with
    ⟨e, refused, -⟩ | ⟨-, body⟩
  · cases refused with
    | boxed inside =>
      cases inside with
      | call list => cases list
  · exact body

end Query

end Muxwire.Request
