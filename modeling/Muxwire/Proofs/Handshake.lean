import Muxwire.Client.Connection
import Muxwire.Proofs.Authentication
import Muxwire.Text.Base64.RoundTrip

/-!
# The handshake on a stream

How the opening of a connection ends is told by the octets of the server and the end of its stream,
whatever the pieces in which they come.

* `Answers` -- what stands behind the greeting as the answer to the authentication.
* `Opens` -- the steps of the opening in their order, each with the error for its failure, or with
  what is handed over to the pipeline: the inbound stage in front of the first octet that was not
  read, and the next sync.
* **`establish_opens`** -- opening a connection comes to this, and to nothing else.
-/

namespace Muxwire.Client

open Msgpack Wire Request Mux Text

/-! ## 1. The steps of the opening -/

/-- The salt of a greeting without NUL and ASCII whitespace. -/
def saltText (octets : Octets) : Octets :=
  ((octets.drop 64).take 44).filter fun b => b ∉ ([0, 9, 10, 12, 13, 32] : Octets)

/-- What is handed over to the pipeline. -/
structure Handed where
  inbound : Inbound
  /-- The sync of the first query. -/
  sync : UInt32

/-- What a connection was handed. -/
def handed (c : Connection) : Handed :=
  ⟨c.pipeline.inbound, c.pipeline.dispatch.counter.following⟩

/-- The inbound stage in front of some octets, with nothing read yet. -/
def readerAt (octets : Octets) : Ending → Inbound
  | .eof => ⟨.reading, octets, none, true⟩
  | .fault fault => ⟨.reading, octets, some fault, false⟩

/-- What the octets behind the greeting come to as the answer to the authentication: an error, or
what is left of them. -/
inductive Answers (octets : Octets) (ending : Ending) : Except Error Octets → Prop where
  /-- No frame stands in front. -/
  | missing {e : Error} {unread : Octets} (stops : Stops ending octets e unread) :
      Answers octets ending (.error e)
  /-- Its body is no response. -/
  | undecodable {body rest : Octets} {e : Error} (he : octets = frameOf body ++ rest)
      (hf : Fits body) (hd : Response.decode body = .error e) : Answers octets ending (.error e)
  /-- Its body is a response to another request. -/
  | otherSync {body rest : Octets} {r : Response} (he : octets = frameOf body ++ rest)
      (hf : Fits body) (hd : Response.decode body = .ok r) (hs : r.sync ≠ 1) :
      Answers octets ending
        (.error (.auth s!"reply for request {r.sync.toNat} while waiting for 1"))
  /-- Its body is an error of the server. -/
  | refused {body rest : Octets} {r : Response} {e : ServerError}
      (he : octets = frameOf body ++ rest) (hf : Fits body) (hd : Response.decode body = .ok r)
      (hs : r.sync = 1) (hr : r.error = some e) : Answers octets ending (.error (.auth e.text))
  /-- It is the answer, and brings no error. -/
  | accepted {body rest : Octets} {r : Response} (he : octets = frameOf body ++ rest)
      (hf : Fits body) (hd : Response.decode body = .ok r) (hs : r.sync = 1)
      (hr : r.error = none) : Answers octets ending (.ok rest)

/-- The error of an authentication whose request cannot be packed. -/
def unpacked (e : Error) : Error :=
  .auth (Error.query e.message).message

/-- How the opening ends for the octets of the server and the end of its stream: what is written,
and the error of the first step that fails, or what is handed over. -/
inductive Opens (o : Options) (octets : Octets) (ending : Ending) :
    Octets → Except Error Handed → Prop where
  /-- The stream ends in the greeting. -/
  | greetingCut (short : octets.length < 128) (closed : Closes ending .connectionClosed) :
      Opens o octets ending [] (.error (.protocol "Connection closed before greeting"))
  /-- The stream fails in the greeting. -/
  | greetingFault {fault : IoFault} (short : octets.length < 128)
      (closed : Closes ending (.io fault)) : Opens o octets ending [] (.error (.io fault))
  /-- Without a user nothing else is done. -/
  | plain (long : 128 ≤ octets.length) (nobody : o.user = none ∨ o.user = some "") :
      Opens o octets ending [] (.ok ⟨readerAt (octets.drop 128) ending, 1⟩)
  /-- The salt is not base 64. -/
  | saltFault {user : String} {fault : Base64.Fault} (long : 128 ≤ octets.length)
      (hu : o.user = some user) (named : user ≠ "")
      (hs : Base64.decode (saltText octets) = .error fault) :
      Opens o octets ending [] (.error (.salt fault))
  /-- The salt is too short. -/
  | saltShort {user : String} {salt : Octets} (long : 128 ≤ octets.length)
      (hu : o.user = some user) (named : user ≠ "") (hs : saltText octets = Base64.encode salt)
      (hl : salt.length < 20) :
      Opens o octets ending []
        (.error (unpacked (.auth s!"salt too short: {salt.length} bytes")))
  /-- The request is too long. -/
  | unfit {user : String} {salt body : Octets} (long : 128 ≤ octets.length)
      (hu : o.user = some user) (named : user ≠ "") (hs : saltText octets = Base64.encode salt)
      (hl : 20 ≤ salt.length)
      (hb : Query.authBody user (o.password.getD "") salt = .ok body)
      (big : 2 ^ 30 < 9 + body.length) :
      Opens o octets ending []
        (.error (unpacked (.protocol s!"request body of {body.length} bytes is too large")))
  /-- The request, under sync 1, is written, and its answer tells. -/
  | asked {user : String} {salt body : Octets} {answer : Except Error Octets}
      (long : 128 ≤ octets.length) (hu : o.user = some user) (named : user ≠ "")
      (hs : saltText octets = Base64.encode salt) (hl : 20 ≤ salt.length)
      (hb : Query.authBody user (o.password.getD "") salt = .ok body)
      (fits : 9 + body.length ≤ 2 ^ 30) (ha : Answers (octets.drop 128) ending answer) :
      Opens o octets ending (frameOf (requestHeader 7 1 ++ body))
        (answer.map fun rest => ⟨readerAt rest ending, 2⟩)

/-! ## 2. The greeting -/

/-- A stream that is long enough has a greeting. -/
theorem read_of_le {s : Source} (h : 128 ≤ s.octets.length) :
    ∃ s', Greeting.read s = (.ok (Greeting.ofOctets (s.octets.take 128)), s')
      ∧ s'.octets = s.octets.drop 128 ∧ s'.ending = s.ending := by
  have h : Greeting.size ≤ s.octets.length := h
  obtain ⟨hfront, hrest, hend⟩ := s.readExact_eq Greeting.size
  rw [if_pos h] at hfront
  cases hr : s.readExact Greeting.size with
  | mk result s' =>
    rw [hr] at hfront hrest hend
    cases hfront
    exact ⟨s', by rw [Greeting.read, hr]; rfl, hrest, hend⟩

/-- A stream that is too short has no greeting. -/
theorem read_of_lt {s : Source} (h : s.octets.length < 128) :
    ∃ s', Greeting.read s = (.error s.ending, s') := by
  have h : s.octets.length < Greeting.size := h
  obtain ⟨hfront, -, -⟩ := s.readExact_eq Greeting.size
  rw [if_neg (Nat.not_le.mpr h)] at hfront
  cases hr : s.readExact Greeting.size with
  | mk result s' =>
    rw [hr] at hfront
    cases hfront
    exact ⟨s', by rw [Greeting.read, hr]⟩

theorem decodedSalt_ofOctets (octets : Octets) :
    (Greeting.ofOctets (octets.take 128)).decodedSalt
      = (Base64.decode (saltText octets)).mapError .salt := by
  have field : (Greeting.ofOctets (octets.take 128)).salt = (octets.drop 64).take 44 := by
    show ((octets.take 128).drop 64).take 44 = _
    rw [List.drop_take, List.take_take]
    rfl
  have filler : ∀ b : UInt8,
      (!Greeting.isFiller b) = decide (b ∉ ([0, 9, 10, 12, 13, 32] : Octets)) := by
    intro b
    simp [Greeting.isFiller, Bool.and_assoc]
  rw [Greeting.decodedSalt, field, saltText]
  simp only [filler]

/-- The error for a greeting that was cut short. -/
theorem cutShort_eq {ending : Ending} {e : Error} (h : Closes ending e) :
    Greeting.cutShort ending
      = match e with
        | .connectionClosed => .protocol "Connection closed before greeting"
        | e => e := by
  cases h with
  | eof => rfl
  | unexpectedEof h => exact if_pos h
  | fault h => exact if_neg h

/-! ## 3. The authentication -/

theorem accepts_of_error {body : Octets} {e : Error} (h : Response.decode body = .error e) :
    Handshake.accepts 1 body = .error e := by
  simp only [Handshake.accepts, h]
  rfl

/-- The text of the error for a response to another request. -/
theorem otherSync_first (got : UInt32) : Handshake.otherSync got 1
    = .auth s!"reply for request {got.toNat} while waiting for 1" := by
  have one : " while waiting for " ++ (1 : UInt32).toNat.repr = " while waiting for 1" := rfl
  simp only [Handshake.otherSync, Error.auth.injEq]
  show "reply for request " ++ got.toNat.repr ++ " while waiting for " ++ (1 : UInt32).toNat.repr
    = "reply for request " ++ got.toNat.repr ++ " while waiting for 1"
  rw [String.append_assoc, one]

/-- A response accepts the authentication if it is to it and brings no error. -/
theorem accepts_of_ok {body : Octets} {r : Response} (h : Response.decode body = .ok r) :
    Handshake.accepts 1 body
      = if r.sync = 1 then
          match r.error with
          | some e => .error (.auth e.text)
          | none => .ok ()
        else .error (.auth s!"reply for request {r.sync.toNat} while waiting for 1") := by
  rw [← otherSync_first]
  simp only [Handshake.accepts, h]
  by_cases hs : r.sync = 1
  · cases he : r.error <;> simp [hs, he, bind, Except.bind, pure, Except.pure]
  · simp [hs, bind, Except.bind]

/-- What is made of the stream behind the greeting. -/
def answerOf (s : Source) : Except Handshake.Failure Source :=
  match s.readFrame with
  | (.error fault, _) => .error (.ofFrameFault fault)
  | (.ok body, rest) =>
    match Handshake.accepts 1 body with
    | .error e => .error (.failed e)
    | .ok () => .ok rest

/-- The error of a failure where the stream has ended. -/
def errorOf : Handshake.Failure → Error
  | .streamEnded e => e
  | .failed e => e

theorem errorOf_ofFrameFault (fault : Source.FrameFault) :
    errorOf (.ofFrameFault fault) = fault.error := by
  cases fault <;> rfl

/-- **The answer is what its octets come to**, in whatever pieces they are. -/
theorem answers_iff {s : Source} {answer : Except Error Octets} :
    Answers s.octets s.ending answer
      ↔ answer = ((answerOf s).mapError errorOf).map Source.octets := by
  constructor
  · intro h
    cases h with
    | missing stops =>
      obtain ⟨fault, s', hr, rfl⟩ := Source.readFrame_of_stops stops
      rw [answerOf, hr, ← errorOf_ofFrameFault]
      rfl
    | undecodable he hf hd =>
      obtain ⟨s', hr, -, -⟩ := Source.readFrame_of_frame hf he
      simp only [answerOf, hr, accepts_of_error hd]
      rfl
    | otherSync he hf hd hs =>
      obtain ⟨s', hr, -, -⟩ := Source.readFrame_of_frame hf he
      simp only [answerOf, hr, accepts_of_ok hd, if_neg hs]
      rfl
    | refused he hf hd hs herr =>
      obtain ⟨s', hr, -, -⟩ := Source.readFrame_of_frame hf he
      simp only [answerOf, hr, accepts_of_ok hd, if_pos hs, herr]
      rfl
    | accepted he hf hd hs herr =>
      obtain ⟨s', hr, rfl, -⟩ := Source.readFrame_of_frame hf he
      simp only [answerOf, hr, accepts_of_ok hd, if_pos hs, herr]
      rfl
  · rintro rfl
    cases hr : s.readFrame with
    | mk result s' =>
      cases result with
      | error fault =>
        have answer : answerOf s = .error (.ofFrameFault fault) := by rw [answerOf, hr]
        rw [answer]
        show Answers _ _ (.error (errorOf (.ofFrameFault fault)))
        rw [errorOf_ofFrameFault]
        exact .missing (Source.readFrame_error hr)
      | ok body =>
        obtain ⟨hf, he, -⟩ := Source.readFrame_ok hr
        cases hd : Response.decode body with
        | error e =>
          simp only [answerOf, hr, accepts_of_error hd]
          exact .undecodable he hf hd
        | ok r =>
          simp only [answerOf, hr, accepts_of_ok hd]
          by_cases hs : r.sync = 1
          · rw [if_pos hs]
            cases herr : r.error with
            | some e => exact .refused he hf hd hs herr
            | none => exact .accepted he hf hd hs herr
          · rw [if_neg hs]
            exact .otherSync he hf hd hs

/-- Octets and their end come to one answer at most. -/
theorem Answers.unique {octets : Octets} {ending : Ending} {answer answer' : Except Error Octets}
    (h : Answers octets ending answer) (h' : Answers octets ending answer') : answer = answer' := by
  let s : Source := ⟨[octets], ending⟩
  have whole : s.octets = octets := List.flatten_singleton ..
  rw [← whole] at h h'
  exact (answers_iff.mp h).trans (answers_iff.mp h').symm

/-- An authentication that is packed is written, and then the answer counts. -/
theorem authenticate_eq {user password : String} {g : Greeting} {salt frame : Octets}
    (hs : g.decodedSalt = .ok salt) (hp : (Query.auth user password salt).pack 1 "" = .ok frame)
    (s : Source) :
    Handshake.authenticate user password g s
      = ⟨frame, (answerOf s).map fun rest => ⟨g, ⟨1⟩, rest⟩⟩ := by
  have first : SyncCounter.new.next = (1, ⟨1⟩) := rfl
  simp only [Handshake.authenticate, hs, first, hp, answerOf]
  cases s.readFrame with
  | mk result rest =>
    cases result with
    | error fault => rfl
    | ok body =>
      dsimp only
      cases Handshake.accepts 1 body <;> rfl

/-- What is left behind the answer ends as the stream does. -/
theorem ending_of_answerOf {s s' : Source} (h : answerOf s = .ok s') : s'.ending = s.ending := by
  cases hr : s.readFrame with
  | mk result rest =>
    cases result with
    | error fault =>
      rw [answerOf, hr] at h
      cases h
    | ok body =>
      obtain ⟨-, -, hend⟩ := Source.readFrame_ok hr
      simp only [answerOf, hr] at h
      split at h
      · cases h
      · cases h
        exact hend

/-! ## 4. The opening -/

/-- What an established connection hands over. -/
def handedBy (e : Established) : Handed :=
  ⟨Connection.inboundOf e.stream, e.counter.following⟩

theorem inboundOf_eq (s : Source) : Connection.inboundOf s = readerAt s.octets s.ending := by
  obtain ⟨pieces, ending⟩ := s
  cases ending <;> rfl

/-- What a handshake wrote, and what it comes to where the stream has ended. -/
def reported (r : Handshake.Result) : Octets × Except Error Handed :=
  (r.written, (r.outcome.mapError errorOf).map handedBy)

theorem credentials?_eq_none {o : Options} (h : o.user = none ∨ o.user = some "") :
    o.credentials? = none := by
  rcases h with h | h <;> simp [Options.credentials?, h]

theorem credentials?_eq_some {o : Options} {user : String} (h : o.user = some user)
    (named : user ≠ "") : o.credentials? = some (user, o.password.getD "") := by
  simp [Options.credentials?, h, named]

section Opening

variable {o : Options} {s : Source}

theorem reported_short (h : s.octets.length < 128) :
    reported (Handshake.run o s) = ([], .error (Greeting.cutShort s.ending)) := by
  obtain ⟨s', hr⟩ := read_of_lt h
  rw [Handshake.run, hr]
  rfl

theorem reported_plain (h : 128 ≤ s.octets.length) (nobody : o.user = none ∨ o.user = some "") :
    reported (Handshake.run o s)
      = ([], .ok ⟨readerAt (s.octets.drop 128) s.ending, 1⟩) := by
  obtain ⟨s', hr, hrest, hend⟩ := read_of_le h
  rw [Handshake.run, hr, credentials?_eq_none nobody, ← hrest, ← hend, ← inboundOf_eq]
  rfl

/-- With credentials the authentication follows the greeting. -/
theorem run_of_named {user : String} (h : 128 ≤ s.octets.length) (hu : o.user = some user)
    (named : user ≠ "") :
    ∃ s', Handshake.run o s = Handshake.authenticate user (o.password.getD "")
        (Greeting.ofOctets (s.octets.take 128)) s'
      ∧ s'.octets = s.octets.drop 128 ∧ s'.ending = s.ending := by
  obtain ⟨s', hr, hrest, hend⟩ := read_of_le h
  refine ⟨s', ?_, hrest, hend⟩
  rw [Handshake.run, hr, credentials?_eq_some hu named]

theorem reported_saltFault {user : String} {fault : Base64.Fault} (h : 128 ≤ s.octets.length)
    (hu : o.user = some user) (named : user ≠ "")
    (hs : Base64.decode (saltText s.octets) = .error fault) :
    reported (Handshake.run o s) = ([], .error (.salt fault)) := by
  obtain ⟨s', hr, -, -⟩ := run_of_named h hu named
  rw [hr, Handshake.authenticate, decodedSalt_ofOctets, hs]
  rfl

/-- A request that cannot be packed fails the opening. -/
theorem reported_unpacked {user : String} {salt : Octets} {e : Error} (h : 128 ≤ s.octets.length)
    (hu : o.user = some user) (named : user ≠ "")
    (hs : Base64.decode (saltText s.octets) = .ok salt)
    (hp : (Query.auth user (o.password.getD "") salt).pack 1 "" = .error (.query e.message)) :
    reported (Handshake.run o s) = ([], .error (unpacked e)) := by
  obtain ⟨s', hr, -, -⟩ := run_of_named h hu named
  have first : SyncCounter.new.next = (1, ⟨1⟩) := rfl
  simp only [hr, Handshake.authenticate, decodedSalt_ofOctets, hs, Except.mapError, first, hp]
  rfl

/-- One that is packed is written, and what follows tells. -/
theorem reported_asked {user : String} {salt frame : Octets} (h : 128 ≤ s.octets.length)
    (hu : o.user = some user) (named : user ≠ "")
    (hs : Base64.decode (saltText s.octets) = .ok salt)
    (hp : (Query.auth user (o.password.getD "") salt).pack 1 "" = .ok frame) :
    ∃ answer, Answers (s.octets.drop 128) s.ending answer ∧ reported (Handshake.run o s)
      = (frame, answer.map fun rest => ⟨readerAt rest s.ending, 2⟩) := by
  obtain ⟨s', hr, hrest, hend⟩ := run_of_named h hu named
  refine ⟨((answerOf s').mapError errorOf).map Source.octets, ?_, ?_⟩
  · rw [← hrest, ← hend]
    exact answers_iff.mpr rfl
  · have salted : (Greeting.ofOctets (s.octets.take 128)).decodedSalt = .ok salt := by
      rw [decodedSalt_ofOctets, hs]
      rfl
    rw [hr, authenticate_eq salted hp]
    cases ha : answerOf s' with
    | error e => rfl
    | ok rest =>
      rw [← hend, ← ending_of_answerOf ha]
      show (frame, Except.ok (Handed.mk (Connection.inboundOf rest) 2)) = _
      rw [inboundOf_eq]
      rfl

/-- **What a handshake writes and comes to is told by its stream.** -/
theorem opens_reported (o : Options) (s : Source) :
    Opens o s.octets s.ending (reported (Handshake.run o s)).1
      (reported (Handshake.run o s)).2 := by
  by_cases long : 128 ≤ s.octets.length
  · by_cases nobody : o.user = none ∨ o.user = some ""
    · rw [reported_plain long nobody]
      exact .plain long nobody
    · obtain ⟨user, hu, named⟩ : ∃ user, o.user = some user ∧ user ≠ "" := by
        cases hu : o.user with
        | none => exact absurd (.inl hu) nobody
        | some user => exact ⟨user, rfl, fun he => nobody (.inr (he ▸ hu))⟩
      cases hd : Base64.decode (saltText s.octets) with
      | error fault =>
        rw [reported_saltFault long hu named hd]
        exact .saltFault long hu named hd
      | ok salt =>
        have hs := Base64.decode_eq_ok_iff.mp hd
        by_cases hl : salt.length < 20
        · rw [reported_unpacked long hu named hd (pack_saltShort user _ hl)]
          exact .saltShort long hu named hs hl
        · have hl := Nat.not_lt.mp hl
          obtain ⟨body, hb⟩ := exists_authBody user (o.password.getD "") hl
          have hp := pack_authBody hb 1 ""
          by_cases fits : 9 + body.length ≤ 2 ^ 30
          · rw [if_pos fits] at hp
            obtain ⟨answer, ha, he⟩ := reported_asked long hu named hd hp
            rw [he]
            exact .asked long hu named hs hl hb fits ha
          · rw [if_neg fits] at hp
            rw [reported_unpacked long hu named hd hp]
            exact .unfit long hu named hs hl hb (Nat.not_le.mp fits)
  · have short := Nat.not_le.mp long
    obtain ⟨e, closed⟩ : ∃ e, Closes s.ending e := ⟨_, closes_iff.mpr rfl⟩
    rw [reported_short short, cutShort_eq closed]
    generalize s.ending = ending at closed
    cases closed with
    | eof => exact .greetingCut short .eof
    | unexpectedEof h => exact .greetingCut short (.unexpectedEof h)
    | fault h => exact .greetingFault short (.fault h)

/-- The opening comes to nothing else than what the octets say. -/
theorem reported_of_opens {written : Octets} {result : Except Error Handed}
    (h : Opens o s.octets s.ending written result) :
    reported (Handshake.run o s) = (written, result) := by
  cases h with
  | greetingCut short closed => rw [reported_short short, cutShort_eq closed]
  | greetingFault short closed => rw [reported_short short, cutShort_eq closed]
  | plain long nobody => exact reported_plain long nobody
  | saltFault long hu named hs => exact reported_saltFault long hu named hs
  | saltShort long hu named hs hl =>
    exact reported_unpacked long hu named (Base64.decode_eq_ok_iff.mpr hs) (pack_saltShort _ _ hl)
  | unfit long hu named hs hl hb big =>
    have hp := pack_authBody hb 1 ""
    rw [if_neg (Nat.not_le.mpr big)] at hp
    exact reported_unpacked long hu named (Base64.decode_eq_ok_iff.mpr hs) hp
  | asked long hu named hs hl hb fits ha =>
    have hp := pack_authBody hb 1 ""
    rw [if_pos fits] at hp
    obtain ⟨answer, ha', he⟩ := reported_asked long hu named (Base64.decode_eq_ok_iff.mpr hs) hp
    rw [he, ha.unique ha']

end Opening

/-! ## 5. Connections -/

/-- The limits do not matter to the handshake. -/
theorem run_normalized (o : Options) (s : Source) :
    Handshake.run o.normalized s = Handshake.run o s :=
  rfl

theorem establish_eq {address : String} {a : Address} (ha : Address.parse address = .ok a)
    (o : Options) (c : Capacities) (staysOpen : Bool) (s : Source) :
    Connection.establish address o c staysOpen s
      = (Handshake.outcome o.normalized staysOpen s).map fun e =>
          let space := Connection.effectiveSpace o.normalized a
          ⟨a.remote, space, o.normalized.queryTimeout, e.greeting,
            Connection.pipelineOf c space e⟩ := by
  simp only [Connection.establish, ha]
  show Except.bind (Handshake.outcome o.normalized staysOpen s) _ = _
  cases Handshake.outcome o.normalized staysOpen s <;> rfl

/-- A connection is handed what the handshake reports. -/
theorem handed_establish {address : String} {a : Address} (ha : Address.parse address = .ok a)
    (o : Options) (c : Capacities) (s : Source) :
    (Connection.establish address o c false s).map handed
      = (reported (Handshake.run o s)).2 := by
  rw [establish_eq ha, Handshake.outcome, run_normalized, reported]
  cases (Handshake.run o s).outcome with
  | ok e => rfl
  | error failure => cases failure <;> rfl

/-- A connection is opened to a server that does not end its stream as to one that does. -/
theorem establish_staysOpen {address : String} {a : Address}
    (ha : Address.parse address = .ok a) (o : Options) (c : Capacities) (s : Source)
    (connection : Connection) :
    Connection.establish address o c true s = .ok connection
      ↔ Connection.establish address o c false s = .ok connection := by
  rw [establish_eq ha, establish_eq ha, Handshake.outcome, Handshake.outcome]
  cases (Handshake.run o.normalized s).outcome with
  | ok e => exact Iff.rfl
  | error failure =>
    cases failure with
    | failed e => exact Iff.rfl
    | streamEnded e => exact ⟨nofun, nofun⟩

theorem complete_iff {o : Options} {octets : Octets} {ending : Ending}
    (nobody : o.user = none ∨ o.user = some "") :
    (∃ written h, Opens o octets ending written (.ok h)) ↔ 128 ≤ octets.length := by
  constructor
  · rintro ⟨written, h, opens⟩
    generalize hr : Except.ok h = result at opens
    cases opens with
    | plain long | asked long => exact long
    | _ => cases hr
  · exact fun long => ⟨_, _, .plain long nobody⟩

/-- What the octets of a server have to be for the credentials of a user to be accepted. -/
def Accepted (user password : String) (octets : Octets) : Prop :=
  128 ≤ octets.length ∧ ∃ salt body, saltText octets = Base64.encode salt ∧ 20 ≤ salt.length
    ∧ Query.authBody user password salt = .ok body ∧ 9 + body.length ≤ 2 ^ 30
    ∧ ∃ reply rest r, octets.drop 128 = frameOf reply ++ rest ∧ Fits reply
      ∧ Response.decode reply = .ok r ∧ r.sync = 1 ∧ r.error = none

theorem accepted_iff {o : Options} {octets : Octets} {ending : Ending} {user : String}
    (hu : o.user = some user) (named : user ≠ "") :
    (∃ written h, Opens o octets ending written (.ok h))
      ↔ Accepted user (o.password.getD "") octets := by
  constructor
  · rintro ⟨written, h, opens⟩
    generalize hr : Except.ok h = result at opens
    cases opens with
    | plain long nobody =>
      rcases nobody with nobody | nobody
      · rw [hu] at nobody
        cases nobody
      · rw [hu] at nobody
        exact absurd (Option.some.inj nobody) named
    | asked long hu' named' hs hl hb fits ha =>
      cases hu.symm.trans hu'
      cases ha with
      | accepted he hf hd hsync herr =>
        exact ⟨long, _, _, hs, hl, hb, fits, _, _, _, he, hf, hd, hsync, herr⟩
      | _ => cases hr
    | _ => cases hr
  · rintro ⟨long, salt, body, hs, hl, hb, fits, reply, rest, r, he, hf, hd, hsync, herr⟩
    exact ⟨_, _, .asked long hu named hs hl hb fits (.accepted he hf hd hsync herr)⟩

/-- What opening a connection to an address comes to. -/
structure Opening (address : String) (o : Options) (c : Capacities) (s : Source) : Prop where
  /-- What is written, and what is handed over or the error, is told by the octets of the server
  and the end of its stream, whatever the pieces. -/
  outcome : ∀ written result, Opens o s.octets s.ending written result
    ↔ written = (Handshake.run o.normalized s).written
      ∧ result = (Connection.establish address o c false s).map handed
  /-- To a server that does not end its stream the same connections are opened. -/
  staysOpen : ∀ connection, Connection.establish address o c true s = .ok connection
    ↔ Connection.establish address o c false s = .ok connection
  /-- Without a user's name that is all whose greeting is complete. -/
  plain : o.user = none ∨ o.user = some "" →
    ((∃ connection, Connection.establish address o c false s = .ok connection)
      ↔ 128 ≤ s.octets.length)
  /-- With a user's name that is all that accept the credentials. -/
  named : ∀ user, o.user = some user → user ≠ "" →
    ((∃ connection, Connection.establish address o c false s = .ok connection)
      ↔ Accepted user (o.password.getD "") s.octets)

/-- **Opening a connection comes to what its stream says**: it fails with the error of the first
step that fails, or hands the octets over that were not read, each of them, and the next sync. -/
theorem establish_opens {address : String} {a : Address} (ha : Address.parse address = .ok a)
    (o : Options) (c : Capacities) (s : Source) : Opening address o c s := by
  have told := handed_establish ha o c s
  have outcome : ∀ written result, Opens o s.octets s.ending written result
      ↔ written = (Handshake.run o.normalized s).written
        ∧ result = (Connection.establish address o c false s).map handed := by
    intro written result
    rw [told, run_normalized]
    constructor
    · intro h
      have same := reported_of_opens h
      exact ⟨(congrArg Prod.fst same).symm, (congrArg Prod.snd same).symm⟩
    · rintro ⟨rfl, rfl⟩
      exact opens_reported o s
  have opened : (∃ connection, Connection.establish address o c false s = .ok connection)
      ↔ ∃ written h, Opens o s.octets s.ending written (.ok h) := by
    constructor
    · rintro ⟨connection, he⟩
      exact ⟨_, handed connection, (outcome _ _).mpr ⟨rfl, by rw [he]; rfl⟩⟩
    · rintro ⟨written, h, opens⟩
      obtain ⟨-, hr⟩ := (outcome _ _).mp opens
      cases he : Connection.establish address o c false s with
      | ok connection => exact ⟨connection, rfl⟩
      | error e =>
        rw [he] at hr
        cases hr
  exact {
    outcome
    staysOpen := establish_staysOpen ha o c s
    plain := by
      intro nobody
      rw [opened, complete_iff nobody]
    named := by
      intro user hu named
      rw [opened, accepted_iff hu named] }

/-- A greeting with thirty-two zeros as its salt, an answer that accepts, and two octets more. -/
def welcome : Octets :=
  List.replicate 64 32 ++ Base64.encode (List.replicate 32 0) ++ List.replicate 20 32
    ++ frameOf [0x82, 0x00, 0x00, 0x01, 0x01] ++ [0xce, 0x00]

/-- Options with a user and no password. -/
def guest : Options := { user := some "guest" }

/-- In pieces of seven octets they open a connection for the user, with the last two left to it. -/
theorem establish_opens_guest : ∃ connection,
    Address.parse "localhost:3301" = .ok ⟨"localhost:3301", none⟩
      ∧ Connection.establish "localhost:3301" guest {} false (.ofOctets welcome 7 .eof)
          = .ok connection
      ∧ handed connection = ⟨readerAt [0xce, 0x00] .eof, 2⟩ := by
  have address : Address.parse "localhost:3301" = .ok ⟨"localhost:3301", none⟩ := rfl
  have opening := establish_opens address guest {} (.ofOctets welcome 7 .eof)
  have user : guest.user = some "guest" := rfl
  have salted : saltText welcome = Base64.encode (List.replicate 32 0) := rfl
  have enough : 20 ≤ (List.replicate 32 (0 : UInt8)).length := by simp
  obtain ⟨body, hb⟩ := exists_authBody "guest" (guest.password.getD "") enough
  have fits : 9 + body.length ≤ 2 ^ 30 := by
    rw [length_authBody hb]
    decide
  have answered : welcome.drop 128 = frameOf [0x82, 0x00, 0x00, 0x01, 0x01] ++ [0xce, 0x00] := rfl
  have accepted : Answers (welcome.drop 128) .eof (.ok [0xce, 0x00]) :=
    .accepted answered (by decide) Response.decode_pong rfl rfl
  have long : 128 ≤ welcome.length := by simp [welcome, Base64.length_encode, frameOf, prefixSize]
  have opens : Opens guest welcome .eof _ (.ok ⟨readerAt [0xce, 0x00] .eof, 2⟩) :=
    .asked long user (by decide) salted enough hb fits accepted
  rw [← Source.octets_ofOctets welcome 7 .eof] at opens
  obtain ⟨-, hr⟩ := (opening.outcome _ _).mp opens
  cases he : Connection.establish "localhost:3301" guest {} false (.ofOctets welcome 7 .eof) with
  | error e =>
    rw [he] at hr
    cases hr
  | ok connection =>
    rw [he] at hr
    exact ⟨connection, address, rfl, (Except.ok.inj hr).symm⟩

end Muxwire.Client
