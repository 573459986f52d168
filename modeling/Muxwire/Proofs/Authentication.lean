import Muxwire.Proofs.RequestFrames

/-!
# The authentication and the server that tests it

An authentication presents a user and a proof of the password, which is tested by a server that
keeps no more of the password than the digest of its digest.

* `exists_authBody`, `length_authBody`, `pack_authBody`, `pack_saltShort` -- the request of an
  authentication and its length.
* `Accepts` -- the test of the server, for any digest; **`accepts_scrambleWith`** passes it.
* `read_authBody` -- the body of the request holds two values and nothing more: header and map.
* **`authenticates`** -- with a salt of twenty octets and more the request goes out in one frame,
  from which the server reads a proof that it accepts; with a shorter one there is neither a proof
  nor a frame. Of the salt the first twenty octets count.
-/

namespace Muxwire.Request

open Msgpack Wire

variable {user password : String} {salt : Octets}

/-! ## 1. The request -/

theorem exists_authBody (user password : String) (h : 20 ≤ salt.length) :
    ∃ body, Query.authBody user password salt = .ok body := by
  have enough : ¬ salt.length < scrambleSize := Nat.not_lt.mpr h
  simp only [Query.authBody, scramble, enough, if_false]
  exact ⟨_, rfl⟩

/-- How long the request is depends on the user's name alone. -/
theorem length_authBody {body : Octets} (h : Query.authBody user password salt = .ok body) :
    body.length = (Query.textOctets user).length + 35 := by
  have mechanism : (Query.textOctets Query.authMechanism).length = 10 := by rfl
  by_cases short : salt.length < scrambleSize
  · simp only [Query.authBody, scramble, short, if_true] at h
    cases h
  · simp only [Query.authBody, scramble, short, if_false] at h
    cases h
    have proof :
        (scrambleWith Digest.Sha1.digest (Text.Utf8.encode password) salt).length = 20 := by
      simp [scrambleWith]
    have pair : (Head.map 2).write.length = 1 := rfl
    have list : (Head.array 2).write.length = 1 := rfl
    have string : (Head.str scrambleSize).write.length = 1 := rfl
    simp only [List.length_append, List.length_cons, mechanism, proof, pair, list, string]
    omega

theorem pack_saltShort (user password : String) (h : salt.length < 20) {sync : UInt32}
    {space : String} : (Query.auth user password salt).pack sync space
      = .error (.query (Error.auth s!"salt too short: {salt.length} bytes").message) := by
  have short : salt.length < scrambleSize := h
  have failed : Query.authBody user password salt
      = .error (.auth s!"salt too short: {salt.length} bytes") := by
    simp only [Query.authBody, scramble, short, if_true]
    rfl
  simp only [Query.pack, Query.appendBody, failed]
  rfl

/-- The request of an authentication is packed, if it is not too long. -/
theorem pack_authBody {body : Octets} (h : Query.authBody user password salt = .ok body)
    (sync : UInt32) (space : String) : (Query.auth user password salt).pack sync space
      = if 9 + body.length ≤ 2 ^ 30 then .ok (frameOf (requestHeader 7 sync ++ body))
        else .error (.query
          (Error.protocol s!"request body of {body.length} bytes is too large").message) := by
  have most : maxBody = 2 ^ 30 := rfl
  have header : headerSize = 9 := rfl
  simp only [Query.pack, Query.appendBody, h, Query.appendAll, List.nil_append, build,
    announcedLength, most, header]
  by_cases fits : 9 + body.length ≤ 2 ^ 30
  · simp only [fits, if_true, frameOf, List.length_append, length_requestHeader, header]
    rfl
  · simp only [fits, if_false]
    rfl


/-- The body of the request is the header, and the map of the user and of mechanism and proof. -/
theorem requestBody_auth {body : Octets} (h : Query.authBody user password salt = .ok body)
    (sync : UInt32) (space : String) :
    requestBody (.auth user password salt) sync space = requestHeader 7 sync ++ body := by
  simp only [requestBody, Query.appendBody, h, Query.appendAll, List.nil_append]
  rfl

/-! ## 2. The test of the server -/

/-- What a server keeps of a password. -/
def kept (digest : Octets → Octets) (password : String) : Octets :=
  digest (digest (Text.Utf8.encode password))

/-- The test of a server that has kept no more of a password than this, and that has its own salt:
what is under the mask must have the kept digest. -/
def Accepts (digest : Octets → Octets) (stored own proof : Octets) : Prop :=
  digest (xorOctets proof (digest (own ++ stored))) = stored

/-- **The scramble of the password passes the test**, whatever the digest, if that is as long as
the part of the salt that counts. -/
theorem accepts_scrambleWith {digest : Octets → Octets}
    (h : ∀ m, (digest m).length = scrambleSize) (password : String) {own more : Octets}
    (ho : own.length = scrambleSize) :
    Accepts digest (kept digest password) own
      (scrambleWith digest (Text.Utf8.encode password) (own ++ more)) := by
  have unmasked := scramble_xor digest h (Text.Utf8.encode password) (own ++ more)
  rw [← ho, List.take_left] at unmasked
  rw [Accepts, kept, unmasked]

/-- A salt that is long enough has a proof of twenty octets. -/
theorem scramble_of_long (password : String) (long : 20 ≤ salt.length) :
    scramble password salt = .ok (scrambleWith Digest.Sha1.digest (Text.Utf8.encode password) salt)
      ∧ (scrambleWith Digest.Sha1.digest (Text.Utf8.encode password) salt).length = 20 := by
  refine ⟨if_neg (Nat.not_lt.mpr long), ?_⟩
  simp [scrambleWith]

/-- Of the salt the first twenty octets count. -/
theorem scramble_append (password : String) {own : Octets} (ho : own.length = scrambleSize)
    (more : Octets) : scramble password (own ++ more) = scramble password own := by
  have long : ¬ (own ++ more).length < scrambleSize := by
    rw [List.length_append]
    omega
  have long' : ¬ own.length < scrambleSize := by omega
  simp only [scramble, long, long', if_false, scrambleWith]
  rw [← ho, List.take_left, List.take_length]

theorem pack_append (user password : String) {own : Octets} (ho : own.length = scrambleSize)
    (more : Octets) (sync : UInt32) (space : String) :
    (Query.auth user password (own ++ more)).pack sync space
      = (Query.auth user password own).pack sync space := by
  simp only [Query.pack, Query.appendBody, Query.authBody, scramble_append password ho]
  rfl

/-! ## 3. What the server reads -/

/-- The map behind the header. -/
def credentialsValue (user : String) (proof : Octets) : Value :=
  .map [(natValue 0x23, .text user), (natValue 0x21, .array [.text "chap-sha1", .str proof])]

/-- The octets behind the header are a form of it, whatever octets the proof has. -/
theorem form_authBody {proof body : Octets} (hp : scramble password salt = .ok proof)
    (hb : Query.authBody user password salt = .ok body) (length : proof.length = scrambleSize)
    (hu : (Value.text user).Fits) : (credentialsValue user proof).Form body := by
  rw [Query.authBody, hp] at hb
  cases hb
  have userKey : (natValue 0x23).Form [0x23] := .int (.fixPositive (by decide) (by decide))
  have tupleKey : (natValue 0x21).Form [0x21] := .int (.fixPositive (by decide) (by decide))
  have name := Value.form_encode (.text user) hu
  have mechanism := Value.form_encode (.text "chap-sha1") (Value.fits_of_length _ (by decide))
  rw [Value.sanitize_text] at name mechanism
  have string : (Head.str proof.length).Form (Head.str scrambleSize).write := by
    rw [length]
    exact .fixStr (by decide)
  have two : (Head.array 2).Form (Head.array 2).write := .fixArray (by decide)
  have pair : (Head.map 2).Form (Head.map 2).write := .fixMap (by decide)
  have items := Value.FormAll.cons mechanism (.cons (.str string) .nil)
  have list : (Value.array [.text "chap-sha1", .str proof]).Form _ := .array two items
  have entries := Value.FormEntries.cons userKey name (.cons tupleKey list .nil)
  have form : (credentialsValue user proof).Form _ := .map pair entries
  simp only [List.append_nil, List.append_assoc, List.cons_append, List.nil_append] at form ⊢
  exact form

/-- The body of the request holds header and map, and nothing more. -/
theorem read_authBody {proof body : Octets} (hp : scramble password salt = .ok proof)
    (hb : Query.authBody user password salt = .ok body) (length : proof.length = scrambleSize)
    (hu : (Value.text user).Fits) (sync : UInt32) :
    ∃ rest, Value.read (requestHeader 7 sync ++ body) = .ok (headerValue 7 sync, rest)
      ∧ Value.read rest = .ok (credentialsValue user proof, []) := by
  refine ⟨body, read_requestHeader (by decide) sync body, ?_⟩
  have need : (credentialsValue user proof).need ≤ Value.fullBudget := by
    simp [credentialsValue, natValue, Value.text, Value.need, Value.needAll, Value.needEntries,
      Value.fullBudget]
  have hread := (form_authBody hp hb length hu).read need []
  rw [List.append_nil] at hread
  exact hread

/-- What a frame presents to a server: its body, and in it the header and the map of the user and
of mechanism and proof. -/
structure Presents (user : String) (proof : Octets) (sync : UInt32) (frame body : Octets) :
    Prop where
  /-- The body is read from the frame, whatever the pieces in which that comes, and nothing is left
  unread. -/
  body_read : ∀ s : Source, s.octets = frame →
    s.readFrame.1 = .ok body ∧ s.readFrame.2.octets = []
  /-- The two values are read from the body, and nothing is left unread. -/
  values_read : ∃ rest, Value.read body = .ok (headerValue 7 sync, rest)
    ∧ Value.read rest = .ok (credentialsValue user proof, [])

/-- **The frame of the request presents them.** -/
theorem presents_frameOf {proof body : Octets} {sync : UInt32}
    (hp : scramble password salt = .ok proof) (hb : Query.authBody user password salt = .ok body)
    (length : proof.length = scrambleSize)
    (fits : (requestHeader 7 sync ++ body).length ≤ maxBody) :
    Presents user proof sync (frameOf (requestHeader 7 sync ++ body))
      (requestHeader 7 sync ++ body) := by
  have size : (requestHeader 7 sync ++ body).length = 9 + body.length := by
    rw [List.length_append, length_requestHeader]
    rfl
  have most : maxBody = 2 ^ 30 := rfl
  have hu : (Value.text user).Fits := by
    have hl := length_authBody hb
    rw [Query.textOctets] at hl
    exact Value.fits_of_length _ (by omega)
  refine ⟨?_, read_authBody hp hb length hu sync⟩
  intro s hs
  rw [← List.append_nil (frameOf _)] at hs
  obtain ⟨s', hread, unread, -⟩ := Source.readFrame_of_frame ⟨by omega, fits⟩ hs
  rw [hread]
  exact ⟨rfl, unread⟩

/-! ## 4. Authentications -/

/-- What an authentication comes to. -/
structure Authenticates (user password : String) (salt : Octets) (sync : UInt32) (space : String) :
    Prop where
  /-- With a salt that is long enough it goes out in one frame if that fits, and the proof in it is
  accepted by the server whose salt it is. -/
  accepted : 20 ≤ salt.length →
    (requestBody (.auth user password salt) sync space).length ≤ maxBody →
    ∃ frame body proof, (Query.auth user password salt).pack sync space = .ok frame
      ∧ Presents user proof sync frame body
      ∧ scramble password salt = .ok proof ∧ proof.length = 20
      ∧ ∀ own more, salt = own ++ more → own.length = 20 →
          Accepts Digest.Sha1.digest (kept Digest.Sha1.digest password) own proof
  /-- The same test is passed with any digest of twenty octets. -/
  anyDigest : ∀ digest : Octets → Octets, (∀ m, (digest m).length = 20) →
    ∀ own more, salt = own ++ more → own.length = 20 →
      Accepts digest (kept digest password) own
        (scrambleWith digest (Text.Utf8.encode password) salt)
  /-- Salts that agree in their first twenty octets make no difference. -/
  agreeing : ∀ own more more', salt = own ++ more → own.length = 20 →
    scramble password (own ++ more') = scramble password salt
      ∧ (Query.auth user password (own ++ more')).pack sync space
        = (Query.auth user password salt).pack sync space
  /-- With a shorter salt there is no proof and no frame. -/
  refused : salt.length < 20 →
    scramble password salt = .error (.auth s!"salt too short: {salt.length} bytes")
      ∧ (Query.auth user password salt).pack sync space
        = .error (.query (Error.auth s!"salt too short: {salt.length} bytes").message)

/-- **An authentication presents a proof that the server accepts**, if the salt is long enough, and
nothing if it is not. -/
theorem authenticates (user password : String) (salt : Octets) (sync : UInt32) (space : String) :
    Authenticates user password salt sync space := by
  refine ⟨?_, ?_, ?_, ?_⟩
  · intro long fits
    obtain ⟨body, hb⟩ := exists_authBody user password long
    obtain ⟨hp, length⟩ := scramble_of_long password long
    rw [requestBody_auth hb] at fits
    have packed : (Query.auth user password salt).pack sync space
        = .ok (frameOf (requestHeader 7 sync ++ body)) := by
      rw [pack_authBody hb, if_pos]
      rwa [List.length_append, length_requestHeader] at fits
    refine ⟨_, _, _, packed, presents_frameOf hp hb length fits, hp, length, ?_⟩
    rintro own more rfl ho
    exact accepts_scrambleWith Digest.Sha1.length_digest password ho
  · rintro digest hd own more rfl ho
    exact accepts_scrambleWith hd password ho
  · rintro own more more' rfl ho
    rw [scramble_append password ho, scramble_append password ho, pack_append user password ho,
      pack_append user password ho]
    exact ⟨rfl, rfl⟩
  · intro short
    exact ⟨if_pos short, pack_saltShort user password short⟩

/-- The same for a salt of thirty-two octets, of which the server has kept the first twenty. -/
theorem authenticates_admin : ∃ frame body proof,
    (Query.auth "admin" "secret" ((List.range 32).map UInt8.ofNat)).pack 1 "" = .ok frame
      ∧ Presents "admin" proof 1 frame body
      ∧ Accepts Digest.Sha1.digest (kept Digest.Sha1.digest "secret")
          ((List.range 20).map UInt8.ofNat) proof := by
  have long : 20 ≤ ((List.range 32).map UInt8.ofNat).length := by decide
  have fits : (requestBody (.auth "admin" "secret" ((List.range 32).map UInt8.ofNat)) 1 "").length
      ≤ maxBody := by
    obtain ⟨body, hb⟩ := exists_authBody "admin" "secret" long
    rw [requestBody_auth hb, List.length_append, length_requestHeader, length_authBody hb]
    decide
  obtain ⟨frame, body, proof, packed, presents, -, -, accepts⟩ :=
    (authenticates "admin" "secret" ((List.range 32).map UInt8.ofNat) 1 "").accepted long fits
  exact ⟨frame, body, proof, packed, presents,
    accepts _ ((List.range' 20 12).map UInt8.ofNat) (by decide) (by decide)⟩

/-- The proof for these, octet by octet, under the digest that goes over the wire. -/
example : scramble "secret" ((List.range 32).map UInt8.ofNat)
    = .ok [0x21, 0xb3, 0xff, 0x40, 0x5f, 0x32, 0xcb, 0xe4, 0xaa, 0xff, 0xf2, 0x91, 0x39, 0x60,
      0x46, 0xea, 0x29, 0xfa, 0x3a, 0x4d] := by
  decide +kernel

end Muxwire.Request
