import Muxwire.Digest.Sha1
import Muxwire.Error
import Muxwire.Text.Utf8

/-!
# Scrambles

Proof of a password without sending it. With `h` the digest,

    scramble = h(password) XOR h(salt ++ h(h(password)))

where the first twenty octets of the salt count. Who knows `h(h(password))` can take the XOR off
again and test what is left: `scramble_xor` is the identity behind that test.
-/

namespace Muxwire.Request

/-- The length of a scramble and of the part of the salt that counts. -/
def scrambleSize : Nat := 20

/-- The exclusive or of two byte strings, as long as the shorter one. -/
def xorOctets (a b : Octets) : Octets :=
  List.zipWith (· ^^^ ·) a b

@[simp] theorem length_xorOctets (a b : Octets) :
    (xorOctets a b).length = min a.length b.length := by
  simp [xorOctets]

/-- **Combining twice with the same octets gives the first ones back.** -/
theorem xorOctets_cancel {a b : Octets} (h : a.length = b.length) :
    xorOctets (xorOctets a b) b = a := by
  unfold xorOctets
  induction a generalizing b with
  | nil => simp
  | cons x a ih =>
    cases b with
    | nil => simp at h
    | cons y b =>
      simp only [List.zipWith_cons_cons]
      rw [ih (by simpa using h), UInt8.xor_assoc, UInt8.xor_self, UInt8.xor_zero]

/-- The scramble for a digest function. -/
def scrambleWith (digest : Octets → Octets) (password salt : Octets) : Octets :=
  let once := digest password
  xorOctets once (digest (salt.take scrambleSize ++ digest once))

/-- The scramble of a password for a salt, which must be long enough. -/
def scramble (password : String) (salt : Octets) : Except Error Octets :=
  if salt.length < scrambleSize then
    .error (.auth s!"salt too short: {salt.length} bytes")
  else .ok (scrambleWith Digest.Sha1.digest (Text.Utf8.encode password) salt)

/-- The scramble without its mask is the digest of the password. -/
theorem scramble_xor (digest : Octets → Octets) (h : ∀ m, (digest m).length = scrambleSize)
    (password salt : Octets) :
    xorOctets (scrambleWith digest password salt)
      (digest (salt.take scrambleSize ++ digest (digest password))) = digest password :=
  xorOctets_cancel (by rw [h, h])

end Muxwire.Request
