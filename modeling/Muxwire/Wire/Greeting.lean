import Muxwire.Wire.Source

/-!
# The greeting

A server opens the connection with 128 octets: 64 of a version line, 44 of a salt in base 64, and
20 that mean nothing.

* `Greeting.ofOctets` cuts them, `Greeting.read` takes them from a stream.
* `versionLine` is the text of the version without the padding at its end.
* `decodedSalt` ignores ASCII whitespace and NUL anywhere in the salt.
-/

namespace Muxwire.Wire

/-- The two fields of a greeting, as they were sent. -/
structure Greeting where
  version : Octets
  salt : Octets
  deriving DecidableEq, Repr, Inhabited

namespace Greeting

/-- The length of a greeting. -/
def size : Nat := 128

/-- The length of the version. -/
def versionSize : Nat := 64

/-- The length of the salt. -/
def saltSize : Nat := 44

/-- The fields of a greeting's octets. -/
def ofOctets (raw : Octets) : Greeting :=
  ⟨raw.take versionSize, (raw.drop versionSize).take saltSize⟩

/-- The error of a stream that ends before the greeting is complete. -/
def cutShort : Ending → Error
  | .eof => .protocol "Connection closed before greeting"
  | .fault fault =>
    if fault.kind = .unexpectedEof then .protocol "Connection closed before greeting"
    else .io fault

/-- Reads a greeting; the stream may end before it is complete. -/
def read (s : Source) : Except Ending Greeting × Source :=
  match s.readExact size with
  | (.error ending, s) => (.error ending, s)
  | (.ok raw, s) => (.ok (ofOctets raw), s)

/-- The characters that pad a version line. -/
def isPadding (c : Char) : Bool :=
  c.toNat = 0 || c = ' ' || c = '\n'

/-- A text without the padding at its end. -/
def trimPadding (s : String) : String :=
  String.ofList (s.toList.reverse.dropWhile isPadding).reverse

/-- The text of the version. -/
def versionLine (g : Greeting) : String :=
  trimPadding (Text.Utf8.lossy g.version)

/-- The octets that stand between the symbols of a salt: NUL, tab, line feed, form feed, carriage
return and space. -/
def isFiller (b : UInt8) : Bool :=
  b = 0 || b = 9 || b = 10 || b = 12 || b = 13 || b = 32

/-- The salt. -/
def decodedSalt (g : Greeting) : Except Error Octets :=
  (Text.Base64.decode (g.salt.filter fun b => !isFiller b)).mapError .salt

end Greeting

end Muxwire.Wire
