import Muxwire.Duration
import Muxwire.Msgpack.Head
import Muxwire.Text.Base64

/-!
# Errors

Everything that can go wrong between a caller and the server, as one type of causes, and the
wording of each cause in one function, `Error.message`.
-/

namespace Muxwire

/-! ## 1. The stream below -/

/-- The kinds of failure that a stream reports. -/
inductive IoKind where
  | connectionReset
  | connectionRefused
  | brokenPipe
  | unexpectedEof
  | timedOut
  | writeZero
  | invalidInput
  | other
  deriving DecidableEq, Repr

/-- A failure of the stream, with its own wording. -/
structure IoFault where
  kind : IoKind
  text : String
  deriving DecidableEq, Repr

/-- The failure of a stream that accepts no more octets. -/
def IoFault.writeZero : IoFault :=
  ⟨.writeZero, "write zero"⟩

/-! ## 2. Errors of a server -/

/-- An error that the server reports as the answer to a request. -/
structure ServerError where
  code : UInt32
  message : String
  deriving DecidableEq, Repr

/-- The text of a server's error. -/
def ServerError.text (e : ServerError) : String :=
  s!"Server error {e.code.toNat}: {e.message}"

/-! ## 3. All errors -/

/-- Why an operation failed. -/
inductive Error where
  /-- The stream failed. -/
  | io (fault : IoFault)
  /-- Connecting and shaking hands took longer than allowed. -/
  | connectTimeout (after : Duration)
  /-- The address is not of the form `host:port[/space]`. -/
  | invalidAddress (text : String)
  /-- The server broke the protocol. -/
  | protocol (text : String)
  /-- The server did not accept the credentials. -/
  | auth (text : String)
  /-- The server answered the request with an error. -/
  | server (error : ServerError)
  /-- The query could not be packed. -/
  | query (text : String)
  /-- The connection itself gave the request up. -/
  | connection (text : String)
  /-- The connection closed before an answer came. -/
  | connectionClosed
  /-- No answer came in time. -/
  | timeout (after : Duration)
  /-- A typed value refused to be encoded. -/
  | encode (text : String)
  /-- Octets do not hold a value of the wanted type. -/
  | decode
  /-- Octets hold no value. -/
  | valueDecode (fault : Msgpack.ReadFault)
  /-- A value is not of the wanted type. -/
  | valueConvert
  /-- The salt of the greeting is not base 64. -/
  | salt (fault : Text.Base64.Fault)
  deriving DecidableEq, Repr

/-- The wording of an error. -/
def Error.message : Error → String
  | .io fault => "I/O error: " ++ fault.text
  | .connectTimeout after => "Connect timed out after " ++ after.text
  | .invalidAddress text => "Invalid address: " ++ text
  | .protocol text => "Protocol error: " ++ text
  | .auth text => "Authentication failed: " ++ text
  | .server error => error.text
  | .query text => "Query error: " ++ text
  | .connection text => "Connection error: " ++ text
  | .connectionClosed => "Connection closed"
  | .timeout after => "Request timed out after " ++ after.text
  | .encode text => "MsgPack encode error: " ++ text
  | .decode => "MsgPack decode error"
  | .valueDecode fault => "MsgPack value decode error: " ++ fault.message
  | .valueConvert => "MsgPack value conversion error"
  | .salt fault => "Invalid greeting salt: " ++ fault.message

end Muxwire
