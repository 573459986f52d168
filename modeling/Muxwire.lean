import Muxwire.Proofs.Addressing
import Muxwire.Proofs.Appending
import Muxwire.Proofs.ArgumentLists
import Muxwire.Proofs.Conservation
import Muxwire.Proofs.Dispatch.Abandon
import Muxwire.Proofs.Dispatch.Backpressure
import Muxwire.Proofs.Dispatch.Flow
import Muxwire.Proofs.Dispatch.PackFailure
import Muxwire.Proofs.Greeting
import Muxwire.Proofs.Inbound.Feed
import Muxwire.Proofs.Outbound.Account
import Muxwire.Proofs.Pipeline.LateReply
import Muxwire.Proofs.Pipeline.Lifetime
import Muxwire.Proofs.Pipeline.Multiplex
import Muxwire.Proofs.Pipeline.WireOrder
import Muxwire.Proofs.RequestHeader
import Muxwire.Proofs.SyncCounter.Period
import Muxwire.Proofs.Truncation
import Muxwire.Proofs.TypedData.RoundTrip
