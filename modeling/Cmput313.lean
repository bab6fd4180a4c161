import Cmput313.Router.ForwardChecksum
import Cmput313.Router.Assertions
import Cmput313.Router.FrameBounds
import Cmput313.Router.ArpTable
import Cmput313.Router.RetryTimer
import Cmput313.Router.TimeOut
import Cmput313.Router.LongestPrefix
import Cmput313.Router.Sweep
import Cmput313.Router.SourceAddress
import Cmput313.Router.ArpProvenance
import Cmput313.Router.PacketMessage
import Cmput313.Router.ReadFromServer
import Cmput313.Ttt.Replicas
import Cmput313.Ttt.TurnMessages
import Cmput313.Ttt.Rooms
import Cmput313.Ttt.RoomEvents
import Cmput313.Ttt.FairPlay
import Cmput313.Router.Forwarding
import Cmput313.Router.ArpBounds
import Cmput313.Router.ArpRequests
import Cmput313.Router.ReplyDelivery
import Cmput313.Pox.RoundTrip
import Cmput313.Router.RequestRelease
import Cmput313.Ttt.MallocContents
import Cmput313.Router.RouteOrder
import Cmput313.Router.VerifiedRoutes
import Cmput313.Router.MessageAccesses
import Cmput313.Router.RoutingFile
import Cmput313.Router.ErrorContents
import Cmput313.Router.EchoReply
import Cmput313.Router.LocalDelivery
import Cmput313.Router.QuotedDatagram
import Cmput313.Ttt.Verdicts
import Cmput313.Pox.Banners
import Cmput313.Pox.Lengths
import Cmput313.Ttt.Prompts
import Cmput313.Ttt.Tokens
import Cmput313.Ttt.Results
import Cmput313.Lib.BlockHash
import Cmput313.Router.Sha1
import Cmput313.Router.Sha1Digest
import Cmput313.Router.AuthReply
import Cmput313.Lib.Fifo
import Cmput313.Pox.SrHandler
import Cmput313.Router.Connecting
import Cmput313.Network.Net
import Cmput313.Network.Deliveries
import Cmput313.Network.PacketOut
import Cmput313.Router.Ledger
import Cmput313.Network.Configuration
import Cmput313.Network.FrameOrigins
import Cmput313.Router.Threads
import Cmput313.Router.BroadcastRate
