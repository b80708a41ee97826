import PeerConnection.Core.Text
import PeerConnection.Core.Scan
import PeerConnection.Core.Runs
import PeerConnection.Core.RunHistory
import PeerConnection.Core.Buffers
import PeerConnection.Sdp.Description
import PeerConnection.Sdp.Print
import PeerConnection.Sdp.Parse
import PeerConnection.Sdp.Sections
import PeerConnection.Sdp.Accepted
import PeerConnection.Core.Tokens
import PeerConnection.Sdp.Candidates
import PeerConnection.Sdp.PrintedLines
import PeerConnection.Sdp.PrintedValues
import PeerConnection.Sdp.PrintedSections
import PeerConnection.Sdp.Rfc4572
import PeerConnection.Transport.Collection
import PeerConnection.Transport.Controller
import PeerConnection.Transport.Network
import PeerConnection.Transport.SideMaps
import PeerConnection.Transport.DescriptionOrder
import PeerConnection.Connection.Offer
import PeerConnection.Connection.Methods
import PeerConnection.Connection.Reachable
import PeerConnection.Connection.RemoteSdp
import PeerConnection.Connection.MediaSections
import PeerConnection.Connection.Negotiation
import PeerConnection.Connection.Naming
import PeerConnection.Connection.PendingTasks
import PeerConnection.Connection.SentPackets
import PeerConnection.Connection.SendControllers
import PeerConnection.Connection.RoundTrip
import PeerConnection.Connection.LineEndings
import PeerConnection.Connection.MalformedAttributes
import PeerConnection.Connection.StartUp
import PeerConnection.Connection.ContextOwnership
import PeerConnection.Connection.TearDown
import PeerConnection.Core.Counters
import PeerConnection.Media.Packets
import PeerConnection.Media.PacketNumbers
import PeerConnection.Connection.AnnouncedMedia
import PeerConnection.Transport.IceOrder
import PeerConnection.Srtp.Session
import PeerConnection.Srtp.RtpTransport
import PeerConnection.Srtp.SrtpTransport
import PeerConnection.Srtp.Sdes
import PeerConnection.Srtp.DtlsSrtpTransport
import PeerConnection.Srtp.KeyExtraction
import PeerConnection.Srtp.DtlsEvents
import PeerConnection.Srtp.KeyProvenance
import PeerConnection.Srtp.ExtensionIds
import PeerConnection.Srtp.Bindings
import PeerConnection.Srtp.RtcpKeys
import PeerConnection.Srtp.Writability
import PeerConnection.Srtp.DtlsWritability
import PeerConnection.Jsep.RtcpMuxFilter
import PeerConnection.Jsep.JsepTransport
import PeerConnection.Jsep.AcceptedDescriptions
import PeerConnection.Jsep.OfferAnswer
import PeerConnection.Core.Ring
import PeerConnection.Engine.UnhandledPacketsBuffer
import PeerConnection.Engine.StashedPackets
import PeerConnection.Engine.StashOrder
import PeerConnection.Transport.CollectionCalls
import PeerConnection.Transport.CollectionOwnership
import PeerConnection.Transport.CollectionEvents
import PeerConnection.Transport.CollectionRollback
import PeerConnection.Transport.CollectionSubscribers
import PeerConnection.Core.MemberIndex
import PeerConnection.Transport.BundleManager
import PeerConnection.Transport.BundleGroups
import PeerConnection.Transport.BundleRollback
import PeerConnection.Srtp.PacketProtection
import PeerConnection.Srtp.PacketReceiving
import PeerConnection.Srtp.PeerKeys
import PeerConnection.Srtp.RtcpBinding
import PeerConnection.Jsep.DescriptionCalls
import PeerConnection.Jsep.JsepEvents
import PeerConnection.Jsep.MuxActivation
import PeerConnection.Jsep.DrivenEvents
import PeerConnection.Jsep.PacketLink
import PeerConnection.Jsep.ReadyToSend
import PeerConnection.Jsep.PacketSending
import PeerConnection.Jsep.Atomicity
import PeerConnection.Core.Prefixes
import PeerConnection.Engine.VideoCodecs
import PeerConnection.Engine.MappedCodecs
import PeerConnection.Engine.PayloadTypes
import PeerConnection.Engine.GeneratedCodecs
import PeerConnection.Core.MapValues
import PeerConnection.Engine.RtpExtensions
import PeerConnection.Engine.VideoSendStream
import PeerConnection.Engine.VideoChannel
import PeerConnection.Engine.SendStreamSteps
import PeerConnection.Engine.RtxConfiguration
import PeerConnection.Engine.ChannelSteps
import PeerConnection.Engine.SendStreamBookkeeping
import PeerConnection.Engine.StreamValidation
import PeerConnection.Engine.SettledChannels
import PeerConnection.Engine.NegotiatedCodecs
import PeerConnection.Engine.ReceiveParameters
import PeerConnection.Engine.OfferedCapabilities
import PeerConnection.Engine.SendSettings
import PeerConnection.Engine.SendHistory
import PeerConnection.Core.Sorting
import PeerConnection.Core.OrderedMatching
import PeerConnection.Engine.CodecSelection
import PeerConnection.Engine.FilteredExtensions
import PeerConnection.Engine.SubstreamStats
import PeerConnection.Engine.RtpSendParameters
import PeerConnection.Engine.RtpParameterErrors
import PeerConnection.Engine.RtpParameterRoundTrip
import PeerConnection.Engine.SendingCalls
import PeerConnection.Engine.NullStream
import PeerConnection.Core.Loops
import PeerConnection.Engine.Simulcast
import PeerConnection.Engine.EncoderStreams
import PeerConnection.Engine.SimulcastLayers
import PeerConnection.Engine.LayerLimits
import PeerConnection.Engine.LayerBitrates
import PeerConnection.Engine.LayerSizes
import PeerConnection.Core.CheckedInts
import PeerConnection.Engine.BitrateArithmetic
import PeerConnection.Engine.BitrateRange
import PeerConnection.Srtp.Undisturbed
import PeerConnection.Srtp.Readiness
import PeerConnection.Jsep.RepeatedAnswers
import PeerConnection.Core.Blocks
import PeerConnection.Sdp.PrintedSemantics
import PeerConnection.Connection.PrintedOffers
import PeerConnection.Core.AlignedLists
import PeerConnection.Engine.RtpConfig
import PeerConnection.Transport.SctpTransport
import PeerConnection.Transport.SctpEvents
import PeerConnection.Transport.DtlsTransport
import PeerConnection.Jsep.MuxHistory
import PeerConnection.Srtp.RtcpRetries
import PeerConnection.Srtp.LibsrtpUsage
import PeerConnection.Srtp.LibsrtpCounting
import PeerConnection.Jsep.RemoteCandidates
import PeerConnection.Jsep.IceRestarts
import PeerConnection.Transport.BundleDeletion
