import MeetingSystem.Framework.Run
import MeetingSystem.Framework.Least
import MeetingSystem.Framework.Mailbox
import MeetingSystem.Framework.Assoc
import MeetingSystem.Impl.Store.MemoryStore
import MeetingSystem.Proof.Store.Invariant
import MeetingSystem.Proof.Store.JoinSequence
import MeetingSystem.Impl.Client.H264RtpPayload
import MeetingSystem.Proof.Client.LossSafety
import MeetingSystem.Impl.Signaling.Presence
import MeetingSystem.Proof.Signaling.SingleLogin
import MeetingSystem.Impl.Signaling.Server
import MeetingSystem.Proof.Signaling.Membership.Runs
import MeetingSystem.Framework.Emit
import MeetingSystem.Framework.Text
import MeetingSystem.Impl.Sfu.Endpoint
import MeetingSystem.Impl.Sfu.Rtcp
import MeetingSystem.Impl.Sfu.Dtls
import MeetingSystem.Impl.Sfu.Room
import MeetingSystem.Impl.Sfu.Transport
import MeetingSystem.Impl.Sfu.MediaIngress
import MeetingSystem.Impl.Sfu.Packets
import MeetingSystem.Impl.Sfu.Operations
import MeetingSystem.Framework.ReverseIndex
import MeetingSystem.Proof.Sfu.RouteTables
import MeetingSystem.Proof.Sfu.RouteSteps
import MeetingSystem.Proof.Sfu.RouteAgreement
import MeetingSystem.Proof.Sfu.Feedback
import MeetingSystem.Proof.Sfu.Protection
import MeetingSystem.Proof.Sfu.Gate
import MeetingSystem.Impl.Client.DtlsTransportClient
import MeetingSystem.Proof.Sfu.Fingerprint
import MeetingSystem.Framework.Serial
import MeetingSystem.Impl.Client.JitterBuffer
import MeetingSystem.Proof.Client.JitterOrder
import MeetingSystem.Impl.Client.VideoReceive
import MeetingSystem.Proof.Client.Repair
import MeetingSystem.Framework.BigEndian
import MeetingSystem.Impl.Client.RTPSender
import MeetingSystem.Impl.Client.RTCPHandler
import MeetingSystem.Proof.Media.RtpCodec
import MeetingSystem.Proof.Media.RtcpCodec
import MeetingSystem.Proof.Media.RtcpReports
import MeetingSystem.Proof.Sfu.NackFifo
import MeetingSystem.Proof.Sfu.Retransmission
import MeetingSystem.Proof.Signaling.SessionIndex
import MeetingSystem.Framework.Base64
import MeetingSystem.Framework.Decimal
import MeetingSystem.Framework.Json
import MeetingSystem.Impl.Signaling.Token
import MeetingSystem.Impl.Signaling.Login
import MeetingSystem.Proof.Signaling.Tokens
import MeetingSystem.Proof.Signaling.LoginSound
import MeetingSystem.Impl.Signaling.Chat
import MeetingSystem.Proof.Signaling.ChatHistory
import MeetingSystem.Impl.Store.MeetingLifecycle
import MeetingSystem.Framework.Roster
import MeetingSystem.Spec.Meetings
import MeetingSystem.Proof.Store.Replies
import MeetingSystem.Proof.Store.MemoryRefines
import MeetingSystem.Proof.Store.Tables
import MeetingSystem.Proof.Store.RepoRefines
import MeetingSystem.Proof.Store.StoresAgree
import MeetingSystem.Framework.Interleave
import MeetingSystem.Impl.Store.MeetingStatements
import MeetingSystem.Proof.Store.Statements
import MeetingSystem.Proof.Store.ConcurrentMembership
import MeetingSystem.Impl.Store.RoomStore
import MeetingSystem.Proof.Store.LoadAccounting
import MeetingSystem.Impl.Signaling.MeetingCreate
import MeetingSystem.Impl.Signaling.MeetingNode
import MeetingSystem.Proof.Signaling.CreateAtomic
import MeetingSystem.Impl.Signaling.Failover
import MeetingSystem.Proof.Signaling.FailoverRooms
import MeetingSystem.Proof.Sfu.SetupAtomic
import MeetingSystem.Proof.Sfu.LiveSources
import MeetingSystem.Framework.RouteGroups
import MeetingSystem.Proof.Sfu.RouteRefresh
import MeetingSystem.Impl.Client.ScreenCapture
import MeetingSystem.Proof.Client.VideoTimestamps
import MeetingSystem.Impl.Client.VideoEncoder
import MeetingSystem.Impl.Client.VideoSendLoop
import MeetingSystem.Proof.Client.KeyFrameRequest
import MeetingSystem.Framework.Framing
import MeetingSystem.Impl.Client.SignalingClient
import MeetingSystem.Proof.Client.SignalStream
import MeetingSystem.Impl.Sfu.RpcProtocol
import MeetingSystem.Proof.Signaling.RpcFrames
import MeetingSystem.Proof.Client.BweRecovery
import MeetingSystem.Impl.Client.VideoRtcpActionPipeline
import MeetingSystem.Proof.Media.NackRoundTrip
import MeetingSystem.Framework.Checked
import MeetingSystem.Impl.Client.StunClient
import MeetingSystem.Impl.Sfu.StunReads
import MeetingSystem.Proof.Media.Stun
import MeetingSystem.Impl.Client.RoundTripTime
import MeetingSystem.Proof.Media.RoundTrip
import MeetingSystem.Proof.Client.AvccConversion
import MeetingSystem.Proof.Signaling.NodeRanking
import MeetingSystem.Impl.Store.RoomMembers
import MeetingSystem.Proof.Store.RoomMembers
import MeetingSystem.Impl.Signaling.RecoveryLock
import MeetingSystem.Proof.Signaling.RecoveryLock
import MeetingSystem.Proof.Store.Rejoin
import MeetingSystem.Impl.Signaling.NodeStatusMonitor
import MeetingSystem.Proof.Signaling.NodeRegistration
import MeetingSystem.Proof.Media.RembBitrate
import MeetingSystem.Impl.Client.ListModels
import MeetingSystem.Impl.Client.MeetingController
import MeetingSystem.Proof.Client.ParticipantList
import MeetingSystem.Impl.Client.PendingNacks
import MeetingSystem.Proof.Client.ChatMessages
import MeetingSystem.Proof.Client.PendingNacks
import MeetingSystem.Proof.Sfu.FeedbackTables
import MeetingSystem.Proof.Sfu.PliThrottle
import MeetingSystem.Proof.Sfu.RembAggregation
import MeetingSystem.Proof.Client.JitterSettings
import MeetingSystem.Impl.Client.TurnClient
import MeetingSystem.Proof.Media.Turn
import MeetingSystem.Impl.Signaling.Snowflake
import MeetingSystem.Impl.Client.VideoRecvPipeline
import MeetingSystem.Proof.Signaling.SnowflakeIds
import MeetingSystem.Proof.Client.StreamTable
import MeetingSystem.Proof.Client.PeerPipeline
import MeetingSystem.Impl.Client.CameraFrameRelay
import MeetingSystem.Proof.Client.CameraFrames
import MeetingSystem.Framework.FixedWindow
import MeetingSystem.Impl.Signaling.RateLimiter
import MeetingSystem.Proof.Signaling.LoginAttempts
import MeetingSystem.Proof.Store.PasswordHash
import MeetingSystem.Impl.Signaling.EventBus
import MeetingSystem.Proof.Signaling.EventBus
import MeetingSystem.Impl.Signaling.SessionConn
import MeetingSystem.Proof.Signaling.SessionConn
import MeetingSystem.Impl.Client.VideoRtcpFeedback
import MeetingSystem.Proof.Client.SenderFeedback
import MeetingSystem.Framework.CondVar
import MeetingSystem.Impl.Client.RingBuffer
import MeetingSystem.Proof.Client.FrameQueues
import MeetingSystem.Proof.Client.MeetingView
import MeetingSystem.Proof.Client.Conference
import MeetingSystem.Proof.Client.ConferenceRun
