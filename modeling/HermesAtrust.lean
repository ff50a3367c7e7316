import HermesAtrust.Framing.ByteOrder
import HermesAtrust.Framing.ExactReads
import HermesAtrust.Framing.StreamSplitter
import HermesAtrust.Collections.HashTable
import HermesAtrust.Protocol.L3Frame
import HermesAtrust.Protocol.L3FrameDecoding
import HermesAtrust.Protocol.L3Auth
import HermesAtrust.L3.Conntrack
import HermesAtrust.L3.ConntrackLaws
import HermesAtrust.L3.ConntrackRuns
import HermesAtrust.L3.ConntrackEvolution
import HermesAtrust.L3.Packet
import HermesAtrust.L3.FlowKeyText
import HermesAtrust.L3.FlowAuth
import HermesAtrust.L3.NextFrame
import HermesAtrust.Concurrency.Transitions
import HermesAtrust.L3.Session
import HermesAtrust.L3.SessionLaws
import HermesAtrust.L3.SessionInvariant
import HermesAtrust.L3.SessionTokens
import HermesAtrust.L3.SessionClosed
import HermesAtrust.L3.SessionInFlight
import HermesAtrust.L3.SessionWakeups
import HermesAtrust.L3.SessionRetries
import HermesAtrust.L3.SessionAddress
import HermesAtrust.Protocol.TcpFrame
import HermesAtrust.Tcp.Tunnel
import HermesAtrust.Tcp.TunnelDecoding
import HermesAtrust.Tcp.TunnelReading
import HermesAtrust.Tcp.TunnelWriting
import HermesAtrust.Tcp.TunnelFraming
import HermesAtrust.L3.GetIp
import HermesAtrust.L3.Manager
import HermesAtrust.L3.ManagerRetirement
import HermesAtrust.Tcp.TunnelPending
import HermesAtrust.Tcp.Handshake
import HermesAtrust.Tcp.TunnelLimits
import HermesAtrust.Tcp.TunnelMixedReading
import HermesAtrust.Search.LeastIndex
import HermesAtrust.Search.IntervalTree
import HermesAtrust.Search.Trie
import HermesAtrust.Text.Str
import HermesAtrust.L3.Ipv4Text
import HermesAtrust.Auth.Resource
import HermesAtrust.Auth.Routing
import HermesAtrust.Client.Dispatch
import HermesAtrust.Client.DispatchRuns
import HermesAtrust.Client.Handover
import HermesAtrust.Net.DnsWire
import HermesAtrust.Net.FakeIpPool
import HermesAtrust.Net.FakeIpPoolRuns
import HermesAtrust.Net.OriginalHost
import HermesAtrust.Net.DialerTasks
import HermesAtrust.Net.Resolver
import HermesAtrust.Net.ResolverRuns
import HermesAtrust.Text.Lines
import HermesAtrust.Proxy.Http
import HermesAtrust.Proxy.HttpForwarding
import HermesAtrust.L3.ManagerCache
import HermesAtrust.L3.CacheRetirement
import HermesAtrust.L3.CacheUsers
import HermesAtrust.Auth.ResourceCache
import HermesAtrust.Client.Replacement
import HermesAtrust.Client.ReplacementRuns
import HermesAtrust.L3.ManagerVip
import HermesAtrust.L3.ManagerEndpoints
import HermesAtrust.Client.Nodes
import HermesAtrust.L3.ConntrackPruning
import HermesAtrust.L3.SessionRetryCounts
import HermesAtrust.L3.ManagerSend
import HermesAtrust.L3.Heartbeat
import HermesAtrust.L3.PacketDelivery
import HermesAtrust.L3.SessionGauge
import HermesAtrust.L3.ManagerTurns
import HermesAtrust.L3.ManagerBackoff
import HermesAtrust.L3.SessionDomains
import HermesAtrust.Client.TunnelTarget
import HermesAtrust.Client.Reconciliation
import HermesAtrust.Client.AdvertisedNodes
import HermesAtrust.Auth.AddressForms
import HermesAtrust.Auth.NodeSelect
import HermesAtrust.Net.Udp
import HermesAtrust.Net.DnsQuestion
import HermesAtrust.Net.DnsLifetime
import HermesAtrust.Protocol.L3AuthRequest
import HermesAtrust.Transport.CookieExport
import HermesAtrust.Proxy.Socks
import HermesAtrust.Protocol.L3FrameAgreement
import HermesAtrust.Storage.Files
import HermesAtrust.Auth.SessionStore
import HermesAtrust.Auth.SessionStoreRuns
import HermesAtrust.Text.Hex
import HermesAtrust.Auth.StoredSession
import HermesAtrust.Framing.Conversation
import HermesAtrust.Net.Ipv6Text
import HermesAtrust.Proxy.SocksHandshake
import HermesAtrust.Proxy.SocksAssociate
import HermesAtrust.Auth.Cas
