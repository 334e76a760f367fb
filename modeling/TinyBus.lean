import TinyBus.Subscribers
import TinyBus.Controller
import TinyBus.ReplyRouting
import TinyBus.CallDelivery
import TinyBus.AnnouncementOrder
import TinyBus.StreamEviction
import TinyBus.StreamVerdict
import TinyBus.PrivateBodies
import TinyBus.PendingSlots
import TinyBus.ClosingLink
import TinyBus.CallbackRollback
import TinyBus.ModuleNames
import TinyBus.ProxyHandovers
import TinyBus.CacheHits
import TinyBus.AdmissionOrder
import TinyBus.LeaseStops
import TinyBus.HostObjectNames
import TinyBus.BoundPeers
import TinyBus.MatchRuleWire
import TinyBus.StreamChunks
import TinyBus.TerminalRegistry
import TinyBus.CallbackQuiet
import TinyBus.TransportHealth
import TinyBus.VersionCheck
import TinyBus.VersionText
import TinyBus.Redaction
import TinyBus.ErrorCrossing
import TinyBus.ObjectLookup
import TinyBus.LoadReasons
import TinyBus.ZipExtraction
import TinyBus.OptionalFields
import TinyBus.OversizedCalls
import TinyBus.ClosedAdmission
import TinyBus.TerminalCompletion
import TinyBus.ZipPathSafety
import TinyBus.ServiceSlot
import TinyBus.DeferredConfig
import TinyBus.EarlyDelivery
import TinyBus.ConfigFingerprint
import TinyBus.DirectoryTrust
import TinyBus.PathNamespaces
import TinyBus.ServedDigests
import TinyBus.CachePruning
import TinyBus.StrictDeflate
import TinyBus.SdkLifecycle
import TinyBus.EventSubscribers
import TinyBus.InterfaceMacro
