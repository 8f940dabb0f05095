import NXCast.Plist.RoundTrip
import NXCast.App.LeaseSafety
import NXCast.Mirror.AudioOrder
import NXCast.Media.OwnerBalance
import NXCast.Media.BridgeFifo
import NXCast.Security.SrpAgreement
import NXCast.App.TerminalRelease
import NXCast.Mirror.OpenAttempts
import NXCast.Mirror.RuntimeStops
import NXCast.App.ServiceTruth
import NXCast.Dlna.SessionArming
import NXCast.Dlna.EventSequence
import NXCast.Dlna.EventConvergence
import NXCast.Dlna.UriRoundTrip
import NXCast.Http.RequestFraming
import NXCast.App.MediaSessionHistory
import NXCast.Iptv.SavedFile
import NXCast.Iptv.Favorites
import NXCast.Iptv.EditsKept
import NXCast.Session.MirrorAgreement
import NXCast.Media.HlsReferences
import NXCast.Plist.NodeForest
import NXCast.Rtsp.ResponseEncoding
import NXCast.Player.ActorStartStop
import NXCast.Session.RemoteLease
import NXCast.Media.RemoteControls
import NXCast.App.MediaTakeover
import NXCast.Mirror.ClockBounds
import NXCast.Discovery.DnsBounds
import NXCast.Discovery.DnsQueries
import NXCast.Mirror.VideoBuffers
import NXCast.Security.PairingFile
import NXCast.Media.MasterFilter
import NXCast.Player.LibmpvSeeks
import NXCast.Player.LibmpvPublication
import NXCast.Player.LibmpvGate
import NXCast.Player.AirPlayAudioRuns
import NXCast.Security.PinDisplay
import NXCast.Player.SeekTarget
import NXCast.Http.ServerSockets
import NXCast.Iptv.SourceRoundTrip
import NXCast.Dlna.EventDelivery
import NXCast.Iptv.Recent
import NXCast.Iptv.XmltvTime
import NXCast.Iptv.Fetch
import NXCast.Iptv.UrlResolve
import NXCast.Player.Utf8Prefix
import NXCast.Iptv.AttrScan
import NXCast.Dlna.Ssdp
import NXCast.Dlna.SoapBuffer
