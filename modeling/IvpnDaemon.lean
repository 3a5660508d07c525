import IvpnDaemon.Net.IP
import IvpnDaemon.Net.Path
import IvpnDaemon.Net.RoundTrip
import IvpnDaemon.Vpn.State
import IvpnDaemon.Api.AlternateIPs
import IvpnDaemon.Api.Failover
import IvpnDaemon.Api.URL
import IvpnDaemon.Api.Interleaving
import IvpnDaemon.Api.Dialer
import IvpnDaemon.Api.Request
import IvpnDaemon.Api.Calls
import IvpnDaemon.WireGuard.State
import IvpnDaemon.WireGuard.Step
import IvpnDaemon.WireGuard.Frame
import IvpnDaemon.WireGuard.Disconnect
import IvpnDaemon.WireGuard.Channel
import IvpnDaemon.WireGuard.ManualDNS
import IvpnDaemon.WireGuard.PauseResume
import IvpnDaemon.WireGuard.Cleanup
import IvpnDaemon.WireGuard.ServiceManager
