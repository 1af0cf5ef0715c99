import Adb.Mdns.ServiceInfo
import Adb.Mdns.DiscoveredServices
import Adb.Mdns.Registry
import Adb.Mdns.SharedRegistry
import Adb.Mdns.TransportMdns
import Adb.Mdns.EventRuns
import Adb.Mdns.Openscreen
import Adb.Mdns.InstanceName
import Adb.Mdns.Discovery
import Adb.Daemon.ListenAddrs
import Adb.Daemon.SocketServer
