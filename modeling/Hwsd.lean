import Hwsd.Lib.Stream
import Hwsd.Lib.Store
import Hwsd.Lib.Greedy
import Hwsd.Lib.Sieve
import Hwsd.Lib.Settled
import Hwsd.Lib.Forest
import Hwsd.Lib.Collect
import Hwsd.Lib.Chain
import Hwsd.Lib.Probe
import Hwsd.Lib.Lines
import Hwsd.Lib.Publish
import Hwsd.Lib.Handles
import Hwsd.Info.Node
import Hwsd.Info.Gpu
import Hwsd.Info.Net
import Hwsd.DnsSd.Module
import Hwsd.DnsSd.Gpu
import Hwsd.DnsSd.Net
import Hwsd.Codec.Gpu
import Hwsd.Codec.Net
import Hwsd.TypeText
import Hwsd.Filter
import Hwsd.Functions
import Hwsd.Registry
import Hwsd.Duplicates
import Hwsd.FilterOrder
import Hwsd.Idempotent
import Hwsd.KeptFlags
import Hwsd.FilterName
import Hwsd.FilterObjects
import Hwsd.Mirror
import Hwsd.NoEcho
import Hwsd.Localhost
import Hwsd.Loopback
import Hwsd.Session
import Hwsd.Untrusted
import Hwsd.Reannounce
import Hwsd.Cluster
import Hwsd.Sys.Module
import Hwsd.Glx.Display
import Hwsd.Glx.Name
import Hwsd.Glx.VirtualGL
import Hwsd.Glx.Module
import Hwsd.Glx.Screens
import Hwsd.Wgl.Module
import Hwsd.Wgl.Functions
import Hwsd.Wgl.Listing
import Hwsd.Sys.Adapters
import Hwsd.Cgl.Module
import Hwsd.Info.Print
import Hwsd.DnsSd.Frame
import Hwsd.Apps.Daemon
import Hwsd.Apps.Browser
import Hwsd.Apps.Network
import Hwsd.Apps.Registration
import Hwsd.Apps.Machines
import Hwsd.Apps.Windows
import Hwsd.Apps.Apple
import Hwsd.Apps.Remote
import Hwsd.Apps.Listing
