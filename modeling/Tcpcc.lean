import Tcpcc.Bridge.FailedStart
import Tcpcc.Hosted.EventRing
import Tcpcc.Hosted.Tasks
import Tcpcc.L3.Progress
import Tcpcc.L3.Teardown
import Tcpcc.Memory.Reclaim
import Tcpcc.Memory.TcpMem
import Tcpcc.Native.ChildExec
import Tcpcc.Native.Client
import Tcpcc.Native.ConfigEquivalence
import Tcpcc.Native.Endpoints
import Tcpcc.Native.Routes
import Tcpcc.Reference.Addresses
import Tcpcc.Reference.Codec
import Tcpcc.Reference.HostNetwork
import Tcpcc.Reference.Results
import Tcpcc.Reference.Tun
import Tcpcc.Runtime.FailedStart
import Tcpcc.Runtime.Fairness
