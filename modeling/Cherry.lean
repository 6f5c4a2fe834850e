import Cherry.Effects
import Cherry.OF10
import Cherry.Openflow
import Cherry.Network
import Cherry.L2Switch.Switching
import Cherry.L2Switch.Route
import Cherry.L2Switch.Cleanup
import Cherry.Device.Pool
import Cherry.Device.Manager
import Cherry.Device.Handshake
import Cherry.Device.Registry
import Cherry.Device.Controller
