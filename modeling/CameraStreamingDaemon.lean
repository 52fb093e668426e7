import CameraStreamingDaemon.StdMap
import CameraStreamingDaemon.CameraParameters
import CameraStreamingDaemon.Stream
import CameraStreamingDaemon.Mavlink
import CameraStreamingDaemon.Registry
import CameraStreamingDaemon.Server
import CameraStreamingDaemon.StreamRequest
import CameraStreamingDaemon.Params
import CameraStreamingDaemon.Dispatch
import CameraStreamingDaemon.Selection
import CameraStreamingDaemon.Framing
import CameraStreamingDaemon.Lifecycle
import CameraStreamingDaemon.Serve
import CameraStreamingDaemon.System
