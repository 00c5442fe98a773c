import Freenect.Actionscript.Session
import Freenect.Audio.Deframing
import Freenect.Audio.Sequencer
import Freenect.Camera.Alignment
import Freenect.Camera.Delivery
import Freenect.Camera.Frames
import Freenect.Camera.Reassembly
import Freenect.Control.ByteOrder
import Freenect.Control.Exchange
import Freenect.Control.Exposure
import Freenect.Control.Setters
import Freenect.Control.TiltUpdate
import Freenect.Device.PacketSafety
import Freenect.Device.Close
import Freenect.Device.Registered
import Freenect.Device.Selection
import Freenect.Device.Serial
import Freenect.Fakenect.Ffmpeg
import Freenect.Fakenect.JsonUtf8
import Freenect.Fakenect.LiveSession
import Freenect.Fakenect.YuvRoundTrip
import Freenect.Firmware.Acceptance
import Freenect.OpenNI.DepthFrame
import Freenect.OpenNI.SetVideoMode
import Freenect.Registration.Accumulators
import Freenect.Registration.Columns
import Freenect.Registration.Hidden
import Freenect.Registration.MetricRange
import Freenect.Sync.Clients
import Freenect.Sync.Setup
import Freenect.Sync.Starvation
import Freenect.Sync.TripleBuffer
import Freenect.Usb.Siblings
import Freenect.Usb.SubdeviceResult
