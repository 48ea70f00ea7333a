import Tungstenite.Basic
import Tungstenite.Frame
import Tungstenite.Message
import Tungstenite.Protocol
import Tungstenite.Run
import Tungstenite.Closing
import Tungstenite.Fragments
import Tungstenite.Assembly
import Tungstenite.Link
import Tungstenite.Shutdown
import Tungstenite.Deflate.Header
import Tungstenite.Deflate.Codec
import Tungstenite.Deflate.Loop
import Tungstenite.Deflate.Extension
import Tungstenite.Deflate.Receive
import Tungstenite.Deflate.Negotiation
import Tungstenite.Deflate.Render
import Tungstenite.Deflate.Answer
import Tungstenite.Deflate.Agreement
import Tungstenite.Deflate.RoundTrip
