import WebListener.Net.SocketAddress
import WebListener.Text.Quoted
-- Where a listener ended up: on a socket address or at a path.
namespace WebListener.Net

inductive BoundAddress where
  | tcp (address : SocketAddress)
  | unix (path : String)
deriving DecidableEq, Repr

namespace BoundAddress

def text : BoundAddress → String
  | .tcp address => address.text
  | .unix path => path

def described : BoundAddress → String
  | .tcp address => "Tcp(" ++ address.text ++ ")"
  | .unix path => "Unix(" ++ Text.quoted path ++ ")"

end BoundAddress

end WebListener.Net
