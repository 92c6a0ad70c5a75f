import RemoteCall.Http.Client
import RemoteCall.Http.Server

namespace RemoteCall

/-- Whether requests get from a client to a server. -/
inductive Http.Network where
  | connected
  | unreachable

/-- What a client is told where there is no way to the server. -/
def Http.Network.unreachableMessage : String :=
  "Network is unreachable (os error 101)"

variable {σ : Type}

/-- Hands a request to a server. Without a network the server does not get to see it. -/
def Http.Network.deliver (network : Http.Network) (server : Http.Server σ) (request : Http.Request) (s : σ) :
    Except String Http.Response × σ :=
  match network with
  | .connected =>
    let (response, s) := server.respond request s
    (.ok (response.sentTo request), s)
  | .unreachable => (.error Http.Network.unreachableMessage, s)

/-- What a host sees of a post. -/
def Http.Post.request (post : Http.Post) : Http.Request where
  target := post.url.target
  contentType := some post.contentType
  body := post.body.toUTF8

/-- Sends a post to a server. Without a network no host is reached. -/
def Http.Network.send (network : Http.Network) (server : Http.Server σ) (post : Http.Post) (s : σ) :
    Option Http.Reply × σ :=
  match network.deliver server post.request s with
  | (.ok answer, s) => (some { status := answer.status, body := answer.body.toUTF8 }, s)
  | (.error _, s) => (none, s)

/-- A host that has its replies laid out in advance, with the requests that have come in so far,
latest first. -/
structure Http.Script where
  replies : List Http.Reply
  received : List Http.Post := []

/-- The next reply of the host, if there is a way to it and a reply left. -/
def Http.Network.exchange (network : Http.Network) (post : Http.Post) (host : Http.Script) :
    Option Http.Reply × Http.Script :=
  match network with
  | .unreachable => (none, host)
  | .connected =>
    let received := post :: host.received
    match host.replies with
    | [] => (none, { host with received })
    | reply :: replies => (some reply, { replies, received })

end RemoteCall
