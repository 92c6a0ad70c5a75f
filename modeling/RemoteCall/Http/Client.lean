import RemoteCall.Format
import RemoteCall.Http.Url
import RemoteCall.Text.Quoted

namespace RemoteCall

structure Http.ClientConfig where
  format : Format := .xml
  /-- The time that a call may take, in milliseconds. -/
  timeout : Nat := 30000
  userAgent : String := "xsonrpc/0.1.0"
  maxRedirects : Nat := 20

/-- Why a call has no result. -/
inductive Http.ClientError where
  | invalidUrl (e : Http.UrlError)
  | connection
  | status (code : Nat)
  | invalidResponse (f : Fault)
  | fault (f : Fault)
  | notificationUnsupported (protocol : String)

def Http.ClientError.message : Http.ClientError → Option String
  | .invalidUrl e => some ("Invalid URL: " ++ e.message)
  | .connection => none
  | .status code => some s!"HTTP request failed with status {code}"
  | .invalidResponse f => some ("Invalid response: " ++ f.message)
  | .fault f => some (String.ofList ("Fault ".toList ++ Digits.ofInt f.code.toInt) ++ ": " ++ f.message)
  | .notificationUnsupported protocol => some (protocol ++ " does not support notifications")

/-- A client of one endpoint, with the id that its next call gets. -/
structure Http.Client where
  config : Http.ClientConfig
  endpoint : Http.Url
  nextId : Int32 := 1

/-- What can stand in a header. -/
def Http.isHeaderText (s : String) : Bool :=
  s.toList.all fun c => c == '\t' || (0x20 ≤ c.toNat && c.toNat != 0x7f)

def Http.Client.of (text : String) (config : Http.ClientConfig) : Except Http.ClientError Http.Client :=
  match Http.Url.ofText text.toList with
  | .error e => .error (.invalidUrl e)
  | .ok endpoint =>
    if Http.isHeaderText config.userAgent then .ok { config, endpoint } else .error .connection

/-- A time for people, in whole seconds and the rest behind a point. -/
def Http.timeText (milliseconds : Nat) : List Char :=
  let whole := Digits.ofNat (milliseconds / 1000)
  let rest := ((Digits.padded 3 (milliseconds % 1000)).reverse.dropWhile (· == '0')).reverse
  if milliseconds < 1000 then Digits.ofNat milliseconds ++ "ms".toList
  else if rest.isEmpty then whole ++ ['s']
  else whole ++ '.' :: rest ++ ['s']

def Http.Client.display (c : Http.Client) : String :=
  let format := match c.config.format with
    | .xml => "Xml"
    | .json => "Json"
  "Client \x7b endpoint: " ++ quoted c.endpoint.text ++ ", config: ClientConfig \x7b format: " ++ format ++
    ", timeout: " ++ String.ofList (Http.timeText c.config.timeout) ++ ", user_agent: " ++
    quoted c.config.userAgent ++ ", max_redirects: " ++ String.ofList (Digits.ofNat c.config.maxRedirects) ++
    " \x7d, .. \x7d"

/-- A request of a client; the method is always `POST`. -/
structure Http.Post where
  url : Http.Url
  contentType : String
  userAgent : String
  body : String

/-- What a host sends back. -/
structure Http.Reply where
  status : Nat
  body : ByteArray := ByteArray.empty
  location : Option String := none

variable {τ : Type}

/-- Sends a request by way of `send`, which gives nothing if no host can be reached. Redirections
that keep the method are followed as often as allowed; one more breaks the connection. -/
def Http.Post.send (send : Http.Post → τ → Option Http.Reply × τ) :
    Nat → Http.Post → τ → Except Http.ClientError Http.Reply × τ
  | redirects, post, t =>
    match send post t with
    | (none, t) => (.error .connection, t)
    | (some reply, t) =>
      match reply.location with
      | none => (.ok reply, t)
      | some location =>
        if reply.status ≠ 307 ∧ reply.status ≠ 308 then (.ok reply, t)
        else match redirects, post.url.follow location.toList with
          | redirects + 1, .ok url => Http.Post.send send redirects { post with url } t
          | _, _ => (.error .connection, t)

/-- Sends a call or a notification to the endpoint. -/
def Http.Client.post (c : Http.Client) (send : Http.Post → τ → Option Http.Reply × τ)
    (request : RemoteCall.Request) (t : τ) : Except Http.ClientError Http.Reply × τ :=
  Http.Post.send send c.config.maxRedirects
    { url := c.endpoint
      contentType := c.config.format.contentType
      userAgent := c.config.userAgent
      body := c.config.format.writeRequest request } t

/-- The result of a call by what came back for it. -/
def Http.resultOf (format : Format) (reply : Http.Reply) : Except Http.ClientError Value :=
  if reply.status ≠ 200 then .error (.status reply.status)
  else match (Document.read format reply.body).bind Document.response with
    | .error f => .error (.invalidResponse f)
    | .ok response => response.result.mapError .fault

/-- Calls a method. Where calls have ids, each gets the next, whatever comes of it. -/
def Http.Client.call (c : Http.Client) (send : Http.Post → τ → Option Http.Reply × τ)
    (method : String) (params : List Value) (t : τ) : Except Http.ClientError Value × Http.Client × τ :=
  let (id, next) := if c.config.format.usesId then
      (Value.int32 c.nextId, { c with nextId := c.nextId + 1 }) else (Value.nil, c)
  let (reply, t) := c.post send { method, params, id } t
  (reply.bind (Http.resultOf c.config.format), next, t)

/-- Sends a call that wants no answer. -/
def Http.Client.notify (c : Http.Client) (send : Http.Post → τ → Option Http.Reply × τ)
    (method : String) (params : List Value) (t : τ) : Except Http.ClientError Unit × τ :=
  if !c.config.format.usesId then (.error (.notificationUnsupported c.config.format.protocol), t)
  else
    let (reply, t) := c.post send { method, params } t
    (reply.bind fun reply =>
      if 200 ≤ reply.status ∧ reply.status ≤ 299 then .ok () else .error (.status reply.status), t)

end RemoteCall
