import RemoteCall.Format
import RemoteCall.Http.Address
import RemoteCall.Http.Message
import RemoteCall.Registry.System

namespace RemoteCall

structure Http.ServerConfig where
  bindAddress : Http.Address := ⟨.v4 127 0 0 1, 8080⟩
  path : String := "/RPC2"
  maxBodySize : Nat := 1048576
  xml : Bool := true
  json : Bool := true
  introspection : Bool := true

/-- Why a server cannot be set up. -/
inductive Http.ServerError where
  | noFormat
  | registration (e : RegistrationError)

def Http.ServerError.message : Http.ServerError → String
  | .noFormat => "Configuration error: no wire format enabled"
  | .registration e => "Registration error: " ++ e.message

/-- The formats that are served, each under the configured path. -/
def Http.ServerConfig.endpoints (c : Http.ServerConfig) : List Endpoint :=
  (if c.xml then [⟨.xml, c.path⟩] else []) ++ (if c.json then [⟨.json, c.path⟩] else [])

structure Http.Server (σ : Type) where
  config : Http.ServerConfig
  registry : Registry σ
  installation : Installation

variable {σ : Type}

/-- Sets up a server for the methods of a registry, to which the system methods are added. -/
def Http.Server.build (c : Http.ServerConfig) (r : Registry σ) : Except Http.ServerError (Http.Server σ) :=
  if c.endpoints.isEmpty then .error .noFormat
  else match r.install c.introspection with
    | (_, .error problem) => .error (.registration problem)
    | (registry, .ok installation) => .ok ⟨c, registry, installation⟩

def Http.Response.plain (status : Nat) (body : String) : Http.Response :=
  { status, contentType := some "text/plain", body }

/-- The answer to a request. The method is checked first, then path and content type, then the
length of the body; only what passes all three is processed. -/
def Http.Server.respond (server : Http.Server σ) (request : Http.Request) (s : σ) : Http.Response × σ :=
  if request.method ≠ "POST" then
    ({ Http.Response.plain 405 "Method Not Allowed" with allow := some "POST" }, s)
  else match server.config.endpoints.find? fun e => e.accepts request.path request.contentTypeText with
    | none => (.plain 404 "Not Found", s)
    | some endpoint =>
      if server.config.maxBodySize < request.body.size then (.plain 413 "Payload Too Large", s)
      else match endpoint.format.process server.registry request.body s with
        | (none, s) => ({ status := 204 }, s)
        | (some body, s) =>
          ({ status := 200, contentType := some endpoint.format.contentType, body }, s)

/-- What of an answer is sent: an answer to `HEAD` has no body. -/
def Http.Response.sentTo (request : Http.Request) (response : Http.Response) : Http.Response :=
  if request.method = "HEAD" then { response with body := "" } else response

end RemoteCall
