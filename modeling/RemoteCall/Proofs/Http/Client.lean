import RemoteCall.Http.Network
import RemoteCall.Proofs.Answer
import RemoteCall.Proofs.Http.Server
import RemoteCall.Proofs.Http.Url

namespace RemoteCall

variable {σ τ : Type} {c : Http.Client} {server : Http.Server σ}

/-- What a call leaves of its client: the next call has the next id, where calls have ids. -/
def Http.Client.called (c : Http.Client) : Http.Client :=
  if c.config.format.usesId then { c with nextId := c.nextId + 1 } else c

/-- What a client sends first for a request. -/
def Http.Client.posted (c : Http.Client) (request : RemoteCall.Request) : Http.Post where
  url := c.endpoint
  contentType := c.config.format.contentType
  userAgent := c.config.userAgent
  body := c.config.format.writeRequest request

theorem Http.Client.normal_of {text : String} {config : Http.ClientConfig} (set : Http.Client.of text config = .ok c) :
    c.config = config ∧ c.nextId = 1 ∧ c.endpoint.Normal := by
  rw [Http.Client.of] at set
  split at set
  · cases set
  next read =>
    split at set
    · cases set
      exact ⟨rfl, rfl, .of_ofText read⟩
    · cases set

theorem Http.Client.call_eq (c : Http.Client) (send : Http.Post → τ → Option Http.Reply × τ) (method : String)
    (params : List Value) (t : τ) :
    c.call send method params t =
      ((c.post send ⟨method, params, c.config.format.callId c.nextId⟩ t).1.bind (Http.resultOf c.config.format),
        c.called, (c.post send ⟨method, params, c.config.format.callId c.nextId⟩ t).2) := by
  rw [Http.Client.call, Http.Client.called, Format.callId]
  cases c.config.format.usesId <;> rfl

/-- Step: a post is the last one, or it is sent again to where its reply redirects it, as often as that is allowed. -/
theorem Http.Post.send_step (send : Http.Post → τ → Option Http.Reply × τ) (redirects : Nat) (post : Http.Post)
    (t : τ) :
    (∃ result, Http.Post.send send redirects post t = (result, (send post t).2)) ∨
      ∃ left location url, redirects = left + 1 ∧ post.url.follow location = .ok url ∧
        Http.Post.send send redirects post t = Http.Post.send send left { post with url } (send post t).2 := by
  rw [Http.Post.send]
  split
  next same => exact Or.inl ⟨_, by rw [same]⟩
  next same =>
    rw [same]
    split
    · exact Or.inl ⟨_, rfl⟩
    · split
      · exact Or.inl ⟨_, rfl⟩
      · split
        next led => exact Or.inr ⟨_, _, _, rfl, led, rfl⟩
        · exact Or.inl ⟨_, rfl⟩

/-- Run: what every post to a location that can be read keeps, a request keeps with all its redirections, which change
nothing but the location. -/
theorem Http.Post.send_keeps {send : Http.Post → τ → Option Http.Reply × τ} (kept : τ → Prop) {post : Http.Post}
    (step : ∀ (url : Http.Url) (t : τ), url.Normal → kept t → kept (send { post with url } t).2)
    (normal : post.url.Normal) {redirects : Nat} {t : τ} (before : kept t) :
    kept (Http.Post.send send redirects post t).2 := by
  induction redirects generalizing post t with
  | zero =>
    obtain ⟨result, last⟩ | ⟨left, location, url, count, _⟩ := Http.Post.send_step send 0 post t
    · rw [last]
      exact step post.url t normal before
    · cases count
  | succ redirects ih =>
    have after := step post.url t normal before
    obtain ⟨result, last⟩ | ⟨left, location, url, count, led, again⟩ :=
      Http.Post.send_step send (redirects + 1) post t
    · rw [last]
      exact after
    · cases count
      have redirected : ({ post with url } : Http.Post).url.Normal := .of_follow led
      rw [again]
      exact @ih { post with url } step redirected _ after

/-- Whatever a host replies, all that a call sends to it is the one request, to locations that can be read. -/
theorem Http.Client.received_call (network : Http.Network) (normal : c.endpoint.Normal) (method : String)
    (params : List Value) (host : Http.Script) :
    ∀ post ∈ (c.call network.exchange method params host).2.2.received, post ∈ host.received ∨
      ∃ url : Http.Url, url.Normal ∧
        post = { c.posted ⟨method, params, c.config.format.callId c.nextId⟩ with url } := by
  rw [Http.Client.call_eq]
  refine Http.Post.send_keeps
    (fun t : Http.Script => ∀ post ∈ t.received, post ∈ host.received ∨ ∃ url : Http.Url, url.Normal ∧
      post = { c.posted ⟨method, params, c.config.format.callId c.nextId⟩ with url })
    (fun url t location kept post member => ?_) normal fun post old => Or.inl old
  have received : post ∈ t.received ∨
      post = { c.posted ⟨method, params, c.config.format.callId c.nextId⟩ with url } := by
    simp only [Http.Network.exchange] at member
    split at member
    · exact Or.inl member
    · split at member
      all_goals exact (List.mem_cons.mp member).symm
  rcases received with old | rfl
  · exact kept post old
  · exact Or.inr ⟨url, location, rfl⟩

/-- A server sends no reply that redirects. -/
theorem Http.Post.send_connected (server : Http.Server σ) (redirects : Nat) (post : Http.Post) (s : σ) :
    Http.Post.send (Http.Network.connected.send server) redirects post s =
      (.ok { status := (server.respond post.request s).1.status
             body := (server.respond post.request s).1.body.toUTF8 }, (server.respond post.request s).2) := by
  cases redirects <;> rfl

theorem Http.Client.post_connected (c : Http.Client) (server : Http.Server σ) (request : RemoteCall.Request) (s : σ) :
    c.post (Http.Network.connected.send server) request s =
      (.ok { status := (server.respond (c.posted request).request s).1.status
             body := (server.respond (c.posted request).request s).1.body.toUTF8 },
        (server.respond (c.posted request).request s).2) :=
  Http.Post.send_connected server _ (c.posted request) s

/-- Without a network a call ends with its client, and no method runs. -/
theorem Http.Client.call_unreachable (c : Http.Client) (server : Http.Server σ) (method : String) (params : List Value)
    (s : σ) :
    c.call (Http.Network.unreachable.send server) method params s = (.error .connection, c.called, s) := by
  have lost (request : RemoteCall.Request) :
      c.post (Http.Network.unreachable.send server) request s = (.error .connection, s) := by
    rw [Http.Client.post]
    cases c.config.maxRedirects <;> rfl
  rw [Http.Client.call_eq, lost]
  rfl

/-- What a server refuses is told to the client by its status, and no method runs. -/
theorem Http.Client.call_refused {answer : Http.Response} {s s' : σ} {method : String} {params : List Value}
    (responds : server.respond (c.posted ⟨method, params, c.config.format.callId c.nextId⟩).request s = (answer, s'))
    (refuses : answer.Refuses) : c.call (Http.Network.connected.send server) method params s =
      (.error (.status answer.status), c.called, s) := by
  have refused := (Http.Server.respond_eq_iff.mp responds).of_refuses refuses server.registry s
  have status : answer.status ≠ 200 := by
    obtain same | same | same := refuses <;> rw [same] <;> decide
  rw [Http.Client.call_eq, Http.Client.post_connected, refused.respond]
  exact Prod.ext (if_pos status) rfl

/-- A client whose calls are for a server: its location is the path of the server, which has its format enabled. -/
structure Http.Client.MeantFor (c : Http.Client) (config : Http.ServerConfig) : Prop where
  location : c.endpoint.Normal
  path : c.endpoint.path = config.path
  enabled : config.enables c.config.format = true

theorem Http.Client.MeantFor.called {config : Http.ServerConfig} (meant : c.MeantFor config) :
    c.called.MeantFor config := by
  rw [Http.Client.called]
  split
  · exact ⟨meant.location, meant.path, meant.enabled⟩
  · exact meant

theorem Http.Client.MeantFor.serves {config : Http.ServerConfig} (meant : c.MeantFor config)
    (request : RemoteCall.Request) : config.Serves c.config.format (c.posted request).request := by
  refine ⟨meant.enabled, ?_, _, Http.Request.names_iff.mpr rfl, ?_⟩
  · rw [Http.Request.path, Http.Post.request, Http.Client.posted, meant.location.pathOf_target, String.ofList_toList,
      meant.path]
  · have sent : (c.posted request).request.contentType = some c.config.format.contentType := rfl
    rw [Http.Request.contentTypeText, sent]
    cases c.config.format <;> decide

/-- A call where the registry is, on the parameters as a format carries them, and its result as the format carries that,
a fault as it is. -/
def Format.onSpot (format : Format) (r : Registry σ) (number : Int32) (call : Call) (s : σ) : Except Fault Value × σ :=
  let (answer, s) := r.invoke call.method (call.params.map format.carried) (format.callId number) s
  (answer.result.map format.carried, s)

/-- Calls on the spot, one after the other, numbered upwards where calls have ids. -/
def Format.onSpotAll (format : Format) (r : Registry σ) : Int32 → List Call → σ → List (Except Fault Value) × σ
  | _, [], s => ([], s)
  | number, call :: rest, s =>
    let (result, s) := format.onSpot r number call s
    let (results, s) := format.onSpotAll r (if format.usesId then number + 1 else number) rest s
    (result :: results, s)

/-- Calls of a client, one after the other. -/
def Http.Client.callAll (send : Http.Post → τ → Option Http.Reply × τ) :
    List Call → Http.Client → τ → List (Except Http.ClientError Value) × Http.Client × τ
  | [], c, t => ([], c, t)
  | call :: rest, c, t =>
    let (result, c, t) := c.call send call.method call.params t
    let (results, c, t) := Http.Client.callAll send rest c t
    (result :: results, c, t)

/-- A call that gets from a client to a server, and its result back, in whatever state it finds the server. -/
structure Http.Server.Carries (server : Http.Server σ) (format : Format) (number : Int32) (call : Call) : Prop where
  sent : format.CarriesRequest ⟨call.method, call.params, format.callId number⟩
  fits : (format.writeRequest ⟨call.method, call.params, format.callId number⟩).toUTF8.size ≤ server.config.maxBodySize
  answered : ∀ s v,
    (server.registry.invoke call.method (call.params.map format.carried) (format.callId number) s).1.result = .ok v →
    format.CarriesResponse ⟨.ok v, format.callId number⟩

theorem Http.Server.Carries.response {format : Format} {number : Int32} {call : Call}
    (carries : server.Carries format number call) (s : σ) : format.CarriesResponse
      (server.registry.invoke call.method (call.params.map format.carried) (format.callId number) s).1 := by
  have id := server.registry.id_invoke call.method (call.params.map format.carried) (format.callId number) s
  generalize invoked :
    server.registry.invoke call.method (call.params.map format.carried) (format.callId number) s = out at id
  obtain ⟨⟨result, _⟩, s'⟩ := out
  cases id
  cases result with
  | ok v => exact carries.answered s v (by rw [invoked])
  | error f => exact format.carriesResponse_fault f number

/-- What comes back for an answer that the format can carry. -/
theorem Http.resultOf_answer {format : Format} {result : Except Fault Value} {number : Int32}
    (carries : format.CarriesResponse ⟨result, format.callId number⟩) :
    Http.resultOf format { status := 200, body := (format.writeResponse ⟨result, format.callId number⟩).toUTF8 } =
      (result.map format.carried).mapError .fault := by
  rw [Http.resultOf, if_neg (not_not_intro rfl), Format.read_writeResponse carries]

section

variable {call : Call} {s : σ} (meant : c.MeantFor server.config)

include meant

/-- Step: a call of a client is a call on the spot. The method is run once, and the answer is told as it is. -/
theorem Http.Client.call_connected (carries : server.Carries c.config.format c.nextId call) :
    c.call (Http.Network.connected.send server) call.method call.params s =
      ((c.config.format.onSpot server.registry c.nextId call s).1.mapError .fault, c.called,
        (c.config.format.onSpot server.registry c.nextId call s).2) := by
  have wanted : (c.config.format.usesId && (c.config.format.callId c.nextId).isNil) = false := by
    cases c.config.format <;> rfl
  have processed := Format.process_of_read (r := server.registry) (s := s) (Format.read_writeRequest carries.sent)
    wanted
  have responds := (Http.ServerConfig.Answers.answered rfl (meant.serves _) carries.fits processed).respond
  rw [Http.Client.call_eq, Http.Client.post_connected, responds]
  exact Prod.ext (Http.resultOf_answer (carries.response s)) rfl

/-- Run: calls of a client one after the other are calls on the spot one after the other, whatever they leave behind. -/
theorem Http.Client.callAll_connected {calls : List Call}
    (carries : ∀ number, ∀ call ∈ calls, server.Carries c.config.format number call) :
    (Http.Client.callAll (Http.Network.connected.send server) calls c s).1 =
        (c.config.format.onSpotAll server.registry c.nextId calls s).1.map (Except.mapError .fault) ∧
      (Http.Client.callAll (Http.Network.connected.send server) calls c s).2.2 =
        (c.config.format.onSpotAll server.registry c.nextId calls s).2 := by
  induction calls generalizing c s with
  | nil => exact ⟨rfl, rfl⟩
  | cons call rest ih =>
    obtain ⟨here, later⟩ := forall_and.mp fun number => List.forall_mem_cons.mp (carries number)
    have format : c.called.config = c.config := by
      rw [Http.Client.called]
      split <;> rfl
    have number : c.called.nextId = if c.config.format.usesId then c.nextId + 1 else c.nextId := by
      rw [Http.Client.called]
      split <;> rfl
    have others := @ih c.called (c.config.format.onSpot server.registry c.nextId call s).2 meant.called (format ▸ later)
    rw [format, number] at others
    simp only [Http.Client.callAll, Format.onSpotAll, Http.Client.call_connected meant (here c.nextId), List.map_cons]
    exact ⟨congrArg _ others.1, others.2⟩

/-- A notification is one call on the spot too, of which nothing is told. -/
theorem Http.Client.notify_connected {method : String} {params : List Value} (usesId : c.config.format = .json)
    (readable : ∀ v ∈ params, ∀ a ∈ v.atoms, a.JsonReadable)
    (depth : (Request.toJson ⟨method, params, .nil⟩).depth ≤ Json.maxDepth)
    (fits : (Format.writeRequest .json ⟨method, params, .nil⟩).toUTF8.size ≤ server.config.maxBodySize) :
    c.notify (Http.Network.connected.send server) method params s =
      (.ok (), (server.registry.invoke method (params.map (Format.carried .json)) .nil s).2) := by
  have plain : ∀ a ∈ Value.nil.atoms, a.JsonReadable := fun a member => by
    rw [List.mem_singleton.mp member]
    trivial
  have read := Request.read_writeRequest_json (r := ⟨method, params, .nil⟩) trivial depth readable plain
  have processed := Format.process_of_notification read rfl server.registry s
  have served := meant.serves ⟨method, params, .nil⟩
  have body : (c.posted ⟨method, params, .nil⟩).request.body =
      (Format.writeRequest .json ⟨method, params, .nil⟩).toUTF8 := by
    rw [← usesId]
    rfl
  rw [usesId] at served
  have responds := (Http.ServerConfig.Answers.unanswered rfl served (body ▸ fits) (body ▸ processed)).respond
  rw [Http.Client.notify, Http.Client.post_connected, responds, usesId]
  rfl

end

/-- A client of a server on this host. -/
def Http.Client.sample : Http.Client where
  config := {}
  endpoint := ⟨"http", { host := "127.0.0.1", port := some 8080 }, "/RPC2", none, none⟩

theorem Http.Client.meantFor_sample : Http.Client.sample.MeantFor {} where
  location := ⟨Or.inl rfl,
    ⟨List.forall_mem_nil _, List.forall_mem_nil _, List.all_iff_forall_prop.mp rfl⟩, rfl,
    List.all_iff_forall_prop.mp rfl, nofun, nofun⟩
  path := rfl
  enabled := rfl

theorem Http.Client.call_connected_tick (installation : Installation) :
    Http.Client.sample.call (Http.Network.connected.send ⟨{}, Registry.ticking, installation⟩) "tick" [] 4 =
      (.ok (.string "<tick>"), Http.Client.sample, 5) := by
  have fits : (Format.writeRequest .xml ⟨"tick", [], Format.callId .xml 1⟩).toUTF8.size ≤ 1048576 := by decide +kernel
  have carries : Http.Server.Carries ⟨{}, Registry.ticking, installation⟩ .xml 1 ⟨"tick", []⟩ := by
    refine ⟨⟨nofun, by decide, by decide, by decide⟩, fits, fun s v result => ?_⟩
    rw [List.map_nil, Registry.invoke_ticking] at result
    cases result
    exact ⟨fun v same => by cases same; simp [Value.atoms, Format.Reads, Atom.XmlReadable], by decide⟩
  have step := Http.Client.call_connected (c := Http.Client.sample) (s := 4) Http.Client.meantFor_sample carries
  rw [Format.onSpot, List.map_nil, Registry.invoke_ticking] at step
  exact step

end RemoteCall
