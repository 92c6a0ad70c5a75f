import Mathlib.Data.Bool.AllAny
import RemoteCall.Http.Server
import RemoteCall.Proofs.Answer
import RemoteCall.Proofs.Http.Message

namespace RemoteCall

variable {σ : Type} {c : Http.ServerConfig} {q : Http.Request}

def Http.ServerConfig.enables (c : Http.ServerConfig) : Format → Bool
  | .xml => c.xml
  | .json => c.json

/-- A request is for a format that is enabled if it has the configured path and names the media type of the format, in
letters of either case. -/
structure Http.ServerConfig.Serves (c : Http.ServerConfig) (f : Format) (q : Http.Request) : Prop where
  enabled : c.enables f = true
  path : q.path = c.path
  media : ∃ media, q.Names media ∧ media.map Char.toLower = f.contentType.toList.map Char.toLower

/-- The answer to a request and the state behind it. -/
inductive Http.ServerConfig.Answers (c : Http.ServerConfig) (r : Registry σ) (q : Http.Request) (s : σ) :
    Http.Response → σ → Prop
  | notPost : q.method ≠ "POST" →
      c.Answers r q s
        { status := 405, contentType := some "text/plain", allow := some "POST", body := "Method Not Allowed" } s
  | notServed : q.method = "POST" → (∀ f, ¬c.Serves f q) →
      c.Answers r q s { status := 404, contentType := some "text/plain", body := "Not Found" } s
  | tooLarge {f : Format} : q.method = "POST" → c.Serves f q → c.maxBodySize < q.body.size →
      c.Answers r q s { status := 413, contentType := some "text/plain", body := "Payload Too Large" } s
  | unanswered {f : Format} {s' : σ} : q.method = "POST" → c.Serves f q → q.body.size ≤ c.maxBodySize →
      f.process r q.body s = (none, s') → c.Answers r q s { status := 204, contentType := none, body := "" } s'
  | answered {f : Format} {text : String} {s' : σ} : q.method = "POST" → c.Serves f q → q.body.size ≤ c.maxBodySize →
      f.process r q.body s = (some text, s') →
      c.Answers r q s { status := 200, contentType := some f.contentType, body := text } s'

/-- The answers to requests that are made one after the other. -/
def Http.Server.respondAll (server : Http.Server σ) : List Http.Request → σ → List Http.Response × σ
  | [], s => ([], s)
  | q :: rest, s =>
    let (answer, s) := server.respond q s
    let (answers, s) := server.respondAll rest s
    (answer :: answers, s)

/-- The answers to requests that run nothing. -/
def Http.Response.Refuses (answer : Http.Response) : Prop :=
  answer.status = 405 ∨ answer.status = 404 ∨ answer.status = 413

/-- The media types of the formats are in small letters. -/
theorem Format.lower_contentType (f : Format) : f.contentType.toList.map Char.toLower = f.contentType.toList := by
  cases f <;> decide

theorem Http.ServerConfig.mem_endpoints_iff {e : Endpoint} :
    e ∈ c.endpoints ↔ c.enables e.format = true ∧ e.path = c.path := by
  obtain ⟨f, path⟩ := e
  cases f <;> simp [Http.ServerConfig.endpoints, Http.ServerConfig.enables]

theorem Http.ServerConfig.serves_iff {f : Format} :
    c.Serves f q ↔ (⟨f, c.path⟩ : Endpoint) ∈ c.endpoints ∧
      (⟨f, c.path⟩ : Endpoint).accepts q.path q.contentTypeText = true := by
  rw [Http.ServerConfig.mem_endpoints_iff, Endpoint.accepts, Bool.and_eq_true, beq_iff_eq, beq_iff_eq]
  constructor
  · rintro ⟨enabled, path, media, names, same⟩
    rw [Http.Request.names_iff.mp names, f.lower_contentType] at same
    exact ⟨⟨enabled, rfl⟩, path, same⟩
  · rintro ⟨⟨enabled, -⟩, path, same⟩
    exact ⟨enabled, path, _, Http.Request.names_iff.mpr rfl, same.trans f.lower_contentType.symm⟩

/-- A request names the media type of one format. -/
theorem Http.ServerConfig.Serves.unique {f g : Format} (here : c.Serves f q) (there : c.Serves g q) : f = g := by
  obtain ⟨media, names, same⟩ := here.media
  obtain ⟨other, namesOther, sameOther⟩ := there.media
  rw [Http.Request.names_iff] at names namesOther
  rw [names, ← namesOther, sameOther, f.lower_contentType, g.lower_contentType] at same
  have texts : g.contentType = f.contentType := String.ext same
  cases f <;> cases g
  all_goals first | rfl | exact absurd texts (by decide)

/-- In whatever order the formats are tried, what is found is the format that a request is for. -/
theorem Http.ServerConfig.find?_eq_some_iff {endpoints : List Endpoint} (order : endpoints.Perm c.endpoints)
    {e : Endpoint} :
    (endpoints.find? fun e => e.accepts q.path q.contentTypeText) = some e ↔ e.path = c.path ∧ c.Serves e.format q := by
  have serves {e : Endpoint} (member : e ∈ endpoints) (accepts : e.accepts q.path q.contentTypeText = true) :
      e.path = c.path ∧ c.Serves e.format q := by
    obtain ⟨f, path⟩ := e
    obtain ⟨-, rfl⟩ := Http.ServerConfig.mem_endpoints_iff.mp (order.mem_iff.mp member)
    exact ⟨rfl, Http.ServerConfig.serves_iff.mpr ⟨order.mem_iff.mp member, accepts⟩⟩
  constructor
  · intro found
    exact serves (List.mem_of_find?_eq_some found) (by simpa using List.find?_some found)
  · obtain ⟨f, path⟩ := e
    rintro ⟨rfl, served⟩
    obtain ⟨member, accepts⟩ := Http.ServerConfig.serves_iff.mp served
    have hit : (endpoints.find? fun e => e.accepts q.path q.contentTypeText).isSome = true :=
      List.find?_isSome.mpr ⟨_, order.mem_iff.mpr member, accepts⟩
    obtain ⟨⟨g, path⟩, found⟩ := Option.isSome_iff_exists.mp hit
    obtain ⟨rfl, other⟩ := serves (List.mem_of_find?_eq_some found) (by simpa using List.find?_some found)
    have same : g = f := other.unique served
    rw [found, same]

theorem Http.ServerConfig.find?_eq_none (unserved : ∀ f, ¬c.Serves f q) :
    (c.endpoints.find? fun e => e.accepts q.path q.contentTypeText) = none := by
  rw [Option.eq_none_iff_forall_ne_some]
  intro e found
  have served := (Http.ServerConfig.find?_eq_some_iff (.refl _)).mp found
  exact unserved e.format served.2

/-- Every request has an answer. -/
theorem Http.ServerConfig.exists_answers (c : Http.ServerConfig) (r : Registry σ) (q : Http.Request) (s : σ) :
    ∃ answer s', c.Answers r q s answer s' := by
  by_cases post : q.method = "POST"
  · by_cases served : ∃ f, c.Serves f q
    · obtain ⟨f, served⟩ := served
      by_cases fits : q.body.size ≤ c.maxBodySize
      · cases ran : f.process r q.body s with
        | mk text s' =>
          cases text with
          | none => exact ⟨_, _, .unanswered post served fits ran⟩
          | some text => exact ⟨_, _, .answered post served fits ran⟩
      · exact ⟨_, _, .tooLarge post served (by omega)⟩
    · exact ⟨_, _, .notServed post (not_exists.mp served)⟩
  · exact ⟨_, _, .notPost post⟩

theorem Http.ServerConfig.Answers.respond {server : Http.Server σ} {s s' : σ} {answer : Http.Response}
    (answers : server.config.Answers server.registry q s answer s') : server.respond q s = (answer, s') := by
  have found {f : Format} (served : server.config.Serves f q) :=
    (Http.ServerConfig.find?_eq_some_iff (.refl _) (e := ⟨f, server.config.path⟩)).mpr ⟨rfl, served⟩
  rw [Http.Server.respond]
  cases answers with
  | notPost other =>
    rw [if_pos other]
    rfl
  | notServed post unserved =>
    rw [if_neg (not_not.mpr post), Http.ServerConfig.find?_eq_none unserved]
    rfl
  | tooLarge post served large =>
    rw [if_neg (not_not.mpr post), found served]
    exact if_pos large
  | unanswered post served fits ran =>
    rw [if_neg (not_not.mpr post), found served]
    simp only [if_neg (show ¬server.config.maxBodySize < q.body.size by omega), ran]
  | answered post served fits ran =>
    rw [if_neg (not_not.mpr post), found served]
    simp only [if_neg (show ¬server.config.maxBodySize < q.body.size by omega), ran]

theorem Http.Server.respond_eq_iff {server : Http.Server σ} {s s' : σ} {answer : Http.Response} :
    server.respond q s = (answer, s') ↔ server.config.Answers server.registry q s answer s' := by
  constructor
  · intro responds
    -- what is related to the request is what is answered, so that there is no other answer to relate
    obtain ⟨other, t, answers⟩ := server.config.exists_answers server.registry q s
    have same := responds.symm.trans answers.respond
    cases same
    exact answers
  · exact Http.ServerConfig.Answers.respond

/-- Step: what is refused is refused by whatever methods there are, and leaves the state. -/
theorem Http.ServerConfig.Answers.of_refuses {r : Registry σ} {s s' : σ} {answer : Http.Response}
    (answers : c.Answers r q s answer s') (refuses : answer.Refuses) (other : Registry σ) (t : σ) :
    c.Answers other q t answer t := by
  cases answers with
  | notPost method => exact .notPost method
  | notServed post unserved => exact .notServed post unserved
  | tooLarge post served large => exact .tooLarge post served large
  | unanswered | answered => simp [Http.Response.Refuses] at refuses

theorem Http.Server.respondAll_cons {server : Http.Server σ} {s s' : σ} {answer : Http.Response}
    (responds : server.respond q s = (answer, s')) (rest : List Http.Request) :
    server.respondAll (q :: rest) s = (answer :: (server.respondAll rest s').1, (server.respondAll rest s').2) := by
  rw [Http.Server.respondAll, responds]

/-- Run: requests behind others are answered in the state that those leave. -/
theorem Http.Server.respondAll_append (server : Http.Server σ) (before after : List Http.Request) (s : σ) :
    server.respondAll (before ++ after) s =
      ((server.respondAll before s).1 ++ (server.respondAll after (server.respondAll before s).2).1,
        (server.respondAll after (server.respondAll before s).2).2) := by
  induction before generalizing s with
  | nil => rfl
  | cons q before ih =>
    rw [List.cons_append, Http.Server.respondAll_cons rfl, Http.Server.respondAll_cons rfl, ih]
    rfl

theorem Http.Server.length_respondAll (server : Http.Server σ) (requests : List Http.Request) (s : σ) :
    (server.respondAll requests s).1.length = requests.length := by
  induction requests generalizing s with
  | nil => rfl
  | cons q rest ih => rw [Http.Server.respondAll_cons rfl, List.length_cons, List.length_cons, ih]

theorem Http.Server.of_build {r : Registry σ} {server : Http.Server σ} (built : Http.Server.build c r = .ok server) :
    server.config = c ∧ server.registry = (r.install c.introspection).1 ∧ ∃ f, c.enables f = true := by
  rw [Http.Server.build] at built
  split at built
  · cases built
  next nonempty =>
    have enabled : ∃ f, c.enables f = true := by
      obtain ⟨e, member⟩ := List.exists_mem_of_ne_nil _ (mt List.isEmpty_iff.mpr nonempty)
      exact ⟨e.format, (Http.ServerConfig.mem_endpoints_iff.mp member).1⟩
    cases installed : r.install c.introspection with
    | mk registry outcome =>
      rw [installed] at built
      cases outcome with
      | error problem => cases built
      | ok installation =>
        cases built
        exact ⟨rfl, rfl, enabled⟩

/-- The status of an answer says what was wrong with the request, the first of method, path and media type, and length
to be so. What is refused runs nothing, and all others are answered as without it. A request is for one format at most,
so that it does not matter which is tried first. -/
theorem Http.Server.routes_exactly {r : Registry σ} {server : Http.Server σ}
    (built : Http.Server.build c r = .ok server) :
    (server.registry = (r.install c.introspection).1 ∧ ∃ f, c.enables f = true) ∧
    (∀ q s answer s', server.respond q s = (answer, s') ↔ c.Answers server.registry q s answer s') ∧
    (∀ q s answer s', server.respond q s = (answer, s') → answer.Refuses →
      (∀ (other : Registry σ) t, { server with registry := other }.respond q t = (answer, t)) ∧
      ∀ before after t, ∃ early late t', early.length = before.length ∧
        server.respondAll (before ++ after) t = (early ++ late, t') ∧
        server.respondAll (before ++ q :: after) t = (early ++ answer :: late, t')) ∧
    (∀ q f g, c.Serves f q → c.Serves g q → f = g) ∧
    ∀ (q : Http.Request) (endpoints : List Endpoint), endpoints.Perm c.endpoints →
      (endpoints.find? fun e => e.accepts q.path q.contentTypeText) =
        c.endpoints.find? fun e => e.accepts q.path q.contentTypeText := by
  obtain ⟨rfl, registry, enabled⟩ := Http.Server.of_build built
  refine ⟨⟨registry, enabled⟩, fun q s answer s' => Http.Server.respond_eq_iff, ?_,
    fun q f g here there => here.unique there, ?_⟩
  · intro q s answer s' responds refuses
    have refused (other : Registry σ) (t : σ) : { server with registry := other }.respond q t = (answer, t) :=
      Http.Server.respond_eq_iff.mpr ((Http.Server.respond_eq_iff.mp responds).of_refuses refuses other t)
    refine ⟨refused, fun before after t => ?_⟩
    refine ⟨_, _, _, server.length_respondAll before t, server.respondAll_append before after t, ?_⟩
    rw [server.respondAll_append, Http.Server.respondAll_cons (refused server.registry _)]
  · intro q endpoints order
    apply Option.ext
    intro e
    rw [Http.ServerConfig.find?_eq_some_iff order, Http.ServerConfig.find?_eq_some_iff (.refl _)]

/-- A request for the format whose media type is in the last part of the content type. -/
def Http.Request.sample (contentType : String) (body : ByteArray) : Http.Request :=
  { target := "/RPC2?x", contentType := some contentType, body }

theorem Http.Request.sample_path (contentType : String) (body : ByteArray) :
    (Http.Request.sample contentType body).path = "/RPC2" := by
  have path : String.ofList (Http.pathOf "/RPC2?x".toList) = "/RPC2" := by decide
  exact path

/-- Two formats on one path and bodies of up to 41 bytes, the length of a call with an id. -/
theorem Http.Server.routes_exactly_two_formats :
    ∃ server, Http.Server.build { maxBodySize := 41, introspection := false } Registry.ticking = .ok server ∧
      server.respond { method := "GET", target := "/RPC2" } 7 =
        ({ status := 405, contentType := some "text/plain", allow := some "POST", body := "Method Not Allowed" }, 7) ∧
      server.respond (.sample " TEXT/xml ; charset=utf-8" ⟨Array.replicate 42 60⟩) 7 =
        ({ status := 413, contentType := some "text/plain", body := "Payload Too Large" }, 7) ∧
      server.respond (.sample "application/json" (Json.object Json.tickNotice).render.toUTF8) 7 =
        ({ status := 204, contentType := none, body := "" }, 8) ∧
      server.respond (.sample "application/json" (Json.object Json.tickCall).render.toUTF8) 7 =
        ({ status := 200, contentType := some "application/json"
           body := Format.writeResponse .json ⟨.ok (.string "<tick>"), .string ""⟩ }, 8) := by
  obtain ⟨server, built⟩ : ∃ server,
      Http.Server.build { maxBodySize := 41, introspection := false } Registry.ticking = .ok server := ⟨_, rfl⟩
  obtain ⟨⟨registry, -⟩, answers, -⟩ := Http.Server.routes_exactly built
  have xml (body : ByteArray) : Http.ServerConfig.Serves { maxBodySize := 41, introspection := false } .xml
      (.sample " TEXT/xml ; charset=utf-8" body) :=
    ⟨rfl, Http.Request.sample_path _ body, _, .sent rfl (List.all_iff_forall_prop.mp rfl) (Http.mediaType_iff.mpr rfl),
      by decide⟩
  have json (body : ByteArray) : Http.ServerConfig.Serves { maxBodySize := 41, introspection := false } .json
      (.sample "application/json" body) :=
    ⟨rfl, Http.Request.sample_path _ body, _, .sent rfl (List.all_iff_forall_prop.mp rfl) (Http.mediaType_iff.mpr rfl),
      by decide⟩
  have found : server.registry.method? "tick" =
      some { callable := .native fun _ count => (.value (.string "<tick>"), count + 1) } := registry ▸ rfl
  have invoked (id : Value) : server.registry.invoke "tick" [] id 7 = (⟨.ok (.string "<tick>"), id⟩, 8) := by
    rw [Registry.invoke, Registry.run_native found rfl]
    rfl
  have notice := Document.bind_request_json (Json.read_document Json.readable_tickNotice (by decide))
    (show (Json.object Json.tickNotice).request = .ok ⟨"tick", [], .nil⟩ from rfl)
  have call := Document.bind_request_json (Json.read_document Json.readable_tickCall (by decide))
    (show (Json.object Json.tickCall).request = .ok ⟨"tick", [], .string ""⟩ from rfl)
  have unanswered := Format.process_of_notification notice rfl server.registry 7
  have answered := Format.process_of_read (r := server.registry) (s := 7) call rfl
  rw [invoked] at unanswered answered
  exact ⟨server, built, (answers _ _ _ _).mpr (.notPost (by decide)),
    (answers _ _ _ _).mpr (.tooLarge rfl (xml _) (by decide)),
    (answers _ _ _ _).mpr (.unanswered rfl (json _) (by decide) unanswered),
    (answers _ _ _ _).mpr (.answered rfl (json _) (by decide) answered)⟩

end RemoteCall
