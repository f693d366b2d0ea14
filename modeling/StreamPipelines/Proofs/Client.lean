import StreamPipelines.CommandLine.Arguments
import StreamPipelines.Proofs.Url.Qualify

/-!
What a client sends and what it makes of the responses. Each call of a configured client can be
sent, since paths of endpoints are below the base address; a response is an answer to the call if
its status is one of success and its body is JSON of the form that the call asks for, and nothing
else is taken for one.
-/

namespace StreamPipelines

theorem Endpoint.isAbsolutePath_path (e : Endpoint) : isAbsolutePath e.path.toList = false := by
  obtain ⟨plugin, pluginPath⟩ : ∃ cs, pluginPath.toList = '/' :: cs := ⟨_, rfl⟩
  have slash : ∃ cs, e.path.toList = '/' :: cs := by
    cases e with
    | message index id =>
        rw [path, String.toList_append, String.toList_append, String.toList_append]
        exact ⟨_, rfl⟩
    | connections | assignStream | assignPipeline | simulate =>
        rw [path, String.toList_append, pluginPath]
        exact ⟨_, rfl⟩
  obtain ⟨cs, path⟩ := slash
  rw [path]
  rfl

theorem Config.wellFormed_of_parseBaseUrl {raw : String} {u : Url}
    (h : parseBaseUrl raw = .ok u) : u.WellFormed := by
  unfold parseBaseUrl at h
  split at h
  · cases h
  · cases h
  · rename_i parsed
    cases h
    exact Url.wellFormed_of_parseChars parsed

theorem CommandLine.Options.wellFormed_of_config {o : Options} {env : Environment} {c : Config}
    (h : o.config env = .ok c) : c.baseUrl.WellFormed := by
  obtain ⟨read, found, rfl⟩ := exists_of_map_eq_ok h
  obtain ⟨base, based, rfl⟩ := exists_of_map_eq_ok found
  obtain ⟨u, parsed, rfl⟩ := exists_of_map_eq_ok based
  have kept (c : Config) : (o.addTimeout (o.addCredentials c)).baseUrl = c.baseUrl := by
    unfold addTimeout addCredentials
    split <;> split <;> rfl
  rw [kept]
  exact Config.wellFormed_of_parseBaseUrl parsed

/-- A client that can send every call. -/
def Client.IsReady (client : Client) : Prop :=
  ∀ {α : Type} (c : Call α), ∃ sent, client.prepare c.request = .ok sent

theorem Client.isReady_of_wellFormed {client : Client} (h : client.baseUrl.WellFormed) :
    client.IsReady := by
  intro α c
  obtain ⟨u, qualified, -⟩ := Url.qualify_sameServer h c.endpoint.isAbsolutePath_path
  exact ⟨client.requestAt c.request u, by rw [prepare, Call.request, qualified]; rfl⟩

/-- A path that names no web address of its own. -/
def IsRelative (path : String) : Prop :=
  ¬"http://".toList <+: path.toList ∧ ¬"https://".toList <+: path.toList

instance (path : String) : Decidable (IsRelative path) :=
  inferInstanceAs (Decidable (_ ∧ _))

theorem isAbsolutePath_eq_false_iff {path : String} :
    isAbsolutePath path.toList = false ↔ IsRelative path := by
  rw [isAbsolutePath, IsRelative, ← List.isPrefixOf_iff_prefix, ← List.isPrefixOf_iff_prefix,
    Bool.or_eq_false_iff, Bool.not_eq_true, Bool.not_eq_true]

theorem Endpoint.isRelative_path (e : Endpoint) : IsRelative e.path :=
  isAbsolutePath_eq_false_iff.mp e.isAbsolutePath_path

/-- The request goes to the server of the base address. -/
structure Http.Request.GoesTo (sent : Http.Request) (base : Url) : Prop where
  scheme : sent.url.scheme = base.scheme
  host : sent.url.host = base.host
  port : sent.url.port = base.port

/-- User information may move to a header; all else in the address stays. -/
theorem Client.url_requestAt (client : Client) (r : Request) (u : Url) :
    (client.requestAt r u).url = u ∨ (client.requestAt r u).url = u.withoutUserInfo := by
  simp only [requestAt]
  split
  · exact .inr rfl
  · exact .inl rfl

theorem Client.goesTo_requestAt (client : Client) (r : Request) {u base : Url}
    (same : u.SameServer base) : (client.requestAt r u).GoesTo base := by
  obtain kept | kept := client.url_requestAt r u
  · exact ⟨by rw [kept, same.scheme], by rw [kept, same.host], by rw [kept, same.port]⟩
  · exact ⟨by rw [kept]; exact same.scheme, by rw [kept]; exact same.host,
      by rw [kept]; exact same.port⟩

/-- With a base address that the configuration accepts, every relative path is below that address,
on its server and with its credentials. So a request with such a path, as are those of all calls,
can be sent and goes to that server, whatever the path holds. -/
theorem sameServer_of_parseBaseUrl {raw : String} {base : Url}
    (accepted : Config.parseBaseUrl raw = .ok base) :
    (∀ path, IsRelative path → ∃ u, base.qualify path = .ok u ∧ u.SameServer base) ∧
    (∀ e : Endpoint, IsRelative e.path) ∧
    ∀ client : Client, client.baseUrl = base →
      (∀ r : Request, IsRelative r.path → ∃ sent, client.prepare r = .ok sent ∧ sent.GoesTo base) ∧
      ∀ {α : Type} (c : Call α), ∃ sent, client.prepare c.request = .ok sent ∧
        sent.GoesTo base := by
  have below (path : String) (relative : IsRelative path) :
      ∃ u, base.qualify path = .ok u ∧ u.SameServer base :=
    Url.qualify_sameServer (Config.wellFormed_of_parseBaseUrl accepted)
      (isAbsolutePath_eq_false_iff.mpr relative)
  refine ⟨below, Endpoint.isRelative_path, fun client configured => ?_⟩
  have sends (r : Request) (relative : IsRelative r.path) :
      ∃ sent, client.prepare r = .ok sent ∧ sent.GoesTo base := by
    obtain ⟨u, qualified, same⟩ := below r.path relative
    refine ⟨client.requestAt r u, ?_, client.goesTo_requestAt r same⟩
    rw [Client.prepare, configured, qualified]
    rfl
  exact ⟨sends, fun c => sends c.request c.endpoint.isRelative_path⟩

/-- The base address has credentials, brackets, a port and a query, and the path tries to leave. -/
theorem sameServer_of_parseBaseUrl_hostile :
    let raw := " HTTPS://us@er:p%40@[1::0]:8080/api//?q#/ "
    let base : Url :=
      ⟨.https, "us%40er".toList, some "p%40".toList, .ipv6 #v[1, 0, 0, 0, 0, 0, 0, 0],
        some 8080, ["api".toList, [], []], some "q".toList, some ['/']⟩
    let client : Client := ⟨base, some ("admin", "secret"), 10⟩
    let path := "\\\\evil@other:1/../..//\t@other"
    Config.parseBaseUrl raw = .ok base ∧ IsRelative path ∧
      (∃ u, base.qualify path = .ok u ∧ u.SameServer base) ∧
      ∃ sent, client.prepare ⟨.get, path, none⟩ = .ok sent ∧ sent.GoesTo base := by
  intro raw base client path
  have accepted : Config.parseBaseUrl raw = .ok base := by decide +kernel
  have relative : IsRelative path := by decide
  obtain ⟨below, -, sends⟩ := sameServer_of_parseBaseUrl accepted
  exact ⟨accepted, relative, below path relative, (sends client rfl).1 ⟨.get, path, none⟩ relative⟩

/-- The JSON value that a body is; a blank one stands for null. -/
def Json.ofBody? (body : String) : Option Json :=
  if (Text.trim body).isEmpty then some .null else (Json.parse body).toOption

namespace Call

variable {α : Type}

/-- The answer that a response holds. -/
def answer? (c : Call α) : Http.Response → Option α
  | .closed => none
  | .answer status body =>
      if status.isSuccess then
        (Json.ofBody? (if status.isBodiless then "" else Text.ofUtf8Lenient body)).bind fun v =>
          (c.answer.decode v).toOption
      else none

theorem toOption_readBody (status : Http.Status) (body : String) :
    (readBody status body).toOption =
      if status.isSuccess then Json.ofBody? body else none := by
  unfold readBody Json.ofBody?
  cases status.isSuccess with
  | false => rfl
  | true =>
      simp only [Bool.not_true, Bool.false_eq_true, if_false, if_true]
      split
      · rfl
      · cases Json.parse body <;> rfl

theorem toOption_read (c : Call α) (reply : Reply) :
    (c.read reply).toOption = reply.toOption.bind fun v => (c.answer.decode v).toOption := by
  cases reply with
  | error cause => rfl
  | ok v =>
      simp only [read, Except.toOption, Option.bind_some]
      cases c.answer.decode v <;> rfl

/-- A call comes to the answer that its response holds, whatever was sent. -/
theorem toOption_read_receive (c : Call α) (sent : Http.Request) (response : Http.Response) :
    (c.read (sent.receive response)).toOption = c.answer? response := by
  rw [toOption_read]
  cases response with
  | closed => rfl
  | answer status body =>
      unfold Http.Request.receive answer?
      simp only
      split
      · rename_i interim
        have below : status.isSuccess = false := by
          simp only [Http.Status.isInterim, Bool.and_eq_true, decide_eq_true_eq] at interim
          simp [Http.Status.isSuccess, Nat.not_le.mpr interim.1]
        simp [below, Except.toOption]
      · rw [toOption_readBody]
        split <;> rfl

end Call
end StreamPipelines
