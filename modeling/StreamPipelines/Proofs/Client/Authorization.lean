import Mathlib.Data.List.Forall2
import StreamPipelines.Proofs.Client
import StreamPipelines.Proofs.Text.Base64

/-!
The credentials that a request carries. There are two sources of them, the configuration and the
user information in the address; each that has some adds an authorization of its own, and neither
gives way to the other. So a request is authorized once at most exactly if the sources do not both
have credentials.
-/

namespace StreamPipelines

namespace Http

/-- The value of the header of an authorization with a user name and a password. -/
def IsBasic (value : String) (credentials : String × String) : Prop :=
  ∃ digits, value = "Basic " ++ String.ofList digits ∧
    Text.readBase64 digits = some (Text.utf8 (credentials.1 ++ ":" ++ credentials.2))

/-- The request is authorized with these credentials, in order, and with no others. -/
def Request.Carries (sent : Request) (credentials : List (String × String)) : Prop :=
  List.Forall₂ IsBasic (sent.header "authorization") credentials

theorem isBasic_basicAuthorization (username password : String) :
    IsBasic (basicAuthorization username password).2 (username, password) :=
  ⟨_, rfl, Text.readBase64_base64Digits _⟩

theorem Request.Carries.length {sent : Request} {credentials : List (String × String)}
    (h : sent.Carries credentials) :
    (sent.header "authorization").length = credentials.length :=
  h.length_eq

theorem Request.Carries.header_of_nil {sent : Request} (h : sent.Carries []) :
    sent.header "authorization" = [] :=
  List.forall₂_nil_right_iff.mp h

theorem Request.Carries.header_of_single {sent : Request} {credentials : String × String}
    (h : sent.Carries [credentials]) :
    ∃ value, sent.header "authorization" = [value] ∧ IsBasic value credentials := by
  obtain ⟨value, rest, basic, none, header⟩ := List.forall₂_cons_right_iff.mp h
  cases List.forall₂_nil_right_iff.mp none
  exact ⟨value, header, basic⟩

end Http

namespace Url

/-- The credentials in an address; a password that is missing is empty. -/
def credentials (u : Url) : Option (String × String) :=
  u.userInfo.map fun (username, password) => (username, password.getD "")

theorem credentials_of_empty {u : Url} (noName : u.username = []) (noPassword : u.password = none) :
    u.credentials = none := by
  have empty : decodedPart [] = some "" := by decide +kernel
  rw [credentials, userInfo, noName, noPassword, empty]
  rfl

theorem SameServer.credentials_eq {u v : Url} (same : u.SameServer v) :
    u.credentials = v.credentials := by
  rw [credentials, credentials, userInfo, userInfo, same.username, same.password]

end Url

theorem Config.credentials_eq_none_iff (c : Config) : c.credentials = none ↔ c.username = none :=
  Option.map_eq_none_iff

namespace Client

theorem userInfoHeaders_userInfo (u : Url) :
    userInfoHeaders u.userInfo = credentialHeaders u.credentials := by
  rw [Url.credentials]
  cases u.userInfo <;> rfl

theorem values_credentialHeaders (credentials : Option (String × String)) :
    ((credentialHeaders credentials).filter (·.1 = "authorization")).map (·.2) =
      credentials.toList.map fun (username, password) =>
        (Http.basicAuthorization username password).2 := by
  cases credentials <;> rfl

/-- Only the two sources of credentials authorize a request, that of the address first. -/
theorem header_requestAt (client : Client) (r : Request) (u : Url) :
    (client.requestAt r u).header "authorization" =
      (u.credentials.toList ++ client.credentials.toList).map fun (username, password) =>
        (Http.basicAuthorization username password).2 := by
  have method : (methodHeaders r.method ++ [("accept", "application/json")]).filter
      (·.1 = "authorization") = [] := by
    cases r.method <;> decide
  have body : (bodyHeaders r.body).filter (·.1 = "authorization") = [] := by
    cases r.body <;> rfl
  rw [Http.Request.header, requestAt, userInfoHeaders_userInfo, List.append_assoc _ _ [_],
    List.filter_append, List.filter_append, List.filter_append, method, body, List.append_nil,
    List.append_nil, List.map_append, values_credentialHeaders, values_credentialHeaders,
    List.map_append]

theorem carries_requestAt (client : Client) (r : Request) (u : Url) :
    (client.requestAt r u).Carries (u.credentials.toList ++ client.credentials.toList) := by
  rw [Http.Request.Carries, header_requestAt, List.forall₂_map_left_iff, List.forall₂_same]
  exact fun credentials _ => Http.isBasic_basicAuthorization _ _

end Client

/-- A request that a configured client sends carries the credentials of its address and those of
the configuration. It is authorized at most once exactly if one of the two has none, and then as
the other says; a relative path adds no credentials to those of the base address. -/
theorem carries_of_parseBaseUrl {raw : String} {c : Config}
    (accepted : Config.parseBaseUrl raw = .ok c.baseUrl) {r : Request} {sent : Http.Request}
    (prepared : (Client.ofConfig c).prepare r = .ok sent) :
    ∃ u, c.baseUrl.qualify r.path = .ok u ∧
      (IsRelative r.path → u.credentials = c.baseUrl.credentials) ∧
      (IsRelative r.path → c.baseUrl.username = [] → c.baseUrl.password = none →
        u.credentials = none) ∧
      sent.Carries (u.credentials.toList ++ c.credentials.toList) ∧
      ((sent.header "authorization").length ≤ 1 ↔ u.credentials = none ∨ c.username = none) ∧
      (∀ username, c.username = some username → u.credentials = none →
        ∃ value, sent.header "authorization" = [value] ∧
          c.credentials = some (username, c.password.getD "") ∧
          Http.IsBasic value (username, c.password.getD "")) ∧
      (c.username = none → u.credentials = none → sent.header "authorization" = []) := by
  obtain ⟨u, qualified, rfl⟩ := exists_of_map_eq_ok prepared
  have carried : ((Client.ofConfig c).requestAt r u).Carries
      (u.credentials.toList ++ c.credentials.toList) :=
    Client.carries_requestAt _ r u
  have relative (h : IsRelative r.path) : u.credentials = c.baseUrl.credentials := by
    obtain ⟨below, found, same⟩ := Url.qualify_sameServer
      (Config.wellFormed_of_parseBaseUrl accepted) (isAbsolutePath_eq_false_iff.mpr h)
    cases qualified.symm.trans found
    exact same.credentials_eq
  refine ⟨u, qualified, relative, fun h noName noPassword => ?_, carried, ?_,
    fun username given none => ?_, fun noUsername none => ?_⟩
  · rw [relative h, Url.credentials_of_empty noName noPassword]
  · rw [carried.length, ← c.credentials_eq_none_iff]
    cases u.credentials <;> cases c.credentials <;> simp
  · have pair : c.credentials = some (username, c.password.getD "") := by
      rw [Config.credentials, given]
      rfl
    rw [none, pair] at carried
    obtain ⟨value, header, basic⟩ := carried.header_of_single
    exact ⟨value, header, pair, basic⟩
  · rw [none, c.credentials_eq_none_iff.mpr noUsername] at carried
    exact carried.header_of_nil

/-- Name and password are not in ASCII, and the name has a colon; the base address has neither. -/
theorem carries_of_parseBaseUrl_configured :
    let c : Config :=
      ⟨⟨.https, [], none, .domain "logs.example.org", none, ["api".toList, []], none, none⟩,
        some "jörg:ops", some "ß 1", 30⟩
    let path := "/system/pipelines"
    let sent := (Client.ofConfig c).requestAt ⟨.post, path, some .null⟩
      { c.baseUrl with path := ["api", "system", "pipelines"].map String.toList }
    Config.parseBaseUrl "https://@logs.example.org/api/" = .ok c.baseUrl ∧
      (Client.ofConfig c).prepare ⟨.post, path, some .null⟩ = .ok sent ∧ IsRelative path ∧
      ∃ value, sent.header "authorization" = [value] ∧ c.credentials = some ("jörg:ops", "ß 1") ∧
        Http.IsBasic value ("jörg:ops", "ß 1") := by
  intro c path sent
  have accepted : Config.parseBaseUrl "https://@logs.example.org/api/" = .ok c.baseUrl := by
    decide +kernel
  have prepared : (Client.ofConfig c).prepare ⟨.post, path, some .null⟩ = .ok sent := by
    decide +kernel
  have relative : IsRelative path := by decide
  obtain ⟨u, -, -, bare, -, -, configured, -⟩ := carries_of_parseBaseUrl accepted prepared
  exact ⟨accepted, prepared, relative, configured _ rfl (bare relative rfl rfl)⟩

/-- A name in the base address and another one in the configuration: both authorize the request. -/
theorem header_authorization_twice :
    ∃ c sent, Config.parseBaseUrl "http://u:p@127.0.0.1:9000/api" = .ok c.baseUrl ∧
      c.credentials = some ("admin", "secret") ∧
      (Client.ofConfig c).prepare ⟨.get, "/x", none⟩ = .ok sent ∧
      sent.header "authorization" = ["Basic dTpw", "Basic YWRtaW46c2VjcmV0"] := by
  let base : Url :=
    ⟨.http, ['u'], some ['p'], .ipv4 0x7f000001, some 9000, ["api".toList], none, none⟩
  let c : Config := ⟨base, some "admin", some "secret", 30⟩
  let address : Url := { base with path := ["api".toList, ['x']] }
  exact ⟨c, (Client.ofConfig c).requestAt ⟨.get, "/x", none⟩ address, by decide +kernel,
    by decide +kernel, by decide +kernel, by decide +kernel⟩

end StreamPipelines
