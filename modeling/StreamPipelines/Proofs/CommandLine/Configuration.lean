import StreamPipelines.CommandLine.Arguments
import StreamPipelines.Proofs.Result
import StreamPipelines.Proofs.Text.Reading
import StreamPipelines.Proofs.Text.Trimming

/-!
Where the configuration comes from. Each setting is the one that is given on the command line, or
else that of its variable if the variable has a value that is text and not blank, or else it is
unset; and no setting has a part in another one. What is given takes the place of the variable
altogether: whatever that says then has no effect.
-/

namespace StreamPipelines

/-- The variable is set to a text, and this is what is left of it without white space at its
ends. -/
structure Environment.Provides (env : Environment) (name value : String) : Prop where
  trimmed : ∃ text, env.get? name = some (Text.utf8 text) ∧
    IsTrimmed Text.isBlank text.toList value.toList
  notBlank : value ≠ ""

theorem Environment.read_eq_some_iff {env : Environment} {name value : String} :
    env.read name = some value ↔ env.Provides name value := by
  unfold read text?
  simp only [Option.bind_eq_some_iff, Text.ofUtf8?_eq_some_iff]
  constructor
  · rintro ⟨text, ⟨bs, found, rfl⟩, kept⟩
    split at kept
    · cases kept
    · rename_i notBlank
      cases kept
      refine ⟨⟨text, found, ?_⟩, by simpa using notBlank⟩
      rw [Text.trim, String.toList_ofList]
      exact isTrimmed_stripChars Text.isBlank text.toList
  · rintro ⟨⟨text, found, trimmed⟩, notBlank⟩
    have kept : Text.trim text = value := by
      rw [Text.trim, ← trimmed.eq_stripChars, String.ofList_toList]
    exact ⟨text, ⟨_, found, rfl⟩, by rw [kept, if_neg (by simpa using notBlank)]⟩

/-- Trimming takes nothing from what a variable provides. -/
theorem Environment.Provides.trim_eq {env : Environment} {name value : String}
    (h : env.Provides name value) : Text.trim value = value := by
  obtain ⟨text, -, trimmed⟩ := h.trimmed
  rw [Text.trim, ← trimmed.self.eq_stripChars, String.ofList_toList]

theorem Environment.readTimeout_read (env : Environment) (name : String) :
    Config.readTimeout (env.read name) =
      Config.clampTimeout (((env.read name).bind Text.readWord?).getD 30) := by
  have trimmed : (env.read name).bind (fun s => Text.readWord? (Text.trim s)) =
      (env.read name).bind Text.readWord? :=
    Option.bind_congr fun value found => by rw [(read_eq_some_iff.mp found).trim_eq]
  rw [Config.readTimeout, trimmed, Config.defaultTimeout]

/-- The variable provides the decimal text of a word. -/
def Environment.ProvidesWord (env : Environment) (name : String) (w : UInt64) : Prop :=
  ∃ value, env.Provides name value ∧ Text.IsWordText value w

theorem Environment.bind_readWord?_eq_some_iff {env : Environment} {name : String} {w : UInt64} :
    (env.read name).bind Text.readWord? = some w ↔ env.ProvidesWord name w := by
  simp only [Option.bind_eq_some_iff, read_eq_some_iff, Text.readWord?_eq_some_iff, ProvidesWord]

namespace CommandLine

/-- A setting: what is given, or else what is provided, or else nothing. -/
inductive IsSetting {α : Type} (provides : α → Prop) : Option α → Option α → Prop
  | given (a : α) : IsSetting provides (some a) (some a)
  | provided {a : α} (h : provides a) : IsSetting provides none (some a)
  | unset (h : ∀ a, ¬provides a) : IsSetting provides none none

theorem isSetting_iff {α : Type} {provides : α → Prop} {read given value : Option α}
    (reads : ∀ a, read = some a ↔ provides a) :
    IsSetting provides given value ↔ given.or read = value := by
  constructor
  · intro h
    cases h with
    | given a => rfl
    | provided h => exact (reads _).mpr h
    | unset h =>
        exact Option.eq_none_iff_forall_not_mem.mpr fun a found => h a ((reads a).mp found)
  · rintro rfl
    cases given with
    | some a => exact .given a
    | none =>
        rw [Option.none_or]
        cases read with
        | some a => exact .provided ((reads a).mp rfl)
        | none => exact .unset fun a h => absurd ((reads a).mpr h) (by simp)

theorem isSetting_provides_iff {env : Environment} {name : String} {given value : Option String} :
    IsSetting (env.Provides name) given value ↔ given.or (env.read name) = value :=
  isSetting_iff fun _ => Environment.read_eq_some_iff

theorem isSetting_providesWord_iff {env : Environment} {name : String}
    {given value : Option UInt64} : IsSetting (env.ProvidesWord name) given value ↔
      given.or ((env.read name).bind Text.readWord?) = value :=
  isSetting_iff fun _ => Environment.bind_readWord?_eq_some_iff

/-- Behind a value that is given nothing is looked at. -/
theorem or_eq_of_none {α : Type} {given read read' : Option α}
    (same : given = none → read' = read) : given.or read' = given.or read := by
  cases given with
  | some a => rfl
  | none => rw [same rfl]

theorem toNat_clampTimeout (seconds : UInt64) :
    (Config.clampTimeout seconds).toNat = max 5 (min seconds.toNat 300) := by
  have low : (5 : UInt64).toNat = 5 := rfl
  have high : (300 : UInt64).toNat = 300 := rfl
  unfold Config.clampTimeout
  simp only [UInt64.lt_iff_toNat_lt, low, high]
  split_ifs
  · rw [low]
    omega
  · rw [high]
    omega
  · omega

namespace Options

/-- What the configuration has from the options and the environment. -/
structure Resolves (o : Options) (env : Environment) (c : Config) : Prop where
  baseUrl : ∃ url, IsSetting (env.Provides "GRAYLOG_URL") o.url url ∧
    Config.parseBaseUrl (url.getD "http://127.0.0.1:9000/api") = .ok c.baseUrl
  credentials : ∃ username password,
    IsSetting (env.Provides "GRAYLOG_USERNAME") o.username username ∧
    IsSetting (env.Provides "GRAYLOG_PASSWORD") o.password password ∧
    c.credentials = username.map fun name => (name, password.getD "")
  timeout : ∃ seconds,
    IsSetting (env.ProvidesWord "GRAYLOG_HTTP_TIMEOUT_SECS") o.timeoutSeconds seconds ∧
    c.timeoutSeconds.toNat = max 5 (min (seconds.getD 30).toNat 300)

/-- The variables that the options leave to the environment. -/
inductive LeavesOpen (o : Options) : String → Prop
  | url (h : o.url = none) : o.LeavesOpen "GRAYLOG_URL"
  | username (h : o.username = none) : o.LeavesOpen "GRAYLOG_USERNAME"
  | password (h : o.password = none) : o.LeavesOpen "GRAYLOG_PASSWORD"
  | timeout (h : o.timeoutSeconds = none) : o.LeavesOpen "GRAYLOG_HTTP_TIMEOUT_SECS"

/-- Each variable is read where its option is not given, and nowhere else. -/
theorem config_eq (o : Options) (env : Environment) :
    o.config env =
      (Config.parseBaseUrl ((o.url.or (env.read "GRAYLOG_URL")).getD
        "http://127.0.0.1:9000/api")).map fun baseUrl => {
          baseUrl := baseUrl
          username := o.username.or (env.read "GRAYLOG_USERNAME")
          password :=
            if o.username.isSome then some ((o.password.or (env.read "GRAYLOG_PASSWORD")).getD "")
            else o.password.or (env.read "GRAYLOG_PASSWORD")
          timeoutSeconds := Config.clampTimeout ((o.timeoutSeconds.or
            ((env.read "GRAYLOG_HTTP_TIMEOUT_SECS").bind Text.readWord?)).getD 30) } := by
  obtain ⟨url, username, password, seconds⟩ := o
  have chosen : url.getD ((env.read "GRAYLOG_URL").getD Config.defaultBaseUrl) =
      (url.or (env.read "GRAYLOG_URL")).getD "http://127.0.0.1:9000/api" := by
    cases url <;> rfl
  rw [config, Config.ofEnvironment, Config.ofBaseUrl, chosen, Environment.readTimeout_read]
  cases Config.parseBaseUrl ((url.or (env.read "GRAYLOG_URL")).getD "http://127.0.0.1:9000/api")
    with
  | error cause => rfl
  | ok baseUrl => cases username <;> cases password <;> cases seconds <;> rfl

theorem config_eq_error_iff {o : Options} {env : Environment} {cause : ConfigError} :
    o.config env = .error cause ↔ ∃ url, IsSetting (env.Provides "GRAYLOG_URL") o.url url ∧
      Config.parseBaseUrl (url.getD "http://127.0.0.1:9000/api") = .error cause := by
  simp only [isSetting_provides_iff, exists_eq_left']
  rw [config_eq]
  cases Config.parseBaseUrl _ with
  | error refused => simp [Except.map]
  | ok baseUrl => simp [Except.map]

theorem resolves_of_config {o : Options} {env : Environment} {c : Config}
    (h : o.config env = .ok c) : o.Resolves env c := by
  rw [config_eq] at h
  obtain ⟨baseUrl, parsed, rfl⟩ := exists_of_map_eq_ok h
  refine ⟨⟨_, isSetting_provides_iff.mpr rfl, parsed⟩, ?_,
    ⟨_, isSetting_providesWord_iff.mpr rfl, toNat_clampTimeout _⟩⟩
  refine ⟨_, _, isSetting_provides_iff.mpr rfl, isSetting_provides_iff.mpr rfl, ?_⟩
  unfold Config.credentials
  dsimp only
  split <;> rfl

theorem config_congr {o : Options} {env env' : Environment}
    (same : ∀ name, o.LeavesOpen name → env'.get? name = env.get? name) :
    o.config env' = o.config env := by
  have read {name : String} (left : o.LeavesOpen name) : env'.read name = env.read name := by
    rw [Environment.read, Environment.read, Environment.text?, Environment.text?, same name left]
  have url : o.url.or (env'.read "GRAYLOG_URL") = o.url.or (env.read "GRAYLOG_URL") :=
    or_eq_of_none fun none => read (.url none)
  have username :
      o.username.or (env'.read "GRAYLOG_USERNAME") = o.username.or (env.read "GRAYLOG_USERNAME") :=
    or_eq_of_none fun none => read (.username none)
  have password :
      o.password.or (env'.read "GRAYLOG_PASSWORD") = o.password.or (env.read "GRAYLOG_PASSWORD") :=
    or_eq_of_none fun none => read (.password none)
  have seconds :
      o.timeoutSeconds.or ((env'.read "GRAYLOG_HTTP_TIMEOUT_SECS").bind Text.readWord?) =
        o.timeoutSeconds.or ((env.read "GRAYLOG_HTTP_TIMEOUT_SECS").bind Text.readWord?) :=
    or_eq_of_none fun none => by rw [read (.timeout none)]
  rw [config_eq, config_eq, url, username, password, seconds]

/-- A configuration is refused just when its address is, and otherwise it has its settings from the
options and the environment; it depends on the variables that the options leave open and on no
others. -/
theorem resolves_config (o : Options) (env : Environment) :
    (∀ cause, o.config env = .error cause ↔
      ∃ url, IsSetting (env.Provides "GRAYLOG_URL") o.url url ∧
        Config.parseBaseUrl (url.getD "http://127.0.0.1:9000/api") = .error cause) ∧
    (∀ c, o.config env = .ok c → o.Resolves env c) ∧
    ∀ env' : Environment, (∀ name, o.LeavesOpen name → env'.get? name = env.get? name) →
      o.config env' = o.config env :=
  ⟨fun _ => config_eq_error_iff, fun _ => resolves_of_config, fun _ => config_congr⟩

/-- A user name is given, the password is that of the environment, the address there is no text and
the time-out too long. -/
theorem resolves_config_layered :
    let o : Options := ⟨none, some "ops", none, none⟩
    let env : Environment := .ofList [
      ("GRAYLOG_URL", [0xff]), ("GRAYLOG_USERNAME", Text.utf8 "admin"),
      ("GRAYLOG_PASSWORD", Text.utf8 "\t s 1 "), ("GRAYLOG_HTTP_TIMEOUT_SECS", Text.utf8 "9000")]
    let other : Environment := env.insert "GRAYLOG_USERNAME" (Text.utf8 "root")
    let base : Url := ⟨.http, [], none, .ipv4 0x7f000001, some 9000, ["api".toList], none, none⟩
    let c : Config := ⟨base, some "ops", some "s 1", 300⟩
    o.config env = .ok c ∧ o.Resolves env c ∧
      (∀ name, o.LeavesOpen name → other.get? name = env.get? name) ∧
      o.config other = o.config env := by
  intro o env other base c
  have configured : o.config env = .ok c := by decide +kernel
  have same : ∀ name, o.LeavesOpen name → other.get? name = env.get? name := by
    intro name h
    cases h with
    | url | password | timeout => decide +kernel
    | username given => cases given
  obtain ⟨-, resolved, unread⟩ := resolves_config o env
  exact ⟨configured, resolved c configured, same, unread other same⟩

end Options
end CommandLine
end StreamPipelines
