import MonitoringConfig.Builder.Operator
import MonitoringConfig.Routing.Inhibition
/-!
# From routing configurations to resources

A routing configuration becomes a resource of the operator. Its secrets go into an object of their
own, and references to that object stand in their places. A resource has no global section, so
channels take over what they would have found there.

* `Conversion.channel` converts a channel.
* `Conversion.convert` converts a configuration.
-/

namespace MonitoringConfig.Conversion

open Logged

/-! ### Secrets and references -/

/-- A key and the secret kept under it. -/
abbrev Kept := Value × Value

/-- Whether a character may stand in the key of a secret. -/
def isKeyChar (c : Char) : Bool :=
  c.isAlphanum || c == '-' || c == '.' || c == '_'

/-- The characters of a key; a run of characters that may not stand there is one dash. `replaced`
tells whether such a run is under way. -/
def keyChars (replaced : Bool) : List Char → List Char
  | [] => []
  | c :: cs =>
    if isKeyChar c then c :: keyChars false cs
    else if replaced then keyChars true cs
    else '-' :: keyChars true cs

/-- The key of a secret. -/
def keyOf (name : String) : String :=
  String.ofList (keyChars false name.toList)

/-- What is kept of a secret. -/
def keptValue : Value → Value
  | .secret s => .text s.reveal
  | v => v

/-- A reference to a secret, which is kept under its key; there is none to what is empty. -/
def refer (store : Value) (name : String) (secret : Value) :
    Except Failure (Value × List Kept) := do
  if secret.isTruthy then
    let key := Value.text (keyOf name)
    let reference ← Entity.of .secretKeySelector [("name", store), ("key", key)]
    return (reference, [(key, keptValue secret)])
  else return (.null, [])

/-! ### Clients -/

/-- The fields of an entity of another kind that has them too. -/
def sameFields (v : Value) (names : List String) : Except Failure (List (String × Value)) :=
  names.mapM fun name => do return (name, ← v.field name)

/-- Converts what is said about certificates. -/
def certificates (v : Value) : Except Failure Value :=
  if v.isNull then .ok .null
  else do
    Entity.of .safeTlsConfig (← sameFields v
      ["ca_file", "cert_file", "key_file", "server_name", "insecure_skip_verify"])

/-- Converts basic authentication. -/
def authentication (store : Value) (place : String) (v : Value) :
    Except Failure (Value × List Kept) := do
  if v.isNull then return (.null, [])
  else
    let (user, keptUser) ← refer store (place ++ "-username") (← v.field "username")
    let (password, keptPassword) ← refer store (place ++ "-password") (← v.field "password")
    let auth ← Entity.of .selectorAuth [("username", user), ("password", password)]
    return (auth, keptUser ++ keptPassword)

/-- The event of settings that a resource has no place for. -/
def droppedEvent (place : String) : Event :=
  ⟨.debug, "http_config_fields_dropped", [("prefix", .text place)]⟩

/-- Whether a client has settings that a resource has no place for. -/
def isReduced (v : Value) : Except Failure Bool := do
  if (← v.field "authorization").isTruthy then return true
  else if (← v.field "bearer_token_file").isTruthy then return true
  else return !(← v.field "enable_http2").isNull

/-- Converts a client of the web. -/
def client (store : Value) (place : String) (v : Value) : Logged (Value × List Kept) := do
  if v.isNull then return (.null, [])
  else
    if ← isReduced v then say (droppedEvent place)
    let (auth, keptAuth) ← authentication store place (← v.field "basic_auth")
    let (token, keptToken) ← refer store (place ++ "-bearer-token") (← v.field "bearer_token")
    let tls ← certificates (← v.field "tls_config")
    let rest ← sameFields v ["proxy_url", "follow_redirects"]
    let converted ← Entity.of .selectorHttp
      ([("basic_auth", auth), ("bearer_token_secret", token), ("tls_config", tls)] ++ rest)
    return (converted, keptAuth ++ keptToken)

/-! ### Channels -/

/-- The kinds of channel. -/
inductive Channel where
  | email | slack | pagerDuty | webhook | opsGenie
  deriving DecidableEq, Repr

namespace Channel

/-- All kinds, in the order in which receivers list them. -/
def all : List Channel := [email, slack, pagerDuty, webhook, opsGenie]

/-- The name of a kind in keys. -/
def name : Channel → String
  | email => "email"
  | slack => "slack"
  | pagerDuty => "pagerduty"
  | webhook => "webhook"
  | opsGenie => "opsgenie"

/-- The field of receivers that lists channels of a kind. -/
def field (c : Channel) : String :=
  c.name ++ "_configs"

/-- The kind of entity of a channel in a resource. -/
def target : Channel → Kind
  | email => .operatorEmail
  | slack => .operatorSlack
  | pagerDuty => .operatorPagerDuty
  | webhook => .operatorWebhook
  | opsGenie => .operatorOpsGenie

/-- The kind of channel that an entity is. -/
def ofKind? : Kind → Option Channel
  | .emailConfig | .operatorEmail => some email
  | .slackConfig | .operatorSlack => some slack
  | .pagerDutyConfig | .operatorPagerDuty => some pagerDuty
  | .webhookConfig | .operatorWebhook => some webhook
  | .opsGenieConfig | .operatorOpsGenie => some opsGenie
  | _ => none

end Channel

/-- Where a setting of a channel comes from if the channel does not have it: the name of the
setting, that of the global one, and whether an empty setting counts as missing. -/
structure Fallback where
  setting : String
  globalSetting : String
  emptyIsMissing : Bool
  deriving DecidableEq, Repr

/-- The settings that channels of a kind take over. -/
def Channel.fallbacks : Channel → List Fallback
  | .email => [⟨"smarthost", "smtp_smarthost", true⟩, ⟨"from_", "smtp_from", true⟩,
    ⟨"hello", "smtp_hello", true⟩, ⟨"auth_username", "smtp_auth_username", true⟩,
    ⟨"auth_identity", "smtp_auth_identity", true⟩,
    ⟨"auth_password", "smtp_auth_password", false⟩, ⟨"auth_secret", "smtp_auth_secret", false⟩,
    ⟨"require_tls", "smtp_require_tls", false⟩]
  | .slack => [⟨"api_url", "slack_api_url", false⟩]
  | .pagerDuty => [⟨"url", "pagerduty_url", true⟩]
  | .webhook => []
  | .opsGenie => [⟨"api_key", "opsgenie_api_key", false⟩, ⟨"api_url", "opsgenie_api_url", true⟩]

/-- The client is taken over by every channel that has one. -/
def clientFallback : Fallback :=
  ⟨"http_config", "http_config", false⟩

/-- A channel with a setting taken over if it has none. -/
def Fallback.apply (f : Fallback) (defaults channel : Value) : Except Failure Value := do
  match channel.field? f.setting with
  | none => return channel
  | some own =>
    if if f.emptyIsMissing then !own.isTruthy else own.isNull then
      return channel.setField f.setting (← defaults.field f.globalSetting)
    else return channel

/-- A channel with the settings that it takes over. -/
def withGlobals (defaults channel : Value) : Except Failure Value := do
  match channel with
  | .entity kind _ =>
    let own := ((Channel.ofKind? kind).map Channel.fallbacks).getD []
    (own ++ [clientFallback]).foldlM (fun v f => f.apply defaults v) channel
  | v => return v

/-- The names of the fields of a kind that hold secrets. -/
def secretFields (kind : Kind) : List String :=
  (kind.schema.fields.filter fun f => f.type == .optional .secret).map (·.name)

/-- The fields of a channel with references in place of its secrets. -/
def referFields (store : Value) (place : String) (secrets : List String) :
    List (String × Value) → Except Failure (List (String × Value) × List Kept)
  | [] => .ok ([], [])
  | (name, v) :: rest => do
    let (w, kept) ← if secrets.contains name then refer store (place ++ "-" ++ name) v
      else pure (v, [])
    let (ws, more) ← referFields store place secrets rest
    return ((name, w) :: ws, kept ++ more)

/-- The fields with one of them replaced. -/
def replaceField (fields : List (String × Value)) (name : String) (v : Value) :
    List (String × Value) :=
  fields.map fun (k, w) => if k == name then (k, v) else (k, w)

/-- Converts a channel that has taken over what it takes over. -/
def channel (store : Value) (target : Channel) (place : String) (v : Value) :
    Logged (Value × List Kept) := do
  let .entity kind values := v | failPlain .wrongType
  let named := kind.schema.names.zip values
  let (fields, kept) ← ofExcept (referFields store place (secretFields kind) named)
  let (fields, keptClient) ← match fields.lookup "http_config" with
    | some config => do
      let (converted, kept) ← client store (place ++ "-http") config
      pure (replaceField fields "http_config" converted, kept)
    | none => pure (fields, [])
  let fields ← if target == .email then
      match fields.lookup "tls_config" with
      | some tls => ofExcept do
          return replaceField fields "tls_config" (← certificates tls)
      | none => failPlain .missingKey
    else pure fields
  let converted ← target.target.builder.call [] fields
  return (converted, kept ++ keptClient)

/-- Converts channels of a kind, numbered from a first one on. -/
def channels (store defaults : Value) (target : Channel) (receiver : String) :
    Nat → List Value → Logged (List Value × List Kept)
  | _, [] => .value ([], [])
  | index, v :: vs => do
    let whole ← ofExcept (withGlobals defaults v)
    let place := receiver ++ "-" ++ target.name ++ "-" ++ String.ofList (digitsText index)
    let (converted, kept) ← channel store target place whole
    let (rest, more) ← channels store defaults target receiver (index + 1) vs
    return (converted :: rest, kept ++ more)

/-! ### Receivers and rules -/

/-- Converts the channels of a receiver, of all kinds. -/
def allChannels (store defaults receiver name : Value) :
    List Channel → Logged (List (String × Value) × List Kept)
  | [] => .value ([], [])
  | c :: cs => do
    let items ← ofExcept do (← receiver.field c.field).items
    let (converted, kept) ← channels store defaults c name.shown 0 items
    let (rest, more) ← allChannels store defaults receiver name cs
    return ((c.field, .list converted) :: rest, kept ++ more)

/-- Converts a receiver. -/
def receiver (store defaults v : Value) : Logged (Value × List Kept) := do
  let name ← ofExcept (v.field "name")
  let (lists, kept) ← allChannels store defaults v name Channel.all
  let converted ← ofExcept (Entity.of .operatorReceiver (("name", name) :: lists))
  return (converted, kept)

/-- Converts receivers. -/
def receivers (store defaults : Value) : List Value → Logged (List Value × List Kept)
  | [] => .value ([], [])
  | v :: vs => do
    let (converted, kept) ← receiver store defaults v
    let (rest, more) ← receivers store defaults vs
    return (converted :: rest, kept ++ more)

/-- The matchers of a sort of alerts, with a matcher for every label that has a given value. -/
def sortMatchers (matchers values : Value) : Except Failure Value := do
  let given ← matchers.items
  let equals := (← Inhibition.entriesOf values).map fun (k, v) =>
    Value.matcher ⟨k.shown, .equal, v.shown⟩
  return .list (given ++ equals)

/-- Converts a rule of inhibition. -/
def inhibition (v : Value) : Except Failure Value := do
  let source ← sortMatchers (← v.field "source_matchers") (← v.field "source_match")
  let target ← sortMatchers (← v.field "target_matchers") (← v.field "target_match")
  Entity.of .operatorInhibitRule [("source_match", source), ("target_match", target),
    ("equal", .list (← (← v.field "equal").items))]

/-! ### Configurations -/

/-- How the resource and the object of its secrets are to be called. -/
structure Names where
  name : Value
  space : Value
  store : Value
  labels : Value
  deriving Repr

/-- The event of templates that a resource has no place for. -/
def templatesEvent (name : Value) (count : Nat) : Event :=
  ⟨.debug, "templates_dropped", [("name", name), ("count", .int count)]⟩

/-- The event of a configuration that was converted. -/
def convertedEvent (name : Value) (count : Nat) : Event :=
  ⟨.debug, "converted_alertmanager_config", [("name", name), ("secret_keys", .int count)]⟩

/-- The number of items of a value that is asked for it. -/
def sizeOf (v : Value) : Except Failure Nat := do
  return (← v.items).length

/-- Converts a configuration: the resource, and the object of its secrets. -/
def convert (names : Names) (config : Value) : Logged (Value × Value) := do
  let store := names.store.orElse (.text (names.name.shown ++ "-secrets"))
  let defaults := (← config.field "global_").orElse
    (.entity .alertingGlobal Schema.alertingGlobal.defaults)
  let templates ← config.field "templates"
  if templates.isTruthy then say (templatesEvent names.name (← sizeOf templates))
  let (converted, kept) ← receivers store defaults (← (← config.field "receivers").items)
  let rules ← (← (← config.field "inhibit_rules").items).mapM fun v => ofExcept (inhibition v)
  let times ← (← config.field "mute_time_intervals").joined (← config.field "time_intervals")
  let spec ← Entity.of .routingResourceSpec [("route", ← config.field "route"),
    ("receivers", .list converted), ("inhibit_rules", .list rules),
    ("mute_time_intervals", times)]
  let about ← Operator.metadata names.name names.space names.labels .null
  let resource ← Entity.of .routingResource [("metadata", about), ("spec", spec)]
  let aboutStore ← Operator.metadata store names.space names.labels .null
  let data := Value.insertEntries [] kept
  let secret ← Entity.of .kubernetesSecret [("metadata", aboutStore), ("string_data", .map data)]
  say (convertedEvent names.name data.length)
  return (resource, secret)

end MonitoringConfig.Conversion
