import MonitoringConfig.Proofs.Operator.Credential
/-!
# Settings of converted channels

A channel of a resource says by itself what a channel of a routing configuration leaves to the
global section. Here each of its settings is traced back: to the setting of the channel where that is
set, and to the global one that stands in for it where it is not.

* `Channel.counterpart?` : the global setting that stands in for a setting of a channel.
* `Channel.settingOf` : what a setting comes to. It is what is in effect for it
  (`Channel.inEffect_eq_settingOf`), however the conversion goes about it.
* `IsConvertedChannel`, `IsConvertedReceiver` : a channel and a receiver that have been converted,
  as far as settings are concerned.
* `convert_settings` : **the receivers of a resource are those of the configuration**, channel by
  channel and setting by setting.
-/

namespace MonitoringConfig.Conversion

/-! ### What a setting comes to -/

/-- Whether something is set: it is there, and it is not an empty text. -/
def isSet : Value → Bool
  | .null => false
  | .text s => !s.isEmpty
  | _ => true

namespace Channel

/-- The settings of channels of a kind that have a counterpart in the global section, each with its
counterpart. -/
def counterparts : Channel → List (String × String)
  | email => [("smarthost", "smtp_smarthost"), ("from_", "smtp_from"), ("hello", "smtp_hello"),
    ("auth_username", "smtp_auth_username"), ("auth_identity", "smtp_auth_identity"),
    ("auth_password", "smtp_auth_password"), ("auth_secret", "smtp_auth_secret"),
    ("require_tls", "smtp_require_tls")]
  | slack => [("api_url", "slack_api_url"), ("http_config", "http_config")]
  | pagerDuty => [("url", "pagerduty_url"), ("http_config", "http_config")]
  | webhook => [("http_config", "http_config")]
  | opsGenie => [("api_key", "opsgenie_api_key"), ("api_url", "opsgenie_api_url"),
    ("http_config", "http_config")]

/-- The global setting that stands in for a setting of a channel. -/
def counterpart? (c : Channel) (name : String) : Option String :=
  c.counterparts.lookup name

/-- What a setting of a channel comes to: what it is set to there, or the global setting that stands
in for it. -/
def settingOf (c : Channel) (globals channel : Value) (name : String) : Value :=
  match c.counterpart? name with
  | some counterpart =>
    if isSet (channel.get name) then channel.get name else globals.get counterpart
  | none => channel.get name

/-- What a channel takes over comes from the counterparts of its settings. -/
theorem globalSetting_fallbackFor (c : Channel) : ∀ name ∈ c.source.schema.names,
    (fallbackFor c.allFallbacks name).map (·.globalSetting) = c.counterpart? name := by
  cases c <;> decide

/-- Texts count as missing where they are empty, and everything else where it is not there. -/
theorem emptyIsMissing_iff (c : Channel) : ∀ f ∈ c.allFallbacks,
    (c.source.schema.type? f.setting).all
      (fun t => f.emptyIsMissing == (t.inner == .text) && t.isOptional == !f.emptyIsMissing) =
        true := by
  cases c <;> decide

end Channel

variable {c : Channel} {v globals : Value} {f : Fallback} {name : String}

theorem isSet_eq_not_isNull {t : FieldType} (h : v.fits t = true) (ht : t.inner ≠ .text) :
    isSet v = !v.isNull := by
  cases v with
  | text s => exact absurd (by simpa [Value.fits] using h) ht
  | _ => rfl

theorem isSet_eq_isTruthy (h : v.fits .text = true) : isSet v = v.isTruthy := by
  obtain ⟨s, rfl⟩ := Value.eq_text_of_fits h
  rfl

/-- A channel lacks what is not set. -/
theorem lacks_eq_not_isSet (hf : f ∈ c.allFallbacks) {t : FieldType}
    (ht : c.source.schema.type? f.setting = some t) (hv : v.fits t = true) :
    f.lacks v = !isSet v := by
  have htype := c.emptyIsMissing_iff f hf
  rw [ht, Option.all_some, Bool.and_eq_true, beq_iff_eq, beq_iff_eq] at htype
  obtain ⟨hinner, hoptional⟩ := htype
  rw [Fallback.lacks]
  cases hmissing : f.emptyIsMissing with
  | true =>
    rw [hmissing] at hinner hoptional
    -- A text that may be missing would not do: null is not an empty text.
    have htext : t = .text := by
      cases t with
      | text => rfl
      | optional t => cases hoptional
      | _ => cases hinner
    rw [if_pos rfl, isSet_eq_isTruthy (htext ▸ hv)]
  | false =>
    rw [hmissing] at hinner
    rw [if_neg Bool.false_ne_true, isSet_eq_not_isNull hv (beq_eq_false_iff_ne.1 hinner.symm),
      Bool.not_not]

/-- **What is in effect for a setting is what it is set to, or its counterpart.** -/
theorem Channel.inEffect_eq_settingOf (hv : v.fits (.entity c.source) = true)
    (hname : name ∈ c.source.schema.names) :
    c.inEffect globals v name = c.settingOf globals v name := by
  rw [settingOf, ← c.globalSetting_fallbackFor name hname, inEffect, chosen]
  cases hf : fallbackFor c.allFallbacks name with
  | none => rfl
  | some f =>
    have hsetting : f.setting = name := by simpa using List.find?_some hf
    obtain ⟨g, hg, rfl⟩ := List.mem_map.1 hname
    have htype := Schema.type?_of_mem c.declared.names_nodup hg
    have hlacks := lacks_eq_not_isSet (List.mem_of_find?_eq_some hf) (hsetting ▸ htype)
      (Value.get_fits hv htype).2
    simp only [Option.map_some, Fallback.choose, hlacks]
    cases isSet (v.get g.name) <;> rfl

theorem get_settled (hv : v.fits (.entity c.source) = true)
    (hname : name ∈ c.source.schema.names) :
    (settled globals c v).get name = c.settingOf globals v name := by
  rw [settled, Value.get, Value.field?_map_names, if_pos hname, Option.getD_some,
    Channel.inEffect_eq_settingOf hv hname]

/-! ### Credentials and clients -/

/-- Whether something stands in a resource for a credential: a reference where there is one, and
nothing where it is empty. -/
inductive RefersTo (store : Value) : Value → Value → Prop
  | selector {credential : Value} {t : String} (key : String)
      (h : credentialIn credential = some t) :
      RefersTo store credential (.entity .secretKeySelector [store, .text key, .null])
  | nothing {credential : Value} (h : credentialIn credential = none) :
      RefersTo store credential .null

/-- Whether a client is what another one is converted to. -/
structure IsConvertedClient (store client converted : Value) : Prop where
  isNull : converted.isNull = client.isNull
  proxy : converted.get "proxy_url" = client.get "proxy_url"
  redirects : converted.get "follow_redirects" = client.get "follow_redirects"
  username : RefersTo store ((client.get "basic_auth").get "username")
    ((converted.get "basic_auth").get "username")
  password : RefersTo store ((client.get "basic_auth").get "password")
    ((converted.get "basic_auth").get "password")
  token : RefersTo store (client.get "bearer_token") (converted.get "bearer_token_secret")

variable {store converted : Value} {place key : String}

theorem refersTo_reference (hv : IsCredential v) : RefersTo store v (reference store key v) := by
  rw [reference]
  cases htruthy : v.isTruthy with
  | true =>
    obtain ⟨t, ht⟩ := exists_credentialIn hv htruthy
    exact .selector key ht
  | false =>
    refine .nothing (Option.eq_none_iff_forall_ne_some.2 fun t ht => ?_)
    rw [((credentialIn_eq_some_iff hv t).1 ht).1] at htruthy
    cases htruthy

theorem refersTo_authenticationOf (hname : name ∈ ["username", "password"])
    (hv : IsCredential (v.get name)) :
    RefersTo store (v.get name) ((authenticationOf store place v).get name) := by
  rw [authenticationOf]
  split
  · next hnull =>
    rw [Value.eq_null_of_isNull hnull]
    exact .nothing rfl
  · obtain rfl | rfl : name = "username" ∨ name = "password" := by simpa using hname
    · exact refersTo_reference hv
    · exact refersTo_reference hv

/-- **The client of a channel is converted** as it stands there. -/
theorem isConvertedClient_clientOf (hv : v.fits (.entity c.source) = true) :
    IsConvertedClient store (v.get "http_config") (clientOf store place (v.get "http_config")) := by
  have hread : ∀ s ∈ [Slot.username, .password, .bearerToken], IsCredential (s.read v) :=
    fun s hs => isCredential_read hv (List.mem_append_right _ hs)
  simp only [List.forall_mem_cons, Slot.read] at hread
  obtain ⟨husername, hpassword, htoken, -⟩ := hread
  generalize v.get "http_config" = client at husername hpassword htoken ⊢
  cases hnull : client.isNull with
  | true =>
    rw [Value.eq_null_of_isNull hnull]
    exact ⟨rfl, rfl, rfl, .nothing rfl, .nothing rfl, .nothing rfl⟩
  | false =>
    rw [clientOf, hnull, if_neg Bool.false_ne_true]
    exact ⟨hnull.symm, rfl, rfl, refersTo_authenticationOf (by decide) husername,
      refersTo_authenticationOf (by decide) hpassword, refersTo_reference htoken⟩

/-! ### Channels and receivers -/

/-- Whether a channel is what another one is converted to, given the global section. -/
structure IsConvertedChannel (c : Channel) (store globals channel converted : Value) : Prop where
  isOfKind : ∃ fields, converted = .entity c.target fields
  credential : ∀ name ∈ secretFields c.source,
    RefersTo store (c.settingOf globals channel name) (converted.get name)
  client : c ≠ .email → IsConvertedClient store (c.settingOf globals channel "http_config")
    (converted.get "http_config")
  setting : ∀ name ∈ c.source.schema.names, name ∉ secretFields c.source →
    name ≠ "http_config" → name ≠ "tls_config" →
      converted.get name = c.settingOf globals channel name

/-- Whether a receiver is what another one is converted to: it has the same name, and the channels
of each kind one by one. -/
structure IsConvertedReceiver (store globals receiver converted : Value) : Prop where
  name : converted.get "name" = receiver.get "name"
  channels : ∀ c : Channel, List.Forall₂ (IsConvertedChannel c store globals)
    (receiver.get c.field).elements (converted.get c.field).elements

theorem get_channelOf (hname : name ∈ c.source.schema.names) :
    (channelOf store place c v).get name = fieldOf store place c name (v.get name) := by
  rw [Value.get, field?_channelOf hname]
  rfl

theorem isConvertedChannel_channelOf (hv : v.fits (.entity c.source) = true)
    (hglobals : globals.fits (.entity .alertingGlobal) = true) :
    IsConvertedChannel c store globals v (channelOf store place c (settled globals c v)) := by
  -- The channel is converted after it has taken over what it lacks.
  have hsettled := (withGlobals_eq hv hglobals).2
  refine ⟨⟨_, rfl⟩, fun name hsecret => ?_, fun hc => ?_, fun name hname hsecret hclient htls => ?_⟩
  · have hname : name ∈ c.source.schema.names := by
      rw [← c.declared.filter_secretFields] at hsecret
      exact (List.mem_filter.1 hsecret).1
    rw [get_channelOf hname, fieldOf, if_pos hsecret, ← get_settled hv hname]
    exact refersTo_reference (isCredential_read (s := .setting name) hsettled
      (List.mem_append_left _ (List.mem_map_of_mem hsecret)))
  · have hname := c.declared.client_mem_names.2 hc
    rw [get_channelOf hname, fieldOf, if_neg c.declared.client_notMem_secretFields, if_pos rfl,
      ← get_settled hv hname]
    exact isConvertedClient_clientOf hsettled
  · rw [get_channelOf hname, fieldOf, if_neg hsecret, if_neg hclient, if_neg htls,
      get_settled hv hname]

/-- **A receiver keeps its name and its channels**, in their order. -/
theorem isConvertedReceiver_receiverOf (hv : v.fits (.entity .receiver) = true)
    (hglobals : globals.fits (.entity .alertingGlobal) = true) :
    IsConvertedReceiver store globals v (receiverOf store globals v) := by
  refine ⟨rfl, fun c => ?_⟩
  obtain ⟨-, hchannels⟩ := Value.elements_fits hv c.declared.type_field
  -- The number of a channel is part of the names of its keys, and of nothing that is said here.
  rw [get_receiverOf, Value.elements_list, channelsOf, List.forall₂_map_right_iff]
  generalize (v.get c.field).elements = channels at hchannels ⊢
  suffices h : List.Forall₂ (fun channel (e : Value × Nat) =>
      IsConvertedChannel c store globals channel (channelOf store (channelName (nameOf v) c e.2) c
        (settled globals c e.1))) ((channels.zipIdx 0).map Prod.fst) (channels.zipIdx 0) by
    rwa [List.zipIdx_map_fst] at h
  rw [List.forall₂_map_left_iff, List.forall₂_same]
  intro e he
  exact isConvertedChannel_channelOf (hchannels e.1 (List.fst_mem_of_mem_zipIdx he)) hglobals

/-! ### Configurations -/

variable {names : Names} {config : Value}

/-- Nothing is set in the global section of a configuration without one. -/
theorem isSet_globalsOf (h : config.get "global_" = .null) (c : Channel) :
    ∀ e ∈ c.counterparts, isSet ((globalsOf config).get e.2) = false := by
  rw [globalsOf, h]
  cases c <;> decide

theorem forall₂_receiversOf (hconfig : config.fits (.entity .routingConfig) = true) :
    List.Forall₂ (IsConvertedReceiver names.storeName (globalsOf config))
      (config.get "receivers").elements (receiversOf names config) := by
  obtain ⟨-, hreceivers⟩ :=
    Value.elements_fits hconfig (rfl : Kind.routingConfig.schema.type? "receivers" = _)
  rw [receiversOf, List.forall₂_map_right_iff, List.forall₂_same]
  exact fun r hr => isConvertedReceiver_receiverOf (hreceivers r hr) (globalsOf_fits hconfig)

/-- **The receivers of a resource are those of the configuration**, with all their channels, and a
setting of a channel is what it is set to there or, where it is not set, the global setting that
stands in for it. Credentials are referred to just if they are not empty. -/
theorem convert_settings (hconfig : config.fits (.entity .routingConfig) = true)
    (hnames : names.isTyped = true) :
    ∃ resource secret, (convert names config).result = .ok (resource, secret) ∧
      List.Forall₂ (IsConvertedReceiver (nameIn secret) (globalsOf config))
        (config.get "receivers").elements (receiversIn resource).elements := by
  exact ⟨_, _, convert_eq hconfig (Names.labels_fits hnames), forall₂_receiversOf hconfig⟩

/-- A configuration with a global section, and a receiver with a channel that leaves everything to
it and one that sets its own secret. -/
def globalMail : Value :=
  .build .routingConfig [
    ("global_", .build .alertingGlobal [("smtp_smarthost", .text "mail.example:587"),
      ("smtp_auth_password", .secret ⟨"hunter2"⟩),
      ("slack_api_url", .secret ⟨"https://hooks.example/all"⟩)]),
    ("receivers", .list [.build .receiver [("name", .text "ops"),
      ("email_configs", .list [.build .emailConfig [("to", .text "ops@example.org")]]),
      ("slack_configs", .list
        [.build .slackConfig [("api_url", .secret ⟨"https://hooks.example/one"⟩)]])]])]

/-- Mail is sent through the global host, and the chat channel keeps its own secret. -/
theorem convert_settings_globalMail :
    globalMail.fits (.entity .routingConfig) = true ∧ teamNames.isTyped = true ∧
    ∃ resource secret r mail chat, (convert teamNames globalMail).result = .ok (resource, secret) ∧
      (receiversIn resource).elements = [r] ∧ (r.get "email_configs").elements = [mail] ∧
      (r.get "slack_configs").elements = [chat] ∧
      mail.get "smarthost" = .text "mail.example:587" ∧
      mail.get "to" = .text "ops@example.org" ∧
      RefersTo (nameIn secret) (.secret ⟨"hunter2"⟩) (mail.get "auth_password") ∧
      RefersTo (nameIn secret) (.secret ⟨"https://hooks.example/one"⟩) (chat.get "api_url") := by
  have hconfig : globalMail.fits (.entity .routingConfig) = true := by decide
  have hnames : teamNames.isTyped = true := by decide
  obtain ⟨resource, secret, hresult, hreceivers⟩ := convert_settings hconfig hnames
  obtain ⟨r, rest, hr, hrest, hall⟩ := List.forall₂_cons_left_iff.1 hreceivers
  cases hrest
  obtain ⟨mail, mails, hmail, hmails, hallMail⟩ :=
    List.forall₂_cons_left_iff.1 (hr.channels .email)
  cases hmails
  obtain ⟨chat, chats, hchat, hchats, hallChat⟩ :=
    List.forall₂_cons_left_iff.1 (hr.channels .slack)
  cases hchats
  refine ⟨hconfig, hnames, resource, secret, r, mail, chat, hresult, hall, hallMail, hallChat,
    ?_, ?_, ?_, ?_⟩
  · exact hmail.setting "smarthost" (by decide) (by decide) (by decide) (by decide)
  · exact hmail.setting "to" (by decide) (by decide) (by decide) (by decide)
  · exact hmail.credential "auth_password" (by decide)
  · exact hchat.credential "api_url" (by decide)

end MonitoringConfig.Conversion
