import MonitoringConfig.Proofs.Building
import MonitoringConfig.Proofs.Operator.Key
/-!
# Converted channels

What becomes of a channel whose fields hold what they are declared to hold. The conversion of such
a channel does not fail, so it is described by plain functions.

* `refer_eq`, `client_eq`, `channel_eq` : the conversion comes to the description.
* `keptOf` : what is kept of a channel is kept slot by slot.
-/

namespace MonitoringConfig.Conversion

open Logged

/-! ### References -/

/-- What stands in a resource for a credential: a reference to the key it is kept under. -/
def reference (store : Value) (key : String) (credential : Value) : Value :=
  if credential.isTruthy then .entity .secretKeySelector [store, .text key, .null] else .null

/-- What is kept of a credential. -/
def keep (key : String) (credential : Value) : List Kept :=
  if credential.isTruthy then [(.text key, keptValue credential)] else []

theorem refer_eq (store : Value) (name : String) (credential : Value) :
    refer store name credential =
      .ok (reference store (keyOf name) credential, keep (keyOf name) credential) := by
  have hmake := Entity.of_isPlain .secretKeySelector
    [("name", store), ("key", .text (keyOf name))] rfl rfl rfl
  rw [refer, reference, keep]
  cases credential.isTruthy with
  | true =>
    simp only [if_true, hmake]
    rfl
  | false => rfl

/-! ### Clients -/

/-- Converted certificates. -/
def certificatesOf (v : Value) : Value :=
  if v.isNull then .null
  else .build .safeTlsConfig
    (["ca_file", "cert_file", "key_file", "server_name", "insecure_skip_verify"].map
      fun name => (name, v.get name))

/-- Converted basic authentication. -/
def authenticationOf (store : Value) (place : String) (v : Value) : Value :=
  if v.isNull then .null
  else .build .selectorAuth
    [("username", reference store (keyOf (place ++ "-username")) (v.get "username")),
      ("password", reference store (keyOf (place ++ "-password")) (v.get "password"))]

/-- A converted client. -/
def clientOf (store : Value) (place : String) (v : Value) : Value :=
  if v.isNull then .null
  else .build .selectorHttp
    ([("basic_auth", authenticationOf store place (v.get "basic_auth")),
      ("bearer_token_secret",
        reference store (keyOf (place ++ "-bearer-token")) (v.get "bearer_token")),
      ("tls_config", certificatesOf (v.get "tls_config"))] ++
        ["proxy_url", "follow_redirects"].map fun name => (name, v.get name))

/-- What is kept of basic authentication. -/
def keptAuthentication (place : String) (v : Value) : List Kept :=
  keep (keyOf (place ++ "-username")) (v.get "username") ++
    keep (keyOf (place ++ "-password")) (v.get "password")

/-- What is kept of a client. -/
def keptClient (place : String) (v : Value) : List Kept :=
  keptAuthentication place (v.get "basic_auth") ++
    keep (keyOf (place ++ "-bearer-token")) (v.get "bearer_token")

variable {store v : Value} {place : String}

theorem sameFields_eq {kind : Kind} {names : List String} (h : v.fits (.entity kind) = true)
    (hnames : ∀ name ∈ names, (kind.schema.type? name).isSome = true) :
    sameFields v names = .ok (names.map fun name => (name, v.get name)) := by
  induction names with
  | nil => rfl
  | cons name names ih =>
    have hrest := ih fun n hn => hnames n (List.mem_cons_of_mem _ hn)
    rw [sameFields] at hrest
    rw [sameFields, List.mapM_cons, Value.field_of_fits h name (hnames name List.mem_cons_self),
      hrest]
    rfl

theorem certificates_eq (h : v.fits (.optional (.entity .tlsConfig)) = true) :
    certificates v = .ok (certificatesOf v) := by
  obtain rfl | h := Value.fits_optional h
  · rfl
  obtain ⟨fields, rfl, -⟩ := Value.eq_entity_of_fits h
  rw [certificates, certificatesOf, if_neg (by simp [Value.isNull]),
    if_neg (by simp [Value.isNull]), sameFields_eq h (by decide)]
  exact Entity.of_isPlain .safeTlsConfig _ rfl rfl rfl

theorem authentication_eq (h : v.fits (.optional (.entity .basicAuth)) = true) :
    authentication store place v =
      .ok (authenticationOf store place v, keptAuthentication place v) := by
  obtain rfl | h := Value.fits_optional h
  · rfl
  have huser := Value.field_of_fits h "username" rfl
  have hpassword := Value.field_of_fits h "password" rfl
  have hmake := fun given => Entity.of_isPlain .selectorAuth given rfl rfl rfl
  obtain ⟨fields, rfl, -⟩ := Value.eq_entity_of_fits h
  rw [authentication, authenticationOf, if_neg (by simp [Value.isNull]),
    if_neg (by simp [Value.isNull]), huser, hpassword]
  simp only [bind, Except.bind, refer_eq, hmake]
  rfl

theorem isReduced_eq_ok (h : v.fits (.entity .httpConfig) = true) :
    ∃ reduced, isReduced v = .ok reduced := by
  have hheader := Value.field_of_fits h "authorization" rfl
  have hfile := Value.field_of_fits h "bearer_token_file" rfl
  have hversion := Value.field_of_fits h "enable_http2" rfl
  rw [isReduced, hheader, hfile, hversion]
  simp only [bind, Except.bind]
  split
  · exact ⟨_, rfl⟩
  · split <;> exact ⟨_, rfl⟩

/-- **A client is converted** without fail, whether an event is logged or not. -/
theorem client_eq (h : v.fits (.optional (.entity .httpConfig)) = true) :
    (client store place v).result = .ok (clientOf store place v, keptClient place v) := by
  obtain rfl | h := Value.fits_optional h
  · rfl
  obtain ⟨reduced, hreduced⟩ := isReduced_eq_ok h
  have hauth := Value.field_of_fits h "basic_auth" rfl
  have htoken := Value.field_of_fits h "bearer_token" rfl
  have htls := Value.field_of_fits h "tls_config" rfl
  have hauthFits : (v.get "basic_auth").fits (.optional (.entity .basicAuth)) = true :=
    (Value.get_fits h rfl).2
  have htlsFits : (v.get "tls_config").fits (.optional (.entity .tlsConfig)) = true :=
    (Value.get_fits h rfl).2
  have hrest : sameFields v ["proxy_url", "follow_redirects"] = _ := sameFields_eq h (by decide)
  have hmake := fun given => Entity.of_isPlain .selectorHttp given rfl rfl rfl
  obtain ⟨fields, rfl, -⟩ := Value.eq_entity_of_fits h
  rw [client, clientOf, if_neg (by simp [Value.isNull]), if_neg (by simp [Value.isNull])]
  simp only [hreduced, result_lift_bind]
  cases reduced <;>
    simp only [if_true, Bool.false_eq_true, if_false, result_say_bind, result_lift_bind, hauth,
      authentication_eq hauthFits, htoken, refer_eq, htls, certificates_eq htlsFits, hrest,
      hmake] <;> rfl

/-! ### Channels -/

/-- The field of a converted channel that has a name, given what stands in the channel. -/
def fieldOf (store : Value) (place : String) (c : Channel) (name : String) (v : Value) : Value :=
  if name ∈ secretFields c.source then reference store (keyOf (place ++ "-" ++ name)) v
  else if name = "http_config" then clientOf store (place ++ "-http") v
  else if name = "tls_config" then certificatesOf v
  else v

/-- A converted channel. -/
def channelOf (store : Value) (place : String) (c : Channel) (v : Value) : Value :=
  .build c.target (c.source.schema.names.map fun name =>
    (name, fieldOf store place c name (v.get name)))

/-- What stands in a slot of a channel. -/
def Slot.read (v : Value) : Slot → Value
  | setting name => v.get name
  | username => ((v.get "http_config").get "basic_auth").get "username"
  | password => ((v.get "http_config").get "basic_auth").get "password"
  | bearerToken => (v.get "http_config").get "bearer_token"

/-- What is kept of a channel. -/
def keptOf (place : String) (c : Channel) (v : Value) : List Kept :=
  (Slot.ofChannel c).flatMap fun s => keep (keyOf (s.nameIn place)) (s.read v)

theorem replaceField_map (names : List String) (g : String → Value) (name : String) (w : Value) :
    replaceField (names.map fun n => (n, g n)) name w =
      names.map fun n => (n, if n = name then w else g n) := by
  rw [replaceField, List.map_map]
  refine List.map_congr_left fun n _ => ?_
  by_cases h : n = name <;> simp [h]

/-- The secrets among the fields of a channel are referred to and kept. -/
theorem referFields_eq (secrets names : List String) (g : String → Value) :
    referFields store place secrets (names.map fun n => (n, g n)) =
      .ok (names.map fun n => (n, if n ∈ secrets then
            reference store (keyOf (place ++ "-" ++ n)) (g n) else g n),
        (names.filter (secrets.contains ·)).flatMap fun n =>
          keep (keyOf (place ++ "-" ++ n)) (g n)) := by
  induction names with
  | nil => rfl
  | cons n names ih =>
    rw [List.map_cons, referFields, ih, List.map_cons, List.filter_cons]
    by_cases h : n ∈ secrets
    · have hcontains : secrets.contains n = true := List.contains_iff_mem.2 h
      simp only [hcontains, if_true, refer_eq, h, List.flatMap_cons]
      rfl
    · have hcontains : secrets.contains n = false := by simpa using h
      simp only [hcontains, Bool.false_eq_true, if_false, h]
      rfl

/-- What is declared of the channels of a kind, and of those that they are converted to. -/
structure Channel.Declared (c : Channel) : Prop where
  names_nodup : c.source.schema.names.Nodup
  target_names_nodup : c.target.schema.names.Nodup
  names_subset : ∀ name ∈ c.source.schema.names, name ∈ c.target.schema.names
  isRequired_target : ∀ f ∈ c.target.schema.fields, f.isRequired = false
  /-- What is not converted is declared to hold the same in a resource, unless it may be
  anything. -/
  type_target : ∀ f ∈ c.target.schema.fields, f.type.isPlain = true ∨
    (c.source.schema.type? f.name = some f.type ∧ f.name ∉ secretFields c.source ∧
      f.name ≠ "http_config" ∧ f.name ≠ "tls_config")
  /-- What converted channels have beyond the fields of channels is nothing by default. -/
  default_target : ∀ f ∈ c.target.schema.fields, f.name ∉ c.source.schema.names →
    (f.default?.getD .null).isNull = true
  /-- The secrets of a channel are fields of it. -/
  filter_secretFields :
    c.source.schema.names.filter ((secretFields c.source).contains ·) = secretFields c.source
  type_secretFields : ∀ name ∈ secretFields c.source,
    c.source.schema.type? name = some (.optional .secret)
  /-- Every channel but mail has a client. -/
  client_mem_names : "http_config" ∈ c.source.schema.names ↔ c ≠ email
  client_notMem_secretFields : "http_config" ∉ secretFields c.source
  type_client : "http_config" ∈ c.source.schema.names →
    c.source.schema.type? "http_config" = some (.optional (.entity .httpConfig))
  /-- Mail alone has certificates of its own. -/
  certificates_mem_names : "tls_config" ∈ c.source.schema.names ↔ c = email
  certificates_notMem_secretFields : "tls_config" ∉ secretFields c.source
  type_certificates : "tls_config" ∈ c.source.schema.names →
    c.source.schema.type? "tls_config" = some (.optional (.entity .tlsConfig))
  /-- The channels of a receiver are declared to be of their kinds. -/
  type_field : Kind.receiver.schema.type? c.field = some (.listOf (.entity c.source))

theorem Channel.declared (c : Channel) : c.Declared := by
  constructor <;> cases c <;> decide

variable {c : Channel}

/-- The fields of a converted channel are such that the channel can be made of them. -/
theorem call_target (store : Value) (place : String) (h : v.fits (.entity c.source) = true) :
    (c.target.builder.call [] (c.source.schema.names.map fun name =>
      (name, fieldOf store place c name (v.get name)))).result =
        .ok (channelOf store place c v) := by
  have hprojected : c.target.isProjected = true := by cases c <;> rfl
  have hexpr : Entity.exprField? c.target = none := by cases c <;> rfl
  rw [Kind.builder_call c.declared.target_names_nodup ?_ ?_, channelOf,
    Entity.of_eq_build c.target hprojected hexpr ?_]
  · intro f hf
    obtain hplain | ⟨htype, hsecret, hclient, hcertificates⟩ := c.declared.type_target f hf
    · exact FieldType.coerce_of_isPlain hplain _
    · obtain ⟨g, hg, -⟩ := Option.map_eq_some_iff.1 htype
      have hname : f.name ∈ c.source.schema.names :=
        List.mem_map.2 ⟨g, List.mem_of_find?_eq_some hg, by simpa using List.find?_some hg⟩
      rw [Field.given, lookup_map_self, if_pos hname, Option.getD_some, fieldOf, if_neg hsecret,
        if_neg hclient, if_neg hcertificates]
      exact FieldType.coerce_of_fits (Value.get_fits h htype).2
  · intro e he
    obtain ⟨name, hname, rfl⟩ := List.mem_map.1 he
    exact c.declared.names_subset name hname
  · intro f hf hrequired
    rw [c.declared.isRequired_target f hf] at hrequired
    cases hrequired

theorem keptOf_eq (place : String) (c : Channel) (v : Value) :
    keptOf place c v = (secretFields c.source).flatMap (fun name =>
        keep (keyOf (place ++ "-" ++ name)) (v.get name)) ++
      keptClient (place ++ "-http") (v.get "http_config") := by
  rw [keptOf, Slot.ofChannel, List.flatMap_append, List.flatMap_map]
  simp [keptClient, keptAuthentication, Slot.nameIn, Slot.read]

/-- In mail, the certificates are converted beside the secrets. -/
theorem fieldOf_map_email (g : String → Value) :
    (Channel.email.source.schema.names.map fun name =>
        (name, fieldOf store place .email name (g name))) =
      Channel.email.source.schema.names.map fun name => (name,
        if name = "tls_config" then certificatesOf (g "tls_config")
        else if name ∈ secretFields Channel.email.source then
          reference store (keyOf (place ++ "-" ++ name)) (g name)
        else g name) :=
  List.map_congr_left fun name hname => by
    by_cases h : name = "tls_config"
    · simp [fieldOf, h, Channel.email.declared.certificates_notMem_secretFields]
    · have hclient : name ≠ "http_config" := fun h =>
        Channel.email.declared.client_mem_names.1 (h ▸ hname) rfl
      simp [fieldOf, h, hclient]

/-- In the other kinds of channel, the client is. -/
theorem fieldOf_map_client (hc : c ≠ .email) (g : String → Value) :
    (c.source.schema.names.map fun name => (name, fieldOf store place c name (g name))) =
      c.source.schema.names.map fun name => (name,
        if name = "http_config" then clientOf store (place ++ "-http") (g "http_config")
        else if name ∈ secretFields c.source then
          reference store (keyOf (place ++ "-" ++ name)) (g name)
        else g name) :=
  List.map_congr_left fun name hname => by
    by_cases h : name = "http_config"
    · simp [fieldOf, h, c.declared.client_notMem_secretFields]
    · have hcertificates : name ≠ "tls_config" := fun h =>
        hc (c.declared.certificates_mem_names.1 (h ▸ hname))
      simp [fieldOf, h, hcertificates]

/-- **A channel is converted** without fail, and what is kept of it is kept slot by slot. -/
theorem channel_eq (h : v.fits (.entity c.source) = true) :
    (channel store c place v).result = .ok (channelOf store place c v, keptOf place c v) := by
  have hcall := call_target store place h
  have hclientFits := fun hname => (Value.get_fits h (c.declared.type_client hname)).2
  have hcertificatesFits := fun hname => (Value.get_fits h (c.declared.type_certificates hname)).2
  obtain ⟨values, rfl, hvalues⟩ := Value.eq_entity_of_fits h
  rw [channel, keptOf_eq]
  simp only [Value.zip_names_eq_map hvalues c.declared.names_nodup, referFields_eq,
    result_ofExcept_bind, c.declared.filter_secretFields, lookup_map_self]
  -- Mail has certificates of its own, all other channels a client that has them.
  by_cases hc : c = .email
  · subst hc
    have hclient : "http_config" ∉ Channel.email.source.schema.names := by
      simp [Channel.email.declared.client_mem_names]
    have hcertificates : "tls_config" ∈ Channel.email.source.schema.names := by
      simp [Channel.email.declared.certificates_mem_names]
    simp only [if_neg hclient, result_pure_bind, beq_self_eq_true, if_true, lookup_map_self,
      if_pos hcertificates, if_neg Channel.email.declared.certificates_notMem_secretFields,
      certificates_eq (hcertificatesFits hcertificates)]
    refine (result_bind_of_ok rfl _).trans ?_
    rw [replaceField_map, ← fieldOf_map_email, result_bind_of_ok hcall]
    rfl
  · have hclient : "http_config" ∈ c.source.schema.names := c.declared.client_mem_names.2 hc
    have hemail : (c == .email) = false := by simpa using hc
    simp only [if_pos hclient, if_neg c.declared.client_notMem_secretFields,
      result_bind_of_ok (client_eq (hclientFits hclient)), result_pure_bind, hemail,
      Bool.false_eq_true, if_false, replaceField_map]
    rw [← fieldOf_map_client hc, result_bind_of_ok hcall]
    rfl

end MonitoringConfig.Conversion
