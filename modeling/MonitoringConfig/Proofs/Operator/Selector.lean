import MonitoringConfig.Proofs.Operator.Resource
/-!
# References in converted channels

* `Value.at?` : what is reached in an entity by the names of fields, one inside the other.
* `at?_channelOf` : where a credential stood in a channel, a reference stands in the converted one.
* `selects_channelOf` : **no other reference stands in it**, however deep.
-/

namespace MonitoringConfig

namespace Value

/-- What is reached in an entity by the names of fields, one inside the other. -/
def at? (v : Value) : List String → Option Value
  | [] => some v
  | name :: path => (v.field? name).bind fun w => w.at? path

/-- Whether a reference to a secret is reached by the names of fields. -/
def Selects (v : Value) (path : List String) : Prop :=
  ∃ fields, v.at? path = some (.entity .secretKeySelector fields)

/-- Whether a value is an entity. -/
def isEntity : Value → Bool
  | entity .. => true
  | _ => false

theorem not_selects_of_isEntity {v : Value} (h : v.isEntity = false) (path : List String) :
    ¬ v.Selects path := by
  rintro ⟨fields, hpath⟩
  cases path with
  | nil =>
    obtain rfl := Option.some.inj hpath
    cases h
  | cons name path =>
    have hfield : v.field? name = none := by
      cases v with
      | entity => cases h
      | _ => rfl
    simp [at?, hfield] at hpath

/-- What is reached in an entity made of what is given is reached in what is given for a field. -/
theorem selects_build {kind : Kind} {given : List (String × Value)} {path : List String}
    (hkind : kind ≠ .secretKeySelector) (h : (build kind given).Selects path) :
    ∃ f ∈ kind.schema.fields, ∃ rest, path = f.name :: rest ∧ (f.given given).Selects rest := by
  obtain ⟨fields, hpath⟩ := h
  cases path with
  | nil =>
    simp only [at?, build, Option.some.injEq, entity.injEq] at hpath
    exact absurd hpath.1 hkind
  | cons name rest =>
    rw [at?, field?_build] at hpath
    obtain ⟨w, hw, hrest⟩ := Option.bind_eq_some_iff.1 hpath
    obtain ⟨f, hf, rfl⟩ := Option.map_eq_some_iff.1 hw
    have hname := List.find?_some hf
    exact ⟨f, List.mem_of_find?_eq_some hf, rest, by rw [beq_iff_eq.1 hname], fields, hrest⟩

/-- In an entity without entities as parts nothing is reached but the entity. -/
theorem selects_of_flat {kind : Kind} {values : List Value} {path : List String}
    (hvalues : ∀ w ∈ values, w.isEntity = false) (h : (entity kind values).Selects path) :
    path = [] ∧ kind = .secretKeySelector := by
  obtain ⟨fields, hpath⟩ := h
  cases path with
  | nil => exact ⟨rfl, by simpa [at?] using (entity.inj (Option.some.inj hpath)).1⟩
  | cons name rest =>
    obtain ⟨w, hw, hrest⟩ := Option.bind_eq_some_iff.1 hpath
    obtain ⟨i, -, hi⟩ := Option.bind_eq_some_iff.1 hw
    exact absurd ⟨fields, hrest⟩
      (not_selects_of_isEntity (hvalues w (List.mem_of_getElem? hi)) rest)

end Value

/-- Whether there are entities among the values of a type. -/
def FieldType.hasEntities : FieldType → Bool
  | entity _ | rule => true
  | optional t => t.hasEntities
  | _ => false

theorem FieldType.hasEntities_inner (t : FieldType) : t.inner.hasEntities = t.hasEntities := by
  induction t with
  | optional t ih => exact ih
  | _ => rfl

theorem Value.isEntity_of_fits {v : Value} {t : FieldType} (h : v.fits t = true)
    (ht : t.hasEntities = false) : v.isEntity = false := by
  rw [← FieldType.hasEntities_inner] at ht
  cases v with
  | entity kind fields =>
    obtain ⟨hkind | ⟨hrule, -⟩, -⟩ := fits_entity h
    · rw [hkind] at ht
      cases ht
    · rw [hrule] at ht
      cases ht
  | _ => rfl

/-- A field that is declared to hold no entity holds none. -/
theorem Value.isEntity_get {v : Value} {kind : Kind} (h : v.fits (.entity kind) = true)
    (name : String) (ht : (kind.schema.type? name).any (!·.hasEntities) = true) :
    (v.get name).isEntity = false := by
  obtain ⟨t, ht, hentities⟩ := (Option.any_eq_true _ _).1 ht
  exact isEntity_of_fits (get_fits h ht).2 (by simpa using hentities)

namespace Conversion

/-- The fields that lead to the reference in a slot of a converted channel. -/
def Slot.path : Slot → List String
  | setting name => [name]
  | username => ["http_config", "basic_auth", "username"]
  | password => ["http_config", "basic_auth", "password"]
  | bearerToken => ["http_config", "bearer_token_secret"]

theorem Slot.path_inj {s t : Slot} (h : s.path = t.path) : s = t := by
  cases s <;> cases t <;> simp_all [path]

/-! ### References that are reached -/

variable {v : Value} {store place : String} {c : Channel} {path : List String}

theorem selects_reference {key : String} {credential : Value}
    (h : (reference (.text store) key credential).Selects path) :
    path = [] ∧ credential.isTruthy = true := by
  rw [reference] at h
  split at h
  · next htruthy => exact ⟨(Value.selects_of_flat (by simp [Value.isEntity]) h).1, htruthy⟩
  · exact absurd h (Value.not_selects_of_isEntity rfl path)

theorem not_selects_certificatesOf (hv : v.fits (.optional (.entity .tlsConfig)) = true) :
    ¬ (certificatesOf v).Selects path := by
  intro h
  rw [certificatesOf] at h
  split at h
  · exact Value.not_selects_of_isEntity rfl path h
  · next hnull =>
    obtain rfl | hv := Value.fits_optional hv
    · exact hnull rfl
    have hbuild : Value.build .safeTlsConfig
        (["ca_file", "cert_file", "key_file", "server_name", "insecure_skip_verify"].map
          fun name => (name, v.get name)) =
        .entity .safeTlsConfig [.null, .null, .null, v.get "ca_file", v.get "cert_file",
          v.get "key_file", v.get "server_name", v.get "insecure_skip_verify"] := rfl
    rw [hbuild] at h
    refine absurd (Value.selects_of_flat ?_ h).2 (by decide)
    simp only [List.mem_cons, List.not_mem_nil, or_false]
    rintro w (rfl | rfl | rfl | rfl | rfl | rfl | rfl | rfl)
    iterate 3 rfl
    all_goals exact Value.isEntity_get hv _ rfl

theorem selects_authenticationOf (h : (authenticationOf (.text store) place v).Selects path) :
    (path = ["username"] ∧ (v.get "username").isTruthy = true) ∨
      (path = ["password"] ∧ (v.get "password").isTruthy = true) := by
  rw [authenticationOf] at h
  split at h
  · exact absurd h (Value.not_selects_of_isEntity rfl path)
  · obtain ⟨f, hf, rest, rfl, hrest⟩ := Value.selects_build (by decide) h
    simp only [Kind.schema, Schema.selectorAuth, List.mem_cons, List.not_mem_nil, or_false] at hf
    obtain rfl | rfl := hf
    · obtain ⟨rfl, htruthy⟩ := selects_reference hrest
      exact .inl ⟨rfl, htruthy⟩
    · obtain ⟨rfl, htruthy⟩ := selects_reference hrest
      exact .inr ⟨rfl, htruthy⟩

/-- **The references of a client stand in its slots**, where there is a credential. -/
theorem selects_clientOf (hv : (v.get "http_config").fits (.optional (.entity .httpConfig)) = true)
    (h : (clientOf (.text store) place (v.get "http_config")).Selects path) :
    ∃ s ∈ Slot.ofChannel c, s.path = "http_config" :: path ∧ (s.read v).isTruthy = true := by
  rw [clientOf] at h
  split at h
  · exact absurd h (Value.not_selects_of_isEntity rfl path)
  next hnull =>
  obtain hv | hv := Value.fits_optional hv
  · exact absurd (by rw [hv]; rfl) hnull
  obtain ⟨f, hf, rest, rfl, hrest⟩ := Value.selects_build (by decide) h
  simp only [Kind.schema, Schema.selectorHttp, List.mem_cons, List.not_mem_nil, or_false] at hf
  obtain rfl | rfl | rfl | rfl | rfl := hf
  · obtain ⟨rfl, htruthy⟩ | ⟨rfl, htruthy⟩ := selects_authenticationOf hrest
    · exact ⟨.username, by simp [Slot.ofChannel], rfl, htruthy⟩
    · exact ⟨.password, by simp [Slot.ofChannel], rfl, htruthy⟩
  · obtain ⟨rfl, htruthy⟩ := selects_reference hrest
    exact ⟨.bearerToken, by simp [Slot.ofChannel], rfl, htruthy⟩
  · have htls := (Value.get_fits hv (rfl : Kind.httpConfig.schema.type? "tls_config" = _)).2
    exact absurd hrest (not_selects_certificatesOf htls)
  · exact absurd hrest (Value.not_selects_of_isEntity (Value.isEntity_get hv "proxy_url" rfl) rest)
  · exact absurd hrest
      (Value.not_selects_of_isEntity (Value.isEntity_get hv "follow_redirects" rfl) rest)

/-- No field of a channel but the client and the certificates is declared to hold entities. -/
theorem Channel.hasEntities_source {c : Channel} {name : String}
    (hname : name ∈ c.source.schema.names) (hclient : name ≠ "http_config")
    (hcertificates : name ≠ "tls_config") :
    (c.source.schema.type? name).any (!·.hasEntities) = true := by
  have hall : c.source.schema.names.all (fun name => name == "http_config" ||
      name == "tls_config" || (c.source.schema.type? name).any (!·.hasEntities)) = true := by
    cases c <;> decide
  simpa [hclient, hcertificates] using List.all_eq_true.1 hall name hname

/-! ### References in channels -/

/-- **The references of a converted channel stand in its slots**, where there is a credential. -/
theorem selects_channelOf (hv : v.fits (.entity c.source) = true)
    (h : (channelOf (.text store) place c v).Selects path) :
    ∃ s ∈ Slot.ofChannel c, s.path = path ∧ (s.read v).isTruthy = true := by
  obtain ⟨f, hf, rest, rfl, hrest⟩ := Value.selects_build (by cases c <;> decide) h
  rw [Field.given, lookup_map_self] at hrest
  by_cases hname : f.name ∈ c.source.schema.names
  · rw [if_pos hname, Option.getD_some, fieldOf] at hrest
    split at hrest
    · next hsecret =>
      obtain ⟨rfl, htruthy⟩ := selects_reference hrest
      exact ⟨.setting f.name, List.mem_append_left _ (List.mem_map_of_mem hsecret), rfl, htruthy⟩
    split at hrest
    · next hclient =>
      rw [hclient] at hname hrest ⊢
      exact selects_clientOf (Value.get_fits hv (c.declared.type_client hname)).2 hrest
    split at hrest
    · next hcertificates =>
      rw [hcertificates] at hname hrest
      exact absurd hrest
        (not_selects_certificatesOf (Value.get_fits hv (c.declared.type_certificates hname)).2)
    · next hclient hcertificates =>
      exact absurd hrest (Value.not_selects_of_isEntity
        (Value.isEntity_get hv f.name (Channel.hasEntities_source hname hclient hcertificates)) rest)
  · have hnull := Value.eq_null_of_isNull (c.declared.default_target f hf hname)
    rw [if_neg hname, Option.getD_none, hnull] at hrest
    exact absurd hrest (Value.not_selects_of_isEntity rfl rest)

theorem field?_channelOf {store : Value} {name : String} (hname : name ∈ c.source.schema.names) :
    (channelOf store place c v).field? name =
      some (fieldOf store place c name (v.get name)) := by
  obtain ⟨f, hf, rfl⟩ := List.mem_map.1 (c.declared.names_subset name hname)
  rw [channelOf, Value.field?_build, find?_name_of_mem c.declared.target_names_nodup hf, Option.map_some,
    Field.given, lookup_map_self, if_pos hname, Option.getD_some]

/-- What a reference to a key looks like. -/
def selector (store key : String) : Value :=
  .entity .secretKeySelector [.text store, .text key, .null]

theorem reference_of_isTruthy {credential : Value} (h : credential.isTruthy = true) (key : String) :
    reference (.text store) key credential = selector store key :=
  if_pos h

theorem field?_clientOf {store : Value} (h : v.isNull = false) :
    (clientOf store place v).field? "basic_auth" =
        some (authenticationOf store place (v.get "basic_auth")) ∧
      (clientOf store place v).field? "bearer_token_secret" =
        some (reference store (keyOf (place ++ "-bearer-token")) (v.get "bearer_token")) := by
  rw [clientOf, h]
  exact ⟨rfl, rfl⟩

theorem field?_authenticationOf {store : Value} (h : v.isNull = false) :
    (authenticationOf store place v).field? "username" =
        some (reference store (keyOf (place ++ "-username")) (v.get "username")) ∧
      (authenticationOf store place v).field? "password" =
        some (reference store (keyOf (place ++ "-password")) (v.get "password")) := by
  rw [authenticationOf, h]
  exact ⟨rfl, rfl⟩

theorem isNull_of_isTruthy (h : v.isTruthy = true) : v.isNull = false := by
  cases v with
  | null => cases h
  | _ => rfl

/-- What has something in a field is there. -/
theorem isNull_of_get {name : String} (h : (v.get name).isNull = false) : v.isNull = false := by
  cases v with
  | null => cases h
  | _ => rfl

/-- The client of a converted channel that has one. -/
theorem field?_channelOf_client (hv : v.fits (.entity c.source) = true)
    (h : (v.get "http_config").isNull = false) (store : Value) :
    (channelOf store place c v).field? "http_config" =
      some (clientOf store (place ++ "-http") (v.get "http_config")) := by
  have hname : "http_config" ∈ c.source.schema.names := by
    by_contra hname
    rw [Value.get, Value.field?_eq_ite hv c.declared.names_nodup, if_neg hname] at h
    cases h
  rw [field?_channelOf hname, fieldOf, if_neg c.declared.client_notMem_secretFields, if_pos rfl]

/-- The basic authentication of a converted channel that has one. -/
theorem at?_channelOf_auth (hv : v.fits (.entity c.source) = true)
    (h : ((v.get "http_config").get "basic_auth").isNull = false) (store : Value)
    (path : List String) :
    (channelOf store place c v).at? ("http_config" :: "basic_auth" :: path) =
      (authenticationOf store (place ++ "-http") ((v.get "http_config").get "basic_auth")).at?
        path := by
  have hclient := isNull_of_get h
  rw [Value.at?, field?_channelOf_client hv hclient, Option.bind_some, Value.at?,
    (field?_clientOf hclient).1, Option.bind_some]

/-- **Where a credential stood, a reference to its key stands** in the converted channel. -/
theorem at?_channelOf (hv : v.fits (.entity c.source) = true) {s : Slot}
    (hs : s ∈ Slot.ofChannel c) (h : (s.read v).isTruthy = true) :
    (channelOf (.text store) place c v).at? s.path =
      some (selector store (keyOf (s.nameIn place))) := by
  cases s with
  | setting name =>
    have hsecret : name ∈ secretFields c.source := by simpa [Slot.ofChannel] using hs
    have hname : name ∈ c.source.schema.names := by
      rw [← c.declared.filter_secretFields] at hsecret
      exact (List.mem_filter.1 hsecret).1
    rw [Slot.path, Value.at?, field?_channelOf hname, fieldOf, if_pos hsecret]
    exact congrArg some (reference_of_isTruthy h _)
  | username =>
    have hauth := isNull_of_get (isNull_of_isTruthy h)
    rw [Slot.path, at?_channelOf_auth hv hauth, Value.at?, (field?_authenticationOf hauth).1]
    exact congrArg some (reference_of_isTruthy h _)
  | password =>
    have hauth := isNull_of_get (isNull_of_isTruthy h)
    rw [Slot.path, at?_channelOf_auth hv hauth, Value.at?, (field?_authenticationOf hauth).2]
    exact congrArg some (reference_of_isTruthy h _)
  | bearerToken =>
    have hclient := isNull_of_get (isNull_of_isTruthy h)
    rw [Slot.path, Value.at?, field?_channelOf_client hv hclient, Option.bind_some, Value.at?,
      (field?_clientOf hclient).2]
    exact congrArg some (reference_of_isTruthy h _)

end Conversion

end MonitoringConfig
