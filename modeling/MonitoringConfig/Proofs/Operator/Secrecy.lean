import MonitoringConfig.Proofs.Operator.Credential
/-!
# What a resource shows of secrets

A resource is meant to be read by those who must not read the secrets of the configuration that it
was converted from. It shows of a secret whether there is one, and nothing of what it says.

* `Value.masked` : a value as it is seen by someone who is told of every secret only whether it is
  empty.
* `resourceOf_masked` : the resource can be made of what such an observer sees.
* `convert_conceals` : **configurations that look the same to the observer become the same
  resource**, and the objects of their secrets have the same keys. What the keys hold does differ.

The proof follows the conversion from the references to the configuration: every part is the same
for a value and for what is seen of it. Where the conversion copies a field as it is, the schemas
say that no secret can stand in it.
-/

namespace MonitoringConfig

/-- What is seen of a secret: whether there is anything to hide. -/
def Secret.masked (s : Secret) : Secret :=
  ⟨s.shown⟩

theorem Secret.isEmpty_masked (s : Secret) : s.masked.isEmpty = s.isEmpty := by
  rw [isEmpty, masked, shown]
  split
  · next h => rw [h]; rfl
  · next h => rw [Bool.eq_false_of_not_eq_true h]; rfl

namespace Value

/-! ### What is seen of a value -/

mutual

/-- What is seen of a value if its secrets are only told to be empty or not. -/
def masked : Value → Value
  | secret s => secret s.masked
  | list items => list (maskedAll items)
  | tuple items => tuple (maskedAll items)
  | set items => set (maskedAll items)
  | map entries => map (maskedEntries entries)
  | entity kind fields => entity kind (maskedAll fields)
  | v => v

/-- What is seen of several values. -/
def maskedAll : List Value → List Value
  | [] => []
  | v :: vs => masked v :: maskedAll vs

/-- What is seen of entries: their keys, and what is seen of their values. -/
def maskedEntries : List (Value × Value) → List (Value × Value)
  | [] => []
  | (k, v) :: rest => (k, masked v) :: maskedEntries rest

end

theorem maskedAll_eq_map (vs : List Value) : maskedAll vs = vs.map masked := by
  induction vs with
  | nil => rfl
  | cons v vs ih => rw [maskedAll, ih, List.map_cons]

theorem maskedEntries_eq_map (entries : List (Value × Value)) :
    maskedEntries entries = entries.map fun e => (e.1, masked e.2) := by
  induction entries with
  | nil => rfl
  | cons e rest ih => rw [maskedEntries, ih, List.map_cons]

@[simp] theorem isNull_masked (v : Value) : v.masked.isNull = v.isNull := by
  cases v <;> rfl

/-- Whether there is something is seen of every value. -/
@[simp] theorem isTruthy_masked (v : Value) : v.masked.isTruthy = v.isTruthy := by
  cases v with
  | secret s => simp [masked, isTruthy, Secret.isEmpty_masked]
  | list items | tuple items | set items => simp [masked, isTruthy, maskedAll_eq_map]
  | map entries => simp [masked, isTruthy, maskedEntries_eq_map]
  | _ => rfl

@[simp] theorem get_masked (v : Value) (name : String) :
    v.masked.get name = (v.get name).masked := by
  cases v with
  | entity kind fields =>
    rw [masked, maskedAll_eq_map, get, get, field?, field?]
    cases kind.schema.position? name with
    | none => rfl
    | some i =>
      rw [Option.bind_some, Option.bind_some, List.getElem?_map]
      cases fields[i]? <;> rfl
  | _ => rfl

theorem elements_masked {v : Value} (h : v = list v.elements) :
    v.masked.elements = v.elements.map masked := by
  rw [h, masked, maskedAll_eq_map]
  rfl

/-- Whether a value is no secret. -/
def isPublic : Value → Bool
  | secret _ => false
  | _ => true

/-- A value without secrets is seen as it is. -/
theorem masked_eq_self {v : Value} (h : v.everywhere isPublic = true) : v.masked = v := by
  -- Only secrets change, and none of the parts is one.
  induction v using induct with
  | list items ih | tuple items ih | set items ih | entity kind items ih =>
    rw [everywhere, everywhereIn_iff] at h
    rw [masked, maskedAll_eq_map, List.map_congr_left fun v hv => ih v hv (h v hv), List.map_id']
  | map entries ih =>
    rw [everywhere, everywhereInEntries_iff] at h
    have hvalue : ∀ e ∈ entries, (fun e => (e.1, masked e.2)) e = e := by
      intro e he
      exact Prod.ext rfl ((ih e he).2 (h e he).2)
    rw [masked, maskedEntries_eq_map, List.map_congr_left hvalue, List.map_id']
  | leaf v hv =>
    cases v with
    | secret s => cases h
    | list _ | tuple _ | set _ | map _ | entity _ _ => cases hv
    | _ => rfl

end Value

/-! ### Types without secrets -/

/-- The kinds of entity in a configuration that have no secrets, however deep. -/
def Kind.secretless : List Kind :=
  [.tlsConfig, .slackAction, .slackField, .pagerDutyImage, .pagerDutyLink, .opsGenieResponder,
    .route, .timeRange, .timeInterval, .muteTimeInterval, .inhibitRule]

/-- Whether no secret can stand in the values of a type. -/
def FieldType.isPublic (t : FieldType) : Bool :=
  t.isMadeOf Kind.secretless (· != .secret)

/-- **A value of a type without secrets is seen as it is.** -/
theorem Value.masked_of_fits {v : Value} {t : FieldType} (ht : t.isPublic = true)
    (h : v.fits t = true) : v.masked = v := by
  have hkinds : ∀ kind ∈ Kind.secretless, ∀ f ∈ kind.schema.fields, f.type.isPublic = true := by
    decide
  refine masked_eq_self (everywhere_of_fits hkinds rfl (fun _ => rfl) ?_ ht h)
  intro v t _ hfits hscalar
  cases v with
  | secret s =>
    simp only [fits, beq_iff_eq] at hfits
    rw [hfits] at hscalar
    cases hscalar
  | _ => rfl

/-- A field that is declared to hold no secrets is seen as it is. -/
theorem Value.masked_get_of_isPublic {v : Value} {kind : Kind} (h : v.fits (.entity kind) = true)
    (name : String) (ht : (kind.schema.type? name).any (·.isPublic) = true) :
    (v.get name).masked = v.get name := by
  obtain ⟨t, htype, hpublic⟩ := (Option.any_eq_true _ _).1 ht
  exact masked_of_fits hpublic (get_fits h htype).2

namespace Conversion

variable {store defaults v config : Value} {place : String} {c : Channel}

/-! ### Channels -/

/-- A reference shows whether there is a credential. -/
@[simp] theorem reference_masked (store : Value) (key : String) (credential : Value) :
    reference store key credential.masked = reference store key credential := by
  rw [reference, reference, Value.isTruthy_masked]

@[simp] theorem authenticationOf_masked (store : Value) (place : String) (v : Value) :
    authenticationOf store place v.masked = authenticationOf store place v := by
  simp only [authenticationOf, Value.isNull_masked, Value.get_masked, reference_masked]

theorem certificatesOf_masked (hv : v.fits (.optional (.entity .tlsConfig)) = true) :
    certificatesOf v.masked = certificatesOf v := by
  rw [Value.masked_of_fits (by decide) hv]

/-- A client shows nothing of its credentials. -/
theorem clientOf_masked (hv : v.fits (.optional (.entity .httpConfig)) = true) :
    clientOf store place v.masked = clientOf store place v := by
  rcases Value.fits_optional hv with rfl | hv
  · rfl
  have htls : (v.get "tls_config").fits (.optional (.entity .tlsConfig)) = true :=
    (Value.get_fits hv rfl).2
  have hproxy := Value.masked_get_of_isPublic hv "proxy_url" rfl
  have hredirects := Value.masked_get_of_isPublic hv "follow_redirects" rfl
  simp only [clientOf, Value.isNull_masked, Value.get_masked, authenticationOf_masked,
    reference_masked, certificatesOf_masked htls, List.map_cons, List.map_nil, hproxy, hredirects]

/-- A field of a channel that is neither a secret nor converted has no secrets in it. -/
theorem Channel.isPublic_source {name : String} (hname : name ∈ c.source.schema.names)
    (hsecret : name ∉ secretFields c.source) (hclient : name ≠ "http_config") :
    (c.source.schema.type? name).any (·.isPublic) = true := by
  have hall : c.source.schema.names.all (fun name => (secretFields c.source).contains name ||
      name == "http_config" || (c.source.schema.type? name).any (·.isPublic)) = true := by
    cases c <;> decide
  simpa [hsecret, hclient] using List.all_eq_true.1 hall name hname

/-- A field of a converted channel shows nothing of a secret in the channel. -/
theorem fieldOf_masked {name : String} (hv : v.fits (.entity c.source) = true)
    (hname : name ∈ c.source.schema.names) :
    fieldOf store place c name (v.get name).masked = fieldOf store place c name (v.get name) := by
  by_cases hsecret : name ∈ secretFields c.source
  · rw [fieldOf, fieldOf, if_pos hsecret, if_pos hsecret, reference_masked]
  by_cases hclient : name = "http_config"
  · subst hclient
    have hfits := (Value.get_fits hv (c.declared.type_client hname)).2
    simp only [fieldOf, if_neg hsecret, if_true, clientOf_masked hfits]
  · -- What is left is copied, certificates apart, and they have no secrets in them either.
    rw [Value.masked_get_of_isPublic hv name (c.isPublic_source hname hsecret hclient)]

/-- **A converted channel shows nothing of the secrets of the channel.** -/
theorem channelOf_masked (hv : v.fits (.entity c.source) = true) :
    channelOf store place c v.masked = channelOf store place c v := by
  have hfields : (c.source.schema.names.map fun name =>
        (name, fieldOf store place c name (v.masked.get name))) =
      c.source.schema.names.map fun name => (name, fieldOf store place c name (v.get name)) := by
    refine List.map_congr_left fun name hname => ?_
    rw [Value.get_masked, fieldOf_masked hv hname]
  rw [channelOf, channelOf, hfields]

/-! ### Settings that are taken over -/

theorem choose_masked (f : Fallback) (defaults own : Value) :
    f.choose defaults.masked own.masked = (f.choose defaults own).masked := by
  have hlacks : f.lacks own.masked = f.lacks own := by simp [Fallback.lacks]
  rw [Fallback.choose, Fallback.choose, hlacks, Value.get_masked]
  split <;> rfl

/-- Whether a channel takes over a setting is seen of its settings. -/
theorem inEffect_masked (c : Channel) (defaults v : Value) (name : String) :
    c.inEffect defaults.masked v.masked name = (c.inEffect defaults v name).masked := by
  rw [Channel.inEffect, Channel.inEffect, chosen, chosen, Value.get_masked]
  cases fallbackFor c.allFallbacks name with
  | none => rfl
  | some f => exact choose_masked f defaults _

theorem settled_masked (defaults : Value) (c : Channel) (v : Value) :
    settled defaults.masked c v.masked = (settled defaults c v).masked := by
  rw [settled, settled, Value.masked, Value.maskedAll_eq_map, List.map_map]
  refine congrArg _ (List.map_congr_left fun name _ => ?_)
  exact inEffect_masked c defaults v name

/-! ### Receivers -/

theorem nameOf_masked (hv : v.fits (.entity .receiver) = true) : nameOf v.masked = nameOf v := by
  rw [nameOf, nameOf, Value.get_masked, Value.masked_get_of_isPublic hv "name" rfl]

theorem channelsOf_masked (store : Value) (c : Channel) (receiver : String) {vs : List Value}
    (hdefaults : defaults.fits (.entity .alertingGlobal) = true)
    (hvs : ∀ v ∈ vs, v.fits (.entity c.source) = true) (first : Nat) :
    channelsOf store defaults.masked c receiver first (vs.map Value.masked) =
      channelsOf store defaults c receiver first vs := by
  rw [channelsOf, channelsOf, List.zipIdx_map, List.map_map]
  refine List.map_congr_left fun e he => ?_
  obtain ⟨v, i⟩ := e
  have hfits := (withGlobals_eq (hvs v (List.fst_mem_of_mem_zipIdx he)) hdefaults).2
  simp only [Function.comp_apply, Prod.map_apply, id_eq, settled_masked, channelOf_masked hfits]

/-- **A converted receiver shows nothing of the secrets of its channels** and of those that they
take over. -/
theorem receiverOf_masked (hdefaults : defaults.fits (.entity .alertingGlobal) = true)
    (hv : v.fits (.entity .receiver) = true) :
    receiverOf store defaults.masked v.masked = receiverOf store defaults v := by
  have hname := Value.masked_get_of_isPublic hv "name" rfl
  have hchannels : ∀ c : Channel,
      channelsOf store defaults.masked c (nameOf v) 0 (v.get c.field).masked.elements =
        channelsOf store defaults c (nameOf v) 0 (v.get c.field).elements := by
    intro c
    obtain ⟨hlist, hitems⟩ := Value.elements_fits hv c.declared.type_field
    rw [Value.elements_masked hlist]
    exact channelsOf_masked store c _ hdefaults hitems 0
  simp only [receiverOf, nameOf_masked hv, Value.get_masked, hname, hchannels]

/-! ### Configurations -/

theorem globalsOf_masked (config : Value) : globalsOf config.masked = (globalsOf config).masked := by
  rw [globalsOf, globalsOf, Value.get_masked, Value.orElse, Value.orElse, Value.isTruthy_masked]
  split <;> rfl

/-- **The resource can be made of what is seen of a configuration.** -/
theorem resourceOf_masked (names : Names) (hconfig : config.fits (.entity .routingConfig) = true) :
    resourceOf names config.masked = resourceOf names config := by
  obtain ⟨hreceivers, hreceiversFit⟩ :=
    Value.elements_fits hconfig (rfl : Kind.routingConfig.schema.type? "receivers" = _)
  have hconverted : receiversOf names config.masked = receiversOf names config := by
    rw [receiversOf, receiversOf, globalsOf_masked, Value.get_masked,
      Value.elements_masked hreceivers, List.map_map]
    exact List.map_congr_left fun r hr =>
      receiverOf_masked (globalsOf_fits hconfig) (hreceiversFit r hr)
  have hroute := Value.masked_get_of_isPublic hconfig "route" rfl
  have hrules := Value.masked_get_of_isPublic hconfig "inhibit_rules" rfl
  have hmuted := Value.masked_get_of_isPublic hconfig "mute_time_intervals" rfl
  have htimes := Value.masked_get_of_isPublic hconfig "time_intervals" rfl
  simp only [resourceOf, hconverted, Value.get_masked, hroute, hrules, hmuted, htimes]

/-! ### Keys -/

/-- The key of a credential stands in the object of the secrets if there is a credential. -/
theorem keys_keep_masked (key : String) (credential : Value) :
    (keep key credential.masked).map (·.1) = (keep key credential).map (·.1) := by
  rw [keep, keep, Value.isTruthy_masked]
  split <;> rfl

theorem read_masked (v : Value) (s : Slot) : s.read v.masked = (s.read v).masked := by
  cases s <;> simp only [Slot.read, Value.get_masked]

theorem keys_keptOf_masked (place : String) (c : Channel) (v : Value) :
    (keptOf place c v.masked).map (·.1) = (keptOf place c v).map (·.1) := by
  simp only [keptOf, List.map_flatMap, read_masked, keys_keep_masked]

theorem keys_keptReceiver_masked (defaults : Value) (hv : v.fits (.entity .receiver) = true) :
    (keptReceiver defaults.masked v.masked).map (·.1) = (keptReceiver defaults v).map (·.1) := by
  have hchannels : ∀ c : Channel,
      (keptChannels defaults.masked c (nameOf v) 0 (v.get c.field).masked.elements).map (·.1) =
        (keptChannels defaults c (nameOf v) 0 (v.get c.field).elements).map (·.1) := by
    intro c
    rw [Value.elements_masked (Value.elements_fits hv c.declared.type_field).1]
    simp only [keptChannels, List.zipIdx_map, List.map_flatMap, List.flatMap_map, Prod.map_fst,
      Prod.map_snd, id_eq, settled_masked, keys_keptOf_masked]
  simp only [keptReceiver, List.map_flatMap, nameOf_masked hv, Value.get_masked, hchannels]

/-- **The keys of the secrets are seen of a configuration.** -/
theorem keys_keptConfig_masked (hconfig : config.fits (.entity .routingConfig) = true) :
    (keptConfig config.masked).map (·.1) = (keptConfig config).map (·.1) := by
  obtain ⟨hreceivers, hfits⟩ :=
    Value.elements_fits hconfig (rfl : Kind.routingConfig.schema.type? "receivers" = _)
  rw [keptConfig, keptConfig, globalsOf_masked, Value.get_masked, Value.elements_masked hreceivers,
    List.flatMap_map, List.map_flatMap, List.map_flatMap]
  exact List.flatMap_congr fun r hr => keys_keptReceiver_masked _ (hfits r hr)

/-- The keys of a mapping with one more: a key that is there already stays where it is. -/
def addKey (keys : List Value) (key : Value) : List Value :=
  if keys.any (·.equal key) then keys else keys ++ [key]

/-- The keys of a mapping depend on the keys of what was put into it alone. -/
theorem keys_insertEntries (entries more : List (Value × Value)) :
    (Value.insertEntries entries more).map (·.1) =
      (more.map (·.1)).foldl addKey (entries.map (·.1)) := by
  induction more generalizing entries with
  | nil => rfl
  | cons e more ih =>
    have hstep : (Value.insertEntry entries e.1 e.2).map (·.1) = addKey (entries.map (·.1)) e.1 := by
      rw [Value.insertEntry_eq, addKey, List.any_map, Function.comp_def]
      by_cases hany : entries.any (·.1.equal e.1) = true
      · rw [if_pos hany, if_pos hany, Value.keys_replaced]
      · rw [if_neg hany, if_neg hany, List.map_append]
        rfl
    rw [Value.insertEntries, List.foldl_cons, ← Value.insertEntries, ih, hstep]
    rfl

theorem keys_secretOf (names : Names) (config : Value) :
    (dataIn (secretOf names config)).map (·.1) =
      ((keptConfig config).map (·.1)).foldl addKey [] := by
  rw [dataIn_secretOf, keys_insertEntries]
  rfl

/-- **Configurations that differ only in what their secrets say become the same resource**, and the
objects of their secrets have the same keys, in the same order. Where one of them has a secret, is
given an empty one or has none, so does or is the other. -/
theorem convert_conceals {names : Names} {a b : Value}
    (ha : a.fits (.entity .routingConfig) = true) (hb : b.fits (.entity .routingConfig) = true)
    (hlabels : names.labels.fits (.optional (.mapOf .text)) = true) (hsame : a.masked = b.masked) :
    ∃ resource secretA secretB,
      (convert names a).result = .ok (resource, secretA) ∧
        (convert names b).result = .ok (resource, secretB) ∧
          (dataIn secretA).map (·.1) = (dataIn secretB).map (·.1) := by
  have hresource : resourceOf names a = resourceOf names b := by
    rw [← resourceOf_masked names ha, hsame, resourceOf_masked names hb]
  have hkeys : (keptConfig a).map (·.1) = (keptConfig b).map (·.1) := by
    rw [← keys_keptConfig_masked ha, hsame, keys_keptConfig_masked hb]
  refine ⟨resourceOf names a, secretOf names a, secretOf names b, convert_eq ha hlabels, ?_, ?_⟩
  · rw [hresource]
    exact convert_eq hb hlabels
  · rw [keys_secretOf, keys_secretOf, hkeys]

/-- A configuration with a global secret, one in a channel, one in a client, and an empty one. -/
def withSecrets (globalUrl token password : String) : Value :=
  .build .routingConfig [
    ("global_", .build .alertingGlobal [("slack_api_url", .secret ⟨globalUrl⟩)]),
    ("receivers", .list [.build .receiver [("name", .text "team"),
      ("slack_configs", .list [.build .slackConfig []]),
      ("opsgenie_configs", .list [.build .opsGenieConfig [("api_key", .secret ⟨""⟩),
        ("http_config", .build .httpConfig [("bearer_token", .secret ⟨token⟩),
          ("basic_auth", .build .basicAuth [("password", .secret ⟨password⟩)])])]])]])]

/-- Two of three secrets are other texts, and one of them is the text that secrets are shown as. -/
theorem convert_conceals_threeSecrets :
    let a := withSecrets "https://hooks.example/one" "t0ken" "pass"
    let b := withSecrets "https://hooks.example/two" "<secret>" "pass"
    a.fits (.entity .routingConfig) = true ∧ b.fits (.entity .routingConfig) = true ∧
      teamNames.labels.fits (.optional (.mapOf .text)) = true ∧ a.masked = b.masked ∧
        ∃ resource secretA secretB, (convert teamNames a).result = .ok (resource, secretA) ∧
          (convert teamNames b).result = .ok (resource, secretB) ∧
            (dataIn secretA).map (·.1) = (dataIn secretB).map (·.1) := by
  intro a b
  have ha : a.fits (.entity .routingConfig) = true := by decide
  have hb : b.fits (.entity .routingConfig) = true := by decide
  have hlabels : teamNames.labels.fits (.optional (.mapOf .text)) = true := rfl
  have hsame : a.masked = b.masked := by rfl
  exact ⟨ha, hb, hlabels, hsame, convert_conceals ha hb hlabels hsame⟩

end Conversion

end MonitoringConfig
