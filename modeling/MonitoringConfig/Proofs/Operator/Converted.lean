import MonitoringConfig.Proofs.Operator.Credential
/-!
# Types of converted configurations

What becomes of a configuration holds what resources are declared to hold, so a resource can be
written and read like any other entity.

* `Value.isWholeMillis_of_fits` : values of some types have no durations.
* `channelOf_fits`, `receiverOf_fits`, `inhibitionOf_fits` : what the parts of a configuration
  become is of the kinds that resources are made of.
* `resourceOf_fits` : **the resource of a configuration is of its kind.**
* `isWholeMillis_resourceOf` : its durations are those of its routes, which are kept as they are.
-/

namespace MonitoringConfig

/-! ### Values without durations -/

/-- The kinds of entity in resources that have no durations, however deep. -/
def Kind.timeless : List Kind :=
  [.objectMeta, .secretKeySelector, .configMapKeySelector, .secretOrConfigMap, .safeTlsConfig,
    .selectorAuth, .selectorHttp, .slackAction, .slackField, .pagerDutyImage, .pagerDutyLink,
    .opsGenieResponder, .operatorEmail, .operatorSlack, .operatorPagerDuty, .operatorWebhook,
    .operatorOpsGenie, .operatorReceiver, .operatorInhibitRule, .timeRange, .timeInterval,
    .muteTimeInterval]

/-- Whether no duration can stand in the values of a type. -/
def FieldType.isTimeless (t : FieldType) : Bool :=
  t.isMadeOf Kind.timeless (· != .duration)

namespace Value

/-- Values without durations have no durations finer than a millisecond. -/
theorem isWholeMillis_of_fits {v : Value} {t : FieldType} (ht : t.isTimeless = true)
    (h : v.fits t = true) : v.isWholeMillis = true := by
  have hkinds : ∀ kind ∈ Kind.timeless, ∀ f ∈ kind.schema.fields, f.type.isTimeless = true := by
    decide
  refine everywhere_of_fits hkinds rfl (fun _ => rfl) ?_ ht h
  intro v t _ hfits hscalar
  cases v with
  | duration d =>
    simp only [fits, beq_iff_eq] at hfits
    rw [hfits] at hscalar
    cases hscalar
  | _ => rfl

/-- The durations of an entity are those of the fields in which durations can stand. -/
theorem isWholeMillis_of_get {v : Value} {kind : Kind} (h : v.fits (.entity kind) = true)
    (hnodup : kind.schema.names.Nodup)
    (htimed : ∀ f ∈ kind.schema.fields, f.type.isTimeless = false →
      (v.get f.name).isWholeMillis = true) : v.isWholeMillis = true := by
  rw [eq_entity_map_get h hnodup, isWholeMillis, everywhere, everywhereIn_iff, Schema.names,
    List.map_map, List.forall_mem_map]
  intro f hf
  cases htime : f.type.isTimeless with
  | false => exact htimed f hf htime
  | true => exact isWholeMillis_of_fits htime (get_fits h (Schema.type?_of_mem hnodup hf)).2

/-- A value of a type is one of the type whose values may be missing. -/
theorem fits_optional_of_fits {v : Value} {t : FieldType} (h : v.fits t = true) :
    v.fits (.optional t) = true := by
  cases v with
  | null => rfl
  | _ => exact h

end Value

namespace Conversion

variable {v config labels : Value} {store place : String} {c : Channel} {names : Names}

/-! ### Metadata -/

theorem entriesIn_fits (h : labels.fits (.optional (.mapOf .text)) = true) :
    (Value.map (entriesIn labels)).fits (.mapOf .text) = true := by
  rcases Value.fits_optional h with rfl | h
  · rfl
  · obtain ⟨entries, rfl, -⟩ := Value.eq_map_of_fits h
    exact h

theorem metadataOf_fits {name space : Value} (hname : name.fits .text = true)
    (hspace : space.fits .text = true) (hlabels : labels.fits (.optional (.mapOf .text)) = true) :
    (metadataOf name space labels).fits (.entity .objectMeta) = true := by
  refine Value.fits_build ?_
  intro f hf
  simp only [Kind.schema, Schema.objectMeta, List.mem_cons, List.not_mem_nil, or_false] at hf
  rcases hf with rfl | rfl | rfl | rfl
  · exact hname
  · exact hspace
  · exact entriesIn_fits hlabels
  · rfl

/-! ### Channels -/

theorem reference_fits (store key : String) (credential : Value) :
    (reference (.text store) key credential).fits (.optional (.entity .secretKeySelector)) =
      true := by
  unfold reference
  split <;> rfl

theorem certificatesOf_fits (hv : v.fits (.optional (.entity .tlsConfig)) = true) :
    (certificatesOf v).fits (.optional (.entity .safeTlsConfig)) = true := by
  rcases Value.fits_optional hv with rfl | hv
  · rfl
  unfold certificatesOf
  split
  · rfl
  refine Value.fits_optional_of_fits (Value.fits_build ?_)
  intro f hf
  simp only [Kind.schema, Schema.safeTlsConfig, List.mem_cons, List.not_mem_nil, or_false] at hf
  rcases hf with rfl | rfl | rfl | rfl | rfl | rfl | rfl | rfl
  -- The first three name keys of objects, which certificates in files do not need.
  iterate 3 rfl
  all_goals exact (Value.get_fits hv rfl).2

theorem authenticationOf_fits (store place : String) (v : Value) :
    (authenticationOf (.text store) place v).fits (.optional (.entity .selectorAuth)) = true := by
  unfold authenticationOf
  split
  · rfl
  refine Value.fits_optional_of_fits (Value.fits_build ?_)
  intro f hf
  simp only [Kind.schema, Schema.selectorAuth, List.mem_cons, List.not_mem_nil, or_false] at hf
  rcases hf with rfl | rfl
  · exact reference_fits store _ _
  · exact reference_fits store _ _

theorem clientOf_fits (hv : v.fits (.optional (.entity .httpConfig)) = true) :
    (clientOf (.text store) place v).fits (.optional (.entity .selectorHttp)) = true := by
  rcases Value.fits_optional hv with rfl | hv
  · rfl
  have htls := (Value.get_fits hv (rfl : Kind.httpConfig.schema.type? "tls_config" = _)).2
  unfold clientOf
  split
  · rfl
  refine Value.fits_optional_of_fits (Value.fits_build ?_)
  intro f hf
  simp only [Kind.schema, Schema.selectorHttp, List.mem_cons, List.not_mem_nil, or_false] at hf
  rcases hf with rfl | rfl | rfl | rfl | rfl
  · exact authenticationOf_fits store _ _
  · exact reference_fits store _ _
  · exact certificatesOf_fits htls
  · exact (Value.get_fits hv (rfl : Kind.httpConfig.schema.type? "proxy_url" = _)).2
  · exact (Value.get_fits hv (rfl : Kind.httpConfig.schema.type? "follow_redirects" = _)).2

/-- A field of a converted channel is declared to hold what the field is converted to. -/
theorem Channel.type_converted {f : Field} (hf : f ∈ c.target.schema.fields) :
    if f.name ∉ c.source.schema.names then f.type.isOptional = true
    else if f.name ∈ secretFields c.source then f.type = .optional (.entity .secretKeySelector)
    else if f.name = "http_config" then f.type = .optional (.entity .selectorHttp)
    else if f.name = "tls_config" then f.type = .optional (.entity .safeTlsConfig)
    else c.source.schema.type? f.name = some f.type := by
  revert f
  cases c <;> decide

/-- What a field of a channel is converted to is of the type of the field in a resource. -/
theorem fieldOf_fits (hv : v.fits (.entity c.source) = true) {f : Field}
    (hf : f ∈ c.target.schema.fields) (hname : f.name ∈ c.source.schema.names) :
    (fieldOf (.text store) place c f.name (v.get f.name)).fits f.type = true := by
  have htype := Channel.type_converted hf
  rw [if_neg (not_not_intro hname)] at htype
  unfold fieldOf
  by_cases hsecret : f.name ∈ secretFields c.source
  · rw [if_pos hsecret] at htype ⊢
    rw [htype]
    exact reference_fits store _ _
  rw [if_neg hsecret] at htype ⊢
  by_cases hclient : f.name = "http_config"
  · rw [if_pos hclient] at htype ⊢
    rw [hclient] at hname
    rw [htype, hclient]
    exact clientOf_fits (Value.get_fits hv (c.declared.type_client hname)).2
  rw [if_neg hclient] at htype ⊢
  by_cases hcertificates : f.name = "tls_config"
  · rw [if_pos hcertificates] at htype ⊢
    rw [hcertificates] at hname
    rw [htype, hcertificates]
    exact certificatesOf_fits (Value.get_fits hv (c.declared.type_certificates hname)).2
  · -- What is copied is declared in the same way on both sides.
    rw [if_neg hcertificates] at htype ⊢
    exact (Value.get_fits hv htype).2

/-- **A converted channel is of the kind that receivers of resources list.** -/
theorem channelOf_fits (hv : v.fits (.entity c.source) = true) :
    (channelOf (.text store) place c v).fits (.entity c.target) = true := by
  refine Value.fits_build ?_
  intro f hf
  rw [Field.given, lookup_map_self]
  by_cases hname : f.name ∈ c.source.schema.names
  · rw [if_pos hname, Option.getD_some]
    exact fieldOf_fits hv hf hname
  · have htype := Channel.type_converted hf
    rw [if_pos hname] at htype
    have hnull := Value.eq_null_of_isNull (c.declared.default_target f hf hname)
    rw [if_neg hname, Option.getD_none, hnull]
    exact htype

/-! ### Receivers and rules of inhibition -/

theorem channelsOf_fits {defaults : Value} {receiver : String} {first : Nat} {vs : List Value}
    (hdefaults : defaults.fits (.entity .alertingGlobal) = true)
    (hvs : ∀ v ∈ vs, v.fits (.entity c.source) = true) :
    (Value.list (channelsOf (.text store) defaults c receiver first vs)).fits
      (.listOf (.entity c.target)) = true := by
  refine Value.fitsAll_iff.2 (List.forall_mem_map.2 fun e he => ?_)
  obtain ⟨v, i⟩ := e
  exact channelOf_fits (withGlobals_eq (hvs v (List.fst_mem_of_mem_zipIdx he)) hdefaults).2

/-- **A converted receiver is a receiver of a resource.** -/
theorem receiverOf_fits {defaults : Value}
    (hdefaults : defaults.fits (.entity .alertingGlobal) = true)
    (hv : v.fits (.entity .receiver) = true) :
    (receiverOf (.text store) defaults v).fits (.entity .operatorReceiver) = true := by
  have hchannels : ∀ c : Channel,
      (Value.list (channelsOf (.text store) defaults c (nameOf v) 0 (v.get c.field).elements)).fits
        (.listOf (.entity c.target)) = true := fun c =>
    channelsOf_fits hdefaults (Value.elements_fits hv c.declared.type_field).2
  refine Value.fits_build ?_
  intro f hf
  simp only [Kind.schema, Schema.operatorReceiver, Schema.receiverOf, List.mem_cons,
    List.not_mem_nil, or_false] at hf
  rcases hf with rfl | rfl | rfl | rfl | rfl | rfl
  · exact (Value.get_fits hv (rfl : Kind.receiver.schema.type? "name" = _)).2
  · exact hchannels .email
  · exact hchannels .slack
  · exact hchannels .pagerDuty
  · exact hchannels .webhook
  · exact hchannels .opsGenie

theorem inhibitionOf_fits (hv : v.fits (.entity .inhibitRule) = true) :
    (inhibitionOf v).fits (.entity .operatorInhibitRule) = true := by
  refine Value.fits_build ?_
  intro f hf
  simp only [Kind.schema, Schema.operatorInhibitRule, List.mem_cons, List.not_mem_nil,
    or_false] at hf
  rcases hf with rfl | rfl | rfl
  · exact (sortMatchers_eq hv "source_matchers" "source_match" rfl rfl).2
  · exact (sortMatchers_eq hv "target_matchers" "target_match" rfl rfl).2
  · exact (Value.get_fits hv (rfl : Kind.inhibitRule.schema.type? "equal" = _)).2

/-! ### Resources -/

section

variable (hconfig : config.fits (.entity .routingConfig) = true) (hnames : names.isTyped = true)
include hconfig hnames

theorem spec_fits :
    ((resourceOf names config).get "spec").fits (.entity .routingResourceSpec) = true := by
  obtain ⟨store, hstore⟩ := Names.storeName_eq_text hnames
  obtain ⟨-, hreceivers⟩ :=
    Value.elements_fits hconfig (rfl : Kind.routingConfig.schema.type? "receivers" = _)
  obtain ⟨-, hrules⟩ :=
    Value.elements_fits hconfig (rfl : Kind.routingConfig.schema.type? "inhibit_rules" = _)
  obtain ⟨-, hmuted⟩ :=
    Value.elements_fits hconfig (rfl : Kind.routingConfig.schema.type? "mute_time_intervals" = _)
  obtain ⟨-, htimes⟩ :=
    Value.elements_fits hconfig (rfl : Kind.routingConfig.schema.type? "time_intervals" = _)
  refine Value.fits_build ?_
  intro f hf
  simp only [Kind.schema, Schema.routingResourceSpec, List.mem_cons, List.not_mem_nil,
    or_false] at hf
  rcases hf with rfl | rfl | rfl | rfl
  -- The routes and the time intervals are copied, the rest is converted part by part.
  · exact (Value.get_fits hconfig (rfl : Kind.routingConfig.schema.type? "route" = _)).2
  · refine Value.fitsAll_iff.2 (List.forall_mem_map.2 fun r hr => ?_)
    rw [hstore]
    exact receiverOf_fits (globalsOf_fits hconfig) (hreceivers r hr)
  · exact Value.fitsAll_iff.2 (List.forall_mem_map.2 fun r hr => inhibitionOf_fits (hrules r hr))
  · exact Value.fitsAll_iff.2 (List.forall_mem_append.2 ⟨hmuted, htimes⟩)

/-- **A configuration becomes a resource of routes and receivers**, whatever it holds. -/
theorem resourceOf_fits :
    (resourceOf names config).fits (.entity .routingResource) = true := by
  have hspec := spec_fits hconfig hnames
  simp only [Names.isTyped, Bool.and_eq_true] at hnames
  obtain ⟨⟨⟨hname, hspace⟩, -⟩, hlabels⟩ := hnames
  refine Value.fits_build ?_
  intro f hf
  simp only [Kind.schema, Schema.routingResource, Schema.resource, List.mem_cons, List.not_mem_nil,
    or_false] at hf
  rcases hf with rfl | rfl
  · exact metadataOf_fits hname hspace hlabels
  · exact hspec

/-- Durations stand in the routes of a resource and nowhere else in it. -/
theorem isWholeMillis_resourceOf (hmillis : config.isWholeMillis = true) :
    (resourceOf names config).isWholeMillis = true := by
  refine Value.isWholeMillis_of_get (resourceOf_fits hconfig hnames) (by decide) ?_
  intro f hf htime
  simp only [Kind.schema, Schema.routingResource, Schema.resource, List.mem_cons, List.not_mem_nil,
    or_false] at hf
  rcases hf with rfl | rfl
  · cases htime
  refine Value.isWholeMillis_of_get (spec_fits hconfig hnames) (by decide) ?_
  intro f hf htime
  simp only [Kind.schema, Schema.routingResourceSpec, List.mem_cons, List.not_mem_nil,
    or_false] at hf
  rcases hf with rfl | rfl | rfl | rfl
  · exact Value.everywhere_get rfl hmillis "route"
  -- The types of the other fields leave no place for durations.
  all_goals cases htime

end

end Conversion

end MonitoringConfig
