import MonitoringConfig.Proofs.Operator.Globals
import MonitoringConfig.Proofs.Projection.Fields
/-!
# Converted configurations

What becomes of a configuration whose fields hold what they are declared to hold: the resource, and
the object of its secrets.

* `resourceOf`, `secretOf` : the two objects, described by plain functions.
* `convert_eq` : **the conversion does not fail**, and it comes to the description.
-/

namespace MonitoringConfig.Conversion

open Logged

/-! ### Receivers -/

/-- Converted channels of a kind, numbered from a first one on. -/
def channelsOf (store defaults : Value) (c : Channel) (receiver : String) (first : Nat)
    (vs : List Value) : List Value :=
  (vs.zipIdx first).map fun (v, i) =>
    channelOf store (channelName receiver c i) c (settled defaults c v)

/-- What is kept of channels of a kind. -/
def keptChannels (defaults : Value) (c : Channel) (receiver : String) (first : Nat)
    (vs : List Value) : List Kept :=
  (vs.zipIdx first).flatMap fun (v, i) =>
    keptOf (channelName receiver c i) c (settled defaults c v)

/-- The name of a receiver. -/
def nameOf (v : Value) : String :=
  (v.get "name").shown

/-- A converted receiver. -/
def receiverOf (store defaults v : Value) : Value :=
  .build .operatorReceiver (("name", v.get "name") :: Channel.all.map fun c =>
    (c.field, .list (channelsOf store defaults c (nameOf v) 0 (v.get c.field).elements)))

/-- What is kept of a receiver. -/
def keptReceiver (defaults v : Value) : List Kept :=
  Channel.all.flatMap fun c => keptChannels defaults c (nameOf v) 0 (v.get c.field).elements

variable {store defaults v : Value} {c : Channel} {receiver : String} {vs : List Value}

theorem channels_eq (hdefaults : defaults.fits (.entity .alertingGlobal) = true)
    (hvs : ∀ v ∈ vs, v.fits (.entity c.source) = true) (first : Nat) :
    (channels store defaults c receiver first vs).result =
      .ok (channelsOf store defaults c receiver first vs,
        keptChannels defaults c receiver first vs) := by
  induction vs generalizing first with
  | nil => rfl
  | cons v vs ih =>
    obtain ⟨hglobals, hfits⟩ := withGlobals_eq (hvs v List.mem_cons_self) hdefaults
    have hrest := ih (fun w hw => hvs w (List.mem_cons_of_mem _ hw)) (first + 1)
    rw [channels, hglobals, result_ofExcept_bind]
    rw [result_bind_of_ok (channel_eq hfits), result_bind_of_ok hrest]
    rfl

theorem allChannels_eq (hdefaults : defaults.fits (.entity .alertingGlobal) = true)
    (hv : v.fits (.entity .receiver) = true) (name : Value) (cs : List Channel) :
    (allChannels store defaults v name cs).result =
      .ok (cs.map fun c => (c.field,
          .list (channelsOf store defaults c name.shown 0 (v.get c.field).elements)),
        cs.flatMap fun c => keptChannels defaults c name.shown 0 (v.get c.field).elements) := by
  induction cs with
  | nil => rfl
  | cons c cs ih =>
    obtain ⟨hlist, hitems⟩ := Value.elements_fits hv c.declared.type_field
    have hfield : (do (← v.field c.field).items : Except Failure _) =
        .ok (v.get c.field).elements := by
      rw [Value.field_of_fits hv c.field (by rw [c.declared.type_field]; rfl), hlist]
      rfl
    rw [allChannels, hfield, result_ofExcept_bind, result_bind_of_ok (channels_eq hdefaults hitems 0),
      result_bind_of_ok ih]
    rfl

/-- **A receiver is converted** with all its channels. -/
theorem receiver_eq (hdefaults : defaults.fits (.entity .alertingGlobal) = true)
    (hv : v.fits (.entity .receiver) = true) :
    (Conversion.receiver store defaults v).result =
      .ok (receiverOf store defaults v, keptReceiver defaults v) := by
  have hname := Value.field_of_fits hv "name" rfl
  have hmake := fun given => Entity.of_isPlain .operatorReceiver given rfl rfl (by decide)
  rw [Conversion.receiver, hname, result_ofExcept_bind,
    result_bind_of_ok (allChannels_eq hdefaults hv _ _)]
  simp only [hmake, result_ofExcept_bind]
  rfl

theorem receivers_eq (store : Value) (hdefaults : defaults.fits (.entity .alertingGlobal) = true)
    (hvs : ∀ v ∈ vs, v.fits (.entity .receiver) = true) :
    (receivers store defaults vs).result =
      .ok (vs.map (receiverOf store defaults), vs.flatMap (keptReceiver defaults)) := by
  induction vs with
  | nil => rfl
  | cons v vs ih =>
    rw [receivers, result_bind_of_ok (receiver_eq hdefaults (hvs v List.mem_cons_self)),
      result_bind_of_ok (ih fun w hw => hvs w (List.mem_cons_of_mem _ hw))]
    rfl

/-! ### Rules of inhibition -/

/-- The entries of a mapping, or none where there is no mapping. -/
def entriesIn : Value → List (Value × Value)
  | .map entries => entries
  | _ => []

/-- The matchers of a sort of alerts, with one for every label that has a given value. -/
def matchersOf (matchers values : Value) : Value :=
  .list (matchers.elements ++ (entriesIn values).map fun (k, w) =>
    Value.matcher ⟨k.shown, .equal, w.shown⟩)

/-- A converted rule of inhibition. -/
def inhibitionOf (v : Value) : Value :=
  .build .operatorInhibitRule [
    ("source_match", matchersOf (v.get "source_matchers") (v.get "source_match")),
    ("target_match", matchersOf (v.get "target_matchers") (v.get "target_match")),
    ("equal", v.get "equal")]

theorem sortMatchers_eq (hv : v.fits (.entity .inhibitRule) = true) (matchers values : String)
    (hmatchers : Kind.inhibitRule.schema.type? matchers = some (.listOf .matcher))
    (hvalues : Kind.inhibitRule.schema.type? values = some (.mapOf .text)) :
    sortMatchers (v.get matchers) (v.get values) =
        .ok (matchersOf (v.get matchers) (v.get values)) ∧
      (matchersOf (v.get matchers) (v.get values)).fits (.listOf .matcher) = true := by
  obtain ⟨items, hlist, hitems⟩ := Value.eq_list_of_fits (Value.get_fits hv hmatchers).2
  obtain ⟨entries, hmap, -⟩ := Value.eq_map_of_fits (Value.get_fits hv hvalues).2
  rw [hlist, hmap]
  refine ⟨rfl, ?_⟩
  rw [matchersOf, Value.fits]
  refine Value.fitsAll_iff.2 fun w hw => ?_
  obtain hw | hw := List.mem_append.1 hw
  · exact hitems w hw
  · obtain ⟨e, -, rfl⟩ := List.mem_map.1 hw
    rfl

theorem inhibition_eq (hv : v.fits (.entity .inhibitRule) = true) :
    inhibition v = .ok (inhibitionOf v) := by
  have hfield := Value.field_of_fits hv
  obtain ⟨hsource, hsourceFits⟩ :=
    sortMatchers_eq hv "source_matchers" "source_match" rfl rfl
  obtain ⟨htarget, htargetFits⟩ :=
    sortMatchers_eq hv "target_matchers" "target_match" rfl rfl
  have hequal := (Value.elements_fits hv (rfl : Kind.inhibitRule.schema.type? "equal" = _)).1
  have hequalFits := (Value.get_fits hv (rfl : Kind.inhibitRule.schema.type? "equal" = _)).2
  have hitems : (v.get "equal").items = .ok (v.get "equal").elements := by
    rw [hequal]
    rfl
  rw [inhibition, hfield "source_matchers" rfl, hfield "source_match" rfl,
    hfield "target_matchers" rfl, hfield "target_match" rfl, hfield "equal" rfl]
  simp only [bind, Except.bind, hsource, htarget, hitems]
  rw [← hequal]
  refine Entity.of_eq_build .operatorInhibitRule rfl rfl fun f hf => FieldType.coerce_of_fits ?_
  simp only [Kind.schema, Schema.operatorInhibitRule, List.mem_cons, List.not_mem_nil,
    or_false] at hf
  obtain rfl | rfl | rfl := hf
  · exact hsourceFits
  · exact htargetFits
  · exact hequalFits

/-! ### Configurations -/

/-- The global section in force. -/
def globalsOf (config : Value) : Value :=
  (config.get "global_").orElse (.entity .alertingGlobal Schema.alertingGlobal.defaults)

/-- What the object of the secrets is called. -/
def Names.storeName (names : Names) : Value :=
  names.store.orElse (.text (names.name.shown ++ "-secrets"))

/-- The metadata of one of the two objects. -/
def metadataOf (name space labels : Value) : Value :=
  .build .objectMeta [("name", name), ("namespace", space), ("labels", .map (entriesIn labels)),
    ("annotations", .map [])]

/-- The converted receivers of a configuration. -/
def receiversOf (names : Names) (config : Value) : List Value :=
  (config.get "receivers").elements.map (receiverOf names.storeName (globalsOf config))

/-- What is kept of a configuration. -/
def keptConfig (config : Value) : List Kept :=
  (config.get "receivers").elements.flatMap (keptReceiver (globalsOf config))

/-- The resource that a configuration becomes. -/
def resourceOf (names : Names) (config : Value) : Value :=
  .build .routingResource [("metadata", metadataOf names.name names.space names.labels),
    ("spec", .build .routingResourceSpec [("route", config.get "route"),
      ("receivers", .list (receiversOf names config)),
      ("inhibit_rules", .list ((config.get "inhibit_rules").elements.map inhibitionOf)),
      ("mute_time_intervals", .list ((config.get "mute_time_intervals").elements ++
        (config.get "time_intervals").elements))])]

/-- The object of the secrets of a configuration. -/
def secretOf (names : Names) (config : Value) : Value :=
  .build .kubernetesSecret [("metadata", metadataOf names.storeName names.space names.labels),
    ("string_data", .map (Value.insertEntries [] (keptConfig config)))]

variable {names : Names} {config : Value}

theorem globalsOf_fits (hconfig : config.fits (.entity .routingConfig) = true) :
    (globalsOf config).fits (.entity .alertingGlobal) = true := by
  have hglobal := (Value.get_fits hconfig (rfl : Kind.routingConfig.schema.type? "global_" = _)).2
  rw [globalsOf]
  obtain hnull | hfits := Value.fits_optional hglobal
  · rw [hnull]
    decide
  · obtain ⟨fields, hentity, -⟩ := Value.eq_entity_of_fits hfits
    rw [hentity] at hfits ⊢
    exact hfits

theorem entriesOf_eq {labels : Value} (h : labels.fits (.optional (.mapOf .text)) = true) :
    Operator.entriesOf labels = .ok (entriesIn labels) := by
  obtain rfl | h := Value.fits_optional h
  · rfl
  · obtain ⟨entries, rfl, -⟩ := Value.eq_map_of_fits h
    rfl

theorem metadata_eq {labels : Value} (h : labels.fits (.optional (.mapOf .text)) = true)
    (name space : Value) :
    Operator.metadata name space labels .null = .ok (metadataOf name space labels) := by
  have hmake := fun given => Entity.of_isPlain .objectMeta given rfl rfl rfl
  simp only [Operator.metadata, bind, Except.bind, entriesOf_eq h, hmake]
  rfl

/-- **The conversion does not fail**, and it comes to the description. -/
theorem convert_eq (hconfig : config.fits (.entity .routingConfig) = true)
    (hlabels : names.labels.fits (.optional (.mapOf .text)) = true) :
    (convert names config).result = .ok (resourceOf names config, secretOf names config) := by
  have hfield := Value.field_of_fits hconfig
  obtain ⟨hreceivers, hreceiversFit⟩ :=
    Value.elements_fits hconfig (rfl : Kind.routingConfig.schema.type? "receivers" = _)
  obtain ⟨hrules, hrulesFit⟩ :=
    Value.elements_fits hconfig (rfl : Kind.routingConfig.schema.type? "inhibit_rules" = _)
  obtain ⟨hmuted, -⟩ :=
    Value.elements_fits hconfig (rfl : Kind.routingConfig.schema.type? "mute_time_intervals" = _)
  obtain ⟨htimes, -⟩ :=
    Value.elements_fits hconfig (rfl : Kind.routingConfig.schema.type? "time_intervals" = _)
  obtain ⟨htemplates, -⟩ :=
    Value.elements_fits hconfig (rfl : Kind.routingConfig.schema.type? "templates" = _)
  have hconverted := receivers_eq names.storeName (globalsOf_fits hconfig) hreceiversFit
  have hinhibited : ((config.get "inhibit_rules").elements.mapM fun v =>
      Logged.ofExcept (inhibition v)).result = .ok _ :=
    result_mapM fun v hv => inhibition_eq (hrulesFit v hv)
  have hspec := fun given => Entity.of_isPlain .routingResourceSpec given rfl rfl rfl
  have hresource := fun given => Entity.of_isPlain .routingResource given rfl rfl rfl
  have hsecret := fun given => Entity.of_isPlain .kubernetesSecret given rfl rfl rfl
  rw [convert, hfield "global_" rfl, result_lift_bind, hfield "templates" rfl, result_lift_bind]
  -- What is logged of templates is all that depends on them.
  extract_lets convertRest
  have hrest : ∀ r, (convertRest r).result =
      .ok (resourceOf names config, secretOf names config) := fun r => by
    simp only [convertRest, hfield "receivers" rfl, Value.items_eq_elements hreceivers,
      result_lift_bind]
    refine (result_bind_of_ok hconverted _).trans ?_
    simp only [hfield "inhibit_rules" rfl, Value.items_eq_elements hrules, result_lift_bind]
    rw [result_bind_of_ok hinhibited]
    simp only [hfield "mute_time_intervals" rfl, hfield "time_intervals" rfl,
      Value.joined_eq_elements hmuted htimes, hfield "route" rfl, hspec, metadata_eq hlabels,
      hresource, hsecret, result_lift_bind, result_say_bind]
    rfl
  split
  · rw [sizeOf, Value.items_eq_elements htemplates]
    exact (result_bind_of_ok rfl _).trans ((result_say_bind _ _).trans (hrest ()))
  · exact hrest ()

end MonitoringConfig.Conversion
