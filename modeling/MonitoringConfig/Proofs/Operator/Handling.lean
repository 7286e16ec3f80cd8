import MonitoringConfig.Proofs.Operator.Converted
import MonitoringConfig.Proofs.Projection.RoundTrip
import MonitoringConfig.Proofs.Routing.Reference
/-!
# Alerts in resources

A resource that was converted from a configuration, written and read again handles every alert as
the configuration does: at the same places of the tree, with the same settings in force there.

* `Conversion.HandlesAs` : what of the handling of an alert is the same for a configuration and a
  resource.
* `Conversion.handlesAs_resourceOf` : the resource of a configuration without issues handles every
  alert as the configuration.
* `Conversion.convert_handles` : **so does the resource that is read again.**
-/

namespace MonitoringConfig.Conversion

/-- The routing tree of a configuration, or of what a resource specifies. -/
def routesIn (v : Value) : Route :=
  Route.ofValue (v.get "route")

/-- The time intervals that a configuration defines. -/
def definedTimes (config : Value) : List Value :=
  (config.get "mute_time_intervals").elements ++ (config.get "time_intervals").elements

/-- Whether a resource handles the alerts with some labels as a configuration does. -/
structure HandlesAs (config resource : Value) (labels : Labels) : Prop where
  /-- The same routes handle the alert, with the same in force at each. -/
  handling : (routesIn (resource.get "spec")).handling labels = (routesIn config).handling labels
  /-- The receiver in force at a route is found in the resource too, with as many channels of each
  kind. -/
  receivers : ∀ found, (routesIn config).handling labels = .ok found → ∀ h ∈ found,
    ∃ own converted, RoutingConfig.findNamed (config.get "receivers") h.receiver = .ok own ∧
      RoutingConfig.findNamed (receiversIn resource) h.receiver = .ok converted ∧
      own.get "name" = h.receiver ∧ converted.get "name" = h.receiver ∧
      ∀ c : Channel, (converted.get c.field).elements.length = (own.get c.field).elements.length
  /-- The time intervals in force at a route are defined in the resource as they are in the
  configuration. -/
  times : ∀ found, (routesIn config).handling labels = .ok found → ∀ h ∈ found,
    ∀ name ∈ h.muted ++ h.active, ∃ t ∈ ((resource.get "spec").get "mute_time_intervals").elements,
      t.get "name" = name ∧ t ∈ definedTimes config

variable {names : Names} {config : Value}

/-! ### Receivers and time intervals of the resource -/

theorem length_channelsOf (store defaults : Value) (c : Channel) (receiver : String) (first : Nat)
    (vs : List Value) : (channelsOf store defaults c receiver first vs).length = vs.length := by
  rw [channelsOf, List.length_map, List.length_zipIdx]

theorem receiversIn_resourceOf (names : Names) (config : Value) :
    receiversIn (resourceOf names config) = .list (receiversOf names config) := rfl

theorem times_resourceOf (names : Names) (config : Value) :
    ((resourceOf names config).get "spec").get "mute_time_intervals" =
      .list (definedTimes config) := rfl

theorem mem_intervalNames {name : Value} :
    name ∈ config.intervalNames ↔ ∃ t ∈ definedTimes config, t.get "name" = name := by
  rw [Value.intervalNames, Value.namesIn, Value.namesIn, ← List.map_append, List.mem_map,
    definedTimes]

section

variable (hconfig : config.fits (.entity .routingConfig) = true)
include hconfig

/-- **A receiver that a configuration defines is found in the resource**, converted. -/
theorem findNamed_resourceOf (names : Names) {name : Value} (hname : name ∈ config.receiverNames) :
    ∃ own, RoutingConfig.findNamed (config.get "receivers") name = .ok own ∧
      RoutingConfig.findNamed (receiversIn (resourceOf names config)) name =
        .ok (receiverOf names.storeName (globalsOf config) own) ∧ own.get "name" = name := by
  have htype := (rfl : Kind.routingConfig.schema.type? "receivers" = _)
  obtain ⟨hlist, hreceivers⟩ := Value.elements_fits hconfig htype
  obtain ⟨own, hown, hfound, hownName⟩ := RoutingConfig.findNamed_of_mem hconfig htype rfl hname
  refine ⟨own, hfound, ?_, hownName⟩
  have hthere : own ≠ .null := by
    rintro rfl
    cases hreceivers _ hown
  rw [RoutingConfig.findNamed, Value.items_eq_elements hlist] at hfound
  rw [receiversIn_resourceOf, receiversOf]
  -- A converted receiver keeps its name, so the search stops where it stopped before.
  refine RoutingConfig.find_map (fun v hv => ?_) hfound hthere
  exact ⟨Value.field_of_fits (hreceivers v hv) "name" rfl, rfl⟩

/-- **The resource of a configuration without issues handles every alert as the configuration**:
the tree is kept, and what it names is converted name by name. -/
theorem handlesAs_resourceOf (names : Names) (hrefs : config.IsWellReferenced) (labels : Labels) :
    HandlesAs config (resourceOf names config) labels where
  handling := rfl
  receivers found hfound h hh := by
    obtain ⟨hreceiver, -⟩ := RoutingConfig.isDefined_of_mem hconfig hrefs hfound hh
    obtain ⟨own, hown, hconverted, hname⟩ := findNamed_resourceOf hconfig names hreceiver
    refine ⟨own, _, hown, hconverted, hname, hname, fun c => ?_⟩
    rw [get_receiverOf, Value.elements_list, length_channelsOf]
  times found hfound h hh name hname := by
    obtain ⟨-, htimes⟩ := RoutingConfig.isDefined_of_mem hconfig hrefs hfound hh
    obtain ⟨t, ht, htname⟩ := mem_intervalNames.1 (htimes name hname)
    rw [times_resourceOf]
    exact ⟨t, ht, htname, ht⟩

/-- **A configuration without issues becomes a resource that comes back from its plain data and
handles every alert as the configuration does.** Where the patterns of its matchers can be read,
every alert is handled without fail. -/
theorem convert_handles (hnames : names.isTyped = true) (hmillis : config.isWholeMillis = true)
    (hissues : (RoutingConfig.ofValue? config).map (·.issues) = some (.ok [])) (style : Style) :
    ∃ resource secret back, (convert names config).result = .ok (resource, secret) ∧
      (Entity.read .routingResource (resource.encode style) style).result = .ok back ∧
      back = resource ∧ (∀ labels, HandlesAs config back labels) ∧
      ((config.get "route").hasValidPatterns = true → ∀ labels : Labels, labels.IsTextual →
        ∃ found, (routesIn (back.get "spec")).handling labels = .ok found) := by
  have hlabels : names.labels.fits (.optional (.mapOf .text)) = true := by
    simp only [Names.isTyped, Bool.and_eq_true] at hnames
    exact hnames.2
  have hrefs : config.IsWellReferenced := by
    obtain ⟨c, hc, hnone⟩ := Option.map_eq_some_iff.1 hissues
    obtain ⟨issues, hresult, hiff⟩ := RoutingConfig.checks_issues hconfig hc
    exact hiff.1 (Except.ok.inj (hresult.symm.trans hnone))
  have hfits := resourceOf_fits hconfig hnames
  have hwhole := isWholeMillis_resourceOf hconfig hnames hmillis
  refine ⟨resourceOf names config, secretOf names config, resourceOf names config,
    convert_eq hconfig hlabels, ?_, rfl, handlesAs_resourceOf hconfig names hrefs, ?_⟩
  · -- A resource is written in the camel style, in which matchers are no texts.
    exact Entity.result_read_encode (by decide) hfits hwhole fun h => by cases h
  · intro hvalid labels htextual
    exact RoutingConfig.handling_eq_ok hconfig hrefs hvalid htextual

end

/-- A tree with a route that takes over its receiver, a receiver with a secret and a time. -/
theorem convert_handles_mutedTeam :
    let night := Value.build .route [("receiver", .text "night"),
      ("matchers", .list [.matcher ⟨"severity", .notRegex, "low|\"none\""⟩]),
      ("group_wait", .duration ⟨30000000000⟩), ("mute_time_intervals", .list [.text "weekend"])]
    let config := Value.build .routingConfig [
      ("receivers", .list [.build .receiver [("name", .text "team"), ("slack_configs",
          .list [.build .slackConfig [("api_url", .secret ⟨"https://hooks.example/one"⟩)]])],
        .build .receiver [("name", .text "night")]]),
      ("time_intervals", .list [.build .muteTimeInterval [("name", .text "weekend")]]),
      ("route", .build .route [("receiver", .text "team"), ("routes", .list [night])])]
    config.fits (.entity .routingConfig) = true ∧ teamNames.isTyped = true ∧
      config.isWholeMillis = true ∧
      (RoutingConfig.ofValue? config).map (·.issues) = some (.ok []) ∧
      ∃ resource secret, (convert teamNames config).result = .ok (resource, secret) ∧
        (Entity.read .routingResource (resource.encode .camel) .camel).result = .ok resource ∧
        ∀ labels, HandlesAs config resource labels := by
  intro night config
  have hconfig : config.fits (.entity .routingConfig) = true := by decide
  have hnames : teamNames.isTyped = true := by decide
  have hmillis : config.isWholeMillis = true := by decide
  have hissues : (RoutingConfig.ofValue? config).map (·.issues) = some (.ok []) := by
    have hcheck : (RoutingConfig.ofValue? config).bind (·.issues.toOption) = some [] := by
      decide +kernel
    obtain ⟨c, hc, hnone⟩ := Option.bind_eq_some_iff.1 hcheck
    obtain ⟨issues, hresult, -⟩ := RoutingConfig.checks_issues hconfig hc
    rw [hresult] at hnone
    cases hnone
    rw [hc, Option.map_some, hresult]
  obtain ⟨resource, secret, back, hconvert, hread, rfl, hhandles, -⟩ :=
    convert_handles hconfig hnames hmillis hissues .camel
  exact ⟨hconfig, hnames, hmillis, hissues, back, secret, hconvert, hread, hhandles⟩

end MonitoringConfig.Conversion
