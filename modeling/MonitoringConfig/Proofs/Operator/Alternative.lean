import MonitoringConfig.Proofs.Operator.Settings
/-!
# Credentials that stand in files

A channel can name a file that holds its credential. It then needs no credential of its own, and
none of the global section either; but a channel takes over the global credential whenever it has
none of its own, and so it can end up with both.

* `IsConvertedChannel.hasBoth_iff` : a converted channel has both just if it names a file and takes
  over a global credential.
* `convert_files` : so it is with all channels of a resource.
* `convert_files_both` : **a channel that names a file can end up with both.**
-/

namespace MonitoringConfig

/-- What is true of some item of a list is true of some item of another list that corresponds to
it. -/
theorem exists_mem_iff_of_forall₂ {α β : Type} {P : α → Prop} {Q : β → Prop} {as : List α}
    {bs : List β} (h : List.Forall₂ (fun a b => P a ↔ Q b) as bs) :
    (∃ a ∈ as, P a) ↔ ∃ b ∈ bs, Q b := by
  induction h with
  | nil => simp
  | cons hab _ ih => rw [List.exists_mem_cons_iff, List.exists_mem_cons_iff, hab, ih]

namespace Conversion

/-! ### Credentials and their files -/

/-- The credentials of channels that fall back to the global section and can stand in a file
instead, each with the setting that names the file. -/
def Channel.alternatives : Channel → List (String × String)
  | slack => [("api_url", "api_url_file")]
  | opsGenie => [("api_key", "api_key_file")]
  | _ => []

/-- Whether a channel sets both a credential and a file for it. -/
def SetsBoth (c : Channel) (channel : Value) : Prop :=
  ∃ e ∈ c.alternatives, isSet (channel.get e.1) = true ∧ isSet (channel.get e.2) = true

/-- Whether a channel names a file, and the global section has the credential that the channel does
not set beside it. -/
def TakesOver (c : Channel) (globals channel : Value) : Prop :=
  ∃ e ∈ c.alternatives, isSet (channel.get e.1) = false ∧ isSet (channel.get e.2) = true ∧
    ∃ counterpart, c.counterpart? e.1 = some counterpart ∧
      ∃ t, credentialIn (globals.get counterpart) = some t

/-- Whether a converted channel has both a reference to a credential and a file for it. -/
def HasBoth (c : Channel) (converted : Value) : Prop :=
  ∃ e ∈ c.alternatives,
    (∃ fields, converted.get e.1 = .entity .secretKeySelector fields) ∧
      isSet (converted.get e.2) = true

/-- Whether something is true of a channel of some receiver. -/
def SomeChannel (receivers : Value) (P : Channel → Value → Prop) : Prop :=
  ∃ r ∈ receivers.elements, ∃ c : Channel, ∃ v ∈ (r.get c.field).elements, P c v

/-- What is declared of a credential and the setting that names a file for it. -/
structure Channel.Alternative (c : Channel) (e : String × String) : Prop where
  credential : e.1 ∈ secretFields c.source
  file : e.2 ∈ c.source.schema.names
  file_notMem_secretFields : e.2 ∉ secretFields c.source
  file_ne_client : e.2 ≠ "http_config"
  file_ne_certificates : e.2 ≠ "tls_config"
  counterpart_credential : (c.counterpart? e.1).isSome
  counterpart_file : c.counterpart? e.2 = none

theorem Channel.alternative (c : Channel) : ∀ e ∈ c.alternatives, c.Alternative e := by
  have hall : ∀ e ∈ c.alternatives, e.1 ∈ secretFields c.source ∧ e.2 ∈ c.source.schema.names ∧
      e.2 ∉ secretFields c.source ∧ e.2 ≠ "http_config" ∧ e.2 ≠ "tls_config" ∧
      (c.counterpart? e.1).isSome ∧ c.counterpart? e.2 = none := by
    cases c <;> decide
  intro e he
  obtain ⟨h₁, h₂, h₃, h₄, h₅, h₆, h₇⟩ := hall e he
  exact ⟨h₁, h₂, h₃, h₄, h₅, h₆, h₇⟩

variable {c : Channel} {store globals v w : Value} {e : String × String}

theorem RefersTo.isSelector_iff {credential : Value} (h : RefersTo store credential w) :
    (∃ fields, w = .entity .secretKeySelector fields) ↔ ∃ t, credentialIn credential = some t := by
  cases h with
  | selector key h => exact ⟨fun _ => ⟨_, h⟩, fun _ => ⟨_, rfl⟩⟩
  | nothing h => simp [h]

/-- A converted channel has the file of the channel. -/
theorem IsConvertedChannel.file (h : IsConvertedChannel c store globals v w)
    (he : e ∈ c.alternatives) : w.get e.2 = v.get e.2 := by
  have ha := c.alternative e he
  rw [h.setting e.2 ha.file ha.file_notMem_secretFields ha.file_ne_client ha.file_ne_certificates,
    Channel.settingOf, ha.counterpart_file]

/-- **A converted channel has both a credential and a file** just if it names a file and takes over
a global credential, as long as it does not set both by itself. -/
theorem IsConvertedChannel.hasBoth_iff (h : IsConvertedChannel c store globals v w)
    (hone : ¬ SetsBoth c v) : HasBoth c w ↔ TakesOver c globals v := by
  refine exists_congr fun e => and_congr_right fun he => ?_
  have ha := c.alternative e he
  obtain ⟨counterpart, hcounterpart⟩ := Option.isSome_iff_exists.1 ha.counterpart_credential
  rw [(h.credential e.1 ha.credential).isSelector_iff, h.file he, Channel.settingOf, hcounterpart]
  cases hset : isSet (v.get e.1) with
  | true =>
    -- What sets the credential names no file, so it has not both, and takes nothing over.
    have hfile : ¬ isSet (v.get e.2) = true := fun hfile => hone ⟨e, he, hset, hfile⟩
    simp [hfile]
  | false => simp [and_comm]

/-! ### Configurations -/

variable {names : Names} {config : Value}

/-- **A channel of a resource has both a reference to a credential and a file for it** just if the
channel of the configuration names a file and the global section has the credential, as long as no
channel of the configuration sets both. The file is kept in any case. -/
theorem convert_files (hconfig : config.fits (.entity .routingConfig) = true)
    (hnames : names.isTyped = true) (hone : ¬ SomeChannel (config.get "receivers") SetsBoth) :
    ∃ resource secret, (convert names config).result = .ok (resource, secret) ∧
      List.Forall₂ (fun r r' => ∀ c : Channel, List.Forall₂ (fun v w =>
          (∀ e ∈ c.alternatives, w.get e.2 = v.get e.2) ∧
            (HasBoth c w ↔ TakesOver c (globalsOf config) v))
          (r.get c.field).elements (r'.get c.field).elements)
        (config.get "receivers").elements (receiversIn resource).elements ∧
      (SomeChannel (receiversIn resource) HasBoth ↔
        SomeChannel (config.get "receivers") fun c v => TakesOver c (globalsOf config) v) := by
  have hnone : ∀ r ∈ (config.get "receivers").elements, ∀ c : Channel,
      ∀ v ∈ (r.get c.field).elements, ¬ SetsBoth c v :=
    fun r hr c v hv hboth => hone ⟨r, hr, c, v, hv, hboth⟩
  have hconverted : List.Forall₂ (IsConvertedReceiver names.storeName (globalsOf config))
      (config.get "receivers").elements (receiversOf names config) := forall₂_receiversOf hconfig
  have hfiles : List.Forall₂ (fun r r' => ∀ c : Channel, List.Forall₂ (fun v w =>
        (∀ e ∈ c.alternatives, w.get e.2 = v.get e.2) ∧
          (HasBoth c w ↔ TakesOver c (globalsOf config) v))
        (r.get c.field).elements (r'.get c.field).elements)
      (config.get "receivers").elements (receiversOf names config) := by
    refine ((List.forall₂_and_left _ _).2 ⟨hnone, hconverted⟩).imp fun r r' h c => ?_
    refine ((List.forall₂_and_left _ _).2 ⟨h.1 c, h.2.channels c⟩).imp fun v w hv => ?_
    exact ⟨fun e he => hv.2.file he, hv.2.hasBoth_iff hv.1⟩
  refine ⟨_, _, convert_eq hconfig (Names.labels_fits hnames), hfiles, Iff.symm ?_⟩
  refine exists_mem_iff_of_forall₂ (hfiles.imp fun r r' h => exists_congr fun c => ?_)
  exact exists_mem_iff_of_forall₂ ((h c).imp fun v w hv => hv.2.symm)

/-- A configuration with a chat channel and one of an on-call service, each of which names a file
for its credential. -/
def fileConfig (globals : List (String × Value)) : Value :=
  .build .routingConfig [("global_", .build .alertingGlobal globals),
    ("receivers", .list [.build .receiver [("name", .text "ops"),
      ("slack_configs", .list
        [.build .slackConfig [("api_url_file", .text "/etc/keys/slack")]]),
      ("opsgenie_configs", .list
        [.build .opsGenieConfig [("api_key_file", .text "/etc/keys/opsgenie")]])]])]

theorem not_setsBoth_fileConfig (globals : List (String × Value)) :
    ¬ SomeChannel ((fileConfig globals).get "receivers") SetsBoth := by
  rintro ⟨r, hr, c, v, hv, e, he, hset, -⟩
  obtain rfl := List.mem_singleton.1 hr
  cases c with
  | slack =>
    obtain rfl := List.mem_singleton.1 hv
    obtain rfl := List.mem_singleton.1 he
    cases hset
  | opsGenie =>
    obtain rfl := List.mem_singleton.1 hv
    obtain rfl := List.mem_singleton.1 he
    cases hset
  | _ => exact absurd he List.not_mem_nil

/-- Where the global section has no credentials, the files stand alone. -/
theorem convert_files_alone :
    let config := fileConfig [("opsgenie_api_url", .text "https://opsgenie.example")]
    config.fits (.entity .routingConfig) = true ∧ teamNames.isTyped = true ∧
      ¬ SomeChannel (config.get "receivers") SetsBoth ∧
        ∃ resource secret, (convert teamNames config).result = .ok (resource, secret) ∧
          ¬ SomeChannel (receiversIn resource) HasBoth := by
  intro config
  have hconfig : config.fits (.entity .routingConfig) = true := by decide
  have hnames : teamNames.isTyped = true := by decide
  have hone : ¬ SomeChannel (config.get "receivers") SetsBoth := not_setsBoth_fileConfig _
  obtain ⟨resource, secret, hresult, -, hboth⟩ := convert_files hconfig hnames hone
  refine ⟨hconfig, hnames, hone, resource, secret, hresult, fun h => ?_⟩
  obtain ⟨r, -, c, v, -, e, he, -, -, counterpart, hcounterpart, t, ht⟩ := hboth.1 h
  cases c with
  | slack =>
    obtain rfl := List.mem_singleton.1 he
    cases hcounterpart
    cases ht
  | opsGenie =>
    obtain rfl := List.mem_singleton.1 he
    cases hcounterpart
    cases ht
  | _ => exact absurd he List.not_mem_nil

/-- **A channel that names a file can end up with both**: it takes over the global credential, which
it has no use for. -/
theorem convert_files_both :
    let config := fileConfig [("slack_api_url", .secret ⟨"https://hooks.example/all"⟩)]
    config.fits (.entity .routingConfig) = true ∧ teamNames.isTyped = true ∧
      ¬ SomeChannel (config.get "receivers") SetsBoth ∧
        ∃ resource secret, (convert teamNames config).result = .ok (resource, secret) ∧
          SomeChannel (receiversIn resource) HasBoth := by
  intro config
  have hconfig : config.fits (.entity .routingConfig) = true := by decide
  refine ⟨hconfig, by decide, not_setsBoth_fileConfig _, _, _, convert_eq hconfig rfl, ?_⟩
  refine ⟨_, List.mem_singleton.2 rfl, .slack, _, List.mem_singleton.2 rfl, _,
    List.mem_singleton.2 rfl, ⟨_, rfl⟩, rfl⟩

end Conversion

end MonitoringConfig
