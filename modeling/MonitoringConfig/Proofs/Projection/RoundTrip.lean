import MonitoringConfig.Proofs.Projection.Fields
/-!
# Entities and their plain data

What is written of an entity is enough to read the entity again.

* `Kind.Faithful` : what the schema of a kind says if its entities come back.
* `Kind.lossless` : the kinds of which that is so, those of rules and of resources among them.
* `Value.decode_encode` : a value of a type is read from its plain data, up to what its durations
  have below a millisecond.
* `Value.encode_truncated` : that part of a duration has no influence on the plain data.
* `Entity.read_encode` : an entity of a configuration comes back, and its plain data does not change
  when it is read and written again.
-/

namespace MonitoringConfig

open Logged

/-! ### Schemas that lose nothing -/

/-- Whether a type is made of scalars that are read as they are declared, and of entities of some
kinds. -/
def FieldType.isWithin (kinds : List Kind) (t : FieldType) : Bool :=
  t.isMadeOf kinds fun t => t != .any && t != .oneOf

/-- The kinds of entity that files of rules are made of. -/
def Kind.rules : List Kind :=
  [.recordingRule, .alertingRule, .ruleGroup, .ruleFile]

/-- What the schema of a kind says if the fields of its entities are told apart by their keys. -/
structure Kind.WellKeyed (kind : Kind) : Prop where
  isProjected : kind.isProjected = true
  names_nodup : kind.schema.names.Nodup
  keys_nodup : ∀ style, (kind.schema.fields.map (·.key style)).Nodup
  /-- No field has a key of the envelope. -/
  envelope : kind.schema.envelope?.isSome = true → ∀ style, ∀ f ∈ kind.schema.fields,
    f.key style ≠ "apiVersion" ∧ f.key style ≠ "kind"

/-- What the schema of a kind says if its entities come back from their plain data, where those of
some kinds do: a field that is left out is one whose default is known. -/
structure Kind.Faithful (kinds : List Kind) (kind : Kind) : Prop extends kind.WellKeyed where
  /-- Only rules, in which there are no matchers, impose the snake style on what is in them. -/
  style : kind.schema.style? = some .snake → kind ∈ Kind.rules
  comesBack : ∀ f ∈ kind.schema.fields, f.comesBack = true
  isWithin : ∀ f ∈ kind.schema.fields, f.type.isWithin kinds = true

/-- The kinds of entity that the files of the server and of the alert manager are made of, rules
apart. -/
def Kind.configuration : List Kind :=
  [.basicAuth, .authorization, .tlsConfig, .httpConfig,
    .relabelConfig, .kubernetesNamespaces, .kubernetesSelector, .kubernetesDiscovery,
    .consulDiscovery, .ec2Filter, .ec2Discovery, .dnsDiscovery, .fileDiscovery, .queueConfig,
    .metadataConfig, .remoteWrite, .remoteRead, .staticConfig, .scrapeConfig, .serverGlobal,
    .alertmanagerTarget, .alertingConfig, .serverConfig,
    .emailConfig, .slackAction, .slackField, .slackConfig, .pagerDutyImage, .pagerDutyLink,
    .pagerDutyConfig, .webhookConfig, .opsGenieResponder, .opsGenieConfig, .receiver, .route,
    .timeRange, .timeInterval, .muteTimeInterval, .inhibitRule, .alertingGlobal, .routingConfig]

/-- The kinds of entity that resources are made of besides. A secret is not among them: a secret of
no type is read as one of the type that secrets have by default. -/
def Kind.resources : List Kind :=
  [.objectMeta, .secretKeySelector, .configMapKeySelector, .secretOrConfigMap,
    .labelSelectorRequirement, .labelSelector, .namespaceSelector, .safeTlsConfig, .selectorAuth,
    .selectorHttp, .kubernetesObject, .endpoint, .serviceMonitorSpec, .serviceMonitor,
    .podEndpoint, .podMonitorSpec, .podMonitor, .ruleResourceSpec, .ruleResource, .operatorEmail,
    .operatorSlack, .operatorPagerDuty, .operatorWebhook, .operatorOpsGenie, .operatorReceiver,
    .operatorInhibitRule, .routingResourceSpec, .routingResource, .configMap]

/-- The kinds whose entities come back from their plain data. -/
def Kind.lossless : List Kind :=
  configuration ++ rules ++ resources

/-- The kinds of the samples. -/
def Kind.samples : List Kind :=
  [.sampleInner, .samplePinned, .sampleOuter, .sampleCamel]

/-- The kinds whose entities are written by their schema. -/
def Kind.projected : List Kind :=
  samples ++ kubernetesSecret :: lossless

theorem Kind.mem_of_isProjected {kind : Kind} (h : kind.isProjected = true) :
    kind ∈ projected := by
  cases kind <;> first | decide | cases h

/-- The characters of a name in the camel style. -/
def camelChars (cs : List Char) : List Char :=
  match splitAtChar '_' cs with
  | [] => []
  | head :: rest => head ++ rest.flatMap capitalized

theorem camelCase_eq (name : String) :
    camelCase name = String.ofList (camelChars name.toList) := by
  rw [camelCase, camelChars]
  cases splitAtChar '_' name.toList <;> rfl

namespace Field

/-- The characters of the key of a field in the snake style. -/
def snakeChars (f : Field) : List Char :=
  match f.key? with
  | some key => key.toList
  | none => (f.name.toList.reverse.dropWhile (· == '_')).reverse

/-- The characters of the key of a field. That keys differ is checked of their characters, which
are not put together to a text and taken apart again at every step of the check. -/
def keyChars (f : Field) : Style → List Char
  | .snake => f.snakeChars
  | .camel => match f.camel? with
    | some key => key.toList
    | none => camelChars f.snakeChars

theorem ofList_snakeChars (f : Field) : String.ofList f.snakeChars = f.key .snake := by
  rw [snakeChars, key]
  cases f.key? with
  | some key => exact String.ofList_toList
  | none => rfl

theorem ofList_keyChars (f : Field) (style : Style) :
    String.ofList (f.keyChars style) = f.key style := by
  cases style with
  | snake => exact f.ofList_snakeChars
  | camel =>
    have hsnake : f.snakeChars = (f.key?.getD (dropUnderscores f.name)).toList :=
      String.ofList_injective (f.ofList_snakeChars.trans String.ofList_toList.symm)
    rw [keyChars, key]
    cases f.camel? with
    | some key => exact String.ofList_toList
    | none => rw [hsnake, ← camelCase_eq]; rfl

theorem nodup_keys {fields : List Field} {style : Style}
    (h : (fields.map (·.keyChars style)).Nodup) : (fields.map (·.key style)).Nodup := by
  have hkeys : fields.map (·.key style) =
      (fields.map (·.keyChars style)).map String.ofList := by
    simp [ofList_keyChars]
  rw [hkeys]
  exact List.Pairwise.map _ (fun _ _ hne heq => hne (String.ofList_injective heq)) h

end Field

theorem Kind.wellKeyed_of_isProjected {kind : Kind} (h : kind.isProjected = true) :
    kind.WellKeyed where
  isProjected := h
  names_nodup := by
    have hnames : ∀ kind ∈ projected, kind.schema.names.Nodup := by decide +kernel
    exact hnames kind (mem_of_isProjected h)
  keys_nodup style := by
    have hchars : ∀ kind ∈ projected, ∀ style ∈ [Style.snake, .camel],
        (kind.schema.fields.map (·.keyChars style)).Nodup := by
      decide +kernel
    exact Field.nodup_keys (hchars kind (mem_of_isProjected h) style (by cases style <;> simp))
  envelope := by
    have hchars : ∀ kind ∈ projected, kind.schema.envelope?.isSome = true →
        ∀ style ∈ [Style.snake, .camel], ∀ f ∈ kind.schema.fields,
          f.keyChars style ≠ "apiVersion".toList ∧ f.keyChars style ≠ "kind".toList := by
      decide +kernel
    intro hsome style f hf
    have hne := hchars kind (mem_of_isProjected h) hsome style (by cases style <;> simp) f hf
    rw [← f.ofList_keyChars]
    exact ⟨fun heq => hne.1 (by rw [← heq, String.toList_ofList]),
      fun heq => hne.2 (by rw [← heq, String.toList_ofList])⟩

theorem Kind.wellKeyed_of_mem {kind : Kind} (h : kind ∈ kubernetesSecret :: lossless) :
    kind.WellKeyed :=
  wellKeyed_of_isProjected (by revert kind; decide)

theorem Kind.faithful_of_mem_lossless {kind : Kind} (h : kind ∈ lossless) :
    kind.Faithful lossless where
  __ := wellKeyed_of_mem (List.mem_cons_of_mem _ h)
  style := by revert kind; decide
  comesBack := by revert kind; decide
  isWithin := by revert kind; decide

theorem Kind.faithful_of_mem_configuration {kind : Kind} (h : kind ∈ configuration) :
    kind.Faithful configuration where
  __ := faithful_of_mem_lossless (List.mem_append_left _ (List.mem_append_left _ h))
  isWithin := by revert kind; decide

/-! ### Reading a type whose values may be missing -/

theorem decodeBy_inner (v : Value) (items? : Option (List Decoder))
    (entries? : Option (List DecodedEntry)) (t : FieldType) (style : Style) :
    decodeBy v items? entries? t style = decodeBy v items? entries? t.inner style := by
  induction t with
  | optional t ih => rw [decodeBy, ih, FieldType.inner]
  | _ => rfl

theorem decodeText_inner (v : Value) (cs : List Char) (t : FieldType) (style : Style) :
    decodeText v cs t style = decodeText v cs t.inner style := by
  induction t with
  | optional t ih => rw [decodeText, ih, FieldType.inner]
  | _ => rfl

/-- A value that is there is read as one of the type of the values that are there. -/
theorem Value.decode_inner {v : Value} (h : v ≠ null) (t : FieldType) (style : Style) :
    v.decode t style = v.decode t.inner style := by
  cases v with
  | null => exact absurd rfl h
  | text s => exact decodeText_inner (text s) s.toList t style
  | member c s => exact decodeText_inner (member c s) s.toList t style
  | _ => exact decodeBy_inner _ _ _ t style

/-! ### Values -/

namespace Value

variable {kinds : List Kind}

/-- A value without parts is read from its plain data. -/
theorem decode_encode_leaf {v : Value} {t : FieldType} {style : Style} (hv : v.isLeaf = true)
    (h : v.fits t = true)
    (hm : style = .snake → v.hasReadableMatchers = true) :
    ((v.encode style).decode t style).result = .ok v.truncated := by
  have hinner : (v.encode style).isNull = false →
      (v.encode style).decode t style = (v.encode style).decode t.inner style := fun hnull =>
    decode_inner (fun h => by rw [h] at hnull; cases hnull) t style
  cases v with
  | null => cases t with
    | rule => cases h
    | _ => rfl
  | bool _ | int _ | float _ | text _ | secret _ =>
    simp only [fits, beq_iff_eq] at h
    rw [hinner rfl, h]
    rfl
  | duration d =>
    simp only [fits, beq_iff_eq] at h
    rw [hinner rfl, h]
    have hread : Duration.read d.format = .ok d.truncated := by
      rw [Duration.read, Duration.parse_format]
    show (Duration.read d.format).map duration = _
    rw [hread]
    rfl
  | matcher m =>
    simp only [fits, beq_iff_eq] at h
    rw [hinner (by cases style <;> rfl), h]
    cases style with
    | snake =>
      have hread : Matcher.parseValue (.text m.format) = .ok m := by
        simp [Matcher.parseValue, asText?, Matcher.parse_format (hm rfl)]
      show (Matcher.parseValue (.text m.format)).map matcher = _
      rw [hread]
      rfl
    | camel =>
      show (Matcher.ofValue (m.toPlain .camel)).map matcher = _
      rw [Matcher.ofValue_toPlain_camel]
      rfl
  | member c s =>
    simp only [fits, Bool.and_eq_true, beq_iff_eq] at h
    rw [hinner rfl, h.1]
    show c.memberOf (.text s) = _
    simp [Choice.memberOf, asText?, h.2, truncated]
  | list _ | tuple _ | set _ | map _ | entity _ _ => cases hv
  | _ => cases h

end Value

/-! ### Entities -/

namespace Entity

variable {kinds : List Kind} {kind : Kind} {fields : List Value} {style : Style}

/-- An entity is made of the fields that were written. -/
theorem finish_written (hkind : kind.Faithful kinds)
    (hfits : Value.fitsFields fields kind.schema.fields = true) :
    (finish kind (written kind.schema.fields fields)).result =
      .ok (.entity kind (fields.map Value.truncated)) := by
  obtain ⟨hvalues, hgiven⟩ := lookup_written_getD hfits hkind.names_nodup hkind.comesBack
  have hmissing : missing kind (written kind.schema.fields fields) = [] := by
    rw [missing, List.map_eq_nil_iff, List.filter_eq_nil_iff]
    intro f hf
    cases hrequired : f.isRequired with
    | true => simp [hgiven f hf hrequired]
    | false => simp
  have htyped := Value.fitsFields_map (g := Value.truncated)
    (fun v _ t hv => Value.fits_truncated hv) hfits
  rw [finish, hmissing, complete, hvalues, result_ofExcept, make_of_fits hkind.isProjected htyped]

/-- What is made of the fields that are given depends on what is given for each field alone. -/
theorem finish_congr {given given' : List (String × Value)}
    (h : ∀ f ∈ kind.schema.fields, given.lookup f.name = given'.lookup f.name) :
    finish kind given = finish kind given' := by
  have hmissing : missing kind given = missing kind given' := by
    rw [missing, missing]
    refine congrArg _ (List.filter_congr fun f hf => ?_)
    rw [h f hf]
  have hcomplete : complete kind given = complete kind given' :=
    List.map_congr_left fun f hf => by rw [h f hf]
  rw [finish, finish, hmissing, hcomplete]

/-- The name of the kind is found where it was written. -/
theorem entry_kind {envelope : Envelope} (henvelope : kind.schema.envelope? = some envelope)
    (entries : List (Value × Value)) :
    entry? (Value.decodeEntries (kind.schema.envelopeEntries ++ entries)) "kind" =
      some ⟨.text "kind", .text envelope.kind, Value.decode (.text "kind"),
        Value.decode (.text envelope.kind)⟩ := by
  simp only [Schema.envelopeEntries, henvelope]
  simp [ entry?, Value.decodeEntries]
  rfl

/-- The envelope that was written is the one that is looked for. -/
theorem checkEnvelope_written (kind : Kind) (entries : List (Value × Value)) :
    checkEnvelope kind (Value.decodeEntries (kind.schema.envelopeEntries ++ entries)) = .ok () := by
  rw [checkEnvelope]
  cases henvelope : kind.schema.envelope? with
  | none => rfl
  | some envelope =>
    rw [ entry_kind henvelope]
    simp

/-- The envelope is taken off, and the fields stay. -/
theorem dropEnvelope_written (hkind : kind.WellKeyed) (style : Style) (values : List Value) :
    dropEnvelope kind (Value.decodeEntries (kind.schema.envelopeEntries ++
        Value.encodeFields style kind.schema.fields values)) =
      Value.decodeEntries (Value.encodeFields style kind.schema.fields values) := by
  cases henvelope : kind.schema.envelope? with
  | none => simp [dropEnvelope, Schema.envelopeEntries, henvelope]
  | some envelope =>
    have hsome : kind.schema.envelope?.isSome = true := by rw [henvelope]; rfl
    rw [dropEnvelope, if_pos hsome]
    simp only [Schema.envelopeEntries, henvelope, List.cons_append, List.nil_append,
      Value.decodeEntries]
    rw [List.filter_cons_of_neg (by simp), List.filter_cons_of_neg (by simp), List.filter_eq_self]
    intro e he
    rw [Value.decodeEntries_eq_map] at he
    obtain ⟨e', he', rfl⟩ := List.mem_map.1 he
    obtain ⟨f, hf, hkey⟩ := key_of_mem_encodeFields he'
    simp [hkey, hkind.envelope hsome style f hf]

/-- The result of reading an entity, given what is read of its fields; of a group the rules are read
first. Keys that are passed over do not change it. -/
theorem result_readEntries {entries fieldEntries : List DecodedEntry}
    {first given : List (String × Value)} (hcheck : checkEnvelope kind entries = .ok ())
    (hdrop : dropEnvelope kind entries = fieldEntries)
    (hfirst : kind = .ruleGroup ∧ (∃ rules, first = [("rules", rules)] ∧
        (readRules fieldEntries (kind.schema.styleIn style)).result = .ok rules) ∨
      kind ≠ .ruleGroup ∧ first = [])
    (hgiven : (readFields fieldEntries (kind.schema.styleIn style)
      (kind.schema.fields.filter fun f => (first.lookup f.name).isNone)).result = .ok given) :
    (readEntries kind entries style).result = (finish kind (first ++ given)).result := by
  simp only [readEntries, hcheck, hdrop, result_bind, result_ofExcept, Except.bind]
  rcases hfirst with ⟨hgroup, rules, rfl, hrules⟩ | ⟨hother, rfl⟩
  · rw [if_pos (beq_iff_eq.2 hgroup), result_bind, result_map, hrules]
    simp only [Except.map, Except.bind, result_bind, hgiven, result_ite_say]
  · rw [if_neg (by simpa using hother), result_bind, result_pure]
    simp only [Except.bind, result_bind, hgiven, result_ite_say]

/-- The field of a group that lists its rules. -/
def rulesField : Field :=
  (Field.list "rules" .rule).kept

/-- The rules of a group are always written, so they are found; that there are none is read as such
without a look at what stands there. -/
theorem readRules_of_comesFrom {entries : List DecodedEntry} {rules : Value}
    (h : ComesFrom entries style rules rulesField) (hfits : rules.fits (.listOf .rule) = true) :
    (readRules entries style).result = .ok rules.truncated := by
  obtain ⟨items, rfl, -⟩ := Value.eq_list_of_fits hfits
  have hkey : rulesField.key style = "rules" := by cases style <;> decide
  have hentry : entry? entries "rules" = some (entryOf style rulesField (.list items)) := by
    rw [← hkey]
    exact h.entry
  rw [readRules, hentry]
  cases items with
  | nil => rfl
  | cons item items => exact h.read

theorem written_append {fs gs : List Field} {vs ws : List Value} (h : fs.length = vs.length) :
    written (fs ++ gs) (vs ++ ws) = written fs vs ++ written gs ws := by
  induction fs generalizing vs with
  | nil =>
    obtain rfl := List.length_eq_zero_iff.1 h.symm
    rfl
  | cons f fs ih =>
    cases vs with
    | nil => cases h
    | cons v vs =>
      rw [List.cons_append, List.cons_append, written, written, ih (Nat.succ.inj h)]
      split <;> rfl

/-- A group is read from the entries of its fields: the rules first, and then the other fields. -/
theorem readEntries_ruleGroup {entries fieldEntries : List DecodedEntry}
    (hgroup : Kind.ruleGroup.Faithful kinds)
    (hfits : Value.fitsFields fields Kind.ruleGroup.schema.fields = true)
    (hcheck : checkEnvelope .ruleGroup entries = .ok ())
    (hdrop : dropEnvelope .ruleGroup entries = fieldEntries)
    (hcomes : List.Forall₂ (ComesFrom fieldEntries .snake) fields
      Kind.ruleGroup.schema.fields) :
    (readEntries .ruleGroup entries style).result =
      .ok (.entity .ruleGroup (fields.map Value.truncated)) := by
  let others : List Field := [.required "name" .text, .optional "interval" .duration,
    .whole "limit"]
  obtain ⟨about, rules, rfl, habout, hrules, hlist⟩ : ∃ about rules, fields = about ++ [rules] ∧
      List.Forall₂ (ComesFrom fieldEntries .snake) about others ∧
      ComesFrom fieldEntries .snake rules rulesField ∧ rules.fits (.listOf .rule) = true := by
    have htypes := Value.fitsFields_iff.1 hfits
    rcases hcomes with _ | ⟨hname, _ | ⟨hinterval, _ | ⟨hlimit, _ | ⟨hrules, _ | _⟩⟩⟩⟩
    rcases htypes with _ | ⟨-, _ | ⟨-, _ | ⟨-, _ | ⟨hlist, _⟩⟩⟩⟩
    exact ⟨[_, _, _], _, rfl, .cons hname (.cons hinterval (.cons hlimit .nil)), hrules, hlist⟩
  have hfirst := readRules_of_comesFrom hrules hlist
  have hgiven := readFields_of_comesFrom habout
  rw [result_readEntries hcheck hdrop (.inl ⟨rfl, _, rfl, hfirst⟩) hgiven]
  rw [← finish_written hgroup hfits]
  refine congrArg _ (finish_congr fun f _ => ?_)
  -- The rules stand in front where they were read, and behind where they were written.
  have hwritten : written Kind.ruleGroup.schema.fields (about ++ [rules]) =
      written others about ++ [("rules", rules.truncated)] := by
    obtain ⟨items, rfl, -⟩ := Value.eq_list_of_fits hlist
    exact written_append habout.length_eq.symm
  rw [hwritten, List.lookup_append, List.lookup_append]
  by_cases hname : f.name = "rules"
  · have hother : (written others about).lookup "rules" = none := lookup_written (by decide)
    rw [hname, hother, Option.none_or, Option.or_none]
  · have hlast : [("rules", rules.truncated)].lookup f.name = none := by
      rw [List.lookup_cons, beq_eq_false_iff_ne.2 hname]
      rfl
    rw [hlast, Option.none_or, Option.or_none]

/-- **An entity is read from the entries of its fields**, if the values of its fields are. -/
theorem readEntries_encodeFields (style : Style) (hkind : kind.Faithful kinds)
    (hfits : Value.fitsFields fields kind.schema.fields = true)
    (hread : ∀ v ∈ fields, ∀ f ∈ kind.schema.fields, v.fits f.type = true →
      ((v.encode (kind.schema.styleIn style)).decode f.type (kind.schema.styleIn style)).result =
        .ok v.truncated) :
    (readEntries kind (Value.decodeEntries (kind.schema.envelopeEntries ++
      Value.encodeFields (kind.schema.styleIn style) kind.schema.fields fields)) style).result =
        .ok (.entity kind (fields.map Value.truncated)) := by
  have hcheck := checkEnvelope_written kind
    (Value.encodeFields (kind.schema.styleIn style) kind.schema.fields fields)
  have hdrop := dropEnvelope_written hkind.toWellKeyed (kind.schema.styleIn style) fields
  have hcomes : List.Forall₂ (ComesFrom (Value.decodeEntries
      (Value.encodeFields (kind.schema.styleIn style) kind.schema.fields fields))
        (kind.schema.styleIn style)) fields kind.schema.fields := by
    obtain ⟨hlength, hzip⟩ := List.forall₂_iff_zip.1 (Value.fitsFields_iff.1 hfits)
    refine List.forall₂_iff_zip.2 ⟨hlength, fun hmem =>
      ⟨entry_encodeFields (hkind.keys_nodup _) hmem, ?_⟩⟩
    obtain ⟨hv, hf⟩ := List.of_mem_zip hmem
    exact hread _ hv _ hf (hzip hmem)
  by_cases hgroup : kind = .ruleGroup
  · subst hgroup
    exact readEntries_ruleGroup hkind hfits hcheck hdrop hcomes
  · have hgiven := readFields_of_comesFrom hcomes
    rw [result_readEntries hcheck hdrop (.inr ⟨hgroup, rfl⟩) (by simpa using hgiven)]
    exact finish_written hkind hfits

end Entity

namespace Value

variable {kinds : List Kind} {style : Style}

/-- An entity is written as its fields behind its envelope, in the style that is in force in it. -/
theorem encode_entity {kind : Kind} (hkind : kind.WellKeyed) (fields : List Value) :
    encode style (entity kind fields) = map (kind.schema.envelopeEntries ++
      encodeFields (kind.schema.styleIn style) kind.schema.fields fields) := by
  simp [encode, hkind.isProjected]

/-- There are no matchers in rules. -/
theorem hasReadableMatchers_of_rules {kind : Kind} (hkind : kind ∈ Kind.rules) {v : Value}
    (h : v.fits (.entity kind) = true) : v.hasReadableMatchers = true := by
  have hkinds : ∀ kind ∈ Kind.rules, ∀ f ∈ kind.schema.fields,
      f.type.isMadeOf Kind.rules (· != .matcher) = true := by
    decide
  have ht : (FieldType.entity kind).isMadeOf Kind.rules (· != .matcher) = true :=
    List.contains_iff_mem.2 hkind
  refine everywhere_of_fits hkinds rfl (fun _ => rfl) ?_ ht h
  intro v t _ hfits hscalar
  cases v with
  | matcher m =>
    simp only [fits, beq_iff_eq] at hfits
    rw [hfits] at hscalar
    cases hscalar
  | _ => rfl

/-- Where the snake style is in force in an entity, its matchers can stand in texts: it is in force
around the entity too, or the entity is one of rules. -/
theorem hasReadableMatchers_inside {kind : Kind} (hkind : kind.Faithful kinds) {fields : List Value}
    (hfields : fitsFields fields kind.schema.fields = true)
    (hm : style = .snake → (entity kind fields).hasReadableMatchers = true)
    (hinside : kind.schema.styleIn style = .snake) :
    (entity kind fields).hasReadableMatchers = true := by
  rw [Schema.styleIn] at hinside
  cases hstyle : kind.schema.style? with
  | none =>
    rw [hstyle] at hinside
    exact hm hinside
  | some imposed =>
    rw [hstyle] at hinside
    have hrules := hkind.style (hstyle.trans (congrArg some hinside))
    exact hasReadableMatchers_of_rules hrules (by simp [fits, FieldType.inner, hfields])

/-- A mapping mentions the key of a field that must be given. -/
theorem mentions_encodeFields {f : Field} {v : Value} (fs : List Field) (vs : List Value)
    (hrequired : f.isRequired = true) (hnull : v.isNull = false) :
    (map (encodeFields style (f :: fs) (v :: vs))).mentions? (f.key style) = some true := by
  have hwritten : f.isWritten v = true := by simp [Field.isWritten, hnull, hrequired]
  rw [encodeFields, if_pos hwritten, mentions?]
  simp

/-- A mapping does not mention what is not the key of a field. -/
theorem not_mentions_encodeFields {fs : List Field} {key : String}
    (h : ∀ f ∈ fs, f.key style ≠ key) (vs : List Value) :
    (map (encodeFields style fs vs)).mentions? key = some false := by
  rw [mentions?, Option.some.injEq, List.any_eq_false]
  intro e he
  obtain ⟨f, hf, hkey⟩ := Entity.key_of_mem_encodeFields he
  simpa [hkey] using h f hf

/-- A rule is told to be of its sort by its first key. -/
theorem readRule_encodeFields {kind : Kind} (hrule : kind.isRule = true) {fields : List Value}
    (hfields : fitsFields fields kind.schema.fields = true) :
    let entries := kind.schema.envelopeEntries ++
      encodeFields (kind.schema.styleIn style) kind.schema.fields fields
    readRule (map entries) (some (decodeEntries entries)) =
      Entity.readEntries kind (decodeEntries entries) style := by
  cases kind with
  | alertingRule =>
    obtain ⟨name, values, hname, -, rfl⟩ :=
      List.forall₂_cons_right_iff.1 (fitsFields_iff.1 hfields)
    obtain ⟨s, rfl⟩ := eq_text_of_fits hname
    have hkey : (Field.required "alert" .text).key .snake = "alert" := by decide
    have halert : (map (encodeFields .snake Kind.alertingRule.schema.fields
        (text s :: values))).mentions? "alert" = some true := by
      rw [← hkey]
      exact mentions_encodeFields _ values rfl rfl
    show readRule (map (encodeFields .snake _ _)) _ = _
    rw [readRule, halert]
    rfl
  | recordingRule =>
    obtain ⟨name, values, hname, -, rfl⟩ :=
      List.forall₂_cons_right_iff.1 (fitsFields_iff.1 hfields)
    obtain ⟨s, rfl⟩ := eq_text_of_fits hname
    have hkey : (Field.required "record" .text).key .snake = "record" := by decide
    have hrecord : (map (encodeFields .snake Kind.recordingRule.schema.fields
        (text s :: values))).mentions? "record" = some true := by
      rw [← hkey]
      exact mentions_encodeFields _ values rfl rfl
    have halert : (map (encodeFields .snake Kind.recordingRule.schema.fields
        (text s :: values))).mentions? "alert" = some false :=
      not_mentions_encodeFields (by decide) _
    show readRule (map (encodeFields .snake _ _)) _ = _
    rw [readRule, halert, hrecord]
    rfl
  | _ => cases hrule

/-- Items that are written are read one by one. -/
theorem result_decodeItems {items : List Value} {item : FieldType}
    (h : ∀ v ∈ items, ((v.encode style).decode item style).result = .ok v.truncated) :
    (all ((decodeItems (encodeList style items)).map fun read => read item style)).result =
      .ok (truncatedAll items) := by
  rw [encodeList_eq_map, decodeItems_eq_map, List.map_map, List.map_map, truncatedAll_eq_map]
  exact result_all_map h

/-- **A value of a type is read from its plain data**, up to what its durations have below a
millisecond. In the snake style a matcher is a text, which its name must not spoil. -/
theorem decode_encode (hkinds : ∀ kind ∈ kinds, kind.Faithful kinds) {v : Value}
    {t : FieldType} (ht : t.isWithin kinds = true) (h : v.fits t = true)
    (hm : style = .snake → v.hasReadableMatchers = true) :
    ((v.encode style).decode t style).result = .ok v.truncated := by
  refine induct_made (P := fun v t => ∀ style, (style = .snake → v.hasReadableMatchers = true) →
    ((v.encode style).decode t style).result = .ok v.truncated) (fun kind hkind =>
      (hkinds kind hkind).isWithin) ?leaf ?list ?tuple ?map ?entity ht h style hm
  case leaf => exact fun v t hv _ h style hm => decode_encode_leaf hv h hm
  case list | tuple =>
    intro items t item hitem _ ih style hm
    have hread := result_decodeItems fun v hv =>
      ih v hv style fun hs => everywhereIn_iff.1 (hm hs) v hv
    rw [encode, decode_inner (by simp), hitem, decode, decodeBy, result_bind, hread, truncated]
    rfl
  case map =>
    intro entries t item hitem hkeys _ ih style hm
    -- The keys are texts, which are written as they are and stay distinct.
    have hread : ∀ e ∈ entries, ((Value.decode (e.2.encode style) item style).map
        fun w => (Value.text e.1.shown, w)).result = .ok (e.1, e.2.truncated) := fun e he => by
      obtain ⟨k, hk⟩ := hkeys.1 e he
      rw [result_map, ih e he style fun hs => (everywhereInEntries_iff.1 (hm hs) e he).2, hk]
      rfl
    rw [encode, encodeEntries_of_distinct style hkeys, decode_inner (by simp), hitem, decode,
      decodeBy, decodeEntries_eq_map, List.map_map, List.map_map, result_bind]
    simp only [Function.comp_def]
    rw [result_all_map hread, truncated, truncatedEntries_eq_map]
    exact congrArg (fun es => Except.ok (map es))
      (insertEntries_of_distinct (distinctTexts_map hkeys truncated).2)
  case entity =>
    intro kind fields t hmem hkind hfields ih style hm
    -- The values of an entity are read one by one, and the entity is made of what is read.
    have hfaithful := hkinds kind hmem
    have hinside := hasReadableMatchers_inside hfaithful hfields hm
    have hread := Entity.readEntries_encodeFields style hfaithful hfields
      fun v hv f hf hvf => ih v hv f hf hvf _ fun hs => everywhereIn_iff.1 (hinside hs) v hv
    rw [encode_entity hfaithful.toWellKeyed, decode_inner (by simp), truncated, truncatedAll_eq_map,
      ← hread]
    rcases hkind with hkind | ⟨hkind, hrule⟩
    · rw [hkind, decode, decodeBy]
    · rw [hkind, decode, decodeBy, readRule_encodeFields hrule hfields]

theorem encodeFields_map {fs : List Field} {vs : List Value} {g : Value → Value}
    (hfits : fitsFields vs fs = true)
    (h : ∀ v ∈ vs, ∀ f ∈ fs, v.fits f.type = true →
      f.isWritten (g v) = f.isWritten v ∧ encode style (g v) = encode style v) :
    encodeFields style fs (vs.map g) = encodeFields style fs vs := by
  induction fitsFields_iff.1 hfits with
  | nil => rfl
  | @cons v f vs fs hv hvs ih =>
    obtain ⟨hwritten, hencode⟩ := h v List.mem_cons_self f List.mem_cons_self hv
    have hrest := ih (fitsFields_iff.2 hvs) fun w hw f' hf' =>
      h w (List.mem_cons_of_mem _ hw) f' (List.mem_cons_of_mem _ hf')
    rw [List.map_cons, encodeFields, encodeFields, hwritten, hencode, hrest]

/-- **What a duration has below a millisecond is not written.** -/
theorem encode_truncated (hkinds : ∀ kind ∈ kinds, kind.Faithful kinds) {v : Value}
    {t : FieldType} (ht : t.isWithin kinds = true) (h : v.fits t = true) :
    encode style v.truncated = encode style v := by
  refine induct_made (P := fun v _ => ∀ style, encode style v.truncated = encode style v)
    (fun kind hkind => (hkinds kind hkind).isWithin) ?leaf ?list ?tuple ?map ?entity ht h style
  case leaf =>
    intro v t hv _ _ style
    cases v with
    | duration d => exact congrArg text d.format_truncated
    | list _ | tuple _ | set _ | map _ | entity _ _ => cases hv
    | _ => rfl
  case list | tuple =>
    intro items t item _ _ ih style
    rw [truncated, encode, encode, truncatedAll_eq_map, encodeList_eq_map, encodeList_eq_map,
      List.map_map]
    exact congrArg _ (List.map_congr_left fun v hv => ih v hv style)
  case map =>
    intro entries t item _ _ _ ih style
    rw [truncated, encode, encode, truncatedEntries_eq_map, encodeEntries_eq_map,
      encodeEntries_eq_map, List.map_map]
    refine congrArg (fun es => map (insertEntries [] es)) (List.map_congr_left fun e he => ?_)
    exact Prod.ext rfl (ih e he style)
  case entity =>
    intro kind fields t hmem _ hfields ih style
    have hfaithful := hkinds kind hmem
    rw [truncated, encode_entity hfaithful.toWellKeyed, encode_entity hfaithful.toWellKeyed,
      truncatedAll_eq_map]
    refine congrArg (fun es => map (_ ++ es)) (encodeFields_map hfields fun v hv f hf hvf => ?_)
    exact ⟨Field.isWritten_truncated (hfaithful.comesBack f hf) hvf, ih v hv f hf hvf _⟩

end Value

/-! ### Entities of all kinds -/

/-- **An entity comes back from its plain data** if its durations are whole milliseconds, and if its
matchers can stand in texts where the snake style is in force in it. -/
theorem Entity.result_read_encode {kind : Kind} (hkind : kind ∈ Kind.lossless) {x : Value}
    (hx : x.fits (.entity kind) = true) (hmillis : x.isWholeMillis = true) {style : Style}
    (hm : kind.schema.styleIn style = .snake → x.hasReadableMatchers = true) :
    (Entity.read kind (x.encode style) style).result = .ok x := by
  have hfaithful := Kind.faithful_of_mem_lossless hkind
  have htruncated := Value.truncated_eq_self hmillis
  obtain ⟨fields, rfl, hfields⟩ := Value.eq_entity_of_fits hx
  have hread := Entity.readEntries_encodeFields style hfaithful hfields fun v hv f hf hvf =>
    Value.decode_encode (fun _ => Kind.faithful_of_mem_lossless) (hfaithful.isWithin f hf) hvf
      fun hs => Value.everywhereIn_iff.1 (hm hs) v hv
  rw [Value.truncated, Value.truncatedAll_eq_map] at htruncated
  rw [htruncated] at hread
  rw [Value.encode_entity hfaithful.toWellKeyed]
  simpa [Entity.read, hfaithful.isProjected, Value.decode, decodeBy] using hread

/-! ### Configurations -/

/-- **An entity of a configuration comes back from its plain data** if its durations are whole
milliseconds. Otherwise they lose what is finer, and the plain data stays as it is when it is read
and written again. -/
theorem Entity.read_encode {kind : Kind} (hkind : kind ∈ Kind.configuration) {x : Value}
    (hx : x.fits (.entity kind) = true) (style : Style)
    (hm : style = .snake → x.hasReadableMatchers = true) :
    (x.isWholeMillis = true → (Entity.read kind (x.encode style) style).result = .ok x) ∧
      ∃ y, (Entity.read kind (x.encode style) style).result = .ok y ∧
        y.encode style = x.encode style := by
  have hkinds : ∀ k ∈ Kind.configuration, k.Faithful Kind.configuration :=
    fun _ => Kind.faithful_of_mem_configuration
  have hwithin : (FieldType.entity kind).isWithin Kind.configuration = true :=
    List.contains_iff_mem.2 hkind
  have hread : (Entity.read kind (x.encode style) style).result = .ok x.truncated := by
    obtain ⟨fields, rfl, -⟩ := Value.eq_entity_of_fits hx
    have hfaithful := hkinds kind hkind
    have hdecode := Value.decode_encode hkinds hwithin hx hm
    rw [Value.encode_entity hfaithful.toWellKeyed] at hdecode ⊢
    simpa [Entity.read, hfaithful.isProjected] using hdecode
  refine ⟨fun hmillis => ?_, x.truncated, hread, Value.encode_truncated hkinds hwithin hx⟩
  rw [hread, Value.truncated_eq_self hmillis]

/-- What is set to something empty comes back set, and a matcher comes back whatever its value. -/
theorem Entity.read_encode_emptySettings :
    let x := Value.build .routingConfig
      [("global_", Value.build .alertingGlobal [("slack_api_url", .secret ⟨""⟩),
        ("smtp_require_tls", .bool false), ("http_config", Value.build .httpConfig [])]),
       ("route", Value.build .route [("group_wait", .duration ⟨0⟩), ("routes", .list
        [Value.build .route [("continue_", .bool true), ("repeat_interval", .duration ⟨5400000000000⟩),
          ("matchers", .list [.matcher ⟨"team", .notRegex, "a\"\\=b"⟩])]])])]
    Kind.routingConfig ∈ Kind.configuration ∧ x.fits (.entity .routingConfig) = true ∧
      x.hasReadableMatchers = true ∧ x.isWholeMillis = true ∧
      (Entity.read .routingConfig (x.encode .snake) .snake).result = .ok x := by
  intro x
  have hkind : Kind.routingConfig ∈ Kind.configuration := by decide
  have hfits : x.fits (.entity .routingConfig) = true := by decide
  have hmatchers : x.hasReadableMatchers = true := by decide +kernel
  have hmillis : x.isWholeMillis = true := by decide
  exact ⟨hkind, hfits, hmatchers, hmillis,
    (Entity.read_encode hkind hfits .snake fun _ => hmatchers).1 hmillis⟩

end MonitoringConfig
