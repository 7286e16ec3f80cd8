import MonitoringConfig.Proofs.Projection.Reading
/-!
# Resources in their envelopes

A resource is written behind the version of its interface and the name of its kind, by which it is
told from the resources of other kinds when it is read.

* `Kind.clusterObjects` : the kinds of resource.
* `Operator.encode_resource` : a resource is written behind its envelope, its metadata first.
* `Operator.read_other` : no resource of another kind is read from it.
* `Operator.resource_comesBack` : **a resource comes back from its plain data**, save for a secret of
  no type, which is read as one of the type that secrets have by default
  (`Operator.untypedSecret_lost`).
-/

namespace MonitoringConfig

/-- The kinds of the resources of a cluster. -/
def Kind.clusterObjects : List Kind :=
  [.serviceMonitor, .podMonitor, .ruleResource, .routingResource, .configMap, .kubernetesSecret]

namespace Operator

variable {kind other : Kind} {x : Value} {style : Style}

/-! ### Envelopes -/

/-- A resource has its metadata and its fields, behind an envelope. -/
theorem schema_of_mem (hkind : kind ∈ Kind.clusterObjects) : ∃ apiVersion name fields,
    kind.schema = Schema.resource apiVersion name fields ∧ name ≠ "" := by
  simp only [Kind.clusterObjects, List.mem_cons, List.not_mem_nil, or_false] at hkind
  rcases hkind with rfl | rfl | rfl | rfl | rfl | rfl
  all_goals exact ⟨_, _, _, rfl, by decide⟩

theorem wellKeyed_of_mem (hkind : kind ∈ Kind.clusterObjects) : kind.WellKeyed := by
  refine Kind.wellKeyed_of_mem ?_
  revert kind
  decide

/-- **A resource is written behind its envelope**, its metadata first. -/
theorem encode_resource (hkind : kind ∈ Kind.clusterObjects) (hx : x.fits (.entity kind) = true) :
    ∃ envelope metadata rest, kind.schema.envelope? = some envelope ∧ x.encode style =
      .map ((.text "apiVersion", .text envelope.apiVersion) ::
        (.text "kind", .text envelope.kind) :: (.text "metadata", metadata) :: rest) := by
  obtain ⟨apiVersion, name, fs, hschema, -⟩ := schema_of_mem hkind
  obtain ⟨values, rfl, hvalues⟩ := Value.eq_entity_of_fits hx
  rw [hschema] at hvalues
  obtain ⟨metadata, rest, hmetadata, -, rfl⟩ :=
    List.forall₂_cons_right_iff.1 (Value.fitsFields_iff.1 hvalues)
  obtain ⟨parts, rfl, -⟩ := Value.eq_entity_of_fits hmetadata
  have hkey : (Field.required "metadata" (.entity .objectMeta)).key .camel = "metadata" := by decide
  have henvelope : kind.schema.envelope? = some ⟨apiVersion, name⟩ := by rw [hschema]; rfl
  have hwritten : (Field.required "metadata" (.entity .objectMeta)).isWritten
      (.entity .objectMeta parts) = true := rfl
  refine ⟨⟨apiVersion, name⟩, (Value.entity .objectMeta parts).encode .camel,
    Value.encodeFields .camel fs rest, henvelope, ?_⟩
  rw [Value.encode_entity (wellKeyed_of_mem hkind), hschema]
  show Value.map (_ :: _ :: Value.encodeFields .camel (_ :: _) (_ :: _)) = _
  rw [Value.encodeFields, if_pos hwritten, hkey]

/-- **No resource of another kind is read** from what is written of a resource. -/
theorem read_other (hkind : kind ∈ Kind.clusterObjects) (hother : other ∈ Kind.clusterObjects)
    (hne : other ≠ kind) (hx : x.fits (.entity kind) = true) :
    ∃ e, (Entity.read other (x.encode style) style).result = .error e ∧
      e.category = .serialization := by
  obtain ⟨values, rfl, -⟩ := Value.eq_entity_of_fits hx
  obtain ⟨apiVersion, name, fs, hschema, hname⟩ := schema_of_mem hkind
  obtain ⟨apiVersion', name', fs', hschema', -⟩ := schema_of_mem hother
  -- The names differ, and none is empty, which would count as no name at all.
  have hnames : name ≠ name' := by
    have hdistinct : ∀ kind ∈ Kind.clusterObjects, ∀ other ∈ Kind.clusterObjects, other ≠ kind →
        kind.schema.envelope?.map (·.kind) ≠ other.schema.envelope?.map (·.kind) := by decide
    have henvelopes := hdistinct kind hkind other hother hne
    rw [hschema, hschema'] at henvelopes
    exact fun heq => henvelopes (congrArg some heq)
  have henvelope : kind.schema.envelope? = some ⟨apiVersion, name⟩ := by rw [hschema]; rfl
  have henvelope' : other.schema.envelope? = some ⟨apiVersion', name'⟩ := by rw [hschema']; rfl
  have hcheck : Entity.checkEnvelope other (Value.decodeEntries (kind.schema.envelopeEntries ++
      Value.encodeFields (kind.schema.styleIn style) kind.schema.fields values)) =
        .error (.otherResource name' name) := by
    rw [Entity.checkEnvelope, henvelope', Entity.entry_kind henvelope]
    simp [Value.isTruthy, hname, hnames]
  refine ⟨.otherResource name' name, ?_, rfl⟩
  rw [Value.encode_entity (wellKeyed_of_mem hkind),
    Entity.read_map (wellKeyed_of_mem hother).isProjected, Entity.readEntries, hcheck]
  rfl

/-! ### Fields of a resource -/

section Fields

variable {fs : List Field} {vs : List Value} {v w : Value} {f : Field}
  (hkeys : (fs.map (·.key .camel)).Nodup) (hmem : (v, f) ∈ vs.zip fs)

include hkeys hmem

/-- A field that is not written is read as its default. -/
theorem fieldReads_default (hw : f.isWritten v = false) (hdefault : f.default? = some w) :
    Entity.FieldReads (Value.encodeFields .camel fs vs) .camel f w := by
  rw [Entity.FieldReads, Entity.givenAt?_encodeFields hkeys hmem, hw]
  exact hdefault

variable (hfits : Value.fitsFields vs fs = true) (hmillis : ∀ v ∈ vs, v.isWholeMillis = true)
  (hwithin : ∀ f ∈ fs, f.type.isWithin Kind.lossless = true)

include hfits hmillis hwithin

/-- A field that is written is read again. -/
theorem fieldReads_written (hw : f.isWritten v = true) :
    Entity.FieldReads (Value.encodeFields .camel fs vs) .camel f v := by
  obtain ⟨hv, hf⟩ := List.of_mem_zip hmem
  have hvf : v.fits f.type = true := List.forall₂_zip (Value.fitsFields_iff.1 hfits) hmem
  have hcamel : Style.camel = .snake → v.hasReadableMatchers = true := fun h => nomatch h
  have hread := Value.decode_encode (fun _ => Kind.faithful_of_mem_lossless) (hwithin f hf) hvf hcamel
  rw [Value.truncated_eq_self (hmillis v hv)] at hread
  rw [Entity.FieldReads, Entity.givenAt?_encodeFields hkeys hmem, hw]
  exact hread

/-- A field whose default is what it is left out for comes back. -/
theorem fieldReads_comesBack (hback : f.comesBack = true) :
    Entity.FieldReads (Value.encodeFields .camel fs vs) .camel f v := by
  have hvf : v.fits f.type = true := List.forall₂_zip (Value.fitsFields_iff.1 hfits) hmem
  have hself := Value.truncated_eq_self (hmillis v (List.of_mem_zip hmem).1)
  cases hw : f.isWritten v with
  | true => exact fieldReads_written hkeys hmem hfits hmillis hwithin hw
  | false =>
    have hdefault := Field.default_of_not_isWritten hback hvf hw
    rw [hself] at hdefault
    exact fieldReads_default hkeys hmem hw hdefault

end Fields

/-! ### Secrets -/

/-- The field that says what a secret is for. -/
def typeField : Field :=
  (Field.text "type").withDefault (.text "Opaque")

/-- The fields of a secret. -/
theorem fields_kubernetesSecret : Kind.kubernetesSecret.schema.fields =
    [.required "metadata" (.entity .objectMeta), typeField, .map "string_data" .text] := rfl

/-- A secret comes back, but one of no type is of the type that secrets have by default. -/
theorem read_secret {metadata data : Value} {type : String}
    (hx : (Value.entity .kubernetesSecret [metadata, .text type, data]).fits
      (.entity .kubernetesSecret) = true)
    (hmillis : (Value.entity .kubernetesSecret [metadata, .text type, data]).isWholeMillis = true) :
    (Entity.read .kubernetesSecret
        ((Value.entity .kubernetesSecret [metadata, .text type, data]).encode style) style).result =
      .ok (.entity .kubernetesSecret
        [metadata, .text (if type = "" then "Opaque" else type), data]) := by
  have hregular : Kind.kubernetesSecret.Regular := Kind.regular_of_mem List.mem_cons_self
  have hkeyed := hregular.toWellKeyed
  have hfits := (Value.fits_entity hx).2
  have hkeys := hkeyed.keys_nodup .camel
  have hvalues := Value.everywhereIn_iff.1 hmillis
  have hwithin : ∀ f ∈ Kind.kubernetesSecret.schema.fields,
      f.type.isWithin Kind.lossless = true := by decide
  rw [Value.encode_entity hkeyed, Entity.read_map hkeyed.isProjected,
    Entity.readEntries_eq_ok_iff hregular (Entity.checkEnvelope_written _ _)
      (Entity.dropEnvelope_written hkeyed _ _)]
  refine ⟨_, ?_, rfl⟩
  show List.Forall₂ (Entity.FieldReads _ .camel) _ _
  rw [fields_kubernetesSecret] at hfits hkeys hwithin ⊢
  -- Of the three fields only the type has another default than what it is left out for.
  refine .cons ?metadata (.cons ?type (.cons ?data .nil))
  case metadata | data =>
    exact fieldReads_comesBack hkeys (by simp) hfits hvalues hwithin rfl
  case type =>
    by_cases htype : type = ""
    · subst htype
      exact fieldReads_default hkeys (v := .text "") (by simp) rfl rfl
    · rw [if_neg htype]
      have hw : typeField.isWritten (.text type) = true := by
        simp [Field.isWritten, Value.isNull, Value.isEmpty, htype]
      exact fieldReads_written hkeys (by simp) hfits hvalues hwithin hw

/-! ### Resources -/

/-- A secret of which it is not said what it is for. -/
def IsUntypedSecret (x : Value) : Prop :=
  ∃ metadata data, x = .entity .kubernetesSecret [metadata, .text "", data]

/-- A secret is made of its metadata, its type and its data. -/
theorem eq_secretObject_of_fits (hx : x.fits (.entity .kubernetesSecret) = true) :
    ∃ metadata type data, x = .entity .kubernetesSecret [metadata, .text type, data] := by
  obtain ⟨values, rfl, hvalues⟩ := Value.eq_entity_of_fits hx
  rw [fields_kubernetesSecret, Value.fitsFields_iff] at hvalues
  rcases hvalues with _ | ⟨-, _ | ⟨htype, _ | ⟨-, _ | _⟩⟩⟩
  obtain ⟨type, rfl⟩ := Value.eq_text_of_fits htype
  exact ⟨_, type, _, rfl⟩

theorem read_encode_secret (hx : x.fits (.entity .kubernetesSecret) = true)
    (hmillis : x.isWholeMillis = true) :
    ((Entity.read .kubernetesSecret (x.encode style) style).result = .ok x ↔ ¬ IsUntypedSecret x) ∧
      (IsUntypedSecret x → (Entity.read .kubernetesSecret (x.encode style) style).result =
        .ok (x.setField "type" (.text "Opaque"))) := by
  obtain ⟨metadata, type, data, rfl⟩ := eq_secretObject_of_fits hx
  have huntyped : IsUntypedSecret (.entity .kubernetesSecret [metadata, .text type, data]) ↔
      type = "" := by
    constructor
    · rintro ⟨metadata', data', heq⟩
      cases heq
      rfl
    · rintro rfl
      exact ⟨metadata, data, rfl⟩
  rw [huntyped, read_secret hx hmillis]
  by_cases htype : type = ""
  · subst htype
    exact ⟨iff_of_false (by simp) (by simp), fun _ => rfl⟩
  · rw [if_neg htype]
    exact ⟨iff_of_true rfl htype, fun h => absurd h htype⟩

/-- **A resource comes back from its plain data** unless it is a secret of no type, which is read as
one of the type that secrets have by default. Its plain data starts with its envelope and its
metadata, and no resource of another kind is read from it. -/
theorem resource_comesBack (hkind : kind ∈ Kind.clusterObjects) (hx : x.fits (.entity kind) = true)
    (hmillis : x.isWholeMillis = true) (style : Style) :
    (∃ envelope metadata rest, kind.schema.envelope? = some envelope ∧ x.encode style =
      .map ((.text "apiVersion", .text envelope.apiVersion) ::
        (.text "kind", .text envelope.kind) :: (.text "metadata", metadata) :: rest)) ∧
    ((Entity.read kind (x.encode style) style).result = .ok x ↔ ¬ IsUntypedSecret x) ∧
    (IsUntypedSecret x → (Entity.read kind (x.encode style) style).result =
      .ok (x.setField "type" (.text "Opaque"))) ∧
    ∀ other ∈ Kind.clusterObjects, other ≠ kind →
      ∃ e, (Entity.read other (x.encode style) style).result = .error e ∧
        e.category = .serialization := by
  refine ⟨encode_resource hkind hx, ?_⟩
  rw [← and_assoc]
  refine ⟨?_, fun other hother hne => read_other hkind hother hne hx⟩
  by_cases hsecret : kind = .kubernetesSecret
  · subst hsecret
    exact read_encode_secret hx hmillis
  · have hlossless : ∀ kind ∈ Kind.clusterObjects, kind ≠ .kubernetesSecret →
        kind ∈ Kind.lossless := by decide
    -- Resources impose the camel style, in which matchers are mappings.
    have hcamel : kind.schema.styleIn style = .snake → x.hasReadableMatchers = true := by
      obtain ⟨apiVersion, name, fs, hschema, -⟩ := schema_of_mem hkind
      rw [hschema]
      exact fun h => nomatch h
    have hread := Entity.result_read_encode (hlossless kind hkind hsecret) hx hmillis hcamel
    have htyped : ¬ IsUntypedSecret x := by
      rintro ⟨metadata, data, rfl⟩
      obtain ⟨hinner | ⟨hinner, -⟩, -⟩ := Value.fits_entity hx
      · exact hsecret (FieldType.entity.inj hinner)
      · cases hinner
    exact ⟨iff_of_true hread htyped, fun h => absurd h htyped⟩

/-- The secret of a certificate comes back, and no map of public texts is read from it. -/
theorem resource_comesBack_certificate :
    let x := Value.build .kubernetesSecret
      [("metadata", Value.build .objectMeta [("name", .text "web")]),
        ("type", .text "kubernetes.io/tls"), ("string_data", .record [("tls.key", .text "")])]
    Kind.kubernetesSecret ∈ Kind.clusterObjects ∧ x.fits (.entity .kubernetesSecret) = true ∧
      x.isWholeMillis = true ∧
      (Entity.read .kubernetesSecret (x.encode .snake) .snake).result = .ok x ∧
      ∃ e, (Entity.read .configMap (x.encode .snake) .snake).result = .error e := by
  intro x
  have hkind : Kind.kubernetesSecret ∈ Kind.clusterObjects := by decide
  have hfits : x.fits (.entity .kubernetesSecret) = true := by decide
  have hmillis : x.isWholeMillis = true := by decide
  obtain ⟨-, hread, -, hother⟩ := resource_comesBack hkind hfits hmillis .snake
  have htyped : ¬ IsUntypedSecret x := by
    rintro ⟨metadata, data, heq⟩
    have htype : x.field? "type" = some (.text "") := by
      rw [heq]
      rfl
    exact absurd (Value.text.inj (Option.some.inj htype)) (by decide)
  obtain ⟨e, he, -⟩ := hother .configMap (by decide) (by decide)
  exact ⟨hkind, hfits, hmillis, hread.2 htyped, e, he⟩

/-- **A secret of no type is lost**: the one that is read is another. -/
theorem untypedSecret_lost :
    let x := Value.build .kubernetesSecret
      [("metadata", Value.build .objectMeta [("name", .text "n")]), ("type", .text "")]
    x.fits (.entity .kubernetesSecret) = true ∧ x.isWholeMillis = true ∧
      ∃ y, (Entity.read .kubernetesSecret (x.encode .snake) .snake).result = .ok y ∧
        x.equal y = false := by
  intro x
  have hlost : ((Entity.read .kubernetesSecret (x.encode .snake) .snake).result.toOption.any
      fun y => !x.equal y) = true := by decide +kernel
  obtain ⟨y, hy, hne⟩ := exists_of_toOption hlost
  exact ⟨by decide, by decide, y, hy, by simpa using hne⟩

end Operator

end MonitoringConfig
