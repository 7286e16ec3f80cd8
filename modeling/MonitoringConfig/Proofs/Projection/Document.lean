import MonitoringConfig.Document
import MonitoringConfig.Proofs.Projection.Reading
/-!
# What is written is a document

What is written of a value no longer depends on what made it: of entities, durations, secrets,
matchers and members of choices only mappings and texts are left, at every depth, and no style
changes them any more.

* `Value.IsDocument` : the values that documents are made of.
* `Value.IsComposed` : the values that are put together of entities and of all that their fields
  hold.
* `Value.isDocument_encode` : **a composed value is written as a document**, in either style.
* `Value.encode_of_isDocument` : a document is written as it is.
* `Value.exists_toNode`, `Value.exists_write` : every document has a text, as YAML and as JSON.
* `Value.encode_spec` : so a composed value can always be written to a file.
-/

namespace MonitoringConfig

namespace Value

variable {v : Value} {entries more : List (Value × Value)} {style : Style}

/-! ### Documents and what they are made from -/

/-- The values that documents are made of: nothing, truth values, numbers and texts, and lists and
mappings of such, the mappings with distinct texts as keys. -/
inductive IsDocument : Value → Prop
  | null : IsDocument .null
  | bool (b : Bool) : IsDocument (.bool b)
  | int (n : Int) : IsDocument (.int n)
  | float (x : Binary64) : IsDocument (.float x)
  | text (s : String) : IsDocument (.text s)
  | list {items : List Value} (h : ∀ v ∈ items, IsDocument v) : IsDocument (.list items)
  | map {entries : List (Value × Value)} (hkeys : DistinctTexts entries)
      (h : ∀ e ∈ entries, IsDocument e.2) : IsDocument (.map entries)

/-- The values that are put together of plain scalars, of durations, secrets, matchers and members
of choices, and of entities that are written by their schema. The fields of an entity can hold any
of these, whatever they are declared to hold, and so can the keys and values of a mapping. -/
inductive IsComposed : Value → Prop
  | null : IsComposed .null
  | bool (b : Bool) : IsComposed (.bool b)
  | int (n : Int) : IsComposed (.int n)
  | float (x : Binary64) : IsComposed (.float x)
  | text (s : String) : IsComposed (.text s)
  | duration (d : Duration) : IsComposed (.duration d)
  | secret (s : Secret) : IsComposed (.secret s)
  | matcher (m : Matcher) : IsComposed (.matcher m)
  | member (c : Choice) (s : String) : IsComposed (.member c s)
  | list {items : List Value} (h : ∀ v ∈ items, IsComposed v) : IsComposed (.list items)
  | tuple {items : List Value} (h : ∀ v ∈ items, IsComposed v) : IsComposed (.tuple items)
  | map {entries : List (Value × Value)} (hkeys : ∀ e ∈ entries, IsComposed e.1)
      (h : ∀ e ∈ entries, IsComposed e.2) : IsComposed (.map entries)
  | entity {kind : Kind} {fields : List Value} (hkind : kind.isProjected = true)
      (h : ∀ v ∈ fields, IsComposed v) : IsComposed (.entity kind fields)

theorem isDocument_map_iff :
    (map entries).IsDocument ↔ DistinctTexts entries ∧ ∀ e ∈ entries, e.2.IsDocument := by
  constructor
  · rintro (_ | _)
    exact ⟨‹_›, ‹_›⟩
  · rintro ⟨hkeys, h⟩
    exact .map hkeys h

/-- A value of its declared type is composed. -/
theorem isComposed_of_isMadeOf {t : FieldType}
    (ht : t.isMadeOf Kind.projected (fun _ => true) = true)
    (h : v.fits t = true) : v.IsComposed := by
  have hkinds : ∀ kind ∈ Kind.projected, kind.isProjected = true ∧ ∀ f ∈ kind.schema.fields,
      f.type.isMadeOf Kind.projected (fun _ => true) = true := by
    decide +kernel
  refine induct_made (fun kind hkind => (hkinds kind hkind).2) ?leaf ?list ?tuple ?map ?entity ht h
  case leaf =>
    intro v t hleaf _ h
    cases v with
    | null => exact .null
    | bool b => exact .bool b
    | int n => exact .int n
    | float x => exact .float x
    | text s => exact .text s
    | duration d => exact .duration d
    | secret s => exact .secret s
    | matcher m => exact .matcher m
    | member c s => exact .member c s
    | list _ | tuple _ | set _ | map _ | entity _ _ => cases hleaf
    | _ => cases h
  case list => exact fun items t item _ _ ih => .list ih
  case tuple => exact fun items t item _ _ ih => .tuple ih
  case map =>
    intro entries t item _ hkeys _ ih
    refine .map (fun e he => ?_) ih
    obtain ⟨k, hk⟩ := hkeys.1 e he
    rw [hk]
    exact .text k
  case entity =>
    intro kind fields t hmem _ hfields ih
    refine .entity (hkinds kind hmem).1 fun v hv => ?_
    obtain ⟨f, hf, hvf⟩ := exists_field_of_mem hfields hv
    exact ih v hv f hf hvf

/-- **An entity whose fields hold what they are declared to hold is composed.** -/
theorem isComposed_of_fits {kind : Kind} (hkind : kind.isProjected = true)
    (h : v.fits (.entity kind) = true) : v.IsComposed :=
  isComposed_of_isMadeOf (t := .entity kind)
    (List.contains_iff_mem.2 (Kind.mem_of_isProjected hkind)) h

/-! ### Documents grow -/

theorem isDocument_insertEntry (h : (map entries).IsDocument) (key : String) (hv : v.IsDocument) :
    (map (insertEntry entries (text key) v)).IsDocument := by
  obtain ⟨hkeys, hvalues⟩ := isDocument_map_iff.1 h
  rw [insertEntry_eq]
  split
  · have hsame := (keys_replaced entries (text key) v).symm
    refine .map (distinctTexts_of_keys hsame hkeys) fun e he => ?_
    obtain ⟨e', he', rfl⟩ := List.mem_map.1 he
    split
    · exact hv
    · exact hvalues e' he'
  · next hnew =>
    have hapart : ∀ e ∈ entries, e.1.equal (text key) = false := by simpa using hnew
    refine .map ⟨?_, ?_⟩ ?_
    · simpa [or_imp, forall_and] using hkeys.1
    · exact List.pairwise_append.2 ⟨hkeys.2, List.pairwise_singleton _ _, by simpa using hapart⟩
    · intro e he
      obtain he | he := List.mem_append.1 he
      · exact hvalues e he
      · rw [List.mem_singleton.1 he]
        exact hv

/-- A document stays one whatever documents are put into it under texts. -/
theorem isDocument_insertEntries (h : (map entries).IsDocument)
    (hkeys : ∀ e ∈ more, ∃ k, e.1 = text k) (hmore : ∀ e ∈ more, e.2.IsDocument) :
    (map (insertEntries entries more)).IsDocument := by
  induction more generalizing entries with
  | nil => exact h
  | cons e more ih =>
    rw [List.forall_mem_cons] at hkeys hmore
    obtain ⟨⟨k, hk⟩, hkeys⟩ := hkeys
    have hstep := isDocument_insertEntry h k hmore.1
    rw [← hk] at hstep
    exact ih hstep hkeys hmore.2

/-! ### The mapping of an entity -/

theorem distinctTexts_encodeFields {fs : List Field} (hkeys : (fs.map (·.key style)).Nodup)
    (vs : List Value) : DistinctTexts (encodeFields style fs vs) := by
  induction vs generalizing fs with
  | nil => simp [encodeFields, DistinctTexts]
  | cons v vs ih =>
    cases fs with
    | nil => simp [encodeFields, DistinctTexts]
    | cons f fs =>
      obtain ⟨hnew, hkeys⟩ := List.nodup_cons.1 hkeys
      rw [encodeFields]
      split
      · refine distinctTexts_cons.2 ⟨⟨⟨_, rfl⟩, fun e he => ?_⟩, ih hkeys⟩
        obtain ⟨g, hg, hkey⟩ := Entity.key_of_mem_encodeFields he
        rw [hkey, equal_text, beq_eq_false_iff_ne]
        exact fun heq => hnew (List.mem_map.2 ⟨g, hg, heq.symm⟩)
      · exact ih hkeys

/-- The entries of an envelope stand apart from those of the fields. -/
theorem distinctTexts_entity {kind : Kind} (hkind : kind.WellKeyed) (style : Style)
    (vs : List Value) :
    DistinctTexts (kind.schema.envelopeEntries ++ encodeFields style kind.schema.fields vs) := by
  have hfields := distinctTexts_encodeFields (hkind.keys_nodup style) vs
  rw [Schema.envelopeEntries]
  cases henvelope : kind.schema.envelope? with
  | none => exact hfields
  | some envelope =>
    have hapart := hkind.envelope (by rw [henvelope]; rfl) style
    have hkey : ∀ e ∈ encodeFields style kind.schema.fields vs,
        (text "apiVersion").equal e.1 = false ∧ (text "kind").equal e.1 = false := by
      intro e he
      obtain ⟨f, hf, hkey⟩ := Entity.key_of_mem_encodeFields he
      obtain ⟨hversion, hname⟩ := hapart f hf
      rw [hkey, equal_text, equal_text, beq_eq_false_iff_ne, beq_eq_false_iff_ne]
      exact ⟨hversion.symm, hname.symm⟩
    refine distinctTexts_cons.2 ⟨⟨⟨_, rfl⟩, List.forall_mem_cons.2 ⟨?_, fun e he => (hkey e he).1⟩⟩,
      distinctTexts_cons.2 ⟨⟨⟨_, rfl⟩, fun e he => (hkey e he).2⟩, hfields⟩⟩
    simp

/-- An entity is written as a document if the values of its fields are. -/
theorem isDocument_encode_entity {kind : Kind} {fields : List Value}
    (hkind : kind.isProjected = true) (h : ∀ v ∈ fields, ∀ style, (v.encode style).IsDocument) :
    ((entity kind fields).encode style).IsDocument := by
  have hkeyed := Kind.wellKeyed_of_isProjected hkind
  rw [encode_entity hkeyed]
  refine .map (distinctTexts_entity hkeyed _ fields) fun e he => ?_
  obtain he | he := List.mem_append.1 he
  · rw [Schema.envelopeEntries] at he
    split at he
    · simp only [List.mem_cons, List.not_mem_nil, or_false] at he
      obtain rfl | rfl := he <;> exact .text _
    · cases he
  · rw [Entity.encodeFields_eq_map] at he
    obtain ⟨p, hp, rfl⟩ := List.mem_map.1 he
    exact h p.2 (List.of_mem_zip (List.mem_of_mem_filter hp)).2 _

/-! ### Writing -/

/-- A matcher is written as a text or as a mapping of three texts. -/
theorem isDocument_toPlain (m : Matcher) (style : Style) : (m.toPlain style).IsDocument := by
  cases style with
  | snake => exact .text _
  | camel =>
    refine .map ?_ ?_
    · simp [DistinctTexts]
    · simp [IsDocument.text]

/-- **A composed value is written as a document.** -/
theorem isDocument_encode (h : v.IsComposed) (style : Style) : (v.encode style).IsDocument := by
  induction h generalizing style with
  | null => exact .null
  | bool b => exact .bool b
  | int n => exact .int n
  | float x => exact .float x
  | text s => exact .text s
  | duration d => exact .text d.format
  | secret s => exact .text s.reveal
  | matcher m => exact isDocument_toPlain m style
  | member c s => exact .text s
  | list _ ih | tuple _ ih =>
    rw [encode, encodeList_eq_map]
    exact .list (List.forall_mem_map.2 fun v hv => ih v hv style)
  | map _ _ _ ih =>
    rw [encode, encodeEntries_eq_map]
    refine isDocument_insertEntries (.map ⟨by simp, .nil⟩ (by simp)) ?_ ?_
    · exact List.forall_mem_map.2 fun e _ => ⟨_, rfl⟩
    · exact List.forall_mem_map.2 fun e he => ih e he style
  | entity hkind _ ih => exact isDocument_encode_entity hkind ih

/-- A document is written as it is. -/
theorem encode_of_isDocument (h : v.IsDocument) (style : Style) : v.encode style = v := by
  induction h with
  | list _ ih => rw [encode, encodeList_eq_map, List.map_congr_left ih, List.map_id']
  | @map entries hkeys _ ih =>
    have hentry : ∀ e ∈ entries, (e.1, e.2.encode style) = e := fun e he => Prod.ext rfl (ih e he)
    rw [encode, encodeEntries_of_distinct style hkeys, List.map_congr_left hentry, List.map_id']
  | _ => rfl

/-! ### Texts of documents -/

theorem toNodes_eq_mapM (literal : Bool) (vs : List Value) :
    toNodes literal vs = vs.mapM (toNode literal) := by
  induction vs with
  | nil => rfl
  | cons v vs ih => rw [toNodes, ih, List.mapM_cons]

theorem toNodeEntries_eq_mapM (literal : Bool) (entries : List (Value × Value)) :
    toNodeEntries literal entries = entries.mapM fun e => do
      let nk ← e.1.toNode literal
      let nv ← e.2.toNode literal
      return (nk, nv) := by
  induction entries with
  | nil => rfl
  | cons e rest ih => simp [toNodeEntries, ih]

/-- **Every document can be written as YAML.** -/
theorem exists_toNode (h : v.IsDocument) (literal : Bool) : ∃ node, v.toNode literal = .ok node := by
  induction h with
  | list _ ih =>
    obtain ⟨ns, hns⟩ := exists_mapM_eq_ok ih
    rw [toNode, toNodes_eq_mapM, hns]
    exact ⟨_, rfl⟩
  | map hkeys _ ih =>
    obtain ⟨ns, hns⟩ := exists_mapM_eq_ok (f := fun e : Value × Value => do
        let nk ← e.1.toNode literal
        let nv ← e.2.toNode literal
        return (nk, nv)) fun e he => by
      obtain ⟨k, hk⟩ := hkeys.1 e he
      obtain ⟨node, hnode⟩ := ih e he
      rw [hk, hnode]
      exact ⟨_, rfl⟩
    rw [toNode, toNodeEntries_eq_mapM, hns]
    exact ⟨_, rfl⟩
  | _ => exact ⟨_, rfl⟩

end Value

namespace Json

open Value

theorem writeItems_eq_mapM (indent : Indent) (level : Nat) (vs : List Value) :
    writeItems indent level vs = vs.mapM (write indent level) := by
  induction vs with
  | nil => rfl
  | cons v vs ih => rw [writeItems, ih, List.mapM_cons]

theorem writeEntries_eq_mapM (indent : Indent) (level : Nat) (entries : List (Value × Value)) :
    writeEntries indent level entries = entries.mapM fun e => do
      let ks ← key e.1
      let vs ← write indent level e.2
      return ks ++ ": " ++ vs := by
  induction entries with
  | nil => rfl
  | cons e rest ih => simp [writeEntries, ih]

/-- **Every document can be written as JSON.** -/
theorem exists_write {v : Value} (h : v.IsDocument) (indent : Indent) (level : Nat) :
    ∃ written, write indent level v = .ok written := by
  induction h generalizing level with
  | list _ ih =>
    obtain ⟨items, hitems⟩ := exists_mapM_eq_ok fun v hv => ih v hv (level + 1)
    rw [write, writeItems_eq_mapM, hitems]
    exact ⟨_, rfl⟩
  | map hkeys _ ih =>
    obtain ⟨items, hitems⟩ := exists_mapM_eq_ok (f := fun e : Value × Value => do
        let ks ← key e.1
        let vs ← write indent (level + 1) e.2
        return ks ++ ": " ++ vs) fun e he => by
      obtain ⟨k, hk⟩ := hkeys.1 e he
      obtain ⟨written, hwritten⟩ := ih e he (level + 1)
      rw [hk, hwritten]
      exact ⟨_, rfl⟩
    rw [write, writeEntries_eq_mapM, hitems]
    exact ⟨_, rfl⟩
  | _ => exact ⟨_, rfl⟩

end Json

namespace Value

variable {v : Value}

/-! ### Files -/

theorem exists_dumpYaml (h : v.IsDocument) (settings : Settings) :
    ∃ written, v.dumpYaml settings = .ok written := by
  obtain ⟨node, hnode⟩ := exists_toNode h settings.literalMultiline
  rw [dumpYaml, writeYaml, hnode]
  exact ⟨_, rfl⟩

theorem isEnclosing_of_isComposed (h : v.IsComposed) : v.isEnclosing = false := by
  cases h <;> rfl

/-- A composed mapping is not among its own values. -/
theorem containsItself_of_isComposed (h : v.IsComposed) : v.containsItself = false := by
  cases h with
  | map _ hvalues =>
    rw [containsItself, List.any_eq_false]
    exact fun e he => by simp [isEnclosing_of_isComposed (hvalues e he)]
  | _ => rfl

theorem jsonData_of_isComposed (h : v.IsComposed) : v.jsonData = .ok v.toData := by
  have hitself := containsItself_of_isComposed h
  cases h with
  | @entity kind fields hkind _ =>
    have hdashboard : kind.isDashboard = false := by
      simp only [Kind.isProjected, Bool.and_eq_true, Bool.not_eq_true'] at hkind
      exact hkind.1
    simp [jsonData, hdashboard]
  | _ => simp [jsonData, hitself]

theorem exists_serialize (h : v.IsComposed) (settings : Settings) :
    ∃ written, (v.serialize settings).result = .ok written := by
  obtain ⟨written, hwritten⟩ := exists_dumpYaml (isDocument_encode h .snake) settings
  rw [serialize, containsItself_of_isComposed h, toData, hwritten]
  exact ⟨written, rfl⟩

theorem exists_toJson (h : v.IsComposed) (settings : Settings) :
    ∃ written, v.toJson settings = .ok written := by
  obtain ⟨written, hwritten⟩ := Json.exists_write (isDocument_encode h .snake)
    (Json.spaces settings.jsonIndent) 0
  refine ⟨written, ?_⟩
  rw [toJson, jsonData_of_isComposed h, toData]
  simp only [bind, Except.bind, hwritten]

/-- **A composed value is written as a document, which no style changes any more**, and as itself
just if it is one already. So it can always be written to a file: what is written as YAML and as
JSON is the same document. -/
theorem encode_spec (h : v.IsComposed) :
    (∀ style, (v.encode style).IsDocument ∧
      (∀ style', (v.encode style).encode style' = v.encode style) ∧
      (v.encode style = v ↔ v.IsDocument)) ∧
    v.jsonData = .ok v.toData ∧
    ∀ settings : Settings, (∃ written, (v.serialize settings).result = .ok written) ∧
      ∃ written, v.toJson settings = .ok written := by
  refine ⟨fun style => ?_, jsonData_of_isComposed h,
    fun settings => ⟨exists_serialize h settings, exists_toJson h settings⟩⟩
  have hdocument := isDocument_encode h style
  exact ⟨hdocument, encode_of_isDocument hdocument,
    fun heq => heq ▸ hdocument, fun hv => encode_of_isDocument hv style⟩

/-- A pair of rules that mute alerts, one that goes into a resource and one that goes into a file,
beside a secret and a duration, under a member of a choice. -/
theorem encode_spec_inhibitions :
    let matchers := list [matcher ⟨"severity", .equal, "critical"⟩]
    let rules := tuple [entity .operatorInhibitRule [matchers, matchers, list [text "zone"]],
      entity .inhibitRule [matchers, matchers, list [], map [], map []]]
    let v := map [(member .matchType "=", list [rules, secret ⟨"hidden"⟩]),
      (text "wait", duration ⟨1500000000⟩)]
    v.IsComposed ∧ (∀ style, (v.encode style).IsDocument ∧
        (∀ style', (v.encode style).encode style' = v.encode style) ∧
        (v.encode style = v ↔ v.IsDocument)) ∧
      v.jsonData = .ok v.toData ∧
      ∀ settings : Settings, (∃ written, (v.serialize settings).result = .ok written) ∧
        ∃ written, v.toJson settings = .ok written := by
  intro matchers rules v
  have hrules : rules.IsComposed := .tuple <| by
    simp only [List.forall_mem_cons, List.not_mem_nil, false_imp_iff, implies_true, and_true]
    exact ⟨@isComposed_of_fits _ .operatorInhibitRule rfl (by decide),
      @isComposed_of_fits _ .inhibitRule rfl (by decide)⟩
  have hv : v.IsComposed := .map
    (by simp [IsComposed.member, IsComposed.text])
    (by simp [IsComposed.duration, IsComposed.secret, IsComposed.list, hrules])
  exact ⟨hv, encode_spec hv⟩

end Value

end MonitoringConfig
