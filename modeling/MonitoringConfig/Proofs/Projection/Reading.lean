import MonitoringConfig.Proofs.Projection.RoundTrip
/-!
# Reading by the declared type

Reading follows the data, and takes the declared type of each part along. Here it is turned over: what
is read for each form of the type.

* `Value.decode_sequence`, `Value.decode_mapOf`, `Value.decode_entity`, `Value.decode_scalar` : reading
  by the form of the type.
* `FieldType.coerce_of_decode` : what was read for a type is not read once more when an entity is
  made of it.
* `Entity.readEntries_eq_ok_iff` : **an entity is read field by field**: a field is what stands under
  its key, read as its type, or its default where nothing stands there.
-/

namespace MonitoringConfig

open Logged

/-! ### Computations that succeed -/

theorem map_eq_ok {α β : Type} {x : Except Failure α} {f : α → β} {b : β} :
    x.map f = .ok b ↔ ∃ a, x = .ok a ∧ f a = b := by
  cases x <;> simp [Except.map]

/-- What holds of the result of a computation that succeeds holds of some result. -/
theorem exists_of_toOption {α : Type} {x : Except Failure α} {p : α → Bool}
    (h : x.toOption.any p = true) : ∃ a, x = .ok a ∧ p a = true := by
  cases x with
  | ok a => exact ⟨a, rfl, h⟩
  | error e => cases h

namespace Logged

variable {α β : Type}

theorem result_bind_eq_ok {x : Logged α} {f : α → Logged β} {b : β} :
    (x >>= f).result = .ok b ↔ ∃ a, x.result = .ok a ∧ (f a).result = .ok b := by
  rw [result_bind]
  exact bind_eq_ok

/-- Several computations succeed just if each of them does. -/
theorem all_eq_ok_iff {f : α → Logged β} {as : List α} {bs : List β} :
    (all (as.map f)).result = .ok bs ↔ List.Forall₂ (fun a b => (f a).result = .ok b) as bs := by
  induction as generalizing bs with
  | nil =>
    rw [List.forall₂_nil_left_iff]
    exact ⟨fun h => (Except.ok.inj h).symm, fun h => by rw [h]; rfl⟩
  | cons a as ih =>
    rw [List.map_cons, all, List.forall₂_cons_left_iff, result_bind_eq_ok]
    constructor
    · rintro ⟨b, hb, h⟩
      obtain ⟨bs', hbs, h⟩ := result_bind_eq_ok.1 h
      exact ⟨b, bs', hb, ih.1 hbs, (Except.ok.inj h).symm⟩
    · rintro ⟨b, bs', hb, hbs, rfl⟩
      exact ⟨b, hb, result_bind_eq_ok.2 ⟨bs', ih.2 hbs, rfl⟩⟩

end Logged

/-! ### Reading by the form of the type -/

namespace FieldType

/-- Whether the values of a type have no parts that are read for themselves. -/
def isScalar : FieldType → Bool
  | entity _ | listOf _ | tupleOf _ | mapOf _ | rule | optional _ => false
  | _ => true

end FieldType

namespace Value

/-- Whether a value is a text. -/
def isText : Value → Bool
  | text _ => true
  | _ => false

variable {d v : Value} {t : FieldType} {style : Style}

theorem decodeKeys_eq_map (entries : List (Value × Value)) :
    decodeKeys entries = entries.map fun e => decode e.1 := by
  induction entries with
  | nil => rfl
  | cons e rest ih => rw [decodeKeys, ih, List.map_cons]

theorem decode_scalar (hd : d ≠ null) (ht : t.isScalar = true) :
    d.decode t style = decodeScalar d t := by
  cases d with
  | null => exact absurd rfl hd
  | _ => cases t <;> first | rfl | cases ht

theorem decode_optional (hd : d ≠ null) : d.decode (.optional t) style = d.decode t style := by
  rw [decode_inner hd, FieldType.inner, ← decode_inner hd]

theorem eq_null_of_decode (h : (null.decode t style).result = .ok v) : v = null := by
  cases t <;> cases h <;> rfl

/-- The items of a value are its own, the keys of a mapping, the characters of a text or numbers. -/
theorem forall_mem_items {P : Value → Prop} {ds : List Value} (hds : d.items? = some ds)
    (list : ∀ items, d = .list items ∨ d = .tuple items ∨ d = .set items → ∀ v ∈ items, P v)
    (map : ∀ entries, d = .map entries → ∀ e ∈ entries, P e.1) (text : ∀ s, P (.text s))
    (int : ∀ n, P (.int n)) : ∀ v ∈ ds, P v := by
  intro v hv
  cases d with
  | list items =>
    cases hds
    exact list _ (.inl rfl) v hv
  | tuple items =>
    cases hds
    exact list _ (.inr (.inl rfl)) v hv
  | set items =>
    cases hds
    exact list _ (.inr (.inr rfl)) v hv
  | map entries =>
    cases hds
    obtain ⟨e, he, rfl⟩ := List.mem_map.1 hv
    exact map _ rfl e he
  | text s | member c s =>
    cases hds
    obtain ⟨c, -, rfl⟩ := List.mem_map.1 hv
    exact text _
  | bytes data =>
    cases hds
    obtain ⟨b, -, rfl⟩ := List.mem_map.1 hv
    exact int _
  | _ => cases hds

/-- A list, and a tuple, is read of the items of what stands there, which may be no list. -/
theorem decode_sequence (hd : d ≠ null) :
    (d.decode (.listOf t) style = match d.items? with
      | some ds => do return .list (← Logged.all (ds.map fun d => d.decode t style))
      | none => failPlain .wrongType) ∧
    d.decode (.tupleOf t) style = match d.items? with
      | some ds => do return .tuple (← Logged.all (ds.map fun d => d.decode t style))
      | none => failPlain .wrongType := by
  -- A text is read as the list of its characters, each of which is a text again.
  have hchar : ∀ c : Char, decodeText (.text (String.singleton c)) [c] t style =
      (text (String.singleton c)).decode t style := by
    intro c
    rw [decode, String.toList_singleton]
  cases d with
  | null => exact absurd rfl hd
  | list items | tuple items | set items =>
    simp only [decode, decodeBy, decodeItems_eq_map, List.map_map, items?]
    exact ⟨rfl, rfl⟩
  | map entries =>
    simp only [decode, decodeBy, decodeKeys_eq_map, List.map_map, items?]
    exact ⟨rfl, rfl⟩
  | text s | member c s =>
    simp only [decode, decodeText, items?, List.map_map, hchar]
    exact ⟨rfl, rfl⟩
  | bytes data =>
    simp only [decode, decodeBy, items?, List.map_map]
    exact ⟨rfl, rfl⟩
  | _ => exact ⟨rfl, rfl⟩

theorem decode_listOf (hd : d ≠ null) : d.decode (.listOf t) style =
    match d.items? with
    | some ds => do return .list (← Logged.all (ds.map fun d => d.decode t style))
    | none => failPlain .wrongType :=
  (decode_sequence hd).1

/-- A mapping is read of a mapping alone. -/
theorem decode_mapOf (hd : d ≠ null) : d.decode (.mapOf t) style =
    match d with
    | map entries => do
      let values ← Logged.all (entries.map fun e =>
        (e.2.decode t style).map fun w => (text e.1.shown, w))
      return .map (insertEntries [] values)
    | _ => failPlain .noSuchMember := by
  cases d with
  | null => exact absurd rfl hd
  | map entries =>
    simp only [decode, decodeBy, decodeEntries_eq_map, List.map_map]
    rfl
  | _ => rfl

/-- An entity is read of a mapping alone. -/
theorem decode_entity {kind : Kind} (hd : d ≠ null) : d.decode (.entity kind) style =
    match d with
    | map entries => Entity.readEntries kind (decodeEntries entries) style
    | _ => fail (.notMapping kind.name d.typeName) := by
  cases d with
  | null => exact absurd rfl hd
  | map entries => rfl
  | _ => rfl

end Value

theorem Entity.read_map {kind : Kind} (hkind : kind.isProjected = true)
    (entries : List (Value × Value)) (style : Style) :
    Entity.read kind (.map entries) style =
      Entity.readEntries kind (Value.decodeEntries entries) style := by
  simp [Entity.read, hkind, Value.decode, decodeBy]

/-! ### Lists and mappings of what was read -/

/-- What was read as a list are values that were read as its items. -/
theorem Value.exists_of_decode_listOf {d v : Value} {t : FieldType} {style : Style}
    (hd : d ≠ null) (h : (d.decode (.listOf t) style).result = .ok v) :
    ∃ ds vs, d.items? = some ds ∧ v = list vs ∧
      List.Forall₂ (fun d v => (d.decode t style).result = .ok v) ds vs := by
  rw [decode_listOf hd] at h
  split at h
  · next ds hds =>
    obtain ⟨vs, hvs, h⟩ := result_bind_eq_ok.1 h
    exact ⟨ds, vs, hds, (Except.ok.inj h).symm, all_eq_ok_iff.1 hvs⟩
  · cases h

/-- Keys that are distinct texts stay so where other values stand under them. -/
theorem Value.distinctTexts_of_keys {es es' : List (Value × Value)}
    (h : es.map (·.1) = es'.map (·.1)) (hes : DistinctTexts es) : DistinctTexts es' := by
  have hiff : ∀ es : List (Value × Value), DistinctTexts es ↔
      (∀ k ∈ es.map (·.1), ∃ s, k = text s) ∧
        (es.map (·.1)).Pairwise fun a b => a.equal b = false := by
    intro es
    simp [DistinctTexts, List.pairwise_map]
  rw [hiff] at hes ⊢
  rwa [← h]

theorem Value.map_fst_eq {es es' : List (Value × Value)} {R : Value × Value → Value × Value → Prop}
    (h : List.Forall₂ (fun e e' => e.1 = e'.1 ∧ R e e') es es') :
    es.map (·.1) = es'.map (·.1) := by
  rw [← List.forall₂_eq_eq_eq, List.forall₂_map_left_iff, List.forall₂_map_right_iff]
  exact h.imp fun _ _ h => h.1

/-- Where the keys are distinct texts, each of them says what stands under it. -/
theorem Value.lookup?_eq_some_iff {es : List (Value × Value)} (hkeys : DistinctTexts es)
    {key : String} {v : Value} : lookup? (.text key) es = some v ↔ (text key, v) ∈ es := by
  induction es with
  | nil => simp [lookup?]
  | cons e rest ih =>
    obtain ⟨⟨⟨k, hk⟩, hother⟩, hrest⟩ := distinctTexts_cons.1 hkeys
    obtain ⟨k', w⟩ := e
    obtain rfl : k' = .text k := hk
    by_cases hkey : k = key
    · subst hkey
      have hnone : (.text k, v) ∉ rest := fun hmem => by
        have hne := hother _ hmem
        simp at hne
      simp [lookup?, hnone, eq_comm]
    · have hskip : lookup? (.text key) ((.text k, w) :: rest) =
          lookup? (.text key) rest := by
        simp [lookup?, hkey]
      rw [hskip, ih hrest]
      simp [Ne.symm hkey]

/-- A mapping with distinct texts as keys is read by its values. -/
theorem Value.decode_mapOf_eq_ok_iff {entries : List (Value × Value)} {v : Value} {t : FieldType}
    {style : Style} (hkeys : DistinctTexts entries) :
    ((map entries).decode (.mapOf t) style).result = .ok v ↔
      ∃ es, List.Forall₂ (fun e e' => e.1 = e'.1 ∧ (e.2.decode t style).result = .ok e'.2)
        entries es ∧ v = map es := by
  have hentry : ∀ e ∈ entries, ∀ e' : Value × Value,
      ((e.2.decode t style).map fun w => (text e.1.shown, w)).result = .ok e' ↔
        e.1 = e'.1 ∧ (e.2.decode t style).result = .ok e'.2 := by
    intro e he e'
    obtain ⟨k, hk⟩ := hkeys.1 e he
    rw [result_map, map_eq_ok, hk, shown_text]
    constructor
    · rintro ⟨w, hw, rfl⟩
      exact ⟨rfl, hw⟩
    · rintro ⟨hkey, hw⟩
      exact ⟨_, hw, Prod.ext hkey rfl⟩
  have hforall : ∀ es, List.Forall₂ (fun e e' => ((e.2.decode t style).map fun w =>
        (text e.1.shown, w)).result = .ok e') entries es ↔
      List.Forall₂ (fun e e' => e.1 = e'.1 ∧ (e.2.decode t style).result = .ok e'.2)
        entries es := by
    intro es
    rw [List.forall₂_iff_zip, List.forall₂_iff_zip]
    exact and_congr_right fun _ => forall_congr' fun e => forall_congr' fun e' =>
      forall_congr' fun hmem => hentry e (List.of_mem_zip hmem).1 e'
  rw [decode_mapOf (by simp), result_bind_eq_ok]
  refine exists_congr fun es => ?_
  rw [all_eq_ok_iff, hforall]
  refine and_congr_right fun hes => ?_
  rw [result_pure, insertEntries_of_distinct (distinctTexts_of_keys (map_fst_eq hes) hkeys).2]
  exact ⟨fun h => (Except.ok.inj h).symm, fun h => by rw [h]⟩

/-! ### Entities of what was read -/

theorem mapM_coerce {t : FieldType} {vs : List Value} (h : ∀ v ∈ vs, t.coerce v = .ok v) :
    vs.mapM t.coerce = .ok vs := by
  rw [mapM_eq_ok h, List.map_id']

/-- What was read for a type is not read once more when an entity is made of it. -/
theorem FieldType.coerce_of_decode {d v : Value} {t : FieldType} {style : Style}
    (h : (d.decode t style).result = .ok v) : t.coerce v = .ok v := by
  -- Nothing is read as nothing whatever the type, so in each case the data can be taken to be there.
  induction t generalizing d v with
  | optional t ih =>
    by_cases hv : v = .null
    · rw [hv]
      exact coerce_null _
    · have hd : d ≠ .null := by
        rintro rfl
        cases h
        exact hv rfl
      rw [Value.decode_optional hd] at h
      rw [coerce.eq_2 v t hv]
      exact ih h
  | listOf t ih =>
    by_cases hd : d = .null
    · subst hd
      cases h
      rfl
    · obtain ⟨ds, vs, -, rfl, hvs⟩ := Value.exists_of_decode_listOf hd h
      have hitems : ∀ w ∈ vs, t.coerce w = .ok w := by
        intro w hw
        obtain ⟨i, hi, rfl⟩ := List.mem_iff_getElem.1 hw
        exact ih (hvs.get (hvs.length_eq ▸ hi) hi)
      rw [coerce, mapM_coerce hitems]
      rfl
  | duration | secret | matcher =>
    by_cases hd : d = .null
    · subst hd
      cases h
      rfl
    · rw [Value.decode_scalar hd rfl] at h
      simp only [decodeScalar, result_ofExcept, result_value] at h
      first
        | (cases h; rfl)
        | (obtain ⟨w, -, rfl⟩ := map_eq_ok.1 h; rfl)
  | _ => cases v <;> rfl

/-- What the schema of a kind says if its entities are read field by field: there are no rules in it
to be read first, and what a field is by default is of its type. -/
structure Kind.Regular (kind : Kind) : Prop extends kind.WellKeyed where
  notRule : kind ∉ Kind.rules
  default_fits : ∀ f ∈ kind.schema.fields, ∀ d, f.default? = some d → d.fits f.type = true

theorem Kind.regular_of_mem {kind : Kind} (h : kind ∈ kubernetesSecret :: configuration) :
    kind.Regular where
  __ := wellKeyed_of_mem <| by
    rcases List.mem_cons.1 h with rfl | h
    · exact List.mem_cons_self
    · exact List.mem_cons_of_mem _ (List.mem_append_left _ (List.mem_append_left _ h))
  notRule := by revert kind; decide
  default_fits := by
    have hdefaults : ∀ kind ∈ kubernetesSecret :: configuration, ∀ f ∈ kind.schema.fields,
        f.default?.all (·.fits f.type) = true := by decide
    intro f hf d hd
    simpa [hd] using hdefaults kind h f hf

/-- A configuration has no envelope and takes the style around it. -/
theorem Kind.bare_of_mem {kind : Kind} (h : kind ∈ configuration) :
    kind.schema.envelope? = none ∧ kind.schema.style? = none := by
  revert kind
  decide

namespace Entity

variable {kind : Kind} {es es' : List (Value × Value)} {style : Style} {fs : List Field}
  {given : List (String × Value)} {ws : List Value}

/-- What stands under a key of a mapping, unless it is nothing. -/
def givenAt? (es : List (Value × Value)) (key : String) : Option Value :=
  ((es.find? fun e => e.1.equal (.text key)).filter fun e => !e.2.isNull).map (·.2)

/-- A field is read as a value: as what stands under its key is read, or, where nothing stands
there, as its default. -/
def FieldReads (es : List (Value × Value)) (style : Style) (f : Field) (w : Value) : Prop :=
  match givenAt? es (f.key style) with
  | some v => (v.decode f.type style).result = .ok w
  | none => f.default? = some w

theorem exists_of_givenAt? {key : String} {v : Value} (h : givenAt? es key = some v) :
    ∃ e ∈ es, e.2 = v := by
  obtain ⟨e, he, rfl⟩ := Option.map_eq_some_iff.1 h
  exact ⟨e, List.mem_of_find?_eq_some (Option.filter_eq_some_iff.1 he).1, rfl⟩

theorem givenAt?_eq_filter (key : String) :
    givenAt? es key = (Value.lookup? (.text key) es).filter fun v => !v.isNull := by
  rw [givenAt?, Value.lookup?, Option.filter_map]
  rfl

theorem givenAt?_eq_some_iff (hkeys : Value.DistinctTexts es) {key : String} {v : Value} :
    givenAt? es key = some v ↔ (.text key, v) ∈ es ∧ v.isNull = false := by
  rw [givenAt?_eq_filter, Option.filter_eq_some_iff, Value.lookup?_eq_some_iff hkeys]
  simp

theorem entry?_decodeEntries (key : String) : entry? (Value.decodeEntries es) key =
    ((es.find? fun e => e.1.equal (.text key)).filter fun e => !e.2.isNull).map
      fun e => ⟨e.1, e.2, e.1.decode, e.2.decode⟩ := by
  rw [ entry?, Value.decodeEntries_eq_map, List.find?_map, Option.filter_map]
  rfl

theorem givenAt?_eq (key : String) :
    givenAt? es key = ( entry? (Value.decodeEntries es) key).map (·.value) := by
  rw [givenAt?, entry?_decodeEntries, Option.map_map]
  rfl

/-- What stands under the key of a field that was written, and under that of one that was not. -/
theorem givenAt?_encodeFields {vs : List Value} (hkeys : (fs.map (·.key style)).Nodup) {v : Value}
    {f : Field} (hmem : (v, f) ∈ vs.zip fs) :
    givenAt? (Value.encodeFields style fs vs) (f.key style) =
      if f.isWritten v then some (v.encode style) else none := by
  rw [givenAt?_eq, entry_encodeFields hkeys hmem]
  split <;> rfl

theorem readFields_cons (f : Field) : (readFields (Value.decodeEntries es) style (f :: fs)).result =
    match givenAt? es (f.key style) with
    | some v => (v.decode f.type style).result.bind fun w =>
        (readFields (Value.decodeEntries es) style fs).result.map ((f.name, w) :: ·)
    | none => (readFields (Value.decodeEntries es) style fs).result := by
  rw [readFields, entry?_decodeEntries, givenAt?]
  cases (es.find? fun e => e.1.equal (.text (f.key style))).filter fun e => !e.2.isNull with
  | none => rfl
  | some e =>
    show (Value.decode e.2 f.type style >>= _).result = _
    rw [result_bind]
    refine congrArg _ (funext fun w => ?_)
    rw [result_bind]
    cases (readFields (Value.decodeEntries es) style fs).result <;> rfl

/-- What is given for a field that was read: what stands under its key, read, or nothing. -/
theorem lookup_of_readFields (hnames : (fs.map (·.name)).Nodup)
    (h : (readFields (Value.decodeEntries es) style fs).result = .ok given) :
    (∀ name ∉ fs.map (·.name), given.lookup name = none) ∧
      ∀ f ∈ fs, match givenAt? es (f.key style) with
        | some v => ∃ w, (v.decode f.type style).result = .ok w ∧ given.lookup f.name = some w
        | none => given.lookup f.name = none := by
  induction fs generalizing given with
  | nil =>
    cases h
    exact ⟨fun _ _ => rfl, fun f hf => absurd hf List.not_mem_nil⟩
  | cons f fs ih =>
    rw [List.map_cons, List.nodup_cons] at hnames
    rw [readFields_cons] at h
    cases hv : givenAt? es (f.key style) with
    | none =>
      rw [hv] at h
      obtain ⟨hother, hfields⟩ := ih hnames.2 h
      refine ⟨fun name hname => hother name fun hmem => hname (List.mem_cons_of_mem _ hmem), ?_⟩
      refine List.forall_mem_cons.2 ⟨?_, hfields⟩
      rw [hv]
      exact hother f.name hnames.1
    | some v =>
      rw [hv] at h
      obtain ⟨w, hw, h⟩ := bind_eq_ok.1 h
      obtain ⟨rest, hrest, rfl⟩ := map_eq_ok.1 h
      obtain ⟨hother, hfields⟩ := ih hnames.2 hrest
      constructor
      · intro name hname
        rw [List.map_cons, List.mem_cons, not_or] at hname
        rw [List.lookup_cons, beq_eq_false_iff_ne.2 hname.1]
        exact hother name hname.2
      · refine List.forall_mem_cons.2 ⟨?_, fun g hg => ?_⟩
        · rw [hv]
          exact ⟨w, hw, by simp⟩
        · -- The names differ, so what is in front does not hide what is given for another field.
          have hne : g.name ≠ f.name := fun heq => hnames.1 (List.mem_map.2 ⟨g, hg, heq⟩)
          rw [List.lookup_cons, beq_eq_false_iff_ne.2 hne]
          exact hfields g hg

/-- The fields are read if what stands under each of their keys is. -/
theorem exists_readFields (h : ∀ f ∈ fs, ∃ w, FieldReads es style f w) :
    ∃ given, (readFields (Value.decodeEntries es) style fs).result = .ok given := by
  induction fs with
  | nil => exact ⟨[], rfl⟩
  | cons f fs ih =>
    obtain ⟨⟨w, hw⟩, hfs⟩ := List.forall_mem_cons.1 h
    obtain ⟨rest, hrest⟩ := ih hfs
    rw [readFields_cons, hrest]
    rw [FieldReads] at hw
    cases hv : givenAt? es (f.key style) with
    | none => exact ⟨rest, rfl⟩
    | some v =>
      rw [hv] at hw
      refine ⟨(f.name, w) :: rest, ?_⟩
      show (v.decode f.type style).result.bind _ = _
      rw [show (v.decode f.type style).result = .ok w from hw]
      rfl

theorem coerceFields_of_forall₂
    (h : List.Forall₂ (fun f w => f.type.coerce w = .ok w) fs ws) :
    coerceFields fs ws = .ok ws := by
  induction h with
  | nil => rfl
  | cons hw _ ih =>
    rw [coerceFields, hw, ih]
    rfl

/-- What a field is read as is taken as it is. -/
theorem FieldReads.coerce (hkind : kind.Regular) {f : Field} (hf : f ∈ kind.schema.fields) {w : Value}
    (h : FieldReads es style f w) : f.type.coerce w = .ok w := by
  rw [FieldReads] at h
  split at h
  · exact FieldType.coerce_of_decode h
  · exact FieldType.coerce_of_fits (hkind.default_fits f hf w h)

/-- An entity is made of what its fields are read as. -/
theorem make_of_fieldReads (hkind : kind.Regular)
    (h : List.Forall₂ (FieldReads es style) kind.schema.fields ws) :
    make? kind ws = .ok (.entity kind ws) := by
  have hexpr : exprField? kind = none := by
    have hrule := hkind.notRule
    cases kind <;> first | rfl | exact absurd (by decide) hrule
  have hcoerce : coerceFields kind.schema.fields ws = .ok ws := by
    refine coerceFields_of_forall₂ (List.forall₂_iff_zip.2 ⟨h.length_eq, fun hmem => ?_⟩)
    exact FieldReads.coerce hkind (List.of_mem_zip hmem).1 (List.forall₂_zip h hmem)
  rw [make?, hexpr]
  simp only [pure_bind, hkind.isProjected, if_true, hcoerce]
  rfl

/-- What is given completes an entity just if every field is given or has a default. -/
theorem complete_eq_iff : missing kind given = [] ∧ complete kind given = ws ↔
    List.Forall₂ (fun f w => (given.lookup f.name).or f.default? = some w) kind.schema.fields ws := by
  rw [missing, complete]
  generalize kind.schema.fields = fs
  induction fs generalizing ws with
  | nil => cases ws <;> simp
  | cons f fs ih =>
    cases ws with
    | nil => simp
    | cons w ws =>
      rw [List.forall₂_cons, ← ih, List.filter_cons]
      cases hgiven : given.lookup f.name with
      | some w' => simp [hgiven, and_left_comm]
      | none =>
        cases hdefault : f.default? with
        | some d => simp [Field.isRequired, hgiven, hdefault, and_left_comm]
        | none => simp [Field.isRequired, hgiven, hdefault]

/-- What is given of the fields is what they are read as. -/
theorem forall₂_fieldReads_iff (hnames : (fs.map (·.name)).Nodup)
    (h : (readFields (Value.decodeEntries es) style fs).result = .ok given) :
    List.Forall₂ (fun f w => (given.lookup f.name).or f.default? = some w) fs ws ↔
      List.Forall₂ (FieldReads es style) fs ws := by
  obtain ⟨-, hlookup⟩ := lookup_of_readFields hnames h
  rw [List.forall₂_iff_zip, List.forall₂_iff_zip]
  refine and_congr_right fun _ => forall_congr' fun f => forall_congr' fun w =>
    forall_congr' fun hmem => ?_
  have hf := hlookup f (List.of_mem_zip hmem).1
  rw [FieldReads]
  cases hv : givenAt? es (f.key style) with
  | none =>
    rw [hv] at hf
    rw [hf, Option.none_or]
  | some v =>
    rw [hv] at hf
    obtain ⟨w', hw', hgiven⟩ := hf
    rw [hgiven]
    simp [hw']

/-- **An entity is read field by field.** It is read just if each of its fields is, and then is the
entity of what they are read as. -/
theorem readEntries_eq_ok_iff (hkind : kind.Regular) {entries : List DecodedEntry}
    (hcheck : checkEnvelope kind entries = .ok ())
    (hdrop : dropEnvelope kind entries = Value.decodeEntries es) {y : Value} :
    (readEntries kind entries style).result = .ok y ↔
      ∃ ws, List.Forall₂ (FieldReads es (kind.schema.styleIn style)) kind.schema.fields ws ∧
        y = .entity kind ws := by
  -- Only of a group is a field read before the others.
  have hgroup : (kind == .ruleGroup) = false := by
    rw [beq_eq_false_iff_ne]
    rintro rfl
    exact hkind.notRule (by decide)
  have hread : (readEntries kind entries style).result =
      (readFields (Value.decodeEntries es) (kind.schema.styleIn style) kind.schema.fields).result.bind
        fun given => (finish kind given).result := by
    simp only [readEntries, hcheck, hdrop, result_bind, result_ofExcept, Except.bind, hgroup,
      Bool.false_eq_true, if_false, result_pure, result_ite_say, List.lookup_nil, Option.isNone_none,
      List.filter_true, List.nil_append]
  rw [hread]
  constructor
  · intro h
    obtain ⟨given, hgiven, hfinish⟩ := bind_eq_ok.1 h
    rw [finish] at hfinish
    split at hfinish
    · next hmissing =>
      have hfields := (forall₂_fieldReads_iff hkind.names_nodup hgiven).1
        (complete_eq_iff.1 ⟨hmissing, rfl⟩)
      rw [result_ofExcept, make_of_fieldReads hkind hfields] at hfinish
      exact ⟨_, hfields, (Except.ok.inj hfinish).symm⟩
    · cases hfinish
  · rintro ⟨ws, hws, rfl⟩
    have hreads : ∀ f ∈ kind.schema.fields, ∃ w, FieldReads es (kind.schema.styleIn style) f w := by
      intro f hf
      obtain ⟨i, hi, rfl⟩ := List.mem_iff_getElem.1 hf
      exact ⟨_, hws.get hi (hws.length_eq ▸ hi)⟩
    obtain ⟨given, hgiven⟩ := exists_readFields hreads
    obtain ⟨hmissing, hcomplete⟩ := complete_eq_iff.2
      ((forall₂_fieldReads_iff hkind.names_nodup hgiven).2 hws)
    rw [hgiven]
    show (finish kind given).result = _
    rw [finish, hmissing, hcomplete, result_ofExcept, make_of_fieldReads hkind hws]

/-- A configuration has no envelope, so it is read of all entries of its mapping. -/
theorem readEntries_eq_ok_iff_of_mem (hkind : kind ∈ Kind.configuration) {y : Value} :
    (readEntries kind (Value.decodeEntries es) style).result = .ok y ↔
      ∃ ws, List.Forall₂ (FieldReads es style) kind.schema.fields ws ∧ y = .entity kind ws := by
  have hschema := Kind.bare_of_mem hkind
  have hcheck : checkEnvelope kind (Value.decodeEntries es) = .ok () := by
    rw [checkEnvelope, hschema.1]
  have hdrop : dropEnvelope kind (Value.decodeEntries es) = Value.decodeEntries es := by
    simp [dropEnvelope, hschema.1]
  have hstyle : kind.schema.styleIn style = style := by simp [Schema.styleIn, hschema.2]
  rw [readEntries_eq_ok_iff (Kind.regular_of_mem (List.mem_cons_of_mem _ hkind)) hcheck hdrop,
    hstyle]

end Entity

end MonitoringConfig
