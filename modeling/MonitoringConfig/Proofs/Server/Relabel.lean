import Mathlib.Data.List.Nodup
import MonitoringConfig.Proofs.Projection.Reading
/-!
# Relabelling rules that are read and written again

A server takes a rule for what it says and, where it says nothing, for what rules do by default. An
entity leaves out what is empty, which is not the same: an empty separator is none, a separator that
is left out is a semicolon.

* `Server.effective` : what a server takes a rule for.
* `Server.effective_encode_iff` : **a rule keeps its meaning when it is read and written again, just
  if it does not say that the separator, the expression or the replacement is empty.**
-/

namespace MonitoringConfig.Server

open Logged Entity

/-! ### What a server takes a rule for -/

/-- What a server takes for a field of a relabelling rule that says nothing about it. -/
def relabelDefault : String → Value
  | "separator" => .text ";"
  | "regex" => .text "(.*)"
  | "replacement" => .text "$1"
  | "action" => .text "replace"
  | "source_labels" => .list []
  | "modulus" => .int 0
  | _ => .text ""

/-- What a server takes a relabelling rule for, field by field, given the style of its keys. -/
def effective (style : Style) : Value → List (String × Value)
  | .map es => Kind.relabelConfig.schema.fields.map fun f =>
      (f.name, (givenAt? es (f.key style)).getD (relabelDefault f.name))
  | _ => []

/-- Whether a value is plain data for a field of a relabelling rule. -/
def suits : FieldType → Value → Bool
  | .text, .text _ | .whole, .int _ | .optional (.choice _), .text _ => true
  | .listOf .text, .list items => items.all Value.isText
  | _, _ => false

/-- Whether a mapping is one over the keys of a relabelling rule, each with plain data for its field
or nothing. -/
structure IsRule (style : Style) (es : List (Value × Value)) : Prop where
  keys : Value.DistinctTexts es
  known : ∀ e ∈ es, ∃ f ∈ Kind.relabelConfig.schema.fields,
    e.1.equal (.text (f.key style)) = true ∧ (e.2.isNull = true ∨ suits f.type e.2 = true)

/-- The fields that rules do something for by default, and that are empty where nothing is given. -/
def defaulted : List String :=
  ["separator", "regex", "replacement"]

/-! ### Field by field -/

variable {style style' : Style} {es : List (Value × Value)}

/-- The keys of different fields differ, so a key says of which field it is. -/
theorem eq_of_key (style : Style) {f g : Field} (hf : f ∈ Kind.relabelConfig.schema.fields)
    (hg : g ∈ Kind.relabelConfig.schema.fields) (h : f.key style = g.key style) : f = g :=
  List.inj_on_of_nodup_map ((Kind.wellKeyed_of_mem (by decide)).keys_nodup style) hf hg h

/-- What stands under the key of a field is plain data for it. -/
theorem suits_of_givenAt? (hes : IsRule style es) {f : Field}
    (hf : f ∈ Kind.relabelConfig.schema.fields) {v : Value}
    (h : givenAt? es (f.key style) = some v) : suits f.type v = true := by
  obtain ⟨hmem, hnull⟩ := (givenAt?_eq_some_iff hes.keys).1 h
  obtain ⟨g, hg, hkey, hvalue⟩ := hes.known _ hmem
  rw [Value.equal_text, beq_iff_eq] at hkey
  obtain rfl := eq_of_key style hf hg hkey
  exact hvalue.resolve_left (by simp [hnull])

/-- A text is read as itself. -/
theorem eq_of_decode_text {d w : Value} (ht : d.isText = true)
    (h : (d.decode .text style).result = .ok w) : d = w ∧ ∀ style', w.encode style' = w := by
  cases d with
  | text s =>
    cases h
    exact ⟨rfl, fun _ => rfl⟩
  | _ => cases ht

/-- Plain data for a field is written as it was read. -/
theorem encode_of_decode {t : FieldType} {d w : Value} (ht : suits t d = true)
    (h : (d.decode t style).result = .ok w) (style' : Style) :
    w.encode style' = d ∧ w.isEmpty = d.isEmpty ∧ w.isNull = false := by
  unfold suits at ht
  split at ht
  · cases h
    exact ⟨rfl, rfl, rfl⟩
  · cases h
    exact ⟨rfl, rfl, rfl⟩
  · next c s =>
    have hmember : c.memberOf (.text s) = .ok w := h
    simp only [Choice.memberOf, Value.asText?] at hmember
    split at hmember
    · cases hmember
      exact ⟨rfl, rfl, rfl⟩
    · cases hmember
  · next items =>
    obtain ⟨ds, vs, hds, rfl, hvs⟩ := Value.exists_of_decode_listOf (by simp) h
    obtain rfl : items = ds := Option.some.inj hds
    have hitems : List.Forall₂ (fun d w => d = w ∧ ∀ style', w.encode style' = w) items vs := by
      rw [List.forall₂_iff_zip] at hvs ⊢
      exact ⟨hvs.1, fun {d w} hmem => eq_of_decode_text
        (List.all_eq_true.1 ht d (List.of_mem_zip hmem).1) (hvs.2 hmem)⟩
    obtain rfl : items = vs := List.forall₂_eq_eq_eq ▸ hitems.imp fun _ _ h => h.1
    have hencode : items.map (Value.encode style') = items := by
      refine (List.map_congr_left fun w hw => ?_).trans (List.map_id' items)
      obtain ⟨i, hi, rfl⟩ := List.mem_iff_getElem.1 hw
      exact (hitems.get hi hi).2 style'
    exact ⟨by rw [Value.encode, Value.encodeList_eq_map, hencode], rfl, rfl⟩
  · cases ht

/-- A type has one empty value among the plain data for it, unless nothing is among its values. -/
theorem eq_of_isEmpty {t : FieldType} {d d' : Value} (ht : t.isOptional = false)
    (hd : suits t d = true) (hd' : suits t d' = true) (hempty : d.isEmpty = true)
    (hempty' : d'.isEmpty = true) : d = d' := by
  unfold suits at hd hd'
  split at hd <;> split at hd' <;> simp_all [Value.isEmpty, FieldType.isOptional]

/-- What a field of a rule is if nothing is given for it: nothing at all, an empty text where the
server has one that is not, or what the server takes for it. -/
inductive DefaultOf (f : Field) : Prop
  | absent (hname : f.name ∉ defaulted) (htype : f.type.isOptional = true)
      (h : f.default? = some .null)
  | other (hname : f.name ∈ defaulted) (htype : f.type = .text) (h : f.default? = some (.text ""))
      (hne : relabelDefault f.name ≠ .text "")
  | same (hname : f.name ∉ defaulted) (htype : f.type.isOptional = false)
      (h : f.default? = some (relabelDefault f.name))
      (hsuits : suits f.type (relabelDefault f.name) = true)
      (hempty : (relabelDefault f.name).isEmpty = true)

theorem fields_spec : ∀ f ∈ Kind.relabelConfig.schema.fields,
    f.isRequired = false ∧ f.always = false ∧ DefaultOf f := by
  have htexts : ∀ name ∈ defaulted, relabelDefault name ≠ .text "" := by
    simp [defaulted, relabelDefault]
  simp only [Kind.schema, Schema.relabelConfig, List.forall_mem_cons]
  refine ⟨⟨rfl, rfl, .same (by decide) rfl rfl rfl rfl⟩,
    ⟨rfl, rfl, .other (by decide) rfl rfl (htexts _ (by decide))⟩,
    ⟨rfl, rfl, .other (by decide) rfl rfl (htexts _ (by decide))⟩,
    ⟨rfl, rfl, .same (by decide) rfl rfl rfl rfl⟩, ⟨rfl, rfl, .same (by decide) rfl rfl rfl rfl⟩,
    ⟨rfl, rfl, .other (by decide) rfl rfl (htexts _ (by decide))⟩,
    ⟨rfl, rfl, .absent (by decide) rfl rfl⟩, by simp⟩

/-- What is said about a field is kept just if it is not that one of the defaulted texts is empty. -/
theorem field_kept_iff (hes : IsRule style es) {f : Field}
    (hf : f ∈ Kind.relabelConfig.schema.fields) {w : Value} (hw : FieldReads es style f w)
    (style' : Style) :
    (if f.isWritten w then some (w.encode style') else none).getD (relabelDefault f.name) =
        (givenAt? es (f.key style)).getD (relabelDefault f.name) ↔
      (f.name ∈ defaulted → givenAt? es (f.key style) ≠ some (.text "")) := by
  obtain ⟨hrequired, halways, hdefault⟩ := fields_spec f hf
  rw [FieldReads] at hw
  cases hgiven : givenAt? es (f.key style) with
  | none =>
    rw [hgiven] at hw
    -- What is given for no field is a default, and defaults are not written.
    have hunwritten : f.isWritten w = false := by
      cases hdefault with
      | absent _ _ h => obtain rfl := Option.some.inj (h.symm.trans hw); rfl
      | other _ htype h =>
        obtain rfl := Option.some.inj (h.symm.trans hw)
        simp [Field.isWritten, hrequired, halways, htype, FieldType.isOptional, Value.isEmpty]
      | same _ htype h _ hempty =>
        obtain rfl := Option.some.inj (h.symm.trans hw)
        simp [Field.isWritten, hrequired, halways, htype, hempty]
    simp [hunwritten]
  | some d =>
    rw [hgiven] at hw
    have hsuits := suits_of_givenAt? hes hf hgiven
    obtain ⟨hencode, hisEmpty, hnull⟩ := encode_of_decode hsuits hw style'
    have hwritten : f.isWritten w = (f.type.isOptional || !d.isEmpty) := by
      simp [Field.isWritten, hrequired, halways, hnull, hisEmpty]
    rw [hwritten, hencode]
    cases hdefault with
    | absent hname htype _ => simp [htype, hname]
    | other hname htype _ hne =>
      rw [htype] at hsuits ⊢
      cases d with
      | text s =>
        by_cases hs : s = ""
        · subst hs
          simpa [FieldType.isOptional, Value.isEmpty, hname] using hne
        · simp [FieldType.isOptional, Value.isEmpty, hs]
      | _ => cases hsuits
    | same hname htype _ hdefault hempty =>
      cases hd : d.isEmpty with
      | true =>
        -- A type has one empty value, so what is left out is what the server takes for it.
        have hsame : relabelDefault f.name = d := eq_of_isEmpty htype hdefault hsuits hempty hd
        simp [htype, hname, hsame]
      | false => simp [hname]

/-! ### Rules that are read and written again -/

/-- The texts that a server has a default for stand under the same keys in both styles. -/
theorem key_of_defaulted {f : Field} (hf : f ∈ Kind.relabelConfig.schema.fields)
    (hname : f.name ∈ defaulted) (style : Style) : f.key style = f.name := by
  have hkeys : ∀ f ∈ Kind.relabelConfig.schema.fields, f.name ∈ defaulted →
      ∀ style ∈ [Style.snake, .camel], f.key style = f.name := by decide +kernel
  exact hkeys f hf hname style (by cases style <;> simp)

/-- A text that a server has a default for is said to be empty just if it stands so in the
mapping. -/
theorem givenAt?_defaulted (hes : IsRule style es) :
    (∀ f ∈ Kind.relabelConfig.schema.fields,
        f.name ∈ defaulted → givenAt? es (f.key style) ≠ some (.text "")) ↔
      ∀ key ∈ defaulted, (.text key, .text "") ∉ es := by
  have hnames : ∀ key ∈ defaulted, ∃ f ∈ Kind.relabelConfig.schema.fields, f.name = key := by decide
  have hgiven : ∀ key, givenAt? es key = some (.text "") ↔ (.text key, .text "") ∈ es := fun key => by
    rw [givenAt?_eq_some_iff hes.keys]
    exact and_iff_left rfl
  constructor
  · intro h key hkey
    obtain ⟨f, hf, rfl⟩ := hnames key hkey
    have hnone := h f hf hkey
    rwa [Ne, hgiven, key_of_defaulted hf hkey] at hnone
  · intro h f hf hname
    rw [Ne, hgiven, key_of_defaulted hf hname]
    exact h f.name hname

/-- **A rule keeps its meaning when it is read and written again** just if it does not say that the
separator, the expression or the replacement is empty, whatever the styles of both are. -/
theorem effective_encode_iff {style style' : Style} {es : List (Value × Value)} {x : Value}
    (hes : IsRule style es) (h : (Entity.read .relabelConfig (.map es) style).result = .ok x) :
    effective style' (x.encode style') = effective style (.map es) ↔
      ∀ key ∈ defaulted, (.text key, .text "") ∉ es := by
  rw [Entity.read_map rfl, readEntries_eq_ok_iff_of_mem (by decide)] at h
  obtain ⟨ws, hws, rfl⟩ := h
  have hkeyed : Kind.relabelConfig.WellKeyed := Kind.wellKeyed_of_mem (by decide)
  have hencode : Value.encode style' (.entity .relabelConfig ws) =
      .map (Value.encodeFields style' Kind.relabelConfig.schema.fields ws) := by
    rw [Value.encode_entity hkeyed]
    rfl
  have hfield : ∀ f ∈ Kind.relabelConfig.schema.fields,
      ((givenAt? (Value.encodeFields style' Kind.relabelConfig.schema.fields ws)
          (f.key style')).getD (relabelDefault f.name) =
        (givenAt? es (f.key style)).getD (relabelDefault f.name) ↔
      (f.name ∈ defaulted → givenAt? es (f.key style) ≠ some (.text ""))) := by
    intro f hf
    obtain ⟨i, hi, rfl⟩ := List.mem_iff_getElem.1 hf
    have hi' : i < ws.length := hws.length_eq ▸ hi
    have hzip : (ws[i], Kind.relabelConfig.schema.fields[i]) ∈
        ws.zip Kind.relabelConfig.schema.fields :=
      List.mem_iff_getElem.2 ⟨i, by rw [List.length_zip]; omega, by rw [List.getElem_zip]⟩
    rw [givenAt?_encodeFields (hkeyed.keys_nodup style') hzip]
    exact field_kept_iff hes hf (hws.get hi hi') style'
  rw [hencode, ← givenAt?_defaulted hes, effective, effective, List.map_inj_left]
  refine forall_congr' fun f => forall_congr' fun hf => ?_
  rw [Prod.mk.injEq, eq_self, true_and, hfield f hf]

/-- A rule with a separator and no labels, which keeps its meaning. -/
def joined : List (Value × Value) :=
  [(.text "separator", .text "-"), (.text "sourceLabels", .list [.text "job", .text "zone"]),
    (.text "modulus", .int 0), (.text "targetLabel", .text ""), (.text "action", .text "keep")]

theorem effective_encode_iff_joined :
    IsRule .camel joined ∧ (∃ x, (Entity.read .relabelConfig (.map joined) .camel).result = .ok x ∧
      (effective .snake (x.encode .snake) = effective .camel (.map joined) ↔
        ∀ key ∈ defaulted, (.text key, .text "") ∉ joined)) ∧
      ∀ key ∈ defaulted, (.text key, .text "") ∉ joined :=
  have hrule : IsRule .camel joined :=
    ⟨⟨by simp [joined], by decide +kernel⟩, by decide +kernel⟩
  have ⟨x, hx, _⟩ := exists_of_toOption (p := fun _ => true)
    (x := (Entity.read .relabelConfig (.map joined) .camel).result) (by decide +kernel)
  ⟨hrule, ⟨x, hx, effective_encode_iff hrule hx⟩, by simp [joined, defaulted]⟩

/-- A label is emptied with an empty replacement, which is left out when the rule is written: the
server puts what was matched in place of it. -/
def emptied : List (Value × Value) :=
  [(.text "replacement", .text ""), (.text "action", .text "replace")]

theorem emptied_changed :
    IsRule .snake emptied ∧ ∃ x, (Entity.read .relabelConfig (.map emptied) .snake).result = .ok x ∧
      effective .snake (x.encode .snake) ≠ effective .snake (.map emptied) := by
  -- Of the texts of the two rules one is empty in the mapping only.
  obtain ⟨x, hx, hempty⟩ := exists_of_toOption
    (p := fun x => (effective .snake (x.encode .snake)).map (·.2.isEmpty) !=
      (effective .snake (.map emptied)).map (·.2.isEmpty))
    (x := (Entity.read .relabelConfig (.map emptied) .snake).result) (by decide +kernel)
  refine ⟨⟨⟨by simp [emptied], by decide +kernel⟩, by decide +kernel⟩, x, hx, fun h => ?_⟩
  rw [h, bne_self_eq_false] at hempty
  cases hempty

end MonitoringConfig.Server
