import Mathlib.Data.List.Nodup
import MonitoringConfig.Proofs.Number.Text
import MonitoringConfig.Proofs.Projection.Document
import MonitoringConfig.Proofs.Projection.Plain
/-!
# Reading again what was read

What was read from plain data is written and read once more.

* `Value.omitsDefaults` : what is not written of a value is what its fields are by default.
* `Value.omitsDefaults_of_fits` : so it is of a value of its declared type.
* `Value.comesBack_iff` : a value that was read comes back just if it omits defaults alone, and if
  its matchers can stand in texts where they are written as texts.
* `Entity.reread_iff` : **so do the entities that are read from plain data.** A field with an empty
  value of another type is not written, and has its default when it is read again.
-/

namespace MonitoringConfig

open Logged

/-! ### What is not written -/

/-- Whether a field with a value is written, or has by default what is equal to the value. -/
def Field.isKept (f : Field) (v : Value) : Bool :=
  f.isWritten v || f.default?.any v.equal

section Pairs

variable {α β γ : Type} {as : List α} {bs : List β} {cs : List γ} (h : as.length = bs.length)

include h

/-- What holds of the values of fields can be said of the fields with their values. -/
theorem forall_mem_iff_zip {P : α → Prop} : (∀ a ∈ as, P a) ↔ ∀ p ∈ as.zip bs, P p.1 := by
  conv_lhs => rw [← List.map_fst_zip (Nat.le_of_eq h)]
  exact List.forall_mem_map

theorem forall₂_iff_zip_fst {R : α → γ → Prop} :
    List.Forall₂ R as cs ↔ List.Forall₂ (fun p => R p.1) (as.zip bs) cs := by
  conv_lhs => rw [← List.map_fst_zip (Nat.le_of_eq h)]
  exact List.forall₂_map_left_iff

theorem forall₂_iff_zip_snd {R : β → γ → Prop} :
    List.Forall₂ R bs cs ↔ List.Forall₂ (fun p => R p.2) (as.zip bs) cs := by
  conv_lhs => rw [← List.map_snd_zip (Nat.le_of_eq h.symm)]
  exact List.forall₂_map_left_iff

end Pairs

namespace Value

mutual

/-- Whether the fields that are not written, at every depth, are equal to their defaults. -/
def omitsDefaults : Value → Bool
  | list items => omitsDefaultsAll items
  | tuple items => omitsDefaultsAll items
  | set items => omitsDefaultsAll items
  | map entries => omitsDefaultsEntries entries
  | entity kind fields => omitsDefaultsFields kind.schema.fields fields
  | _ => true

/-- Whether the fields that are not written in several values are equal to their defaults. -/
def omitsDefaultsAll : List Value → Bool
  | [] => true
  | v :: vs => omitsDefaults v && omitsDefaultsAll vs

/-- Whether the fields that are not written in the values of entries are equal to their
defaults. -/
def omitsDefaultsEntries : List (Value × Value) → Bool
  | [] => true
  | (_, v) :: rest => omitsDefaults v && omitsDefaultsEntries rest

/-- Whether the fields of an entity and those in their values that are not written are equal to their
defaults. -/
def omitsDefaultsFields (fields : List Field) : List Value → Bool
  | [] => true
  | v :: vs =>
    match fields with
    | [] => true
    | f :: fs => f.isKept v && omitsDefaults v && omitsDefaultsFields fs vs

end

theorem omitsDefaultsAll_iff {vs : List Value} :
    omitsDefaultsAll vs = true ↔ ∀ v ∈ vs, v.omitsDefaults = true := by
  induction vs with
  | nil => simp [omitsDefaultsAll]
  | cons v vs ih => simp [omitsDefaultsAll, ih]

theorem omitsDefaultsEntries_iff {entries : List (Value × Value)} :
    omitsDefaultsEntries entries = true ↔ ∀ e ∈ entries, e.2.omitsDefaults = true := by
  induction entries with
  | nil => simp [omitsDefaultsEntries]
  | cons e rest ih => simp [omitsDefaultsEntries, ih]

theorem omitsDefaultsFields_iff {fs : List Field} {vs : List Value} :
    omitsDefaultsFields fs vs = true ↔
      ∀ p ∈ vs.zip fs, p.2.isKept p.1 = true ∧ p.1.omitsDefaults = true := by
  induction vs generalizing fs with
  | nil => simp [omitsDefaultsFields]
  | cons v vs ih =>
    cases fs with
    | nil => simp [omitsDefaultsFields]
    | cons f fs => simp [omitsDefaultsFields, ih]

variable {v : Value} {style : Style}

/-- Whether the plain data of a value says all of it: its matchers can stand in texts where they are
written as texts, and what is not written of it are defaults. -/
def IsWrittenInFull (style : Style) (v : Value) : Prop :=
  (style = .snake → v.hasReadableMatchers = true) ∧ v.omitsDefaults = true

theorem isWrittenInFull_list {items : List Value} :
    IsWrittenInFull style (list items) ↔ ∀ v ∈ items, IsWrittenInFull style v := by
  rw [IsWrittenInFull, hasReadableMatchers, everywhere, everywhereIn_iff, omitsDefaults,
    omitsDefaultsAll_iff]
  exact ⟨fun h v hv => ⟨fun hs => h.1 hs v hv, h.2 v hv⟩,
    fun h => ⟨fun hs v hv => (h v hv).1 hs, fun v hv => (h v hv).2⟩⟩

theorem isWrittenInFull_map {entries : List (Value × Value)} (hkeys : DistinctTexts entries) :
    IsWrittenInFull style (map entries) ↔ ∀ e ∈ entries, IsWrittenInFull style e.2 := by
  have hkey : ∀ e ∈ entries, e.1.hasReadableMatchers = true := by
    intro e he
    obtain ⟨k, hk⟩ := hkeys.1 e he
    rw [hk]
    rfl
  rw [IsWrittenInFull, hasReadableMatchers, everywhere, everywhereInEntries_iff, omitsDefaults,
    omitsDefaultsEntries_iff]
  exact ⟨fun h e he => ⟨fun hs => (h.1 hs e he).2, h.2 e he⟩,
    fun h => ⟨fun hs e he => ⟨hkey e he, (h e he).1 hs⟩, fun e he => (h e he).2⟩⟩

theorem isWrittenInFull_entity {kind : Kind} {fields : List Value}
    (hlength : fields.length = kind.schema.fields.length) :
    IsWrittenInFull style (entity kind fields) ↔
      ∀ p ∈ fields.zip kind.schema.fields, p.2.isKept p.1 = true ∧ IsWrittenInFull style p.1 := by
  have hmatchers : (entity kind fields).hasReadableMatchers = true ↔
      ∀ p ∈ fields.zip kind.schema.fields, p.1.hasReadableMatchers = true := by
    rw [hasReadableMatchers, everywhere, everywhereIn_iff, forall_mem_iff_zip hlength]
    rfl
  rw [IsWrittenInFull, hmatchers, omitsDefaults, omitsDefaultsFields_iff]
  exact ⟨fun h p hp => ⟨(h.2 p hp).1, fun hs => h.1 hs p hp, (h.2 p hp).2⟩,
    fun h => ⟨fun hs p hp => (h p hp).2.1 hs, fun p hp => ⟨(h p hp).1, (h p hp).2.2⟩⟩⟩

/-- In what is not written of an entity there are no fields and no matchers. -/
theorem isWrittenInFull_of_not_isWritten {f : Field} (h : f.isWritten v = false) :
    IsWrittenInFull style v := by
  simp only [Field.isWritten, Bool.and_eq_false_iff, Bool.or_eq_false_iff, Bool.not_eq_false'] at h
  cases v with
  | null | bool _ | int _ | float _ | text _ | member _ _ | duration _ | secret _ =>
    exact ⟨fun _ => rfl, rfl⟩
  | list items | tuple items | map items =>
    -- Lists and mappings are left out where they have no parts.
    obtain hnull | ⟨-, hempty⟩ := h
    · cases hnull
    · rw [List.isEmpty_iff.1 hempty]
      exact ⟨fun _ => rfl, rfl⟩
  | _ => obtain hnull | ⟨-, hempty⟩ := h <;> contradiction

/-- In plain data there are no fields and no matchers. -/
theorem isWrittenInFull_of_isPlain (hv : v.isPlain = true) : IsWrittenInFull style v := by
  refine inductPlain ?null ?bool ?int ?text ?list ?map hv
  case null => exact ⟨fun _ => rfl, rfl⟩
  case bool | int | text => exact fun _ => ⟨fun _ => rfl, rfl⟩
  case list => exact fun items ih => isWrittenInFull_list.2 ih
  case map => exact fun entries hkeys ih => (isWrittenInFull_map hkeys).2 ih

end Value

/-! ### Equality of lists and mappings -/

/-- Values that stand in two relations to those of a list can be chosen one by one. -/
theorem exists_forall₂_iff {α β : Type} {R S : α → β → Prop} {as : List α} :
    (∃ bs, List.Forall₂ R as bs ∧ List.Forall₂ S as bs) ↔ ∀ a ∈ as, ∃ b, R a b ∧ S a b := by
  induction as with
  | nil => simp
  | cons a as ih =>
    rw [List.forall_mem_cons, ← ih]
    constructor
    · rintro ⟨bs, hR, hS⟩
      obtain ⟨b, bs', hb, hR', rfl⟩ := List.forall₂_cons_left_iff.1 hR
      obtain ⟨hb', hS'⟩ := List.forall₂_cons.1 hS
      exact ⟨⟨b, hb, hb'⟩, bs', hR', hS'⟩
    · rintro ⟨⟨b, hb, hb'⟩, bs, hR, hS⟩
      exact ⟨b :: bs, .cons hb hR, .cons hb' hS⟩

namespace Value

theorem equalList_iff {vs ws : List Value} :
    equalList vs ws = true ↔ List.Forall₂ (fun v w => v.equal w = true) vs ws := by
  induction vs generalizing ws with
  | nil => cases ws <;> simp [equalList]
  | cons v vs ih => cases ws <;> simp [equalList, ih]

theorem equalEntries_iff {entries others : List (Value × Value)} :
    equalEntries entries others = true ↔
      ∀ e ∈ entries, ∃ e' ∈ others, e.1.equal e'.1 = true ∧ e.2.equal e'.2 = true := by
  induction entries with
  | nil => simp [equalEntries]
  | cons e rest ih =>
    obtain ⟨k, v⟩ := e
    rw [equalEntries, Bool.and_eq_true, ih, List.any_eq_true, List.forall_mem_cons]
    simp only [Bool.and_eq_true]

theorem DistinctTexts.nodup {entries : List (Value × Value)} (h : DistinctTexts entries) :
    (entries.map (·.1)).Nodup := by
  refine List.pairwise_map.2 (h.2.imp_of_mem fun {a b} ha hb hne heq => ?_)
  obtain ⟨s, hs⟩ := h.1 a ha
  rw [← heq, hs, equal_text, beq_self_eq_true] at hne
  cases hne

/-- Mappings with the same distinct keys are equal if their values are, one by one. -/
theorem equal_map_iff {entries es : List (Value × Value)} (hkeys : DistinctTexts entries)
    (hsame : List.Forall₂ (fun e e' => e.1 = e'.1) entries es) :
    (map entries).equal (map es) = true ↔
      List.Forall₂ (fun e e' => e.2.equal e'.2 = true) entries es := by
  have hlength := hsame.length_eq
  have hmap : entries.map (·.1) = es.map (·.1) := map_fst_eq (hsame.imp fun _ _ h => ⟨h, trivial⟩)
  have hkeys' := distinctTexts_of_keys hmap hkeys
  have htexts : ∀ e ∈ entries, ∀ e' ∈ es, e.1.equal e'.1 = true ↔ e.1 = e'.1 := by
    intro e he e' he'
    obtain ⟨s, hs⟩ := hkeys.1 e he
    obtain ⟨t, ht⟩ := hkeys'.1 e' he'
    rw [hs, ht, equal_text, beq_iff_eq, text.injEq]
  rw [equal, Bool.and_eq_true, beq_iff_eq, equalEntries_iff, forall_mem_iff_zip hlength,
    List.forall₂_iff_zip]
  refine and_congr_right fun _ => ⟨fun h e e' hmem => ?_, fun h p hp => ?_⟩
  · obtain ⟨he, he'⟩ := List.of_mem_zip hmem
    obtain ⟨e'', he'', hequal, hvalue⟩ := h _ hmem
    -- The keys differ, so what has the key of an entry is what stands beside it.
    have hkey : e''.1 = e'.1 := by
      rw [← List.forall₂_zip hsame hmem]
      exact ((htexts e he e'' he'').1 hequal).symm
    rwa [← List.inj_on_of_nodup_map hkeys'.nodup he'' he' hkey]
  · obtain ⟨he, he'⟩ := List.of_mem_zip hp
    exact ⟨p.2, he', (htexts _ he _ he').2 (List.forall₂_zip hsame hp), h hp⟩

/-- What is empty is equal to itself. -/
theorem equal_self_of_isEmpty {v : Value} (h : v.isEmpty = true) : v.equal v = true := by
  cases v with
  | float x =>
    have hnan : x ≠ .nan := by
      rintro rfl
      cases h
    simpa [equal, asScalar?, Promql.Scalar.equal] using Binary64.equal_of_same hnan (.inl rfl)
  | list items | tuple items =>
    rw [List.isEmpty_iff.1 h]
    simp [equal, equalList]
  | map entries =>
    rw [List.isEmpty_iff.1 h]
    simp [equal, equalEntries]
  | null | bool _ | int _ | text _ | member _ _ | duration _ | secret _ =>
    simp [equal, asScalar?, Promql.Scalar.equal]
  | _ => cases h

/-- A field that is not written is kept, if its value is of its type. -/
theorem isKept_of_comesBack {f : Field} {v : Value} (hf : f.comesBack = true)
    (hv : v.fits f.type = true) (hmillis : v.isWholeMillis = true) : f.isKept v = true := by
  rw [Field.isKept, Bool.or_eq_true]
  cases hw : f.isWritten v with
  | true => exact .inl rfl
  | false =>
    have hempty : v.isEmpty = true := by
      simp only [Field.isWritten, Bool.and_eq_false_iff, Bool.or_eq_false_iff,
        Bool.not_eq_false'] at hw
      obtain hnull | ⟨-, hempty⟩ := hw
      · cases v with
        | null => rfl
        | _ => cases hnull
      · exact hempty
    have hdefault := Field.default_of_not_isWritten hf hv hw
    rw [truncated_eq_self hmillis] at hdefault
    rw [hdefault]
    exact .inr (equal_self_of_isEmpty hempty)

/-- **What is not written of a value of its declared type are defaults.** Only where other data was
taken as it is can it be anything else. -/
theorem omitsDefaults_of_fits {kinds : List Kind} (hkinds : ∀ kind ∈ kinds, kind.Faithful kinds)
    {v : Value} {t : FieldType} (ht : t.isWithin kinds = true) (h : v.fits t = true)
    (hmillis : v.isWholeMillis = true) : v.omitsDefaults = true := by
  refine induct_made (P := fun v _ => v.isWholeMillis = true → v.omitsDefaults = true)
    (fun kind hkind => (hkinds kind hkind).isWithin) ?leaf ?list ?tuple ?map ?entity ht h hmillis
  case leaf =>
    intro v t hleaf _ _ _
    cases v with
    | list _ | tuple _ | set _ | map _ | entity _ _ => cases hleaf
    | _ => rfl
  case list | tuple =>
    intro items t item _ _ ih hmillis
    exact omitsDefaultsAll_iff.2 fun v hv => ih v hv (everywhereIn_iff.1 hmillis v hv)
  case map =>
    intro entries t item _ _ _ ih hmillis
    exact omitsDefaultsEntries_iff.2 fun e he =>
      ih e he (everywhereInEntries_iff.1 hmillis e he).2
  case entity =>
    intro kind fields t hmem _ hfields ih hmillis
    have hfaithful := hkinds kind hmem
    refine omitsDefaultsFields_iff.2 fun p hp => ?_
    obtain ⟨hv, hf⟩ := List.of_mem_zip hp
    have hvf : p.1.fits p.2.type = true := List.forall₂_zip (fitsFields_iff.1 hfields) hp
    have hwhole := everywhereIn_iff.1 hmillis p.1 hv
    exact ⟨isKept_of_comesBack (hfaithful.comesBack _ hf) hvf hwhole, ih p.1 hv p.2 hf hvf hwhole⟩

/-! ### Plain data -/

variable {d v : Value} {t : FieldType} {style : Style}

theorem isDocument_of_isPlain (hd : d.isPlain = true) : d.IsDocument :=
  inductPlain .null .bool .int .text (fun _ => .list) (fun _ => .map) hd

/-- Plain data is written as it is. -/
theorem encode_of_isPlain (hd : d.isPlain = true) : d.encode style = d :=
  encode_of_isDocument (isDocument_of_isPlain hd) style

theorem equal_self_of_isPlain (hd : d.isPlain = true) : d.equal d = true := by
  refine inductPlain ?null ?bool ?int ?text ?list ?map hd
  case null => simp [equal]
  case bool | int | text => simp [equal, asScalar?, Promql.Scalar.equal]
  case list =>
    intro items ih
    rwa [equal, equalList_iff, List.forall₂_same]
  case map =>
    intro entries hkeys ih
    rwa [equal_map_iff hkeys (List.forall₂_same.2 fun _ _ => rfl), List.forall₂_same]

/-! ### Reading again -/

/-- A value is read again from its plain data as one that is equal to it. -/
def ComesBack (style : Style) (t : FieldType) (v : Value) : Prop :=
  ∃ w, ((v.encode style).decode t style).result = .ok w ∧ v.equal w = true

/-- A matcher comes back from a mapping, and from a text if its name can stand there. -/
theorem comesBack_matcher (m : Matcher) :
    ComesBack style .matcher (matcher m) ↔ (style = .snake → m.isReadable = true) := by
  have hself : (matcher m).equal (matcher m) = true := by simp [equal]
  constructor
  · rintro ⟨w, hw, hequal⟩ rfl
    have hencode : (matcher m).encode .snake = text m.format := rfl
    rw [hencode, decode_scalar (by simp) rfl] at hw
    obtain ⟨m', hm', rfl⟩ := map_eq_ok.1 hw
    have hparse : Matcher.parse? m.format = some m' := by
      simp only [Matcher.ofValue, Matcher.parseValue] at hm'
      split at hm'
      · next heq =>
        cases hm'
        exact heq
      · cases hm'
    rw [equal, beq_iff_eq] at hequal
    rw [hequal] at hparse ⊢
    exact Matcher.isReadable_of_parse hparse
  · intro hm
    exact ⟨matcher m, decode_encode_leaf rfl rfl hm, hself⟩

/-- What is read and compared part by part comes back just if each of its parts does. -/
theorem comesBack_iff_forall {α β : Type} {as : List α} {R S : α → β → Prop}
    (whole : List β → Value)
    (hread : ∀ w, ((v.encode style).decode t style).result = .ok w ↔
      ∃ bs, List.Forall₂ R as bs ∧ w = whole bs)
    (hequal : ∀ bs, List.Forall₂ R as bs →
      (v.equal (whole bs) = true ↔ List.Forall₂ S as bs)) :
    ComesBack style t v ↔ ∀ a ∈ as, ∃ b, R a b ∧ S a b := by
  rw [← exists_forall₂_iff]
  constructor
  · rintro ⟨w, hw, hvw⟩
    obtain ⟨bs, hbs, rfl⟩ := (hread w).1 hw
    exact ⟨bs, hbs, (hequal bs hbs).1 hvw⟩
  · rintro ⟨bs, hbs, hvw⟩
    exact ⟨whole bs, (hread _).2 ⟨bs, hbs, rfl⟩, (hequal bs hbs).2 hvw⟩

/-- Values come back just if each of them does. -/
theorem comesBack_list {items : List Value} :
    ComesBack style (.listOf t) (list items) ↔ ∀ v ∈ items, ComesBack style t v := by
  refine comesBack_iff_forall list (fun w => ?_) fun ws _ => by rw [equal, equalList_iff]
  rw [encode, encodeList_eq_map, decode_listOf (by simp)]
  show ((Logged.all _ >>= _).result = _) ↔ _
  simp only [result_bind_eq_ok, all_eq_ok_iff, List.forall₂_map_left_iff]
  exact exists_congr fun ws => and_congr_right fun _ =>
    ⟨fun h => (Except.ok.inj h).symm, fun h => by rw [h]; rfl⟩

/-- A mapping comes back just if what stands under each of its keys does. -/
theorem comesBack_map {entries : List (Value × Value)} (hkeys : DistinctTexts entries) :
    ComesBack style (.mapOf t) (map entries) ↔ ∀ e ∈ entries, ComesBack style t e.2 := by
  have hentry : ∀ e : Value × Value, ComesBack style t e.2 ↔
      ∃ e' : Value × Value, (e.1 = e'.1 ∧ ((e.2.encode style).decode t style).result = .ok e'.2) ∧
        e.2.equal e'.2 = true := by
    intro e
    constructor
    · rintro ⟨w, hw, hequal⟩
      exact ⟨(e.1, w), ⟨rfl, hw⟩, hequal⟩
    · rintro ⟨e', ⟨-, hw⟩, hequal⟩
      exact ⟨e'.2, hw, hequal⟩
  simp only [hentry]
  refine comesBack_iff_forall map (fun w => ?_) fun es hes =>
    equal_map_iff hkeys (hes.imp fun _ _ h => h.1)
  rw [encode, encodeEntries_of_distinct style hkeys,
    decode_mapOf_eq_ok_iff (distinctTexts_map hkeys (encode style))]
  simp only [List.forall₂_map_left_iff]

/-- A field that is written is read again, and a field that is not has its default. -/
theorem exists_fieldReads_iff {es : List (Value × Value)} {f : Field}
    (hgiven : Entity.givenAt? es (f.key style) =
      if f.isWritten v then some (v.encode style) else none) :
    (∃ w, Entity.FieldReads es style f w ∧ v.equal w = true) ↔
      f.isKept v = true ∧ (f.isWritten v = true → ComesBack style f.type v) := by
  simp only [Entity.FieldReads, hgiven, Field.isKept]
  cases f.isWritten v with
  | true => simp [ComesBack]
  | false => simp [Option.any_eq_true]

/-- An entity of a configuration comes back just if each of its fields does. -/
theorem comesBack_entity {kind : Kind} (hkind : kind ∈ Kind.configuration) {fields : List Value}
    (hlength : fields.length = kind.schema.fields.length) :
    ComesBack style (.entity kind) (entity kind fields) ↔
      ∀ p ∈ fields.zip kind.schema.fields, p.2.isKept p.1 = true ∧
        (p.2.isWritten p.1 = true → ComesBack style p.2.type p.1) := by
  have hkeyed := (Kind.faithful_of_mem_configuration hkind).toWellKeyed
  obtain ⟨henvelope, hstyle⟩ := Kind.bare_of_mem hkind
  have hencode : (entity kind fields).encode style =
      map (encodeFields style kind.schema.fields fields) := by
    simp [encode_entity hkeyed, Schema.envelopeEntries, henvelope, Schema.styleIn, hstyle]
  rw [forall₂_congr fun p hp => (exists_fieldReads_iff
    (Entity.givenAt?_encodeFields (hkeyed.keys_nodup style) hp)).symm]
  -- The fields and their values are the two sides of the list of both.
  refine comesBack_iff_forall (entity kind) (fun w => ?_) fun ws _ => ?_
  · rw [hencode, decode_entity (by simp)]
    simp only [Entity.readEntries_eq_ok_iff_of_mem hkind, forall₂_iff_zip_snd hlength]
  · rw [equal, beq_self_eq_true, Bool.true_and, equalList_iff, forall₂_iff_zip_fst hlength]

/-- What was taken as it is comes back. -/
theorem comesBack_of_isPlain (ht : t.isUnchecked = true) (hv : v.isPlain = true)
    (htext : t = .text → ∀ n, v ≠ .int n) : ComesBack style t v := by
  refine ⟨v, ?_, equal_self_of_isPlain hv⟩
  rw [encode_of_isPlain hv]
  by_cases hne : v = .null
  · subst hne
    cases t with
    | rule => cases ht
    | _ => rfl
  · cases t with
    | text =>
      rw [decode_scalar hne rfl]
      cases v with
      | int n => exact absurd rfl (htext rfl n)
      | float _ => cases hv
      | _ => rfl
    | flag | whole =>
      rw [decode_scalar hne rfl]
      rfl
    | _ => cases ht

/-- **A value that was read comes back** just if its plain data says all of it. -/
theorem comesBack_iff (h : IsRead t v) (ht : t.isDeclared = true) :
    ComesBack style t v ↔ IsWrittenInFull style v := by
  -- Of the values without parts only matchers can fail to come back.
  induction h with
  | null t =>
    refine iff_of_true ⟨null, ?_, by simp [equal]⟩ ⟨fun _ => rfl, rfl⟩
    cases t with
    | rule => cases ht
    | _ => rfl
  | @optional t v h ih =>
    have hnull := v.isNull_encode style
    rw [← ih ht, ComesBack, ComesBack]
    by_cases hne : v.encode style = .null
    · rw [hne]
      cases t with
      | rule => cases ht
      | _ => rfl
    · rw [decode_optional hne]
  | unchecked hunchecked hv htext =>
    exact iff_of_true (comesBack_of_isPlain hunchecked hv htext) (isWrittenInFull_of_isPlain hv)
  | @duration d hd =>
    have hmillis : (Value.duration d).isWholeMillis = true := hd
    refine iff_of_true ⟨.duration d, ?_, by simp [equal]⟩ ⟨fun _ => rfl, rfl⟩
    rw [decode_encode_leaf rfl rfl fun _ => rfl, truncated_eq_self hmillis]
  | secret s =>
    exact iff_of_true ⟨.secret s, decode_encode_leaf rfl rfl fun _ => rfl, by simp [equal]⟩
      ⟨fun _ => rfl, rfl⟩
  | @member c s hs =>
    refine iff_of_true ⟨.member c s, ?_, by simp [equal]⟩ ⟨fun _ => rfl, rfl⟩
    exact decode_encode_leaf rfl (by simp [fits, FieldType.inner, hs]) fun _ => rfl
  | matcher m =>
    rw [comesBack_matcher]
    exact (and_iff_left rfl).symm
  | @list t items h ih =>
    rw [comesBack_list, isWrittenInFull_list]
    exact forall₂_congr fun v hv => ih v hv ht
  | @map t entries hkeys h ih =>
    rw [comesBack_map hkeys, isWrittenInFull_map hkeys]
    exact forall₂_congr fun e he => ih e he ht
  | @entity kind fields hkind hlength h ih =>
    rw [comesBack_entity hkind hlength, isWrittenInFull_entity hlength]
    refine forall₂_congr fun p hp => and_congr_right fun _ => ?_
    -- What is not written is empty, so there is nothing in it that could be lost.
    have hfield := ih p hp (Kind.isDeclared_of_mem hkind _ (List.of_mem_zip hp).2)
    cases hw : p.2.isWritten p.1 with
    | true => rw [← hfield, eq_self, true_imp_iff]
    | false => exact iff_of_true (by simp) (isWrittenInFull_of_not_isWritten hw)

end Value

/-! ### Entities -/

namespace Entity

variable {kind : Kind} {style : Style}

/-- An entity is read from a mapping, nothing being the empty one. -/
theorem exists_map_of_read (hkind : kind ∈ Kind.configuration) {d x : Value} (hd : d.isPlain = true)
    (hx : (Entity.read kind d style).result = .ok x) :
    ∃ entries, (Value.map entries).isPlain = true ∧
      ((Value.map entries).decode (.entity kind) style).result = .ok x := by
  have hprojected := (Kind.faithful_of_mem_configuration hkind).isProjected
  have hgroup : ∀ kind ∈ Kind.configuration, (kind == .ruleGroup) = false := by decide
  cases d with
  | null =>
    refine ⟨[], rfl, ?_⟩
    simpa [Entity.read, hprojected, hgroup kind hkind, Value.decode, decodeBy, Value.decodeEntries] using hx
  | map entries =>
    rw [read_map hprojected] at hx
    exact ⟨entries, hd, hx⟩
  | list _ | bool _ | int _ | text _ =>
    simp only [Entity.read, hprojected, Bool.not_true, Bool.false_eq_true, if_false] at hx
    cases hx
  | _ => cases hd

/-- **What was read from plain data can be read again** just if its matchers can stand in texts,
where they are written as texts, and if what is not written of it are defaults. -/
theorem reread_iff (hkind : kind ∈ Kind.configuration) {d x : Value} (hd : d.isPlain = true)
    (hx : (Entity.read kind d style).result = .ok x) :
    (∃ y, (Entity.read kind (x.encode style) style).result = .ok y ∧ x.equal y = true) ↔
      (style = .snake → x.hasReadableMatchers = true) ∧ x.omitsDefaults = true := by
  have hdeclared : (FieldType.entity kind).isDeclared = true := List.contains_iff_mem.2 hkind
  obtain ⟨entries, hplain, hdecode⟩ := exists_map_of_read hkind hd hx
  have hread := Value.isRead_of_decode hplain hdeclared hdecode
  rw [Value.decode_entity (by simp)] at hdecode
  obtain ⟨fields, -, rfl⟩ := (readEntries_eq_ok_iff_of_mem hkind).1 hdecode
  have hkeyed := (Kind.faithful_of_mem_configuration hkind).toWellKeyed
  have hback : Value.ComesBack style (.entity kind) (.entity kind fields) ↔ _ :=
    Value.comesBack_iff hread hdeclared
  rw [Value.ComesBack, Value.encode_entity hkeyed] at hback
  rw [Value.encode_entity hkeyed, read_map hkeyed.isProjected]
  exact hback

/-- A number for a text, a text for the list of its characters, and zero for a truth value: what they
were read as is read again. -/
theorem reread_iff_numberedRoute :
    let d := Value.record [("receiver", .int 7), ("group_by", .text "ab"), ("continue", .int 0),
      ("group_wait", .text "1m30s"), ("matchers", .list [.text "team = a"])]
    Kind.route ∈ Kind.configuration ∧ d.isPlain = true ∧
      ∃ x, (Entity.read .route d .snake).result = .ok x ∧
        ∃ y, (Entity.read .route (x.encode .snake) .snake).result = .ok y ∧ x.equal y = true := by
  intro d
  have hkind : Kind.route ∈ Kind.configuration := by decide
  have hd : d.isPlain = true := by decide +kernel
  have hread : ((Entity.read .route d .snake).result.toOption.any fun x =>
      x.hasReadableMatchers && x.omitsDefaults) = true := by decide +kernel
  obtain ⟨x, hx, hfull⟩ := exists_of_toOption hread
  rw [Bool.and_eq_true] at hfull
  exact ⟨hkind, hd, x, hx, (reread_iff hkind hd hx).2 ⟨fun _ => hfull.1, hfull.2⟩⟩

/-- **What was read from plain data can be lost when it is read again.** A truth value that stands for
the name of a receiver is not written where it is false, and a matcher that is given as a mapping can
have a name that its text does not carry. -/
theorem reread_loses :
    let silent := Value.record [("receiver", .bool false)]
    let spaced := Value.record [("matchers", .list [.record [("name", .text "a b"),
      ("value", .text "c")]])]
    silent.isPlain = true ∧ spaced.isPlain = true ∧
      (∃ x, (Entity.read .route silent .snake).result = .ok x ∧
        ∃ y, (Entity.read .route (x.encode .snake) .snake).result = .ok y ∧ x.equal y = false) ∧
      ∃ x, (Entity.read .route spaced .snake).result = .ok x ∧
        ∀ y, (Entity.read .route (x.encode .snake) .snake).result ≠ .ok y := by
  intro silent spaced
  have hsilent : ((Entity.read .route silent .snake).result.toOption.any fun x =>
      (Entity.read .route (x.encode .snake) .snake).result.toOption.any fun y => !x.equal y) =
        true := by decide +kernel
  have hspaced : ((Entity.read .route spaced .snake).result.toOption.any fun x =>
      (Entity.read .route (x.encode .snake) .snake).result.toOption.isNone) = true := by
    decide +kernel
  obtain ⟨x, hx, hother⟩ := exists_of_toOption hsilent
  obtain ⟨y, hy, hne⟩ := exists_of_toOption hother
  obtain ⟨z, hz, hnone⟩ := exists_of_toOption hspaced
  refine ⟨by decide +kernel, by decide +kernel, ⟨x, hx, y, hy, by simpa using hne⟩, z, hz, ?_⟩
  intro w hw
  rw [hw] at hnone
  cases hnone

end Entity

end MonitoringConfig
