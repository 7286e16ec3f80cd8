import MonitoringConfig.Proofs.Projection.Reading
/-!
# What plain data is read as

Reading checks little: where a text, a number or a truth value is declared, any plain data is taken
as it is.

* `Value.isPlain` : plain data, as it stands in a document.
* `Value.IsRead` : the values that plain data can be read as.
* `Value.isRead_of_decode` : **every value that is read from plain data is such.**
-/

namespace MonitoringConfig

open Logged

/-! ### Plain data -/

namespace Value

mutual

/-- Whether a value is plain data: nothing, a truth value, a whole number or a text, or a list or a
mapping of such with distinct texts as keys. -/
def isPlain : Value → Bool
  | null | bool _ | int _ | text _ => true
  | list items => isPlainAll items
  | map entries => isPlainEntries entries
  | _ => false

/-- Whether all values are plain data. -/
def isPlainAll : List Value → Bool
  | [] => true
  | v :: vs => isPlain v && isPlainAll vs

/-- Whether the keys of entries are distinct texts and their values plain data. -/
def isPlainEntries : List (Value × Value) → Bool
  | [] => true
  | (text k, v) :: rest =>
    rest.all (fun e => !(text k).equal e.1) && isPlain v && isPlainEntries rest
  | _ :: _ => false

end

theorem isPlainAll_iff {items : List Value} :
    isPlainAll items = true ↔ ∀ v ∈ items, v.isPlain = true := by
  induction items with
  | nil => simp [isPlainAll]
  | cons v vs ih => simp [isPlainAll, ih]

theorem isPlainEntries_iff {entries : List (Value × Value)} :
    isPlainEntries entries = true ↔
      DistinctTexts entries ∧ ∀ e ∈ entries, e.2.isPlain = true := by
  induction entries with
  | nil => simp [isPlainEntries, DistinctTexts]
  | cons e rest ih =>
    obtain ⟨k, v⟩ := e
    rw [distinctTexts_cons, List.forall_mem_cons, and_and_and_comm, ← ih]
    cases k with
    | text k => simp [isPlainEntries]
    | _ => simp [isPlainEntries]

/-- Induction over plain data. -/
@[elab_as_elim]
theorem inductPlain {P : Value → Prop} (null : P .null) (bool : ∀ b, P (.bool b))
    (int : ∀ n, P (.int n)) (text : ∀ s, P (.text s))
    (list : ∀ items, (∀ v ∈ items, P v) → P (.list items))
    (map : ∀ entries, DistinctTexts entries → (∀ e ∈ entries, P e.2) → P (.map entries))
    {d : Value} (hd : d.isPlain = true) : P d := by
  induction d using Value.induct with
  | leaf d hleaf =>
    cases d with
    | null => exact null
    | bool b => exact bool b
    | int n => exact int n
    | text s => exact text s
    | list _ | map _ => cases hleaf
    | _ => cases hd
  | tuple _ _ | set _ _ | entity _ _ _ => cases hd
  | list items ih => exact list items fun v hv => ih v hv (isPlainAll_iff.1 hd v hv)
  | map entries ih =>
    obtain ⟨hkeys, hvalues⟩ := isPlainEntries_iff.1 hd
    exact map entries hkeys fun e he => (ih e he).2 (hvalues e he)

/-- The items of plain data are plain data: those of a list, the keys of a mapping, and the
characters of a text. -/
theorem isPlain_of_mem_items {d : Value} (hd : d.isPlain = true) {ds : List Value}
    (hds : d.items? = some ds) {v : Value} (hv : v ∈ ds) : v.isPlain = true := by
  refine forall_mem_items (P := fun v => v.isPlain = true) hds ?_ ?_ (fun _ => rfl) (fun _ => rfl)
    v hv
  · rintro items (rfl | rfl | rfl)
    · exact isPlainAll_iff.1 hd
    · cases hd
    · cases hd
  · rintro entries rfl e he
    obtain ⟨k, hk⟩ := (isPlainEntries_iff.1 hd).1.1 e he
    rw [hk]
    rfl

end Value

/-! ### What is read -/

namespace FieldType

/-- Whether any plain data is taken as a value of a type. -/
def isUnchecked : FieldType → Bool
  | text | flag | whole => true
  | _ => false

/-- Whether a type is one that the fields of configurations are declared with. -/
def isDeclared : FieldType → Bool
  | text | flag | whole | duration | secret | matcher | choice _ => true
  | entity kind => Kind.configuration.contains kind
  | listOf t | mapOf t | optional t => t.isDeclared
  | _ => false

end FieldType

theorem Kind.isDeclared_of_mem {kind : Kind} (h : kind ∈ configuration) :
    ∀ f ∈ kind.schema.fields, f.type.isDeclared = true := by
  revert kind
  decide

namespace Value

/-- The values that plain data can be read as. Durations, secrets, matchers and members of choices
are of their types, but where a text, a number or a truth value is declared there can be any plain
data, and everywhere there can be nothing. -/
inductive IsRead : FieldType → Value → Prop
  | null (t : FieldType) : IsRead t .null
  | optional {t : FieldType} {v : Value} (h : IsRead t v) : IsRead (.optional t) v
  /-- A number that stands for a text is written out. -/
  | unchecked {t : FieldType} {v : Value} (ht : t.isUnchecked = true) (hv : v.isPlain = true)
      (htext : t = .text → ∀ n, v ≠ .int n) : IsRead t v
  | duration {d : Duration} (h : d.isWholeMillis = true) : IsRead .duration (.duration d)
  | secret (s : Secret) : IsRead .secret (.secret s)
  | matcher (m : Matcher) : IsRead .matcher (.matcher m)
  | member {c : Choice} {s : String} (h : c.holds s = true) : IsRead (.choice c) (.member c s)
  | list {t : FieldType} {items : List Value} (h : ∀ v ∈ items, IsRead t v) :
      IsRead (.listOf t) (.list items)
  | map {t : FieldType} {entries : List (Value × Value)} (hkeys : DistinctTexts entries)
      (h : ∀ e ∈ entries, IsRead t e.2) : IsRead (.mapOf t) (.map entries)
  | entity {kind : Kind} {fields : List Value} (hkind : kind ∈ Kind.configuration)
      (hlength : fields.length = kind.schema.fields.length)
      (h : ∀ p ∈ fields.zip kind.schema.fields, IsRead p.2.type p.1) :
      IsRead (.entity kind) (.entity kind fields)

variable {d v : Value} {t : FieldType} {style : Style}

/-- What stands for a duration, a secret, a matcher or a member of a choice is read as such, and
what stands for a text, a number or a truth value is taken as it is. -/
theorem isRead_of_decodeScalar (hd : d.isPlain = true) (ht : t.isDeclared = true)
    (hscalar : t.isScalar = true) (h : (decodeScalar d t).result = .ok v) : IsRead t v := by
  cases t with
  | duration =>
    obtain ⟨x, hx, rfl⟩ := map_eq_ok.1 h
    have hread : Duration.read d.shown = .ok x := by
      cases d with
      | duration _ => cases hd
      | _ => exact hx
    rw [Duration.read] at hread
    split at hread
    · next x' hparse =>
      cases hread
      exact .duration (Duration.isWholeMillis_of_parse hparse)
    · cases hread
    · cases hread
  | secret =>
    cases h
    exact .secret _
  | matcher =>
    obtain ⟨m, -, rfl⟩ := map_eq_ok.1 h
    exact .matcher m
  | choice c =>
    simp only [decodeScalar, result_ofExcept, Choice.memberOf] at h
    split at h
    · split at h
      · next hholds =>
        cases h
        exact .member hholds
      · cases h
    · cases h
  | text =>
    cases d with
    -- A number is written out where a text is declared.
    | int n =>
      cases h
      exact .unchecked rfl rfl fun _ _ => Value.noConfusion
    | null | bool _ | text _ | list _ | map _ =>
      cases h
      exact .unchecked rfl hd fun _ _ => Value.noConfusion
    | _ => cases hd
  | flag | whole =>
    cases h
    exact .unchecked rfl hd (by simp)
  | any | oneOf | real => cases ht
  | _ => cases hscalar

/-- What is read as a list of the items of plain data is a list of what they are read as. -/
theorem isRead_of_decode_listOf (hne : d ≠ null)
    (hitems : ∀ ds, d.items? = some ds → ∀ d' ∈ ds, ∀ v, (d'.decode t style).result = .ok v →
      IsRead t v) (h : (d.decode (.listOf t) style).result = .ok v) : IsRead (.listOf t) v := by
  obtain ⟨ds, vs, hds, rfl, hvs⟩ := exists_of_decode_listOf hne h
  refine .list fun v hv => ?_
  obtain ⟨i, hi, rfl⟩ := List.mem_iff_getElem.1 hv
  have hi' : i < ds.length := hvs.length_eq ▸ hi
  exact hitems ds hds _ (List.getElem_mem hi') _ (hvs.get hi' hi)

/-- Truth values, numbers and texts are read as what they are declared to be. -/
theorem isRead_of_decode_leaf (hleaf : d.isLeaf = true) (hd : d.isPlain = true)
    (ht : t.isDeclared = true) (h : (d.decode t style).result = .ok v) : IsRead t v := by
  induction t generalizing d v with
  | optional t ih =>
    by_cases hne : d = null
    · subst hne
      rw [eq_null_of_decode h]
      exact .null _
    · rw [decode_optional hne] at h
      exact .optional (ih hleaf hd ht h)
  | listOf t ih =>
    by_cases hne : d = null
    · subst hne
      rw [eq_null_of_decode h]
      exact .null _
    · refine isRead_of_decode_listOf hne (fun ds hds d' hd' v h => ?_) h
      refine ih ?_ (isPlain_of_mem_items hd hds hd') ht h
      -- Of the values without parts only texts have items, which are texts.
      cases d with
      | text s =>
        cases hds
        obtain ⟨c, -, rfl⟩ := List.mem_map.1 hd'
        rfl
      | null | bool _ | int _ => cases hds
      | list _ | map _ => cases hleaf
      | _ => cases hd
  | mapOf t _ | entity kind =>
    cases d with
    | null =>
      rw [eq_null_of_decode h]
      exact .null _
    | list _ | map _ => cases hleaf
    | bool _ | int _ | text _ => cases h
    | _ => cases hd
  | _ =>
    by_cases hne : d = null
    · subst hne
      rw [eq_null_of_decode h]
      exact .null _
    · rw [decode_scalar hne (by first | rfl | cases ht)] at h
      exact isRead_of_decodeScalar hd ht (by first | rfl | cases ht) h

/-- What is empty of a type can be read. -/
theorem isRead_of_isOnlyEmpty (h : v.isOnlyEmpty t = true) : IsRead t v := by
  unfold isOnlyEmpty at h
  split at h
  · exact .unchecked rfl rfl fun _ _ => Value.noConfusion
  · exact .unchecked rfl rfl fun h => nomatch h
  · exact .unchecked rfl rfl fun h => nomatch h
  · rw [List.isEmpty_iff.1 h]
    exact .list fun v hv => absurd hv List.not_mem_nil
  · rw [List.isEmpty_iff.1 h]
    refine .map ⟨?_, List.Pairwise.nil⟩ ?_ <;> exact fun e he => absurd he List.not_mem_nil
  · cases h

/-- What the fields of a configuration are by default can be read. -/
theorem isRead_of_default {kind : Kind} (hkind : kind ∈ Kind.configuration) {f : Field}
    (hf : f ∈ kind.schema.fields) (hv : f.default? = some v) : IsRead f.type v := by
  have hdefaults : ∀ kind ∈ Kind.configuration, ∀ f ∈ kind.schema.fields, f.default?.all
      (fun d => d.isNull || d.isOnlyEmpty f.type || (f.type.isUnchecked && d.fits .flag)) = true := by
    decide
  have hdefault := hdefaults kind hkind f hf
  simp only [hv, Option.all_some, Bool.or_eq_true, Bool.and_eq_true] at hdefault
  rcases hdefault with (hnull | hempty) | ⟨hunchecked, hflag⟩
  · cases v with
    | null => exact .null _
    | _ => cases hnull
  · exact isRead_of_isOnlyEmpty hempty
  · cases v with
    | bool b => exact .unchecked hunchecked rfl fun _ _ => Value.noConfusion
    | list _ | tuple _ | map _ | entity _ _ => simp [fits, FieldType.inner] at hflag
    | member _ _ => simp [fits, FieldType.inner] at hflag
    | _ => cases hflag

/-- A mapping can be read if its values can. -/
theorem isRead_of_decode_mapOf {entries : List (Value × Value)} (hkeys : DistinctTexts entries)
    (hread : ∀ e ∈ entries, ∀ w, (e.2.decode t style).result = .ok w → IsRead t w)
    (h : ((map entries).decode (.mapOf t) style).result = .ok v) : IsRead (.mapOf t) v := by
  obtain ⟨es, hes, rfl⟩ := (decode_mapOf_eq_ok_iff hkeys).1 h
  refine .map (distinctTexts_of_keys (map_fst_eq hes) hkeys) fun e' he' => ?_
  obtain ⟨i, hi, rfl⟩ := List.mem_iff_getElem.1 he'
  have hi' : i < entries.length := hes.length_eq ▸ hi
  exact hread _ (List.getElem_mem hi') _ (hes.get hi' hi).2

/-- An entity can be read if what is given for its fields can: the rest is by default. -/
theorem isRead_of_decode_entity {entries : List (Value × Value)} {kind : Kind}
    (hkind : kind ∈ Kind.configuration)
    (hread : ∀ e ∈ entries, ∀ f ∈ kind.schema.fields, ∀ w,
      (e.2.decode f.type style).result = .ok w → IsRead f.type w)
    (h : ((map entries).decode (.entity kind) style).result = .ok v) : IsRead (.entity kind) v := by
  rw [decode_entity (by simp)] at h
  obtain ⟨ws, hws, rfl⟩ := (Entity.readEntries_eq_ok_iff_of_mem hkind).1 h
  refine .entity hkind hws.length_eq.symm fun p hp => ?_
  have hf : p.2 ∈ kind.schema.fields := (List.of_mem_zip hp).2
  have hfield : Entity.FieldReads entries style p.2 p.1 := List.forall₂_zip hws.flip hp
  rw [Entity.FieldReads] at hfield
  split at hfield
  · next v' hv' =>
    obtain ⟨e, he, rfl⟩ := Entity.exists_of_givenAt? hv'
    exact hread e he p.2 hf p.1 hfield
  · exact isRead_of_default hkind hf hfield

/-- **What plain data is read as is of its type**, save for what is taken as it is. -/
theorem isRead_of_decode (hd : d.isPlain = true) (ht : t.isDeclared = true)
    (h : (d.decode t style).result = .ok v) : IsRead t v := by
  -- The induction is on the data. A type whose values may be missing does not take the data apart, so
  -- in the cases with parts there is one on the type inside.
  induction d using Value.induct generalizing t v with
  | leaf d hleaf => exact isRead_of_decode_leaf hleaf hd ht h
  | tuple _ _ | set _ _ | entity _ _ _ => cases hd
  | list items ih =>
    have hitems := isPlainAll_iff.1 hd
    induction t generalizing v with
    | optional t iht =>
      rw [decode_optional (by simp)] at h
      exact .optional (iht ht h)
    | listOf t _ =>
      refine isRead_of_decode_listOf (by simp) (fun ds hds d' hd' v h => ?_) h
      cases hds
      exact ih d' hd' (hitems d' hd') ht h
    | mapOf t _ | entity kind => cases h
    | _ =>
      rw [decode_scalar (by simp) (by first | rfl | cases ht)] at h
      exact isRead_of_decodeScalar hd ht (by first | rfl | cases ht) h
  | map entries ih =>
    obtain ⟨hkeys, hvalues⟩ := isPlainEntries_iff.1 hd
    induction t generalizing v with
    | optional t iht =>
      rw [decode_optional (by simp)] at h
      exact .optional (iht ht h)
    | listOf t _ =>
      refine isRead_of_decode_listOf (by simp) (fun ds hds d' hd' v h => ?_) h
      have hplain := isPlain_of_mem_items hd hds hd'
      cases hds
      obtain ⟨e, he, rfl⟩ := List.mem_map.1 hd'
      exact (ih e he).1 hplain ht h
    | mapOf t _ =>
      exact isRead_of_decode_mapOf hkeys (fun e he w hw => (ih e he).2 (hvalues e he) ht hw) h
    | entity kind =>
      have hkind : kind ∈ Kind.configuration := List.contains_iff_mem.1 ht
      refine isRead_of_decode_entity hkind (fun e he f hf w hw => ?_) h
      exact (ih e he).2 (hvalues e he) (Kind.isDeclared_of_mem hkind f hf) hw
    | _ =>
      rw [decode_scalar (by simp) (by first | rfl | cases ht)] at h
      exact isRead_of_decodeScalar hd ht (by first | rfl | cases ht) h

end Value

end MonitoringConfig
