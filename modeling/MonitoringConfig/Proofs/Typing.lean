import Mathlib.Data.List.Forall2
import MonitoringConfig.Projection.Read
import MonitoringConfig.Proofs.Duration
import MonitoringConfig.Proofs.Matcher
/-!
# Values of declared types

A field holds any value; what it is declared to hold is said by `Value.fits`.

* `Value.induct` : induction over the parts of a value.
* `Value.fits` : a value is of a type, at every depth.
* `Value.induct_fits`, `Value.induct_made` : induction over the parts of a value with their types.
* `Value.everywhere` : something holds of all the scalars in a value.
* `FieldType.coerce_of_fits` : a value of its declared type is kept as it is when an entity is made
  of it, so `Entity.make?` gives the entity of its fields.
-/

namespace MonitoringConfig

namespace Value

/-! ### Parts of values -/

/-- Whether a value has no other values as parts. -/
def isLeaf : Value → Bool
  | list _ | tuple _ | set _ | map _ | entity .. => false
  | _ => true

mutual

/-- Induction over the parts of a value. -/
@[elab_as_elim]
theorem induct {P : Value → Prop} (leaf : ∀ v, v.isLeaf = true → P v)
    (list : ∀ items, (∀ v ∈ items, P v) → P (.list items))
    (tuple : ∀ items, (∀ v ∈ items, P v) → P (.tuple items))
    (set : ∀ items, (∀ v ∈ items, P v) → P (.set items))
    (map : ∀ entries, (∀ e ∈ entries, P e.1 ∧ P e.2) → P (.map entries))
    (entity : ∀ kind fields, (∀ v ∈ fields, P v) → P (.entity kind fields)) (v : Value) : P v :=
  match v with
  | .list items => list items (inductList leaf list tuple set map entity items)
  | .tuple items => tuple items (inductList leaf list tuple set map entity items)
  | .set items => set items (inductList leaf list tuple set map entity items)
  | .map entries => map entries (inductEntries leaf list tuple set map entity entries)
  | .entity kind fields =>
    entity kind fields (inductList leaf list tuple set map entity fields)
  | .null | .bool _ | .int _ | .float _ | .text _ | .duration _ | .timeSpan _ | .secret _
  | .matcher _ | .member .. | .expr _ | .date .. | .moment .. | .bytes _ | .error .. | .enclosing =>
    leaf _ rfl

theorem inductList {P : Value → Prop} (leaf : ∀ v, v.isLeaf = true → P v)
    (list : ∀ items, (∀ v ∈ items, P v) → P (.list items))
    (tuple : ∀ items, (∀ v ∈ items, P v) → P (.tuple items))
    (set : ∀ items, (∀ v ∈ items, P v) → P (.set items))
    (map : ∀ entries, (∀ e ∈ entries, P e.1 ∧ P e.2) → P (.map entries))
    (entity : ∀ kind fields, (∀ v ∈ fields, P v) → P (.entity kind fields)) :
    ∀ items : List Value, ∀ v ∈ items, P v
  | [] => fun _ h => absurd h List.not_mem_nil
  | v :: vs => List.forall_mem_cons.2 ⟨induct leaf list tuple set map entity v,
      inductList leaf list tuple set map entity vs⟩

theorem inductEntries {P : Value → Prop} (leaf : ∀ v, v.isLeaf = true → P v)
    (list : ∀ items, (∀ v ∈ items, P v) → P (.list items))
    (tuple : ∀ items, (∀ v ∈ items, P v) → P (.tuple items))
    (set : ∀ items, (∀ v ∈ items, P v) → P (.set items))
    (map : ∀ entries, (∀ e ∈ entries, P e.1 ∧ P e.2) → P (.map entries))
    (entity : ∀ kind fields, (∀ v ∈ fields, P v) → P (.entity kind fields)) :
    ∀ entries : List (Value × Value), ∀ e ∈ entries, P e.1 ∧ P e.2
  | [] => fun _ h => absurd h List.not_mem_nil
  | (k, v) :: rest => List.forall_mem_cons.2 ⟨⟨induct leaf list tuple set map entity k,
      induct leaf list tuple set map entity v⟩,
      inductEntries leaf list tuple set map entity rest⟩

end

end Value

/-! ### Types -/

/-- The type of the values that are there, for a type whose values may be missing. -/
def FieldType.inner : FieldType → FieldType
  | optional t => t.inner
  | t => t

/-- Whether a kind is a sort of rule. -/
def Kind.isRule : Kind → Bool
  | .recordingRule | .alertingRule => true
  | _ => false

namespace Value

mutual

/-- Whether a value is of a type, at every depth. The keys of a mapping are distinct texts, and an
entity has a value for each of its fields. -/
def fits : Value → FieldType → Bool
  | null, t => t.isOptional
  | bool _, t => t.inner == .flag
  | int _, t => t.inner == .whole
  | float _, t => t.inner == .real
  | text _, t => t.inner == .text
  | duration _, t => t.inner == .duration
  | secret _, t => t.inner == .secret
  | matcher _, t => t.inner == .matcher
  | member c s, t => t.inner == .choice c && c.holds s
  | list items, t => match t.inner with
    | .listOf item => fitsAll items item
    | _ => false
  | tuple items, t => match t.inner with
    | .tupleOf item => fitsAll items item
    | _ => false
  | map entries, t => match t.inner with
    | .mapOf item => fitsEntries entries item
    | _ => false
  | entity kind fields, t =>
    (t.inner == .entity kind || (t.inner == .rule && kind.isRule))
      && fitsFields fields kind.schema.fields
  | _, _ => false

/-- Whether all values are of a type. -/
def fitsAll : List Value → FieldType → Bool
  | [], _ => true
  | v :: vs, t => fits v t && fitsAll vs t

/-- Whether the keys of entries are distinct texts and their values of a type. -/
def fitsEntries : List (Value × Value) → FieldType → Bool
  | [], _ => true
  | (text k, v) :: rest, t =>
    rest.all (fun e => !(text k).equal e.1) && fits v t && fitsEntries rest t
  | _ :: _, _ => false

/-- Whether there is a value for every field, of its type. -/
def fitsFields : List Value → List Field → Bool
  | [], [] => true
  | v :: vs, f :: fs => fits v f.type && fitsFields vs fs
  | _, _ => false

end

attribute [local simp] fits fitsAll fitsEntries fitsFields FieldType.inner FieldType.isOptional

/-! ### Values of lists, mappings and entities -/

theorem fitsAll_iff {items : List Value} {t : FieldType} :
    fitsAll items t = true ↔ ∀ v ∈ items, v.fits t = true := by
  induction items with
  | nil => simp
  | cons v vs ih => simp [ih]

theorem fitsFields_iff {vs : List Value} {fs : List Field} :
    fitsFields vs fs = true ↔ List.Forall₂ (fun v f => v.fits f.type = true) vs fs := by
  induction vs generalizing fs with
  | nil => cases fs <;> simp
  | cons v vs ih => cases fs <;> simp [ih]

/-- Every value of an entity stands in a field and is of its type. -/
theorem exists_field_of_mem {vs : List Value} {fs : List Field} (h : fitsFields vs fs = true)
    {v : Value} (hv : v ∈ vs) : ∃ f ∈ fs, v.fits f.type = true := by
  induction fitsFields_iff.1 h with
  | nil => cases hv
  | @cons w f ws fs hw hws ih =>
    rcases List.mem_cons.1 hv with rfl | hv
    · exact ⟨f, List.mem_cons_self, hw⟩
    · obtain ⟨g, hg, hvg⟩ := ih (fitsFields_iff.2 hws) hv
      exact ⟨g, List.mem_cons_of_mem _ hg, hvg⟩

theorem fits_list {items : List Value} {t : FieldType} (h : (list items).fits t = true) :
    ∃ item, t.inner = .listOf item ∧ ∀ v ∈ items, v.fits item = true := by
  simp only [fits] at h
  split at h
  · next item hitem => exact ⟨item, hitem, fitsAll_iff.1 h⟩
  · cases h

theorem fits_tuple {items : List Value} {t : FieldType} (h : (tuple items).fits t = true) :
    ∃ item, t.inner = .tupleOf item ∧ ∀ v ∈ items, v.fits item = true := by
  simp only [fits] at h
  split at h
  · next item hitem => exact ⟨item, hitem, fitsAll_iff.1 h⟩
  · cases h

theorem fits_map {entries : List (Value × Value)} {t : FieldType}
    (h : (map entries).fits t = true) :
    ∃ item, t.inner = .mapOf item ∧ fitsEntries entries item = true := by
  simp only [fits] at h
  split at h
  · next item hitem => exact ⟨item, hitem, h⟩
  · cases h

theorem fits_entity {kind : Kind} {fields : List Value} {t : FieldType}
    (h : (entity kind fields).fits t = true) :
    (t.inner = .entity kind ∨ (t.inner = .rule ∧ kind.isRule = true)) ∧
      fitsFields fields kind.schema.fields = true := by
  simpa using h

/-- A value of a kind of entity is an entity of the kind. -/
theorem eq_entity_of_fits {v : Value} {kind : Kind} (h : v.fits (.entity kind) = true) :
    ∃ fields, v = entity kind fields ∧ fitsFields fields kind.schema.fields = true := by
  cases v with
  | entity k fields =>
    obtain ⟨hk, hfields⟩ := fits_entity h
    simp only [FieldType.inner, FieldType.entity.injEq, reduceCtorEq, false_and, or_false] at hk
    subst hk
    exact ⟨fields, rfl, hfields⟩
  | _ => cases h

theorem eq_list_of_fits {v : Value} {item : FieldType} (h : v.fits (.listOf item) = true) :
    ∃ items, v = list items ∧ ∀ w ∈ items, w.fits item = true := by
  cases v with
  | list items =>
    obtain ⟨item', hitem, hitems⟩ := fits_list h
    cases hitem
    exact ⟨items, rfl, hitems⟩
  | _ => cases h

theorem eq_map_of_fits {v : Value} {item : FieldType} (h : v.fits (.mapOf item) = true) :
    ∃ entries, v = map entries ∧ fitsEntries entries item = true := by
  cases v with
  | map entries =>
    obtain ⟨item', hitem, hentries⟩ := fits_map h
    cases hitem
    exact ⟨entries, rfl, hentries⟩
  | _ => cases h

theorem eq_text_of_fits {v : Value} (h : v.fits .text = true) : ∃ s, v = text s := by
  cases v with
  | text s => exact ⟨s, rfl⟩
  | _ => cases h

theorem eq_secret_of_fits {v : Value} (h : v.fits .secret = true) : ∃ s, v = secret s := by
  cases v with
  | secret s => exact ⟨s, rfl⟩
  | _ => cases h

theorem eq_matcher_of_fits {v : Value} (h : v.fits .matcher = true) : ∃ m, v = matcher m := by
  cases v with
  | matcher m => exact ⟨m, rfl⟩
  | _ => cases h

/-- The keys of entries are texts that differ from the keys behind them. -/
def DistinctTexts (entries : List (Value × Value)) : Prop :=
  (∀ e ∈ entries, ∃ k, e.1 = text k) ∧ entries.Pairwise fun a b => a.1.equal b.1 = false

theorem distinctTexts_cons {e : Value × Value} {rest : List (Value × Value)} :
    DistinctTexts (e :: rest) ↔
      ((∃ k, e.1 = text k) ∧ ∀ e' ∈ rest, e.1.equal e'.1 = false) ∧ DistinctTexts rest := by
  rw [DistinctTexts, DistinctTexts, List.forall_mem_cons, List.pairwise_cons, and_and_and_comm]

theorem fitsEntries_iff {entries : List (Value × Value)} {t : FieldType} :
    fitsEntries entries t = true ↔
      DistinctTexts entries ∧ ∀ e ∈ entries, e.2.fits t = true := by
  induction entries with
  | nil => simp [DistinctTexts]
  | cons e rest ih =>
    obtain ⟨k, v⟩ := e
    rw [distinctTexts_cons, List.forall_mem_cons, and_and_and_comm, ← ih]
    cases k with
    | text k => simp
    | _ => simp

/-- **Induction over the parts of a value of a type**, which are of the types that it names. -/
@[elab_as_elim]
theorem induct_fits {P : Value → FieldType → Prop}
    (leaf : ∀ v t, v.isLeaf = true → v.fits t = true → P v t)
    (list : ∀ items t item, t.inner = .listOf item → (∀ v ∈ items, v.fits item = true) →
      (∀ v ∈ items, P v item) → P (.list items) t)
    (tuple : ∀ items t item, t.inner = .tupleOf item → (∀ v ∈ items, v.fits item = true) →
      (∀ v ∈ items, P v item) → P (.tuple items) t)
    (map : ∀ entries t item, t.inner = .mapOf item → DistinctTexts entries →
      (∀ e ∈ entries, e.2.fits item = true) → (∀ e ∈ entries, P e.2 item) → P (.map entries) t)
    (entity : ∀ kind fields t, (t.inner = .entity kind ∨ (t.inner = .rule ∧ kind.isRule = true)) →
      fitsFields fields kind.schema.fields = true →
      (∀ v ∈ fields, ∀ t, v.fits t = true → P v t) → P (.entity kind fields) t)
    {v : Value} {t : FieldType} (h : v.fits t = true) : P v t := by
  induction v using Value.induct generalizing t with
  | leaf v hv => exact leaf v t hv h
  | set items _ => cases h
  | list items ih =>
    obtain ⟨item, hitem, hitems⟩ := fits_list h
    exact list items t item hitem hitems fun v hv => ih v hv (hitems v hv)
  | tuple items ih =>
    obtain ⟨item, hitem, hitems⟩ := fits_tuple h
    exact tuple items t item hitem hitems fun v hv => ih v hv (hitems v hv)
  | map entries ih =>
    obtain ⟨item, hitem, hentries⟩ := fits_map h
    obtain ⟨hkeys, hvalues⟩ := fitsEntries_iff.1 hentries
    exact map entries t item hitem hkeys hvalues fun e he => (ih e he).2 (hvalues e he)
  | entity kind fields ih =>
    obtain ⟨hkind, hfields⟩ := fits_entity h
    exact entity kind fields t hkind hfields fun v hv t hvt => ih v hv hvt

end Value

/-! ### Something of all scalars -/

namespace Value

mutual

/-- Whether something holds of all the values without parts that stand in a value. -/
def everywhere (p : Value → Bool) : Value → Bool
  | list items => everywhereIn p items
  | tuple items => everywhereIn p items
  | set items => everywhereIn p items
  | map entries => everywhereInEntries p entries
  | entity _ fields => everywhereIn p fields
  | v => p v

/-- Whether something holds everywhere in several values. -/
def everywhereIn (p : Value → Bool) : List Value → Bool
  | [] => true
  | v :: vs => everywhere p v && everywhereIn p vs

/-- Whether something holds everywhere in the keys and values of entries. -/
def everywhereInEntries (p : Value → Bool) : List (Value × Value) → Bool
  | [] => true
  | (k, v) :: rest => everywhere p k && everywhere p v && everywhereInEntries p rest

end

theorem everywhereIn_iff {p : Value → Bool} {vs : List Value} :
    everywhereIn p vs = true ↔ ∀ v ∈ vs, v.everywhere p = true := by
  induction vs with
  | nil => simp [everywhereIn]
  | cons v vs ih => simp [everywhereIn, ih]

theorem everywhereInEntries_iff {p : Value → Bool} {entries : List (Value × Value)} :
    everywhereInEntries p entries = true ↔
      ∀ e ∈ entries, e.1.everywhere p = true ∧ e.2.everywhere p = true := by
  induction entries with
  | nil => simp [everywhereInEntries]
  | cons e rest ih => simp [everywhereInEntries, ih, and_assoc]

/-- Whether every duration in a value is a whole number of milliseconds. -/
def isWholeMillis (v : Value) : Bool :=
  v.everywhere fun
    | duration d => d.isWholeMillis
    | _ => true

/-- Whether the name of every matcher in a value can stand in the text of a matcher. -/
def hasReadableMatchers (v : Value) : Bool :=
  v.everywhere fun
    | matcher m => m.isReadable
    | _ => true

end Value

/-! ### What a type keeps out of its values -/

namespace FieldType

/-- Whether a type is made of entities of some kinds and of scalars of some types. -/
def isMadeOf (kinds : List Kind) (scalar : FieldType → Bool) : FieldType → Bool
  | entity kind => kinds.contains kind
  | rule => kinds.contains .recordingRule && kinds.contains .alertingRule
  | listOf t | tupleOf t | mapOf t | optional t => t.isMadeOf kinds scalar
  | t => scalar t

variable {kinds : List Kind} {scalar : FieldType → Bool} {t item : FieldType}

theorem isMadeOf_inner (h : t.isMadeOf kinds scalar = true) :
    t.inner.isMadeOf kinds scalar = true := by
  induction t with
  | optional t ih => exact ih h
  | _ => exact h

/-- The items of a type are made of what the type is made of. -/
theorem isMadeOf_item (h : t.isMadeOf kinds scalar = true)
    (ht : t.inner = .listOf item ∨ t.inner = .tupleOf item ∨ t.inner = .mapOf item) :
    item.isMadeOf kinds scalar = true := by
  have hinner := isMadeOf_inner h
  rcases ht with ht | ht | ht
  all_goals
    rw [ht] at hinner
    exact hinner

/-- The kind of an entity of a type is one of those that the type is made of. -/
theorem mem_of_isMadeOf {kind : Kind} (h : t.isMadeOf kinds scalar = true)
    (ht : t.inner = .entity kind ∨ (t.inner = .rule ∧ kind.isRule = true)) : kind ∈ kinds := by
  have hinner := isMadeOf_inner h
  rcases ht with ht | ⟨ht, hrule⟩
  · rw [ht] at hinner
    simpa [isMadeOf] using hinner
  · rw [ht] at hinner
    simp only [isMadeOf, Bool.and_eq_true, List.contains_iff_mem] at hinner
    cases kind with
    | recordingRule => exact hinner.1
    | alertingRule => exact hinner.2
    | _ => cases hrule

end FieldType

/-- **Induction over the parts of a value of a type that is made of entities of some kinds**, the
fields of which are made of them again. -/
@[elab_as_elim]
theorem Value.induct_made {kinds : List Kind} {scalar : FieldType → Bool}
    {P : Value → FieldType → Prop}
    (hkinds : ∀ kind ∈ kinds, ∀ f ∈ kind.schema.fields, f.type.isMadeOf kinds scalar = true)
    (leaf : ∀ v t, v.isLeaf = true → t.isMadeOf kinds scalar = true → v.fits t = true → P v t)
    (list : ∀ items t item, t.inner = .listOf item → (∀ v ∈ items, v.fits item = true) →
      (∀ v ∈ items, P v item) → P (.list items) t)
    (tuple : ∀ items t item, t.inner = .tupleOf item → (∀ v ∈ items, v.fits item = true) →
      (∀ v ∈ items, P v item) → P (.tuple items) t)
    (map : ∀ entries t item, t.inner = .mapOf item → DistinctTexts entries →
      (∀ e ∈ entries, e.2.fits item = true) → (∀ e ∈ entries, P e.2 item) → P (.map entries) t)
    (entity : ∀ kind fields t, kind ∈ kinds →
      (t.inner = .entity kind ∨ (t.inner = .rule ∧ kind.isRule = true)) →
      fitsFields fields kind.schema.fields = true →
      (∀ v ∈ fields, ∀ f ∈ kind.schema.fields, v.fits f.type = true → P v f.type) →
        P (.entity kind fields) t)
    {v : Value} {t : FieldType} (ht : t.isMadeOf kinds scalar = true) (h : v.fits t = true) :
    P v t := by
  revert ht
  refine induct_fits ?leaf ?list ?tuple ?map ?entity h
  case leaf => exact fun v t hv h ht => leaf v t hv ht h
  case list =>
    intro items t item hitem hitems ih ht
    have hmade := FieldType.isMadeOf_item ht (.inl hitem)
    exact list items t item hitem hitems fun v hv => ih v hv hmade
  case tuple =>
    intro items t item hitem hitems ih ht
    have hmade := FieldType.isMadeOf_item ht (.inr (.inl hitem))
    exact tuple items t item hitem hitems fun v hv => ih v hv hmade
  case map =>
    intro entries t item hitem hkeys hvalues ih ht
    have hmade := FieldType.isMadeOf_item ht (.inr (.inr hitem))
    exact map entries t item hitem hkeys hvalues fun e he => ih e he hmade
  case entity =>
    intro kind fields t hkind hfields ih ht
    have hmem := FieldType.mem_of_isMadeOf ht hkind
    exact entity kind fields t hmem hkind hfields fun v hv f hf hvf =>
      ih v hv f.type hvf (hkinds kind hmem f hf)

/-- **What a type keeps out of its values stands nowhere in them.** -/
theorem Value.everywhere_of_fits {p : Value → Bool} {kinds : List Kind}
    {scalar : FieldType → Bool}
    (hkinds : ∀ kind ∈ kinds, ∀ f ∈ kind.schema.fields, f.type.isMadeOf kinds scalar = true)
    (hnull : p .null = true) (htext : ∀ s, p (.text s) = true)
    (hp : ∀ v t, v.isLeaf = true → v.fits t = true → scalar t.inner = true → p v = true)
    {v : Value} {t : FieldType} (ht : t.isMadeOf kinds scalar = true) (h : v.fits t = true) :
    v.everywhere p = true := by
  refine induct_made hkinds ?leaf ?list ?tuple ?map ?entity ht h
  case leaf =>
    intro v t hv ht h
    have hinner := FieldType.isMadeOf_inner ht
    cases v with
    | null => exact hnull
    | bool _ | int _ | float _ | text _ | duration _ | secret _ | matcher _ | member _ _ =>
      have htype := h
      simp only [fits, Bool.and_eq_true, beq_iff_eq] at htype
      simp only [htype, FieldType.isMadeOf] at hinner
      exact hp _ t hv h (by simpa only [htype] using hinner)
    | list _ | tuple _ | set _ | map _ | entity _ _ => cases hv
    | _ => cases h
  case list | tuple => exact fun items t item _ _ ih => everywhereIn_iff.2 ih
  case map =>
    intro entries t item _ hkeys _ ih
    refine everywhereInEntries_iff.2 fun e he => ⟨?_, ih e he⟩
    obtain ⟨k, hk⟩ := hkeys.1 e he
    rw [hk]
    exact htext k
  case entity =>
    intro kind fields t _ _ hfields ih
    refine everywhereIn_iff.2 fun v hv => ?_
    -- A value of the entity stands in one of its fields, and is of the type of that field.
    obtain ⟨f, hf, hvf⟩ := exists_field_of_mem hfields hv
    exact ih v hv f hf hvf

/-! ### Making entities of values of their types -/

theorem Value.eq_null_of_isNull {v : Value} (h : v.isNull = true) : v = null := by
  cases v with
  | null => rfl
  | _ => cases h

theorem FieldType.coerce_null (t : FieldType) : t.coerce .null = .ok .null := by
  cases t <;> rfl

theorem FieldType.coerce_inner (t : FieldType) {v : Value} (hv : v ≠ .null) :
    t.coerce v = t.inner.coerce v := by
  induction t with
  | optional t ih =>
    rw [FieldType.inner, ← ih]
    exact FieldType.coerce.eq_2 v t hv
  | _ => rfl

/-- What succeeds one after the other gives the values one after the other. -/
theorem mapM_eq_ok {α β : Type} {f : α → Except Failure β} {g : α → β} {as : List α}
    (h : ∀ a ∈ as, f a = .ok (g a)) : as.mapM f = .ok (as.map g) := by
  induction as with
  | nil => rfl
  | cons a as ih =>
    rw [List.mapM_cons, h a List.mem_cons_self,
      ih fun b hb => h b (List.mem_cons_of_mem _ hb)]
    rfl

/-- A computation that succeeds has succeeded in each of its parts. -/
theorem bind_eq_ok {α β : Type} {x : Except Failure α} {f : α → Except Failure β} {b : β} :
    (x >>= f) = .ok b ↔ ∃ a, x = .ok a ∧ f a = .ok b := by
  cases x <;> simp [bind, Except.bind]

theorem exists_bind_eq_ok {α β : Type} {x : Except Failure α} {f : α → Except Failure β} :
    (∃ b, (x >>= f) = .ok b) ↔ ∃ a, x = .ok a ∧ ∃ b, f a = .ok b := by
  simp only [bind_eq_ok]
  exact exists_comm.trans (exists_congr fun a => exists_and_left)

/-- Several computations succeed just if each of them does. -/
theorem mapM_eq_ok_iff {α β : Type} {f : α → Except Failure β} {as : List α} {bs : List β} :
    as.mapM f = .ok bs ↔ List.Forall₂ (fun a b => f a = .ok b) as bs := by
  induction as generalizing bs with
  | nil =>
    rw [List.mapM_nil, List.forall₂_nil_left_iff]
    exact ⟨fun h => (Except.ok.inj h).symm, fun h => by rw [h]; rfl⟩
  | cons a as ih =>
    rw [List.mapM_cons, List.forall₂_cons_left_iff, bind_eq_ok]
    constructor
    · rintro ⟨b, hb, h⟩
      obtain ⟨bs', hbs, h⟩ := bind_eq_ok.1 h
      exact ⟨b, bs', hb, ih.1 hbs, (Except.ok.inj h).symm⟩
    · rintro ⟨b, bs', hb, hbs, rfl⟩
      exact ⟨b, hb, bind_eq_ok.2 ⟨bs', ih.2 hbs, rfl⟩⟩

theorem exists_mapM_eq_ok {ε α β : Type} {f : α → Except ε β} {as : List α}
    (h : ∀ a ∈ as, ∃ b, f a = .ok b) : ∃ bs, as.mapM f = .ok bs := by
  induction as with
  | nil => exact ⟨[], rfl⟩
  | cons a as ih =>
    obtain ⟨b, hb⟩ := h a List.mem_cons_self
    obtain ⟨bs, hbs⟩ := ih fun a' ha' => h a' (List.mem_cons_of_mem _ ha')
    rw [List.mapM_cons, hb, hbs]
    exact ⟨b :: bs, rfl⟩

/-- **A value of its declared type is kept as it is.** -/
theorem FieldType.coerce_of_fits {v : Value} {t : FieldType} (h : v.fits t = true) :
    t.coerce v = .ok v := by
  refine Value.induct_fits ?leaf ?list ?tuple ?map ?entity h
  case leaf =>
    intro v t hv h
    cases v with
    | null => exact coerce_null t
    | bool _ | int _ | float _ | text _ | duration _ | secret _ | matcher _ | member _ _ =>
      simp only [Value.fits, Bool.and_eq_true, beq_iff_eq] at h
      rw [coerce_inner t (by simp)]
      simp only [h]
      rfl
    | list _ | tuple _ | set _ | map _ | entity _ _ => cases hv
    | _ => cases h
  case list =>
    intro items t item hitem _ ih
    rw [coerce_inner t (by simp), hitem, coerce, mapM_eq_ok ih, List.map_id']
    rfl
  case tuple =>
    intro items t item hitem _ _
    rw [coerce_inner t (by simp), hitem]
    rfl
  case map =>
    intro entries t item hitem _ _ _
    rw [coerce_inner t (by simp), hitem]
    rfl
  case entity =>
    intro kind fields t hkind _ _
    obtain hinner | ⟨hinner, -⟩ := hkind
    all_goals
      rw [coerce_inner t (by simp), hinner]
      rfl

theorem coerceFields_of_fits {vs : List Value} {fs : List Field}
    (h : Value.fitsFields vs fs = true) : coerceFields fs vs = .ok vs := by
  induction Value.fitsFields_iff.1 h with
  | nil => rfl
  | @cons v f vs fs hv hvs ih =>
    have hrest := ih (Value.fitsFields_iff.2 hvs)
    rw [coerceFields, FieldType.coerce_of_fits hv, hrest]
    rfl

/-- Only an expression is rendered, and no field is declared to hold one. -/
theorem renderExpr_of_fits {v : Value} {t : FieldType} (h : v.fits t = true) :
    renderExpr v = .ok v := by
  cases v with
  | expr e => cases h
  | _ => rfl

theorem mapM_renderExpr {vs : List Value} {fs : List Field} (h : Value.fitsFields vs fs = true)
    (name : String) :
    ((fs.zip vs).mapM fun (f, v) => if f.name == name then renderExpr v else pure v) =
      .ok vs := by
  induction Value.fitsFields_iff.1 h with
  | nil => rfl
  | @cons v f vs fs hv hvs ih =>
    have hrest := ih (Value.fitsFields_iff.2 hvs)
    have hhead : (if f.name == name then renderExpr v else pure v) = .ok v := by
      split
      · exact renderExpr_of_fits hv
      · rfl
    simp only [List.zip_cons_cons, List.mapM_cons, hhead, hrest]
    rfl

/-- **An entity is made of the values of its fields**, if these are of their types. -/
theorem Entity.make_of_fits {kind : Kind} {fields : List Value} (hkind : kind.isProjected = true)
    (h : Value.fitsFields fields kind.schema.fields = true) :
    Entity.make? kind fields = .ok (.entity kind fields) := by
  rw [Entity.make?]
  cases exprField? kind with
  | none =>
    simp only [pure_bind, hkind, if_true, coerceFields_of_fits h]
    rfl
  | some name =>
    simp only [mapM_renderExpr h, hkind, if_true]
    simp only [bind, Except.bind, coerceFields_of_fits h]
    rfl

end MonitoringConfig
