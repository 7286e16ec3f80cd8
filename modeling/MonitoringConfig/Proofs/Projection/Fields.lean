import MonitoringConfig.Projection.Write
import MonitoringConfig.Proofs.Typing
/-!
# Fields in mappings

An entity is written as the mapping of those of its fields that are worth writing, and read from it
field by field.

* `Value.insertEntries_of_distinct` : entries with distinct keys make up a mapping as they are.
* `Entity.entry_encodeFields` : every field that is written is found again under its key, and no
  other is.
* `Entity.readFields_of_comesFrom` : the fields that are found are read as they were written.
* `Entity.lookup_written_getD` : the fields that are not written come back as their defaults.
-/

namespace MonitoringConfig

open Logged

/-! ### Mappings of distinct keys -/

namespace Value

theorem insertEntry_eq (entries : List (Value × Value)) (key value : Value) :
    insertEntry entries key value =
      if entries.any (·.1.equal key) then
        entries.map fun e => if e.1.equal key then (e.1, value) else e
      else entries ++ [(key, value)] := rfl

/-- A key that is there already keeps its place; only what it holds changes. -/
theorem keys_replaced (entries : List (Value × Value)) (key value : Value) :
    (entries.map fun e => if e.1.equal key then (e.1, value) else e).map (·.1) =
      entries.map (·.1) := by
  rw [List.map_map]
  refine List.map_congr_left fun e _ => ?_
  simp only [Function.comp_apply]
  split <;> rfl

theorem insertEntries_append {entries more : List (Value × Value)}
    (h : (entries ++ more).Pairwise fun a b => a.1.equal b.1 = false) :
    insertEntries entries more = entries ++ more := by
  induction more generalizing entries with
  | nil => simp [insertEntries]
  | cons e more ih =>
    obtain ⟨k, v⟩ := e
    have hnew : entries.any (·.1.equal k) = false := by
      rw [List.any_eq_false]
      intro a ha
      simpa using List.pairwise_append.1 h |>.2.2 a ha (k, v) List.mem_cons_self
    have hstep : insertEntry entries k v = entries ++ [(k, v)] := by
      simp [insertEntry_eq, hnew]
    have hrest : insertEntries (entries ++ [(k, v)]) more = (entries ++ [(k, v)]) ++ more :=
      ih (by simpa using h)
    simp only [insertEntries, List.foldl_cons, hstep] at hrest ⊢
    rw [hrest, List.append_assoc]
    rfl

/-- Entries with distinct keys make up a mapping as they are. -/
theorem insertEntries_of_distinct {entries : List (Value × Value)}
    (h : entries.Pairwise fun a b => a.1.equal b.1 = false) : insertEntries [] entries = entries :=
  insertEntries_append (by simpa using h)

@[simp] theorem equal_text (s t : String) : (text s).equal (text t) = (s == t) := by
  simp [equal]

@[simp] theorem shown_text (s : String) : (text s).shown = s := rfl

/-! ### Parts one by one -/

theorem encodeList_eq_map (style : Style) (vs : List Value) :
    encodeList style vs = vs.map (encode style) := by
  induction vs with
  | nil => rfl
  | cons v vs ih => rw [encodeList, ih, List.map_cons]

theorem encodeEntries_eq_map (style : Style) (entries : List (Value × Value)) :
    encodeEntries style entries = entries.map fun e => (text e.1.shown, encode style e.2) := by
  induction entries with
  | nil => rfl
  | cons e rest ih => rw [encodeEntries, ih, List.map_cons]

theorem decodeItems_eq_map (vs : List Value) : decodeItems vs = vs.map decode := by
  induction vs with
  | nil => rfl
  | cons v vs ih => rw [decodeItems, ih, List.map_cons]

theorem decodeEntries_eq_map (entries : List (Value × Value)) :
    decodeEntries entries = entries.map fun e => ⟨e.1, e.2, decode e.1, decode e.2⟩ := by
  induction entries with
  | nil => rfl
  | cons e rest ih => rw [decodeEntries, ih, List.map_cons]

/-- The entries of a mapping with distinct texts as keys keep their keys. -/
theorem encodeEntries_of_distinct (style : Style) {entries : List (Value × Value)}
    (h : DistinctTexts entries) :
    insertEntries [] (encodeEntries style entries) =
      entries.map fun e => (e.1, encode style e.2) := by
  have hkeys : encodeEntries style entries = entries.map fun e => (e.1, encode style e.2) := by
    rw [encodeEntries_eq_map]
    refine List.map_congr_left fun e he => ?_
    obtain ⟨k, hk⟩ := h.1 e he
    rw [hk, shown_text]
  rw [hkeys]
  exact insertEntries_of_distinct (List.pairwise_map.2 h.2)

end Value

/-! ### Results of lists -/

namespace Logged

theorem result_map {α β : Type} (f : α → β) (x : Logged α) : (x.map f).result = x.result.map f :=
  rfl

theorem result_pure {α : Type} (a : α) : (pure a : Logged α).result = .ok a :=
  rfl

/-- What is said before a computation does not change its result. -/
theorem result_ite_say {α : Type} (b : Prop) [Decidable b] (e : Event) (x : Logged α) :
    (if b then (do say e; x) else x).result = x.result := by
  split
  · rw [result_bind]
    rfl
  · rfl

/-- Several computations that succeed do so one after the other. -/
theorem result_all_map {α β : Type} {f : α → Logged β} {g : α → β} {as : List α}
    (h : ∀ a ∈ as, (f a).result = .ok (g a)) : (all (as.map f)).result = .ok (as.map g) := by
  induction as with
  | nil => rfl
  | cons a as ih =>
    rw [List.map_cons, all, result_bind, h a List.mem_cons_self, Except.bind, result_bind,
      ih fun b hb => h b (List.mem_cons_of_mem _ hb)]
    rfl

end Logged

/-! ### What a text keeps of a value -/

namespace Value

mutual

/-- A value whose durations are without what is finer than a millisecond. -/
def truncated : Value → Value
  | duration d => duration d.truncated
  | list items => list (truncatedAll items)
  | tuple items => tuple (truncatedAll items)
  | map entries => map (truncatedEntries entries)
  | entity kind fields => entity kind (truncatedAll fields)
  | v => v

/-- Values whose durations are without what is finer than a millisecond. -/
def truncatedAll : List Value → List Value
  | [] => []
  | v :: vs => truncated v :: truncatedAll vs

/-- Entries whose values are without what is finer than a millisecond. -/
def truncatedEntries : List (Value × Value) → List (Value × Value)
  | [] => []
  | (k, v) :: rest => (k, truncated v) :: truncatedEntries rest

end

theorem truncatedAll_eq_map (vs : List Value) : truncatedAll vs = vs.map truncated := by
  induction vs with
  | nil => rfl
  | cons v vs ih => rw [truncatedAll, ih, List.map_cons]

theorem truncatedEntries_eq_map (entries : List (Value × Value)) :
    truncatedEntries entries = entries.map fun e => (e.1, truncated e.2) := by
  induction entries with
  | nil => rfl
  | cons e rest ih => rw [truncatedEntries, ih, List.map_cons]

theorem isNull_truncated (v : Value) : v.truncated.isNull = v.isNull := by
  cases v <;> rfl

/-- A value whose durations are whole milliseconds is kept. -/
theorem truncated_eq_self {v : Value} (h : v.isWholeMillis = true) : v.truncated = v := by
  induction v using Value.induct with
  | list items ih | tuple items ih | entity kind items ih =>
    simp only [isWholeMillis, everywhere, everywhereIn_iff] at h
    rw [truncated, truncatedAll_eq_map, List.map_congr_left fun v hv => ih v hv (h v hv),
      List.map_id']
  | set items _ => rfl
  | map entries ih =>
    simp only [isWholeMillis, everywhere, everywhereInEntries_iff] at h
    have hvalue : ∀ e ∈ entries, (fun e => (e.1, truncated e.2)) e = e := fun e he =>
      Prod.ext rfl ((ih e he).2 (h e he).2)
    rw [truncated, truncatedEntries_eq_map, List.map_congr_left hvalue, List.map_id']
  | leaf v hv =>
    cases v with
    | duration d => exact congrArg duration (Duration.truncated_eq_self h)
    | list _ | tuple _ | set _ | map _ | entity _ _ => cases hv
    | _ => rfl

theorem fitsFields_map {vs : List Value} {fs : List Field} {g : Value → Value}
    (hg : ∀ v ∈ vs, ∀ t, v.fits t = true → (g v).fits t = true) (h : fitsFields vs fs = true) :
    fitsFields (vs.map g) fs = true := by
  induction fitsFields_iff.1 h with
  | nil => rfl
  | @cons v f vs fs hv hvs ih =>
    have hrest := ih (fun w hw => hg w (List.mem_cons_of_mem _ hw)) (fitsFields_iff.2 hvs)
    simp [fitsFields, hg v List.mem_cons_self f.type hv, hrest]

theorem distinctTexts_map {entries : List (Value × Value)} (h : DistinctTexts entries)
    (g : Value → Value) : DistinctTexts (entries.map fun e => (e.1, g e.2)) :=
  ⟨List.forall_mem_map.2 fun e he => h.1 e he, List.pairwise_map.2 h.2⟩

/-- What is kept of a value is of its type. -/
theorem fits_truncated {v : Value} {t : FieldType} (h : v.fits t = true) :
    v.truncated.fits t = true := by
  refine induct_fits ?leaf ?list ?tuple ?map ?entity h
  case leaf =>
    intro v t hv h
    cases v with
    | duration d => exact h
    | list _ | tuple _ | set _ | map _ | entity _ _ => cases hv
    | _ => exact h
  case list | tuple =>
    intro items t item hitem _ ih
    simp only [truncated, fits, hitem, fitsAll_iff, truncatedAll_eq_map, List.forall_mem_map]
    exact ih
  case map =>
    intro entries t item hitem hkeys _ ih
    simp only [truncated, fits, hitem, fitsEntries_iff, truncatedEntries_eq_map,
      List.forall_mem_map]
    exact ⟨distinctTexts_map hkeys truncated, ih⟩
  case entity =>
    intro kind fields t hkind hfields ih
    have hmapped := fitsFields_map ih hfields
    simpa [truncated, fits, truncatedAll_eq_map, hmapped] using hkind

/-- Only nothing is written as nothing. -/
theorem isNull_encode (v : Value) (style : Style) : (encode style v).isNull = v.isNull := by
  cases v with
  | matcher m => cases style <;> rfl
  | entity kind fields =>
    rw [encode]
    split <;> rfl
  | _ => rfl

end Value

/-! ### Fields that come back -/

/-- Whether a value is the only empty one of a type, and not a duration, of which a part may be too
fine for its text. -/
def Value.isOnlyEmpty : Value → FieldType → Bool
  | .text s, .text => s == ""
  | .bool b, .flag => !b
  | .int n, .whole => n == 0
  | .list items, .listOf _ => items.isEmpty
  | .map entries, .mapOf _ => entries.isEmpty
  | _, _ => false

/-- Whether a type is that of the entities of a kind. -/
def FieldType.isEntity : FieldType → Bool
  | entity _ => true
  | _ => false

namespace Field

/-- Whether a field that is left out comes back as it was: its default is what it was left out
for. An entity is never empty, so it is not left out. -/
def comesBack (f : Field) : Bool :=
  match f.default? with
  | none => !f.type.isOptional
  | some d =>
    if f.type.isOptional then d.isNull else f.always || f.type.isEntity || d.isOnlyEmpty f.type

theorem isOptional_of_fits_null {t : FieldType} (h : Value.null.fits t = true) :
    t.isOptional = true := h

/-- What is empty of a type is the only empty value of the type, before and after it is written. -/
theorem isOnlyEmpty_spec {d v : Value} {t : FieldType} (hd : d.isOnlyEmpty t = true)
    (hv : v.fits t = true) :
    v.truncated.isEmpty = v.isEmpty ∧ (v.isEmpty = true → v.truncated = d) := by
  cases t with
  | text =>
    cases v with
    | text s =>
      cases d <;> simp_all [Value.isOnlyEmpty, Value.truncated, Value.isEmpty]
    | _ => simp [Value.fits, FieldType.inner, FieldType.isOptional] at hv
  | flag =>
    cases v with
    | bool b =>
      cases d <;> simp_all [Value.isOnlyEmpty, Value.truncated, Value.isEmpty]
    | _ => simp [Value.fits, FieldType.inner, FieldType.isOptional] at hv
  | whole =>
    cases v with
    | int n =>
      cases d <;> simp_all [Value.isOnlyEmpty, Value.truncated, Value.isEmpty]
    | _ => simp [Value.fits, FieldType.inner, FieldType.isOptional] at hv
  | listOf item =>
    cases v with
    | list items =>
      cases d <;> simp_all [Value.isOnlyEmpty, Value.truncated, Value.isEmpty,
        Value.truncatedAll_eq_map]
    | _ => simp [Value.fits, FieldType.inner, FieldType.isOptional] at hv
  | mapOf item =>
    cases v with
    | map entries =>
      cases d <;> simp_all [Value.isOnlyEmpty, Value.truncated, Value.isEmpty,
        Value.truncatedEntries_eq_map]
    | _ => simp [Value.fits, FieldType.inner, FieldType.isOptional] at hv
  | _ => cases d <;> cases hd

/-- An entity is not empty, before and after it is written. -/
theorem isEmpty_of_isEntity {v : Value} {t : FieldType} (ht : t.isEntity = true)
    (hv : v.fits t = true) : v.isEmpty = false ∧ v.truncated.isEmpty = false := by
  cases t with
  | entity kind =>
    obtain ⟨fields, rfl, -⟩ := Value.eq_entity_of_fits hv
    exact ⟨rfl, rfl⟩
  | _ => cases ht

/-- A field that is not written has what it was left out for as its default. -/
theorem default_of_not_isWritten {f : Field} {v : Value} (hf : f.comesBack = true)
    (hv : v.fits f.type = true) (hw : f.isWritten v = false) : f.default? = some v.truncated := by
  simp only [comesBack] at hf
  simp only [isWritten, isRequired, Bool.and_eq_false_iff, Bool.not_eq_false',
    Bool.or_eq_false_iff] at hw
  cases hd : f.default? with
  | none =>
    rw [hd] at hf hw
    obtain hnull | ⟨⟨⟨-, hrequired⟩, -⟩, -⟩ := hw
    · cases v with
      | null => simp [isOptional_of_fits_null hv] at hf
      | _ => cases hnull
    · cases hrequired
  | some d =>
    rw [hd] at hf hw
    obtain hnull | ⟨⟨⟨halways, -⟩, hoptional⟩, hempty⟩ := hw
    · cases v with
      | null =>
        simp only [isOptional_of_fits_null hv, if_true] at hf
        cases d with
        | null => rfl
        | _ => cases hf
      | _ => cases hnull
    · simp only [hoptional, halways, Bool.false_eq_true, if_false, Bool.false_or,
        Bool.or_eq_true] at hf
      rcases hf with hentity | hf
      · simp [(isEmpty_of_isEntity hentity hv).1] at hempty
      · exact congrArg some ((isOnlyEmpty_spec hf hv).2 (by simpa using hempty)).symm

/-- A field is written after it was read if and only if it was written before. -/
theorem isWritten_truncated {f : Field} {v : Value} (hf : f.comesBack = true)
    (hv : v.fits f.type = true) : f.isWritten v.truncated = f.isWritten v := by
  simp only [isWritten, Value.isNull_truncated, isRequired]
  simp only [comesBack] at hf
  cases hd : f.default? with
  | none => simp
  | some d =>
    rw [hd] at hf
    cases hoptional : f.type.isOptional with
    | true => simp
    | false =>
      cases halways : f.always with
      | true => simp
      | false =>
        simp only [hoptional, halways, Bool.false_eq_true, if_false, Bool.false_or,
          Bool.or_eq_true] at hf
        rcases hf with hentity | hf
        · obtain ⟨hempty, hkept⟩ := isEmpty_of_isEntity hentity hv
          rw [hempty, hkept]
        · rw [(isOnlyEmpty_spec hf hv).1]

end Field

namespace Entity

/-! ### Fields under their keys -/

/-- The fields that are written, each with what is kept of its value. -/
def written : List Field → List Value → List (String × Value)
  | f :: fs, v :: vs =>
    if f.isWritten v then (f.name, v.truncated) :: written fs vs else written fs vs
  | _, _ => []

/-- What is written of an entity are those of its fields that are worth writing. -/
theorem encodeFields_eq_map (style : Style) (fs : List Field) (vs : List Value) :
    Value.encodeFields style fs vs = ((fs.zip vs).filter fun p => p.1.isWritten p.2).map
      fun p => (.text (p.1.key style), p.2.encode style) := by
  induction vs generalizing fs with
  | nil => simp [Value.encodeFields]
  | cons v vs ih =>
    cases fs with
    | nil => rfl
    | cons f fs =>
      rw [Value.encodeFields, ih, List.zip_cons_cons, List.filter_cons]
      split <;> rfl

/-- Every entry of an entity stands under the key of a field. -/
theorem key_of_mem_encodeFields {style : Style} {fs : List Field} {vs : List Value}
    {e : Value × Value} (h : e ∈ Value.encodeFields style fs vs) :
    ∃ f ∈ fs, e.1 = .text (f.key style) := by
  rw [encodeFields_eq_map] at h
  obtain ⟨p, hp, rfl⟩ := List.mem_map.1 h
  exact ⟨p.1, (List.of_mem_zip (List.mem_of_mem_filter hp)).1, rfl⟩

/-- Entries with other keys in front of a key do not matter. -/
theorem entry_append {front : List DecodedEntry} (entries : List DecodedEntry) {key : String}
    (h : ∀ e ∈ front, e.key.equal (.text key) = false) :
    entry? (front ++ entries) key = entry? entries key := by
  have hfind : front.find? (fun e => e.key.equal (.text key)) = none :=
    List.find?_eq_none.2 fun e he => by simp [h e he]
  rw [ entry?, entry?, List.find?_append, hfind, Option.none_or]

theorem entry_eq_none {entries : List DecodedEntry} {key : String}
    (h : ∀ e ∈ entries, e.key.equal (.text key) = false) : entry? entries key = none := by
  have happend := entry_append [] h
  rwa [List.append_nil] at happend

/-- The entry of a field that is written. -/
def entryOf (style : Style) (f : Field) (v : Value) : DecodedEntry :=
  ⟨.text (f.key style), v.encode style, Value.decode (.text (f.key style)),
    Value.decode (v.encode style)⟩

theorem decodeEntries_encodeFields_cons (style : Style) (f : Field) (fs : List Field) (v : Value)
    (vs : List Value) :
    Value.decodeEntries (Value.encodeFields style (f :: fs) (v :: vs)) =
      (if f.isWritten v then [entryOf style f v] else []) ++
        Value.decodeEntries (Value.encodeFields style fs vs) := by
  rw [Value.encodeFields]
  split <;> rfl

/-- **Every field that is written is found again under its key, and no other is.** -/
theorem entry_encodeFields {style : Style} {fs : List Field} {vs : List Value}
    (hkeys : (fs.map (·.key style)).Nodup) {v : Value} {f : Field} (hmem : (v, f) ∈ vs.zip fs) :
    entry? (Value.decodeEntries (Value.encodeFields style fs vs)) (f.key style) =
      if f.isWritten v then some (entryOf style f v) else none := by
  induction vs generalizing fs with
  | nil => cases hmem
  | cons w vs ih =>
    obtain _ | ⟨g, fs⟩ := fs
    · cases hmem
    rw [List.map_cons, List.nodup_cons] at hkeys
    have hother : ∀ f' ∈ fs, (g.key style == f'.key style) = false := fun f' hf' =>
      beq_eq_false_iff_ne.2 fun h => hkeys.1 (List.mem_map.2 ⟨f', hf', h.symm⟩)
    rw [decodeEntries_encodeFields_cons]
    rcases List.mem_cons.1 hmem with heq | hmem
    · cases heq
      cases hw' : f.isWritten v with
      | true =>
        have hthere : (v.encode style).isNull = false := by
          rw [Value.isNull_encode]
          simpa using (Bool.and_eq_true_iff.1 hw').1
        simp [ entry?, entryOf, hthere]
      | false =>
        refine entry_eq_none fun e he => ?_
        rw [if_neg (by decide), List.nil_append, Value.decodeEntries_eq_map] at he
        obtain ⟨e', he', rfl⟩ := List.mem_map.1 he
        obtain ⟨f', hf', hkey⟩ := key_of_mem_encodeFields he'
        rw [hkey, Value.equal_text, Bool.beq_comm]
        exact hother f' hf'
    · rw [entry_append]
      · exact ih hkeys.2 hmem
      · intro e he
        split at he
        · rw [List.mem_singleton.1 he, entryOf, Value.equal_text]
          exact hother f (List.of_mem_zip hmem).2
        · cases he

/-- Whether a field is found among entries as it was written, and its value read again. -/
structure ComesFrom (entries : List DecodedEntry) (style : Style) (v : Value) (f : Field) :
    Prop where
  entry : entry? entries (f.key style) = if f.isWritten v then some (entryOf style f v) else none
  read : (Value.decode (v.encode style) f.type style).result = .ok v.truncated

/-- **The fields that were written are read again.** -/
theorem readFields_of_comesFrom {entries : List DecodedEntry} {style : Style} {fs : List Field}
    {vs : List Value} (h : List.Forall₂ (ComesFrom entries style) vs fs) :
    (readFields entries style fs).result = .ok (written fs vs) := by
  induction h with
  | nil => rfl
  | @cons v f vs fs hv _ ih =>
    rw [readFields, hv.entry, written]
    cases f.isWritten v with
    | false => exact ih
    | true =>
      simp only [if_true, entryOf, result_bind, hv.read, Except.bind]
      rw [ih]
      rfl

theorem lookup_written {fs : List Field} {vs : List Value} {name : String}
    (h : name ∉ fs.map (·.name)) : (written fs vs).lookup name = none := by
  induction fs generalizing vs with
  | nil => rfl
  | cons f fs ih =>
    rw [List.map_cons, List.mem_cons, not_or] at h
    cases vs with
    | nil => rfl
    | cons v vs =>
      have hne : (name == f.name) = false := by simpa using h.1
      rw [written]
      split
      · rw [List.lookup_cons, hne]
        exact ih h.2
      · exact ih h.2

/-- **Every field comes back**: those that are written with what is kept of their values, the others
as their defaults, and none is missing. -/
theorem lookup_written_getD {fs : List Field} {vs : List Value}
    (hfits : Value.fitsFields vs fs = true) (hnames : (fs.map (·.name)).Nodup)
    (hback : ∀ f ∈ fs, f.comesBack = true) :
    (fs.map fun f => ((written fs vs).lookup f.name).getD (f.default?.getD .null)) =
        vs.map Value.truncated ∧
      ∀ f ∈ fs, f.isRequired = true → ((written fs vs).lookup f.name).isNone = false := by
  induction Value.fitsFields_iff.1 hfits with
  | nil => exact ⟨rfl, fun f hf => absurd hf List.not_mem_nil⟩
  | @cons v f vs fs hv hvs ih =>
    rw [List.map_cons, List.nodup_cons] at hnames
    obtain ⟨hvalues, hgiven⟩ := ih (Value.fitsFields_iff.2 hvs) hnames.2
      fun f' hf' => hback f' (List.mem_cons_of_mem _ hf')
    -- The names differ, so what is written of the first field hides none of the others.
    have hother : ∀ f' ∈ fs, (f'.name == f.name) = false := fun f' hf' =>
      beq_eq_false_iff_ne.2 fun h => hnames.1 (List.mem_map.2 ⟨f', hf', h⟩)
    have htail : ∀ f' ∈ fs, (written (f :: fs) (v :: vs)).lookup f'.name =
        (written fs vs).lookup f'.name := fun f' hf' => by
      rw [written]
      split
      · rw [List.lookup_cons, hother f' hf']
      · rfl
    have hhead : (written (f :: fs) (v :: vs)).lookup f.name =
        if f.isWritten v then some v.truncated else none := by
      rw [written]
      split
      · simp
      · exact lookup_written hnames.1
    constructor
    · rw [List.map_cons, List.map_cons, List.map_congr_left fun f' hf' => by rw [htail f' hf'],
        hvalues, hhead]
      congr 1
      cases hw : f.isWritten v with
      | true => rfl
      | false => simp [Field.default_of_not_isWritten (hback f List.mem_cons_self) hv hw]
    · intro f' hf' hrequired
      obtain rfl | hf' := List.mem_cons.1 hf'
      · rw [hhead]
        cases hw : f'.isWritten v with
        | true => rfl
        | false =>
          have hdefault := Field.default_of_not_isWritten (hback f' List.mem_cons_self) hv hw
          simp [Field.isRequired, hdefault] at hrequired
      · rw [htail f' hf']
        exact hgiven f' hf' hrequired

end Entity

end MonitoringConfig
