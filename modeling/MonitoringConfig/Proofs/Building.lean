import MonitoringConfig.Builder.Arguments
import MonitoringConfig.Proofs.Typing
/-!
# Entities by the names of their fields

* `Value.get` : what stands in a field; for an entity of a known kind it is what the field is
  declared to hold (`Value.get_fits`).
* `Entity.of_eq_build` : an entity is made of what is given for its fields, as long as nothing that
  is given has to be read first.
* `Kind.builder_call` : calling the builder of a kind comes to the same.
-/

namespace MonitoringConfig

/-! ### Results one after the other -/

namespace Logged

variable {α β : Type}

/-- What does not fail goes on with its value. -/
theorem result_bind_of_ok {x : Logged α} {a : α} (h : x.result = .ok a) (f : α → Logged β) :
    (x >>= f).result = (f a).result := by
  rw [result_bind, h]
  rfl

theorem map_id (x : Logged α) : id <$> x = x := by
  cases x with
  | mk events result => cases result <;> simp [Functor.map, andThen, value]

theorem bind_bind {γ : Type} (x : Logged α) (f : α → Logged β) (g : β → Logged γ) :
    x >>= f >>= g = x >>= fun a => f a >>= g := by
  cases x with
  | mk events result =>
    cases result with
    | error e => rfl
    | ok a =>
      simp only [bind, andThen]
      cases (f a).result <;> simp

instance : LawfulMonad Logged :=
  LawfulMonad.mk' Logged map_id (fun _ _ => by simp [pure, bind, andThen, value]) bind_bind

/-- Several computations that succeed do so one after the other. -/
theorem result_mapM {f : α → Logged β} {g : α → β} {as : List α}
    (h : ∀ a ∈ as, (f a).result = .ok (g a)) : (as.mapM f).result = .ok (as.map g) := by
  induction as with
  | nil => rfl
  | cons a as ih =>
    rw [List.mapM_cons, result_bind_of_ok (h a List.mem_cons_self),
      result_bind_of_ok (ih fun b hb => h b (List.mem_cons_of_mem _ hb))]
    rfl

@[simp] theorem result_pure_bind (a : α) (f : α → Logged β) :
    ((pure a : Logged α) >>= f).result = (f a).result :=
  result_bind_of_ok rfl f

@[simp] theorem result_lift_bind (a : α) (f : α → Logged β) :
    ((liftM (Except.ok a : Except Failure α) : Logged α) >>= f).result = (f a).result :=
  result_bind_of_ok rfl f

@[simp] theorem result_ofExcept_bind (a : α) (f : α → Logged β) :
    (ofExcept (.ok a) >>= f).result = (f a).result :=
  result_bind_of_ok rfl f

/-- What is said does not change the result. -/
@[simp] theorem result_say_bind (e : Event) (f : Unit → Logged β) :
    (say e >>= f).result = (f ()).result :=
  result_bind_of_ok rfl f

end Logged

/-! ### Reading fields -/

namespace Value

/-- What stands in a field of an entity, or nothing where there is no such field. -/
def get (v : Value) (name : String) : Value :=
  (v.field? name).getD null

/-- The items of a list, or none where there is no list. -/
def elements (v : Value) : List Value :=
  v.items?.getD []

/-- What stands under a key of a mapping. -/
def valueAt? (v : Value) (key : String) : Option Value :=
  match v with
  | map entries => lookup? (text key) entries
  | _ => none

@[simp] theorem elements_list (items : List Value) : (list items).elements = items := rfl

theorem field_eq_get {v w : Value} {name : String} (h : v.field? name = some w) :
    v.field name = .ok (v.get name) := by
  simp [field, get, h]

end Value

/-- The value at the position of a name is the one that stands beside the name. -/
theorem getElem_findIdx_eq_lookup (names : List String) (values : List Value) (name : String) :
    ((names.findIdx? (· == name)).bind fun i => values[i]?) =
      (names.zip values).lookup name := by
  induction names generalizing values with
  | nil => rfl
  | cons n names ih =>
    cases values with
    | nil => simp
    | cons v values =>
      rw [List.findIdx?_cons, List.zip_cons_cons, List.lookup_cons, Bool.beq_comm (a := name)]
      cases hn : n == name with
      | true => rfl
      | false =>
        rw [← ih values]
        cases names.findIdx? (· == name) <;> rfl

theorem Value.field?_entity (kind : Kind) (values : List Value) (name : String) :
    (Value.entity kind values).field? name = (kind.schema.names.zip values).lookup name := by
  rw [← getElem_findIdx_eq_lookup, Schema.names, List.findIdx?_map]
  rfl

/-- What a schema declares a field to hold. -/
def Schema.type? (s : Schema) (name : String) : Option FieldType :=
  (s.fields.find? (·.name == name)).map (·.type)

theorem find?_name_of_mem {fields : List Field} {f : Field} (hnodup : (fields.map (·.name)).Nodup)
    (hf : f ∈ fields) : fields.find? (·.name == f.name) = some f := by
  induction fields with
  | nil => cases hf
  | cons g fields ih =>
    rw [List.map_cons, List.nodup_cons] at hnodup
    rw [List.find?_cons]
    obtain rfl | hf := List.mem_cons.1 hf
    · simp
    · have hne : (g.name == f.name) = false :=
        beq_eq_false_iff_ne.2 fun h => hnodup.1 (h ▸ List.mem_map_of_mem hf)
      rw [hne]
      exact ih hnodup.2 hf

theorem Schema.type?_of_mem {s : Schema} {f : Field} (hnodup : s.names.Nodup)
    (hf : f ∈ s.fields) : s.type? f.name = some f.type := by
  rw [type?, find?_name_of_mem hnodup hf]
  rfl

theorem lookup_of_forall₂ {values : List Value} {fields : List Field} {name : String} {f : Field}
    (h : List.Forall₂ (fun v f => v.fits f.type = true) values fields)
    (hf : fields.find? (·.name == name) = some f) :
    ∃ v, ((fields.map (·.name)).zip values).lookup name = some v ∧ v.fits f.type = true := by
  induction h with
  | nil => cases hf
  | @cons v g values fields hv _ ih =>
    rw [List.find?_cons] at hf
    rw [List.map_cons, List.zip_cons_cons, List.lookup_cons, Bool.beq_comm]
    cases hg : g.name == name with
    | true =>
      rw [hg] at hf
      cases hf
      exact ⟨v, rfl, hv⟩
    | false =>
      rw [hg] at hf
      exact ih hf

/-- **A field of an entity holds what it is declared to hold.** -/
theorem Value.get_fits {v : Value} {kind : Kind} {name : String} {t : FieldType}
    (h : v.fits (.entity kind) = true) (ht : kind.schema.type? name = some t) :
    v.field? name = some (v.get name) ∧ (v.get name).fits t = true := by
  obtain ⟨values, rfl, hvalues⟩ := eq_entity_of_fits h
  obtain ⟨f, hf, rfl⟩ := Option.map_eq_some_iff.1 ht
  obtain ⟨w, hw, hfits⟩ := lookup_of_forall₂ (fitsFields_iff.1 hvalues) hf
  rw [get, field?_entity, Schema.names, hw]
  exact ⟨rfl, hfits⟩

/-- A field that is declared to hold a list holds the list of its elements. -/
theorem Value.elements_fits {v : Value} {kind : Kind} {name : String} {item : FieldType}
    (h : v.fits (.entity kind) = true) (ht : kind.schema.type? name = some (.listOf item)) :
    v.get name = list (v.get name).elements ∧ ∀ w ∈ (v.get name).elements, w.fits item = true := by
  obtain ⟨items, hitems, hfits⟩ := eq_list_of_fits (get_fits h ht).2
  rw [hitems]
  exact ⟨rfl, hfits⟩

theorem Value.items_eq_elements {v : Value} (h : v = list v.elements) :
    v.items = .ok v.elements := by
  rw [h]
  rfl

theorem Value.joined_eq_elements {v w : Value} (hv : v = list v.elements)
    (hw : w = list w.elements) : v.joined w = .ok (list (v.elements ++ w.elements)) := by
  rw [hv, hw]
  rfl

/-- What holds everywhere in an entity holds everywhere in its fields. -/
theorem Value.everywhere_get {p : Value → Bool} (hnull : p .null = true) {v : Value}
    (h : v.everywhere p = true) (name : String) : (v.get name).everywhere p = true := by
  cases v with
  | entity kind values =>
    rw [everywhere, everywhereIn_iff] at h
    rw [get, field?]
    cases kind.schema.position? name with
    | none => exact hnull
    | some i =>
      rw [Option.bind_some]
      cases hi : values[i]? with
      | none => exact hnull
      | some w => exact h w (List.mem_of_getElem? hi)
  | _ => exact hnull

theorem lookup_map_self (names : List String) (g : String → Value) (name : String) :
    (names.map fun n => (n, g n)).lookup name = if name ∈ names then some (g name) else none := by
  induction names with
  | nil => rfl
  | cons n names ih =>
    rw [List.map_cons, List.lookup_cons, ih]
    by_cases h : name = n
    · simp [h]
    · simp [h, beq_eq_false_iff_ne.2 h]

theorem zip_eq_map_lookup {names : List String} {values : List Value} (hnodup : names.Nodup)
    (hlength : names.length = values.length) :
    names.zip values = names.map fun name => (name, ((names.zip values).lookup name).getD .null) := by
  induction names generalizing values with
  | nil => rfl
  | cons name names ih =>
    cases values with
    | nil => cases hlength
    | cons v values =>
      rw [List.nodup_cons] at hnodup
      rw [List.length_cons, List.length_cons, Nat.add_right_cancel_iff] at hlength
      have hrest : (names.map fun n => (n, (((name, v) :: names.zip values).lookup n).getD .null)) =
          names.map fun n => (n, ((names.zip values).lookup n).getD .null) :=
        List.map_congr_left fun n hn => by
          have hne : (n == name) = false := beq_eq_false_iff_ne.2 fun h => hnodup.1 (h ▸ hn)
          rw [List.lookup_cons, hne]
      rw [List.zip_cons_cons, List.map_cons, hrest, ← ih hnodup.2 hlength]
      simp

/-- The fields of an entity by their names. -/
theorem Value.zip_names_eq_map {kind : Kind} {values : List Value}
    (h : fitsFields values kind.schema.fields = true) (hnodup : kind.schema.names.Nodup) :
    kind.schema.names.zip values =
      kind.schema.names.map fun name => (name, (entity kind values).get name) := by
  have hlength : kind.schema.names.length = values.length := by
    rw [Schema.names, List.length_map, (fitsFields_iff.1 h).length_eq]
  rw [zip_eq_map_lookup hnodup hlength]
  refine List.map_congr_left fun name _ => ?_
  rw [get, field?_entity]

/-- An entity of given values of its fields has these values in its fields. -/
theorem Value.field?_map_names (kind : Kind) (g : String → Value) (name : String) :
    (entity kind (kind.schema.names.map g)).field? name =
      if name ∈ kind.schema.names then some (g name) else none := by
  have hzip : kind.schema.names.zip (kind.schema.names.map g) =
      kind.schema.names.map fun n => (n, g n) := by
    have : (kind.schema.names.map id).zip (kind.schema.names.map g) = _ := List.zip_map'
    simpa using this
  rw [field?_entity, hzip, lookup_map_self]

/-- An entity is the entity of the values of its fields. -/
theorem Value.eq_map_names {kind : Kind} {values : List Value}
    (h : fitsFields values kind.schema.fields = true) (hnodup : kind.schema.names.Nodup) :
    values = kind.schema.names.map (entity kind values).get := by
  have hlength : kind.schema.names.length = values.length := by
    rw [Schema.names, List.length_map, (fitsFields_iff.1 h).length_eq]
  have hzip := congrArg (List.map Prod.snd) (zip_names_eq_map h hnodup)
  rw [List.map_snd_zip (Nat.le_of_eq hlength.symm), List.map_map] at hzip
  exact hzip

section

variable {v : Value} {kind : Kind} {name : String}

theorem Value.eq_entity_map_get (h : v.fits (.entity kind) = true)
    (hnodup : kind.schema.names.Nodup) : v = entity kind (kind.schema.names.map v.get) := by
  obtain ⟨values, rfl, hvalues⟩ := eq_entity_of_fits h
  exact congrArg (entity kind) (eq_map_names hvalues hnodup)

theorem Value.field?_eq_ite (h : v.fits (.entity kind) = true)
    (hnodup : kind.schema.names.Nodup) :
    v.field? name = if name ∈ kind.schema.names then some (v.get name) else none := by
  have hfield := field?_map_names kind v.get name
  rwa [← eq_entity_map_get h hnodup] at hfield

theorem set_findIdx_eq_map {names : List String} (hnodup : names.Nodup) (g : String → Value)
    (name : String) (w : Value) {i : Nat} (hi : names.findIdx? (· == name) = some i) :
    (names.map g).set i w = names.map fun n => if n = name then w else g n := by
  induction names generalizing i with
  | nil => cases hi
  | cons n names ih =>
    rw [List.nodup_cons] at hnodup
    rw [List.findIdx?_cons] at hi
    by_cases h : n = name
    · subst h
      have hrest : (names.map fun m => if m = n then w else g m) = names.map g :=
        List.map_congr_left fun m hm => if_neg fun heq : m = n => hnodup.1 (heq ▸ hm)
      simp only [beq_self_eq_true, if_true, Option.some.injEq] at hi
      subst hi
      simp [hrest]
    · simp only [beq_eq_false_iff_ne.2 h, Bool.false_eq_true, if_false, Option.map_eq_some_iff] at hi
      obtain ⟨j, hj, rfl⟩ := hi
      simp [h, ih hnodup.2 hj]

/-- A field that is set changes, and no other. -/
theorem Value.setField_eq (h : v.fits (.entity kind) = true) (hnodup : kind.schema.names.Nodup)
    (hname : name ∈ kind.schema.names) (w : Value) :
    v.setField name w =
      entity kind (kind.schema.names.map fun n => if n = name then w else v.get n) := by
  obtain ⟨i, hi⟩ : ∃ i, kind.schema.names.findIdx? (· == name) = some i := by
    rw [← Option.isSome_iff_exists, List.findIdx?_isSome, List.any_eq_true]
    exact ⟨name, hname, beq_self_eq_true _⟩
  have hposition : kind.schema.position? name = some i := by
    rw [Schema.names, List.findIdx?_map] at hi
    exact hi
  rw [← set_findIdx_eq_map hnodup v.get name w hi]
  obtain ⟨values, rfl, hvalues⟩ := eq_entity_of_fits h
  rw [← eq_map_names hvalues hnodup, setField]
  simp only [hposition]

end

theorem Value.fits_map_names {kind : Kind} {g : String → Value}
    (h : ∀ f ∈ kind.schema.fields, (g f.name).fits f.type = true) :
    (entity kind (kind.schema.names.map g)).fits (.entity kind) = true := by
  have hfields : fitsFields (kind.schema.names.map g) kind.schema.fields = true := by
    rw [fitsFields_iff, Schema.names, List.map_map, List.forall₂_map_left_iff, List.forall₂_same]
    exact h
  simp [fits, FieldType.inner, hfields]

theorem Value.field_of_fits {v : Value} {kind : Kind} (h : v.fits (.entity kind) = true)
    (name : String) (hname : (kind.schema.type? name).isSome = true) :
    v.field name = .ok (v.get name) := by
  obtain ⟨t, ht⟩ := Option.isSome_iff_exists.1 hname
  exact field_eq_get (get_fits h ht).1

/-- A value of a type whose values may be missing is missing or of the type. -/
theorem Value.fits_optional {v : Value} {t : FieldType} (h : v.fits (.optional t) = true) :
    v = null ∨ v.fits t = true := by
  cases v with
  | null => exact .inl rfl
  | _ => exact .inr h

/-! ### Making entities of what is given -/

/-- Whether values for a type are taken as they are, whatever they are. -/
def FieldType.isPlain : FieldType → Bool
  | duration | secret | matcher => false
  | optional t | listOf t => t.isPlain
  | _ => true

theorem FieldType.coerce_of_isPlain {t : FieldType} (h : t.isPlain = true) (v : Value) :
    t.coerce v = .ok v := by
  induction t generalizing v with
  | duration | secret | matcher => cases h
  | optional t ih =>
    cases v with
    | null => rfl
    | _ => exact ih h _
  | listOf t ih =>
    cases v with
    | list items =>
      rw [coerce, mapM_eq_ok fun v _ => ih h v, List.map_id']
      rfl
    | _ => rfl
  | _ => cases v <;> rfl

/-- What is given for a field, or its default. -/
def Field.given (f : Field) (values : List (String × Value)) : Value :=
  (values.lookup f.name).getD (f.default?.getD .null)

theorem coerceFields_map {fields : List Field} {g : Field → Value}
    (h : ∀ f ∈ fields, f.type.coerce (g f) = .ok (g f)) :
    coerceFields fields (fields.map g) = .ok (fields.map g) := by
  induction fields with
  | nil => rfl
  | cons f fields ih =>
    rw [List.map_cons, coerceFields, h f List.mem_cons_self,
      ih fun f' hf' => h f' (List.mem_cons_of_mem _ hf')]
    rfl

/-- **An entity is made of what is given for its fields**, as long as nothing has to be read. -/
theorem Entity.of_eq_build (kind : Kind) {given : List (String × Value)}
    (hkind : kind.isProjected = true) (hexpr : exprField? kind = none)
    (h : ∀ f ∈ kind.schema.fields, f.type.coerce (f.given given) = .ok (f.given given)) :
    Entity.of kind given = .ok (Value.build kind given) := by
  simp only [Entity.of, make?, hexpr, hkind, complete, pure_bind, if_true]
  simp only [bind, Except.bind, pure, Except.pure]
  have hfields := coerceFields_map h
  simp only [Field.given] at hfields
  rw [hfields]
  rfl

theorem Entity.of_isPlain (kind : Kind) (given : List (String × Value))
    (hkind : kind.isProjected = true) (hexpr : exprField? kind = none)
    (h : kind.schema.fields.all (·.type.isPlain) = true) :
    Entity.of kind given = .ok (Value.build kind given) :=
  of_eq_build kind hkind hexpr fun f hf => FieldType.coerce_of_isPlain (List.all_eq_true.1 h f hf) _

theorem lookup_map_name (fields : List Field) (g : Field → Value) (name : String) :
    (fields.map fun f => (f.name, g f)).lookup name =
      (fields.find? (·.name == name)).map g := by
  induction fields with
  | nil => rfl
  | cons f fields ih =>
    rw [List.map_cons, List.lookup_cons, List.find?_cons, Bool.beq_comm]
    cases f.name == name with
    | true => rfl
    | false => exact ih

/-- A field of an entity made of what is given. -/
theorem Value.field?_build (kind : Kind) (given : List (String × Value)) (name : String) :
    (Value.build kind given).field? name =
      (kind.schema.fields.find? (·.name == name)).map fun f => f.given given := by
  rw [build, field?_entity, Schema.names, List.zip_map', ← lookup_map_name]
  rfl

/-- An entity is of its kind if what is given for its fields, and the defaults of the others, are of
the types of the fields. -/
theorem Value.fits_build {kind : Kind} {given : List (String × Value)}
    (h : ∀ f ∈ kind.schema.fields, (f.given given).fits f.type = true) :
    (Value.build kind given).fits (.entity kind) = true := by
  have hfields : fitsFields (kind.schema.fields.map fun f => f.given given) kind.schema.fields =
      true := by
    rw [fitsFields_iff, List.forall₂_map_left_iff, List.forall₂_same]
    exact h
  show (entity kind (kind.schema.fields.map fun f => f.given given)).fits _ = true
  simp [fits, FieldType.inner, hfields]

/-- An entity whose fields are of their types is made of them as they are. -/
theorem Entity.of_fits {kind : Kind} {given : List (String × Value)}
    (hkind : kind.isProjected = true) (h : (Value.build kind given).fits (.entity kind) = true) :
    Entity.of kind given = .ok (Value.build kind given) :=
  make_of_fits hkind (Value.fits_entity h).2

/-- What holds everywhere in what is given, and in the defaults, holds everywhere in an entity. -/
theorem Value.everywhere_build {p : Value → Bool} {kind : Kind} {given : List (String × Value)}
    (h : ∀ f ∈ kind.schema.fields, (f.given given).everywhere p = true) :
    (Value.build kind given).everywhere p = true :=
  everywhereIn_iff.2 (List.forall_mem_map.2 h)

/-! ### Calling builders -/

theorem complete?_eq_some {given : List (String × Value)} {fields : List Field}
    (h : ∀ f ∈ fields, f.isRequired = true → (given.lookup f.name).isSome = true) :
    Signature.complete? given (fields.map fun f => ⟨f.name, f.default?⟩) =
      some (fields.map fun f => (f.name, f.given given)) := by
  induction fields with
  | nil => rfl
  | cons f fields ih =>
    have hvalue : (given.lookup f.name <|> f.default?) = some (f.given given) := by
      have hrequired := h f List.mem_cons_self
      rw [Field.given]
      cases hl : given.lookup f.name with
      | some v => rfl
      | none =>
        cases hd : f.default? with
        | some v => rfl
        | none =>
          rw [hl, Field.isRequired, hd] at hrequired
          cases hrequired rfl
    rw [List.map_cons, Signature.complete?, ih fun f' hf' => h f' (List.mem_cons_of_mem _ hf'),
      List.map_cons]
    simp only [hvalue]
    rfl

/-- **Calling the builder of a kind makes an entity of what is given by name**, if every name is
that of a field. -/
theorem Kind.builder_call {kind : Kind} {given : List (String × Value)}
    (hnodup : kind.schema.names.Nodup)
    (hnames : ∀ e ∈ given, e.1 ∈ kind.schema.names)
    (hrequired : ∀ f ∈ kind.schema.fields, f.isRequired = true →
      (given.lookup f.name).isSome = true) :
    (kind.builder.call [] given).result = Entity.of kind given := by
  have hbind : kind.builder.signature.bind? [] given =
      some ⟨kind.schema.fields.map fun f => (f.name, f.given given), [], []⟩ := by
    have hcomplete := complete?_eq_some hrequired
    simp only [builder, Signature.bind?, List.length_nil, List.drop_zero, List.append_nil]
    rw [List.filter_eq_nil_iff.2 ?_]
    · simp only [List.zip_nil_right, hcomplete, List.nil_append, List.drop_nil]
      rfl
    · intro e he
      obtain ⟨f, hf, hname⟩ := List.mem_map.1 (hnames e he)
      simp only [List.any_map, Bool.not_eq_true', Bool.not_eq_false, List.any_eq_true]
      exact ⟨f, hf, by simp [hname]⟩
  -- What has been completed with defaults is not changed by completing it again.
  have hsame : (kind.schema.fields.map fun f =>
      ((kind.schema.fields.map fun f => (f.name, f.given given)).lookup f.name).getD
        (f.default?.getD .null)) =
      kind.schema.fields.map fun f => f.given given :=
    List.map_congr_left fun f hf => by
      rw [lookup_map_name, find?_name_of_mem hnodup hf]
      rfl
  simp only [Builder.call, hbind]
  show Entity.of kind (kind.schema.fields.map fun f => (f.name, f.given given)) = _
  rw [Entity.of, Entity.of, Entity.complete, hsame]
  rfl

end MonitoringConfig
