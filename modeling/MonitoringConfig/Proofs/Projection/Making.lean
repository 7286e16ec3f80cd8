import Mathlib.Data.List.Nodup
import MonitoringConfig.Proofs.Building
import MonitoringConfig.Proofs.Projection.Mapping
/-!
# Entities made by a call

The builder of a kind takes a value for a field by name or by position. What comes of a call depends on
the value of a field only by what the value is taken for.

* `Entity.make_eq_ok_iff` : an entity is made field by field.
* `Entity.make_cases` : what an entity is made of, as a function of the value of one of its fields.
* `Kind.Place.built_cases` : the same for what a call of the builder comes to.
-/

namespace MonitoringConfig

/-! ### Entities made field by field -/

theorem mapM_congr {α β : Type} {f g : α → Except Failure β} {as : List α}
    (h : ∀ a ∈ as, f a = g a) : as.mapM f = as.mapM g := by
  induction as with
  | nil => rfl
  | cons a as ih =>
    rw [List.mapM_cons, List.mapM_cons, h a List.mem_cons_self,
      ih fun b hb => h b (List.mem_cons_of_mem _ hb)]

namespace Entity

variable {kind : Kind} {f : Field} {fs gs : List Field} {pre post : List Value}

theorem eq_expr_of_exprField? {name : String} (h : exprField? kind = some name) : name = "expr" := by
  revert h
  cases kind <;> simp [exprField?, eq_comm]

/-- The value of a field, with its text in place of an expression if the field has a name. -/
def renderField (name : String) (p : Field × Value) : Except Failure Value :=
  if p.1.name == name then renderExpr p.2 else pure p.2

/-- The values of the fields of an entity, with its text in place of an expression. -/
def rendered (kind : Kind) (values : List Value) : Except Failure (List Value) :=
  match exprField? kind with
  | none => .ok values
  | some name => (kind.schema.fields.zip values).mapM (renderField name)

theorem make_eq (hkind : kind.isProjected = true) (values : List Value) :
    make? kind values = (rendered kind values).bind fun values =>
      (coerceFields kind.schema.fields values).map (Value.entity kind) := by
  rw [make?, rendered]
  simp only [hkind, if_true]
  cases exprField? kind with
  | none => cases coerceFields kind.schema.fields values <;> rfl
  | some name =>
    show Except.bind _ _ = _
    refine congrArg _ (funext fun values => ?_)
    cases coerceFields kind.schema.fields values <;> rfl

/-- What an entity has in a field that is made of a value. -/
def fieldOf (kind : Kind) (f : Field) (v : Value) : Except Failure Value :=
  (if exprField? kind = some f.name then renderExpr v else .ok v) >>= f.type.coerce

theorem mapM_coerceFields_eq_ok_iff {fs : List Field} {g : Field → Value}
    {r : Field × Value → Except Failure Value} {ws : List Value} :
    ((fs.zip (fs.map g)).mapM r >>= coerceFields fs) = .ok ws ↔
      List.Forall₂ (fun f w => (r (f, g f) >>= f.type.coerce) = .ok w) fs ws := by
  induction fs generalizing ws with
  | nil => simp [coerceFields, pure, Except.pure, bind, Except.bind, eq_comm]
  | cons f fs ih =>
    have hcons : (((f :: fs).zip ((f :: fs).map g)).mapM r >>= coerceFields (f :: fs)) =
        (do let v ← r (f, g f)
            let vs ← (fs.zip (fs.map g)).mapM r
            let w ← f.type.coerce v
            let ws ← coerceFields fs vs
            return w :: ws) := by
      simp only [List.map_cons, List.zip_cons_cons, List.mapM_cons, bind_assoc, pure_bind]
      rfl
    rw [hcons, List.forall₂_cons_left_iff]
    simp only [bind_eq_ok] at ih ⊢
    simp only [← ih]
    constructor
    · rintro ⟨v, hv, vs, hvs, w, hw, ws, hws, h⟩
      exact ⟨w, ws, ⟨v, hv, hw⟩, ⟨vs, hvs, hws⟩, (Except.ok.inj h).symm⟩
    · rintro ⟨w, ws, ⟨v, hv, hw⟩, ⟨vs, hvs, hws⟩, rfl⟩
      exact ⟨v, hv, vs, hvs, w, hw, ws, hws, rfl⟩

/-- **An entity is made field by field**, each of its own value alone. -/
theorem make_eq_ok_iff (hkind : kind.isProjected = true) {g : Field → Value} {x : Value} :
    make? kind (kind.schema.fields.map g) = .ok x ↔
      ∃ ws, List.Forall₂ (fun f w => fieldOf kind f (g f) = .ok w) kind.schema.fields ws ∧
        x = .entity kind ws := by
  have hrendered : rendered kind (kind.schema.fields.map g) =
      (kind.schema.fields.zip (kind.schema.fields.map g)).mapM fun p =>
        if exprField? kind = some p.1.name then renderExpr p.2 else .ok p.2 := by
    rw [rendered]
    cases exprField? kind with
    | none =>
      simp only [reduceCtorEq, if_false]
      rw [mapM_eq_ok fun p _ => rfl, List.map_snd_zip (by simp)]
    | some name =>
      refine mapM_congr fun p _ => ?_
      by_cases hname : name = p.1.name
      · simp [renderField, hname]
      · have hname' : (p.1.name == name) = false := beq_eq_false_iff_ne.2 (Ne.symm hname)
        simp [renderField, hname, hname', pure, Except.pure]
  have hmade : make? kind (kind.schema.fields.map g) =
      (rendered kind (kind.schema.fields.map g) >>= coerceFields kind.schema.fields).map
        (Value.entity kind) := by
    rw [make_eq hkind]
    cases rendered kind (kind.schema.fields.map g) <;> rfl
  rw [hmade, map_eq_ok]
  simp only [hrendered, mapM_coerceFields_eq_ok_iff]
  exact exists_congr fun ws => and_congr Iff.rfl eq_comm

/-- Where there may be rules, there are none by default. -/
theorem default_of_rules (hkind : kind.isProjected = true) (hf : f ∈ kind.schema.fields)
    (htype : f.type = .listOf .rule) : f.default?.getD .null = .list [] := by
  have hdefaults : ∀ kind ∈ Kind.projected, ∀ f ∈ kind.schema.fields, f.type = .listOf .rule →
      (f.default?.getD .null).isOnlyEmpty (.listOf .rule) = true := by decide
  have hempty := hdefaults kind (Kind.mem_of_isProjected hkind) f hf htype
  cases hdefault : f.default?.getD .null with
  | list items =>
    rw [hdefault] at hempty
    rw [List.isEmpty_iff.1 hempty]
  | _ =>
    rw [hdefault] at hempty
    cases hempty

/-- A field for which nothing stands in a mapping has its default. -/
theorem Agrees.getD_of_none {es : List (Value × Value)} {style : Style}
    {given : List (String × Value)} (h : Agrees kind es style given) (hkind : kind.isProjected = true)
    (hf : f ∈ kind.schema.fields) (hnone : fieldAt? kind es style f = none) :
    (given.lookup f.name).getD (f.default?.getD .null) = f.default?.getD .null := by
  obtain hlookup | ⟨-, htype, hlookup⟩ := h.of_none hf hnone
  · rw [hlookup]
    rfl
  · rw [hlookup, default_of_rules hkind hf htype]
    rfl

/-! ### Entities made of a value and others beside it -/

theorem coerceFields_split (hpre : pre.length = fs.length) (x : Value) :
    coerceFields (fs ++ f :: gs) (pre ++ x :: post) =
      (coerceFields fs pre).bind fun ws => (f.type.coerce x).bind fun w =>
        (coerceFields gs post).map fun ws' => ws ++ w :: ws' := by
  induction fs generalizing pre with
  | nil =>
    obtain rfl : pre = [] := List.length_eq_zero_iff.1 hpre
    simp only [List.nil_append, coerceFields]
    show (f.type.coerce x).bind _ = _
    refine congrArg _ (funext fun w => ?_)
    cases coerceFields gs post <;> rfl
  | cons g fs ih =>
    cases pre with
    | nil => cases hpre
    | cons v pre =>
      simp only [List.cons_append, coerceFields, ih (Nat.succ.inj hpre)]
      show (g.type.coerce v).bind _ = ((g.type.coerce v).bind _).bind _
      cases g.type.coerce v with
      | error e => rfl
      | ok w =>
        cases coerceFields fs pre with
        | error e => rfl
        | ok ws =>
          show ((f.type.coerce x).bind _).bind _ = (f.type.coerce x).bind _
          cases f.type.coerce x with
          | error e => rfl
          | ok w' => cases coerceFields gs post <;> rfl

theorem mapM_split {α β : Type} (g : α → Except Failure β) (as bs : List α) (a : α) {b : β}
    (ha : g a = .ok b) :
    (as ++ a :: bs).mapM g =
      (as.mapM g).bind fun cs => (bs.mapM g).map fun cs' => cs ++ b :: cs' := by
  rw [List.mapM_append, List.mapM_cons, ha]
  cases as.mapM g with
  | error e => rfl
  | ok cs => cases bs.mapM g <;> rfl

theorem length_of_mapM {α β : Type} {g : α → Except Failure β} {as : List α} {bs : List β}
    (h : as.mapM g = .ok bs) : bs.length = as.length :=
  (mapM_eq_ok_iff.1 h).length_eq.symm

section

variable (hfields : kind.schema.fields = fs ++ f :: gs) (hpre : pre.length = fs.length)

include hfields hpre

/-- A field that is no expression is left as it is. -/
theorem rendered_cases (hname : f.name ≠ "expr") (post : List Value) :
    (∃ e, ∀ x, rendered kind (pre ++ x :: post) = .error e) ∨
      ∃ pre' post', pre'.length = fs.length ∧
        ∀ x, rendered kind (pre ++ x :: post) = .ok (pre' ++ x :: post') := by
  cases hexpr : exprField? kind with
  | none => exact .inr ⟨pre, post, hpre, fun x => by rw [rendered, hexpr]⟩
  | some name =>
    have hf : (f.name == name) = false := by
      rw [beq_eq_false_iff_ne, eq_expr_of_exprField? hexpr]
      exact hname
    have hsplit : ∀ x, rendered kind (pre ++ x :: post) =
        ((fs.zip pre).mapM (renderField name)).bind fun vs =>
          ((gs.zip post).mapM (renderField name)).map fun vs' => vs ++ x :: vs' := by
      intro x
      simp only [rendered, hexpr, hfields]
      rw [List.zip_append hpre.symm, List.zip_cons_cons]
      exact mapM_split _ _ _ (f, x) (by rw [renderField, hf]; rfl)
    simp only [hsplit]
    cases hvs : (fs.zip pre).mapM (renderField name) with
    | error e => exact .inl ⟨e, fun x => rfl⟩
    | ok vs =>
      cases (gs.zip post).mapM (renderField name) with
      | error e => exact .inl ⟨e, fun x => rfl⟩
      | ok vs' =>
        refine .inr ⟨vs, vs', ?_, fun x => rfl⟩
        rw [length_of_mapM hvs, List.length_zip, hpre, Nat.min_self]

/-- What is taken of a value for the type of its field does not depend on the other fields. -/
theorem coerced_cases (post : List Value) :
    (∃ e, ∀ x, (coerceFields kind.schema.fields (pre ++ x :: post)).map (Value.entity kind) =
        .error e) ∨
      ∃ k : Value → Except Failure Value, ∀ x,
        (coerceFields kind.schema.fields (pre ++ x :: post)).map (Value.entity kind) =
          (f.type.coerce x).bind k := by
  simp only [hfields, coerceFields_split hpre]
  cases coerceFields fs pre with
  | error e => exact .inl ⟨e, fun x => rfl⟩
  | ok ws =>
    refine .inr ⟨fun w => ((coerceFields gs post).map fun ws' => ws ++ w :: ws').map
      (Value.entity kind), fun x => ?_⟩
    show Except.map _ ((f.type.coerce x).bind _) = _
    cases f.type.coerce x <;> rfl

/-- **Whatever stands in the other fields, an entity is made of a value as it is taken for the type
of its field**, unless nothing can be made of what stands in the others. -/
theorem make_cases (hkind : kind.isProjected = true) (hname : f.name ≠ "expr")
    (post : List Value) :
    (∃ e, ∀ x, make? kind (pre ++ x :: post) = .error e) ∨
      ∃ k : Value → Except Failure Value,
        ∀ x, make? kind (pre ++ x :: post) = (f.type.coerce x).bind k := by
  simp only [make_eq hkind]
  obtain ⟨e, he⟩ | ⟨pre', post', hpre', hrendered⟩ := rendered_cases hfields hpre hname post
  · exact .inl ⟨e, fun x => by rw [he]; rfl⟩
  · simp only [hrendered]
    exact coerced_cases hfields hpre' post'

end

/-- Where what is given for the other fields does not depend on a value, its field splits the values
of all of them. -/
theorem exists_split (hnodup : kind.schema.names.Nodup) (hf : f ∈ kind.schema.fields)
    (look : Value → String → Option Value) (base : String → Option Value)
    (hself : ∀ x, look x f.name = some x)
    (hother : ∀ x name, name ≠ f.name → look x name = base name) :
    ∃ fs gs pre post, kind.schema.fields = fs ++ f :: gs ∧ pre.length = fs.length ∧
      ∀ x, (kind.schema.fields.map fun g => (look x g.name).getD (g.default?.getD .null)) =
        pre ++ x :: post := by
  obtain ⟨fs, gs, hsplit⟩ := List.append_of_mem hf
  rw [Schema.names, hsplit, List.map_append, List.map_cons, List.nodup_append, List.nodup_cons]
    at hnodup
  obtain ⟨-, ⟨hgs, -⟩, hfs⟩ := hnodup
  have hvalues : ∀ hs : List Field, (∀ g ∈ hs, g.name ≠ f.name) → ∀ x,
      (hs.map fun g => (look x g.name).getD (g.default?.getD .null)) =
        hs.map fun g => (base g.name).getD (g.default?.getD .null) := fun hs h x =>
    List.map_congr_left fun g hg => by rw [hother x g.name (h g hg)]
  refine ⟨fs, gs, fs.map fun g => (base g.name).getD (g.default?.getD .null),
    gs.map fun g => (base g.name).getD (g.default?.getD .null), hsplit, List.length_map _,
    fun x => ?_⟩
  rw [hsplit, List.map_append, List.map_cons, hself]
  rw [hvalues fs fun g hg heq => hfs _ (List.mem_map_of_mem hg) _ List.mem_cons_self heq,
    hvalues gs fun g hg heq => hgs (heq ▸ List.mem_map_of_mem hg)]
  rfl

end Entity

/-! ### Calling the builder -/

/-- What the arguments of a call say: whether every parameter gets one does not depend on their
values. -/
theorem complete?_eq (given : List (String × Value)) (ps : List Parameter) :
    Signature.complete? given ps =
      if ps.all fun p => ((given.lookup p.name).or p.default?).isSome then
        some (ps.map fun p => (p.name, ((given.lookup p.name).or p.default?).getD .null))
      else none := by
  induction ps with
  | nil => rfl
  | cons p ps ih =>
    rw [Signature.complete?, ih]
    have hor : (given.lookup p.name <|> p.default?) = (given.lookup p.name).or p.default? := by
      cases given.lookup p.name <;> rfl
    rw [hor, List.all_cons, List.map_cons]
    cases (given.lookup p.name).or p.default? with
    | none => rfl
    | some v =>
      simp only [Option.isSome_some, Bool.true_and]
      split <;> rfl

namespace Kind

variable {kind : Kind} {f : Field}

/-- The parameters of the builder of a kind that no position reaches. -/
def byName (kind : Kind) (count : Nat) : List Parameter :=
  (kind.schema.fields.drop count).map fun f => ⟨f.name, f.default?⟩

/-- Calling the builder of a kind fails for too many positions, an unknown name, or a field that
is not given and must be. -/
theorem bind?_eq (kind : Kind) (args : List Value) (given : List (String × Value)) :
    kind.builder.signature.bind? args given =
      if kind.schema.fields.length < args.length then none
      else if given.all fun e => (kind.byName args.length).any (·.name == e.1) then
        (Signature.complete? given (kind.byName args.length)).map fun bound =>
          ⟨kind.schema.names.zip args ++ bound, args.drop kind.schema.fields.length, []⟩
      else none := by
  have hnames : (kind.builder.signature.positional.map (·.name)) = kind.schema.names := by
    simp [builder, Schema.names]
  have hbyName : kind.builder.signature.positional.drop args.length ++
      kind.builder.signature.keywordOnly = kind.byName args.length := by
    simp [builder, byName, List.map_drop]
  have hcount : kind.builder.signature.positional.length = kind.schema.fields.length := by
    simp [builder]
  have hrest : kind.builder.signature.rest = false := rfl
  have hkeywords : kind.builder.signature.keywords = false := rfl
  simp only [Signature.bind?, hnames, hbyName, hcount, hrest, hkeywords, Bool.not_false,
    Bool.and_true, decide_eq_true_eq]
  split
  · rfl
  · -- What is given by a name of no parameter is left over, and then the call fails.
    cases hothers : given.filter fun e => !(kind.byName args.length).any (·.name == e.1) with
    | nil =>
      have hall : (given.all fun e => (kind.byName args.length).any (·.name == e.1)) = true :=
        List.all_eq_true.2 fun e he => by simpa using List.filter_eq_nil_iff.1 hothers e he
      rw [if_pos hall]
      cases Signature.complete? given (kind.byName args.length) <;> rfl
    | cons e rest =>
      have he : e ∈ given.filter fun e => !(kind.byName args.length).any (·.name == e.1) := by
        rw [hothers]
        exact List.mem_cons_self
      obtain ⟨he, hnone⟩ := List.mem_filter.1 he
      have hall : ¬(given.all fun e => (kind.byName args.length).any (·.name == e.1)) = true :=
        fun h => by rw [List.all_eq_true.1 h e he] at hnone; cases hnone
      rw [if_neg hall]
      rfl

/-- What the parameters get that no position reaches. -/
def byNameArguments (kind : Kind) (count : Nat) (given : List (String × Value)) :
    List (String × Value) :=
  (kind.schema.fields.drop count).map fun g =>
    (g.name, ((given.lookup g.name).or g.default?).getD .null)

/-- What the fields get of a call. -/
def arguments (kind : Kind) (args : List Value) (given : List (String × Value)) :
    List (String × Value) :=
  kind.schema.names.zip args ++ kind.byNameArguments args.length given

/-- A value that is given for a field by name changes what the parameter of the field gets. -/
theorem lookup_byNameArguments (hnodup : kind.schema.names.Nodup) {count : Nat}
    (hf : f ∈ kind.schema.fields.drop count) (given : List (String × Value)) (x : Value)
    (name : String) :
    (kind.byNameArguments count ((f.name, x) :: given)).lookup name =
      if name = f.name then some x else (kind.byNameArguments count given).lookup name := by
  rw [byNameArguments, byNameArguments, lookup_map_name, lookup_map_name]
  split
  · next h =>
    have hnames : ((kind.schema.fields.drop count).map (·.name)).Nodup :=
      ((List.drop_sublist count kind.schema.fields).map _).nodup hnodup
    rw [h, find?_name_of_mem hnames hf]
    simp
  · next h =>
    cases hfind : (kind.schema.fields.drop count).find? (·.name == name) with
    | none => rfl
    | some g =>
      have hg := List.find?_some hfind
      rw [beq_iff_eq] at hg
      have hne : (g.name == f.name) = false := beq_eq_false_iff_ne.2 fun heq => h (hg ▸ heq)
      simp [List.lookup_cons, hne]

/-- A field that no position reaches gets nothing by position. -/
theorem lookup_positions (hnodup : kind.schema.names.Nodup) {args : List Value}
    (hf : f ∈ kind.schema.fields.drop args.length) :
    (kind.schema.names.zip args).lookup f.name = none := by
  rw [List.lookup_eq_none_iff]
  rintro ⟨name, v⟩ hmem
  obtain ⟨i, hi, heq⟩ := List.mem_iff_getElem.1 hmem
  rw [List.length_zip] at hi
  rw [List.getElem_zip, Prod.mk.injEq] at heq
  have htake : name ∈ kind.schema.names.take args.length := by
    rw [← heq.1]
    exact List.mem_take_iff_getElem.2 ⟨i, by omega, rfl⟩
  have hdrop : f.name ∈ kind.schema.names.drop args.length := by
    rw [Schema.names, ← List.map_drop]
    exact List.mem_map_of_mem hf
  simp only [bne_iff_ne, ne_eq]
  rintro rfl
  exact List.disjoint_take_drop hnodup le_rfl htake hdrop

/-- The arguments of a call with a value by position: there are none whatever the value is, or they are
what is given by position and by name. -/
theorem bind?_cases_of_positions (before after : List Value) (given : List (String × Value)) :
    (∀ x, kind.builder.signature.bind? (before ++ x :: after) given = none) ∨
      ∀ x, ∃ a, kind.builder.signature.bind? (before ++ x :: after) given = some a ∧
        a.bound = kind.arguments (before ++ x :: after) given := by
  simp only [bind?_eq, complete?_eq, arguments, List.length_append, List.length_cons]
  split
  · exact .inl fun x => rfl
  · split
    · split
      · refine .inr fun x => ⟨_, rfl, ?_⟩
        rw [byName, List.map_map]
        rfl
      · exact .inl fun x => rfl
    · exact .inl fun x => rfl

/-- The arguments of a call with a value for a field by name: there are none whatever the value is, or
they are what is given by position and by name. -/
theorem bind?_cases (f : Field) (args : List Value) (given : List (String × Value)) :
    (∀ x, kind.builder.signature.bind? args ((f.name, x) :: given) = none) ∨
      (∃ p ∈ kind.byName args.length, p.name = f.name) ∧
        ∀ x, ∃ a, kind.builder.signature.bind? args ((f.name, x) :: given) = some a ∧
          a.bound = kind.arguments args ((f.name, x) :: given) := by
  have hfilled : ∀ x, ((kind.byName args.length).all fun p =>
      ((((f.name, x) :: given).lookup p.name).or p.default?).isSome) =
        (kind.byName args.length).all fun p =>
          ((((f.name, Value.null) :: given).lookup p.name).or p.default?).isSome := fun x => by
    refine congrArg _ (funext fun p => ?_)
    rw [List.lookup_cons, List.lookup_cons]
    cases p.name == f.name <;> rfl
  have harguments : ∀ x, (kind.byName args.length).map (fun p =>
      (p.name, ((((f.name, x) :: given).lookup p.name).or p.default?).getD Value.null)) =
        kind.byNameArguments args.length ((f.name, x) :: given) := fun x => by
    rw [byName, byNameArguments, List.map_map]
    rfl
  simp only [bind?_eq, complete?_eq, hfilled, harguments, List.all_cons]
  split
  · exact .inl fun x => rfl
  · split
    · next hnames =>
      split
      · rw [Bool.and_eq_true, List.any_eq_true] at hnames
        obtain ⟨p, hp, hname⟩ := hnames.1
        exact .inr ⟨⟨p, hp, beq_iff_eq.1 hname⟩, fun x => ⟨_, rfl, rfl⟩⟩
      · exact .inl fun x => rfl
    · exact .inl fun x => rfl

/-- Where a value stands for a field in a call of the builder of a kind: by name, or by position. -/
inductive Place (kind : Kind) (f : Field)
  | byName (args : List Value) (given : List (String × Value))
  | byPosition (before after : List Value) (given : List (String × Value))
    (reaches : before.length = kind.schema.names.idxOf f.name)

/-- What comes of calling the builder of a kind with a value for a field. -/
def Place.outcome : Place kind f → Value → Except Failure Value
  | .byName args given, x => (kind.builder.call args ((f.name, x) :: given)).result
  | .byPosition before after given _, x => (kind.builder.call (before ++ x :: after) given).result

/-- A value that is given by position changes what its field gets. -/
theorem exists_split_of_position (hnodup : kind.schema.names.Nodup) (hf : f ∈ kind.schema.fields)
    {before : List Value} (reaches : before.length = kind.schema.names.idxOf f.name)
    (after : List Value) (given : List (String × Value)) :
    ∃ fs gs pre post, kind.schema.fields = fs ++ f :: gs ∧ pre.length = fs.length ∧
      ∀ x, Entity.complete kind (kind.arguments (before ++ x :: after) given) = pre ++ x :: post := by
  obtain ⟨ns, ms, hnames⟩ := List.append_of_mem (List.mem_map_of_mem hf (f := Field.name))
  replace hnames : kind.schema.names = ns ++ f.name :: ms := hnames
  have hnotmem : f.name ∉ ns := fun h => by
    rw [hnames, List.nodup_append] at hnodup
    exact hnodup.2.2 _ h _ List.mem_cons_self rfl
  have hlength : ns.length = before.length := by
    rw [reaches, hnames, List.idxOf_append_of_notMem hnotmem, List.idxOf_cons_self, Nat.add_zero]
  have hzip : ∀ x, kind.schema.names.zip (before ++ x :: after) =
      ns.zip before ++ (f.name, x) :: ms.zip after := fun x => by
    rw [hnames, List.zip_append hlength, List.zip_cons_cons]
  have hbefore : (ns.zip before).lookup f.name = none := by
    rw [List.lookup_eq_none_iff]
    rintro ⟨name, v⟩ hmem
    simp only [bne_iff_ne, ne_eq]
    rintro rfl
    exact hnotmem (List.of_mem_zip hmem).1
  refine Entity.exists_split hnodup hf
    (fun x name => (kind.arguments (before ++ x :: after) given).lookup name)
    (fun name => (ns.zip before ++ ms.zip after ++
      kind.byNameArguments (before.length + (after.length + 1)) given).lookup name)
    (fun x => ?_) fun x name hne => ?_
  · rw [arguments, hzip, List.append_assoc, List.lookup_append, hbefore, List.cons_append,
      List.lookup_cons_self]
    rfl
  · have hne' : (name == f.name) = false := beq_eq_false_iff_ne.2 hne
    simp only [arguments, hzip, List.lookup_append, List.lookup_cons, hne', List.length_append,
      List.length_cons, Option.or_assoc]

/-- A value that is given by name changes what its field gets. -/
theorem exists_split_of_name (hnodup : kind.schema.names.Nodup) {args : List Value}
    (hf : f ∈ kind.schema.fields.drop args.length) (given : List (String × Value)) :
    ∃ fs gs pre post, kind.schema.fields = fs ++ f :: gs ∧ pre.length = fs.length ∧
      ∀ x, Entity.complete kind (kind.arguments args ((f.name, x) :: given)) = pre ++ x :: post := by
  refine Entity.exists_split hnodup (List.mem_of_mem_drop hf)
    (fun x name => (kind.arguments args ((f.name, x) :: given)).lookup name)
    (fun name => (kind.arguments args given).lookup name) (fun x => ?_) fun x name hne => ?_
  · rw [arguments, List.lookup_append, lookup_positions hnodup hf, lookup_byNameArguments hnodup hf,
      if_pos rfl]
    rfl
  · rw [arguments, arguments, List.lookup_append, List.lookup_append,
      lookup_byNameArguments hnodup hf, if_neg hne]

/-- **A call with a value for a field** fails whatever the value is, or comes to an entity made of the
value and of others beside it that do not depend on it. -/
theorem Place.outcome_cases (hnodup : kind.schema.names.Nodup) (hf : f ∈ kind.schema.fields)
    (place : Place kind f) :
    (∀ x, place.outcome x = .error (.plain .wrongType)) ∨
      ∃ fs gs pre post, kind.schema.fields = fs ++ f :: gs ∧ pre.length = fs.length ∧
        ∀ x, place.outcome x = Entity.make? kind (pre ++ x :: post) := by
  have hmade : ∀ {args given a}, kind.builder.signature.bind? args given = some a →
      a.bound = kind.arguments args given → (kind.builder.call args given).result =
        Entity.make? kind (Entity.complete kind (kind.arguments args given)) := by
    intro args given a ha hbound
    rw [Builder.call, ha]
    show Entity.of kind a.bound = _
    rw [hbound]
    rfl
  cases place with
  | byName args given =>
    obtain hnone | ⟨⟨p, hp, hname⟩, hbind⟩ := kind.bind?_cases f args given
    · exact .inl fun x => by rw [outcome, Builder.call, hnone]; rfl
    · obtain ⟨g, hg, rfl⟩ := List.mem_map.1 hp
      obtain rfl : g = f := List.inj_on_of_nodup_map hnodup (List.mem_of_mem_drop hg) hf hname
      obtain ⟨fs, gs, pre, post, hfields, hpre, hvalues⟩ := exists_split_of_name hnodup hg given
      refine .inr ⟨fs, gs, pre, post, hfields, hpre, fun x => ?_⟩
      obtain ⟨a, ha, hbound⟩ := hbind x
      rw [outcome, hmade ha hbound, hvalues]
  | byPosition before after given reaches =>
    obtain ⟨fs, gs, pre, post, hfields, hpre, hvalues⟩ :=
      exists_split_of_position hnodup hf reaches after given
    obtain hnone | hbind := kind.bind?_cases_of_positions before after given
    · exact .inl fun x => by rw [outcome, Builder.call, hnone]; rfl
    · refine .inr ⟨fs, gs, pre, post, hfields, hpre, fun x => ?_⟩
      obtain ⟨a, ha, hbound⟩ := hbind x
      rw [outcome, hmade ha hbound, hvalues]

/-- **An entity is made of a value as it is taken for the type of its field**, unless nothing can be
made of what is given besides, whatever the value is. -/
theorem Place.built_cases (hkind : kind.isProjected = true) (hf : f ∈ kind.schema.fields)
    (hname : f.name ≠ "expr") (place : Place kind f) :
    (∃ e, ∀ x, place.outcome x = .error e) ∨
      ∃ k : Value → Except Failure Value, ∀ x, place.outcome x = (f.type.coerce x).bind k := by
  obtain hnone | ⟨fs, gs, pre, post, hfields, hpre, hmade⟩ :=
    place.outcome_cases (wellKeyed_of_isProjected hkind).names_nodup hf
  · exact .inl ⟨_, hnone⟩
  · simp only [hmade]
    exact Entity.make_cases hfields hpre hkind hname post

end Kind

end MonitoringConfig
