import MonitoringConfig.Proofs.Projection.Reading
/-!
# What becomes of a mapping that is read as an entity

Reading an entity ends in one of four ways: the mapping has the envelope of another kind, something
in a field is not read, a field that must be given is missing, or the entity is made. Nothing else
can go wrong, because what was read for the fields of an entity can always be put together.

* `Entity.fieldAt?` : what is read for a field of a mapping.
* `Entity.finish_spec` : an entity is made of what was read, if nothing is missing.
* `Entity.readEntries_ok`, `Entity.readEntries_error` : **what holds of a mapping that is read, and
  of one that is not.**
-/

namespace MonitoringConfig

open Logged

/-! ### Every kind that is read -/

/-- Defaults are not read once more, and no field but that of rules is an expression. -/
theorem Kind.coerce_default {kind : Kind} (h : kind.isProjected = true) {f : Field}
    (hf : f ∈ kind.schema.fields) : ∃ w, f.type.coerce (f.default?.getD .null) = .ok w := by
  have hdefaults : ∀ kind ∈ projected, ∀ f ∈ kind.schema.fields,
      (f.type.coerce (f.default?.getD .null)).toOption.isSome = true := by decide +kernel
  have hsome := hdefaults kind (mem_of_isProjected h) f hf
  cases hcoerce : f.type.coerce (f.default?.getD .null) with
  | ok w => exact ⟨w, rfl⟩
  | error e =>
    rw [hcoerce] at hsome
    cases hsome

/-- The expression of a rule is a text and must be given. -/
theorem Kind.expr_of_name {kind : Kind} (h : kind.isProjected = true) {f : Field}
    (hf : f ∈ kind.schema.fields) (hname : f.name = "expr") :
    f.type = .text ∧ f.isRequired = true := by
  have hexpr : ∀ kind ∈ projected, ∀ f ∈ kind.schema.fields, f.name = "expr" →
      f.type = .text ∧ f.isRequired = true := by decide +kernel
  exact hexpr kind (mem_of_isProjected h) f hf hname

/-! ### Expressions -/

namespace Value

/-- Whether a value is an expression. -/
def isExpr : Value → Bool
  | expr _ => true
  | _ => false

/-- Whether there are no expressions in a value. -/
def hasNoExpr (v : Value) : Bool :=
  v.everywhere fun v => !v.isExpr

theorem isExpr_of_hasNoExpr {v : Value} (h : v.hasNoExpr = true) : v.isExpr = false := by
  cases v with
  | expr e => cases h
  | _ => rfl

theorem isExpr_of_decode_text {d v : Value} {style : Style} (hd : d.isExpr = false)
    (h : (d.decode .text style).result = .ok v) : v.isExpr = false := by
  cases d with
  | null => cases h; rfl
  | expr e => cases hd
  | _ =>
    rw [decode_scalar (by simp) rfl] at h
    cases h
    rfl

end Value

theorem renderExpr_of_not_isExpr {v : Value} (h : v.isExpr = false) : renderExpr v = .ok v := by
  cases v with
  | expr e => cases h
  | _ => rfl

/-! ### Making entities of what was read -/

namespace Entity

variable {kind : Kind} {given : List (String × Value)}

theorem coerceFields_map {fs : List Field} {g : Field → Value}
    (h : ∀ f ∈ fs, ∃ w, f.type.coerce (g f) = .ok w) : ∃ ws, coerceFields fs (fs.map g) = .ok ws := by
  induction fs with
  | nil => exact ⟨[], rfl⟩
  | cons f fs ih =>
    obtain ⟨⟨w, hw⟩, hfs⟩ := List.forall_mem_cons.1 h
    obtain ⟨ws, hws⟩ := ih hfs
    refine ⟨w :: ws, ?_⟩
    rw [List.map_cons, coerceFields, hw, hws]
    rfl

theorem mapM_renderExpr_map {fs : List Field} {g : Field → Value} {name : String}
    (h : ∀ f ∈ fs, f.name = name → (g f).isExpr = false) :
    ((fs.zip (fs.map g)).mapM fun (f, v) => if f.name == name then renderExpr v else pure v) =
      .ok (fs.map g) := by
  induction fs with
  | nil => rfl
  | cons f fs ih =>
    obtain ⟨hf, hfs⟩ := List.forall_mem_cons.1 h
    have hhead : (if f.name == name then renderExpr (g f) else pure (g f)) = .ok (g f) := by
      split
      · next hname => exact renderExpr_of_not_isExpr (hf (beq_iff_eq.1 hname))
      · rfl
    simp only [List.map_cons, List.zip_cons_cons, List.mapM_cons, hhead, ih hfs]
    rfl

/-- An entity can be made of values that are taken as they are for their fields, if none is an
expression. -/
theorem exists_make (hkind : kind.isProjected = true)
    (hcoerce : ∀ f ∈ kind.schema.fields, ∀ w, given.lookup f.name = some w → f.type.coerce w = .ok w)
    (hexpr : ∀ f ∈ kind.schema.fields, f.name = "expr" →
      ∀ w, given.lookup f.name = some w → w.isExpr = false) :
    ∃ ws, make? kind (complete kind given) = .ok (.entity kind ws) := by
  have hfields : ∃ ws, coerceFields kind.schema.fields (complete kind given) = .ok ws := by
    refine coerceFields_map fun f hf => ?_
    cases hgiven : given.lookup f.name with
    | some w => exact ⟨w, hcoerce f hf w hgiven⟩
    | none => exact Kind.coerce_default hkind hf
  obtain ⟨ws, hws⟩ := hfields
  have hrendered : ∀ name, exprField? kind = some name →
      ((kind.schema.fields.zip (complete kind given)).mapM fun (f, v) =>
        if f.name == name then renderExpr v else pure v) = .ok (complete kind given) := by
    intro name hname
    -- The expression of a rule must be given, so there is no default in its place.
    have hrule : ∀ kind ∈ [Kind.recordingRule, .alertingRule], exprField? kind = some "expr" ∧
        ∀ f ∈ kind.schema.fields, f.name = "expr" → f.default?.isNone = true := by decide
    have hmem : kind ∈ [Kind.recordingRule, .alertingRule] := by
      revert hname
      cases kind <;> simp [exprField?]
    obtain ⟨hfield, hdefault⟩ := hrule kind hmem
    obtain rfl : "expr" = name := Option.some.inj (hfield.symm.trans hname)
    refine mapM_renderExpr_map fun f hf hf' => ?_
    rw [Option.isNone_iff_eq_none.1 (hdefault f hf hf')]
    cases hgiven : given.lookup f.name with
    | some w => exact hexpr f hf hf' w hgiven
    | none => rfl
  refine ⟨ws, ?_⟩
  rw [make?]
  cases hname : exprField? kind with
  | none =>
    simp only [pure_bind, hkind, if_true, hws]
    rfl
  | some name =>
    simp only [hrendered name hname, hkind, if_true, bind, Except.bind, hws]
    rfl

/-- **An entity is made of what was read**, if nothing that must be given is missing. -/
theorem finish_spec (hkind : kind.isProjected = true)
    (hcoerce : ∀ f ∈ kind.schema.fields, ∀ w, given.lookup f.name = some w → f.type.coerce w = .ok w)
    (hexpr : ∀ f ∈ kind.schema.fields, f.name = "expr" →
      ∀ w, given.lookup f.name = some w → w.isExpr = false) :
    if missing kind given = [] then ∃ ws, (finish kind given).result = .ok (.entity kind ws)
    else (finish kind given).result = .error (.missingFields kind.name (missing kind given)) := by
  split
  · next hnone =>
    rw [finish, hnone]
    exact exists_make hkind hcoerce hexpr
  · next hsome =>
    rw [finish]
    split
    · next hnone => exact absurd hnone hsome
    · rfl

/-! ### What is read of a mapping -/

/-- The entries of a mapping that stand for fields, those of an envelope taken away. -/
def fieldEntries (kind : Kind) (es : List (Value × Value)) : List (Value × Value) :=
  if kind.schema.envelope?.isSome then
    es.filter fun e => !(e.1.equal (.text "apiVersion") || e.1.equal (.text "kind"))
  else es

/-- What is read for a field of a mapping. In place of the rules of a group, what counts as false is
not read. -/
def fieldAt? (kind : Kind) (es : List (Value × Value)) (style : Style) (f : Field) :
    Option Value :=
  (givenAt? (fieldEntries kind es) (f.key (kind.schema.styleIn style))).filter fun v =>
    !(kind == .ruleGroup && f.name == "rules") || v.isTruthy

/-- The fields that must be given and for which nothing stands in a mapping. -/
def missingAt (kind : Kind) (es : List (Value × Value)) (style : Style) : List String :=
  (kind.schema.fields.filter fun f => f.isRequired && (fieldAt? kind es style f).isNone).map (·.name)

variable {es : List (Value × Value)} {style : Style}

theorem dropEnvelope_decodeEntries (kind : Kind) (es : List (Value × Value)) :
    dropEnvelope kind (Value.decodeEntries es) = Value.decodeEntries (fieldEntries kind es) := by
  rw [dropEnvelope, fieldEntries]
  split
  · rw [Value.decodeEntries_eq_map, Value.decodeEntries_eq_map, List.filter_map]
    rfl
  · rfl

theorem filter_eq_self {α : Type} {p : α → Bool} {o : Option α} (h : ∀ a, p a = true) :
    o.filter p = o := by
  cases o <;> simp [h]

theorem fieldAt?_of_ne (h : kind ≠ .ruleGroup) (f : Field) : fieldAt? kind es style f =
    givenAt? (fieldEntries kind es) (f.key (kind.schema.styleIn style)) := by
  rw [fieldAt?, beq_eq_false_iff_ne.2 h]
  exact filter_eq_self fun _ => rfl

theorem mem_of_fieldAt? {f : Field} {v : Value} (h : fieldAt? kind es style f = some v) :
    ∃ e ∈ es, e.2 = v := by
  obtain ⟨e, he, hv⟩ := exists_of_givenAt? (Option.filter_eq_some_iff.1 h).1
  refine ⟨e, ?_, hv⟩
  rw [fieldEntries] at he
  split at he
  · exact List.mem_of_mem_filter he
  · exact he

/-- The rules of a group are read as any list, unless what stands there counts as false. -/
theorem result_readRules (es : List (Value × Value)) (style : Style) :
    (readRules (Value.decodeEntries es) style).result =
      match (givenAt? es "rules").filter fun v => v.isTruthy with
      | some v => (v.decode (.listOf .rule) style).result
      | none => .ok (.list []) := by
  rw [readRules, entry?_decodeEntries, givenAt?]
  cases (es.find? fun e => e.1.equal (.text "rules")).filter fun e => !e.2.isNull with
  | none => rfl
  | some e =>
    simp only [Option.map_some, Option.filter_some]
    split
    · rfl
    · rfl

/-- What is not read of fields is not read of one of them. -/
theorem exists_of_readFields_error {fs : List Field} {e : Failure}
    (h : (readFields (Value.decodeEntries es) style fs).result = .error e) :
    ∃ f ∈ fs, ∃ v, givenAt? es (f.key style) = some v ∧ (v.decode f.type style).result = .error e := by
  induction fs with
  | nil => cases h
  | cons f fs ih =>
    rw [readFields_cons] at h
    have htail : (readFields (Value.decodeEntries es) style fs).result = .error e → _ := ih
    cases hv : givenAt? es (f.key style) with
    | none =>
      rw [hv] at h
      obtain ⟨g, hg, hread⟩ := htail h
      exact ⟨g, List.mem_cons_of_mem _ hg, hread⟩
    | some v =>
      simp only [hv] at h
      cases hread : (v.decode f.type style).result with
      | error e' =>
        rw [hread] at h
        cases h
        exact ⟨f, List.mem_cons_self, v, hv, hread⟩
      | ok w =>
        rw [hread] at h
        cases hfs : (readFields (Value.decodeEntries es) style fs).result with
        | ok rest =>
          rw [hfs] at h
          cases h
        | error e' =>
          rw [hfs] at h
          cases h
          obtain ⟨g, hg, hread⟩ := htail hfs
          exact ⟨g, List.mem_cons_of_mem _ hg, hread⟩

/-- What was given for the fields of an entity is what stands for them in a mapping. Only for the
rules of a group are there values where nothing is read, namely none. -/
def Agrees (kind : Kind) (es : List (Value × Value)) (style : Style)
    (given : List (String × Value)) : Prop :=
  ∀ f ∈ kind.schema.fields, match fieldAt? kind es style f with
    | some v => ∃ w, (v.decode f.type (kind.schema.styleIn style)).result = .ok w ∧
        given.lookup f.name = some w
    | none => given.lookup f.name = none ∨
        f.isRequired = false ∧ f.type = .listOf .rule ∧ given.lookup f.name = some (.list [])

/-- What stands for a field was read, and is given for the field. -/
theorem Agrees.of_some (h : Agrees kind es style given) {f : Field} (hf : f ∈ kind.schema.fields)
    {v : Value} (hv : fieldAt? kind es style f = some v) :
    ∃ w, (v.decode f.type (kind.schema.styleIn style)).result = .ok w ∧
      given.lookup f.name = some w := by
  have hread := h f hf
  rwa [hv] at hread

theorem Agrees.of_none (h : Agrees kind es style given) {f : Field} (hf : f ∈ kind.schema.fields)
    (hnone : fieldAt? kind es style f = none) : given.lookup f.name = none ∨
      f.isRequired = false ∧ f.type = .listOf .rule ∧ given.lookup f.name = some (.list []) := by
  have hread := h f hf
  rwa [hnone] at hread

theorem agrees_of_readFields (hkind : kind.isProjected = true) (hgroup : kind ≠ .ruleGroup)
    (h : (readFields (Value.decodeEntries (fieldEntries kind es)) (kind.schema.styleIn style)
      kind.schema.fields).result = .ok given) : Agrees kind es style given := by
  obtain ⟨-, hfields⟩ :=
    lookup_of_readFields (Kind.wellKeyed_of_isProjected hkind).names_nodup h
  intro f hf
  have hlookup := hfields f hf
  rw [fieldAt?_of_ne hgroup]
  cases hv : givenAt? (fieldEntries kind es) (f.key (kind.schema.styleIn style)) with
  | some v =>
    rw [hv] at hlookup
    exact hlookup
  | none =>
    rw [hv] at hlookup
    exact .inl hlookup

/-- The field of the rules of a group is the only one of its name. -/
theorem rules_of_ruleGroup (style : Style) {f : Field} (hf : f ∈ Kind.ruleGroup.schema.fields)
    (hname : f.name = "rules") :
    f.isRequired = false ∧ f.type = .listOf .rule ∧
      f.key (Kind.ruleGroup.schema.styleIn style) = "rules" := by
  have hrules : ∀ f ∈ Kind.ruleGroup.schema.fields, f.name = "rules" →
      f.isRequired = false ∧ f.type = .listOf .rule ∧ f.key .snake = "rules" := by decide
  exact hrules f hf hname

theorem agrees_of_readRules {rules : Value}
    (hrules : (readRules (Value.decodeEntries (fieldEntries .ruleGroup es))
      (Kind.ruleGroup.schema.styleIn style)).result = .ok rules)
    (h : (readFields (Value.decodeEntries (fieldEntries .ruleGroup es))
      (Kind.ruleGroup.schema.styleIn style)
      (Kind.ruleGroup.schema.fields.filter fun f =>
        (([("rules", rules)] : List (String × Value)).lookup f.name).isNone)).result = .ok given) :
    Agrees .ruleGroup es style ([("rules", rules)] ++ given) := by
  have hnodup : ((Kind.ruleGroup.schema.fields.filter fun f =>
      (([("rules", rules)] : List (String × Value)).lookup f.name).isNone).map (·.name)).Nodup :=
    (List.filter_sublist.map _).nodup (@Kind.wellKeyed_of_isProjected .ruleGroup rfl).names_nodup
  obtain ⟨-, hfields⟩ := lookup_of_readFields hnodup h
  intro f hf
  by_cases hname : f.name = "rules"
  · obtain ⟨hrequired, htype, hkey⟩ := rules_of_ruleGroup style hf hname
    have hlookup : ([("rules", rules)] ++ given).lookup f.name = some rules := by
      rw [hname]
      simp
    rw [result_readRules] at hrules
    rw [hlookup, fieldAt?, hkey, htype, hname]
    simp only [beq_self_eq_true, Bool.and_self, Bool.not_true, Bool.false_or]
    cases hv : (givenAt? (fieldEntries .ruleGroup es) "rules").filter fun v => v.isTruthy with
    | some v =>
      rw [hv] at hrules
      exact ⟨rules, hrules, rfl⟩
    -- Nothing stands for the rules: that there are none is not read of anything.
    | none =>
      rw [hv] at hrules
      cases hrules
      exact .inr ⟨hrequired, trivial, rfl⟩
  · have hskip : ([("rules", rules)] : List (String × Value)).lookup f.name = none := by
      rw [List.lookup_cons, beq_eq_false_iff_ne.2 hname]
      rfl
    have hlookup : ([("rules", rules)] ++ given).lookup f.name = given.lookup f.name := by
      rw [List.lookup_append, hskip, Option.none_or]
    have hfield := hfields f (List.mem_filter.2 ⟨hf, by rw [hskip]; rfl⟩)
    rw [hlookup, fieldAt?, filter_eq_self fun _ => by simp [hname]]
    cases hv : givenAt? (fieldEntries .ruleGroup es) (f.key (Kind.ruleGroup.schema.styleIn style)) with
    | some v =>
      rw [hv] at hfield
      exact hfield
    | none =>
      rw [hv] at hfield
      exact .inl hfield

/-- What must be given and is not is missing in the mapping. -/
theorem Agrees.missing_eq (h : Agrees kind es style given) :
    missing kind given = missingAt kind es style := by
  rw [missing, missingAt]
  refine congrArg _ (List.filter_congr fun f hf => ?_)
  cases hv : fieldAt? kind es style f with
  | some v =>
    obtain ⟨w, -, hlookup⟩ := h.of_some hf hv
    rw [hlookup]
    rfl
  | none =>
    obtain hlookup | ⟨hrequired, -, -⟩ := h.of_none hf hv
    · rw [hlookup]
    · rw [hrequired]
      rfl

theorem Agrees.finish_spec (hkind : kind.isProjected = true) (h : Agrees kind es style given)
    (hexpr : ∀ e ∈ es, e.2.isExpr = false) :
    if missingAt kind es style = [] then
      ∃ ws, (finish kind given).result = .ok (.entity kind ws)
    else (finish kind given).result =
      .error (.missingFields kind.name (missingAt kind es style)) := by
  rw [← h.missing_eq]
  refine Entity.finish_spec hkind (fun f hf w hw => ?_) fun f hf hname w hw => ?_
  · cases hv : fieldAt? kind es style f with
    | some v =>
      obtain ⟨w', hread, hlookup⟩ := h.of_some hf hv
      obtain rfl : w' = w := Option.some.inj (hlookup.symm.trans hw)
      exact FieldType.coerce_of_decode hread
    | none =>
      obtain hlookup | ⟨-, htype, hlookup⟩ := h.of_none hf hv
      · rw [hlookup] at hw
        cases hw
      · rw [hlookup] at hw
        cases hw
        rw [htype]
        rfl
  · obtain ⟨htype, hrequired⟩ := Kind.expr_of_name hkind hf hname
    cases hv : fieldAt? kind es style f with
    | some v =>
      obtain ⟨w', hread, hlookup⟩ := h.of_some hf hv
      obtain rfl : w' = w := Option.some.inj (hlookup.symm.trans hw)
      obtain ⟨e, he, rfl⟩ := mem_of_fieldAt? hv
      rw [htype] at hread
      exact Value.isExpr_of_decode_text (hexpr e he) hread
    | none =>
      obtain hlookup | ⟨hoptional, -⟩ := h.of_none hf hv
      · rw [hlookup] at hw
        cases hw
      · rw [hrequired] at hoptional
        cases hoptional

/-! ### The outcomes -/

/-- Reading an entity, without what is said on the way. -/
theorem result_readEntries_eq (kind : Kind) (es : List (Value × Value)) (style : Style) :
    (readEntries kind (Value.decodeEntries es) style).result =
      (checkEnvelope kind (Value.decodeEntries es)).bind fun _ =>
        (if kind = .ruleGroup then
          (readRules (Value.decodeEntries (fieldEntries kind es))
            (kind.schema.styleIn style)).result.map fun v => [("rules", v)]
          else .ok []).bind fun first =>
        (readFields (Value.decodeEntries (fieldEntries kind es)) (kind.schema.styleIn style)
          (kind.schema.fields.filter fun f => (first.lookup f.name).isNone)).result.bind fun given =>
        (finish kind (first ++ given)).result := by
  simp only [readEntries, dropEnvelope_decodeEntries, result_bind, result_ofExcept]
  refine congrArg _ (funext fun _ => ?_)
  split
  · next hgroup =>
    rw [if_pos (beq_iff_eq.1 hgroup)]
    simp only [result_bind, result_map, result_ite_say]
  · next hgroup =>
    rw [if_neg (by simpa using hgroup)]
    simp only [result_bind, result_pure, result_ite_say]

/-- The rules of a group that are not read stand in its mapping. -/
theorem exists_of_readRules_error {e : Failure}
    (h : (readRules (Value.decodeEntries (fieldEntries .ruleGroup es))
      (Kind.ruleGroup.schema.styleIn style)).result = .error e) :
    ∃ f ∈ Kind.ruleGroup.schema.fields, ∃ v, fieldAt? .ruleGroup es style f = some v ∧
      (v.decode f.type (Kind.ruleGroup.schema.styleIn style)).result = .error e := by
  have hmem : rulesField ∈ Kind.ruleGroup.schema.fields := by
    simp [rulesField, Kind.schema, Schema.ruleGroup]
  obtain ⟨-, htype, hkey⟩ := rules_of_ruleGroup style hmem rfl
  rw [result_readRules] at h
  split at h
  · next v hv =>
    refine ⟨rulesField, hmem, v, ?_, by rw [htype]; exact h⟩
    rw [fieldAt?, hkey]
    exact hv
  · cases h

/-- The ways in which reading an entity can go. -/
theorem readEntries_cases (hkind : kind.isProjected = true) (es : List (Value × Value))
    (style : Style) :
    (∃ e, checkEnvelope kind (Value.decodeEntries es) = .error e ∧
        (readEntries kind (Value.decodeEntries es) style).result = .error e) ∨
      checkEnvelope kind (Value.decodeEntries es) = .ok () ∧
        ((∃ e, (∃ f ∈ kind.schema.fields, ∃ v, fieldAt? kind es style f = some v ∧
              (v.decode f.type (kind.schema.styleIn style)).result = .error e) ∧
            (readEntries kind (Value.decodeEntries es) style).result = .error e) ∨
          ∃ given, Agrees kind es style given ∧
            (readEntries kind (Value.decodeEntries es) style).result = (finish kind given).result) := by
  rw [result_readEntries_eq]
  cases checkEnvelope kind (Value.decodeEntries es) with
  | error e => exact .inl ⟨e, rfl, rfl⟩
  | ok u =>
    refine .inr ⟨rfl, ?_⟩
    -- Of a group the rules are read first, and the other fields behind them.
    by_cases hgroup : kind = .ruleGroup
    · subst hgroup
      rw [if_pos rfl]
      cases hrules : (readRules (Value.decodeEntries (fieldEntries .ruleGroup es))
          (Kind.ruleGroup.schema.styleIn style)).result with
      | error e => exact .inl ⟨e, exists_of_readRules_error hrules, rfl⟩
      | ok rules =>
        simp only [Except.bind, Except.map]
        cases hgiven : (readFields (Value.decodeEntries (fieldEntries .ruleGroup es))
            (Kind.ruleGroup.schema.styleIn style) (Kind.ruleGroup.schema.fields.filter fun f =>
              (([("rules", rules)] : List (String × Value)).lookup f.name).isNone)).result with
        | error e =>
          obtain ⟨f, hf, v, hv, hread⟩ := exists_of_readFields_error hgiven
          obtain ⟨hmem, hname⟩ := List.mem_filter.1 hf
          have hne : f.name ≠ "rules" := by
            intro heq
            rw [heq] at hname
            simp at hname
          refine .inl ⟨e, ⟨f, hmem, v, ?_, hread⟩, rfl⟩
          rw [fieldAt?, filter_eq_self fun _ => by simp [hne]]
          exact hv
        | ok given => exact .inr ⟨_, agrees_of_readRules hrules hgiven, rfl⟩
    · rw [if_neg hgroup]
      simp only [Except.bind, List.lookup_nil, Option.isNone_none, List.filter_true,
        List.nil_append]
      cases hgiven : (readFields (Value.decodeEntries (fieldEntries kind es))
          (kind.schema.styleIn style) kind.schema.fields).result with
      | error e =>
        obtain ⟨f, hf, v, hv, hread⟩ := exists_of_readFields_error hgiven
        exact .inl ⟨e, ⟨f, hf, v, (fieldAt?_of_ne hgroup f).trans hv, hread⟩, rfl⟩
      | ok given => exact .inr ⟨given, agrees_of_readFields hkind hgroup hgiven, rfl⟩

theorem eq_entity_of_make {fields : List Value} {y : Value} (h : make? kind fields = .ok y) :
    ∃ ws, y = .entity kind ws := by
  have hmade : ∀ fields : List Value, (if kind.isProjected = true then do
        return Value.entity kind (← coerceFields kind.schema.fields fields)
      else return Value.entity kind fields) = Except.ok y → ∃ ws, y = .entity kind ws := by
    intro fields h
    split at h
    · obtain ⟨ws, -, h⟩ := bind_eq_ok.1 h
      exact ⟨ws, (Except.ok.inj h).symm⟩
    · exact ⟨fields, (Except.ok.inj h).symm⟩
  rw [make?] at h
  split at h
  · exact hmade fields h
  · obtain ⟨rendered, -, h⟩ := bind_eq_ok.1 h
    exact hmade rendered h

theorem eq_entity_of_finish {y : Value} (h : (finish kind given).result = .ok y) :
    missing kind given = [] ∧ ∃ ws, y = .entity kind ws := by
  rw [finish] at h
  split at h
  · next hnone =>
    exact ⟨hnone, eq_entity_of_make h⟩
  · cases h

/-- **A mapping that is read is an entity of the kind**, its envelope is that of the kind, every
field for which something stands in it is read, and no field is missing. -/
theorem readEntries_ok (hkind : kind.isProjected = true) {y : Value}
    (h : (readEntries kind (Value.decodeEntries es) style).result = .ok y) :
    (∃ ws, y = .entity kind ws) ∧ checkEnvelope kind (Value.decodeEntries es) = .ok () ∧
      missingAt kind es style = [] ∧
      ∀ f ∈ kind.schema.fields, ∀ v, fieldAt? kind es style f = some v →
        ∃ w, (v.decode f.type (kind.schema.styleIn style)).result = .ok w := by
  obtain ⟨e, -, hresult⟩ | ⟨hcheck, ⟨e, -, hresult⟩ | ⟨given, hgiven, hresult⟩⟩ :=
    readEntries_cases hkind es style
  · rw [hresult] at h
    cases h
  · rw [hresult] at h
    cases h
  · rw [hresult] at h
    obtain ⟨hmissing, hentity⟩ := eq_entity_of_finish h
    refine ⟨hentity, hcheck, hgiven.missing_eq ▸ hmissing, fun f hf v hv => ?_⟩
    have hread := hgiven f hf
    rw [hv] at hread
    obtain ⟨w, hw, -⟩ := hread
    exact ⟨w, hw⟩

/-- **A mapping that is not read** has another envelope, or a field for which something stands in it
that is not read, or lacks a field. -/
theorem readEntries_error (hkind : kind.isProjected = true) (hexpr : ∀ e ∈ es, e.2.isExpr = false)
    {e : Failure} (h : (readEntries kind (Value.decodeEntries es) style).result = .error e) :
    checkEnvelope kind (Value.decodeEntries es) = .error e ∨
      checkEnvelope kind (Value.decodeEntries es) = .ok () ∧
        ((∃ f ∈ kind.schema.fields, ∃ v, fieldAt? kind es style f = some v ∧
            (v.decode f.type (kind.schema.styleIn style)).result = .error e) ∨
          missingAt kind es style ≠ [] ∧
            e = .missingFields kind.name (missingAt kind es style)) := by
  obtain ⟨e', hcheck, hresult⟩ | ⟨hcheck, ⟨e', hfield, hresult⟩ | ⟨given, hgiven, hresult⟩⟩ :=
    readEntries_cases hkind es style
  · rw [hresult] at h
    cases h
    exact .inl hcheck
  · rw [hresult] at h
    cases h
    exact .inr ⟨hcheck, .inl hfield⟩
  · have hfinish := hgiven.finish_spec hkind hexpr
    rw [hresult] at h
    split at hfinish
    · obtain ⟨ws, hws⟩ := hfinish
      rw [hws] at h
      cases h
    · next hmissing =>
      rw [hfinish] at h
      cases h
      exact .inr ⟨hcheck, .inr ⟨hmissing, rfl⟩⟩

end Entity

end MonitoringConfig
