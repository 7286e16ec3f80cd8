import Mathlib.Data.List.Perm.Basic
import MonitoringConfig.Proofs.Projection.Making
import MonitoringConfig.Proofs.Projection.Reread
/-!
# The order of keys, and keys that are not known

Plain data says the same if the entries of a mapping stand in another order, at any depth, and if
entries are put in where an entity is read under keys that it does not know.

* `Value.Alike` : values that are the same but for the order of entries.
* `Value.Rearranged` : data for a type with entries in another order and entries put in.
* `Entity.readEntries_alike` : entities are alike if what is read for their fields is.
* `Entity.read_rearranged` : **what is read of data that is rearranged is the same, but for the order of
  the entries of its mappings.**

What an entity knows depends on the style that is in force where it stands, so the relation is one
between data for a type in a style: it changes the style where the reading does.
-/

namespace MonitoringConfig

open Logged

/-! ### Lists whose members are related one by one -/

theorem forall_mem_iff_zip_snd {α β : Type} {as : List α} {bs : List β} (h : as.length = bs.length)
    {P : β → Prop} : (∀ b ∈ bs, P b) ↔ ∀ p ∈ as.zip bs, P p.2 := by
  conv_lhs => rw [← List.map_snd_zip (Nat.le_of_eq h.symm)]
  exact List.forall_mem_map

theorem forall₂_zip_iff {α β : Type} {R : α → β → Prop} {as : List α} {bs : List β} :
    List.Forall₂ R as bs ↔ as.length = bs.length ∧ ∀ p ∈ as.zip bs, R p.1 p.2 := by
  rw [List.forall₂_iff_zip]
  exact and_congr_right fun _ => ⟨fun h p hp => h hp, fun h a b hp => h (a, b) hp⟩

/-- Values that stand for others one by one, to which the same is related, can be chosen. -/
theorem exists_forall₂_of_forall₂ {α β γ δ : Type} {S : α → β → Prop} {P : α → γ → Prop}
    {Q : β → δ → Prop} {R : γ → δ → Prop} {as : List α} {bs : List β} {cs : List γ}
    (hS : List.Forall₂ S as bs) (hP : List.Forall₂ P as cs)
    (h : ∀ a b c, S a b → P a c → ∃ d, Q b d ∧ R c d) :
    ∃ ds, List.Forall₂ Q bs ds ∧ List.Forall₂ R cs ds := by
  induction hS generalizing cs with
  | nil =>
    cases hP
    exact ⟨[], .nil, .nil⟩
  | cons hab _ ih =>
    cases hP with
    | cons hac hrest =>
      obtain ⟨d, hQ, hR⟩ := h _ _ _ hab hac
      obtain ⟨ds, hQs, hRs⟩ := ih hrest
      exact ⟨d :: ds, .cons hQ hQs, .cons hR hRs⟩

/-! ### Values that are alike -/

namespace Value

/-- Values are the same but for the order of the entries of mappings. -/
inductive Alike : Value → Value → Prop
  | refl (v : Value) : Alike v v
  | list {vs ws : List Value} (hlength : vs.length = ws.length)
    (hitems : ∀ p ∈ vs.zip ws, Alike p.1 p.2) : Alike (.list vs) (.list ws)
  | tuple {vs ws : List Value} (hlength : vs.length = ws.length)
    (hitems : ∀ p ∈ vs.zip ws, Alike p.1 p.2) : Alike (.tuple vs) (.tuple ws)
  | map {es mid es' : List (Value × Value)} (hkeys : DistinctTexts es)
    (hsame : es.map (·.1) = mid.map (·.1)) (hvalues : ∀ p ∈ es.zip mid, Alike p.1.2 p.2.2)
    (hperm : mid.Perm es') : Alike (.map es) (.map es')
  | entity {kind : Kind} {vs ws : List Value} (hlength : vs.length = ws.length)
    (hfields : ∀ p ∈ vs.zip ws, Alike p.1 p.2) : Alike (.entity kind vs) (.entity kind ws)

theorem forall₂_of_keys {es es' : List (Value × Value)} (h : es.map (·.1) = es'.map (·.1)) :
    List.Forall₂ (fun e e' => e.1 = e'.1) es es' := by
  rw [← List.forall₂_eq_eq_eq, List.forall₂_map_left_iff, List.forall₂_map_right_iff] at h
  exact h

theorem equalList_self_iff {vs : List Value} :
    equalList vs vs = true ↔ ∀ v ∈ vs, v.equal v = true := by
  rw [equalList_iff, List.forall₂_same]

/-- A mapping is equal to one just if it is to one with the same entries in another order. -/
theorem equal_map_perm {es mid es' : List (Value × Value)} (h : mid.Perm es') :
    (map es).equal (map es') = (map es).equal (map mid) := by
  rw [Bool.eq_iff_iff, equal, equal, Bool.and_eq_true, Bool.and_eq_true, equalEntries_iff,
    equalEntries_iff, h.length_eq]
  simp only [h.mem_iff]

/-- **What is alike is equal**, if a value is equal to itself. One that holds what is no number is
not. -/
theorem Alike.equal {v w : Value} (h : Alike v w) (hv : v.equal v = true) : v.equal w = true := by
  induction h with
  | refl v => exact hv
  | list hlength _ ih | tuple hlength _ ih =>
    simp only [Value.equal, equalList_self_iff] at hv
    simp only [Value.equal, equalList_iff, forall₂_zip_iff]
    exact ⟨hlength, fun p hp => ih p hp (hv _ (List.of_mem_zip hp).1)⟩
  | entity hlength _ ih =>
    simp only [Value.equal, Bool.and_eq_true, equalList_self_iff] at hv
    simp only [Value.equal, Bool.and_eq_true, equalList_iff, forall₂_zip_iff]
    exact ⟨hv.1, hlength, fun p hp => ih p hp (hv.2 _ (List.of_mem_zip hp).1)⟩
  | @map es mid es' hkeys hsame _ hperm ih =>
    have hself := (equal_map_iff hkeys (List.forall₂_same.2 fun _ _ => rfl)).1 hv
    rw [List.forall₂_same] at hself
    have hforall := forall₂_of_keys hsame
    rw [equal_map_perm hperm, equal_map_iff hkeys hforall, forall₂_zip_iff]
    exact ⟨hforall.length_eq, fun p hp => ih p hp (hself _ (List.of_mem_zip hp).1)⟩

end Value

/-! ### Data that is rearranged -/

/-- Whether a key says something where an entity is read: it is that of a field, or tells the kind of a
resource. -/
def Kind.Knows (kind : Kind) (style : Style) (key : Value) : Prop :=
  (∃ f ∈ kind.schema.fields, key = .text (f.key (kind.schema.styleIn style))) ∨
    kind.schema.envelope?.isSome = true ∧ key = .text "kind"

theorem Kind.not_knows {kind : Kind} {style : Style} {key : String}
    (hbare : kind.schema.envelope? = none)
    (hkeys : ∀ f ∈ kind.schema.fields, f.key (kind.schema.styleIn style) ≠ key) :
    ¬kind.Knows style (.text key) := by
  rintro (⟨f, hf, hkey⟩ | ⟨hsome, -⟩)
  · exact hkeys f hf (Value.text.inj hkey).symm
  · rw [hbare] at hsome
    cases hsome

/-- The kind of rule that a mapping is read as, if it has the name of one. -/
def Value.ruleKind (d : Value) : Kind :=
  if d.mentions? "alert" = some true then .alertingRule else .recordingRule

namespace Value

/-- Data for a type in a style is rearranged: the entries of mappings, which have distinct texts as
keys, stand in another order, and where an entity is read there are more of them, under keys that it
does not know. -/
inductive Rearranged : Style → FieldType → Value → Value → Prop
  | same {style : Style} {t : FieldType} {d : Value} : Rearranged style t d d
  /-- What is taken as it is can have its entries in another order too. -/
  | taken {style : Style} {t : FieldType} {d d' : Value} (ht : t = .any ∨ t = .oneOf)
    (h : Alike d d') : Rearranged style t d d'
  | optional {style : Style} {t : FieldType} {d d' : Value} (h : Rearranged style t d d') :
    Rearranged style (.optional t) d d'
  | matcher {style : Style} {es es' : List (Value × Value)} (hkeys : DistinctTexts es)
    (hperm : es.Perm es') : Rearranged style .matcher (.map es) (.map es')
  | listOf {style : Style} {t : FieldType} {ds ds' : List Value} (hlength : ds.length = ds'.length)
    (hitems : ∀ p ∈ ds.zip ds', Rearranged style t p.1 p.2) :
    Rearranged style (.listOf t) (.list ds) (.list ds')
  | tupleOf {style : Style} {t : FieldType} {ds ds' : List Value} (hlength : ds.length = ds'.length)
    (hitems : ∀ p ∈ ds.zip ds', Rearranged style t p.1 p.2) :
    Rearranged style (.tupleOf t) (.list ds) (.list ds')
  | mapOf {style : Style} {t : FieldType} {es mid es' : List (Value × Value)}
    (hkeys : DistinctTexts es) (hsame : es.map (·.1) = mid.map (·.1))
    (hvalues : ∀ p ∈ es.zip mid, Rearranged style t p.1.2 p.2.2) (hperm : mid.Perm es') :
    Rearranged style (.mapOf t) (.map es) (.map es')
  /-- What stands under the keys of fields is rearranged, each for its type in the style in force, and
  what stands under other keys can be anything, except that the kind of a resource stays. -/
  | entity {style : Style} {kind : Kind} {es mid more es' : List (Value × Value)}
    (hkind : kind.isProjected = true) (hkeys : DistinctTexts es) (hkeys' : DistinctTexts es')
    (hsame : es.map (·.1) = mid.map (·.1))
    (hfields : ∀ p ∈ es.zip mid, ∀ f ∈ kind.schema.fields,
      p.1.1 = .text (f.key (kind.schema.styleIn style)) →
        Rearranged (kind.schema.styleIn style) f.type p.1.2 p.2.2)
    (henvelope : kind.schema.envelope?.isSome = true →
      ∀ p ∈ es.zip mid, p.1.1 = .text "kind" → p.1.2 = p.2.2)
    (hmore : ∀ e ∈ more, ¬kind.Knows style e.1) (hperm : (mid ++ more).Perm es') :
    Rearranged style (.entity kind) (.map es) (.map es')
  /-- A rule stays one of its sort, because no name of a rule is put in. -/
  | rule {style : Style} {es es' : List (Value × Value)}
    (hnames : ∀ name ∈ ["alert", "record"],
      (Value.map es').mentions? name = (Value.map es).mentions? name)
    (h : Rearranged .snake (.entity (ruleKind (.map es))) (.map es) (.map es')) :
    Rearranged style .rule (.map es) (.map es')

/-! ### What stands under a key of a rearranged mapping -/

variable {es mid more es' : List (Value × Value)}

/-- Under a key the same values stand in two mappings, up to a relation. -/
def SameUnder (R : Value → Value → Prop) (key : Value) (es es' : List (Value × Value)) : Prop :=
  (∀ v, (key, v) ∈ es → ∃ v', (key, v') ∈ es' ∧ R v v') ∧
    ∀ v', (key, v') ∈ es' → ∃ v, (key, v) ∈ es ∧ R v v'

variable {R : Value → Value → Prop}

/-- Under a key of which there are no more entries the same values stand, rearranged. -/
theorem sameUnder_of_perm {key : Value} (hsame : es.map (·.1) = mid.map (·.1))
    (hvalues : ∀ p ∈ es.zip mid, p.1.1 = key → R p.1.2 p.2.2) (hmore : ∀ e ∈ more, e.1 ≠ key)
    (hperm : (mid ++ more).Perm es') : SameUnder R key es es' := by
  obtain ⟨hlength, hkey⟩ := forall₂_zip_iff.1 (forall₂_of_keys hsame)
  have hforth : ∀ e ∈ es, e.1 = key → ∃ v', (key, v') ∈ es' ∧ R e.2 v' := by
    refine (forall_mem_iff_zip hlength).2 fun p hp hfst => ⟨p.2.2, ?_, hvalues p hp hfst⟩
    rw [← hfst, hkey p hp]
    exact hperm.mem_iff.1 (List.mem_append_left _ (List.of_mem_zip hp).2)
  have hback : ∀ e ∈ mid, e.1 = key → ∃ v, (key, v) ∈ es ∧ R v e.2 := by
    refine (forall_mem_iff_zip_snd hlength).2 fun p hp hsnd => ?_
    have hfst : p.1.1 = key := (hkey p hp).trans hsnd
    refine ⟨p.1.2, ?_, hvalues p hp hfst⟩
    rw [← hfst]
    exact (List.of_mem_zip hp).1
  refine ⟨fun v hv => hforth _ hv rfl, fun v' hv' => ?_⟩
  obtain hv' | hv' := List.mem_append.1 (hperm.mem_iff.2 hv')
  · exact hback _ hv' rfl
  · exact absurd rfl (hmore _ hv')

end Value

/-- What is read of data can be read of other data, as a value that is alike. -/
def Value.ReadAlike (style : Style) (t : FieldType) (d d' : Value) : Prop :=
  ∀ x, (d.decode t style).result = .ok x →
    ∃ x', (d'.decode t style).result = .ok x' ∧ x.Alike x'

namespace Entity

variable {kind : Kind} {style : Style} {es es' : List (Value × Value)} {R : Value → Value → Prop}

theorem rel_imp {α β : Type} {R S : α → β → Prop} {o : Option α} {o' : Option β}
    (h : Option.Rel R o o') (himp : ∀ a b, R a b → S a b) : Option.Rel S o o' := by
  cases h with
  | none => exact .none
  | some h => exact .some (himp _ _ h)

theorem cases_of_rel {α β : Type} {R : α → β → Prop} {o : Option α} {o' : Option β}
    (h : Option.Rel R o o') :
    (o = none ∧ o' = none) ∨ ∃ a b, o = some a ∧ o' = some b ∧ R a b := by
  cases h with
  | none => exact .inl ⟨rfl, rfl⟩
  | some h => exact .inr ⟨_, _, rfl, rfl, h⟩

/-- Where the same values stand under a key, up to a relation that nothing alone has to nothing, the
same is given for it. -/
theorem rel_givenAt? {key : String} (hkeys : Value.DistinctTexts es)
    (hkeys' : Value.DistinctTexts es') (hnull : ∀ v v', R v v' → v'.isNull = v.isNull)
    (hsame : Value.SameUnder R (.text key) es es') :
    Option.Rel R (givenAt? es key) (givenAt? es' key) := by
  cases hv : givenAt? es key with
  | some v =>
    obtain ⟨hmem, hthere⟩ := (givenAt?_eq_some_iff hkeys).1 hv
    obtain ⟨v', hmem', hR⟩ := hsame.1 v hmem
    rw [(givenAt?_eq_some_iff hkeys').2 ⟨hmem', (hnull v v' hR).trans hthere⟩]
    exact .some hR
  | none =>
    cases hv' : givenAt? es' key with
    | none => exact .none
    | some v' =>
      obtain ⟨hmem', hthere⟩ := (givenAt?_eq_some_iff hkeys').1 hv'
      obtain ⟨v, hmem, hR⟩ := hsame.2 v' hmem'
      rw [(givenAt?_eq_some_iff hkeys).2 ⟨hmem, (hnull v v' hR).symm.trans hthere⟩] at hv
      cases hv

/-- Whether a key belongs to the envelope of a kind. -/
def isOfEnvelope (kind : Kind) (key : Value) : Bool :=
  kind.schema.envelope?.isSome && (key.equal (.text "apiVersion") || key.equal (.text "kind"))

theorem fieldEntries_eq (kind : Kind) (es : List (Value × Value)) :
    fieldEntries kind es = es.filter fun e => !isOfEnvelope kind e.1 := by
  rw [fieldEntries]
  split
  · next henvelope => simp [isOfEnvelope, henvelope]
  · next henvelope => simp [isOfEnvelope, henvelope]

theorem distinctTexts_fieldEntries (h : Value.DistinctTexts es) :
    Value.DistinctTexts (fieldEntries kind es) := by
  rw [fieldEntries_eq]
  exact ⟨fun e he => h.1 e (List.mem_of_mem_filter he), h.2.sublist List.filter_sublist⟩

/-- The same values stand under a key if those of the envelope are left out. -/
theorem sameUnder_fieldEntries (kind : Kind) {key : Value} (hsame : Value.SameUnder R key es es') :
    Value.SameUnder R key (fieldEntries kind es) (fieldEntries kind es') := by
  simp only [Value.SameUnder, fieldEntries_eq, List.mem_filter]
  refine ⟨fun v hv => ?_, fun v' hv' => ?_⟩
  · obtain ⟨v', hv', hR⟩ := hsame.1 v hv.1
    exact ⟨v', ⟨hv', hv.2⟩, hR⟩
  · obtain ⟨v, hv, hR⟩ := hsame.2 v' hv'.1
    exact ⟨v, ⟨hv, hv'.2⟩, hR⟩

/-- What stands in a mapping for a field, and in one where the same stands under its key. -/
theorem rel_fieldAt? {f : Field} (hkeys : Value.DistinctTexts es)
    (hkeys' : Value.DistinctTexts es') (hnull : ∀ v v', R v v' → v'.isNull = v.isNull)
    (htruthy : kind = .ruleGroup → f.name = "rules" → ∀ v v', R v v' → v'.isTruthy = v.isTruthy)
    (hsame : Value.SameUnder R (.text (f.key (kind.schema.styleIn style))) es es') :
    Option.Rel R (fieldAt? kind es style f) (fieldAt? kind es' style f) := by
  have hgiven := rel_givenAt? (distinctTexts_fieldEntries hkeys) (distinctTexts_fieldEntries hkeys')
    hnull (sameUnder_fieldEntries kind hsame)
  rw [fieldAt?, fieldAt?]
  generalize givenAt? (fieldEntries kind es) _ = o at hgiven ⊢
  generalize givenAt? (fieldEntries kind es') _ = o' at hgiven ⊢
  cases hgiven with
  | none => exact .none
  | @some v v' hR =>
    have hread : (!(kind == .ruleGroup && f.name == "rules") || v'.isTruthy) =
        (!(kind == .ruleGroup && f.name == "rules") || v.isTruthy) := by
      by_cases hrules : kind = .ruleGroup ∧ f.name = "rules"
      · rw [htruthy hrules.1 hrules.2 v v' hR]
      · have hother : (kind == .ruleGroup && f.name == "rules") = false := by
          rw [Bool.eq_false_iff, ne_eq, Bool.and_eq_true, beq_iff_eq, beq_iff_eq]
          exact hrules
        rw [hother]
        rfl
    rw [Option.filter_some, Option.filter_some, hread]
    split
    · exact .some hR
    · exact .none

theorem checkEnvelope_eq (kind : Kind) (es : List (Value × Value)) :
    checkEnvelope kind (Value.decodeEntries es) = match kind.schema.envelope?, givenAt? es "kind" with
      | some envelope, some v =>
        if v.isTruthy && !v.equal (.text envelope.kind) then
          .error (.otherResource envelope.kind v.shown)
        else .ok ()
      | _, _ => .ok () := by
  rw [checkEnvelope, entry?_decodeEntries, givenAt?]
  cases kind.schema.envelope? with
  | none => rfl
  | some envelope =>
    cases (es.find? fun e => e.1.equal (.text "kind")).filter fun e => !e.2.isNull <;> rfl

/-- What stands for a field is read as values that are alike; what stands for a text is the same. -/
def FieldAlike (kind : Kind) (style : Style) (f : Field) (v v' : Value) : Prop :=
  (f.type = .text → v' = v) ∧ v.ReadAlike (kind.schema.styleIn style) f.type v'

theorem fieldOf_eq {f : Field} (hname : f.name ≠ "expr") (v : Value) :
    fieldOf kind f v = f.type.coerce v := by
  rw [fieldOf, if_neg fun hexpr => hname (eq_expr_of_exprField? hexpr)]
  rfl

/-- An entity has alike values in a field that is read alike. -/
theorem exists_fieldOf (hkind : kind.isProjected = true) {f : Field} (hf : f ∈ kind.schema.fields)
    {given given' : List (String × Value)} (hagrees : Agrees kind es style given)
    (hagrees' : Agrees kind es' style given')
    (hrel : Option.Rel (FieldAlike kind style f) (fieldAt? kind es style f)
      (fieldAt? kind es' style f)) {w : Value}
    (hw : fieldOf kind f ((given.lookup f.name).getD (f.default?.getD .null)) = .ok w) :
    ∃ w', fieldOf kind f ((given'.lookup f.name).getD (f.default?.getD .null)) = .ok w' ∧
      w.Alike w' := by
  obtain ⟨hv, hv'⟩ | ⟨v, v', hv, hv', htext, halike⟩ := cases_of_rel hrel
  · rw [hagrees.getD_of_none hkind hf hv] at hw
    rw [hagrees'.getD_of_none hkind hf hv']
    exact ⟨w, hw, .refl w⟩
  · obtain ⟨u, hu, hlookup⟩ := hagrees.of_some hf hv
    obtain ⟨u', hu', hlookup'⟩ := hagrees'.of_some hf hv'
    rw [hlookup, Option.getD_some] at hw
    rw [hlookup', Option.getD_some]
    by_cases hname : f.name = "expr"
    · rw [htext (Kind.expr_of_name hkind hf hname).1, hu] at hu'
      cases hu'
      exact ⟨w, hw, .refl w⟩
    · rw [fieldOf_eq hname, FieldType.coerce_of_decode hu] at hw
      obtain ⟨u'', hu'', hsame⟩ := halike u hu
      obtain rfl : u'' = u' := Except.ok.inj (hu''.symm.trans hu')
      rw [fieldOf_eq hname, FieldType.coerce_of_decode hu', ← Except.ok.inj hw]
      exact ⟨u'', rfl, hsame⟩

theorem missingAt_eq (hfields : ∀ f ∈ kind.schema.fields, Option.Rel (FieldAlike kind style f)
    (fieldAt? kind es style f) (fieldAt? kind es' style f)) :
    missingAt kind es' style = missingAt kind es style := by
  rw [missingAt, missingAt]
  refine congrArg _ (List.filter_congr fun f hf => ?_)
  obtain ⟨hv, hv'⟩ | ⟨v, v', hv, hv', -⟩ := cases_of_rel (hfields f hf)
  · rw [hv, hv']
  · rw [hv, hv']
    rfl

/-- **Entities are alike** if what stands for each of their fields is read alike. -/
theorem readEntries_alike (hkind : kind.isProjected = true)
    (hcheck : checkEnvelope kind (Value.decodeEntries es') =
      checkEnvelope kind (Value.decodeEntries es))
    (hfields : ∀ f ∈ kind.schema.fields, Option.Rel (FieldAlike kind style f)
      (fieldAt? kind es style f) (fieldAt? kind es' style f)) {x : Value}
    (h : (readEntries kind (Value.decodeEntries es) style).result = .ok x) :
    ∃ x', (readEntries kind (Value.decodeEntries es') style).result = .ok x' ∧ x.Alike x' := by
  obtain ⟨e, -, herror⟩ | ⟨hok, ⟨e, -, herror⟩ | ⟨given, hagrees, hfinish⟩⟩ :=
    readEntries_cases hkind es style
  · rw [herror] at h
    cases h
  · rw [herror] at h
    cases h
  rw [hfinish] at h
  obtain ⟨hmissing, -⟩ := eq_entity_of_finish h
  rw [finish, hmissing] at h
  obtain ⟨ws, hws, rfl⟩ := (make_eq_ok_iff hkind).1 h
  obtain ⟨e, herror, -⟩ | ⟨-, ⟨e, ⟨f, hf, v', hv', herror⟩, -⟩ | ⟨given', hagrees', hfinish'⟩⟩ :=
    readEntries_cases hkind es' style
  · rw [hcheck, hok] at herror
    cases herror
  · -- What stands for the field in the one mapping is read, so it is in the other.
    obtain ⟨-, hnone⟩ | ⟨v, v'', hv, hv'', -, halike⟩ := cases_of_rel (hfields f hf)
    · rw [hnone] at hv'
      cases hv'
    · obtain rfl : v'' = v' := Option.some.inj (hv''.symm.trans hv')
      obtain ⟨w, hw, -⟩ := hagrees.of_some hf hv
      obtain ⟨w', hw', -⟩ := halike w hw
      rw [hw'] at herror
      cases herror
  · have hmissing' : missing kind given' = [] := by
      rw [← hmissing, hagrees'.missing_eq, hagrees.missing_eq, missingAt_eq hfields]
    have hmem : List.Forall₂ (fun f g => f = g ∧ f ∈ kind.schema.fields) kind.schema.fields
        kind.schema.fields := List.forall₂_same.2 fun f hf => ⟨rfl, hf⟩
    obtain ⟨ws', hws', halike⟩ := exists_forall₂_of_forall₂ hmem hws fun f g w hfg hw => by
      obtain ⟨rfl, hf⟩ := hfg
      exact exists_fieldOf hkind hf hagrees hagrees' (hfields f hf) hw
    refine ⟨.entity kind ws', ?_, ?_⟩
    · rw [hfinish', finish, hmissing']
      exact (make_eq_ok_iff hkind).2 ⟨ws', hws', rfl⟩
    · obtain ⟨hlength, hzip⟩ := forall₂_zip_iff.1 halike
      exact .entity hlength hzip

end Entity

/-! ### Reading what is rearranged -/

namespace Value

variable {es es' : List (Value × Value)} {style : Style} {t : FieldType} {d d' : Value}

theorem distinctTexts_iff : DistinctTexts es ↔
    (∀ e ∈ es, ∃ k, e.1 = text k) ∧ (es.map (·.1)).Nodup := by
  refine ⟨fun h => ⟨h.1, h.nodup⟩, fun ⟨htexts, hnodup⟩ => ⟨htexts, ?_⟩⟩
  rw [List.Nodup, List.pairwise_map] at hnodup
  refine hnodup.imp_of_mem fun {a b} ha hb hne => ?_
  obtain ⟨k, hk⟩ := htexts a ha
  obtain ⟨l, hl⟩ := htexts b hb
  rw [hk, hl, equal_text, beq_eq_false_iff_ne]
  rintro rfl
  exact hne (hk.trans hl.symm)

theorem DistinctTexts.perm (h : DistinctTexts es) (hperm : es.Perm es') : DistinctTexts es' := by
  rw [distinctTexts_iff] at h ⊢
  exact ⟨fun e he => h.1 e (hperm.mem_iff.2 he), (hperm.map _).nodup_iff.1 h.2⟩

theorem null_or_ne_null (h : d'.isNull = d.isNull) : d = null ∧ d' = null ∨ d ≠ null ∧ d' ≠ null := by
  by_cases hd : d = null
  · exact .inl ⟨hd, eq_null_of_isNull (h.trans (by rw [hd]; rfl))⟩
  · refine .inr ⟨hd, fun hd' => hd (eq_null_of_isNull (h.symm.trans ?_))⟩
    rw [hd']
    rfl

theorem Alike.isNull_eq {v w : Value} (h : Alike v w) : w.isNull = v.isNull := by
  cases h <;> rfl

/-- Nothing is rearranged to nothing, and something to something. -/
theorem Rearranged.isNull_eq (h : d.Rearranged style t d') : d'.isNull = d.isNull := by
  induction h with
  | taken _ halike => exact halike.isNull_eq
  | optional _ ih => exact ih
  | _ => rfl

theorem Rearranged.isTruthy_eq (h : d.Rearranged style (.listOf t) d') :
    d'.isTruthy = d.isTruthy := by
  cases h with
  | same => rfl
  | taken ht => simp at ht
  | @listOf _ _ ds ds' hlength _ => cases ds <;> cases ds' <;> first | rfl | cases hlength

theorem Rearranged.eq_of_text (h : d.Rearranged style .text d') : d' = d := by
  cases h with
  | same => rfl
  | taken ht => simp at ht

/-- A matcher does not depend on the order of what it is made of. -/
theorem ofEntries_perm (hkeys : DistinctTexts es) (hperm : es.Perm es') :
    Matcher.ofEntries es' = Matcher.ofEntries es := by
  have hlookup : ∀ key : String, lookup? (.text key) es' = lookup? (.text key) es := by
    intro key
    refine Option.ext fun v => ?_
    rw [lookup?_eq_some_iff (hkeys.perm hperm), lookup?_eq_some_iff hkeys, hperm.mem_iff]
  simp only [Matcher.ofEntries, hlookup]

/-- What is read of data of a type that is taken as it is. -/
theorem decode_taken (ht : t = .any ∨ t = .oneOf) (d : Value) :
    (d.decode t style).result = .ok d := by
  by_cases hd : d = null
  · obtain rfl | rfl := ht <;> rw [hd] <;> rfl
  · obtain rfl | rfl := ht <;> rw [decode_scalar hd rfl] <;> rfl

/-- A rule is read as an entity of its kind, if it has the name of one. -/
theorem decode_rule_eq_ok_iff {x : Value} : ((map es).decode .rule style).result = .ok x ↔
    (∃ name ∈ ["alert", "record"], (map es).mentions? name = some true) ∧
      (Entity.readEntries (ruleKind (.map es)) (decodeEntries es) .snake).result = .ok x := by
  have hread : (map es).decode .rule style = readRule (map es) (some (decodeEntries es)) := rfl
  obtain ⟨alert, halert⟩ : ∃ b, (map es).mentions? "alert" = some b := ⟨_, rfl⟩
  obtain ⟨record, hrecord⟩ : ∃ b, (map es).mentions? "record" = some b := ⟨_, rfl⟩
  simp only [hread, readRule, ruleKind, halert, hrecord, List.mem_cons, List.not_mem_nil, or_false,
    exists_eq_or_imp, exists_eq_left]
  cases alert with
  | true => simp
  | false =>
    cases record with
    | true => simp
    | false =>
      simp only [Option.some.injEq, Bool.false_eq_true, or_self, false_and, iff_false]
      intro h
      cases hkeys : (map es).items?.bind sort? with
      | none =>
        rw [hkeys] at h
        cases h
      | some keys =>
        rw [hkeys] at h
        cases h

theorem ReadAlike.optional (hnull : d'.isNull = d.isNull) (h : d.ReadAlike style t d') :
    d.ReadAlike style (.optional t) d' := by
  intro x hx
  obtain ⟨rfl, rfl⟩ | ⟨hd, hd'⟩ := null_or_ne_null hnull
  · exact ⟨x, hx, .refl x⟩
  · rw [decode_optional hd] at hx
    rw [decode_optional hd']
    exact h x hx

theorem ReadAlike.matcher (hkeys : DistinctTexts es) (hperm : es.Perm es') :
    (map es).ReadAlike style .matcher (map es') := by
  intro x hx
  rw [decode_scalar (by simp) rfl] at hx ⊢
  simp only [decodeScalar, Matcher.ofValue, result_ofExcept] at hx ⊢
  rw [ofEntries_perm hkeys hperm]
  exact ⟨x, hx, .refl x⟩

/-- The items of lists that are read alike are. -/
theorem exists_items {ds ds' xs : List Value} (hitems : List.Forall₂ (ReadAlike style t) ds ds')
    (hxs : (all (ds.map fun d => d.decode t style)).result = .ok xs) :
    ∃ xs', (all (ds'.map fun d => d.decode t style)).result = .ok xs' ∧
      xs.length = xs'.length ∧ ∀ p ∈ xs.zip xs', p.1.Alike p.2 := by
  obtain ⟨xs', hxs', halike⟩ := exists_forall₂_of_forall₂ hitems (all_eq_ok_iff.1 hxs)
    fun d d' x hd hx => hd x hx
  exact ⟨xs', all_eq_ok_iff.2 hxs', forall₂_zip_iff.1 halike⟩

theorem ReadAlike.listOf {ds ds' : List Value} (hitems : List.Forall₂ (ReadAlike style t) ds ds') :
    (list ds).ReadAlike style (.listOf t) (list ds') := by
  intro x hx
  rw [decode_listOf (by simp)] at hx
  obtain ⟨xs, hxs, hx⟩ := result_bind_eq_ok.1 hx
  cases hx
  obtain ⟨xs', hxs', hlength, halike⟩ := exists_items hitems hxs
  refine ⟨.list xs', ?_, .list hlength halike⟩
  rw [decode_listOf (by simp)]
  exact result_bind_eq_ok.2 ⟨xs', hxs', rfl⟩

theorem ReadAlike.tupleOf {ds ds' : List Value} (hitems : List.Forall₂ (ReadAlike style t) ds ds') :
    (list ds).ReadAlike style (.tupleOf t) (list ds') := by
  intro x hx
  rw [(decode_sequence (by simp)).2] at hx
  obtain ⟨xs, hxs, hx⟩ := result_bind_eq_ok.1 hx
  cases hx
  obtain ⟨xs', hxs', hlength, halike⟩ := exists_items hitems hxs
  refine ⟨.tuple xs', ?_, .tuple hlength halike⟩
  rw [(decode_sequence (by simp)).2]
  exact result_bind_eq_ok.2 ⟨xs', hxs', rfl⟩

theorem ReadAlike.mapOf {mid : List (Value × Value)} (hkeys : DistinctTexts es)
    (hsame : es.map (·.1) = mid.map (·.1))
    (hvalues : ∀ p ∈ es.zip mid, p.1.2.ReadAlike style t p.2.2) (hperm : mid.Perm es') :
    (map es).ReadAlike style (.mapOf t) (map es') := by
  intro x hx
  obtain ⟨xs, hxs, rfl⟩ := (decode_mapOf_eq_ok_iff hkeys).1 hx
  obtain ⟨hlength, hfst⟩ := forall₂_zip_iff.1 (forall₂_of_keys hsame)
  have hentries : List.Forall₂ (fun e m => e.1 = m.1 ∧ e.2.ReadAlike style t m.2) es mid :=
    forall₂_zip_iff.2 ⟨hlength, fun p hp => ⟨hfst p hp, hvalues p hp⟩⟩
  obtain ⟨ys, hys, halike⟩ := exists_forall₂_of_forall₂ (Q := fun m y : Value × Value =>
      m.1 = y.1 ∧ (m.2.decode t style).result = .ok y.2)
    (R := fun x y : Value × Value => x.1 = y.1 ∧ x.2.Alike y.2) hentries hxs
    fun e m x hem hex => by
      obtain ⟨w, hw, hsame⟩ := hem.2 x.2 hex.2
      exact ⟨(m.1, w), ⟨rfl, hw⟩, hex.1.symm.trans hem.1, hsame⟩
  -- What is read of the entries in their order stands in the order of the entries.
  obtain ⟨ys', hys', hperm'⟩ := List.perm_comp_forall₂ hperm.symm hys
  have hkeys' := (distinctTexts_of_keys hsame hkeys).perm hperm
  refine ⟨.map ys', (decode_mapOf_eq_ok_iff hkeys').2 ⟨ys', hys', rfl⟩, ?_⟩
  exact .map (distinctTexts_of_keys (map_fst_eq hxs) hkeys) (map_fst_eq halike)
    (fun p hp => ((forall₂_zip_iff.1 halike).2 p hp).2) hperm'.symm

theorem ReadAlike.entity {kind : Kind} {mid more : List (Value × Value)}
    (hkind : kind.isProjected = true) (hkeys : DistinctTexts es) (hkeys' : DistinctTexts es')
    (hsame : es.map (·.1) = mid.map (·.1))
    (hfields : ∀ p ∈ es.zip mid, ∀ f ∈ kind.schema.fields,
      p.1.1 = .text (f.key (kind.schema.styleIn style)) →
        p.1.2.Rearranged (kind.schema.styleIn style) f.type p.2.2 ∧
          p.1.2.ReadAlike (kind.schema.styleIn style) f.type p.2.2)
    (henvelope : kind.schema.envelope?.isSome = true →
      ∀ p ∈ es.zip mid, p.1.1 = .text "kind" → p.1.2 = p.2.2)
    (hmore : ∀ e ∈ more, ¬kind.Knows style e.1) (hperm : (mid ++ more).Perm es') :
    (map es).ReadAlike style (.entity kind) (map es') := by
  intro x hx
  rw [decode_entity (by simp)] at hx ⊢
  refine Entity.readEntries_alike hkind ?_ (fun f hf => ?_) hx
  · -- The envelope is not rearranged.
    rw [Entity.checkEnvelope_eq, Entity.checkEnvelope_eq]
    cases hschema : kind.schema.envelope? with
    | none => rfl
    | some envelope =>
      have hthere : kind.schema.envelope?.isSome = true := by rw [hschema]; rfl
      have hrel := Entity.rel_givenAt? (R := Eq) hkeys hkeys' (fun v v' h => by rw [h])
        (sameUnder_of_perm hsame (henvelope hthere)
          (fun e he heq => hmore e he (.inr ⟨hthere, heq⟩)) hperm)
      generalize Entity.givenAt? es "kind" = o at hrel ⊢
      generalize Entity.givenAt? es' "kind" = o' at hrel ⊢
      cases hrel with
      | none => rfl
      | some h => rw [h]
  · -- What stands for a field is found under its key, wherever that is.
    refine Entity.rel_imp (Entity.rel_fieldAt? (R := fun v v' =>
        v.Rearranged (kind.schema.styleIn style) f.type v' ∧
          v.ReadAlike (kind.schema.styleIn style) f.type v') hkeys hkeys'
      (fun v v' h => h.1.isNull_eq) (fun hgroup hname v v' h => ?_)
      (sameUnder_of_perm hsame (fun p hp => hfields p hp f hf)
        (fun e he heq => hmore e he (.inl ⟨f, hf, heq⟩)) hperm)) fun v v' h => ⟨fun htext => ?_, h.2⟩
    · subst hgroup
      rw [(Entity.rules_of_ruleGroup style hf hname).2.1] at h
      exact h.1.isTruthy_eq
    · rw [htext] at h
      exact h.1.eq_of_text

theorem ReadAlike.rule
    (hnames : ∀ name ∈ ["alert", "record"], (map es').mentions? name = (map es).mentions? name)
    (h : (map es).ReadAlike .snake (.entity (ruleKind (map es))) (map es')) :
    (map es).ReadAlike style .rule (map es') := by
  intro x hx
  obtain ⟨⟨name, hname, hthere⟩, hread⟩ := decode_rule_eq_ok_iff.1 hx
  have hsame : ruleKind (map es') = ruleKind (map es) := by
    rw [ruleKind, hnames "alert" (by simp)]
    rfl
  rw [ReadAlike, decode_entity (by simp), decode_entity (by simp)] at h
  obtain ⟨x', hx', halike⟩ := h x hread
  refine ⟨x', decode_rule_eq_ok_iff.2 ⟨⟨name, hname, (hnames name hname).trans hthere⟩, ?_⟩, halike⟩
  rw [hsame]
  exact hx'

/-- **What is rearranged is read as what is alike.** -/
theorem Rearranged.readAlike (h : d.Rearranged style t d') : d.ReadAlike style t d' := by
  induction h with
  | same => exact fun x hx => ⟨x, hx, .refl x⟩
  | @taken style t d d' ht halike =>
    intro x hx
    rw [decode_taken ht] at hx
    cases hx
    exact ⟨d', decode_taken ht d', halike⟩
  | optional h ih => exact ih.optional h.isNull_eq
  | matcher hkeys hperm => exact .matcher hkeys hperm
  | listOf hlength _ ih => exact .listOf (forall₂_zip_iff.2 ⟨hlength, ih⟩)
  | tupleOf hlength _ ih => exact .tupleOf (forall₂_zip_iff.2 ⟨hlength, ih⟩)
  | mapOf hkeys hsame _ hperm ih => exact .mapOf hkeys hsame ih hperm
  | entity hkind hkeys hkeys' hsame hfields henvelope hmore hperm ih =>
    exact .entity hkind hkeys hkeys' hsame
      (fun p hp f hf hkey => ⟨hfields p hp f hf hkey, ih p hp f hf hkey⟩) henvelope hmore hperm
  | rule hnames _ ih => exact .rule hnames ih

end Value

/-- **The order of keys and keys that are not known do not matter.** What is read of data for an entity
is read of the data rearranged, the same but for the order of the entries of its mappings. The two are
equal, unless the first is not even equal to itself because it holds what is no number. -/
theorem Entity.read_rearranged {kind : Kind} (hkind : kind.isProjected = true) {style : Style}
    {d d' : Value} (h : d.Rearranged style (.entity kind) d') {x : Value}
    (hx : (Entity.read kind d style).result = .ok x) :
    ∃ x', (Entity.read kind d' style).result = .ok x' ∧ x.Alike x' ∧
      (x.equal x = true → x.equal x' = true) := by
  obtain ⟨rfl, rfl⟩ | ⟨hd, hd'⟩ := Value.null_or_ne_null h.isNull_eq
  · exact ⟨x, hx, .refl x, id⟩
  · have hread : ∀ d : Value, d ≠ .null → Entity.read kind d style = d.decode (.entity kind) style := by
      intro d hd
      cases d <;> simp_all [Entity.read]
    rw [hread d hd] at hx
    obtain ⟨x', hx', halike⟩ := h.readAlike x hx
    exact ⟨x', by rw [hread d' hd', hx'], halike, halike.equal⟩

/-! ### An example -/

/-- Two labels. -/
def teamLabels : List (Value × Value) :=
  [(.text "team", .text "a"), (.text "tier", .text "b")]

/-- A rule with labels. -/
def ruleWith (labels : Value) : List (Value × Value) :=
  [(.text "alert", .text "Late"), (.text "expr", .text "up"), (.text "labels", labels)]

/-- A group with a rule. -/
def groupWith (rule : Value) : List (Value × Value) :=
  [(.text "name", .text "slow"), (.text "rules", .list [rule])]

/-- The rule in another order, with an entry that it does not know. -/
def reorderedRule : List (Value × Value) :=
  (ruleWith (.map teamLabels.reverse) ++ [(Value.text "owner", Value.null)]).reverse

/-- The group in another order, with an entry that it does not know. -/
def reorderedGroup : List (Value × Value) :=
  (groupWith (.map reorderedRule) ++ [(Value.text "source", Value.int 1)]).reverse

theorem rearranged_ruleWith : (Value.map (ruleWith (.map teamLabels))).Rearranged .snake .rule
    (.map reorderedRule) := by
  have hlabels : ∀ f ∈ Kind.alertingRule.schema.fields, f.key .snake = "labels" →
      f.type = .mapOf .text := by decide
  have hkind : (Value.map (ruleWith (.map teamLabels))).ruleKind = .alertingRule := by decide +kernel
  refine .rule (by decide +kernel) ?_
  rw [hkind]
  have hsame : ∀ p ∈ teamLabels.zip teamLabels, p.1.2.Rearranged .snake .text p.2.2 := by
    simp only [teamLabels, List.zip_cons_cons, List.zip_nil_right, List.forall_mem_cons]
    exact ⟨.same, .same, nofun⟩
  refine @Value.Rearranged.entity .snake .alertingRule _ (ruleWith (.map teamLabels.reverse))
    [(.text "owner", .null)] _ rfl ⟨by simp [ruleWith], by decide +kernel⟩
    ⟨by simp [reorderedRule, ruleWith], by decide +kernel⟩ rfl ?_ nofun
    (List.forall_mem_singleton.2 (Kind.not_knows rfl (by decide))) (List.reverse_perm _).symm
  simp only [ruleWith, List.zip_cons_cons, List.zip_nil_right, List.forall_mem_cons]
  refine ⟨fun _ _ _ => .same, fun _ _ _ => .same, fun f hf hkey => ?_, nofun⟩
  rw [hlabels f hf (Value.text.inj hkey).symm]
  exact .mapOf ⟨by simp [teamLabels], by decide +kernel⟩ rfl hsame (List.reverse_perm _).symm

theorem Entity.read_rearranged_labels :
    Kind.ruleGroup.isProjected = true ∧
      (Value.map (groupWith (.map (ruleWith (.map teamLabels))))).Rearranged .camel
        (.entity .ruleGroup) (.map reorderedGroup) ∧
      ∃ x, (Entity.read .ruleGroup (.map (groupWith (.map (ruleWith (.map teamLabels)))))
          .camel).result = .ok x ∧
        ∃ x', (Entity.read .ruleGroup (.map reorderedGroup) .camel).result = .ok x' ∧ x.Alike x' ∧
          (x.equal x = true → x.equal x' = true) := by
  have hrules : ∀ f ∈ Kind.ruleGroup.schema.fields, f.key .snake = "rules" →
      f.type = .listOf .rule := by decide
  have hrearranged : (Value.map (groupWith (.map (ruleWith (.map teamLabels))))).Rearranged .camel
      (.entity .ruleGroup) (.map reorderedGroup) := by
    refine @Value.Rearranged.entity .camel .ruleGroup _ (groupWith (.map reorderedRule))
      [(.text "source", .int 1)] _ rfl ⟨by simp [groupWith], by decide +kernel⟩
      ⟨by simp [reorderedGroup, groupWith], by decide +kernel⟩ rfl ?_ nofun
      (List.forall_mem_singleton.2 (Kind.not_knows rfl (by decide))) (List.reverse_perm _).symm
    simp only [groupWith, List.zip_cons_cons, List.zip_nil_right, List.forall_mem_cons]
    refine ⟨fun _ _ _ => .same, fun f hf hkey => ?_, nofun⟩
    rw [hrules f hf (Value.text.inj hkey).symm]
    refine .listOf rfl ?_
    simp only [List.zip_cons_cons, List.zip_nil_right, List.forall_mem_cons]
    exact ⟨rearranged_ruleWith, nofun⟩
  obtain ⟨x, hx, -⟩ := exists_of_toOption (p := fun _ => true)
    (x := (Entity.read .ruleGroup (.map (groupWith (.map (ruleWith (.map teamLabels)))))
      .camel).result) (by decide +kernel)
  exact ⟨rfl, hrearranged, x, hx, Entity.read_rearranged rfl hrearranged hx⟩

end MonitoringConfig
