import MonitoringConfig.Proofs.Duration.Grammar
import MonitoringConfig.Proofs.Projection.Making
/-!
# Entities made of raw values

A duration, a secret or a matcher can be given for a field of an entity as a text, and the first two
also as a time span. What an entity is made of then is what the text stands for.

* `FieldType.meaning?` : what a raw value stands for in a field.
* `Entity.read_eq_call` : a text for a field of a mapping comes to the same as one for the field in a
  call.
* `Kind.raw_spec` : **a raw value comes to the same as what it stands for**, when an entity is made
  of it and when it is read of a mapping, except that a time span is not taken for a duration: its
  text is read, which is the text of no duration.
-/

namespace MonitoringConfig

open Logged

/-! ### What raw values stand for -/

/-- Whether a value is a text or a time span. -/
def Value.isRaw : Value → Bool
  | .text _ | .timeSpan _ => true
  | _ => false

/-- Whether a value is a text or a matcher. -/
def Value.isRawMatcher : Value → Bool
  | .text _ | .matcher _ => true
  | _ => false

/-- The matcher that a text is, or another value as it is. -/
def Value.readMatcher : Value → Except Failure Value
  | .text s => (Matcher.parseValue (.text s)).map .matcher
  | v => .ok v

/-- What a raw value stands for in a field of a type, or why it stands for nothing. Other values
are not raw. -/
def FieldType.meaning? : FieldType → Value → Option (Except Failure Value)
  | .optional t, v => t.meaning? v
  | .duration, v =>
    if v.isRaw then some ((Duration.coerce v).map fun d? => d?.elim .null .duration) else none
  | .secret, v => if v.isRaw then some (.ok (.secret ⟨v.shown⟩)) else none
  | .listOf .matcher, .list items =>
    if items.all Value.isRawMatcher then some ((items.mapM Value.readMatcher).map .list) else none
  | _, _ => none

/-- Whether a value is a time span for a field of durations. -/
def FieldType.isSpan (t : FieldType) (v : Value) : Bool :=
  t.inner == .duration && v matches .timeSpan _

theorem Value.readMatcher_eq {v : Value} (hv : v.isRawMatcher = true) :
    FieldType.matcher.coerce v = v.readMatcher ∧ ∀ w, v.readMatcher = .ok w →
      ∃ m, w = .matcher m := by
  cases v with
  | text s =>
    refine ⟨rfl, fun w hw => ?_⟩
    obtain ⟨m, -, rfl⟩ := map_eq_ok.1 hw
    exact ⟨m, rfl⟩
  | matcher m => exact ⟨rfl, fun w hw => ⟨m, (Except.ok.inj hw).symm⟩⟩
  | _ => cases hv

theorem FieldType.coerce_optional (t : FieldType) (v : Value) :
    (optional t).coerce v = t.coerce v := by
  by_cases hv : v = .null
  · rw [hv, coerce_null, coerce_null]
  · exact coerce.eq_2 v t hv

/-- Texts and matchers are taken for the matchers that they are. -/
theorem FieldType.coerce_matchers {items : List Value} (h : items.all Value.isRawMatcher = true) :
    (listOf matcher).coerce (.list items) = (items.mapM Value.readMatcher).map .list ∧
      ∀ ws, items.mapM Value.readMatcher = .ok ws →
        (listOf matcher).coerce (.list ws) = .ok (.list ws) := by
  have hitems := fun v hv => Value.readMatcher_eq (List.all_eq_true.1 h v hv)
  refine ⟨congrArg (·.map Value.list) (mapM_congr fun v hv => (hitems v hv).1), fun ws hws => ?_⟩
  have hmatchers : ∀ w ∈ ws, matcher.coerce w = .ok w := by
    intro w hw
    obtain ⟨i, hi, rfl⟩ := List.mem_iff_getElem.1 hw
    have hread := mapM_eq_ok_iff.1 hws
    have hi' : i < items.length := hread.length_eq ▸ hi
    obtain ⟨m, hm⟩ := (hitems items[i] (List.getElem_mem hi')).2 _ (hread.get hi' hi)
    rw [show ws[i] = .matcher m from hm]
    rfl
  rw [coerce, mapM_coerce hmatchers]
  rfl

/-- A text is taken for the duration that it spells, and the duration that a raw value stands for is
taken as it is. -/
theorem FieldType.coerce_rawDuration {v : Value} (hraw : v.isRaw = true) :
    let r := (Duration.coerce v).map fun d? => d?.elim Value.null Value.duration
    (FieldType.duration.isSpan v = false → FieldType.duration.coerce v = r) ∧
      ∀ w, r = .ok w → FieldType.duration.coerce w = .ok w := by
  cases v with
  | text s =>
    have hcoerce : Duration.coerce (.text s) = (Duration.read s).map some := rfl
    rw [hcoerce]
    refine ⟨fun _ => ?_, fun w hw => ?_⟩
    · show (Duration.read s).map Value.duration = _
      cases Duration.read s <;> rfl
    · cases hread : Duration.read s with
      | ok d =>
        rw [hread] at hw
        cases hw
        rfl
      | error e =>
        rw [hread] at hw
        cases hw
  | timeSpan t =>
    refine ⟨nofun, fun w hw => ?_⟩
    cases hw
    rfl
  | _ => cases hraw

theorem FieldType.coerce_rawSecret {v : Value} (hraw : v.isRaw = true) :
    FieldType.secret.coerce v = .ok (.secret ⟨v.shown⟩) := by
  cases v with
  | text s => rfl
  | timeSpan t => rfl
  | _ => cases hraw

/-- A raw value is taken for what it stands for, a time span for a duration excepted, and what it
stands for is taken as it is. -/
theorem FieldType.coerce_meaning {t : FieldType} {v : Value} {r : Except Failure Value}
    (h : t.meaning? v = some r) :
    (t.isSpan v = false → t.coerce v = r) ∧ ∀ w, r = .ok w → t.coerce w = .ok w := by
  induction t with
  | optional t ih =>
    obtain ⟨hv, hw⟩ := ih h
    exact ⟨fun hspan => (coerce_optional t v).trans (hv hspan),
      fun w hr => (coerce_optional t w).trans (hw w hr)⟩
  | duration =>
    simp only [meaning?] at h
    split at h
    · next hraw =>
      cases h
      exact coerce_rawDuration hraw
    · cases h
  | secret =>
    simp only [meaning?] at h
    split at h
    · next hraw =>
      cases h
      exact ⟨fun _ => coerce_rawSecret hraw, fun w hw => by cases hw; rfl⟩
    · cases h
  | listOf item _ =>
    cases item with
    | matcher =>
      cases v with
      | list items =>
        simp only [meaning?] at h
        split at h
        · next hall =>
          cases h
          obtain ⟨hv, hw⟩ := coerce_matchers hall
          refine ⟨fun _ => hv, fun w hr => ?_⟩
          obtain ⟨ws, hws, rfl⟩ := map_eq_ok.1 hr
          exact hw ws hws
        · cases h
      | _ => cases h
    | _ => cases h
  | _ => cases h

/-- A raw value is never given for an expression. -/
theorem Kind.name_ne_expr {kind : Kind} {f : Field} (hkind : kind.isProjected = true)
    (hf : f ∈ kind.schema.fields) {v : Value} {r : Except Failure Value}
    (hraw : f.type.meaning? v = some r) : f.name ≠ "expr" := by
  intro hname
  rw [(expr_of_name hkind hf hname).1] at hraw
  cases hraw

/-! ### Time spans -/

namespace TimeSpan

/-- A number with a blank or a colon behind it is not the text of a duration. -/
theorem parse_number {negative : Bool} {ds rest : List Char} {c : Char} (hne : ds ≠ [])
    (hds : ∀ d ∈ ds, d.isDigit = true) (hc : c = ' ' ∨ c = ':') :
    Duration.parse? (String.ofList (Duration.withSign negative (ds ++ c :: rest))) =
      .error (.malformed 0) := by
  have hsplit : Duration.splitSign (Duration.withSign negative (ds ++ c :: rest)) =
      (negative, ds ++ c :: rest) := by
    refine Duration.splitSign_withSign (fun h => ?_) negative
    obtain ⟨d, ds, rfl⟩ := List.exists_cons_of_ne_nil hne
    have hd := hds d List.mem_cons_self
    obtain rfl : d = '-' := by simpa using h
    cases hd
  have hread : Duration.tokens (ds ++ c :: rest) = .error 0 := by
    rw [Duration.tokens, Duration.readTokens_digits hds _ _ _ _ hne, Duration.readTokens.eq_def]
    obtain rfl | rfl := hc
    · rfl
    · rfl
  rw [Duration.parse?, String.toList_ofList, hsplit]
  simp [hread]

/-- The text of a time span is a number with a blank or a colon behind it. -/
theorem exists_text_eq (t : TimeSpan) : ∃ negative ds c rest, ds ≠ [] ∧
    (∀ d ∈ ds, d.isDigit = true) ∧ (c = ' ' ∨ c = ':') ∧
      t.text = String.ofList (Duration.withSign negative (ds ++ c :: rest)) := by
  have hdigits := fun n => (Duration.isDigits_digitsText n).2
  by_cases hdays : t.days = 0
  · obtain ⟨rest, hrest⟩ : ∃ rest, t.text.toList =
        digitsText (t.seconds.toNat / 3600) ++ ':' :: rest := by
      simp only [text, hdays, beq_self_eq_true, if_true, String.toList_append, String.toList_ofList,
        List.append_assoc]
      apply Exists.intro
      rfl
    exact ⟨false, _, ':', rest, Nat.toDigits_ne_nil, hdigits _, .inr rfl,
      String.toList_injective (by rw [hrest, String.toList_ofList]; rfl)⟩
  · obtain ⟨rest, hrest⟩ : ∃ rest, t.text.toList =
        Duration.withSign (t.days < 0) (digitsText t.days.natAbs ++ ' ' :: rest) := by
      have hdays' : (t.days == 0) = false := beq_eq_false_iff_ne.2 hdays
      obtain ⟨word, hword⟩ : ∃ word : List Char,
          (if t.days.natAbs == 1 then " day, " else " days, ").toList = ' ' :: word := by
        split
        · exact ⟨_, rfl⟩
        · exact ⟨_, rfl⟩
      simp only [text, hdays', Bool.false_eq_true, if_false, String.toList_append, intText, hword,
        String.toList_ofList, Duration.withSign, decide_eq_true_eq, List.append_assoc]
      split
      · apply Exists.intro
        rfl
      · apply Exists.intro
        rfl
    exact ⟨t.days < 0, digitsText t.days.natAbs, ' ', rest, Nat.toDigits_ne_nil, hdigits _, .inl rfl,
      String.toList_injective (by rw [hrest, String.toList_ofList])⟩

/-- **A time span is shown as the text of no duration.** -/
theorem read_text (t : TimeSpan) :
    Duration.read t.text = .error (.malformedDuration t.text 0) := by
  obtain ⟨negative, ds, c, rest, hne, hds, hc, htext⟩ := t.exists_text_eq
  rw [Duration.read, htext, parse_number hne hds hc]

end TimeSpan

/-! ### Raw values in mappings -/

/-- Whether a value is a text, or a list of texts. -/
def Value.isTextual : Value → Bool
  | .text _ => true
  | .list items => items.all isText
  | _ => false

namespace Logged

theorem result_all_eq_mapM {α β : Type} {f : α → Logged β} {g : α → Except Failure β} {as : List α}
    (h : ∀ a ∈ as, (f a).result = g a) : (all (as.map f)).result = as.mapM g := by
  induction as with
  | nil => rfl
  | cons a as ih =>
    rw [List.map_cons, all, result_bind, h a List.mem_cons_self, List.mapM_cons]
    show (g a).bind _ = (g a).bind _
    refine congrArg _ (funext fun b => ?_)
    rw [result_bind, ih fun b hb => h b (List.mem_cons_of_mem _ hb)]
    cases as.mapM g <;> rfl

end Logged

/-- Texts are read as they are taken for the type of a field. -/
theorem decode_eq_coerce {t : FieldType} {v : Value} {r : Except Failure Value}
    (h : t.meaning? v = some r) (hv : v.isTextual = true) (style : Style) :
    (v.decode t style).result = t.coerce v := by
  have hnull : v ≠ .null := by
    rintro rfl
    cases hv
  induction t with
  | optional t ih =>
    rw [Value.decode_optional hnull, FieldType.coerce_optional]
    exact ih h
  | duration =>
    cases v with
    | text s => rfl
    | list items => cases h
    | _ => cases hv
  | secret =>
    cases v with
    | text s => rfl
    | list items => cases h
    | _ => cases hv
  | listOf item _ =>
    cases item with
    | matcher =>
      cases v with
      | list items =>
        have hitem : ∀ v ∈ items, (v.decode .matcher style).result = FieldType.matcher.coerce v := by
          intro v hmem
          have hitem := List.all_eq_true.1 hv v hmem
          cases v with
          | text s => rfl
          | _ => cases hitem
        have hitems : (Value.list items).items? = some items := rfl
        simp only [Value.decode_listOf hnull, hitems, result_bind, result_all_eq_mapM hitem]
        rw [FieldType.coerce]
        cases items.mapM FieldType.matcher.coerce <;> rfl
      | _ => cases h
    | _ => cases h
  | _ => cases h

namespace Entity

variable {kind : Kind} {f : Field}

/-- What is given by name for the other fields than one is what is read of them in a mapping. -/
def ReadsBeside (kind : Kind) (es : List (Value × Value)) (style : Style) (f : Field)
    (given : List (String × Value)) : Prop :=
  ∀ g ∈ kind.schema.fields, g.name ≠ f.name → match fieldAt? kind es style g with
    | some d => ∃ w, (d.decode g.type (kind.schema.styleIn style)).result = .ok w ∧
        given.lookup g.name = some w
    | none => given.lookup g.name = none ∧ g.isRequired = false

theorem ReadsBeside.of_some {es : List (Value × Value)} {style : Style}
    {given : List (String × Value)} (h : ReadsBeside kind es style f given) {g : Field}
    (hg : g ∈ kind.schema.fields) (hne : g.name ≠ f.name) {d : Value}
    (hd : fieldAt? kind es style g = some d) :
    ∃ w, (d.decode g.type (kind.schema.styleIn style)).result = .ok w ∧
      given.lookup g.name = some w := by
  have hread := h g hg hne
  rwa [hd] at hread

theorem ReadsBeside.of_none {es : List (Value × Value)} {style : Style}
    {given : List (String × Value)} (h : ReadsBeside kind es style f given) {g : Field}
    (hg : g ∈ kind.schema.fields) (hne : g.name ≠ f.name)
    (hnone : fieldAt? kind es style g = none) :
    given.lookup g.name = none ∧ g.isRequired = false := by
  have hread := h g hg hne
  rwa [hnone] at hread

section

variable (hkind : kind.isProjected = true) {es : List (Value × Value)} {style : Style}
  {given : List (String × Value)} (hbeside : ReadsBeside kind es style f given)

include hkind hbeside

/-- Something can be made of what is read of the other fields. -/
theorem exists_make_beside (hname : f.name ≠ "expr") (hexpr : ∀ e ∈ es, e.2.isExpr = false) :
    ∃ ws, make? kind (complete kind ((f.name, .null) :: given)) = .ok (.entity kind ws) := by
  have hgiven : ∀ g ∈ kind.schema.fields, ∀ w,
      (((f.name, .null) :: given : List (String × Value)).lookup g.name) = some w →
        (g.name = f.name ∧ w = .null) ∨ ∃ d, fieldAt? kind es style g = some d ∧
          (d.decode g.type (kind.schema.styleIn style)).result = .ok w := by
    intro g hg w hw
    rw [List.lookup_cons] at hw
    cases hsame : g.name == f.name with
    | true =>
      rw [hsame] at hw
      exact .inl ⟨beq_iff_eq.1 hsame, (Option.some.inj hw).symm⟩
    | false =>
      rw [hsame] at hw
      have hne : g.name ≠ f.name := beq_eq_false_iff_ne.1 hsame
      cases hat : fieldAt? kind es style g with
      | none =>
        rw [(hbeside.of_none hg hne hat).1] at hw
        cases hw
      | some d =>
        obtain ⟨w', hdecode, hlookup⟩ := hbeside.of_some hg hne hat
        obtain rfl : w' = w := Option.some.inj (hlookup.symm.trans hw)
        exact .inr ⟨d, rfl, hdecode⟩
  refine exists_make hkind (fun g hg w hw => ?_) fun g hg hname' w hw => ?_
  · obtain ⟨-, rfl⟩ | ⟨d, -, hdecode⟩ := hgiven g hg w hw
    · exact FieldType.coerce_null _
    · exact FieldType.coerce_of_decode hdecode
  · obtain ⟨hsame, -⟩ | ⟨d, hat, hdecode⟩ := hgiven g hg w hw
    · exact absurd (hsame.symm.trans hname') hname
    · rw [(Kind.expr_of_name hkind hg hname').1] at hdecode
      obtain ⟨e, he, rfl⟩ := mem_of_fieldAt? hat
      exact Value.isExpr_of_decode_text (hexpr e he) hdecode

/-- What was read of a mapping, and what is given by name beside a value, are the same but for the
value. -/
theorem complete_of_agrees {given' : List (String × Value)} (hagrees : Agrees kind es style given')
    {w : Value} (hw : given'.lookup f.name = some w) :
    complete kind given' = complete kind ((f.name, w) :: given) := by
  refine List.map_congr_left fun g hg => ?_
  rw [List.lookup_cons]
  cases hsame : g.name == f.name with
  | true => rw [beq_iff_eq.1 hsame, hw]
  | false =>
    have hne : g.name ≠ f.name := beq_eq_false_iff_ne.1 hsame
    cases hat : fieldAt? kind es style g with
    | some d =>
      obtain ⟨v, hv, hlookup⟩ := hbeside.of_some hg hne hat
      obtain ⟨v', hv', hlookup'⟩ := hagrees.of_some hg hat
      obtain rfl : v = v' := Except.ok.inj (hv.symm.trans hv')
      rw [hlookup, hlookup']
    | none =>
      rw [(hbeside.of_none hg hne hat).1, hagrees.getD_of_none hkind hg hat]
      rfl

/-- Nothing is missing in a mapping in which something stands for the field. -/
theorem missing_of_agrees (hf : f ∈ kind.schema.fields) {v : Value}
    (hfield : fieldAt? kind es style f = some v) {given' : List (String × Value)}
    (hagrees : Agrees kind es style given') : missing kind given' = [] := by
  rw [hagrees.missing_eq, missingAt, List.map_eq_nil_iff, List.filter_eq_nil_iff]
  intro g hg
  cases hat : fieldAt? kind es style g with
  | some d => simp
  | none =>
    have hne : g.name ≠ f.name := fun hsame => by
      have hnodup := (Kind.wellKeyed_of_isProjected hkind).names_nodup
      rw [List.inj_on_of_nodup_map hnodup hg hf hsame, hfield] at hat
      cases hat
    simp [(hbeside.of_none hg hne hat).2]

/-- A call with a value for the field comes to the entity made of it and of what is read beside it. -/
theorem result_call (hf : f ∈ kind.schema.fields) (hnames : ∀ e ∈ given, e.1 ∈ kind.schema.names)
    (v : Value) : (kind.builder.call [] ((f.name, v) :: given)).result =
      make? kind (complete kind ((f.name, v) :: given)) := by
  refine Kind.builder_call (Kind.wellKeyed_of_isProjected hkind).names_nodup
    (List.forall_mem_cons.2 ⟨List.mem_map_of_mem hf, hnames⟩) fun g hg hrequired => ?_
  rw [List.lookup_cons]
  cases heq : g.name == f.name with
  | true => rfl
  | false =>
    have hne : g.name ≠ f.name := beq_eq_false_iff_ne.1 heq
    cases hgiven : fieldAt? kind es style g with
    | none =>
      rw [(hbeside.of_none hg hne hgiven).2] at hrequired
      cases hrequired
    | some d =>
      obtain ⟨w, -, hw⟩ := hbeside.of_some hg hne hgiven
      rw [hw]
      rfl

end

/-- **A text for a field of a mapping** comes to the same as one that is given for the field. -/
theorem read_eq_call (hkind : kind.isProjected = true) (hf : f ∈ kind.schema.fields) {v : Value}
    {r : Except Failure Value} (hraw : f.type.meaning? v = some r) (htext : v.isTextual = true)
    {es : List (Value × Value)} {style : Style} {given : List (String × Value)}
    (hexpr : ∀ e ∈ es, e.2.isExpr = false)
    (hcheck : checkEnvelope kind (Value.decodeEntries es) = .ok ())
    (hfield : fieldAt? kind es style f = some v) (hbeside : ReadsBeside kind es style f given)
    (hnames : ∀ e ∈ given, e.1 ∈ kind.schema.names) :
    (Entity.read kind (.map es) style).result =
      (kind.builder.call [] ((f.name, v) :: given)).result := by
  have hnodup := (Kind.wellKeyed_of_isProjected hkind).names_nodup
  have hname := Kind.name_ne_expr hkind hf hraw
  have hdecode := decode_eq_coerce hraw htext (kind.schema.styleIn style)
  obtain ⟨fs, gs, pre, post, hfields, hpre, hvalues⟩ := exists_split hnodup hf
    (fun x name => ((f.name, x) :: given).lookup name) (fun name => given.lookup name)
    (fun x => by simp) fun x name hne => by
      rw [List.lookup_cons, beq_eq_false_iff_ne.2 hne]
  have hcomplete : ∀ x, complete kind ((f.name, x) :: given) = pre ++ x :: post := hvalues
  have hcases := make_cases hfields hpre hkind hname post
  rw [result_call hkind hbeside hf hnames, Entity.read_map hkind, hcomplete]
  obtain ⟨e, herror, -⟩ | ⟨-, ⟨e, ⟨g, hg, d, hgiven, herror⟩, hresult⟩ | ⟨given', hagrees, hresult⟩⟩ :=
    readEntries_cases hkind es style
  · rw [hcheck] at herror
    cases herror
  · -- Only what stands for the field itself can be what is not read.
    have hsame : g.name = f.name := by
      by_contra hne
      obtain ⟨w, hw, -⟩ := hbeside.of_some hg hne hgiven
      rw [hw] at herror
      cases herror
    obtain rfl : g = f := List.inj_on_of_nodup_map hnodup hg hf hsame
    obtain rfl : d = v := Option.some.inj (hgiven.symm.trans hfield)
    rw [hdecode] at herror
    rw [hresult]
    obtain ⟨e', he'⟩ | ⟨k, hk⟩ := hcases
    · obtain ⟨ws, hws⟩ := exists_make_beside hkind hbeside hname hexpr
      rw [hcomplete, he'] at hws
      cases hws
    · rw [hk, herror]
      rfl
  · -- Everything is read. What is read of the field is what the text is taken for.
    obtain ⟨w, hw, hlookup⟩ := hagrees.of_some hf hfield
    rw [hresult, finish, missing_of_agrees hkind hbeside hf hfield hagrees,
      complete_of_agrees hkind hbeside hagrees hlookup, hcomplete]
    show make? kind (pre ++ w :: post) = make? kind (pre ++ v :: post)
    rw [hdecode] at hw
    obtain ⟨e', he'⟩ | ⟨k, hk⟩ := hcases
    · rw [he', he']
    · rw [hk, hk, hw, FieldType.coerce_of_decode (hdecode.trans hw)]

end Entity

/-! ### Raw values and what they stand for -/

/-- A time span stands for the duration that it is. -/
theorem FieldType.meaning_timeSpan {t : FieldType} (ht : t.inner = .duration) (span : TimeSpan) :
    t.meaning? (.timeSpan span) = some (.ok (.duration (.ofTimeSpan span))) := by
  induction t with
  | optional t ih => exact ih ht
  | duration => rfl
  | _ => cases ht

/-- A time span is not taken for a duration. -/
theorem FieldType.coerce_timeSpan {t : FieldType} (ht : t.inner = .duration) (span : TimeSpan) :
    t.coerce (.timeSpan span) = .error (.malformedDuration span.text 0) := by
  rw [coerce_inner t (by simp), ht]
  show (Duration.read span.text).map Value.duration = _
  rw [span.read_text]
  rfl

namespace Kind

section

variable {kind : Kind} {f : Field} (hkind : kind.isProjected = true) (hf : f ∈ kind.schema.fields)

include hkind hf

/-- What a call with a raw value comes to. -/
theorem Place.outcome_raw {v : Value} {r : Except Failure Value} (hraw : f.type.meaning? v = some r)
    (hspan : f.type.isSpan v = false) (place : Place kind f) :
    match r with
      | .ok w => place.outcome v = place.outcome w
      | .error e => place.outcome v = .error e ∨ ∃ e', ∀ x, place.outcome x = .error e' := by
  obtain ⟨htaken, hkept⟩ := FieldType.coerce_meaning hraw
  have hcases := place.built_cases hkind hf (name_ne_expr hkind hf hraw)
  cases r with
  | ok w =>
    obtain ⟨e, he⟩ | ⟨k, hk⟩ := hcases
    · exact (he v).trans (he w).symm
    · show place.outcome v = place.outcome w
      rw [hk, hk, htaken hspan, hkept w rfl]
  | error e =>
    obtain ⟨e', he'⟩ | ⟨k, hk⟩ := hcases
    · exact .inr ⟨e', he'⟩
    · left
      rw [hk, htaken hspan]
      rfl

/-- What a call with a time span for a duration comes to. -/
theorem Place.outcome_timeSpan (htype : f.type.inner = .duration) (t : TimeSpan)
    (place : Place kind f) :
    place.outcome (.timeSpan t) = .error (.malformedDuration t.text 0) ∨
      ∃ e', ∀ x, place.outcome x = .error e' := by
  have hraw := FieldType.meaning_timeSpan htype t
  obtain ⟨e', he'⟩ | ⟨k, hk⟩ := place.built_cases hkind hf (name_ne_expr hkind hf hraw)
  · exact .inr ⟨e', he'⟩
  · left
    rw [hk, FieldType.coerce_timeSpan htype]
    rfl

/-- **A raw value comes to the same as what it stands for.** An entity made of it is the one made of
what it stands for, and where it stands for nothing there is none, for the reason that it stands for
nothing or for one that lies in what is given besides. A time span alone is not taken for the
duration that it is: its text is read, which is the text of no duration. What is read of a mapping
with a text is what is made of the text. -/
theorem raw_spec {v : Value} {r : Except Failure Value} (hraw : f.type.meaning? v = some r) :
    (∀ place : Place kind f,
      (f.type.isSpan v = false → match r with
        | .ok w => place.outcome v = place.outcome w
        | .error e => place.outcome v = .error e ∨ ∃ e', ∀ x, place.outcome x = .error e') ∧
      ∀ t, f.type.inner = .duration → v = .timeSpan t →
        r = .ok (.duration (.ofTimeSpan t)) ∧
          (place.outcome v = .error (.malformedDuration t.text 0) ∨
            ∃ e', ∀ x, place.outcome x = .error e')) ∧
    ∀ es style given, v.isTextual = true → (∀ e ∈ es, e.2.isExpr = false) →
      Entity.checkEnvelope kind (Value.decodeEntries es) = .ok () →
      Entity.fieldAt? kind es style f = some v → Entity.ReadsBeside kind es style f given →
      (∀ e ∈ given, e.1 ∈ kind.schema.names) →
        (Entity.read kind (.map es) style).result =
          (Place.byName [] given : Place kind f).outcome v := by
  refine ⟨fun place => ⟨fun hspan => place.outcome_raw hkind hf hraw hspan, ?_⟩,
    fun es style given htext hexpr hcheck hfield hbeside hnames =>
      Entity.read_eq_call hkind hf hraw htext hexpr hcheck hfield hbeside hnames⟩
  rintro t htype rfl
  exact ⟨Option.some.inj (hraw.symm.trans (FieldType.meaning_timeSpan htype t)),
    place.outcome_timeSpan hkind hf htype t⟩

end

/-- The time for which a node of the routing tree waits. -/
def groupWait : Field := .optional "group_wait" .duration

theorem raw_spec_groupWait :
    let written := [(Value.text "group_wait", Value.text "5m")]
    Kind.route.isProjected = true ∧ groupWait ∈ Kind.route.schema.fields ∧
      groupWait.type.meaning? (.text "5m") = some (.ok (.duration (.ofTimeSpan ⟨300000000⟩))) ∧
      (∀ place : Place .route groupWait,
        place.outcome (.text "5m") = place.outcome (.duration (.ofTimeSpan ⟨300000000⟩))) ∧
      (Entity.read .route (.map written) .snake).result =
        (Place.byName [] [] : Place .route groupWait).outcome (.text "5m") := by
  intro written
  have hkind : Kind.route.isProjected = true := rfl
  have hf : groupWait ∈ Kind.route.schema.fields := .tail _ (.tail _ (.head _))
  have hraw : groupWait.type.meaning? (.text "5m") =
      some (.ok (.duration (.ofTimeSpan ⟨300000000⟩))) := by rfl
  have hbeside : Entity.ReadsBeside .route written .snake groupWait [] := by
    have hothers : ∀ g ∈ Kind.route.schema.fields, g.name ≠ groupWait.name →
        (Entity.fieldAt? .route written .snake g).isNone = true ∧ g.isRequired = false := by
      decide +kernel
    intro g hg hne
    obtain ⟨hnone, hrequired⟩ := hothers g hg hne
    rw [Option.isNone_iff_eq_none.1 hnone]
    exact ⟨rfl, hrequired⟩
  have hfield : Entity.fieldAt? .route written .snake groupWait = some (.text "5m") := by
    have hkey : (Value.text "group_wait").equal
        (.text (groupWait.key (Kind.route.schema.styleIn .snake))) = true := by decide +kernel
    simp [Entity.fieldAt?, Entity.fieldEntries, Entity.givenAt?, written, hkey, Value.isNull]
  obtain ⟨hcalled, hread⟩ := raw_spec hkind hf hraw
  exact ⟨hkind, hf, hraw, fun place => (hcalled place).1 rfl,
    hread written .snake [] rfl (by simp [written, Value.isExpr]) rfl hfield hbeside (by simp)⟩

/-- **A node of the routing tree cannot be made with a time span of five minutes**, though it can with
the duration that it is. -/
theorem timeSpan_refused :
    groupWait.type.meaning? (.timeSpan ⟨300000000⟩) =
        some (.ok (.duration (.ofTimeSpan ⟨300000000⟩))) ∧
      (∃ x, (Place.byName [] [] : Place .route groupWait).outcome
        (.duration (.ofTimeSpan ⟨300000000⟩)) = .ok x) ∧
      (Place.byName [] [] : Place .route groupWait).outcome (.timeSpan ⟨300000000⟩) =
        .error (.malformedDuration "0:05:00" 0) := by
  obtain ⟨x, hx, -⟩ := exists_of_toOption (p := fun _ => true)
    (x := (Place.byName [] [] : Place .route groupWait).outcome
      (.duration (.ofTimeSpan ⟨300000000⟩))) (by decide +kernel)
  have hf : groupWait ∈ Kind.route.schema.fields := .tail _ (.tail _ (.head _))
  have htext : TimeSpan.text ⟨300000000⟩ = "0:05:00" := by decide +kernel
  refine ⟨rfl, ⟨x, hx⟩, ?_⟩
  obtain herror | ⟨e, he⟩ :=
    (Place.byName [] [] : Place .route groupWait).outcome_timeSpan rfl hf rfl ⟨300000000⟩
  · rw [herror, htext]
  · rw [he] at hx
    cases hx

end Kind

end MonitoringConfig
