import MonitoringConfig.Method
import MonitoringConfig.Proofs.Typing
/-!
# Modifiers that agree

Operations and aggregations are made by constructors and changed by calls that give a copy with
other modifiers. Some modifiers exclude each other, and some need others. A call that sets a
modifier takes back the one that it excludes, and the copy is refused where it does not agree.

* `Modifiers.Agree` : which modifiers of an operation can stand together.
* `Expr.agree_after` : a call keeps the modifiers of a node in agreement, whether it succeeds or
  not.
* `Made.keeps_agreement` : **whatever calls follow on a constructor, the modifiers of the node
  agree, and its text shows just those that are set.**
-/

namespace MonitoringConfig.Promql

/-! ### Agreement -/

/-- Which modifiers of an operation can stand together. -/
structure Modifiers.Agree (m : Modifiers) (op : Operator) : Prop where
  /-- The sides are matched on some labels or on all but some. -/
  lists : m.on = [] ∨ m.ignoring = []
  /-- One side alone can have many series. -/
  groupings : m.groupLeft = none ∨ m.groupRight = none
  /-- A side with many series is matched by labels. -/
  grouped : m.groupLeft.isSome ∨ m.groupRight.isSome → m.on ≠ [] ∨ m.ignoring ≠ []
  /-- Comparisons alone give a truth value. -/
  truth : m.returnBool = true → op.isComparison = true

/-- The modifiers that are accepted are those that agree. -/
theorem Modifiers.fault_eq_none {m : Modifiers} {op : Operator} :
    m.fault? op = none ↔ m.Agree op := by
  have hagree : m.Agree op ↔ (m.on = [] ∨ m.ignoring = []) ∧
      (m.groupLeft = none ∨ m.groupRight = none) ∧
      (m.groupLeft.isSome ∨ m.groupRight.isSome → m.on ≠ [] ∨ m.ignoring ≠ []) ∧
      (m.returnBool = true → op.isComparison = true) :=
    ⟨fun h => ⟨h.lists, h.groupings, h.grouped, h.truth⟩, fun h => ⟨h.1, h.2.1, h.2.2.1, h.2.2.2⟩⟩
  rw [hagree, fault?]
  cases m.on <;> cases m.ignoring <;> cases m.groupLeft <;> cases m.groupRight <;>
    cases m.returnBool <;> cases op.isComparison <;> simp

/-- Whatever modifiers are refused, the reason is one of values. -/
theorem Modifiers.category_of_fault {m : Modifiers} {op : Operator} {f : Failure}
    (h : m.fault? op = some f) : f.category = .badValue := by
  rw [fault?] at h
  repeat' split at h
  all_goals cases h
  all_goals rfl

/-- Every modifier that is set, in words, one behind the other. -/
def Modifiers.shown (m : Modifiers) : List String :=
  (if m.returnBool then ["bool"] else [])
    ++ (if m.on = [] then [] else ["on " ++ labelsText m.on])
    ++ (if m.ignoring = [] then [] else ["ignoring " ++ labelsText m.ignoring])
    ++ m.groupLeft.toList.map (groupingText "group_left")
    ++ m.groupRight.toList.map (groupingText "group_right")

/-- Where the modifiers agree, none is left out for another one. -/
theorem Modifiers.Agree.words_eq {m : Modifiers} {op : Operator} (h : m.Agree op) :
    m.words = m.shown := by
  have hlists : (if !m.on.isEmpty then ["on " ++ labelsText m.on]
      else if !m.ignoring.isEmpty then ["ignoring " ++ labelsText m.ignoring] else []) =
        (if m.on = [] then [] else ["on " ++ labelsText m.on])
          ++ (if m.ignoring = [] then [] else ["ignoring " ++ labelsText m.ignoring]) := by
    obtain hon | hignoring := h.lists
    · cases hi : m.ignoring <;> simp [hon]
    · cases ho : m.on <;> simp [hignoring]
  rw [words, shown, hlists, List.append_assoc _ (m.groupLeft.toList.map _)]
  refine congrArg₂ (· ++ ·) (List.append_assoc _ _ _).symm ?_
  obtain hleft | hright := h.groupings
  · cases hr : m.groupRight <;> simp [hleft]
  · cases hl : m.groupLeft <;> simp [hright]

namespace Expr

/-- Whether the modifiers of an operation or an aggregation agree. -/
def Agree : Expr → Prop
  | binary _ op _ m => m.Agree op
  | aggregation _ _ byLabels withoutLabels _ => byLabels = [] ∨ withoutLabels = []
  | _ => False

/-- Labels behind a keyword, if there are any. -/
def labelsBehind (keyword : String) (labels : List String) : String :=
  if labels = [] then "" else keyword ++ labelsText labels ++ " "

/-- The text of an operation or an aggregation with every modifier that is set, unless an operand
has no text. -/
def shown? : Expr → Except Failure String
  | binary left op right m => do
    let left ← left.written?
    let right ← right.written?
    return "(" ++ left ++ " " ++ " ".intercalate (op.symbol :: m.shown) ++ " " ++ right ++ ")"
  | aggregation op body byLabels withoutLabels param => do
    let body ← body.written?
    let leading ← match param with
      | none => .ok ""
      | some p => p.written?.map (· ++ ",")
    return op ++ labelsBehind " by " byLabels ++ labelsBehind " without " withoutLabels ++ "("
      ++ leading ++ body ++ ")"
  | e => e.written?

/-- **The text of a node shows just the modifiers that are set.** -/
theorem Agree.written_eq {e : Expr} (h : e.Agree) : e.written? = e.shown? := by
  cases e with
  | binary left op right m =>
    rw [written?, fault?, shown?, written?, written?, render, h.words_eq]
    cases left.fault? <;> cases right.fault? <;> rfl
  | aggregation op body byLabels withoutLabels param =>
    have hlabels : aggregationModifier byLabels withoutLabels =
        labelsBehind " by " byLabels ++ labelsBehind " without " withoutLabels := by
      obtain rfl | rfl := h
      · cases withoutLabels <;> simp [aggregationModifier, labelsBehind]
      · cases byLabels <;> simp [aggregationModifier, labelsBehind]
    rw [written?, fault?, shown?, written?, render, hlabels]
    cases param with
    | none =>
      cases body.fault? <;>
        simp [faultParam?, renderParam, bind, Except.bind, pure, Except.pure, String.append_assoc]
    | some p =>
      rw [faultParam?, renderParam]
      dsimp only
      rw [written?]
      cases body.fault? <;> cases p.fault? <;>
        simp [bind, Except.bind, pure, Except.pure, Except.map, String.append_assoc]
  | _ => cases h

end Expr

/-! ### Calls that change modifiers -/

/-- A call that asks a node for a copy with other modifiers. -/
inductive Call where
  | onLabels (labels : List String)
  | ignoringLabels (labels : List String)
  | withGroupLeft (labels : List String)
  | withGroupRight (labels : List String)
  | asBool
  | byLabels (labels : List String)
  | withoutLabels (labels : List String)

namespace Call

/-- The name of the method that is called. -/
def name : Call → String
  | onLabels _ => "on_labels"
  | ignoringLabels _ => "ignoring_labels"
  | withGroupLeft _ => "with_group_left"
  | withGroupRight _ => "with_group_right"
  | asBool => "as_bool"
  | byLabels _ => "by"
  | withoutLabels _ => "without"

/-- The labels that are given. -/
def labels : Call → List String
  | onLabels ls | ignoringLabels ls | withGroupLeft ls | withGroupRight ls | byLabels ls
  | withoutLabels ls => ls
  | asBool => []

/-- The kind of the nodes that can be called so. -/
def kind : Call → NodeKind
  | byLabels _ | withoutLabels _ => .aggregation
  | _ => .binary

/-- What a call makes of the modifiers of an operation. -/
def change (m : Modifiers) : Call → Modifiers
  | onLabels ls => { m with on := ls, ignoring := [] }
  | ignoringLabels ls => { m with ignoring := ls, on := [] }
  | withGroupLeft ls => { m with groupLeft := some ls, groupRight := none }
  | withGroupRight ls => { m with groupRight := some ls, groupLeft := none }
  | asBool => { m with returnBool := true }
  | byLabels _ | withoutLabels _ => m

/-- What a call makes of the labels of an aggregation. -/
def changeLabels (labels : List String × List String) : Call → List String × List String
  | byLabels ls => (ls, [])
  | withoutLabels ls => ([], ls)
  | _ => labels

end Call

namespace Expr

/-- What a node answers to a call, and how the node is then. -/
def answer (e : Expr) (c : Call) : Except Failure Reply :=
  ((Value.expr e).callMethod c.name (c.labels.map .text) []).result

/-- The node that a builder goes on with after a call: the copy, or the node itself where the call
fails. -/
def after (e : Expr) (c : Call) : Expr :=
  match (e.answer c).map Reply.value with
  | .ok (.expr copy) => copy
  | _ => e

/-- The node after several calls, one after the other. -/
def afterAll (e : Expr) (calls : List Call) : Expr :=
  calls.foldl after e

theorem mapM_asText (ls : List String) : (ls.map Value.text).mapM Value.asText? = some ls := by
  induction ls with
  | nil => rfl
  | cons l ls ih => simp [ih, Value.asText?]

/-- A method that takes labels is called with texts. -/
theorem call_labelMethod (e : Expr) (change : List String → Expr → Except Failure Expr)
    (ls : List String) :
    ((labelMethod change).call (.expr e) (ls.map .text) []).result =
      (change ls e).map fun copy => ⟨.expr e, some (.expr copy)⟩ := by
  have hbind : Method.any.bind? (ls.map Value.text) [] = some ⟨[], ls.map .text, []⟩ := by
    simp [Method.any, Signature.bind?, Signature.complete?]
  rw [labelMethod, exprMethod, Method.reading, Method.telling, Method.call, hbind]
  simp only [withLabels, mapM_asText]
  cases change ls e <;> rfl

variable {c : Call}

/-- An operation answers with a copy that has the changed modifiers, unless these are refused. -/
theorem answer_binary (hc : c.kind = .binary) (left : Expr) (op : Operator) (right : Expr)
    (m : Modifiers) :
    (binary left op right m).answer c = (binary? left op right (c.change m)).map fun copy =>
      ⟨.expr (binary left op right m), some (.expr copy)⟩ := by
  cases c with
  | onLabels ls => exact call_labelMethod _ onLabels? ls
  | ignoringLabels ls => exact call_labelMethod _ ignoringLabels? ls
  | withGroupLeft ls => exact call_labelMethod _ groupedLeft? ls
  | withGroupRight ls => exact call_labelMethod _ groupedRight? ls
  | asBool =>
    show ((Logged.ofExcept ((asBool? (binary left op right m)).map Value.expr)).map _).result = _
    rw [asBool?, withModifiers?, Call.change]
    cases binary? left op right { m with returnBool := true } <;> rfl
  | byLabels | withoutLabels => cases hc

/-- An aggregation answers with a copy by other labels or without others. -/
theorem answer_aggregation (hc : c.kind = .aggregation) (op : String) (body : Expr)
    (byLabels withoutLabels : List String) (param : Option Expr) :
    (aggregation op body byLabels withoutLabels param).answer c =
      .ok ⟨.expr (aggregation op body byLabels withoutLabels param),
        some (.expr (aggregation op body (c.changeLabels (byLabels, withoutLabels)).1
          (c.changeLabels (byLabels, withoutLabels)).2 param))⟩ := by
  cases c with
  | byLabels ls => exact call_labelMethod _ (fun labels e => .ok (aggregatedBy labels e)) ls
  | withoutLabels ls =>
    exact call_labelMethod _ (fun labels e => .ok (aggregatedWithout labels e)) ls
  | _ => cases hc

/-- A node fails at a call for nodes of the other kind. -/
theorem answer_of_kind_ne {e : Expr} (he : e.Agree) (hc : c.kind ≠ e.kind) :
    e.answer c = .error (.plain .noSuchMember) := by
  cases e with
  | binary left op right m =>
    cases c with
    | byLabels | withoutLabels => rfl
    | _ => exact absurd rfl hc
  | aggregation op body byLabels withoutLabels param =>
    cases c with
    | byLabels | withoutLabels => exact absurd rfl hc
    | _ => rfl
  | _ => cases he

/-- Whether two nodes differ in nothing but their modifiers. -/
def SameOperands : Expr → Expr → Prop
  | binary left op right _, binary left' op' right' _ => left = left' ∧ op = op' ∧ right = right'
  | aggregation op body _ _ param, aggregation op' body' _ _ param' =>
    op = op' ∧ body = body' ∧ param = param'
  | e, e' => e = e'

theorem SameOperands.refl (e : Expr) : e.SameOperands e := by
  cases e <;> simp [SameOperands]

theorem SameOperands.trans {e₁ e₂ e₃ : Expr} (h : e₁.SameOperands e₂) (h' : e₂.SameOperands e₃) :
    e₁.SameOperands e₃ := by
  cases e₁ <;> cases e₂ <;> simp only [SameOperands, reduceCtorEq] at h <;> cases e₃ <;>
    simp_all [SameOperands]

variable {e : Expr}

/-- A call gives a copy whose modifiers agree, or is refused and leaves the node as it is. -/
theorem answer_cases (he : e.Agree) (hc : c.kind = e.kind) :
    (∃ copy, e.answer c = .ok ⟨.expr e, some (.expr copy)⟩ ∧ e.after c = copy ∧ copy.Agree ∧
        e.SameOperands copy) ∨
      ∃ f, e.answer c = .error f ∧ f.category = .badValue ∧ e.after c = e := by
  cases e with
  | binary left op right m =>
    have hanswer := answer_binary hc left op right m
    rw [binary?] at hanswer
    cases hfault : (c.change m).fault? op with
    | some f =>
      rw [hfault] at hanswer
      exact .inr ⟨f, hanswer, Modifiers.category_of_fault hfault, by rw [after, hanswer]; rfl⟩
    | none =>
      rw [hfault] at hanswer
      exact .inl ⟨_, hanswer, by rw [after, hanswer]; rfl, Modifiers.fault_eq_none.1 hfault,
        rfl, rfl, rfl⟩
  | aggregation op body byLabels withoutLabels param =>
    have hanswer := answer_aggregation hc op body byLabels withoutLabels param
    refine .inl ⟨_, hanswer, by rw [after, hanswer]; rfl, ?_, rfl, rfl, rfl⟩
    cases c with
    | byLabels ls => exact .inr rfl
    | withoutLabels ls => exact .inl rfl
    | _ => cases hc
  | _ => cases he

/-- **A call keeps the modifiers of a node in agreement, whether it succeeds or not.** -/
theorem agree_after (he : e.Agree) (c : Call) :
    (e.after c).Agree ∧ e.SameOperands (e.after c) := by
  by_cases hc : c.kind = e.kind
  · obtain ⟨copy, -, hafter, hcopy, hsame⟩ | ⟨f, -, -, hafter⟩ := answer_cases he hc
    · rw [hafter]
      exact ⟨hcopy, hsame⟩
    · rw [hafter]
      exact ⟨he, .refl e⟩
  · have hafter : e.after c = e := by
      rw [after, answer_of_kind_ne he hc]
      rfl
    rw [hafter]
    exact ⟨he, .refl e⟩

/-- So do several calls. -/
theorem agree_afterAll (he : e.Agree) (calls : List Call) :
    (e.afterAll calls).Agree ∧ e.SameOperands (e.afterAll calls) := by
  induction calls generalizing e with
  | nil => exact ⟨he, .refl e⟩
  | cons c calls ih =>
    obtain ⟨hafter, hsame⟩ := agree_after he c
    obtain ⟨hall, hrest⟩ := ih hafter
    exact ⟨hall, hsame.trans hrest⟩

end Expr

/-! ### Constructors -/

/-- Whether a value, if it is a collection, is one of texts. -/
def HoldsTexts (v : Value) : Prop :=
  ∀ items, v.items? = some items → ∀ item ∈ items, item.asText?.isSome

/-- A node that a constructor makes, by position or by name, of arguments among which all
collections are of texts. -/
def Made (e : Expr) : Prop :=
  ∃ name ∈ ["BinaryOp", "Aggregation"], ∃ builder args given,
    nodeBuilders.lookup name = some builder ∧
    (∀ v ∈ args ++ given.map (·.2), HoldsTexts v) ∧
    (builder.call args given).result = .ok (.expr e)

theorem mem_of_lookup {entries : List (String × Value)} {name : String} {v : Value}
    (h : entries.lookup name = some v) : (name, v) ∈ entries := by
  obtain ⟨before, behind, rfl, -⟩ := List.lookup_eq_some_iff.1 h
  simp

/-- The argument of a parameter that no position reaches is given by name or is a default. -/
theorem mem_complete {given bound : List (String × Value)} {ps : List Parameter}
    (h : Signature.complete? given ps = some bound) :
    ∀ b ∈ bound, b.2 ∈ given.map (·.2) ∨ ∃ p ∈ ps, p.default? = some b.2 := by
  induction ps generalizing bound with
  | nil =>
    cases h
    simp
  | cons p ps ih =>
    simp only [Signature.complete?, bind, Option.bind_eq_some_iff, pure, Option.some.injEq] at h
    obtain ⟨v, hv, rest, hrest, rfl⟩ := h
    intro b hb
    obtain rfl | hb := List.mem_cons.1 hb
    · cases hlookup : given.lookup p.name with
      | some w =>
        rw [hlookup] at hv
        cases hv
        exact .inl (List.mem_map.2 ⟨_, mem_of_lookup hlookup, rfl⟩)
      | none =>
        rw [hlookup] at hv
        exact .inr ⟨p, List.mem_cons_self, hv⟩
    · obtain hgiven | ⟨q, hq, hdefault⟩ := ih hrest b hb
      · exact .inl hgiven
      · exact .inr ⟨q, List.mem_cons_of_mem _ hq, hdefault⟩

/-- What is true of all that is given, and of the defaults, is true of the arguments. -/
theorem get_of_bind {P : Value → Prop} {s : Signature} {args : List Value}
    {given : List (String × Value)} {a : Arguments} (hbind : s.bind? args given = some a)
    (hargs : ∀ v ∈ args ++ given.map (·.2), P v)
    (hdefault : ∀ p ∈ s.positional ++ s.keywordOnly, ∀ v, p.default? = some v → P v)
    (hnull : P .null) (name : String) : P (a.get name) := by
  have hbound : ∃ bound, Signature.complete? given
      (s.positional.drop args.length ++ s.keywordOnly) = some bound ∧
        a.bound = (s.positional.map (·.name)).zip args ++ bound := by
    simp only [Signature.bind?, bind] at hbind
    repeat' split at hbind
    all_goals try cases hbind
    obtain ⟨bound, hcomplete, hbound⟩ := Option.bind_eq_some_iff.1 hbind
    exact ⟨bound, hcomplete, by rw [← Option.some.inj hbound]⟩
  obtain ⟨bound, hcomplete, hbound⟩ := hbound
  rw [Arguments.get, hbound]
  cases hlookup : ((s.positional.map (·.name)).zip args ++ bound).lookup name with
  | none => exact hnull
  | some v =>
    obtain hposition | hname := List.mem_append.1 (mem_of_lookup hlookup)
    · exact hargs v (List.mem_append_left _ (List.of_mem_zip hposition).2)
    · obtain hgiven | ⟨p, hp, hp'⟩ := mem_complete hcomplete _ hname
      · exact hargs v (List.mem_append_right _ hgiven)
      · refine hdefault p ?_ v hp'
        obtain hp | hp := List.mem_append.1 hp
        · exact List.mem_append_left _ (List.mem_of_mem_drop hp)
        · exact List.mem_append_right _ hp

theorem exists_mapM_asText {items : List Value} (h : ∀ item ∈ items, item.asText?.isSome) :
    ∃ texts, items.mapM Value.asText? = some texts := by
  induction items with
  | nil => exact ⟨[], rfl⟩
  | cons item items ih =>
    obtain ⟨text, htext⟩ := Option.isSome_iff_exists.1 (h item List.mem_cons_self)
    obtain ⟨texts, htexts⟩ := ih fun i hi => h i (List.mem_cons_of_mem _ hi)
    exact ⟨text :: texts, by simp [htext, htexts]⟩

/-- The labels of a collection of texts can all be read. -/
theorem labelsOf_of_holdsTexts {v : Value} {labels? : Option (List String)} (hv : HoldsTexts v)
    (h : labelsOf v = .ok labels?) : ∃ labels, labels? = some labels := by
  obtain ⟨items, hitems, h⟩ := bind_eq_ok.1 h
  rw [Value.items] at hitems
  cases hthere : v.items? with
  | none =>
    rw [hthere] at hitems
    cases hitems
  | some xs =>
    rw [hthere] at hitems
    cases hitems
    obtain ⟨labels, hlabels⟩ := exists_mapM_asText (hv _ hthere)
    exact ⟨labels, (Except.ok.inj h).symm.trans hlabels⟩

theorem groupOf_of_holdsTexts {v : Value} {group? : Option (Option (List String))}
    (hv : HoldsTexts v) (h : groupOf v = .ok group?) : ∃ group, group? = some group := by
  rw [groupOf] at h
  split at h
  · exact ⟨none, (Except.ok.inj h).symm⟩
  · obtain ⟨labels?, hlabels, h⟩ := bind_eq_ok.1 h
    obtain ⟨labels, rfl⟩ := labelsOf_of_holdsTexts hv hlabels
    exact ⟨some labels, (Except.ok.inj h).symm⟩

theorem agree_of_binary {left right e : Expr} {op : Operator} {m : Modifiers}
    (h : Expr.binary? left op right m = .ok e) : e.Agree := by
  rw [Expr.binary?] at h
  split at h
  · cases h
  · next hfault =>
    cases h
    exact Modifiers.fault_eq_none.1 hfault

theorem agree_of_binaryOf {left op right on ignoring groupLeft groupRight returnBool : Value}
    {e : Expr} (hon : HoldsTexts on) (hignoring : HoldsTexts ignoring)
    (hleft : HoldsTexts groupLeft) (hright : HoldsTexts groupRight)
    (h : binaryOf left op right on ignoring groupLeft groupRight returnBool = .ok e) : e.Agree := by
  unfold binaryOf at h
  cases hop : op.asText?.bind Operator.ofSymbol? with
  | none =>
    rw [hop] at h
    dsimp only at h
    split at h <;> cases h
  | some operator =>
    rw [hop] at h
    dsimp only at h
    -- This check sees only which modifiers are asked for; the one of the node decides below.
    generalize Modifiers.fault? _ operator = fault? at h
    cases fault? with
    | some f => split at h <;> cases h
    | none =>
      split at h
      · cases h
      · cases h
      obtain ⟨l, -, h⟩ := bind_eq_ok.1 h
      obtain ⟨r, -, h⟩ := bind_eq_ok.1 h
      obtain ⟨on?, hon?, h⟩ := bind_eq_ok.1 h
      obtain ⟨ignoring?, hignoring?, h⟩ := bind_eq_ok.1 h
      obtain ⟨left?, hleft?, h⟩ := bind_eq_ok.1 h
      obtain ⟨right?, hright?, h⟩ := bind_eq_ok.1 h
      obtain ⟨on, rfl⟩ := labelsOf_of_holdsTexts hon hon?
      obtain ⟨ignoring, rfl⟩ := labelsOf_of_holdsTexts hignoring hignoring?
      obtain ⟨groupLeft, rfl⟩ := groupOf_of_holdsTexts hleft hleft?
      obtain ⟨groupRight, rfl⟩ := groupOf_of_holdsTexts hright hright?
      exact agree_of_binary h

theorem agree_of_aggregation {op : String} {body e : Expr} {byLabels withoutLabels : List String}
    {param : Option Expr} (h : Expr.aggregation? op body byLabels withoutLabels param = .ok e) :
    e.Agree := by
  rw [Expr.aggregation?] at h
  split at h
  · cases h
  · next hlists =>
    cases h
    cases byLabels with
    | nil => exact .inl rfl
    | cons l ls => exact .inr (by simpa using hlists)

theorem agree_of_aggregationOf {op body byLabels withoutLabels param : Value} {e : Expr}
    (hlisted : HoldsTexts byLabels) (hdropped : HoldsTexts withoutLabels)
    (h : aggregationOf op body byLabels withoutLabels param = .ok e) : e.Agree := by
  simp only [aggregationOf] at h
  split at h
  · cases h
  · obtain ⟨b, -, h⟩ := bind_eq_ok.1 h
    obtain ⟨listed?, hlisted?, h⟩ := bind_eq_ok.1 h
    obtain ⟨dropped?, hdropped?, h⟩ := bind_eq_ok.1 h
    obtain ⟨ls, rfl⟩ := labelsOf_of_holdsTexts hlisted hlisted?
    obtain ⟨ks, rfl⟩ := labelsOf_of_holdsTexts hdropped hdropped?
    split at h
    · exact agree_of_aggregation h
    · obtain ⟨p, -, h⟩ := bind_eq_ok.1 h
      exact agree_of_aggregation h

theorem eq_ok_of_map {made : Except Failure Expr} {e : Expr}
    (h : made.map Value.expr = .ok (.expr e)) : made = .ok e := by
  cases made with
  | error f => cases h
  | ok e' => rw [Value.expr.inj (Except.ok.inj h)]

/-- **What a constructor makes has modifiers that agree.** -/
theorem Made.agree {e : Expr} (h : Made e) : e.Agree := by
  obtain ⟨name, hname, builder, args, given, hbuilder, hgiven, hcall⟩ := h
  -- The defaults of both constructors hold no texts but empty collections.
  have hnull : HoldsTexts .null := fun items hitems => by cases hitems
  have hnone : HoldsTexts (.tuple []) := fun items hitems => by
    cases hitems
    simp
  have hfalse : HoldsTexts (.bool false) := fun items hitems => by cases hitems
  rw [Builder.call] at hcall
  split at hcall
  · next a hbind =>
    simp only [List.mem_cons, List.not_mem_nil, or_false] at hname
    obtain rfl | rfl := hname
    · cases hbuilder
      have hget := get_of_bind hbind hgiven (by
        simp [Builder.of, exprBuilder, Signature.required, Signature.optional, hnone, hnull,
          hfalse]) hnull
      exact agree_of_binaryOf (hget _) (hget _) (hget _) (hget _) (eq_ok_of_map hcall)
    · cases hbuilder
      have hget := get_of_bind hbind hgiven (by
        simp [Builder.of, exprBuilder, Signature.required, Signature.optional, hnone, hnull]) hnull
      exact agree_of_aggregationOf (hget _) (hget _) (eq_ok_of_map hcall)
  · cases hcall

/-- **Whatever calls follow on a constructor, the modifiers of the node agree, and its text shows
just those that are set.** The calls change nothing but modifiers, and a further call gives a copy
or is refused for a reason of values. -/
theorem Made.keeps_agreement {e : Expr} (h : Made e) (calls : List Call) :
    (e.afterAll calls).Agree ∧ e.SameOperands (e.afterAll calls) ∧
      (e.afterAll calls).written? = (e.afterAll calls).shown? ∧
      ∀ c : Call, c.kind = (e.afterAll calls).kind →
        (∃ copy, (e.afterAll calls).answer c = .ok ⟨.expr (e.afterAll calls), some (.expr copy)⟩ ∧
          e.afterAll (calls ++ [c]) = copy) ∨
        ∃ f, (e.afterAll calls).answer c = .error f ∧ f.category = .badValue ∧
          e.afterAll (calls ++ [c]) = e.afterAll calls := by
  obtain ⟨hagree, hsame⟩ := Expr.agree_afterAll h.agree calls
  refine ⟨hagree, hsame, hagree.written_eq, fun c hc => ?_⟩
  have hlast : e.afterAll (calls ++ [c]) = (e.afterAll calls).after c := by
    rw [Expr.afterAll, List.foldl_append]
    rfl
  rw [hlast]
  obtain ⟨copy, hanswer, hafter, -, -⟩ | ⟨f, hanswer, hcategory, hafter⟩ :=
    Expr.answer_cases hagree hc
  · exact .inl ⟨copy, hanswer, hafter⟩
  · exact .inr ⟨f, hanswer, hcategory, hafter⟩

/-- A comparison that is grouped; calls take back the labels that it is matched on, and a call that
would leave the group without labels is refused. -/
theorem Made.keeps_agreement_grouped :
    let left := Expr.vector "a" [] none
    let right := Expr.vector "b" [] none
    let e := Expr.binary left .greater right { on := ["job"], groupLeft := some ["team"] }
    let calls := [Call.ignoringLabels ["pod"], .asBool, .onLabels [], .withGroupRight []]
    Made e ∧ (e.afterAll calls).Agree ∧
      (e.afterAll calls).written? = .ok "(a > bool ignoring (pod) group_right b)" := by
  intro left right e calls
  have hmade : Made e := ⟨"BinaryOp", by simp, _, [.expr left, .text ">", .expr right],
    [("on", .list [.text "job"]), ("group_left", .list [.text "team"])], rfl, by
      simp [HoldsTexts, Value.items?, Value.asText?], rfl⟩
  obtain ⟨hagree, -, hwritten, -⟩ := hmade.keeps_agreement calls
  refine ⟨hmade, hagree, hwritten.trans ?_⟩
  have hnode : e.afterAll calls = Expr.binary left .greater right
      { ignoring := ["pod"], groupRight := some [], returnBool := true } := rfl
  rw [hnode]
  rfl

end MonitoringConfig.Promql
