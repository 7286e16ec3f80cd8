import Mathlib.Logic.Relation
import MonitoringConfig.Proofs.Projection.Mapping
/-!
# The parts that data is read of

Data is read part by part, down from the whole: an entity of what stands for its fields, a list of its
items, a mapping of its values, a rule as the kind that it names. Each part can be wrong in its own
way only.

* `Part.Step` : one part is read of another.
* `Part.fault?` : what is wrong with a part itself.
* `Part.isOwn_of_fault?` : **which of the failures are those of the library** is known by the parts
  that they are about.
* `Part.Step.induct` : induction over the parts of which a part is read.
-/

namespace MonitoringConfig

open Logged

/-! ### Computations that fail -/

/-- Whether a failure is one of those that the library has for data that cannot be read. -/
def Failure.isOfReading (e : Failure) : Bool :=
  match e.category with
  | .serialization | .malformedDuration | .malformedMatcher => true
  | _ => false

/-- The failure of a computation that fails. -/
def failure? {α : Type} : Except Failure α → Option Failure
  | .ok _ => none
  | .error e => some e

theorem failure?_eq_some {α : Type} {x : Except Failure α} {e : Failure} :
    failure? x = some e ↔ x = .error e := by
  cases x <;> simp [failure?]

theorem map_eq_error {α β : Type} {x : Except Failure α} {f : α → β} {e : Failure} :
    x.map f = .error e ↔ x = .error e := by
  cases x <;> simp [Except.map]

/-! ### Types and values -/

namespace FieldType

/-- Whether only entities that are read can be asked for by a type. -/
def isProjected : FieldType → Bool
  | entity kind => kind.isProjected
  | listOf t | tupleOf t | mapOf t | optional t => t.isProjected
  | _ => true

/-- How often a type can be taken apart while the data stays the same. -/
def depth : FieldType → Nat
  | listOf t | tupleOf t | mapOf t | optional t => t.depth + 1
  | rule => 1
  | _ => 0

end FieldType

theorem Kind.type_isProjected {kind : Kind} (h : kind.isProjected = true) {f : Field}
    (hf : f ∈ kind.schema.fields) : f.type.isProjected = true := by
  have htypes : ∀ kind ∈ projected, ∀ f ∈ kind.schema.fields, f.type.isProjected = true := by
    decide +kernel
  exact htypes kind (mem_of_isProjected h) f hf

namespace Value

/-- How large a value is; those without other values as parts are of no size. -/
noncomputable def extent (d : Value) : Nat :=
  if d.isLeaf then 0 else sizeOf d

theorem extent_le_sizeOf (d : Value) : d.extent ≤ sizeOf d := by
  rw [extent]
  split
  · exact Nat.zero_le _
  · exact Nat.le_refl _

theorem extent_le {d v : Value} (h : sizeOf v ≤ sizeOf d) (hd : d.isLeaf = false) :
    v.extent ≤ d.extent := by
  have hextent : d.extent = sizeOf d := by
    rw [extent, hd]
    rfl
  rw [hextent]
  exact Nat.le_trans (extent_le_sizeOf v) h

theorem extent_of_mem_entries {es : List (Value × Value)} {e : Value × Value} (he : e ∈ es) :
    e.1.extent < (map es).extent ∧ e.2.extent < (map es).extent := by
  have hmap : (map es).extent = sizeOf (map es) := rfl
  have hmem := List.sizeOf_lt_of_mem he
  have hkey := extent_le_sizeOf e.1
  have hvalue := extent_le_sizeOf e.2
  have hentry : sizeOf e = 1 + sizeOf e.1 + sizeOf e.2 := rfl
  rw [hmap, map.sizeOf_spec]
  omega

/-- Items are smaller, but for the characters of a text, which are texts again. -/
theorem extent_of_mem_items {d v : Value} {ds : List Value} (hds : d.items? = some ds)
    (hv : v ∈ ds) : v.extent ≤ d.extent := by
  refine forall_mem_items (P := fun v => v.extent ≤ d.extent) hds ?_ ?_ (fun _ => Nat.zero_le _)
    (fun _ => Nat.zero_le _) v hv
  · intro items hd v hv
    have hmem := List.sizeOf_lt_of_mem hv
    rcases hd with rfl | rfl | rfl
    all_goals
      refine extent_le ?_ rfl
      simp only [list.sizeOf_spec, tuple.sizeOf_spec, set.sizeOf_spec]
      omega
  · rintro entries rfl e he
    exact Nat.le_of_lt (extent_of_mem_entries he).1

theorem hasNoExpr_of_mem_items {d v : Value} {ds : List Value} (h : d.hasNoExpr = true)
    (hds : d.items? = some ds) (hv : v ∈ ds) : v.hasNoExpr = true := by
  refine forall_mem_items (P := fun v => v.hasNoExpr = true) hds ?_ ?_ (fun _ => rfl) (fun _ => rfl)
    v hv
  · rintro items (rfl | rfl | rfl)
    all_goals exact everywhereIn_iff.1 h
  · rintro entries rfl e he
    exact (everywhereInEntries_iff.1 h e he).1

/-- The kind of rule that a value names. -/
def ruleKind? (d : Value) : Option Kind :=
  match d.mentions? "alert", d.mentions? "record" with
  | some true, _ => some .alertingRule
  | some false, some true => some .recordingRule
  | _, _ => none

/-- What is wrong with a value that names no kind of rule. Its keys are shown in order, so there is
another failure if they have none. -/
def ruleFault (d : Value) : Failure :=
  match d.mentions? "alert", d.items?.bind sort? with
  | some false, some keys => .namelessRule (list keys).quoted
  | _, _ => .plain .wrongType

theorem isProjected_of_ruleKind {d : Value} {kind : Kind} (h : d.ruleKind? = some kind) :
    kind.isProjected = true := by
  rw [ruleKind?] at h
  split at h <;> cases h <;> rfl

end Value

/-! ### The parts of data -/

/-- A part of data, with the type and the style in which it is read. -/
structure Part where
  data : Value
  type : FieldType
  style : Style

namespace Part

variable {p q : Part}

/-- What a part is read as. -/
def read (p : Part) : Except Failure Value :=
  (p.data.decode p.type p.style).result

/-- One part is read of another. -/
inductive Step : Part → Part → Prop
  | optional {d : Value} {t : FieldType} {style : Style} (hd : d ≠ .null) :
      Step ⟨d, .optional t, style⟩ ⟨d, t, style⟩
  /-- A list is read of the items of what stands there: the keys of a mapping, and the characters of
  a text. -/
  | item {d v : Value} {ds : List Value} {t : FieldType} {style : Style} (hds : d.items? = some ds)
      (hv : v ∈ ds) : Step ⟨d, .listOf t, style⟩ ⟨v, t, style⟩
  | tupleItem {d v : Value} {ds : List Value} {t : FieldType} {style : Style}
      (hds : d.items? = some ds) (hv : v ∈ ds) : Step ⟨d, .tupleOf t, style⟩ ⟨v, t, style⟩
  | entry {es : List (Value × Value)} {e : Value × Value} {t : FieldType} {style : Style}
      (he : e ∈ es) : Step ⟨.map es, .mapOf t, style⟩ ⟨e.2, t, style⟩
  | field {es : List (Value × Value)} {kind : Kind} {f : Field} {v : Value} {style : Style}
      (hf : f ∈ kind.schema.fields) (hv : Entity.fieldAt? kind es style f = some v) :
      Step ⟨.map es, .entity kind, style⟩ ⟨v, f.type, kind.schema.styleIn style⟩
  | rule {d : Value} {kind : Kind} {style : Style} (hkind : d.ruleKind? = some kind) :
      Step ⟨d, .rule, style⟩ ⟨d, .entity kind, .snake⟩

/-- The parts that a part is read of, the parts that those are read of, and so on, and itself. -/
def Reaches : Part → Part → Prop :=
  Relation.ReflTransGen Step

/-- What is wrong with a part itself, whatever is wrong with the parts that it is read of. Nothing is
wrong where there is nothing, unless a rule should be there. -/
def fault? (p : Part) : Option Failure :=
  match p.type, p.data with
  | .rule, d => if d.ruleKind?.isSome then none else some d.ruleFault
  | _, .null => none
  | .listOf _, d | .tupleOf _, d => if d.items?.isSome then none else some (.plain .wrongType)
  | .mapOf _, .map _ => none
  | .mapOf _, _ => some (.plain .noSuchMember)
  | .entity kind, .map es =>
    match Entity.checkEnvelope kind (Value.decodeEntries es) with
    | .error e => some e
    | .ok _ =>
      if Entity.missingAt kind es p.style = [] then none
      else some (.missingFields kind.name (Entity.missingAt kind es p.style))
  | .entity kind, d => some (.notMapping kind.name d.typeName)
  | .duration, d => failure? (Duration.ofValue d)
  | .matcher, d => failure? (Matcher.ofValue d)
  | .choice c, d => failure? (c.memberOf d)
  | .real, .int n => if (Binary64.ofInt n).isFinite then none else some (.plain .tooLarge)
  | _, _ => none

/-- Whether it is not said by a failure of the library what is wrong with a part: with a list, a
mapping, a member of a choice or a number, with a rule that has no keys in order, and with a matcher
that is given as a mapping. -/
def leaks (p : Part) : Bool :=
  match p.type, p.data with
  | .listOf _, _ | .tupleOf _, _ | .mapOf _, _ | .choice _, _ | .real, _ => true
  | .matcher, .map _ => true
  | .rule, d => d.mentions? "alert" != some false || (d.items?.bind Value.sort?).isNone
  | _, _ => false

/-- Whether a part is a number or a truth value in place of a list, or something else than a mapping
in place of one. -/
def isMisplaced (p : Part) : Bool :=
  match p.type, p.data with
  | .listOf _, d | .tupleOf _, d => d.asScalar?.isSome
  | .mapOf _, .null | .mapOf _, .map _ | .entity _, .null | .entity _, .map _ => false
  | .mapOf _, _ | .entity _, _ => true
  | _, _ => false

variable {d : Value} {t : FieldType} {style : Style}

theorem fault?_optional : fault? ⟨d, .optional t, style⟩ = none := by
  cases d <;> rfl

theorem fault?_rule : fault? ⟨d, .rule, style⟩ =
    if d.ruleKind?.isSome then none else some d.ruleFault := by
  cases d <;> rfl

theorem fault?_sequence (hd : d ≠ .null) :
    fault? ⟨d, .listOf t, style⟩ =
        (if d.items?.isSome then none else some (.plain .wrongType)) ∧
      fault? ⟨d, .tupleOf t, style⟩ =
        if d.items?.isSome then none else some (.plain .wrongType) := by
  cases d <;> first | exact absurd rfl hd | exact ⟨rfl, rfl⟩

theorem fault?_entity {kind : Kind} {es : List (Value × Value)} :
    fault? ⟨.map es, .entity kind, style⟩ =
      match Entity.checkEnvelope kind (Value.decodeEntries es) with
      | .error e => some e
      | .ok _ => if Entity.missingAt kind es style = [] then none
        else some (.missingFields kind.name (Entity.missingAt kind es style)) :=
  rfl

/-- What is wrong with a part that is read of no others is what is said when it is read. -/
theorem fault?_scalar (hd : d ≠ .null) (ht : t.isScalar = true) :
    fault? ⟨d, t, style⟩ = failure? (decodeScalar d t).result := by
  have hmap : ∀ {α : Type} (x : Except Failure α) (f : α → Value),
      failure? x = failure? (x.map f) := by
    intro α x f
    cases x <;> rfl
  cases t with
  | duration =>
    refine Eq.trans ?_ (hmap (Duration.ofValue d) .duration)
    cases d <;> first | exact absurd rfl hd | rfl
  | matcher =>
    refine Eq.trans ?_ (hmap (Matcher.ofValue d) .matcher)
    cases d <;> first | exact absurd rfl hd | rfl
  | choice c => cases d <;> first | exact absurd rfl hd | rfl
  | real =>
    cases d with
    | null => exact absurd rfl hd
    | int n =>
      simp only [fault?, decodeScalar]
      split <;> rfl
    | _ => rfl
  | any | oneOf | text | flag | whole | secret => cases d <;> rfl
  | _ => cases ht

/-- What is wrong with a misplaced part is wrong with itself. -/
theorem exists_fault_of_isMisplaced (h : p.isMisplaced = true) : ∃ e, p.fault? = some e := by
  obtain ⟨d, t, style⟩ := p
  cases t with
  | listOf t | tupleOf t => cases d <;> first | exact ⟨_, rfl⟩ | cases h
  | mapOf t | entity kind => cases d <;> first | exact ⟨_, rfl⟩ | cases h
  | _ => cases h

/-! ### Whose failure it is -/

section Own

variable {e : Failure}

theorem isOwn_of_duration (h : Duration.ofValue d = .error e) :
    e.isOwn = true ∧ e.isOfReading = true := by
  have hread : ∀ text, Duration.read text = .error e → e.isOwn = true ∧ e.isOfReading = true := by
    intro text h
    rw [Duration.read] at h
    split at h <;> cases h <;> exact ⟨rfl, rfl⟩
  unfold Duration.ofValue at h
  split at h
  · cases h
  · exact hread _ h

theorem isOwn_of_checkEnvelope {kind : Kind} {entries : List DecodedEntry}
    (h : Entity.checkEnvelope kind entries = .error e) :
    e.isOwn = true ∧ e.isOfReading = true := by
  rw [Entity.checkEnvelope] at h
  split at h
  · split at h <;> cases h
    exact ⟨rfl, rfl⟩
  · cases h

/-- A mapping that is no matcher lacks a name or has an operator that there is not. -/
theorem isOwn_of_matcherEntries {es : List (Value × Value)} (h : Matcher.ofEntries es = .error e) :
    e.isOwn = false ∧ e.isOfReading = false := by
  simp only [Matcher.ofEntries] at h
  split at h
  · split at h
    · next op =>
      generalize (((Value.text "matchType").lookup? es).getD .null) = op at h
      cases hop : MatchType.ofValue op with
      | ok op =>
        rw [hop] at h
        cases h
      | error e' =>
        rw [hop] at h
        cases h
        rw [MatchType.ofValue] at hop
        split at hop <;> cases hop
        exact ⟨rfl, rfl⟩
    · cases h
  · cases h
    exact ⟨rfl, rfl⟩

theorem isOwn_of_matcher (h : Matcher.ofValue d = .error e) :
    e.isOwn = !leaks ⟨d, .matcher, style⟩ ∧ e.isOfReading = !leaks ⟨d, .matcher, style⟩ := by
  have hparse : ∀ v, Matcher.parseValue v = .error e → e.isOwn = true ∧ e.isOfReading = true := by
    intro v h
    rw [Matcher.parseValue] at h
    split at h <;> cases h
    exact ⟨rfl, rfl⟩
  unfold Matcher.ofValue at h
  split at h
  · cases h
  · exact isOwn_of_matcherEntries h
  · next hmap =>
    have hleaks : leaks ⟨d, .matcher, style⟩ = false := by
      cases d with
      | map es => exact absurd rfl (hmap es)
      | _ => rfl
    rw [hleaks]
    exact hparse _ h

theorem isOwn_of_choice {c : Choice} (h : c.memberOf d = .error e) :
    e.isOwn = false ∧ e.isOfReading = false := by
  rw [Choice.memberOf] at h
  split at h
  · split at h <;> cases h
    exact ⟨rfl, rfl⟩
  · cases h
    exact ⟨rfl, rfl⟩

theorem isOwn_ruleFault : d.ruleFault.isOwn = !leaks ⟨d, .rule, style⟩ ∧
    d.ruleFault.isOfReading = !leaks ⟨d, .rule, style⟩ := by
  simp only [leaks, Value.ruleFault]
  cases d.mentions? "alert" with
  | none => exact ⟨rfl, rfl⟩
  | some alert =>
    cases alert with
    | true => exact ⟨rfl, rfl⟩
    | false => cases d.items?.bind Value.sort? <;> exact ⟨rfl, rfl⟩

/-- **Which failures are those of the library** is known by the parts that they are about. -/
theorem isOwn_of_fault? (h : p.fault? = some e) :
    e.isOwn = !p.leaks ∧ e.isOfReading = !p.leaks := by
  obtain ⟨d, t, style⟩ := p
  by_cases hd : d = .null
  · subst hd
    cases t <;> cases h
    exact ⟨rfl, rfl⟩
  cases t with
  | rule =>
    rw [fault?_rule] at h
    split at h <;> cases h
    exact isOwn_ruleFault
  | listOf t =>
    rw [(fault?_sequence hd).1] at h
    split at h <;> cases h
    exact ⟨rfl, rfl⟩
  | tupleOf t =>
    rw [(fault?_sequence hd).2] at h
    split at h <;> cases h
    exact ⟨rfl, rfl⟩
  | mapOf t => cases d <;> cases h <;> exact ⟨rfl, rfl⟩
  | optional t =>
    rw [fault?_optional] at h
    cases h
  | entity kind =>
    cases d with
    | map es =>
      rw [fault?_entity] at h
      split at h
      · next hcheck =>
        cases h
        exact isOwn_of_checkEnvelope hcheck
      · split at h <;> cases h
        exact ⟨rfl, rfl⟩
    | _ => cases h <;> exact ⟨rfl, rfl⟩
  | duration =>
    rw [fault?_scalar hd rfl, failure?_eq_some] at h
    exact isOwn_of_duration (map_eq_error.1 h)
  | matcher =>
    rw [fault?_scalar hd rfl, failure?_eq_some] at h
    exact isOwn_of_matcher (map_eq_error.1 h)
  | choice c =>
    rw [fault?_scalar hd rfl, failure?_eq_some] at h
    exact isOwn_of_choice h
  | real =>
    cases d with
    | int n =>
      simp only [fault?] at h
      split at h <;> cases h
      exact ⟨rfl, rfl⟩
    | _ => cases h
  | _ => cases d <;> cases h

end Own

/-! ### Parts are less than what is read of them -/

/-- Data without parts is still taken apart as its type says: a character is a list of itself. -/
theorem Step.less (h : p.Step q) : Prod.Lex (· < ·) (· < ·) (q.data.extent, q.type.depth)
    (p.data.extent, p.type.depth) := by
  have hitem : ∀ {d v : Value} {ds : List Value} (t : FieldType), d.items? = some ds → v ∈ ds →
      Prod.Lex (· < ·) (· < ·) (v.extent, t.depth) (d.extent, t.depth + 1) := by
    intro d v ds t hds hv
    obtain hlt | heq := Nat.lt_or_eq_of_le (Value.extent_of_mem_items hds hv)
    · exact .left _ _ hlt
    · rw [heq]
      exact .right _ (Nat.lt_succ_self _)
  -- Where the data stays the same, as it does for a rule, it is the type that is taken apart.
  cases h with
  | optional hd => exact .right _ (Nat.lt_succ_self _)
  | item hds hv => exact hitem _ hds hv
  | tupleItem hds hv => exact hitem _ hds hv
  | entry he => exact .left _ _ (Value.extent_of_mem_entries he).2
  | field hf hv =>
    obtain ⟨e, he, rfl⟩ := Entity.mem_of_fieldAt? hv
    exact .left _ _ (Value.extent_of_mem_entries he).2
  | rule hkind => exact .right _ Nat.zero_lt_one

/-- Induction over the parts of which a part is read. -/
@[elab_as_elim]
theorem Step.induct {P : Part → Prop} (parts : ∀ p, (∀ q, p.Step q → P q) → P p) (p : Part) : P p :=
  (InvImage.wf (fun p : Part => (p.data.extent, p.type.depth))
    (Prod.lex Nat.lt_wfRel Nat.lt_wfRel).wf).fix (fun p ih => parts p fun q hq => ih q hq.less) p

end Part

end MonitoringConfig
