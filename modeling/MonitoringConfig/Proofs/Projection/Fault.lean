import MonitoringConfig.Proofs.Projection.Part
/-!
# What is wrong with data that is not read

What is wrong with data is wrong with one of the parts that it is read of.

* `Part.IsData.accounted` : one step of reading. A part is read just if nothing is wrong with it and
  the parts that it is read of are.
* `Part.fault?_of_read`, `Part.exists_fault` : the whole way down.
* `Entity.read_faults` : **an entity is read just if nothing is wrong with any part of the data**, and
  what is said otherwise is wrong with one of them.
-/

namespace MonitoringConfig

open Logged

/-- Several computations all succeed, or fail as one of them does. -/
theorem Logged.all_cases {α β : Type} (f : α → Logged β) (as : List α) :
    (∃ bs, (all (as.map f)).result = .ok bs ∧ ∀ a ∈ as, ∃ b, (f a).result = .ok b) ∨
      ∃ e, (all (as.map f)).result = .error e ∧ ∃ a ∈ as, (f a).result = .error e := by
  induction as with
  | nil => exact .inl ⟨[], rfl, fun a ha => absurd ha List.not_mem_nil⟩
  | cons a as ih =>
    rw [List.map_cons, all, result_bind]
    cases ha : (f a).result with
    | error e => exact .inr ⟨e, rfl, a, List.mem_cons_self, ha⟩
    | ok b =>
      simp only [Except.bind, result_bind]
      obtain ⟨bs, hbs, hall⟩ | ⟨e, he, c, hc, hfail⟩ := ih
      · rw [hbs]
        exact .inl ⟨b :: bs, rfl, List.forall_mem_cons.2 ⟨⟨b, ha⟩, hall⟩⟩
      · rw [he]
        exact .inr ⟨e, rfl, c, List.mem_cons_of_mem _ hc, hfail⟩

/-- A rule is read as the kind that it names. -/
theorem Value.result_decode_rule (d : Value) (style : Style) :
    (∀ kind, d.ruleKind? = some kind →
        (d.decode .rule style).result = (d.decode (.entity kind) .snake).result) ∧
      (d.ruleKind? = none → (d.decode .rule style).result = .error d.ruleFault) := by
  have hread : ∀ entries?, (∀ kind, d.decode (.entity kind) .snake =
        entries?.elim (fail (.notMapping kind.name d.typeName))
          fun entries => Entity.readEntries kind entries .snake) →
      (∀ kind, d.ruleKind? = some kind →
          (readRule d entries?).result = (d.decode (.entity kind) .snake).result) ∧
        (d.ruleKind? = none → (readRule d entries?).result = .error d.ruleFault) := by
    intro entries? hentity
    rw [readRule, ruleKind?, ruleFault]
    cases d.mentions? "alert" with
    | none => exact ⟨fun _ h => (by cases h), fun _ => rfl⟩
    | some alert =>
      cases alert with
      | true =>
        refine ⟨fun kind h => ?_, fun h => by cases h⟩
        cases h
        rw [hentity]
        cases entries? <;> rfl
      | false =>
        cases d.mentions? "record" with
        | some record =>
          cases record with
          | true =>
            refine ⟨fun kind h => ?_, fun h => by cases h⟩
            cases h
            rw [hentity]
            cases entries? <;> rfl
          | false =>
            refine ⟨fun _ h => (by cases h), fun _ => ?_⟩
            cases d.items?.bind sort? <;> rfl
        | none =>
          refine ⟨fun _ h => (by cases h), fun _ => ?_⟩
          cases d.items?.bind sort? <;> rfl
  cases d with
  | null => exact ⟨fun _ h => (by cases h), fun _ => rfl⟩
  | map es => exact hread (some (decodeEntries es)) fun kind => rfl
  | _ => exact hread none fun kind => rfl

namespace Part

variable {p q : Part} {d : Value} {t : FieldType} {style : Style}

/-! ### One step of reading -/

/-- A part that is read has nothing wrong with itself, and all parts that it is read of are read. What
is said of a part that is not read is wrong with itself, or is said of a part that it is read of. -/
def Accounted (p : Part) : Prop :=
  match p.read with
  | .ok _ => p.fault? = none ∧ ∀ q, p.Step q → ∃ w, q.read = .ok w
  | .error e => p.fault? = some e ∨ ∃ q, p.Step q ∧ q.read = .error e

theorem accounted_of_ok {w : Value} (h : p.read = .ok w) (hfault : p.fault? = none)
    (hstep : ∀ q, p.Step q → ∃ w, q.read = .ok w) : p.Accounted := by
  rw [Accounted, h]
  exact ⟨hfault, hstep⟩

theorem accounted_of_fault {e : Failure} (h : p.read = .error e) (hfault : p.fault? = some e) :
    p.Accounted := by
  rw [Accounted, h]
  exact .inl hfault

theorem accounted_of_step {e : Failure} (h : p.read = .error e) (hstep : p.Step q)
    (hq : q.read = .error e) : p.Accounted := by
  rw [Accounted, h]
  exact .inr ⟨q, hstep, hq⟩

/-- Where there is nothing, nothing is read. -/
theorem accounted_null : Accounted ⟨.null, t, style⟩ := by
  cases t with
  | rule => exact accounted_of_fault rfl rfl
  | optional t =>
    refine accounted_of_ok rfl rfl fun q hq => ?_
    cases hq with
    | optional hd => exact absurd rfl hd
  | listOf t | tupleOf t =>
    refine accounted_of_ok rfl rfl fun q hq => ?_
    cases hq
    contradiction
  | _ => exact accounted_of_ok rfl rfl fun q hq => by cases hq

theorem accounted_optional (hd : d ≠ .null) : Accounted ⟨d, .optional t, style⟩ := by
  have hread : read ⟨d, .optional t, style⟩ = read ⟨d, t, style⟩ :=
    congrArg result (Value.decode_optional hd)
  cases h : read ⟨d, t, style⟩ with
  | ok w =>
    refine accounted_of_ok (hread.trans h) fault?_optional fun q hq => ?_
    cases hq with
    | optional _ => exact ⟨w, h⟩
  | error e => exact accounted_of_step (hread.trans h) (.optional hd) h

/-- Lists and tuples are read of the items of what stands there, and differ in what is made of those. -/
theorem accounted_items {type : FieldType} {make : List Value → Value}
    (hread : read ⟨d, type, style⟩ = match d.items? with
      | some ds => (all (ds.map fun d => d.decode t style)).result.map make
      | none => .error (.plain .wrongType))
    (hfault : fault? ⟨d, type, style⟩ =
      if d.items?.isSome then none else some (.plain .wrongType))
    (hstep : ∀ q, Step ⟨d, type, style⟩ q ↔
      ∃ ds v, d.items? = some ds ∧ v ∈ ds ∧ q = ⟨v, t, style⟩) :
    Accounted ⟨d, type, style⟩ := by
  cases hds : d.items? with
  | none =>
    rw [hds] at hread hfault
    exact accounted_of_fault hread hfault
  | some ds =>
    rw [hds] at hread hfault
    replace hread : read ⟨d, type, style⟩ = (all (ds.map fun d => d.decode t style)).result.map make :=
      hread
    obtain ⟨vs, hvs, hall⟩ | ⟨e, he, v, hv, hfail⟩ := all_cases (fun d => d.decode t style) ds
    · rw [hvs] at hread
      refine accounted_of_ok hread hfault fun q hq => ?_
      obtain ⟨ds', v, hds', hv, rfl⟩ := (hstep q).1 hq
      obtain rfl : ds = ds' := Option.some.inj (hds.symm.trans hds')
      exact hall v hv
    · rw [he] at hread
      exact accounted_of_step hread ((hstep _).2 ⟨ds, v, hds, hv, rfl⟩) hfail

theorem accounted_sequence (hd : d ≠ .null) :
    Accounted ⟨d, .listOf t, style⟩ ∧ Accounted ⟨d, .tupleOf t, style⟩ := by
  obtain ⟨hlist, htuple⟩ := @Value.decode_sequence d t style hd
  have hread : ∀ {type : FieldType} {make : List Value → Value},
      (d.decode type style = match d.items? with
        | some ds => do return make (← all (ds.map fun d => d.decode t style))
        | none => failPlain .wrongType) →
      read ⟨d, type, style⟩ = match d.items? with
        | some ds => (all (ds.map fun d => d.decode t style)).result.map make
        | none => .error (.plain .wrongType) := by
    intro type make h
    rw [read, h]
    cases d.items? with
    | none => rfl
    | some ds =>
      rw [result_bind]
      rfl
  constructor
  · refine accounted_items (hread hlist) (fault?_sequence hd).1 fun q => ⟨fun hq => ?_, ?_⟩
    · cases hq with
      | item hds hv => exact ⟨_, _, hds, hv, rfl⟩
    · rintro ⟨ds, v, hds, hv, rfl⟩
      exact .item hds hv
  · refine accounted_items (hread htuple) (fault?_sequence hd).2 fun q => ⟨fun hq => ?_, ?_⟩
    · cases hq with
      | tupleItem hds hv => exact ⟨_, _, hds, hv, rfl⟩
    · rintro ⟨ds, v, hds, hv, rfl⟩
      exact .tupleItem hds hv

theorem accounted_mapOf (hd : d ≠ .null) : Accounted ⟨d, .mapOf t, style⟩ := by
  have hread := congrArg result (@Value.decode_mapOf d t style hd)
  cases d with
  | map es =>
    obtain ⟨vs, hvs, hall⟩ | ⟨e, he, v, hv, hfail⟩ := all_cases
      (fun e : Value × Value => (e.2.decode t style).map fun w => (Value.text e.1.shown, w)) es
    · refine accounted_of_ok (w := .map (Value.insertEntries [] vs)) ?_ rfl fun q hq => ?_
      · rw [read, hread, result_bind, hvs]
        rfl
      · cases hq with
        | entry he =>
          obtain ⟨b, hb⟩ := hall _ he
          obtain ⟨w, hw, -⟩ := map_eq_ok.1 hb
          exact ⟨w, hw⟩
    · refine accounted_of_step (e := e) ?_ (.entry hv) ?_
      · rw [read, hread, result_bind, he]
        rfl
      · rw [result_map] at hfail
        rw [read]
        cases hv : (v.2.decode t style).result with
        | ok w =>
          rw [hv] at hfail
          cases hfail
        | error e' =>
          rw [hv] at hfail
          cases hfail
          rfl
  | null => exact absurd rfl hd
  | _ => exact accounted_of_fault rfl rfl

theorem accounted_rule : Accounted ⟨d, .rule, style⟩ := by
  obtain ⟨hread, hnone⟩ := Value.result_decode_rule d style
  have hfault := @fault?_rule d style
  cases hkind : d.ruleKind? with
  | none =>
    rw [hkind] at hfault
    exact accounted_of_fault (hnone hkind) hfault
  | some kind =>
    rw [hkind] at hfault
    cases h : read ⟨d, .entity kind, .snake⟩ with
    | ok w =>
      refine accounted_of_ok ((hread kind hkind).trans h) hfault fun q hq => ?_
      cases hq with
      | rule hkind' =>
        cases hkind.symm.trans hkind'
        exact ⟨w, h⟩
    | error e => exact accounted_of_step ((hread kind hkind).trans h) (.rule hkind) h

theorem accounted_scalar (hd : d ≠ .null) (ht : t.isScalar = true) : Accounted ⟨d, t, style⟩ := by
  have hread : read ⟨d, t, style⟩ = (decodeScalar d t).result :=
    congrArg result (Value.decode_scalar hd ht)
  have hstep : ∀ q, ¬ Step ⟨d, t, style⟩ q := by
    intro q hq
    cases hq <;> cases ht
  have hfault : fault? ⟨d, t, style⟩ = _ := fault?_scalar hd ht
  rw [← hread] at hfault
  cases h : read ⟨d, t, style⟩ with
  | ok w =>
    rw [h] at hfault
    exact accounted_of_ok h hfault fun q hq => absurd hq (hstep q)
  | error e =>
    rw [h] at hfault
    exact accounted_of_fault h hfault

theorem accounted_entity {kind : Kind} (hkind : kind.isProjected = true) (hd : d ≠ .null)
    (hexpr : d.hasNoExpr = true) : Accounted ⟨d, .entity kind, style⟩ := by
  cases d with
  | null => exact absurd rfl hd
  | map es =>
    have hfault := @fault?_entity style kind es
    have hvalues : ∀ e ∈ es, e.2.isExpr = false := fun e he =>
      Value.isExpr_of_hasNoExpr (Value.everywhereInEntries_iff.1 hexpr e he).2
    have hread : read ⟨.map es, .entity kind, style⟩ =
        (Entity.readEntries kind (Value.decodeEntries es) style).result := rfl
    cases h : (Entity.readEntries kind (Value.decodeEntries es) style).result with
    | ok y =>
      obtain ⟨-, hcheck, hmissing, hfields⟩ := Entity.readEntries_ok hkind h
      rw [hcheck] at hfault
      refine accounted_of_ok (hread.trans h) (hfault.trans (if_pos hmissing)) fun q hq => ?_
      cases hq with
      | field hf hv => exact hfields _ hf _ hv
    | error e =>
      obtain hcheck | ⟨hcheck, ⟨f, hf, v, hv, hfail⟩ | ⟨hmissing, rfl⟩⟩ :=
        Entity.readEntries_error hkind hvalues h
      · rw [hcheck] at hfault
        exact accounted_of_fault (hread.trans h) hfault
      · exact accounted_of_step (hread.trans h) (.field hf hv) hfail
      · rw [hcheck] at hfault
        exact accounted_of_fault (hread.trans h) (hfault.trans (if_neg hmissing))
  | _ => exact accounted_of_fault rfl rfl

/-! ### What is preserved on the way down -/

/-- What is needed of a part: only entities that are read are asked for, and there are no expressions
in the data. -/
structure IsData (p : Part) : Prop where
  type : p.type.isProjected = true
  noExpr : p.data.hasNoExpr = true

theorem IsData.accounted (h : p.IsData) : p.Accounted := by
  obtain ⟨d, t, style⟩ := p
  obtain ⟨ht, hexpr⟩ := h
  by_cases hd : d = .null
  · rw [hd]
    exact accounted_null
  cases t with
  | optional t => exact accounted_optional hd
  | listOf t => exact (accounted_sequence hd).1
  | tupleOf t => exact (accounted_sequence hd).2
  | mapOf t => exact accounted_mapOf hd
  | entity kind => exact accounted_entity ht hd hexpr
  | rule => exact accounted_rule
  | _ => exact accounted_scalar hd rfl

theorem IsData.step (h : p.IsData) (hstep : p.Step q) : q.IsData := by
  obtain ⟨ht, hexpr⟩ := h
  cases hstep with
  | optional hd => exact ⟨ht, hexpr⟩
  | item hds hv => exact ⟨ht, Value.hasNoExpr_of_mem_items hexpr hds hv⟩
  | tupleItem hds hv => exact ⟨ht, Value.hasNoExpr_of_mem_items hexpr hds hv⟩
  | entry he => exact ⟨ht, (Value.everywhereInEntries_iff.1 hexpr _ he).2⟩
  | field hf hv =>
    obtain ⟨e, he, rfl⟩ := Entity.mem_of_fieldAt? hv
    exact ⟨Kind.type_isProjected ht hf, (Value.everywhereInEntries_iff.1 hexpr e he).2⟩
  | rule hkind => exact ⟨Value.isProjected_of_ruleKind hkind, hexpr⟩

theorem IsData.reaches (h : p.IsData) (hreaches : p.Reaches q) : q.IsData := by
  induction hreaches with
  | refl => exact h
  | tail _ hstep ih => exact ih.step hstep

/-! ### The whole way down -/

/-- In data that is read, nothing is wrong with any part. -/
theorem fault?_of_read (h : p.IsData) {w : Value} (hread : p.read = .ok w) (hq : p.Reaches q) :
    q.fault? = none := by
  -- From the whole down, a part that is read is read of parts that are.
  have hparts : ∃ w, q.read = .ok w := by
    induction hq with
    | refl => exact ⟨w, hread⟩
    | @tail q r hq hstep ih =>
      obtain ⟨w, hw⟩ := ih
      have haccounted := (h.reaches hq).accounted
      rw [Accounted, hw] at haccounted
      exact haccounted.2 r hstep
  obtain ⟨w, hw⟩ := hparts
  have haccounted := (h.reaches hq).accounted
  rw [Accounted, hw] at haccounted
  exact haccounted.1

/-- In data that is not read, what is said is wrong with some part. -/
theorem exists_fault (h : p.IsData) {e : Failure} (hread : p.read = .error e) :
    ∃ q, p.Reaches q ∧ q.fault? = some e := by
  -- The way down to the part that is wrong ends, as parts are less than what is read of them.
  induction p using Step.induct with
  | parts p ih =>
    have haccounted := h.accounted
    rw [Accounted, hread] at haccounted
    obtain hfault | ⟨q, hstep, hq⟩ := haccounted
    · exact ⟨p, .refl, hfault⟩
    · obtain ⟨r, hr, hfault⟩ := ih q hstep (h.step hstep) hq
      exact ⟨r, .head hstep hr, hfault⟩

end Part

/-! ### Entities -/

/-- What an entity is read of. Nothing is read as an empty mapping. -/
def Part.whole (kind : Kind) (d : Value) (style : Style) : Part :=
  ⟨if d.isNull then .map [] else d, .entity kind, style⟩

namespace Entity

variable {kind : Kind} {d : Value} {style : Style}

theorem isData_whole (hkind : kind.isProjected = true) (hd : d.hasNoExpr = true) :
    (Part.whole kind d style).IsData := by
  refine ⟨hkind, ?_⟩
  rw [Part.whole]
  split
  · rfl
  · exact hd

/-- Only a group must be given, whatever else is read of nothing. -/
theorem result_read (hkind : kind.isProjected = true) (d : Value) (style : Style) :
    kind = .ruleGroup ∧ d = .null ∧
        (read kind d style).result = .error (.notMapping kind.name d.typeName) ∨
      (read kind d style).result = (Part.whole kind d style).read := by
  cases d with
  | null =>
    by_cases hgroup : kind = .ruleGroup
    · subst hgroup
      exact .inl ⟨rfl, rfl, rfl⟩
    · refine .inr ?_
      rw [read, hkind]
      simp only [Bool.not_true, Bool.false_eq_true, if_false, beq_eq_false_iff_ne.2 hgroup]
      rfl
  | _ =>
    refine .inr ?_
    simp only [read, hkind, Bool.not_true, Bool.false_eq_true, if_false]
    rfl

theorem eq_entity_of_read (hkind : kind.isProjected = true) {y : Value}
    (h : (Part.whole kind d style).read = .ok y) : ∃ fields, y = .entity kind fields := by
  cases d with
  | null =>
    have hread : (readEntries kind (Value.decodeEntries []) style).result = .ok y := h
    exact (readEntries_ok hkind hread).1
  | map es => exact (readEntries_ok hkind h).1
  | _ => cases h

end Entity

end MonitoringConfig
