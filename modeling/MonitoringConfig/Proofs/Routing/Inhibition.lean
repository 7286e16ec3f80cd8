import Mathlib.Tactic.MkIffOfInductiveProp
import MonitoringConfig.Proofs.Projection.Fields
import MonitoringConfig.Proofs.Routing.Reference
import MonitoringConfig.Routing.Inhibition
/-!
# What a rule of inhibition asks for

A rule of inhibition asks both alerts for labels with given values and for matchers, and then for
labels that they agree on, one after the other until something does not hold. Here it is said what
it asks for, without that order.

* `AlertSort.has_eq` : a label with a given value is asked for as a matcher would do it, so to be of
  a sort is to be matched by matchers.
* `Inhibition.Terms` : the matchers for both alerts, and the labels on which they agree.
* `Inhibition.inhibits_eq_true`, `Inhibition.inhibits_ok` : **an alert mutes another just if they
  meet the terms of the rule**, and if its patterns can be read there is an answer for all alerts.
-/

namespace MonitoringConfig

/-! ### Matchers, asked one after the other -/

section

variable {labels : Labels} {ms : List Matcher}

theorem holdAll_eq_true : holdAll labels (ms.map .ok) = .ok true ↔
    ∀ m ∈ ms, m.holds labels = .ok true := by
  induction ms with
  | nil => simp [holdAll]
  | cons m ms ih => rw [holdAll_cons, andThen_eq_true, ih, List.forall_mem_cons]

/-- The matchers of two lists are asked one after the other, up to the first that does not hold. -/
theorem holdAll_append (labels : Labels) (ms ns : List Matcher) :
    holdAll labels ((ms ++ ns).map .ok) =
      (do if ← holdAll labels (ms.map .ok) then holdAll labels (ns.map .ok) else return false) := by
  induction ms with
  | nil => rfl
  | cons m ms ih =>
    rw [List.cons_append, holdAll_cons, holdAll_cons, ih]
    cases m.holds labels with
    | error cause => rfl
    | ok holds => cases holds <;> rfl

end

/-! ### Sorts of alerts -/

/-- The matchers that ask for labels with the values that a mapping gives. -/
def Value.givenMatchers : Value → List Matcher
  | map entries => entries.map fun (k, v) => ⟨k.shown, .equal, v.shown⟩
  | _ => []

/-- Matchers for given values have no patterns. -/
theorem Value.isValid_of_mem_givenMatchers {v : Value} : ∀ m ∈ v.givenMatchers, m.isValid = true := by
  cases v with
  | map entries => exact List.forall_mem_map.2 fun _ _ => rfl
  | _ => exact fun m hm => absurd hm List.not_mem_nil

/-- A label with a given value is asked for as a matcher would do it. -/
theorem haveValues_eq {entries : List (Value × Value)}
    (h : Value.fitsEntries entries .text = true) (labels : Labels) :
    haveValues labels entries = holdAll labels ((Value.map entries).givenMatchers.map .ok) := by
  obtain ⟨⟨hkeys, -⟩, hvalues⟩ := Value.fitsEntries_iff.1 h
  -- That the keys are distinct is not needed, and would not be kept by the induction.
  clear h
  induction entries with
  | nil => rfl
  | cons e rest ih =>
    obtain ⟨key, v⟩ := e
    obtain ⟨⟨k, rfl⟩, hrestKeys⟩ := List.forall_mem_cons.1 hkeys
    obtain ⟨hv, hrestValues⟩ := List.forall_mem_cons.1 hvalues
    obtain ⟨s, rfl⟩ := Value.eq_text_of_fits hv
    have hrest := ih hrestValues hrestKeys
    simp only [Value.givenMatchers, List.map_cons, haveValues, holdAll, Matcher.holds,
      Value.shown_text, bind, Except.bind] at hrest ⊢
    rw [hrest]
    cases labels (.text k) <;> rfl

theorem AlertSort.has_eq {values matchers : Value} (hvalues : values.fits (.mapOf .text) = true)
    (hmatchers : matchers.fits (.listOf .matcher) = true) (labels : Labels) :
    (AlertSort.mk (Inhibition.entriesOf values) (MatcherSlot.ofValue matchers)).has labels =
      holdAll labels ((values.givenMatchers ++ matchers.matchers).map .ok) := by
  obtain ⟨entries, rfl, hentries⟩ := Value.eq_map_of_fits hvalues
  rw [has, MatcherSlot.ofValue_of_fits hmatchers, holdAll_append, ← haveValues_eq hentries]
  rfl

/-! ### Rules -/

/-- The texts in a list. -/
def Value.listedTexts (v : Value) : List String :=
  v.elements.filterMap asText?

/-- Alerts agree on labels that have the same value in both. -/
theorem agreeOn_eq {source target : Value} (hsource : source.fits (.mapOf .text) = true)
    (htarget : target.fits (.mapOf .text) = true) (names : List String) :
    agreeOn (Labels.ofValue source) (Labels.ofValue target) (names.map .text) =
      .ok (names.all fun name => (source.label name).equal (target.label name)) := by
  induction names with
  | nil => rfl
  | cons name names ih =>
    simp only [List.map_cons, agreeOn, Labels.ofValue_text hsource, Labels.ofValue_text htarget, ih,
      bind, Except.bind, List.all_cons]
    cases (source.label name).equal (target.label name) <;> rfl

namespace Inhibition

/-- What a rule of inhibition asks for. -/
structure Terms where
  /-- The matchers for the alert that mutes others. -/
  source : List Matcher
  /-- The matchers for the alerts that are muted. -/
  target : List Matcher
  /-- The labels that both alerts agree on. -/
  equal : List String

/-- Whether two alerts meet what a rule asks for. -/
@[mk_iff hold_iff]
structure Terms.Hold (t : Terms) (a b : Value) : Prop where
  source : ∀ m ∈ t.source, m.holds (Labels.ofValue a) = .ok true
  target : ∀ m ∈ t.target, m.holds (Labels.ofValue b) = .ok true
  equal : ∀ name ∈ t.equal, a.label name = b.label name

/-- What a rule of a configuration asks for. -/
def termsOf (rule : Value) : Terms where
  source := (rule.get "source_match").givenMatchers ++ (rule.get "source_matchers").matchers
  target := (rule.get "target_match").givenMatchers ++ (rule.get "target_matchers").matchers
  equal := (rule.get "equal").listedTexts

/-- A rule of a configuration. -/
def ofRule (rule : Value) : Inhibition where
  source := ⟨entriesOf (rule.get "source_match"), MatcherSlot.ofValue (rule.get "source_matchers")⟩
  target := ⟨entriesOf (rule.get "target_match"), MatcherSlot.ofValue (rule.get "target_matchers")⟩
  equal := (rule.get "equal").items

section

variable {rule : Value} (hrule : rule.fits (.entity .inhibitRule) = true)
include hrule

theorem ofValue?_eq : ofValue? rule = some (ofRule rule) :=
  congrArg ofValue? (Value.eq_entity_map_get hrule (by decide))

theorem equal_eq : rule.get "equal" = .list ((termsOf rule).equal.map .text) := by
  obtain ⟨hlist, hitems⟩ :=
    Value.elements_fits hrule (rfl : Kind.inhibitRule.schema.type? "equal" = _)
  obtain ⟨names, hnames⟩ := Value.exists_texts hitems
  rw [hlist, termsOf, Value.listedTexts, hnames]
  simp [Value.asText?, List.filterMap_map, Function.comp_def]

variable {source target : Value} (hsource : source.fits (.mapOf .text) = true)
  (htarget : target.fits (.mapOf .text) = true)
include hsource htarget

/-- A rule asks for its terms, one after the other. -/
theorem inhibits_eq : (ofRule rule).inhibits (Labels.ofValue source) (Labels.ofValue target) =
    (do
      if ← holdAll (Labels.ofValue source) ((termsOf rule).source.map .ok) then
        if ← holdAll (Labels.ofValue target) ((termsOf rule).target.map .ok) then
          return (termsOf rule).equal.all fun name => (source.label name).equal (target.label name)
        else return false
      else return false) := by
  have hfield := fun {name t} (ht : Kind.inhibitRule.schema.type? name = some t) =>
    (Value.get_fits hrule ht).2
  have hequal : (ofRule rule).equal = .ok ((termsOf rule).equal.map .text) := by
    rw [ofRule, equal_eq hrule]
    rfl
  rw [inhibits, ofRule, AlertSort.has_eq (hfield rfl) (hfield rfl),
    AlertSort.has_eq (hfield rfl) (hfield rfl), ← ofRule, hequal]
  simp only [bind, Except.bind, agreeOn_eq hsource htarget]
  rfl

/-- **An alert mutes another just if they meet what the rule asks for.** -/
theorem inhibits_eq_true :
    (ofRule rule).inhibits (Labels.ofValue source) (Labels.ofValue target) = .ok true ↔
      (termsOf rule).Hold source target := by
  have hagree (name : String) := Value.equal_iff_of_text (Value.label_fits hsource name)
    (Value.label_fits htarget name)
  rw [inhibits_eq hrule hsource htarget, andThen_eq_true, andThen_eq_true, holdAll_eq_true,
    holdAll_eq_true, Terms.hold_iff]
  simp only [pure, Except.pure, Except.ok.injEq, List.all_eq_true, hagree]

/-- There is an answer for all alerts if the patterns of a rule can be read. -/
theorem inhibits_ok (hvalid : rule.hasValidPatterns = true) : ∃ answer,
    (ofRule rule).inhibits (Labels.ofValue source) (Labels.ofValue target) = .ok answer := by
  have hsort {values matchers : String}
      (hmatchers : Kind.inhibitRule.schema.type? matchers = some (.listOf .matcher)) :
      ∀ m ∈ (rule.get values).givenMatchers ++ (rule.get matchers).matchers, m.isValid = true :=
    List.forall_mem_append.2 ⟨Value.isValid_of_mem_givenMatchers,
      Value.isValid_of_mem_matchers (Value.get_fits hrule hmatchers).2
        (Value.everywhere_get rfl hvalid matchers)⟩
  rw [inhibits_eq hrule hsource htarget]
  refine andThen_ok (holdAll_ok (hsort rfl) (Labels.isTextual_ofValue hsource)) ?_
  exact andThen_ok (holdAll_ok (hsort rfl) (Labels.isTextual_ofValue htarget)) ⟨_, rfl⟩

end

end Inhibition

end MonitoringConfig
