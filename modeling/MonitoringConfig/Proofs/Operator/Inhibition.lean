import MonitoringConfig.Proofs.Operator.Converted
import MonitoringConfig.Proofs.Projection.RoundTrip
import MonitoringConfig.Proofs.Routing.Inhibition
/-!
# Inhibition in resources

A rule of inhibition in a resource has no given values for labels. When a rule is converted, a matcher
stands for each of them, behind the matchers that the rule has; so the same is asked for, but in
another order.

* `Conversion.termsOf` : what a converted rule asks for.
* `Conversion.hold_inhibitionOf` : alerts meet it just if they meet what the rule asks for.
* `Conversion.inhibition_mutes` : **an alert mutes another just if they meet what the converted rule
  asks for**, and so it is for the rule that is written and read again.
-/

namespace MonitoringConfig.Conversion

/-- What a converted rule asks for. -/
def termsOf (converted : Value) : Inhibition.Terms where
  source := (converted.get "source_match").matchers
  target := (converted.get "target_match").matchers
  equal := (converted.get "equal").listedTexts

/-- The matchers of a sort come first, and then those for given values. -/
theorem matchers_matchersOf (matchers values : Value) :
    (matchersOf matchers values).matchers = matchers.matchers ++ values.givenMatchers := by
  have hlist : matchersOf matchers values =
      .list (matchers.elements ++ values.givenMatchers.map .matcher) := by
    cases values <;> simp [matchersOf, entriesIn, Value.givenMatchers]
  rw [hlist]
  simp [Value.matchers, Value.elements, Value.items?, List.filterMap_map]

/-- **A converted rule asks for the same**, though in another order. -/
theorem hold_inhibitionOf {rule a b : Value} :
    (termsOf (inhibitionOf rule)).Hold a b ↔ (Inhibition.termsOf rule).Hold a b := by
  have hsource : (termsOf (inhibitionOf rule)).source =
      (rule.get "source_matchers").matchers ++ (rule.get "source_match").givenMatchers :=
    matchers_matchersOf _ _
  have htarget : (termsOf (inhibitionOf rule)).target =
      (rule.get "target_matchers").matchers ++ (rule.get "target_match").givenMatchers :=
    matchers_matchersOf _ _
  have hequal : (termsOf (inhibitionOf rule)).equal = (rule.get "equal").listedTexts := rfl
  rw [Inhibition.Terms.hold_iff, Inhibition.Terms.hold_iff, hsource, htarget, hequal]
  simp only [Inhibition.termsOf, List.forall_mem_append]
  -- The given values stand behind the matchers here, and in front of them there.
  rw [and_comm (a := ∀ m ∈ (rule.get "source_matchers").matchers, _),
    and_comm (a := ∀ m ∈ (rule.get "target_matchers").matchers, _)]

/-- A rule that was converted comes back from its plain data. -/
theorem read_inhibitionOf {rule : Value} (hrule : rule.fits (.entity .inhibitRule) = true) :
    (Entity.read .operatorInhibitRule ((inhibitionOf rule).encode .camel) .camel).result =
      .ok (inhibitionOf rule) := by
  have hfits := inhibitionOf_fits hrule
  have hmillis := Value.isWholeMillis_of_fits (by decide) hfits
  -- In the camel style matchers are mappings, so every name of a label can be written.
  exact Entity.result_read_encode (by decide) hfits hmillis fun h => by cases h

/-- **An alert mutes another just if they meet what the converted rule asks for**: all its matchers
for either alert hold, and both have the same values for the labels on which they must agree. The
rule that is written in the camel style and read again asks for the same. -/
theorem inhibition_mutes {rule : Value} (hrule : rule.fits (.entity .inhibitRule) = true)
    (hvalid : rule.hasValidPatterns = true) :
    ∃ r converted back, Inhibition.ofValue? rule = some r ∧ inhibition rule = .ok converted ∧
      converted.fits (.entity .operatorInhibitRule) = true ∧
      (Entity.read .operatorInhibitRule (converted.encode .camel) .camel).result = .ok back ∧
      back = converted ∧
      ∀ source target : Value, source.fits (.mapOf .text) = true →
        target.fits (.mapOf .text) = true →
        ∃ answer, r.inhibits (Labels.ofValue source) (Labels.ofValue target) = .ok answer ∧
          (answer = true ↔ (termsOf converted).Hold source target) ∧
          (answer = true ↔ (termsOf back).Hold source target) := by
  refine ⟨.ofRule rule, inhibitionOf rule, inhibitionOf rule, Inhibition.ofValue?_eq hrule,
    inhibition_eq hrule, inhibitionOf_fits hrule, read_inhibitionOf hrule, rfl, ?_⟩
  intro source target hsource htarget
  obtain ⟨answer, hanswer⟩ := Inhibition.inhibits_ok hrule hsource htarget hvalid
  have hiff : answer = true ↔ (termsOf (inhibitionOf rule)).Hold source target := by
    rw [hold_inhibitionOf, ← Inhibition.inhibits_eq_true hrule hsource htarget, hanswer,
      Except.ok.injEq]
  exact ⟨answer, hanswer, hiff, hiff⟩

/-- A rule with a given value for a label whose name could not stand in a text of matchers, which an
alert without the label has if the value is empty. -/
theorem inhibition_mutes_emptyValue :
    let rule := Value.build .inhibitRule [("source_match", .record [("my label", .text "")]),
      ("source_matchers", .list [.matcher ⟨"job", .regex, "we[a-c]"⟩]),
      ("target_matchers", .list [.matcher ⟨"job", .notEqual, "web"⟩]), ("equal", .list [.text "zone"])]
    let source := Value.record [("job", .text "web")]
    let target := Value.record [("zone", .text "")]
    rule.fits (.entity .inhibitRule) = true ∧ rule.hasValidPatterns = true ∧
      source.fits (.mapOf .text) = true ∧ target.fits (.mapOf .text) = true ∧
      ∃ r converted, Inhibition.ofValue? rule = some r ∧ inhibition rule = .ok converted ∧
        (Entity.read .operatorInhibitRule (converted.encode .camel) .camel).result = .ok converted ∧
        r.inhibits (Labels.ofValue source) (Labels.ofValue target) = .ok true ∧
        (termsOf converted).Hold source target ∧
        r.inhibits (Labels.ofValue target) (Labels.ofValue source) = .ok false ∧
        ¬ (termsOf converted).Hold target source := by
  intro rule source target
  have hrule : rule.fits (.entity .inhibitRule) = true := by decide
  have hvalid : rule.hasValidPatterns = true := by decide
  have hsource : source.fits (.mapOf .text) = true := by decide
  have htarget : target.fits (.mapOf .text) = true := by decide
  obtain ⟨r, converted, back, hr, hconverted, -, hread, rfl, hmutes⟩ := inhibition_mutes hrule hvalid
  have hyes : ((Inhibition.ofValue? rule).bind fun r =>
      (r.inhibits (Labels.ofValue source) (Labels.ofValue target)).toOption) = some true := by
    decide +kernel
  have hno : ((Inhibition.ofValue? rule).bind fun r =>
      (r.inhibits (Labels.ofValue target) (Labels.ofValue source)).toOption) = some false := by
    decide +kernel
  obtain ⟨answer, hanswer, hiff, -⟩ := hmutes source target hsource htarget
  obtain ⟨answer', hanswer', hiff', -⟩ := hmutes target source htarget hsource
  rw [hr, Option.bind_some, hanswer] at hyes
  rw [hr, Option.bind_some, hanswer'] at hno
  obtain rfl : answer = true := Option.some.inj hyes
  obtain rfl : answer' = false := Option.some.inj hno
  exact ⟨hrule, hvalid, hsource, htarget, r, back, hr, hconverted, hread, hanswer, hiff.1 rfl,
    hanswer', fun h => Bool.false_ne_true (hiff'.2 h)⟩

end MonitoringConfig.Conversion
