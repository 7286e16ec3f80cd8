import MonitoringConfig.Proofs.Routing.Inhibition
/-!
# Labels that matter

Alerts are told apart by those labels only for which matchers and rules of inhibition ask, and a
label that is missing is as good as an empty one.

* `Value.Mentions` : the labels for which the matchers in a tree of routes ask.
* `Inhibition.Terms.names` : the labels for which a rule of inhibition asks.
* `Route.handlingBelow_congr`, `Inhibition.inhibits_congr` : alerts with the same values for these
  labels are handled at the same routes, and mute the same alerts.
* `alike_of_mentioned` : **alerts are alike for routes and rules if they have the same values for the
  labels mentioned there.**
-/

namespace MonitoringConfig

/-! ### Routes -/

/-- Whether a matcher in a tree of routes asks for a label. -/
def Value.Mentions (v : Value) (name : String) : Prop :=
  ∃ n, v.HasRoute n ∧ ∃ m ∈ (n.get "matchers").matchers, m.name = name

theorem Value.mentions_iff {v : Value} {name : String} : v.Mentions name ↔
    (∃ m ∈ (v.get "matchers").matchers, m.name = name) ∨
      ∃ child ∈ (v.get "routes").elements, child.Mentions name := by
  constructor
  · rintro ⟨n, hn, hname⟩
    cases hn with
    | root => exact .inl hname
    | step hchild hn => exact .inr ⟨_, hchild, n, hn, hname⟩
  · rintro (hname | ⟨child, hchild, n, hn, hname⟩)
    · exact ⟨v, .root v, hname⟩
    · exact ⟨n, .step hchild hn, hname⟩

theorem Labels.ofValue_congr {a a' : Value} (ha : a.fits (.mapOf .text) = true)
    (ha' : a'.fits (.mapOf .text) = true) {name : String} (h : a.label name = a'.label name) :
    ofValue a (.text name) = ofValue a' (.text name) := by
  rw [ofValue_text ha, ofValue_text ha', h]

section

variable {labels labels' : Labels}

theorem holdAll_congr {ms : List Matcher}
    (h : ∀ m ∈ ms, labels (.text m.name) = labels' (.text m.name)) :
    holdAll labels (ms.map .ok) = holdAll labels' (ms.map .ok) := by
  induction ms with
  | nil => rfl
  | cons m ms ih =>
    obtain ⟨hm, hms⟩ := List.forall_mem_cons.1 h
    have hholds : m.holds labels = m.holds labels' := by rw [Matcher.holds, Matcher.holds, hm]
    rw [holdAll_cons, holdAll_cons, hholds, ih hms]

namespace Route

/-- **The step from tree to tree**: what trees find on their own is all that is found among them. -/
theorem handlingAmong_congr {rs : List Route}
    (h : ∀ r ∈ rs, ∀ above? path,
      r.handlingBelow labels above? path = r.handlingBelow labels' above? path)
    (above : Handler) (index : Nat) :
    handlingAmong labels above index rs = handlingAmong labels' above index rs := by
  induction rs generalizing index with
  | nil => rfl
  | cons r rs ih =>
    obtain ⟨hr, hrs⟩ := List.forall_mem_cons.1 h
    rw [handlingAmong, handlingAmong, hr, ih hrs]

/-- **Alerts with the same values for the labels that a tree mentions are handled at the same
routes.** -/
theorem handlingBelow_congr {v : Value} (hv : v.fits (.entity .route) = true)
    (h : ∀ name, v.Mentions name → labels (.text name) = labels' (.text name))
    (above? : Option Handler) (path : List Nat) :
    (ofValue v).handlingBelow labels above? path =
      (ofValue v).handlingBelow labels' above? path := by
  revert h above? path
  refine Value.induct_route ?_ hv
  intro v hv ih h above? path
  -- The labels decide whether the route takes the alert, and then what is found among its children.
  have hmatchers := (Value.get_fits hv (rfl : Kind.route.schema.type? "matchers" = _)).2
  have htakes : holdAll labels (MatcherSlot.ofValue (v.get "matchers")) =
      holdAll labels' (MatcherSlot.ofValue (v.get "matchers")) := by
    rw [MatcherSlot.ofValue_of_fits hmatchers]
    exact holdAll_congr fun m hm => h m.name (Value.mentions_iff.2 (.inl ⟨m, hm, rfl⟩))
  have hamong := fun above => handlingAmong_congr (List.forall_mem_map.2 fun child hchild =>
    ih child hchild fun name hname =>
      h name (Value.mentions_iff.2 (.inr ⟨child, hchild, hname⟩))) above 0
  rw [ofValue_of_fits hv, handlingBelow, handlingBelow, htakes]
  simp only [hamong]

end Route

end

/-! ### Rules of inhibition -/

namespace Inhibition

/-- The labels for which a rule asks. -/
def Terms.names (t : Terms) : List String :=
  t.source.map (·.name) ++ t.target.map (·.name) ++ t.equal

/-- **Alerts with the same values for the labels for which a rule asks mute the same alerts.** -/
theorem inhibits_congr {rule a a' b b' : Value} (hrule : rule.fits (.entity .inhibitRule) = true)
    (ha : a.fits (.mapOf .text) = true) (hb : b.fits (.mapOf .text) = true)
    (ha' : a'.fits (.mapOf .text) = true) (hb' : b'.fits (.mapOf .text) = true)
    (h : ∀ name ∈ (termsOf rule).names, a.label name = a'.label name ∧ b.label name = b'.label name) :
    (ofRule rule).inhibits (Labels.ofValue a) (Labels.ofValue b) =
      (ofRule rule).inhibits (Labels.ofValue a') (Labels.ofValue b') := by
  simp only [Terms.names, List.forall_mem_append, List.forall_mem_map] at h
  obtain ⟨⟨hsource, htarget⟩, hequal⟩ := h
  have hagree : ((termsOf rule).equal.all fun name => (a.label name).equal (b.label name)) =
      (termsOf rule).equal.all fun name => (a'.label name).equal (b'.label name) := by
    rw [Bool.eq_iff_iff, List.all_eq_true, List.all_eq_true]
    refine forall₂_congr fun name hname => ?_
    rw [(hequal name hname).1, (hequal name hname).2]
  rw [inhibits_eq hrule ha hb, inhibits_eq hrule ha' hb',
    holdAll_congr fun m hm => Labels.ofValue_congr ha ha' (hsource m hm).1,
    holdAll_congr fun m hm => Labels.ofValue_congr hb hb' (htarget m hm).2, hagree]

end Inhibition

/-! ### Both -/

/-- **Alerts are alike for routes and rules if they have the same values for the labels mentioned
there**; a label that is missing has the same value as one that is empty. They are handled at the
same routes, with the same in force there, and a rule gives the same answer about them. -/
theorem alike_of_mentioned :
    (∀ v a a' : Value, v.fits (.entity .route) = true → a.fits (.mapOf .text) = true →
      a'.fits (.mapOf .text) = true → (∀ name, v.Mentions name → a.label name = a'.label name) →
      (Route.ofValue v).handling (Labels.ofValue a) =
        (Route.ofValue v).handling (Labels.ofValue a')) ∧
    ∀ rule a a' b b' : Value, rule.fits (.entity .inhibitRule) = true →
      a.fits (.mapOf .text) = true → a'.fits (.mapOf .text) = true →
      b.fits (.mapOf .text) = true → b'.fits (.mapOf .text) = true →
      (∀ name ∈ (Inhibition.termsOf rule).names,
        a.label name = a'.label name ∧ b.label name = b'.label name) →
      ∃ r, Inhibition.ofValue? rule = some r ∧
        r.inhibits (Labels.ofValue a) (Labels.ofValue b) =
          r.inhibits (Labels.ofValue a') (Labels.ofValue b') := by
  constructor
  · intro v a a' hv ha ha' h
    exact Route.handlingBelow_congr hv
      (fun name hname => Labels.ofValue_congr ha ha' (h name hname)) none []
  · intro rule a a' b b' hrule ha ha' hb hb' h
    exact ⟨_, Inhibition.ofValue?_eq hrule, Inhibition.inhibits_congr hrule ha hb ha' hb' h⟩

/-- Alerts that differ in a label that nothing asks for, and of which one lacks a label that is empty
in the other. -/
theorem alike_of_mentioned_zone :
    let child := Value.build .route [("receiver", .text "near"),
      ("matchers", .list [.matcher ⟨"zone", .notRegex, "a+"⟩])]
    let v := Value.build .route [("receiver", .text "team"), ("routes", .list [child])]
    let rule := Value.build .inhibitRule [("source_match", .record [("job", .text "web")]),
      ("target_matchers", .list [.matcher ⟨"job", .notEqual, ""⟩]), ("equal", .list [.text "zone"])]
    let a := Value.record [("job", .text "web")]
    let a' := Value.record [("zone", .text ""), ("job", .text "web"), ("rack", .text "7")]
    v.fits (.entity .route) = true ∧ rule.fits (.entity .inhibitRule) = true ∧
      a.fits (.mapOf .text) = true ∧ a'.fits (.mapOf .text) = true ∧
      (Route.ofValue v).handling (Labels.ofValue a) =
        (Route.ofValue v).handling (Labels.ofValue a') ∧
      ∃ r, Inhibition.ofValue? rule = some r ∧
        r.inhibits (Labels.ofValue a) (Labels.ofValue a) =
          r.inhibits (Labels.ofValue a') (Labels.ofValue a') := by
  intro child v rule a a'
  have hv : v.fits (.entity .route) = true := by decide
  have hrule : rule.fits (.entity .inhibitRule) = true := by decide
  have ha : a.fits (.mapOf .text) = true := by decide
  have ha' : a'.fits (.mapOf .text) = true := by decide +kernel
  have hmentions : ∀ name, v.Mentions name → name = "zone" := by
    intro name h
    rcases Value.mentions_iff.1 h with ⟨m, hm, -⟩ | ⟨w, hw, h⟩
    · exact absurd hm List.not_mem_nil
    obtain rfl : w = child := List.mem_singleton.1 hw
    rcases Value.mentions_iff.1 h with ⟨m, hm, rfl⟩ | ⟨w, hw, -⟩
    · rw [List.mem_singleton.1 hm]
    · exact absurd hw List.not_mem_nil
  have hsame := fun name =>
    (Value.equal_iff_of_text (Value.label_fits ha name) (Value.label_fits ha' name)).1
  have hjob : a.label "job" = a'.label "job" := hsame "job" (by decide +kernel)
  have hzone : a.label "zone" = a'.label "zone" := hsame "zone" (by decide +kernel)
  have hnames : ∀ name ∈ (Inhibition.termsOf rule).names, a.label name = a'.label name :=
    List.forall_mem_cons.2 ⟨hjob, List.forall_mem_cons.2 ⟨hjob, List.forall_mem_singleton.2 hzone⟩⟩
  exact ⟨hv, hrule, ha, ha',
    alike_of_mentioned.1 v a a' hv ha ha' fun name h => hmentions name h ▸ hzone,
    alike_of_mentioned.2 rule a a' a a' hrule ha ha' ha ha' fun name h =>
      ⟨hnames name h, hnames name h⟩⟩

end MonitoringConfig
