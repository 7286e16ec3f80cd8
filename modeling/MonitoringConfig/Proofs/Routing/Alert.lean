import Mathlib.Data.Set.List
import MonitoringConfig.Proofs.Building
import MonitoringConfig.Proofs.Routing.Handling
/-!
# Alerts in the routing tree of a configuration

* `Value.label` : the value of a label of an alert; a label that is missing has the empty text.
* `Labels.IsTextual` : the label sets of alerts.
* `Value.induct_route` : induction over the routes of a configuration.
* `Route.answers_ofValue` : a route of a configuration whose patterns can be read can be asked about
  every alert.
* `Route.handling_spec` : the routes that handle an alert, and the order in which they come.
-/

namespace MonitoringConfig

/-! ### Label sets and matchers -/

/-- Whether the value of every label can be told, and is a text. -/
def Labels.IsTextual (labels : Labels) : Prop :=
  ∀ name, ∃ s, labels (.text name) = .ok (.text s)

/-- The value of a label of an alert. A label that is missing has the empty text. -/
def Value.label : Value → String → Value
  | map entries, name => (lookup? (text name) entries).getD (text "")
  | _, _ => text ""

/-- The labels of an alert are a mapping of texts to texts. -/
theorem Value.label_fits {alert : Value} (h : alert.fits (.mapOf .text) = true) (name : String) :
    (alert.label name).fits .text = true := by
  obtain ⟨entries, rfl, hentries⟩ := eq_map_of_fits h
  rw [label]
  cases hfind : lookup? (text name) entries with
  | none => rfl
  | some v =>
    obtain ⟨e, he, rfl⟩ := Option.map_eq_some_iff.1 hfind
    exact (fitsEntries_iff.1 hentries).2 e (List.mem_of_find?_eq_some he)

theorem Labels.ofValue_text {alert : Value} (h : alert.fits (.mapOf .text) = true)
    (name : String) : Labels.ofValue alert (.text name) = .ok (alert.label name) := by
  obtain ⟨entries, rfl, -⟩ := Value.eq_map_of_fits h
  rfl

theorem Labels.isTextual_ofValue {v : Value} (h : v.fits (.mapOf .text) = true) :
    (Labels.ofValue v).IsTextual := by
  intro name
  obtain ⟨s, hs⟩ := Value.eq_text_of_fits (Value.label_fits h name)
  exact ⟨s, by rw [ofValue_text h, hs]⟩

/-- Whether a matcher has no pattern, or one that can be read. -/
def Matcher.isValid (m : Matcher) : Bool :=
  match m.op with
  | .equal | .notEqual => true
  | .regex | .notRegex => (Pattern.read m.value).toBool

/-- Whether every pattern in a value can be read. -/
def Value.hasValidPatterns (v : Value) : Bool :=
  v.everywhere fun
    | matcher m => m.isValid
    | _ => true

/-- The matchers in a list. -/
def Value.matchers (v : Value) : List Matcher :=
  v.elements.filterMap fun
    | matcher m => some m
    | _ => none

/-- A list of matchers is the list of the matchers in it. -/
theorem Value.eq_list_matchers {v : Value} (h : v.fits (.listOf .matcher) = true) :
    v = list (v.matchers.map matcher) := by
  obtain ⟨items, rfl, hitems⟩ := eq_list_of_fits h
  obtain ⟨ms, rfl⟩ : items ∈ Set.range (List.map Value.matcher) := by
    rw [Set.range_list_map]
    exact fun w hw => (eq_matcher_of_fits (hitems w hw)).imp fun m hm => hm.symm
  simp [matchers, List.filterMap_map]

theorem MatcherSlot.ofValue_of_fits {v : Value} (h : v.fits (.listOf .matcher) = true) :
    MatcherSlot.ofValue v = v.matchers.map .ok := by
  have hslots := congrArg MatcherSlot.ofValue (Value.eq_list_matchers h)
  rw [hslots]
  simp [MatcherSlot.ofValue, Value.items, Value.items?, Function.comp_def]

theorem Value.isValid_of_mem_matchers {v : Value} (h : v.fits (.listOf .matcher) = true)
    (hvalid : v.hasValidPatterns = true) : ∀ m ∈ v.matchers, m.isValid = true := by
  rw [eq_list_matchers h, hasValidPatterns, everywhere, everywhereIn_iff, List.forall_mem_map]
    at hvalid
  exact hvalid

theorem Matcher.holds_ok {m : Matcher} (hm : m.isValid = true) {labels : Labels}
    (hlabels : labels.IsTextual) : ∃ b, m.holds labels = .ok b := by
  obtain ⟨s, hs⟩ := hlabels m.name
  have hpattern : (Pattern.read m.value).toBool = true →
      ∃ b, valueMatches m.value (.text s) = .ok b := fun h => by
    cases hp : Pattern.read m.value with
    | error f => rw [hp] at h; cases h
    | ok p => exact ⟨p.matchesAll s, by rw [valueMatches, hp]; rfl⟩
  simp only [holds, hs, bind, Except.bind]
  rw [isValid] at hm
  cases hop : m.op with
  | equal => exact ⟨_, rfl⟩
  | notEqual => exact ⟨_, rfl⟩
  | regex =>
    rw [hop] at hm
    exact hpattern hm
  | notRegex =>
    rw [hop] at hm
    obtain ⟨b, hb⟩ := hpattern hm
    exact ⟨!b, by simp only [hb]; rfl⟩

/-! ### Questions, asked one after the other -/

section

variable {a b : Except Failure Bool}

/-- The answer to two questions is yes if it is so for both. -/
theorem andThen_eq_true :
    (do if ← a then b else return false) = .ok true ↔ a = .ok true ∧ b = .ok true := by
  cases a with
  | error cause => simp [bind, Except.bind]
  | ok holds => cases holds <;> simp [bind, Except.bind, pure, Except.pure]

/-- There is an answer to two questions if there is one to each. -/
theorem andThen_ok (ha : ∃ x, a = .ok x) (hb : ∃ y, b = .ok y) :
    ∃ z, (do if ← a then b else return false) = .ok z := by
  obtain ⟨x, rfl⟩ := ha
  cases x with
  | true => exact hb
  | false => exact ⟨false, rfl⟩

end

theorem holdAll_cons {labels : Labels} (m : Matcher) (ms : List Matcher) :
    holdAll labels ((m :: ms).map .ok) =
      (do if ← m.holds labels then holdAll labels (ms.map .ok) else return false) :=
  rfl

theorem holdAll_ok {ms : List Matcher} (hms : ∀ m ∈ ms, m.isValid = true) {labels : Labels}
    (hlabels : labels.IsTextual) : ∃ b, holdAll labels (ms.map .ok) = .ok b := by
  induction ms with
  | nil => exact ⟨true, rfl⟩
  | cons m ms ih =>
    obtain ⟨hm, hrest⟩ := List.forall_mem_cons.1 hms
    rw [holdAll_cons]
    exact andThen_ok (Matcher.holds_ok hm hlabels) (ih hrest)

/-! ### Routes of a configuration -/

/-- What a route of a configuration says itself about notification. -/
def RouteSettings.ofRoute (v : Value) : RouteSettings :=
  ⟨v.get "receiver", v.get "group_by", v.get "group_wait", v.get "group_interval",
    v.get "repeat_interval", v.get "mute_time_intervals", v.get "active_time_intervals"⟩

theorem RouteSettings.isRegular_ofRoute {v : Value} (h : v.fits (.entity .route) = true) :
    (ofRoute v).IsRegular where
  groupBy := ⟨_, Value.items_eq_elements (Value.elements_fits h rfl).1⟩
  muted := ⟨_, Value.items_eq_elements (Value.elements_fits h rfl).1⟩
  active := ⟨_, Value.items_eq_elements (Value.elements_fits h rfl).1⟩

namespace Route

theorem ofValues_eq_map (vs : List Value) : ofValues vs = vs.map ofValue := by
  induction vs with
  | nil => rfl
  | cons v vs ih => rw [ofValues, ih, List.map_cons]

/-- A route of a configuration is a tree, which is made of its fields. -/
theorem ofValue_of_fits {v : Value} (h : v.fits (.entity .route) = true) :
    ofValue v = .node (.ofRoute v) (MatcherSlot.ofValue (v.get "matchers"))
      (v.get "continue_").isTruthy ((v.get "routes").elements.map ofValue) := by
  have hroutes := (Value.elements_fits h (rfl : Kind.route.schema.type? "routes" = _)).1
  have hparts : ofValue v = ofValue (.entity .route [v.get "receiver", v.get "group_by",
      v.get "group_wait", v.get "group_interval", v.get "repeat_interval", v.get "matchers",
      v.get "continue_", v.get "routes", v.get "mute_time_intervals",
      v.get "active_time_intervals"]) :=
    congrArg ofValue (Value.eq_entity_map_get h (by decide))
  rw [hparts, hroutes, ofValue, ofValues_eq_map]
  rfl

end Route

/-- Induction over the routes of a configuration. -/
@[elab_as_elim]
theorem Value.induct_route {P : Value → Prop}
    (step : ∀ v, v.fits (.entity .route) = true →
      (∀ child ∈ (v.get "routes").elements, P child) → P v)
    {v : Value} (h : v.fits (.entity .route) = true) : P v := by
  induction hsize : sizeOf v using Nat.strongRecOn generalizing v with | _ n ih
  obtain ⟨hroutes, hchildren⟩ := elements_fits h (rfl : Kind.route.schema.type? "routes" = _)
  refine step v h fun child hchild => ih (sizeOf child) ?_ (hchildren child hchild) rfl
  -- A route below stands in a list that stands in a field of the route.
  have hlist : sizeOf child < sizeOf (v.get "routes") := by
    rw [hroutes, list.sizeOf_spec]
    have := List.sizeOf_lt_of_mem hchild
    omega
  have hfield : sizeOf (v.get "routes") < sizeOf v := by
    obtain ⟨values, rfl, -⟩ := eq_entity_of_fits h
    have hget : ((Kind.route.schema.position? "routes").bind fun i => values[i]?) = some _ :=
      (get_fits h (rfl : Kind.route.schema.type? "routes" = _)).1
    obtain ⟨i, -, hi⟩ := Option.bind_eq_some_iff.1 hget
    have := List.sizeOf_lt_of_mem (List.mem_of_getElem? hi)
    rw [entity.sizeOf_spec]
    omega
  omega

namespace Route

/-- The matchers of a route whose patterns can be read have an answer to every alert. -/
theorem holdAll_ofValue {v : Value} (h : v.fits (.entity .route) = true)
    (hvalid : v.hasValidPatterns = true) {labels : Labels} (hlabels : labels.IsTextual) :
    ∃ holds, holdAll labels (MatcherSlot.ofValue (v.get "matchers")) = .ok holds := by
  have hmatchers := (Value.get_fits h (rfl : Kind.route.schema.type? "matchers" = _)).2
  rw [MatcherSlot.ofValue_of_fits hmatchers]
  have hall := Value.everywhere_get rfl hvalid "matchers"
  exact holdAll_ok (Value.isValid_of_mem_matchers hmatchers hall) hlabels

/-- A route of a configuration whose patterns can be read can be asked about every alert. -/
theorem answers_ofValue {v : Value} (h : v.fits (.entity .route) = true)
    (hvalid : v.hasValidPatterns = true) {labels : Labels} (hlabels : labels.IsTextual) :
    (ofValue v).Answers labels := by
  revert hvalid
  refine Value.induct_route ?_ h
  intro v h ih hvalid
  obtain ⟨holds, hholds⟩ := holdAll_ofValue h hvalid hlabels
  have hroutes := Value.everywhere_get rfl hvalid "routes"
  rw [(Value.elements_fits h (rfl : Kind.route.schema.type? "routes" = _)).1, Value.everywhere,
    Value.everywhereIn_iff] at hroutes
  rw [ofValue_of_fits h]
  refine .node hholds (RouteSettings.isRegular_ofRoute h) (List.forall_mem_map.2 ?_)
  exact fun child hchild => ih child hchild (hroutes child hchild)

/-- A route of a configuration whose patterns can be read handles every alert without fail. -/
theorem handling_ok {v : Value} (h : v.fits (.entity .route) = true)
    (hvalid : v.hasValidPatterns = true) {labels : Labels} (hlabels : labels.IsTextual) :
    ∃ found, (ofValue v).handling labels = .ok found := by
  obtain ⟨found, hfound, -⟩ := found_of_answers (answers_ofValue h hvalid hlabels) none []
  exact ⟨found, hfound⟩

/-- **An alert is handled exactly where every route on the way takes it, no earlier sibling keeps it
and no route below takes it**, at each place once and in the order in which the tree is walked; it is
handled nowhere only if the root does not take it. -/
theorem handling_spec {v alert : Value} (hv : v.fits (.entity .route) = true)
    (hvalid : v.hasValidPatterns = true) (halert : alert.fits (.mapOf .text) = true) :
    let r := ofValue v
    let labels := Labels.ofValue alert
    ∃ found, r.handling labels = .ok found ∧
      (∀ path, path ∈ found.map (·.path) ↔ r.Handles labels path) ∧
      (found.map (·.path)).Sublist r.places ∧ r.places.Nodup ∧
      (r.places.map fun path => (r.at? path).map own) = r.walk.map some ∧
      (found = [] ↔ r.accepts labels = false) := by
  intro r labels
  have hanswers := answers_ofValue hv hvalid (Labels.isTextual_ofValue halert)
  obtain ⟨found, hfound, hplaces⟩ := found_of_answers hanswers none []
  refine ⟨found, hfound, fun path => ?_, ?_, nodup_places r, walk_eq_map r, ?_⟩
  · rw [hplaces.mem]
    exact ⟨fun ⟨rest, hrest, h⟩ => hrest ▸ h, fun h => ⟨path, rfl, h⟩⟩
  · simpa using hplaces.sublist
  · rw [← List.isEmpty_iff, hplaces.isEmpty, Bool.not_eq_true']

/-- An alert that goes on from the first child to the second, which keeps it. -/
theorem handling_spec_siblings :
    let child (m : Matcher) (goesOn : Bool) := Value.build .route
      [("matchers", .list [.matcher m]), ("continue_", .bool goesOn)]
    let v := Value.build .route [("receiver", .text "team"), ("routes", .list
      [child ⟨"job", .equal, "web"⟩ true, child ⟨"job", .regex, "we[a-c]+"⟩ false,
        child ⟨"zone", .equal, ""⟩ false])]
    let alert := Value.record [("job", .text "web")]
    v.fits (.entity .route) = true ∧ v.hasValidPatterns = true ∧ alert.fits (.mapOf .text) = true ∧
      ∃ found, (ofValue v).handling (Labels.ofValue alert) = .ok found ∧
        ∀ path, path ∈ found.map (·.path) ↔ (ofValue v).Handles (Labels.ofValue alert) path := by
  intro child v alert
  have hv : v.fits (.entity .route) = true := by decide
  have hvalid : v.hasValidPatterns = true := by decide
  have halert : alert.fits (.mapOf .text) = true := by decide
  obtain ⟨found, hfound, hmem, -⟩ := handling_spec hv hvalid halert
  exact ⟨hv, hvalid, halert, found, hfound, hmem⟩

end Route

end MonitoringConfig
