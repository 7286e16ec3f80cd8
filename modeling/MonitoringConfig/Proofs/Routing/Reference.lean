import MonitoringConfig.Proofs.Projection.Fields
import MonitoringConfig.Proofs.Routing.Alert
import MonitoringConfig.Proofs.Routing.Resolution
import MonitoringConfig.Routing.Check
/-!
# Names in a routing configuration

Routes name receivers and time intervals, and a configuration defines them. What the check finds is
told here without the order in which it looks at names and routes.

* `Value.IsWellReferenced` : every name that occurs in the routing tree is defined, and the names of
  the receivers tell them apart.
* `Checks` : a check comes to a result, which lists nothing just if something holds.
* `RoutingConfig.issues_spec` : **the check finds nothing wrong just in the configurations that are
  well referenced**, and there every alert is handled with receivers and times that are defined.
-/

namespace MonitoringConfig

/-! ### The routes of a configuration -/

namespace Value

/-- The routes in the tree of a route: the route itself, and those in the trees right below. -/
inductive HasRoute : Value → Value → Prop
  | root (v : Value) : HasRoute v v
  | step {v child n : Value} (hchild : child ∈ (v.get "routes").elements)
      (hn : HasRoute child n) : HasRoute v n

theorem HasRoute.fits {v n : Value} (hn : v.HasRoute n) (h : v.fits (.entity .route) = true) :
    n.fits (.entity .route) = true := by
  induction hn with
  | root v => exact h
  | step hchild _ ih =>
    exact ih ((elements_fits h (rfl : Kind.route.schema.type? "routes" = _)).2 _ hchild)

end Value

/-- **The tree is walked over all the routes of the configuration** and nothing else. -/
theorem Route.mem_walk_ofValue {v : Value} (h : v.fits (.entity .route) = true)
    {entry : Except Failure RouteSettings} :
    entry ∈ (ofValue v).walk ↔ ∃ n, v.HasRoute n ∧ entry = .ok (.ofRoute n) := by
  refine Value.induct_route ?_ h
  intro v h ih
  rw [ofValue_of_fits h, walk, walkAll_eq_flatMap, List.mem_cons, List.mem_flatMap]
  constructor
  · rintro (rfl | ⟨r, hr, hentry⟩)
    · exact ⟨v, .root v, rfl⟩
    · obtain ⟨child, hchild, rfl⟩ := List.mem_map.1 hr
      obtain ⟨n, hn, rfl⟩ := (ih child hchild).1 hentry
      exact ⟨n, .step hchild hn, rfl⟩
  · rintro ⟨n, hn, rfl⟩
    cases hn with
    | root => exact .inl rfl
    | step hchild hn =>
      exact .inr ⟨_, List.mem_map_of_mem hchild, (ih _ hchild).2 ⟨n, hn, rfl⟩⟩

/-! ### Names -/

namespace Value

/-- The names of the parts that a configuration lists in a field. -/
def namesIn (config : Value) (field : String) : List Value :=
  (config.get field).elements.map (·.get "name")

/-- The names of the receivers that a configuration defines. -/
def receiverNames (config : Value) : List Value :=
  config.namesIn "receivers"

/-- The names of the time intervals that a configuration defines. -/
def intervalNames (config : Value) : List Value :=
  config.namesIn "mute_time_intervals" ++ config.namesIn "time_intervals"

/-- The names of the time intervals at which a route is muted or active. -/
def timesNamed (route : Value) : List Value :=
  (route.get "mute_time_intervals").elements ++ (route.get "active_time_intervals").elements

/-- Whether a configuration defines what its routes name. -/
structure IsWellReferenced (config : Value) : Prop where
  /-- No two receivers have one name. -/
  receivers_nodup : config.receiverNames.Nodup
  /-- There is a root route. -/
  hasRoute : config.get "route" ≠ .null
  /-- The root route names a receiver. -/
  hasReceiver : (config.get "route").get "receiver" ≠ .text ""
  /-- Every receiver that a route names is defined. -/
  receivers : ∀ n, (config.get "route").HasRoute n → n.get "receiver" ≠ .text "" →
    n.get "receiver" ∈ config.receiverNames
  /-- Every time interval that a route names is defined. -/
  intervals : ∀ n, (config.get "route").HasRoute n → ∀ name ∈ n.timesNamed,
    name ∈ config.intervalNames

theorem isTruthy_iff_of_text {v : Value} (h : v.fits .text = true) :
    v.isTruthy = true ↔ v ≠ .text "" := by
  obtain ⟨s, rfl⟩ := eq_text_of_fits h
  simp [isTruthy]

theorem equal_iff_of_text {v w : Value} (hv : v.fits .text = true) (hw : w.fits .text = true) :
    v.equal w = true ↔ v = w := by
  obtain ⟨s, rfl⟩ := eq_text_of_fits hv
  obtain ⟨t, rfl⟩ := eq_text_of_fits hw
  simp

/-- Several values that are texts are the values of several texts. -/
theorem exists_texts {vs : List Value} (h : ∀ v ∈ vs, v.fits .text = true) :
    ∃ ss : List String, vs = ss.map text := by
  obtain ⟨ss, rfl⟩ : vs ∈ Set.range (List.map text) := by
    rw [Set.range_list_map]
    exact fun v hv => (eq_text_of_fits (h v hv)).imp fun s hs => hs.symm
  exact ⟨ss, rfl⟩

theorem isAmong_iff {v : Value} {vs : List Value} (h : v.fits .text = true)
    (hvs : ∀ w ∈ vs, w.fits .text = true) : v.isAmong vs = true ↔ v ∈ vs := by
  rw [isAmong, List.any_eq_true]
  constructor
  · rintro ⟨w, hw, hsame⟩
    rwa [(equal_iff_of_text h (hvs w hw)).1 hsame]
  · exact fun hv => ⟨v, hv, (equal_iff_of_text h h).2 rfl⟩

theorem canBeKeys_of_texts {vs : List Value} (h : ∀ v ∈ vs, v.fits .text = true) :
    canBeKeys vs = true := by
  induction vs with
  | nil => rfl
  | cons v vs ih =>
    obtain ⟨s, rfl⟩ := eq_text_of_fits (h v List.mem_cons_self)
    rw [canBeKeys, ih fun w hw => h w (List.mem_cons_of_mem _ hw)]
    rfl

/-- Texts have an order. -/
theorem sort?_of_texts {vs : List Value} (h : ∀ v ∈ vs, v.fits .text = true) :
    ∃ sorted, sort? vs = some sorted ∧ sorted.length = vs.length := by
  have hall : (vs.all fun v => v.asText?.isSome) = true := by
    rw [List.all_eq_true]
    intro v hv
    obtain ⟨s, rfl⟩ := eq_text_of_fits (h v hv)
    rfl
  rw [sort?]
  split
  · exact ⟨vs, rfl, rfl⟩
  · exact ⟨_, rfl, List.length_mergeSort vs⟩

end Value

/-! ### Checks -/

/-- Whether a check comes to a result, which lists nothing just if something holds. -/
def Checks (check : Except Failure (List String)) (P : Prop) : Prop :=
  ∃ issues, check = .ok issues ∧ (issues = [] ↔ P)

namespace Checks

variable {a b : Except Failure (List String)} {P Q : Prop}

theorem of_iff (h : Checks a P) (hPQ : P ↔ Q) : Checks a Q := by
  obtain ⟨issues, hissues, hP⟩ := h
  exact ⟨issues, hissues, hP.trans hPQ⟩

/-- One check and then another check both things. -/
theorem append (ha : Checks a P) (hb : Checks b Q) :
    Checks (do return (← a) ++ (← b)) (P ∧ Q) := by
  obtain ⟨first, rfl, hP⟩ := ha
  obtain ⟨rest, rfl, hQ⟩ := hb
  refine ⟨first ++ rest, rfl, ?_⟩
  rw [List.append_eq_nil_iff, hP, hQ]

end Checks

namespace RoutingConfig

variable {names defined : List Value}

/-- The names of parts of a configuration that have names. -/
theorem namesOf_of_fits {config : Value} {kind part : Kind} {field : String}
    (h : config.fits (.entity kind) = true)
    (hfield : kind.schema.type? field = some (.listOf (.entity part)))
    (hname : part.schema.type? "name" = some .text) :
    namesOf (config.get field) = .ok (config.namesIn field) ∧
      ∀ name ∈ config.namesIn field, name.fits .text = true := by
  obtain ⟨hlist, hparts⟩ := Value.elements_fits h hfield
  have hnames : ∀ v ∈ (config.get field).elements, v.field "name" = .ok (v.get "name") := by
    intro v hv
    exact Value.field_eq_get (Value.get_fits (hparts v hv) hname).1
  refine ⟨?_, List.forall_mem_map.2 fun v hv => (Value.get_fits (hparts v hv) hname).2⟩
  rw [namesOf, Value.items_eq_elements hlist]
  exact mapM_eq_ok hnames

theorem find_cons {v name n : Value} (vs : List Value) (h : v.field "name" = .ok n) :
    findNamed.find name (v :: vs) =
      if n.equal name then .ok v else findNamed.find name vs := by
  rw [findNamed.find, h]
  rfl

/-- A name that stands in a list is found there. -/
theorem find_of_mem {vs : List Value} {name : Value}
    (hvs : ∀ v ∈ vs, v.field "name" = .ok (v.get "name") ∧ (v.get "name").fits .text = true)
    (hname : name ∈ vs.map (·.get "name")) :
    ∃ r ∈ vs, findNamed.find name vs = .ok r ∧ r.get "name" = name := by
  induction vs with
  | nil => cases hname
  | cons v vs ih =>
    obtain ⟨hfield, hfits⟩ := hvs v List.mem_cons_self
    obtain ⟨w, hw, hwname⟩ := List.mem_map.1 hname
    have hsame := Value.equal_iff_of_text hfits (hwname ▸ (hvs w hw).2)
    rw [find_cons vs hfield]
    -- The first part with the name is found, which need not be the one that gave it.
    by_cases hv : v.get "name" = name
    · rw [if_pos (hsame.2 hv)]
      exact ⟨v, List.mem_cons_self, rfl, hv⟩
    · rw [if_neg fun h => hv (hsame.1 h)]
      have hbehind := (List.mem_cons.1 hname).resolve_left fun h => hv h.symm
      obtain ⟨r, hr, hfound, hrname⟩ :=
        ih (fun w hw => hvs w (List.mem_cons_of_mem _ hw)) hbehind
      exact ⟨r, List.mem_cons_of_mem _ hr, hfound, hrname⟩

/-- Where parts are replaced by others with the same names, the replacement of what was found is
found under its name. -/
theorem find_map {vs : List Value} {name r : Value} {replace : Value → Value}
    (hvs : ∀ v ∈ vs, v.field "name" = .ok (v.get "name") ∧
      (replace v).field "name" = .ok (v.get "name"))
    (hfound : findNamed.find name vs = .ok r) (hthere : r ≠ .null) :
    findNamed.find name (vs.map replace) = .ok (replace r) := by
  induction vs with
  | nil =>
    cases hfound
    exact absurd rfl hthere
  | cons v vs ih =>
    obtain ⟨hfield, hreplaced⟩ := hvs v List.mem_cons_self
    rw [find_cons vs hfield] at hfound
    rw [List.map_cons, find_cons (vs.map replace) hreplaced]
    split at hfound
    · next hsame =>
      cases hfound
      rw [if_pos hsame]
    · next hother =>
      rw [if_neg hother]
      exact ih (fun w hw => hvs w (List.mem_cons_of_mem _ hw)) hfound

/-- What a configuration defines under a name is found under the name. -/
theorem findNamed_of_mem {v name : Value} {kind part : Kind} {field : String}
    (h : v.fits (.entity kind) = true)
    (hfield : kind.schema.type? field = some (.listOf (.entity part)))
    (hname : part.schema.type? "name" = some .text) (hmem : name ∈ v.namesIn field) :
    ∃ r ∈ (v.get field).elements, findNamed (v.get field) name = .ok r ∧ r.get "name" = name := by
  obtain ⟨hlist, hparts⟩ := Value.elements_fits h hfield
  rw [findNamed, Value.items_eq_elements hlist]
  refine find_of_mem (fun w hw => ?_) hmem
  have hget := Value.get_fits (hparts w hw) hname
  exact ⟨Value.field_eq_get hget.1, hget.2⟩

/-! ### Names that are given twice -/

/-- Taking every name once leaves none just if there was none. -/
theorem foldl_once_eq_nil {seen : List Value} :
    names.foldl (fun seen n => if n.isAmong seen then seen else seen ++ [n]) seen = [] ↔
      seen = [] ∧ names = [] := by
  induction names generalizing seen with
  | nil => simp
  | cons n names ih =>
    rw [List.foldl_cons, ih]
    cases seen with
    | nil => simp [Value.isAmong]
    | cons m seen => split <;> simp

theorem mem_foldl_once {seen : List Value} {v : Value}
    (hv : v ∈ names.foldl (fun seen n => if n.isAmong seen then seen else seen ++ [n]) seen) :
    v ∈ seen ∨ v ∈ names := by
  induction names generalizing seen with
  | nil => exact .inl hv
  | cons n names ih =>
    rw [List.foldl_cons] at hv
    rcases ih hv with h | h
    · split at h
      · exact .inl h
      · rcases List.mem_append.1 h with h | h
        · exact .inl h
        · exact .inr (List.mem_cons.2 (.inl (List.mem_singleton.1 h)))
    · exact .inr (List.mem_cons_of_mem _ h)

/-- Names are given once each just if none is given more than once. -/
theorem repeatedNames_eq_nil (h : ∀ name ∈ names, name.fits .text = true) :
    repeatedNames names = [] ↔ names.Nodup := by
  obtain ⟨ss, rfl⟩ := Value.exists_texts h
  have hcount : ∀ s, (ss.map Value.text).countP (Value.text s).equal = ss.count s := by
    intro s
    rw [List.countP_map, List.count]
    refine List.countP_congr fun t _ => ?_
    rw [Function.comp_apply, Value.equal_text, Bool.beq_comm]
  have hinj : Function.Injective Value.text := fun s t hst => Value.text.inj hst
  rw [repeatedNames, foldl_once_eq_nil, List.nodup_map_iff hinj, List.nodup_iff_count_le_one]
  simp only [true_and, List.filter_eq_nil_iff, List.forall_mem_map, hcount, decide_eq_true_eq,
    Nat.not_lt]
  constructor
  · intro hmem s
    by_cases hs : s ∈ ss
    · exact hmem s hs
    · rw [List.count_eq_zero_of_not_mem hs]
      exact Nat.zero_le 1
  · exact fun hall s _ => hall s

/-- **The names that are given twice are listed.** -/
theorem checks_repeatIssues (h : ∀ name ∈ names, name.fits .text = true) :
    Checks (repeatIssues names) names.Nodup := by
  have hrepeated : ∀ name ∈ repeatedNames names, name.fits .text = true := by
    intro name hname
    have hmem := (mem_foldl_once hname).resolve_left List.not_mem_nil
    exact h name (List.mem_filter.1 hmem).1
  obtain ⟨sorted, hsorted, hlength⟩ := Value.sort?_of_texts hrepeated
  refine ⟨sorted.map fun n => "duplicate receiver " ++ n.quoted, ?_, ?_⟩
  · simp only [repeatIssues, Value.canBeKeys_of_texts hrepeated, hsorted]
    rfl
  · rw [List.map_eq_nil_iff, ← List.length_eq_zero_iff, hlength, List.length_eq_zero_iff]
    exact repeatedNames_eq_nil h

/-! ### Names that are not defined -/

/-- **The time intervals that are not defined are listed.** -/
theorem checks_intervalIssues (hdefined : ∀ name ∈ defined, name.fits .text = true)
    (h : ∀ name ∈ names, name.fits .text = true) :
    Checks (intervalIssues defined names) (∀ name ∈ names, name ∈ defined) := by
  induction names with
  | nil => exact ⟨[], rfl, by simp⟩
  | cons name names ih =>
    have hname := h name List.mem_cons_self
    obtain ⟨rest, hrest, hiff⟩ := ih fun n hn => h n (List.mem_cons_of_mem _ hn)
    have hkey : name.canBeKey = true := by
      obtain ⟨s, rfl⟩ := Value.eq_text_of_fits hname
      rfl
    have hamong := Value.isAmong_iff hname hdefined
    simp only [intervalIssues, hkey, Bool.not_true, Bool.false_eq_true, if_false, hrest,
      List.forall_mem_cons]
    by_cases hin : name ∈ defined
    · exact ⟨rest, by simp [hamong.2 hin, bind, Except.bind, pure, Except.pure], by simp [hin, hiff]⟩
    · have hnot : name.isAmong defined = false := by simpa [hin] using hamong
      refine ⟨("route references undefined time interval " ++ name.quoted) :: rest, ?_, ?_⟩
      · simp [hnot, bind, Except.bind, pure, Except.pure]
      · simp [hin]

/-- A receiver that is not defined is listed. -/
theorem receiverIssues_eq_nil {name : Value} (h : name.fits .text = true)
    (hdefined : ∀ name ∈ defined, name.fits .text = true) :
    receiverIssues defined name = [] ↔ (name ≠ .text "" → name ∈ defined) := by
  have htruthy := Value.isTruthy_iff_of_text h
  have hamong := Value.isAmong_iff h hdefined
  rw [receiverIssues]
  by_cases hname : name = .text ""
  · subst hname
    simp [Value.isTruthy]
  · by_cases hin : name ∈ defined
    · simp [hamong.2 hin, hin]
    · have hnot : name.isAmong defined = false := by simpa [hin] using hamong
      simp [htruthy.2 hname, hnot, hname, hin]

/-- Whether the names that a route gives are defined. -/
structure RouteIsDefined (receivers intervals : List Value) (own : RouteSettings) : Prop where
  receiver : own.receiver ≠ .text "" → own.receiver ∈ receivers
  times : ∀ name ∈ own.muted.elements ++ own.active.elements, name ∈ intervals

variable {receivers intervals : List Value}

/-- **The names of a route that are not defined are listed.** -/
theorem checks_routeIssues (hreceivers : ∀ name ∈ receivers, name.fits .text = true)
    (hintervals : ∀ name ∈ intervals, name.fits .text = true) {n : Value}
    (hn : n.fits (.entity .route) = true) :
    Checks (routeIssues receivers intervals (.ofRoute n))
      (RouteIsDefined receivers intervals (.ofRoute n)) := by
  obtain ⟨hmuted, hmutedText⟩ :=
    Value.elements_fits hn (rfl : Kind.route.schema.type? "mute_time_intervals" = _)
  obtain ⟨hactive, hactiveText⟩ :=
    Value.elements_fits hn (rfl : Kind.route.schema.type? "active_time_intervals" = _)
  have hnames : ∀ name ∈ n.timesNamed, name.fits .text = true := by
    intro name hname
    exact (List.mem_append.1 hname).elim (hmutedText name) (hactiveText name)
  have hreceiver : Checks (.ok (receiverIssues receivers (n.get "receiver")))
      (n.get "receiver" ≠ .text "" → n.get "receiver" ∈ receivers) :=
    ⟨_, rfl, receiverIssues_eq_nil (Value.get_fits hn rfl).2 hreceivers⟩
  have hboth := hreceiver.append (checks_intervalIssues hintervals hnames)
  rw [routeIssues, RouteSettings.ofRoute]
  simp only [Value.joined_eq_elements hmuted hactive]
  exact hboth.of_iff ⟨fun h => ⟨h.1, h.2⟩, fun h => ⟨h.receiver, h.times⟩⟩

theorem checks_routesIssues (hreceivers : ∀ name ∈ receivers, name.fits .text = true)
    (hintervals : ∀ name ∈ intervals, name.fits .text = true)
    {routes : List (Except Failure RouteSettings)}
    (hroutes : ∀ entry ∈ routes, ∃ n, n.fits (.entity .route) = true ∧ entry = .ok (.ofRoute n)) :
    Checks (routesIssues receivers intervals routes)
      (∀ own, .ok own ∈ routes → RouteIsDefined receivers intervals own) := by
  induction routes with
  | nil => exact ⟨[], rfl, by simp⟩
  | cons entry routes ih =>
    obtain ⟨n, hn, rfl⟩ := hroutes entry List.mem_cons_self
    have hrest := ih fun entry hentry => hroutes entry (List.mem_cons_of_mem _ hentry)
    have hboth := (checks_routeIssues hreceivers hintervals hn).append hrest
    refine Checks.of_iff hboth ?_
    simp [or_imp, forall_and]

/-! ### Configurations -/

variable {config : Value}

/-- What is checked of a configuration are its fields. -/
theorem ofValue?_of_fits (h : config.fits (.entity .routingConfig) = true) :
    ofValue? config = some ⟨config.get "receivers", config.get "route",
      config.get "mute_time_intervals", config.get "time_intervals"⟩ := by
  exact congrArg ofValue? (Value.eq_entity_map_get h (by decide))

section

variable (hconfig : config.fits (.entity .routingConfig) = true)
include hconfig

theorem receiverNames_fits : ∀ name ∈ config.receiverNames, name.fits .text = true :=
  (namesOf_of_fits hconfig rfl rfl).2

theorem intervalNames_fits : ∀ name ∈ config.intervalNames, name.fits .text = true := by
  intro name hname
  rcases List.mem_append.1 hname with h | h
  · exact (namesOf_of_fits hconfig rfl rfl).2 name h
  · exact (namesOf_of_fits hconfig rfl rfl).2 name h

/-- The names of time intervals are fit for being looked up. -/
theorem intervalNames_eq {field : String}
    (hfield : Kind.routingConfig.schema.type? field = some (.listOf (.entity .muteTimeInterval))) :
    intervalNames (config.get field) = .ok (config.namesIn field) := by
  obtain ⟨hnames, hfit⟩ := namesOf_of_fits hconfig hfield rfl
  simp only [intervalNames, hnames, bind, Except.bind, Value.canBeKeys_of_texts hfit]
  rfl

/-- **The routes of a configuration are checked** one after the other. -/
theorem checks_walk (hroute : (config.get "route").fits (.entity .route) = true) :
    Checks (routesIssues config.receiverNames config.intervalNames
        (Route.ofValue (config.get "route")).walk)
      (∀ n, (config.get "route").HasRoute n →
        RouteIsDefined config.receiverNames config.intervalNames (.ofRoute n)) := by
  have hmem := @Route.mem_walk_ofValue (config.get "route") hroute
  refine (checks_routesIssues (receiverNames_fits hconfig) (intervalNames_fits hconfig)
    fun entry hentry => ?_).of_iff ?_
  · obtain ⟨n, hn, rfl⟩ := hmem.1 hentry
    exact ⟨n, hn.fits hroute, rfl⟩
  · constructor
    · exact fun h n hn => h _ (hmem.2 ⟨n, hn, rfl⟩)
    · intro h own hown
      obtain ⟨n, hn, heq⟩ := hmem.1 hown
      cases heq
      exact h n hn

/-- The root route is missing, or a route. -/
theorem route_fits : config.get "route" = .null ∨
    (config.get "route").fits (.entity .route) = true :=
  Value.fits_optional (Value.get_fits hconfig (rfl : Kind.routingConfig.schema.type? "route" = _)).2

/-- **A configuration has no issues just if it is well referenced.** -/
theorem checks_issues {c : RoutingConfig} (hc : ofValue? config = some c) :
    Checks c.issues config.IsWellReferenced := by
  rw [ofValue?_of_fits hconfig, Option.some.injEq] at hc
  subst hc
  have hnames : namesOf (config.get "receivers") = .ok config.receiverNames :=
    (namesOf_of_fits hconfig rfl rfl).1
  obtain ⟨repeated, hrepeated, hnodup⟩ := checks_repeatIssues (receiverNames_fits hconfig)
  rcases route_fits hconfig with hnull | hroute
  · -- Without a root route there is an issue, whatever the names are.
    refine ⟨repeated ++ ["missing root route"], ?_, by simp, fun h => absurd hnull h.hasRoute⟩
    simp only [issues, hnames, hrepeated, hnull, bind, Except.bind]
    rfl
  · obtain ⟨found, hfound, hdefined⟩ := checks_walk hconfig hroute
    have hthere : (config.get "route").isNull = false := by
      obtain ⟨fields, hfields, -⟩ := Value.eq_entity_of_fits hroute
      rw [hfields]
      rfl
    have hreceiver := Value.field_of_fits hroute "receiver" rfl
    have htruthy := Value.isTruthy_iff_of_text
      (Value.get_fits hroute (rfl : Kind.route.schema.type? "receiver" = _)).2
    let unnamed := if ((config.get "route").get "receiver").isTruthy then []
      else ["root route has no receiver"]
    have hunnamed : unnamed = [] ↔ (config.get "route").get "receiver" ≠ .text "" := by
      rw [← htruthy]
      simp [unnamed]
    refine ⟨repeated ++ unnamed ++ found, ?_, ?_⟩
    · have hmuted : intervalNames (config.get "mute_time_intervals") = _ :=
        intervalNames_eq hconfig rfl
      have htimes : intervalNames (config.get "time_intervals") = _ :=
        intervalNames_eq hconfig rfl
      rw [Value.intervalNames] at hfound
      simp only [issues, hnames, hrepeated, hthere, hreceiver, hmuted, htimes, hfound, bind,
        Except.bind]
      rfl
    · rw [List.append_eq_nil_iff, List.append_eq_nil_iff, hnodup, hunnamed, hdefined]
      constructor
      · rintro ⟨⟨hnodup, hunnamed⟩, hdefined⟩
        have hnull : config.get "route" ≠ .null := fun h => by simp [h, Value.isNull] at hthere
        exact ⟨hnodup, hnull, hunnamed, fun n hn => (hdefined n hn).receiver,
          fun n hn => (hdefined n hn).times⟩
      · intro h
        exact ⟨⟨h.receivers_nodup, h.hasReceiver⟩,
          fun n hn => ⟨h.receivers n hn, h.intervals n hn⟩⟩

/-! ### Handlers -/

/-- **In a well referenced configuration every alert is handled with what is defined.** -/
theorem isDefined_of_mem (hrefs : config.IsWellReferenced) {labels : Labels} {found : List Handler}
    (hfound : (Route.ofValue (config.get "route")).handling labels = .ok found) {h : Handler}
    (hh : h ∈ found) :
    h.receiver ∈ config.receiverNames ∧
      ∀ name ∈ h.muted ++ h.active, name ∈ config.intervalNames := by
  have hroute := (route_fits hconfig).resolve_left hrefs.hasRoute
  have hwalk : ∀ own, .ok own ∈ (Route.ofValue (config.get "route")).walk →
      ∃ n, (config.get "route").HasRoute n ∧ n.fits (.entity .route) = true ∧ own = .ofRoute n := by
    intro own hown
    obtain ⟨n, hn, heq⟩ := (Route.mem_walk_ofValue hroute).1 hown
    cases heq
    exact ⟨n, hn, hn.fits hroute, rfl⟩
  -- The alert decides the way to the handler; what is in force at its end is that of some routes.
  obtain ⟨way, hway⟩ := Route.exists_way_of_mem hfound hh
  constructor
  · refine Route.receiver_inForce (fun own hown htruthy => ?_) (fun own hown => .inl ?_) hway
    · obtain ⟨n, hn, hfits, rfl⟩ := hwalk own hown
      have htext := (Value.get_fits hfits (rfl : Kind.route.schema.type? "receiver" = _)).2
      exact hrefs.receivers n hn ((Value.isTruthy_iff_of_text htext).1 htruthy)
    · have htext := (Value.get_fits hroute (rfl : Kind.route.schema.type? "receiver" = _)).2
      rw [Route.ofValue_of_fits hroute] at hown
      cases hown
      exact (Value.isTruthy_iff_of_text htext).2 hrefs.hasReceiver
  · obtain ⟨own, hown, hmuted, hactive⟩ := Route.times_inForce hway
    obtain ⟨n, hn, hfits, rfl⟩ := hwalk own hown
    have hmuted' := Value.items_eq_elements
      (Value.elements_fits hfits (rfl : Kind.route.schema.type? "mute_time_intervals" = _)).1
    have hactive' := Value.items_eq_elements
      (Value.elements_fits hfits (rfl : Kind.route.schema.type? "active_time_intervals" = _)).1
    rw [← Except.ok.inj (hmuted'.symm.trans hmuted), ← Except.ok.inj (hactive'.symm.trans hactive)]
    exact hrefs.intervals n hn

/-- Where the patterns of a configuration can be read, every alert is handled without fail. -/
theorem handling_eq_ok (hrefs : config.IsWellReferenced)
    (hvalid : (config.get "route").hasValidPatterns = true) {labels : Labels}
    (htextual : labels.IsTextual) :
    ∃ found, (Route.ofValue (config.get "route")).handling labels = .ok found := by
  have hroute := (route_fits hconfig).resolve_left hrefs.hasRoute
  exact Route.handling_ok hroute hvalid htextual

/-- **The check lists issues just where a name is given twice or not defined.** Where it lists none,
whatever alert is handled is handled with a receiver that is found by its name, and with time
intervals that are defined. -/
theorem issues_spec :
    ∃ c issues, ofValue? config = some c ∧ c.issues = .ok issues ∧
      (issues = [] ↔ config.IsWellReferenced) ∧
      (issues = [] → ∀ alert, alert.fits (.mapOf .text) = true →
        let handling := (Route.ofValue (config.get "route")).handling (Labels.ofValue alert)
        ((config.get "route").hasValidPatterns = true → ∃ found, handling = .ok found) ∧
        ∀ found, handling = .ok found → ∀ h ∈ found,
          (∃ r, findNamed (config.get "receivers") h.receiver = .ok r ∧ r ≠ .null ∧
            r.get "name" = h.receiver) ∧
          ∀ name ∈ h.muted ++ h.active, name ∈ config.intervalNames) := by
  have hc := ofValue?_of_fits hconfig
  obtain ⟨issues, hissues, hiff⟩ := checks_issues hconfig hc
  refine ⟨_, issues, hc, hissues, hiff, ?_⟩
  intro hnone alert halert handling
  constructor
  · intro hvalid
    exact handling_eq_ok hconfig (hiff.1 hnone) hvalid (Labels.isTextual_ofValue halert)
  · intro found hfound h hh
    obtain ⟨hreceiver, htimes⟩ := isDefined_of_mem hconfig (hiff.1 hnone) hfound hh
    have hreceivers := (rfl : Kind.routingConfig.schema.type? "receivers" = _)
    obtain ⟨r, hr, hfind, hname⟩ := findNamed_of_mem hconfig hreceivers rfl hreceiver
    refine ⟨⟨r, hfind, fun hnull => ?_, hname⟩, htimes⟩
    have hfits := (Value.elements_fits hconfig hreceivers).2 r hr
    rw [hnull] at hfits
    cases hfits

end

/-- A route that takes over its receiver, and a route below with one of its own and a time. -/
theorem issues_spec_threeRoutes :
    let night := Value.build .route [("receiver", .text "night"),
      ("matchers", .list [.matcher ⟨"severity", .equal, "low"⟩]),
      ("mute_time_intervals", .list [.text "weekend"])]
    let web := Value.build .route [("matchers", .list [.matcher ⟨"job", .regex, "web.*"⟩]),
      ("routes", .list [night])]
    let config := Value.build .routingConfig [
      ("receivers", .list [.build .receiver [("name", .text "team")],
        .build .receiver [("name", .text "night")]]),
      ("time_intervals", .list [.build .muteTimeInterval [("name", .text "weekend")]]),
      ("route", .build .route [("receiver", .text "team"), ("routes", .list [web])])]
    let alert := Value.record [("job", .text "web-1")]
    config.fits (.entity .routingConfig) = true ∧ alert.fits (.mapOf .text) = true ∧
      config.IsWellReferenced ∧
      ∃ found, (Route.ofValue (config.get "route")).handling (Labels.ofValue alert) = .ok found ∧
        ∀ h ∈ found, ∃ r, findNamed (config.get "receivers") h.receiver = .ok r ∧ r ≠ .null := by
  intro night web config alert
  have hconfig : config.fits (.entity .routingConfig) = true := by decide
  have halert : alert.fits (.mapOf .text) = true := by decide
  have hvalid : (config.get "route").hasValidPatterns = true := by decide
  obtain ⟨c, issues, hc, hissues, hiff, hhandled⟩ := issues_spec hconfig
  have hnone : issues = [] := by
    have hcheck : ((ofValue? config).bind (·.issues.toOption)) = some [] := by decide +kernel
    rw [hc, Option.bind_some, hissues] at hcheck
    exact Option.some.inj hcheck
  obtain ⟨hfound, hdefined⟩ := hhandled hnone alert halert
  obtain ⟨found, hfound⟩ := hfound hvalid
  refine ⟨hconfig, halert, hiff.1 hnone, found, hfound, fun h hh => ?_⟩
  obtain ⟨⟨r, hr, hthere, -⟩, -⟩ := hdefined found hfound h hh
  exact ⟨r, hr, hthere⟩

end RoutingConfig

end MonitoringConfig
