import MonitoringConfig.Proofs.Routing.Alert
/-!
# Routes that let alerts go on

A route that lets the alerts it takes go on to its siblings takes nothing from those before it, and
what is behind it comes later. So if further routes let alerts go on, an alert is handled at further
places, and at all those at which it was handled, with the same in force there.

* `Value.lettingGoOn` : a tree in which further routes let alerts go on, those at chosen places.
* `Route.HandlesMore` : a tree handles an alert wherever another one does.
* `Route.handlesMore_node` : a route handles an alert wherever another one does if that is so of the
  routes right below, and of letting it go on.
* `Route.handling_lettingGoOn` : **letting alerts go on only adds places**, and none where there were
  none.
-/

namespace MonitoringConfig

/-! ### Letting alerts go on -/

namespace Value

mutual

/-- A tree of routes in which those at chosen places let alerts go on to their siblings, and all else
is as it was. -/
def lettingGoOn (chosen : List Nat → Bool) : Value → Value
  | entity .route [receiver, groupBy, groupWait, groupInterval, repeatInterval, matchers, goesOn,
      list children, muted, active] =>
    entity .route [receiver, groupBy, groupWait, groupInterval, repeatInterval, matchers,
      if chosen [] then bool true else goesOn, list (lettingAllGoOn chosen 0 children), muted,
      active]
  | v => v

/-- Several trees of routes in which those at chosen places let alerts go on; `index` is the number
of the first tree. -/
def lettingAllGoOn (chosen : List Nat → Bool) (index : Nat) : List Value → List Value
  | [] => []
  | v :: vs =>
    lettingGoOn (fun path => chosen (index :: path)) v :: lettingAllGoOn chosen (index + 1) vs

end

variable {chosen : List Nat → Bool} {v : Value}

/-- The trees are changed one by one. -/
theorem forall₂_lettingAllGoOn {P : Value → Value → Prop} {vs : List Value}
    (h : ∀ v ∈ vs, ∀ chosen, P v (v.lettingGoOn chosen)) (index : Nat) :
    List.Forall₂ P vs (lettingAllGoOn chosen index vs) := by
  induction vs generalizing index with
  | nil => exact .nil
  | cons v vs ih =>
    have hrest := ih (fun w hw => h w (List.mem_cons_of_mem _ hw)) (index + 1)
    exact .cons (h v List.mem_cons_self _) hrest

theorem forall_mem_lettingAllGoOn {P : Value → Prop} {vs : List Value}
    (h : ∀ v ∈ vs, ∀ chosen, P (v.lettingGoOn chosen)) (index : Nat) :
    ∀ w ∈ lettingAllGoOn chosen index vs, P w := by
  induction vs generalizing index with
  | nil => exact fun w hw => absurd hw List.not_mem_nil
  | cons v vs ih =>
    have hrest := ih (fun w hw => h w (List.mem_cons_of_mem _ hw)) (index + 1)
    exact List.forall_mem_cons.2 ⟨h v List.mem_cons_self _, hrest⟩

/-- A route of a configuration keeps what it says, but for letting alerts go on. -/
theorem lettingGoOn_of_fits (h : v.fits (.entity .route) = true) (chosen : List Nat → Bool) :
    v.lettingGoOn chosen = entity .route [v.get "receiver", v.get "group_by", v.get "group_wait",
      v.get "group_interval", v.get "repeat_interval", v.get "matchers",
      if chosen [] then bool true else v.get "continue_",
      list (lettingAllGoOn chosen 0 (v.get "routes").elements), v.get "mute_time_intervals",
      v.get "active_time_intervals"] := by
  have hroutes := (elements_fits h (rfl : Kind.route.schema.type? "routes" = _)).1
  have hparts : v.lettingGoOn chosen = lettingGoOn chosen (entity .route [v.get "receiver",
      v.get "group_by", v.get "group_wait", v.get "group_interval", v.get "repeat_interval",
      v.get "matchers", v.get "continue_", v.get "routes", v.get "mute_time_intervals",
      v.get "active_time_intervals"]) :=
    congrArg (lettingGoOn chosen) (eq_entity_map_get h (by decide))
  rw [hparts, hroutes, lettingGoOn]
  rfl

/-- A tree of routes stays one. -/
theorem fits_lettingGoOn (h : v.fits (.entity .route) = true) (chosen : List Nat → Bool) :
    (v.lettingGoOn chosen).fits (.entity .route) = true := by
  revert chosen
  refine induct_route ?_ h
  intro v h ih chosen
  have hfield : ∀ {name t}, Kind.route.schema.type? name = some t → (v.get name).fits t = true :=
    fun ht => (get_fits h ht).2
  have hgoes : (if chosen [] then bool true else v.get "continue_").fits .flag = true := by
    split
    · rfl
    · exact hfield rfl
  have hroutes : (list (lettingAllGoOn chosen 0 (v.get "routes").elements)).fits
      (.listOf (.entity .route)) = true := by
    simp only [fits, FieldType.inner, fitsAll_iff]
    exact forall_mem_lettingAllGoOn ih 0
  have hfields : List.Forall₂ (fun v (f : Field) => v.fits f.type = true)
      [v.get "receiver", v.get "group_by", v.get "group_wait", v.get "group_interval",
        v.get "repeat_interval", v.get "matchers",
        if chosen [] then bool true else v.get "continue_",
        list (lettingAllGoOn chosen 0 (v.get "routes").elements), v.get "mute_time_intervals",
        v.get "active_time_intervals"] Kind.route.schema.fields :=
    .cons (hfield rfl) (.cons (hfield rfl) (.cons (hfield rfl)
    (.cons (hfield rfl) (.cons (hfield rfl) (.cons (hfield rfl) (.cons hgoes (.cons hroutes
      (.cons (hfield rfl) (.cons (hfield rfl) .nil)))))))))
  rw [lettingGoOn_of_fits h]
  simp [fits, FieldType.inner, fitsFields_iff.2 hfields]

end Value

namespace Route

theorem ofValue_lettingGoOn {v : Value} (h : v.fits (.entity .route) = true)
    (chosen : List Nat → Bool) : ofValue (v.lettingGoOn chosen) =
      .node (.ofRoute v) (MatcherSlot.ofValue (v.get "matchers"))
        (chosen [] || (v.get "continue_").isTruthy)
        ((Value.lettingAllGoOn chosen 0 (v.get "routes").elements).map ofValue) := by
  rw [Value.lettingGoOn_of_fits h, ofValue, ofValues_eq_map]
  cases chosen [] <;> rfl

/-! ### Handling an alert at further places -/

/-- Whether handlers are among others, in the same order, and there are others only where there are
some. -/
structure Extends (found more : List Handler) : Prop where
  sublist : found.Sublist more
  nil_iff : found = [] ↔ more = []

variable {found more rest others : List Handler}

theorem Extends.append (h : Extends found more) (hrest : Extends rest others) :
    Extends (found ++ rest) (more ++ others) where
  sublist := h.sublist.append hrest.sublist
  nil_iff := by
    rw [List.append_eq_nil_iff, List.append_eq_nil_iff, h.nil_iff, hrest.nil_iff]

/-- Handlers that come behind change nothing about those in front, if there are any. -/
theorem Extends.append_right (h : Extends found more) (hfound : found ≠ [])
    (others : List Handler) : Extends found (more ++ others) where
  sublist := h.sublist.trans (List.sublist_append_left more others)
  nil_iff := by
    have hmore : more ≠ [] := fun heq => hfound (h.nil_iff.2 heq)
    simp [hfound, hmore]

/-- Whether a tree handles an alert wherever another one does, with the same in force. -/
structure HandlesMore (labels : Labels) (r r' : Route) : Prop where
  /-- An alert that the first tree lets go on may go on after the second too. -/
  letsGoOn : r.letsGoOn = true → r'.letsGoOn = true
  /-- The second tree can be asked about the alert if the first can. -/
  answers : r.Answers labels → r'.Answers labels
  /-- What the second tree finds extends what the first finds. -/
  extends_found : ∀ {above? place found more}, r.handlingBelow labels above? place = .ok found →
    r'.handlingBelow labels above? place = .ok more → Extends found more

variable {labels : Labels} {rs rs' : List Route}

/-- **The step from tree to tree**: a tree that keeps an alert keeps it from those behind, and if it
lets it go on instead, more handlers may come behind those that were found. -/
theorem extends_among (h : List.Forall₂ (HandlesMore labels) rs rs') {above : Handler}
    {index : Nat} (hfound : handlingAmong labels above index rs = .ok found)
    (hmore : handlingAmong labels above index rs' = .ok more) : Extends found more := by
  induction h generalizing index found more with
  | nil =>
    cases hfound
    cases hmore
    exact ⟨.refl [], Iff.rfl⟩
  | @cons r r' rs rs' hr _ ih =>
    obtain ⟨first, hfirst, hfound⟩ := bind_eq_ok.1 hfound
    obtain ⟨first', hfirst', hmore⟩ := bind_eq_ok.1 hmore
    have hextends := hr.extends_found hfirst hfirst'
    split at hfound
    · next hkept =>
      cases hfound
      have hne : found ≠ [] := by
        rintro rfl
        cases hkept
      split at hmore
      · cases hmore
        exact hextends
      · obtain ⟨others, -, hmore⟩ := bind_eq_ok.1 hmore
        cases hmore
        exact hextends.append_right hne others
    · next hfree =>
      obtain ⟨rest, hrest, hfound⟩ := bind_eq_ok.1 hfound
      cases hfound
      split at hmore
      · next hkept =>
        -- The first tree took the alert too and let it go on, so the second one does.
        rw [Bool.and_eq_true, Bool.not_eq_true', Bool.not_eq_true'] at hkept
        obtain ⟨hsome, hkeeps⟩ := hkept
        have hne : first ≠ [] := fun hnone => by simp [hextends.nil_iff.1 hnone] at hsome
        have hgoesOn : r.letsGoOn = true := by simpa [hne] using hfree
        rw [hr.letsGoOn hgoesOn] at hkeeps
        cases hkeeps
      · obtain ⟨others, hothers, hmore⟩ := bind_eq_ok.1 hmore
        cases hmore
        exact hextends.append (ih hrest hothers)

theorem forall_answers (h : List.Forall₂ (HandlesMore labels) rs rs')
    (hrs : ∀ r ∈ rs, r.Answers labels) : ∀ r ∈ rs', r.Answers labels := by
  induction h with
  | nil => exact hrs
  | cons hr _ ih =>
    rw [List.forall_mem_cons] at hrs ⊢
    exact ⟨hr.answers hrs.1, ih hrs.2⟩

/-- **The step from the routes right below to the route.** -/
theorem handlesMore_node {own : RouteSettings} {matchers : List MatcherSlot} {goesOn goesOn' : Bool}
    (hgoesOn : goesOn = true → goesOn' = true) (h : List.Forall₂ (HandlesMore labels) rs rs') :
    HandlesMore labels (.node own matchers goesOn rs) (.node own matchers goesOn' rs') where
  letsGoOn := hgoesOn
  answers := by
    rintro ⟨hholds, hown, hchildren⟩
    exact .node hholds hown (forall_answers h hchildren)
  extends_found {above? place found more} hfound hmore := by
    obtain ⟨takes, htakes, hfound⟩ := bind_eq_ok.1 hfound
    obtain ⟨takes', htakes', hmore⟩ := bind_eq_ok.1 hmore
    cases htakes.symm.trans htakes'
    cases takes with
    | false =>
      cases hfound
      cases hmore
      exact ⟨.refl [], Iff.rfl⟩
    | true =>
      obtain ⟨here, hhere, hfound⟩ := bind_eq_ok.1 hfound
      obtain ⟨here', hhere', hmore⟩ := bind_eq_ok.1 hmore
      cases hhere.symm.trans hhere'
      obtain ⟨below, hbelow, hfound⟩ := bind_eq_ok.1 hfound
      obtain ⟨below', hbelow', hmore⟩ := bind_eq_ok.1 hmore
      have hextends := extends_among h hbelow hbelow'
      cases hfound
      cases hmore
      -- The route handles the alert itself in both trees, or in neither.
      by_cases hnone : below = []
      · rw [hnone, hextends.nil_iff.1 hnone]
        exact ⟨.refl [here], Iff.rfl⟩
      · have hnone' : below' ≠ [] := fun heq => hnone (hextends.nil_iff.2 heq)
        simpa [hnone, hnone'] using hextends

/-- A tree in which chosen routes let alerts go on handles an alert wherever the tree does. -/
theorem handlesMore_lettingGoOn {v : Value} (hv : v.fits (.entity .route) = true) (labels : Labels)
    (chosen : List Nat → Bool) : HandlesMore labels (ofValue v) (ofValue (v.lettingGoOn chosen)) := by
  revert chosen
  refine Value.induct_route ?_ hv
  intro v hv ih chosen
  rw [ofValue_lettingGoOn hv, ofValue_of_fits hv]
  refine handlesMore_node (fun h => by rw [h, Bool.or_true]) ?_
  rw [List.forall₂_map_left_iff, List.forall₂_map_right_iff]
  exact Value.forall₂_lettingAllGoOn ih 0

/-- **If further routes let alerts go on, an alert is handled at further places** and at all those at
which it was handled, in the same order and with the same receiver, groups and times in force. Where
it was handled nowhere, it still is not. -/
theorem handling_lettingGoOn {v alert : Value} (hv : v.fits (.entity .route) = true)
    (hvalid : v.hasValidPatterns = true) (halert : alert.fits (.mapOf .text) = true)
    (chosen : List Nat → Bool) :
    let labels := Labels.ofValue alert
    (v.lettingGoOn chosen).fits (.entity .route) = true ∧
      ∃ found more, (ofValue v).handling labels = .ok found ∧
        (ofValue (v.lettingGoOn chosen)).handling labels = .ok more ∧
        found.Sublist more ∧ (found = [] ↔ more = []) := by
  intro labels
  have hmore := handlesMore_lettingGoOn hv labels chosen
  have hanswers := answers_ofValue hv hvalid (Labels.isTextual_ofValue halert)
  obtain ⟨found, hfound, -⟩ := found_of_answers hanswers none []
  obtain ⟨more, hmore', -⟩ := found_of_answers (hmore.answers hanswers) none []
  have hextends := hmore.extends_found hfound hmore'
  exact ⟨Value.fits_lettingGoOn hv chosen, found, more, hfound, hmore', hextends.sublist,
    hextends.nil_iff⟩

/-- Of two routes that take an alert the first lets it go on, and then the second takes it too. -/
theorem handling_lettingGoOn_twoTeams :
    let team (name : String) := Value.build .route [("receiver", .text name),
      ("matchers", .list [.matcher ⟨"job", .regex, "web.*"⟩])]
    let v := Value.build .route [("receiver", .text "all"),
      ("routes", .list [team "one", team "two"])]
    let alert := Value.record [("job", .text "web-1")]
    v.fits (.entity .route) = true ∧ v.hasValidPatterns = true ∧ alert.fits (.mapOf .text) = true ∧
      ∃ found more, (ofValue v).handling (Labels.ofValue alert) = .ok found ∧
        (ofValue (v.lettingGoOn (· == [0]))).handling (Labels.ofValue alert) = .ok more ∧
        found.map (·.path) = [[0]] ∧ more.map (·.path) = [[0], [1]] ∧ found.Sublist more := by
  intro team v alert
  have hv : v.fits (.entity .route) = true := by decide
  have hvalid : v.hasValidPatterns = true := by decide
  have halert : alert.fits (.mapOf .text) = true := by decide
  obtain ⟨-, found, more, hfound, hmore, hsublist, -⟩ :=
    handling_lettingGoOn hv hvalid halert (· == [0])
  have hplaces : (((ofValue v).handling (Labels.ofValue alert)).map (·.map (·.path))).toOption =
      some [[0]] := by decide +kernel
  have hplaces' : (((ofValue (v.lettingGoOn (· == [0]))).handling (Labels.ofValue alert)).map
      (·.map (·.path))).toOption = some [[0], [1]] := by decide +kernel
  rw [hfound] at hplaces
  rw [hmore] at hplaces'
  exact ⟨hv, hvalid, halert, found, more, hfound, hmore, Option.some.inj hplaces,
    Option.some.inj hplaces', hsublist⟩

end Route

end MonitoringConfig
