import MonitoringConfig.Proofs.Routing.Reference
/-!
# Settings taken over from above

What a route does not say about notification it has from the route above it, which may have it from
further above. So what is in force at a route was said by the deepest route on the way down to it
that says it.

* `Inherited.all` : the settings that are taken over. Each has its own way of not being said: an
  empty receiver, no labels to group by, or a time that is missing; a time of zero is said.
* `Inherited.IsDeepest` : what is in force is what is said deepest on a way.
* `Inherited.isDeepest_of_inForce` : that is so of every setting at the end of every way.
* `Route.handling_inherits` : **so it is of every route that handles an alert**, while the times at
  which it is muted or active are always its own.
-/

namespace MonitoringConfig

/-! ### Routes of a configuration by their places -/

theorem Value.routeAt_cons {v child : Value} {i : Nat} (h : v.fits (.entity .route) = true)
    (hchild : (v.get "routes").elements[i]? = some child) (way : List Nat) :
    v.routeAt (i :: way) = child.routeAt way := by
  have htype : Kind.route.schema.type? "routes" = _ := rfl
  have hitems : (v.field? "routes").bind items? = some (v.get "routes").elements := by
    rw [(get_fits h htype).1, Option.bind_some, (elements_fits h htype).1]
    rfl
  rw [routeAt, hitems]
  simp [hchild]

namespace Route

theorem children_ofValue {v : Value} (h : v.fits (.entity .route) = true) :
    (ofValue v).children = (v.get "routes").elements.map ofValue := by
  rw [ofValue_of_fits h, children]

/-- The route at a place is the one that stands there in the configuration. -/
theorem at_ofValue {v : Value} (h : v.fits (.entity .route) = true) {way : List Nat} {n : Route}
    (hn : (ofValue v).at? way = some n) :
    (v.routeAt way).fits (.entity .route) = true ∧ n = ofValue (v.routeAt way) := by
  induction way generalizing v with
  | nil =>
    cases hn
    exact ⟨h, rfl⟩
  | cons i way ih =>
    obtain ⟨r, hr, hat⟩ := at_cons_eq_some hn
    rw [children_ofValue h, List.getElem?_map] at hr
    obtain ⟨child, hchild, rfl⟩ := Option.map_eq_some_iff.1 hr
    obtain ⟨-, hchildren⟩ := Value.elements_fits h (rfl : Kind.route.schema.type? "routes" = _)
    rw [Value.routeAt_cons h hchild]
    exact ih (hchildren child (List.mem_of_getElem? hchild)) hat

end Route

/-! ### Settings -/

/-- A setting that a route takes over from above where it does not say it. -/
structure Inherited where
  /-- The field of routes in which the setting is said. -/
  field : String
  /-- What stands in the field of a route that does not say the setting. -/
  unset : Value
  /-- What is in force where no route says the setting. -/
  default : Value
  /-- What is in force at a route that handles an alert. -/
  inForce : Handler → Value

namespace Inherited

/-- The receiver, the labels to group by and the three times of notification. -/
def all : List Inherited := [
  ⟨"receiver", .text "", .text "", fun h => h.receiver⟩,
  ⟨"group_by", .list [], .list [], fun h => .list h.groupBy⟩,
  ⟨"group_wait", .null, .duration (.of 0 0 0 30 0), fun h => h.groupWait⟩,
  ⟨"group_interval", .null, .duration (.of 0 0 5 0 0), fun h => h.groupInterval⟩,
  ⟨"repeat_interval", .null, .duration (.of 0 4 0 0 0), fun h => h.repeatInterval⟩]

variable {s : Inherited} {v above x : Value} {way : List Nat}

/-- Whether a value of a setting is the one said deepest on a way down a tree: by a route on the way
below which none says another. Where no route on the way says one, it is the one above the tree. -/
def IsDeepest (s : Inherited) (v above : Value) (way : List Nat) (x : Value) : Prop :=
  (∃ p, p <+: way ∧ (v.routeAt p).get s.field = x ∧ x ≠ s.unset ∧
    ∀ q, q <+: way → p.length < q.length → (v.routeAt q).get s.field = s.unset) ∨
  (x = above ∧ ∀ p, p <+: way → (v.routeAt p).get s.field = s.unset)

/-- Whether a value of a setting is what a route says, or the one from above if it says none. -/
def TakesOver (s : Inherited) (v above x : Value) : Prop :=
  (v.get s.field ≠ s.unset ∧ x = v.get s.field) ∨ (v.get s.field = s.unset ∧ x = above)

theorem TakesOver.isDeepest_nil (h : s.TakesOver v above x) : s.IsDeepest v above [] x := by
  obtain ⟨hsaid, rfl⟩ | ⟨hunset, rfl⟩ := h
  · refine .inl ⟨[], List.prefix_rfl, rfl, hsaid, fun q hq hlength => ?_⟩
    rw [List.prefix_nil.1 hq] at hlength
    cases hlength
  · refine .inr ⟨rfl, fun p hp => ?_⟩
    rw [List.prefix_nil.1 hp]
    exact hunset

/-- What is said deepest on the way from a child is said deepest on the way from its parent, if what
is in force at the parent counts as the value above the child. -/
theorem TakesOver.isDeepest_cons {child here : Value} {i : Nat}
    (hroute : ∀ q, v.routeAt (i :: q) = child.routeAt q) (h : s.TakesOver v above here)
    (hdeepest : s.IsDeepest child here way x) : s.IsDeepest v above (i :: way) x := by
  rcases hdeepest with ⟨p, hp, hsaid, hset, hlast⟩ | ⟨rfl, hnone⟩
  · refine .inl ⟨i :: p, List.cons_prefix_cons.2 ⟨rfl, hp⟩, by rw [hroute, hsaid], hset, ?_⟩
    intro q hq hlength
    obtain rfl | ⟨q, rfl, hq'⟩ := List.prefix_cons_iff.1 hq
    · cases hlength
    · rw [hroute]
      exact hlast q hq' (Nat.lt_of_succ_lt_succ hlength)
  · -- Nothing is said below the parent, so all depends on what the parent says.
    obtain ⟨hsaid, rfl⟩ | ⟨hunset, rfl⟩ := h
    · refine .inl ⟨[], List.nil_prefix, rfl, hsaid, fun q hq hlength => ?_⟩
      obtain rfl | ⟨q, rfl, hq'⟩ := List.prefix_cons_iff.1 hq
      · cases hlength
      · rw [hroute]
        exact hnone q hq'
    · refine .inr ⟨rfl, fun p hp => ?_⟩
      obtain rfl | ⟨p, rfl, hp'⟩ := List.prefix_cons_iff.1 hp
      · exact hunset
      · rw [hroute]
        exact hnone p hp'

/-- A time is taken over where it is missing, and only there. -/
theorem takesOver_timing (hunset : s.unset = .null)
    (hx : x = RouteSettings.timing (v.get s.field) above) : s.TakesOver v above x := by
  rw [TakesOver, hunset, hx]
  cases v.get s.field with
  | null => exact .inr ⟨rfl, rfl⟩
  | _ => exact .inl ⟨by simp, rfl⟩

/-- **A route takes over each of the settings**, or says it itself. -/
theorem takesOver_of_resolve (hs : s ∈ all) (hv : v.fits (.entity .route) = true)
    {above? : Option Handler} {place : List Nat} {here : Handler}
    (h : (RouteSettings.ofRoute v).resolve above? place = .ok here) :
    s.TakesOver v ((above?.map s.inForce).getD s.default) (s.inForce here) := by
  have hresolves := RouteSettings.resolves h
  simp only [all, List.mem_cons, List.not_mem_nil, or_false] at hs
  rcases hs with rfl | rfl | rfl | rfl | rfl
  -- An empty receiver and an empty list of labels say nothing; a time does unless it is missing.
  · have htext := (Value.get_fits hv (rfl : Kind.route.schema.type? "receiver" = _)).2
    have htruthy := Value.isTruthy_iff_of_text htext
    have hreceiver := hresolves.receiver
    rw [RouteSettings.ofRoute] at hreceiver
    by_cases hsaid : v.get "receiver" = .text ""
    · exact .inr ⟨hsaid, hreceiver.trans (if_neg fun h => htruthy.1 h hsaid)⟩
    · exact .inl ⟨hsaid, hreceiver.trans (if_pos (htruthy.2 hsaid))⟩
  · have hlist := (Value.elements_fits hv (rfl : Kind.route.schema.type? "group_by" = _)).1
    have hgroupBy := hresolves.groupBy
    rw [RouteSettings.ofRoute, hlist] at hgroupBy
    cases hitems : (v.get "group_by").elements with
    | nil =>
      rw [hitems] at hlist hgroupBy
      have heq : (above?.map (·.groupBy)).getD [] = here.groupBy := Except.ok.inj hgroupBy
      refine .inr ⟨hlist, ?_⟩
      cases above? <;> exact congrArg Value.list heq.symm
    | cons name names =>
      rw [hitems] at hlist hgroupBy
      have heq : name :: names = here.groupBy := Except.ok.inj hgroupBy
      exact .inl ⟨by simp [hlist], (congrArg Value.list heq.symm).trans hlist.symm⟩
  · exact takesOver_timing rfl hresolves.groupWait
  · exact takesOver_timing rfl hresolves.groupInterval
  · exact takesOver_timing rfl hresolves.repeatInterval

/-- **What is in force at the end of a way is what is said deepest on it.** -/
theorem isDeepest_of_inForce (hs : s ∈ all) (hv : v.fits (.entity .route) = true)
    {above? : Option Handler} {place : List Nat} {h : Handler}
    (hway : (Route.ofValue v).inForce above? place way = .ok h) :
    s.IsDeepest v ((above?.map s.inForce).getD s.default) way (s.inForce h) := by
  induction way generalizing v above? place with
  | nil =>
    obtain ⟨own, hown, hhere⟩ := Route.inForce_nil_eq_ok hway
    rw [Route.ofValue_of_fits hv] at hown
    cases hown
    exact (takesOver_of_resolve hs hv hhere).isDeepest_nil
  | cons i way ih =>
    obtain ⟨own, here, child, hown, hhere, hchild, hrest⟩ := Route.inForce_cons_eq_ok hway
    rw [Route.children_ofValue hv, List.getElem?_map] at hchild
    obtain ⟨w, hw, rfl⟩ := Option.map_eq_some_iff.1 hchild
    rw [Route.ofValue_of_fits hv] at hown
    cases hown
    obtain ⟨-, hchildren⟩ := Value.elements_fits hv (rfl : Kind.route.schema.type? "routes" = _)
    -- For the child, what is in force at this route is what comes from above.
    have hbelow := ih (hchildren w (List.mem_of_getElem? hw)) hrest
    exact (takesOver_of_resolve hs hv hhere).isDeepest_cons (Value.routeAt_cons hv hw) hbelow

end Inherited

/-! ### Handlers -/

/-- What a handler says of a route in a tree. -/
structure Handler.Inherits (h : Handler) (v : Value) : Prop where
  /-- The handler stands at a route of the tree. -/
  isRoute : (v.routeAt h.path).fits (.entity .route) = true
  /-- What can be taken over is what the routes on the way to the handler say deepest. -/
  inherited : ∀ s ∈ Inherited.all, s.IsDeepest v s.default h.path (s.inForce h)
  /-- The times at which the route is muted are its own. -/
  muted : (v.routeAt h.path).get "mute_time_intervals" = .list h.muted
  /-- The times at which the route is active are its own. -/
  active : (v.routeAt h.path).get "active_time_intervals" = .list h.active

theorem Route.inherits_of_mem {v : Value} (hv : v.fits (.entity .route) = true) {labels : Labels}
    {found : List Handler} (hfound : (ofValue v).handling labels = .ok found) {h : Handler}
    (hh : h ∈ found) : h.Inherits v := by
  obtain ⟨way, hway⟩ := exists_way_of_mem hfound hh
  obtain ⟨n, own, hn, hown, parent?, hresolves⟩ := resolves_of_inForce hway
  obtain ⟨hroute, rfl⟩ := at_ofValue hv hn
  obtain rfl : h.path = way := hresolves.path
  rw [ofValue_of_fits hroute] at hown
  cases hown
  have htimes : ∀ {field items}, Kind.route.schema.type? field = some (.listOf .text) →
      ((v.routeAt h.path).get field).items = .ok items →
      (v.routeAt h.path).get field = .list items := by
    intro field items htype hitems
    have hlist := (Value.elements_fits hroute htype).1
    rw [Value.items_eq_elements hlist] at hitems
    cases hitems
    exact hlist
  exact ⟨hroute, fun s hs => Inherited.isDeepest_of_inForce hs hv hway,
    htimes rfl hresolves.muted, htimes rfl hresolves.active⟩

/-- **What is in force at a route that handles an alert is what was said deepest on the way down to
it**: the receiver, the labels to group by and each of the times of notification, which have their
defaults where no route on the way says them. The times at which the route is muted or active are
its own. -/
theorem Route.handling_inherits {v alert : Value} (hv : v.fits (.entity .route) = true)
    (halert : alert.fits (.mapOf .text) = true) :
    let handling := (ofValue v).handling (Labels.ofValue alert)
    (v.hasValidPatterns = true → ∃ found, handling = .ok found) ∧
      ∀ found, handling = .ok found → ∀ h ∈ found, h.Inherits v := by
  intro handling
  constructor
  · exact fun hvalid => handling_ok hv hvalid (Labels.isTextual_ofValue halert)
  · exact fun found hfound h hh => inherits_of_mem hv hfound hh

/-- A route two levels down, with a time of zero from its parent and a receiver from the root. -/
theorem Route.handling_inherits_zeroWait :
    let night := Value.build .route [("group_by", .list []),
      ("matchers", .list [.matcher ⟨"zone", .equal, ""⟩]),
      ("active_time_intervals", .list [.text "night"])]
    let web := Value.build .route [("matchers", .list [.matcher ⟨"job", .notEqual, "db"⟩]),
      ("group_wait", .duration ⟨0⟩), ("mute_time_intervals", .list [.text "weekend"]),
      ("routes", .list [night])]
    let v := Value.build .route [("receiver", .text "team"), ("group_by", .list [.text "job"]),
      ("group_wait", .duration ⟨60000000000⟩), ("routes", .list [web])]
    let alert := Value.record [("job", .text "web")]
    v.fits (.entity .route) = true ∧ alert.fits (.mapOf .text) = true ∧
      ∃ h, (ofValue v).handling (Labels.ofValue alert) = .ok [h] ∧ h.path = [0, 0] ∧
        h.groupWait.equal (.duration ⟨0⟩) = true ∧ h.receiver.equal (.text "team") = true ∧
        h.Inherits v := by
  intro night web v alert
  have hv : v.fits (.entity .route) = true := by decide
  have halert : alert.fits (.mapOf .text) = true := by decide
  have hvalid : v.hasValidPatterns = true := by decide
  obtain ⟨hok, hinherits⟩ := handling_inherits hv halert
  obtain ⟨found, hfound⟩ := hok hvalid
  have hshown : (((ofValue v).handling (Labels.ofValue alert)).map (·.map fun h =>
      (h.path, h.groupWait.equal (.duration ⟨0⟩), h.receiver.equal (.text "team")))).toOption =
      some [([0, 0], true, true)] := by decide +kernel
  rw [hfound] at hshown
  obtain ⟨h, rfl, hsaid⟩ := List.map_eq_singleton_iff.1 (Option.some.inj hshown)
  obtain ⟨hpath, hwait, hreceiver⟩ : _ ∧ _ ∧ _ := by simpa only [Prod.mk.injEq] using hsaid
  exact ⟨hv, halert, h, hfound, hpath, hwait, hreceiver,
    hinherits [h] hfound h List.mem_cons_self⟩

end MonitoringConfig
