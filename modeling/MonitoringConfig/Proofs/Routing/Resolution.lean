import MonitoringConfig.Proofs.Routing.Tree
import MonitoringConfig.Proofs.Typing
/-!
# What is in force at a route

A route that handles an alert was reached on a way from the root, and what it does not say about
notification itself it has from the routes on that way.

* `Route.inForce` : what is in force at the end of a way down a tree.
* `Route.exists_way_of_mem` : what a handler says is what is in force at the end of some way. The
  alert decides which ways are taken, but not what is in force at their ends.
* `Route.resolves_of_inForce` : at the end of a way stands a route, which says a part of it.
* `Route.receiver_inForce`, `Route.times_inForce` : the receiver is one that some route names, as
  long as one is named at the top; the time intervals are those that one route names itself.
-/

namespace MonitoringConfig

namespace RouteSettings

variable {s : RouteSettings} {above? : Option Handler} {place : List Nat} {here : Handler}

/-- What is in force at a route: what it says itself, and of what it takes over that from above where
it says nothing. -/
structure Resolves (s : RouteSettings) (above? : Option Handler) (place : List Nat)
    (here : Handler) : Prop where
  path : here.path = place
  receiver : here.receiver = (if s.receiver.isTruthy then s.receiver
    else (above?.map (·.receiver)).getD (.text ""))
  groupBy : (if s.groupBy.isTruthy then s.groupBy.items
    else .ok ((above?.map (·.groupBy)).getD [])) = .ok here.groupBy
  groupWait : here.groupWait =
    timing s.groupWait ((above?.map (·.groupWait)).getD defaultWait)
  groupInterval : here.groupInterval =
    timing s.groupInterval ((above?.map (·.groupInterval)).getD defaultInterval)
  repeatInterval : here.repeatInterval =
    timing s.repeatInterval ((above?.map (·.repeatInterval)).getD defaultRepeat)
  muted : s.muted.items = .ok here.muted
  active : s.active.items = .ok here.active

theorem resolves (h : s.resolve above? place = .ok here) : s.Resolves above? place here := by
  rw [resolve] at h
  split at h
  all_goals
    next htruthy =>
      obtain ⟨groupBy, hgroupBy, h⟩ := bind_eq_ok.1 h
      obtain ⟨muted, hmuted, h⟩ := bind_eq_ok.1 h
      obtain ⟨active, hactive, h⟩ := bind_eq_ok.1 h
      cases h
      refine ⟨rfl, rfl, ?_, rfl, rfl, rfl, hmuted, hactive⟩
      rw [← hgroupBy]
      simp [htruthy, pure, Except.pure]

/-- The receiver in force at a route is the one that it names, or the one in force above it. -/
theorem receiver_resolve {P : Value → Prop} (h : s.resolve above? place = .ok here)
    (hown : s.receiver.isTruthy = true → P s.receiver)
    (habove : s.receiver.isTruthy = true ∨ ∃ above ∈ above?, P above.receiver) :
    P here.receiver := by
  rw [(resolves h).receiver]
  split
  · next htruthy => exact hown htruthy
  · next hempty =>
    obtain ⟨above, rfl, hP⟩ := habove.resolve_left hempty
    exact hP

end RouteSettings

namespace Route

variable {r : Route} {above? : Option Handler} {place way : List Nat} {h : Handler}

/-- What is in force at the end of a way down a tree, given what is in force above the tree. The way
is given by the numbers of the children. -/
def inForce (r : Route) (above? : Option Handler) (place : List Nat) :
    List Nat → Except Failure Handler
  | [] => do (← r.own).resolve above? place
  | i :: way => do
    let here ← (← r.own).resolve above? place
    match r.children[i]? with
    | some child => child.inForce (some here) (place ++ [i]) way
    | none => .error (.plain .noSuchMember)

theorem inForce_nil_eq_ok (h' : r.inForce above? place [] = .ok h) :
    ∃ own, r.own = .ok own ∧ own.resolve above? place = .ok h :=
  bind_eq_ok.1 h'

theorem inForce_cons_eq_ok {i : Nat} (h' : r.inForce above? place (i :: way) = .ok h) :
    ∃ own here child, r.own = .ok own ∧ own.resolve above? place = .ok here ∧
      r.children[i]? = some child ∧ child.inForce (some here) (place ++ [i]) way = .ok h := by
  obtain ⟨own, hown, h'⟩ := bind_eq_ok.1 h'
  obtain ⟨here, hhere, h'⟩ := bind_eq_ok.1 h'
  split at h'
  · next child hchild => exact ⟨own, here, child, hown, hhere, hchild, h'⟩
  · cases h'

/-! ### Ways to the handlers -/

/-- The handlers that are found among trees stand at the ends of ways down these trees, if those
that are found in each tree do. -/
theorem exists_way_of_mem_among {labels : Labels} {above : Handler} {rs : List Route}
    (hrs : ∀ r ∈ rs, ∀ place found, r.handlingBelow labels (some above) place = .ok found →
      ∀ h ∈ found, ∃ way, r.inForce (some above) place way = .ok h)
    {index : Nat} {found : List Handler} (hfound : handlingAmong labels above index rs = .ok found)
    (hh : h ∈ found) :
    ∃ (i : Nat) (r : Route) (way : List Nat), rs[i]? = some r ∧
      r.inForce (some above) (above.path ++ [index + i]) way = .ok h := by
  induction rs generalizing index found with
  | nil =>
    cases hfound
    cases hh
  | cons r rs ih =>
    obtain ⟨first, hfirst, hfound⟩ := bind_eq_ok.1 hfound
    have hin : h ∈ first → ∃ (i : Nat) (r' : Route) (way : List Nat), (r :: rs)[i]? = some r' ∧
        r'.inForce (some above) (above.path ++ [index + i]) way = .ok h := by
      intro hmem
      obtain ⟨way, hway⟩ := hrs r List.mem_cons_self _ first hfirst h hmem
      exact ⟨0, r, way, rfl, hway⟩
    split at hfound
    · -- The first tree keeps the alert, so the others are not looked at.
      cases hfound
      exact hin hh
    · obtain ⟨rest, hrest, hfound⟩ := bind_eq_ok.1 hfound
      cases hfound
      rcases List.mem_append.1 hh with hmem | hmem
      · exact hin hmem
      · have hbehind := fun r' hr' => hrs r' (List.mem_cons_of_mem _ hr')
        obtain ⟨i, r', way, hr', hway⟩ := ih hbehind hrest hmem
        refine ⟨i + 1, r', way, by simpa using hr', ?_⟩
        rwa [← Nat.add_assoc, Nat.add_right_comm]

/-- **What a handler says is what is in force at the end of a way down the tree.** -/
theorem exists_way_of_mem {labels : Labels} {found : List Handler}
    (hfound : r.handlingBelow labels above? place = .ok found) (hh : h ∈ found) :
    ∃ way, r.inForce above? place way = .ok h := by
  induction r using induct generalizing above? place found h with
  | broken cause => cases hfound
  | node own matchers goesOn rs ih =>
    obtain ⟨takes, -, hfound⟩ := bind_eq_ok.1 hfound
    cases takes with
    | false =>
      cases hfound
      cases hh
    | true =>
      obtain ⟨here, hhere, hfound⟩ := bind_eq_ok.1 hfound
      obtain ⟨below, hbelow, hfound⟩ := bind_eq_ok.1 hfound
      have hpath := (RouteSettings.resolves hhere).path
      cases hfound
      -- The route handles the alert itself, unless routes below it do.
      split at hh
      · obtain rfl := List.mem_singleton.1 hh
        exact ⟨[], hhere⟩
      · obtain ⟨i, child, way, hchild, hway⟩ := exists_way_of_mem_among
          (fun r hr place found hfound h hh => ih r hr hfound hh) hbelow hh
        refine ⟨i :: way, ?_⟩
        rw [Nat.zero_add, hpath] at hway
        simp only [inForce, Route.own, children, bind, Except.bind, hhere, hchild, hway]

/-! ### Receivers and times in force -/

/-- What a route at a place says is among what the routes of the tree say. -/
theorem own_mem_walk {n : Route} (hn : r.at? way = some n) : n.own ∈ r.walk := by
  have hplace : way ∈ r.places := mem_places.2 (by rw [hn]; rfl)
  have hmem := List.mem_map_of_mem (f := fun path => (r.at? path).map Route.own) hplace
  rw [walk_eq_map, hn] at hmem
  simpa using hmem

theorem walkAll_eq_flatMap (rs : List Route) : walkAll rs = rs.flatMap walk := by
  induction rs with
  | nil => rfl
  | cons r rs ih => rw [walkAll, ih, List.flatMap_cons]

theorem mem_walk_of_child {child : Route} (hchild : child ∈ r.children)
    {entry : Except Failure RouteSettings} (hentry : entry ∈ child.walk) : entry ∈ r.walk := by
  cases r with
  | node own matchers goesOn rs =>
    rw [walk, walkAll_eq_flatMap]
    exact List.mem_cons_of_mem _ (List.mem_flatMap.2 ⟨child, hchild, hentry⟩)
  | broken cause => cases hchild

/-- **The receiver in force is one that a route names**, as long as there is one to begin with: the
root names one, or one is in force above it. -/
theorem receiver_inForce {P : Value → Prop}
    (hnamed : ∀ own, .ok own ∈ r.walk → own.receiver.isTruthy = true → P own.receiver)
    (hfirst : ∀ own, r.own = .ok own →
      own.receiver.isTruthy = true ∨ ∃ above ∈ above?, P above.receiver)
    (hway : r.inForce above? place way = .ok h) : P h.receiver := by
  induction way generalizing r above? place with
  | nil =>
    obtain ⟨own, hown, hhere⟩ := inForce_nil_eq_ok hway
    exact RouteSettings.receiver_resolve hhere (hnamed own (hown ▸ own_mem_walk (at_nil r)))
      (hfirst own hown)
  | cons i way ih =>
    obtain ⟨own, here, child, hown, hhere, hchild, hrest⟩ := inForce_cons_eq_ok hway
    have hP : P here.receiver := RouteSettings.receiver_resolve hhere
      (hnamed own (hown ▸ own_mem_walk (at_nil r))) (hfirst own hown)
    -- Below the root there is always a receiver in force above, so a route need not name one.
    refine ih (fun own' hown' => ?_) (fun own' _ => .inr ⟨here, rfl, hP⟩) hrest
    exact hnamed own' (mem_walk_of_child (List.mem_of_getElem? hchild) hown')

/-- What is in force at the end of a way is what the route there says, with what is in force right
above it. -/
theorem resolves_of_inForce (hway : r.inForce above? place way = .ok h) :
    ∃ n own, r.at? way = some n ∧ n.own = .ok own ∧
      ∃ parent?, own.Resolves parent? (place ++ way) h := by
  induction way generalizing r above? place with
  | nil =>
    obtain ⟨own, hown, hhere⟩ := inForce_nil_eq_ok hway
    rw [List.append_nil]
    exact ⟨r, own, at_nil r, hown, above?, RouteSettings.resolves hhere⟩
  | cons i way ih =>
    obtain ⟨-, here, child, -, -, hchild, hrest⟩ := inForce_cons_eq_ok hway
    obtain ⟨n, own, hn, hown, hresolves⟩ := ih hrest
    rw [List.append_assoc, List.singleton_append] at hresolves
    exact ⟨n, own, (at_cons hchild way).trans hn, hown, hresolves⟩

/-- **The times in force are those that a route names itself**; they are never those of another. -/
theorem times_inForce (hway : r.inForce above? place way = .ok h) :
    ∃ own, .ok own ∈ r.walk ∧ own.muted.items = .ok h.muted ∧ own.active.items = .ok h.active := by
  obtain ⟨n, own, hn, hown, parent?, hresolves⟩ := resolves_of_inForce hway
  exact ⟨own, hown ▸ own_mem_walk hn, hresolves.muted, hresolves.active⟩

end Route

end MonitoringConfig
