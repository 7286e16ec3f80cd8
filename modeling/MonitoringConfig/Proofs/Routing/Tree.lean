import Mathlib.Data.List.Nodup
import MonitoringConfig.Routing.Route
/-!
# Places in the routing tree

A route is told from the others by its place, the numbers of the children on the way down to it.

* `Route.at?` : the route at a place.
* `Route.places` : all places of a tree, each before those below it, without repetition
  (`Route.nodup_places`).
* `Route.walk_eq_map` : they are the places of the routes in the order in which the tree is walked.
-/

namespace MonitoringConfig

namespace Route

/-! ### Trees -/

/-- The routes right below a route. -/
def children : Route → List Route
  | node _ _ _ children => children
  | broken _ => []

/-- What a route says itself about notification. -/
def own : Route → Except Failure RouteSettings
  | node own _ _ _ => .ok own
  | broken cause => .error cause

mutual

/-- Induction over the routes of a tree. -/
@[elab_as_elim]
theorem induct {P : Route → Prop}
    (node : ∀ own matchers goesOn children, (∀ r ∈ children, P r) →
      P (.node own matchers goesOn children))
    (broken : ∀ cause, P (.broken cause)) (r : Route) : P r :=
  match r with
  | .node own matchers goesOn children =>
    node own matchers goesOn children (inductList node broken children)
  | .broken cause => broken cause

theorem inductList {P : Route → Prop}
    (node : ∀ own matchers goesOn children, (∀ r ∈ children, P r) →
      P (.node own matchers goesOn children))
    (broken : ∀ cause, P (.broken cause)) : ∀ rs : List Route, ∀ r ∈ rs, P r
  | [] => fun _ h => absurd h List.not_mem_nil
  | r :: rs => List.forall_mem_cons.2 ⟨induct node broken r, inductList node broken rs⟩

end

/-! ### Places -/

/-- The route at a place. -/
def at? (r : Route) : List Nat → Option Route
  | [] => some r
  | i :: path => r.children[i]?.bind fun child => child.at? path

@[simp] theorem at_nil (r : Route) : r.at? [] = some r := rfl

theorem at_cons {r child : Route} {i : Nat} (h : r.children[i]? = some child) (path : List Nat) :
    r.at? (i :: path) = child.at? path := by
  rw [at?, h]
  rfl

theorem at_cons_eq_some {r n : Route} {i : Nat} {path : List Nat} (h : r.at? (i :: path) = some n) :
    ∃ child, r.children[i]? = some child ∧ child.at? path = some n := by
  simpa [at?, Option.bind_eq_some_iff] using h

mutual

/-- All places of a tree, each before those below it. -/
def places : Route → List (List Nat)
  | node _ _ _ children => [] :: placesAmong 0 children
  | broken _ => [[]]

/-- All places of several trees, of which the first has the given number. -/
def placesAmong (index : Nat) : List Route → List (List Nat)
  | [] => []
  | r :: rs => (places r).map (index :: ·) ++ placesAmong (index + 1) rs

end

theorem mem_placesAmong {rs : List Route} {index : Nat} {path : List Nat} :
    path ∈ placesAmong index rs ↔
      ∃ i r rest, rs[i]? = some r ∧ rest ∈ r.places ∧ path = (index + i) :: rest := by
  induction rs generalizing index with
  | nil => simp [placesAmong]
  | cons r rs ih =>
    rw [placesAmong, List.mem_append, List.mem_map, ih]
    constructor
    · rintro (⟨rest, hrest, rfl⟩ | ⟨i, r', rest, hr', hrest, rfl⟩)
      · exact ⟨0, r, rest, rfl, hrest, rfl⟩
      · exact ⟨i + 1, r', rest, hr', hrest, by rw [Nat.add_right_comm, Nat.add_assoc]⟩
    · rintro ⟨i, r', rest, hr', hrest, rfl⟩
      cases i with
      | zero =>
        obtain rfl : r = r' := by simpa using hr'
        exact .inl ⟨rest, hrest, rfl⟩
      | succ i =>
        exact .inr ⟨i, r', rest, by simpa using hr', hrest, by
          rw [Nat.add_right_comm, Nat.add_assoc]⟩

/-- The places of a tree are those at which it has a route. -/
theorem mem_places {r : Route} {path : List Nat} :
    path ∈ r.places ↔ (r.at? path).isSome = true := by
  induction r using induct generalizing path with
  | broken cause => cases path <;> simp [places, at?, children]
  | node own matchers goesOn rs ih =>
    cases path with
    | nil => simp [places]
    | cons i rest =>
      rw [places, List.mem_cons, mem_placesAmong]
      constructor
      · rintro (h | ⟨j, r, rest', hr, hrest, heq⟩)
        · cases h
        · obtain ⟨rfl, rfl⟩ := List.cons.inj heq
          rw [Nat.zero_add, at_cons (r := .node own matchers goesOn rs) hr]
          exact (ih r (List.mem_of_getElem? hr)).1 hrest
      · intro h
        obtain ⟨n, hn⟩ := Option.isSome_iff_exists.1 h
        obtain ⟨child, hchild, hat⟩ := at_cons_eq_some hn
        refine .inr ⟨i, child, rest, hchild, ?_, by rw [Nat.zero_add]⟩
        rw [ih child (List.mem_of_getElem? hchild), hat]
        rfl

theorem nodup_placesAmong {rs : List Route} (hrs : ∀ r ∈ rs, r.places.Nodup) (index : Nat) :
    (placesAmong index rs).Nodup := by
  induction rs generalizing index with
  | nil => exact List.nodup_nil
  | cons r rs ih =>
    have hfirst : (r.places.map (index :: ·)).Nodup :=
      (hrs r List.mem_cons_self).map fun _ _ h => (List.cons.inj h).2
    have hrest := ih (fun r' hr' => hrs r' (List.mem_cons_of_mem _ hr')) (index + 1)
    rw [placesAmong, List.nodup_append']
    refine ⟨hfirst, hrest, ?_⟩
    rw [List.disjoint_left]
    intro path hpath hpath'
    obtain ⟨rest, -, rfl⟩ := List.mem_map.1 hpath
    obtain ⟨i, r', rest', -, -, heq⟩ := mem_placesAmong.1 hpath'
    have := (List.cons.inj heq).1
    omega

/-- **Every place of a tree stands among its places once.** -/
theorem nodup_places (r : Route) : r.places.Nodup := by
  induction r using induct with
  | broken cause => simp [places]
  | node own matchers goesOn rs ih =>
    rw [places, List.nodup_cons]
    refine ⟨fun h => ?_, nodup_placesAmong ih 0⟩
    obtain ⟨i, r, rest, -, -, heq⟩ := mem_placesAmong.1 h
    cases heq

theorem map_placesAmong {rs : List Route}
    (hrs : ∀ r ∈ rs, (r.places.map fun path => (r.at? path).map own) = r.walk.map some)
    {index : Nat} {f : List Nat → Option (Except Failure RouteSettings)}
    (hf : ∀ i r rest, rs[i]? = some r → f ((index + i) :: rest) = (r.at? rest).map own) :
    (placesAmong index rs).map f = (walkAll rs).map some := by
  induction rs generalizing index with
  | nil => rfl
  | cons r rs ih =>
    have hfirst : ((r.places.map (index :: ·)).map f) = r.walk.map some := by
      rw [List.map_map, ← hrs r List.mem_cons_self]
      exact List.map_congr_left fun path _ => hf 0 r path rfl
    have hrest : (placesAmong (index + 1) rs).map f = (walkAll rs).map some :=
      ih (fun r' hr' => hrs r' (List.mem_cons_of_mem _ hr')) fun i r' rest hr' => by
        have := hf (i + 1) r' rest (by simpa using hr')
        rwa [← Nat.add_assoc, Nat.add_right_comm] at this
    rw [placesAmong, walkAll, List.map_append, List.map_append, hfirst, hrest]

/-- **The tree is walked in the order of its places.** -/
theorem walk_eq_map (r : Route) :
    (r.places.map fun path => (r.at? path).map own) = r.walk.map some := by
  induction r using induct with
  | broken cause => rfl
  | node own' matchers goesOn rs ih =>
    rw [places, walk, List.map_cons, List.map_cons]
    congr 1
    refine map_placesAmong ih fun i r rest hr => ?_
    rw [Nat.zero_add, at_cons (r := .node own' matchers goesOn rs) hr]

end Route

end MonitoringConfig
