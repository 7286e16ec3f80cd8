import MonitoringConfig.Proofs.Routing.Tree
/-!
# Where an alert is handled

The routes that handle an alert, said of their places in the tree rather than by the way in which
they are found.

* `Route.Handles` : an alert is handled at a place if every route on the way takes it, no earlier
  sibling on the way keeps it for itself, and no route below takes it.
* `Route.Answers` : the trees that can be asked about an alert without a failure.
* `Route.found_of_answers` : the routes that are found are those at which the alert is handled, in
  the order in which the tree is walked.
-/

namespace MonitoringConfig

/-- Whether all that a route says about notification by groups and times are lists. -/
structure RouteSettings.IsRegular (s : RouteSettings) : Prop where
  groupBy : ∃ items, s.groupBy.items = .ok items
  muted : ∃ items, s.muted.items = .ok items
  active : ∃ items, s.active.items = .ok items

theorem RouteSettings.resolve_path {s : RouteSettings} (h : s.IsRegular) (above? : Option Handler)
    (path : List Nat) : ∃ here, s.resolve above? path = .ok here ∧ here.path = path := by
  obtain ⟨groupBy, hgroupBy⟩ := h.groupBy
  obtain ⟨muted, hmuted⟩ := h.muted
  obtain ⟨active, hactive⟩ := h.active
  simp only [resolve, hgroupBy, hmuted, hactive]
  split <;> exact ⟨_, rfl, rfl⟩

namespace Route

/-! ### Handling, said of places -/

/-- Whether the matchers of a route hold of an alert. -/
def accepts (labels : Labels) : Route → Bool
  | node _ matchers _ _ =>
    match holdAll labels matchers with
    | .ok holds => holds
    | .error _ => false
  | broken _ => false

/-- Whether a route takes an alert and does not let it go on to its siblings. -/
def keeps (labels : Labels) (r : Route) : Bool :=
  r.accepts labels && !r.letsGoOn

/-- Whether an alert is handled at a place of a tree. -/
structure Handles (labels : Labels) (r : Route) (path : List Nat) : Prop where
  /-- Every route on the way takes the alert. -/
  taken : ∀ p, p <+: path → ∃ n, r.at? p = some n ∧ n.accepts labels = true
  /-- No earlier sibling on the way keeps the alert. -/
  free : ∀ p i, p ++ [i] <+: path → ∀ j < i, ∀ n, r.at? (p ++ [j]) = some n →
    n.keeps labels = false
  /-- No route right below takes the alert. -/
  last : ∀ i n, r.at? (path ++ [i]) = some n → n.accepts labels = false

variable {labels : Labels} {r : Route}

theorem Handles.accepts {path : List Nat} (h : r.Handles labels path) :
    r.accepts labels = true := by
  obtain ⟨n, hn, htaken⟩ := h.taken [] List.nil_prefix
  cases hn
  exact htaken

theorem handles_nil : r.Handles labels [] ↔
    r.accepts labels = true ∧ ∀ child ∈ r.children, child.accepts labels = false := by
  constructor
  · intro h
    refine ⟨h.accepts, fun child hchild => ?_⟩
    obtain ⟨i, hi⟩ := List.mem_iff_getElem?.1 hchild
    exact h.last i child (by rw [List.nil_append, at_cons hi, at_nil])
  · rintro ⟨htaken, hchildren⟩
    refine ⟨fun p hp => ?_, fun p i hp => ?_, fun i n hn => ?_⟩
    · obtain rfl := List.prefix_nil.1 hp
      exact ⟨r, rfl, htaken⟩
    · simp at hp
    · obtain ⟨child, hchild, hat⟩ := at_cons_eq_some hn
      cases hat
      exact hchildren n (List.mem_of_getElem? hchild)

theorem handles_cons {i : Nat} {path : List Nat} : r.Handles labels (i :: path) ↔
    r.accepts labels = true ∧ ∃ child, r.children[i]? = some child ∧
      (∀ j < i, ∀ sibling, r.children[j]? = some sibling → sibling.keeps labels = false) ∧
      child.Handles labels path := by
  constructor
  · intro h
    obtain ⟨n, hn, -⟩ := h.taken (i :: path) (List.prefix_refl _)
    obtain ⟨child, hchild, -⟩ := at_cons_eq_some hn
    -- What is said of the whole way holds of what is left of it below the child.
    refine ⟨h.accepts, child, hchild, fun j hj sibling hsibling => ?_, fun p hp => ?_,
      fun p k hp j hj n hn => ?_, fun k n hn => ?_⟩
    · exact h.free [] i ⟨path, rfl⟩ j hj sibling (by rw [List.nil_append, at_cons hsibling, at_nil])
    · rw [← at_cons hchild]
      exact h.taken (i :: p) (List.cons_prefix_cons.2 ⟨rfl, hp⟩)
    · exact h.free (i :: p) k (List.cons_prefix_cons.2 ⟨rfl, hp⟩) j hj n
        (by rw [List.cons_append, at_cons hchild, hn])
    · exact h.last k n (by rw [List.cons_append, at_cons hchild, hn])
  · rintro ⟨htaken, child, hchild, hfree, h⟩
    -- A front of the way is empty, or leads to the child and on from there.
    refine ⟨fun p hp => ?_, fun p k hp j hj n hn => ?_, fun k n hn => ?_⟩
    · cases p with
      | nil => exact ⟨r, rfl, htaken⟩
      | cons k p =>
        obtain ⟨rfl, hpath⟩ := List.cons_prefix_cons.1 hp
        rw [at_cons hchild]
        exact h.taken p hpath
    · cases p with
      | nil =>
        obtain ⟨rfl, -⟩ := List.cons_prefix_cons.1 hp
        obtain ⟨sibling, hsibling, hat⟩ := at_cons_eq_some hn
        cases hat
        exact hfree j hj n hsibling
      | cons k' p =>
        obtain ⟨rfl, hpath⟩ := List.cons_prefix_cons.1 hp
        rw [List.cons_append, at_cons hchild] at hn
        exact h.free p k hpath j hj n hn
    · rw [List.cons_append, at_cons hchild] at hn
      exact h.last k n hn

/-! ### Trees that answer -/

/-- The trees that can be asked about an alert without a failure. -/
inductive Answers (labels : Labels) : Route → Prop
  | node {own : RouteSettings} {matchers : List MatcherSlot} {goesOn : Bool}
      {children : List Route} {holds : Bool} (hholds : holdAll labels matchers = .ok holds)
      (hown : own.IsRegular) (hchildren : ∀ r ∈ children, Answers labels r) :
      Answers labels (.node own matchers goesOn children)

/-- What is said of the routes that were found in a tree at a place: they stand where the alert is
handled, in the order of the places, and there are some if the root of the tree takes the alert. -/
structure Found (labels : Labels) (r : Route) (path : List Nat) (found : List Handler) : Prop where
  mem : ∀ q, q ∈ found.map (·.path) ↔ ∃ rest, q = path ++ rest ∧ r.Handles labels rest
  sublist : (found.map (·.path)).Sublist (r.places.map (path ++ ·))
  isEmpty : found.isEmpty = !r.accepts labels

/-- What is said of the routes that were found among trees, of which the first has the given
number. -/
structure FoundAmong (labels : Labels) (rs : List Route) (path : List Nat) (index : Nat)
    (found : List Handler) : Prop where
  mem : ∀ q, q ∈ found.map (·.path) ↔ ∃ i r rest, rs[i]? = some r ∧
    (∀ j < i, ∀ sibling, rs[j]? = some sibling → sibling.keeps labels = false) ∧
    r.Handles labels rest ∧ q = path ++ (index + i) :: rest
  sublist : (found.map (·.path)).Sublist ((placesAmong index rs).map (path ++ ·))
  isEmpty : found.isEmpty = rs.all fun r => !r.accepts labels

theorem places_append (index : Nat) (path : List Nat) (r : Route) :
    r.places.map ((path ++ [index]) ++ ·) = (r.places.map (index :: ·)).map (path ++ ·) := by
  simp [Function.comp_def]

/-- Nothing is found behind a tree that keeps the alert. -/
theorem foundAmong_of_keeps {rs : List Route} {path : List Nat} {index : Nat}
    {found : List Handler} (hkeeps : r.keeps labels = true)
    (h : r.Found labels (path ++ [index]) found) :
    FoundAmong labels (r :: rs) path index found where
  mem := fun q => by
    rw [h.mem]
    constructor
    · rintro ⟨rest, rfl, hrest⟩
      exact ⟨0, r, rest, rfl, fun j hj => absurd hj (Nat.not_lt_zero j), hrest, by simp⟩
    · rintro ⟨i, r', rest, hr', hfree, hrest, rfl⟩
      cases i with
      | zero =>
        obtain rfl : r = r' := by simpa using hr'
        exact ⟨rest, by simp, hrest⟩
      | succ i =>
        rw [hfree 0 (Nat.succ_pos i) r rfl] at hkeeps
        cases hkeeps
  sublist := by
    rw [placesAmong, List.map_append, ← places_append]
    exact h.sublist.trans (List.sublist_append_left _ _)
  isEmpty := by
    rw [h.isEmpty, List.all_cons]
    simp [(Bool.and_eq_true_iff.1 hkeeps).1]

/-- Behind a tree that does not keep the alert, it is handled as if that tree were not there. -/
theorem foundAmong_of_not_keeps {rs : List Route} {path : List Nat} {index : Nat}
    {found more : List Handler} (hkeeps : r.keeps labels = false)
    (h : r.Found labels (path ++ [index]) found)
    (hmore : FoundAmong labels rs path (index + 1) more) :
    FoundAmong labels (r :: rs) path index (found ++ more) where
  mem := fun q => by
    rw [List.map_append, List.mem_append, h.mem, hmore.mem]
    constructor
    · -- A tree behind has a number one greater here than among those behind.
      rintro (⟨rest, rfl, hrest⟩ | ⟨i, r', rest, hr', hfree, hrest, rfl⟩)
      · exact ⟨0, r, rest, rfl, fun j hj => absurd hj (Nat.not_lt_zero j), hrest, by simp⟩
      · refine ⟨i + 1, r', rest, hr', fun j hj sibling hsibling => ?_, hrest, by
          rw [Nat.add_right_comm, Nat.add_assoc]⟩
        cases j with
        | zero =>
          obtain rfl : r = sibling := by simpa using hsibling
          exact hkeeps
        | succ j => exact hfree j (Nat.lt_of_succ_lt_succ hj) sibling (by simpa using hsibling)
    · rintro ⟨i, r', rest, hr', hfree, hrest, rfl⟩
      cases i with
      | zero =>
        obtain rfl : r = r' := by simpa using hr'
        exact .inl ⟨rest, by simp, hrest⟩
      | succ i =>
        refine .inr ⟨i, r', rest, by simpa using hr', fun j hj sibling hsibling => ?_, hrest, by
          rw [Nat.add_right_comm, Nat.add_assoc]⟩
        exact hfree (j + 1) (Nat.succ_lt_succ hj) sibling (by simpa using hsibling)
  sublist := by
    rw [placesAmong, List.map_append, List.map_append, ← places_append]
    exact h.sublist.append hmore.sublist
  isEmpty := by
    have happend : (found ++ more).isEmpty = (found.isEmpty && more.isEmpty) := by
      cases found <;> simp
    rw [happend, h.isEmpty, hmore.isEmpty, List.all_cons]

/-- The routes that are found among trees stand where the alert is handled, if those in each tree
do. -/
theorem foundAmong_of_found {rs : List Route} (above : Handler)
    (hrs : ∀ r ∈ rs, ∀ path, ∃ found, r.handlingBelow labels (some above) path = .ok found ∧
      r.Found labels path found) (index : Nat) :
    ∃ found, handlingAmong labels above index rs = .ok found ∧
      FoundAmong labels rs above.path index found := by
  induction rs generalizing index with
  | nil => exact ⟨[], rfl, ⟨by simp, by simp [placesAmong], rfl⟩⟩
  | cons r rs ih =>
    obtain ⟨found, hfound, hr⟩ := hrs r List.mem_cons_self (above.path ++ [index])
    obtain ⟨more, hmore, hrest⟩ := ih (fun r' hr' => hrs r' (List.mem_cons_of_mem _ hr')) (index + 1)
    have hkept : (!found.isEmpty && !r.letsGoOn) = r.keeps labels := by
      rw [hr.isEmpty, Bool.not_not, keeps]
    simp only [handlingAmong, hfound, hmore, bind, Except.bind, hkept]
    cases hkeeps : r.keeps labels with
    | true => exact ⟨found, rfl, foundAmong_of_keeps hkeeps hr⟩
    | false => exact ⟨found ++ more, rfl, foundAmong_of_not_keeps hkeeps hr hrest⟩

/-- A route that takes an alert handles it itself, unless routes below it do. -/
theorem found_node {own : RouteSettings} {matchers : List MatcherSlot} {goesOn : Bool}
    {rs : List Route} {here : Handler} {found : List Handler}
    (haccepts : (node own matchers goesOn rs).accepts labels = true)
    (h : FoundAmong labels rs here.path 0 found) :
    Found labels (node own matchers goesOn rs) here.path
      (if found.isEmpty then [here] else found) := by
  cases hempty : found.isEmpty with
  | true =>
    -- No tree below takes the alert, so the way ends here.
    have hnone : ∀ child ∈ rs, child.accepts labels = false := by
      simpa using h.isEmpty.symm.trans hempty
    refine ⟨fun q => ?_, ?_, by rw [haccepts]; rfl⟩
    · rw [if_pos rfl, List.map_singleton, List.mem_singleton]
      constructor
      · rintro rfl
        exact ⟨[], by simp, handles_nil.2 ⟨haccepts, hnone⟩⟩
      · rintro ⟨rest, rfl, hrest⟩
        cases rest with
        | nil => simp
        | cons i rest =>
          obtain ⟨-, child, hchild, -, hhandles⟩ := handles_cons.1 hrest
          have := hhandles.accepts
          rw [hnone child (List.mem_of_getElem? hchild)] at this
          cases this
    · simp [places]
  | false =>
    -- A tree below takes the alert, so no way ends here.
    have hsome : ¬∀ child ∈ rs, child.accepts labels = false := fun hnone => by
      have hall : (rs.all fun r => !r.accepts labels) = true := by simpa using hnone
      rw [← h.isEmpty, hempty] at hall
      cases hall
    refine ⟨fun q => ?_, ?_, ?_⟩
    · rw [if_neg (by decide), h.mem]
      constructor
      · rintro ⟨i, child, rest, hchild, hfree, hrest, rfl⟩
        refine ⟨i :: rest, by rw [Nat.zero_add], ?_⟩
        exact handles_cons.2 ⟨haccepts, child, hchild, hfree, hrest⟩
      · rintro ⟨rest, rfl, hrest⟩
        cases rest with
        | nil => exact absurd (handles_nil.1 hrest).2 hsome
        | cons i rest =>
          obtain ⟨-, child, hchild, hfree, hhandles⟩ := handles_cons.1 hrest
          exact ⟨i, child, rest, hchild, hfree, hhandles, by rw [Nat.zero_add]⟩
    · rw [if_neg (by decide), places, List.map_cons]
      exact h.sublist.cons _
    · rw [if_neg (by decide), hempty, haccepts]
      rfl

/-- **The routes that are found stand where the alert is handled**, in the order of the places. -/
theorem found_of_answers (h : r.Answers labels) (above? : Option Handler) (path : List Nat) :
    ∃ found, r.handlingBelow labels above? path = .ok found ∧ r.Found labels path found := by
  induction h generalizing above? path with
  | @node own matchers goesOn rs holds hholds hown hchildren ih =>
    have haccepts : (Route.node own matchers goesOn rs).accepts labels = holds := by
      rw [accepts, hholds]
    simp only [handlingBelow, hholds, bind, Except.bind]
    cases holds with
    | false =>
      refine ⟨[], rfl, fun q => ?_, by simp, by rw [haccepts]; rfl⟩
      simp only [List.map_nil, List.not_mem_nil, false_iff]
      rintro ⟨rest, -, hrest⟩
      rw [hrest.accepts] at haccepts
      cases haccepts
    | true =>
      obtain ⟨here, hhere, rfl⟩ := RouteSettings.resolve_path hown above? path
      obtain ⟨found, hfound, hall⟩ := foundAmong_of_found here
        (fun r hr path => ih r hr (some here) path) 0
      simp only [if_true, hhere, hfound]
      exact ⟨_, rfl, found_node haccepts hall⟩

end Route

end MonitoringConfig
