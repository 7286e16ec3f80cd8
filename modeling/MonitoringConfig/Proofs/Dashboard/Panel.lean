import Mathlib.Data.List.Forall2
import Mathlib.Data.List.Nodup
import MonitoringConfig.Dashboard.Write
import MonitoringConfig.Proofs.Building
/-!
# References of queries

The queries of a panel are told apart by their references. A query that was given none has the
default one, and where there are several queries the letter of its position takes its place; but the
letter may be what another query was given.

* `panel_eq_ok` : the document of a panel, given the documents of its queries.
* `forall₂_of_targets` : these are the documents of the queries one by one, but for the references.
* `nodup_writtenRefs_iff` : **references differ just if those that were given do and no letter is
  one of these.**
* `panel_references` : so they do in the document of a panel.
-/

namespace MonitoringConfig

/-! ### Reading documents -/

namespace Value

theorem valueAt?_record (entries : List (String × Value)) (key : String) :
    (record entries).valueAt? key = entries.lookup key := by
  induction entries with
  | nil => rfl
  | cons e entries ih =>
    obtain ⟨k, v⟩ := e
    rw [List.lookup_cons, ← ih]
    by_cases h : key = k
    · simp [h, record, valueAt?, lookup?, equal]
    · have hne : (key == k) = false := beq_eq_false_iff_ne.2 h
      have hne' : (k == key) = false := beq_eq_false_iff_ne.2 (Ne.symm h)
      simp [hne, hne', record, valueAt?, lookup?, equal]

end Value

theorem lookup_replaced (entries : List (String × Value)) (name key : String) (w : Value) :
    (entries.map fun (k, v) => if k == name then (k, w) else (k, v)).lookup key =
      if key = name then (entries.lookup key).map fun _ => w else entries.lookup key := by
  induction entries with
  | nil => simp
  | cons e entries ih =>
    obtain ⟨k, v⟩ := e
    rw [List.map_cons, List.lookup_cons]
    by_cases hname : k = name
    · subst hname
      rw [beq_self_eq_true, if_pos rfl, List.lookup_cons, ih]
      by_cases hkey : key = k
      · simp [hkey]
      · simp [hkey, beq_eq_false_iff_ne.2 hkey]
    · rw [beq_eq_false_iff_ne.2 hname, if_neg Bool.false_ne_true, List.lookup_cons, ih]
      by_cases hkey : key = k
      · subst hkey
        simp [hname]
      · simp [beq_eq_false_iff_ne.2 hkey]

namespace Dashboard

open Value (record)

theorem get_eq (v : Value) (name : String) : get v name = v.get name := rfl

/-! ### Documents of queries -/

/-- Whether a query holds what it is declared to hold: its expression is a text or a tree that has
one, and its reference is a text. -/
structure IsQuery (v : Value) : Prop where
  isTarget : ∃ fields, v = .entity .target fields
  expr : (∃ s, v.get "expr" = .text s) ∨ ∃ e, v.get "expr" = .expr e ∧ e.fault? = none
  ref : ∃ s, v.get "ref_id" = .text s

/-- The reference that a query was given, or the default one. -/
def refOf (v : Value) : String :=
  (v.get "ref_id").shown

/-- The reference of a query that was given none. -/
def defaultRef : String := "A"

theorem IsQuery.ref_eq {v : Value} (hv : IsQuery v) : v.get "ref_id" = .text (refOf v) := by
  obtain ⟨s, hs⟩ := hv.ref
  rw [refOf, hs]
  rfl

/-- The document of a query by itself has the reference that the query was given. -/
theorem lookup_target {v : Value} {own : List (String × Value)} (h : target v = .ok own) :
    own.lookup "refId" = some (v.get "ref_id") := by
  rw [target] at h
  obtain ⟨expr, -, h⟩ := bind_eq_ok.1 h
  cases h
  rfl

theorem target_eq_ok {v : Value} (hv : IsQuery v) : ∃ own, target v = .ok own := by
  have hexpr : ∃ w, renderExpr (get v "expr") = .ok w := by
    rw [get_eq]
    rcases hv.expr with ⟨s, hs⟩ | ⟨e, he, hfault⟩
    · rw [hs]
      exact ⟨_, rfl⟩
    · rw [he, renderExpr, Promql.Expr.written?, hfault]
      exact ⟨_, rfl⟩
  obtain ⟨w, hw⟩ := hexpr
  rw [target, hw]
  exact ⟨_, rfl⟩

/-! ### Letters -/

/-- Whether there is a letter for a position. -/
def HasLetter (position : Nat) : Prop :=
  ('A'.toNat + position).isValidChar

instance : DecidablePred HasLetter := fun position =>
  inferInstanceAs (Decidable ('A'.toNat + position).isValidChar)

/-- The letter of a position. -/
def letterOf (position : Nat) : String :=
  String.singleton (Char.ofNat ('A'.toNat + position))

variable {position i j : Nat}

theorem letter_eq_ok_iff {id : Value} :
    letter position = .ok id ↔ HasLetter position ∧ id = .text (letterOf position) := by
  show (if HasLetter position then Except.ok (Value.text (letterOf position))
    else .error (Failure.plain .badValue)) = .ok id ↔ _
  by_cases h : HasLetter position
  · simp [h, eq_comm]
  · simp [h]

theorem toNat_charOf {n : Nat} (h : n.isValidChar) : (Char.ofNat n).toNat = n := by
  rw [Char.ofNat, dif_pos h]
  rfl

/-- **Different positions have different letters.** -/
theorem letterOf_inj (hi : HasLetter i) (hj : HasLetter j) (h : letterOf i = letterOf j) :
    i = j := by
  have hchar : Char.ofNat ('A'.toNat + i) = Char.ofNat ('A'.toNat + j) := by
    have hlist := congrArg String.toList h
    simpa [letterOf] using hlist
  have hnumber := congrArg Char.toNat hchar
  rw [toNat_charOf hi, toNat_charOf hj] at hnumber
  omega

/-! ### References of documents -/

/-- The reference that a query is written with, given its position and the number of queries. -/
def writtenRef (count position : Nat) (ref : String) : String :=
  if 1 < count ∧ ref = defaultRef then letterOf position else ref

/-- Whether there is such a reference: only a letter can be missing. -/
def HasRef (count position : Nat) (ref : String) : Prop :=
  1 < count → ref = defaultRef → HasLetter position

instance (count position : Nat) (ref : String) : Decidable (HasRef count position ref) :=
  inferInstanceAs (Decidable (1 < count → ref = defaultRef → HasLetter position))

theorem refId_eq_ok_iff {count : Nat} {ref : String} {id : Value} :
    refId count position (.text ref) = .ok id ↔
      HasRef count position ref ∧ id = .text (writtenRef count position ref) := by
  have hequal : (Value.text ref).equal (.text "A") = true ↔ ref = defaultRef := by
    simp [Value.equal, defaultRef]
  rw [refId, writtenRef, HasRef]
  simp only [Bool.and_eq_true, decide_eq_true_eq, hequal]
  by_cases h : 1 < count ∧ ref = defaultRef
  · rw [if_pos h, if_pos h, letter_eq_ok_iff]
    exact and_congr_left fun _ => ⟨fun hletter _ _ => hletter, fun hletter => hletter h.1 h.2⟩
  · rw [if_neg h, if_neg h, Except.ok.injEq, eq_comm]
    exact ⟨fun hid => ⟨fun hmany hdefault => absurd ⟨hmany, hdefault⟩ h, hid⟩, fun hid => hid.2⟩

/-- Whether a document is that of a query, but for the reference. -/
structure WritesQuery (query : Value) (ref : String) (doc : Value) : Prop where
  ref : doc.valueAt? "refId" = some (.text ref)
  rest : ∃ own, document query = .ok own ∧
    ∀ key, key ≠ "refId" → doc.valueAt? key = own.valueAt? key

variable {count first : Nat} {query : Value} {queries docs : List Value}

theorem targets_cons (hquery : IsQuery query) {own : List (String × Value)}
    (hown : target query = .ok own) :
    targets count first (query :: queries) = (do
      let id ← refId count first (.text (refOf query))
      return record (own.map fun (k, w) => if k == "refId" then (k, id) else (k, w)) ::
        (← targets count (first + 1) queries)) := by
  obtain ⟨fields, rfl⟩ := hquery.isTarget
  rw [targets, hown, get_eq, hquery.ref_eq]
  rfl

theorem writesQuery_replaced (hquery : IsQuery query) {own : List (String × Value)}
    (hown : target query = .ok own) (ref : String) :
    WritesQuery query ref
      (record (own.map fun (k, w) => if k == "refId" then (k, .text ref) else (k, w))) where
  ref := by
    rw [Value.valueAt?_record, lookup_replaced, if_pos rfl, lookup_target hown]
    rfl
  rest := by
    obtain ⟨fields, rfl⟩ := hquery.isTarget
    refine ⟨record own, by rw [document, hown]; rfl, fun key hkey => ?_⟩
    rw [Value.valueAt?_record, Value.valueAt?_record, lookup_replaced, if_neg hkey]

/-- **The documents of queries are written one by one**, as long as there are letters for them. -/
theorem exists_targets (hqueries : ∀ q ∈ queries, IsQuery q)
    (hrefs : ∀ e ∈ queries.zipIdx first, HasRef count e.2 (refOf e.1)) :
    ∃ docs, targets count first queries = .ok docs := by
  induction queries generalizing first with
  | nil => exact ⟨[], rfl⟩
  | cons query queries ih =>
    rw [List.zipIdx_cons, List.forall_mem_cons] at hrefs
    have hquery := hqueries query List.mem_cons_self
    obtain ⟨own, hown⟩ := target_eq_ok hquery
    obtain ⟨docs, hdocs⟩ := ih (fun q hq => hqueries q (List.mem_cons_of_mem _ hq)) hrefs.2
    rw [targets_cons hquery hown, refId_eq_ok_iff.2 ⟨hrefs.1, rfl⟩, hdocs]
    exact ⟨_, rfl⟩

/-- Every query has a document of its own, at its position and with its reference. -/
theorem forall₂_of_targets (hqueries : ∀ q ∈ queries, IsQuery q)
    (h : targets count first queries = .ok docs) :
    (∀ e ∈ queries.zipIdx first, HasRef count e.2 (refOf e.1)) ∧
      List.Forall₂ (fun e doc => WritesQuery e.1 (writtenRef count e.2 (refOf e.1)) doc)
        (queries.zipIdx first) docs := by
  induction queries generalizing first docs with
  | nil =>
    cases h
    exact ⟨fun e he => absurd he List.not_mem_nil, .nil⟩
  | cons query queries ih =>
    have hquery := hqueries query List.mem_cons_self
    obtain ⟨own, hown⟩ := target_eq_ok hquery
    rw [targets_cons hquery hown] at h
    obtain ⟨id, hid, h⟩ := bind_eq_ok.1 h
    obtain ⟨hletter, rfl⟩ := refId_eq_ok_iff.1 hid
    obtain ⟨docs, hdocs, h⟩ := bind_eq_ok.1 h
    cases h
    obtain ⟨hletters, hrest⟩ := ih (fun q hq => hqueries q (List.mem_cons_of_mem _ hq)) hdocs
    rw [List.zipIdx_cons]
    exact ⟨List.forall_mem_cons.2 ⟨hletter, hletters⟩,
      .cons (writesQuery_replaced hquery hown _) hrest⟩

/-! ### Documents of panels -/

/-- What stands in the document of a panel, given the documents of its queries. -/
theorem panel_eq_ok {v : Value} {doc : Placed} (h : panel v = .ok doc) :
    ∃ items docs, (v.get "targets").items = .ok items ∧ targets items.length 0 items = .ok docs ∧
      ∀ id x y, (doc id x y).valueAt? "id" = some id ∧
        (doc id x y).valueAt? "targets" = some (.list docs) ∧
        (doc id x y).valueAt? "gridPos" = some (record
          [("h", v.get "height"), ("w", v.get "width"), ("x", x), ("y", y)]) := by
  rw [panel] at h
  obtain ⟨items, hitems, h⟩ := bind_eq_ok.1 h
  obtain ⟨docs, hdocs, h⟩ := bind_eq_ok.1 h
  refine ⟨items, docs, hitems, hdocs, ?_⟩
  -- The looks of the panel come behind what is asked for here.
  extract_lets thresholds steps defaults config type rest at h
  split at h
  · cases h
  · obtain rfl := Except.ok.inj h
    intro id x y
    simp only [Value.valueAt?_record]
    exact ⟨rfl, rfl, rfl⟩

/-- Whether a panel holds what it is declared to hold, as far as its document depends on it. -/
structure IsPanel (v : Value) : Prop where
  isPanel : ∃ fields, v = .entity .panel fields
  targets : v.get "targets" = .list (v.get "targets").elements
  queries : ∀ q ∈ (v.get "targets").elements, IsQuery q
  type : ∃ s, v.get "panel_type" = .text s

theorem exists_panel {v : Value} (hv : IsPanel v) {docs : List Value}
    (hdocs : Dashboard.targets (v.get "targets").elements.length 0 (v.get "targets").elements =
      .ok docs) : ∃ doc, panel v = .ok doc := by
  obtain ⟨s, hs⟩ := hv.type
  rw [panel, get_eq, Value.items_eq_elements hv.targets, get_eq v "panel_type", hs]
  simp only [bind, Except.bind, hdocs]
  exact ⟨_, rfl⟩

/-! ### References that differ -/

/-- The references of the queries of a panel, given those that they were given. -/
def writtenRefs (refs : List String) : List String :=
  refs.mapIdx fun position ref => writtenRef refs.length position ref

/-- The references that queries were given, other than the default one. -/
def explicitRefs (refs : List String) : List String :=
  refs.filter (· ≠ defaultRef)

/-- Whether the letter that takes the place of a default reference is what another query was
given. -/
def Clash (refs : List String) : Prop :=
  ∃ e ∈ refs.zipIdx, e.1 = defaultRef ∧ letterOf e.2 ∈ explicitRefs refs

instance : DecidablePred Clash := fun refs =>
  inferInstanceAs (Decidable (∃ e ∈ refs.zipIdx,
    e.1 = defaultRef ∧ letterOf e.2 ∈ explicitRefs refs))

variable {refs : List String}

theorem clash_of_getElem? {ref : String} (hi : refs[i]? = some defaultRef)
    (hj : refs[j]? = some ref) (hexplicit : ref ≠ defaultRef) (hletter : letterOf i = ref) :
    Clash refs := by
  refine ⟨(defaultRef, i), List.mem_zipIdx_iff_getElem?.2 hi, rfl, ?_⟩
  rw [hletter]
  exact List.mem_filter.2 ⟨List.mem_of_getElem? hj, by simpa using hexplicit⟩

/-- References that were given differ just if no two positions have the same one. -/
theorem nodup_explicitRefs_iff :
    (explicitRefs refs).Nodup ↔ ∀ (i j : Nat) (ref : String), i < j → refs[i]? = some ref →
      refs[j]? = some ref → ref = defaultRef := by
  rw [explicitRefs, List.Nodup, List.pairwise_filter, List.pairwise_iff_getElem]
  constructor
  · intro h i j ref hij hi hj
    obtain ⟨hilt, rfl⟩ := List.getElem?_eq_some_iff.1 hi
    obtain ⟨hjlt, heq⟩ := List.getElem?_eq_some_iff.1 hj
    by_contra hdefault
    exact h i j hilt hjlt hij (by simpa using hdefault) (by simpa [heq] using hdefault) heq.symm
  · intro h i j hilt hjlt hij hi _ heq
    have hi' : refs[i]? = some refs[i] := List.getElem?_eq_getElem hilt
    have hj' : refs[j]? = some refs[i] := heq ▸ List.getElem?_eq_getElem hjlt
    simp [h i j _ hij hi' hj'] at hi

theorem getElem?_writtenRefs (hmany : 1 < refs.length) {ref : String}
    (h : refs[position]? = some ref) :
    (writtenRefs refs)[position]? =
      some (if ref = defaultRef then letterOf position else ref) := by
  rw [writtenRefs, List.getElem?_mapIdx, h, Option.map_some, writtenRef]
  simp only [hmany, true_and]

/-- Two queries are written with the same reference if it was given to both, or if it was given to
one and is the letter of the other. -/
theorem writtenRefs_eq_iff
    (hrefs : ∀ position ref, refs[position]? = some ref → HasRef refs.length position ref)
    {a b : String} (hne : i ≠ j) (hi : refs[i]? = some a) (hj : refs[j]? = some b) :
    (writtenRefs refs)[i]? = (writtenRefs refs)[j]? ↔
      (a ≠ defaultRef ∧ a = b) ∨ (a = defaultRef ∧ b ≠ defaultRef ∧ letterOf i = b) ∨
        (b = defaultRef ∧ a ≠ defaultRef ∧ letterOf j = a) := by
  have hilt := (List.getElem?_eq_some_iff.1 hi).1
  have hjlt := (List.getElem?_eq_some_iff.1 hj).1
  have hmany : 1 < refs.length := by omega
  rw [getElem?_writtenRefs hmany hi, getElem?_writtenRefs hmany hj, Option.some.injEq]
  by_cases hdi : a = defaultRef <;> by_cases hdj : b = defaultRef
  · -- Letters of different positions differ.
    have hletters : letterOf i ≠ letterOf j := fun h =>
      hne (letterOf_inj (hrefs i a hi hmany hdi) (hrefs j b hj hmany hdj) h)
    simp [hdi, hdj, hletters]
  · simp [hdi, hdj]
  · simp [hdi, hdj, eq_comm]
  · simp [hdi, hdj]

/-- **References differ just if those that were given do and no letter is one of these.** -/
theorem nodup_writtenRefs_iff
    (hrefs : ∀ position ref, refs[position]? = some ref → HasRef refs.length position ref) :
    (writtenRefs refs).Nodup ↔ (explicitRefs refs).Nodup ∧ ¬ Clash refs := by
  have hlength : (writtenRefs refs).length = refs.length := List.length_mapIdx
  rw [nodup_explicitRefs_iff]
  constructor
  · intro hnodup
    have hinj : ∀ {i j : Nat}, i < refs.length →
        (writtenRefs refs)[i]? = (writtenRefs refs)[j]? → i = j := fun hi =>
      (List.getElem?_inj (hlength ▸ hi) hnodup).1
    -- A reference that stands twice, and a letter that another query was given, each give two
    -- positions with the same reference.
    refine ⟨fun i j ref hij hi hj => ?_, fun ⟨⟨a, i⟩, he, hdefault, hletter⟩ => ?_⟩
    · by_contra hexplicit
      have hsame := (writtenRefs_eq_iff hrefs (by omega) hi hj).2 (.inl ⟨hexplicit, rfl⟩)
      have hposition := hinj (List.getElem?_eq_some_iff.1 hi).1 hsame
      omega
    · obtain ⟨hmem, hexplicit⟩ := List.mem_filter.1 hletter
      obtain ⟨j, hj⟩ := List.mem_iff_getElem?.1 hmem
      have hi : refs[i]? = some defaultRef := hdefault ▸ List.mem_zipIdx_iff_getElem?.1 he
      have hexplicit : letterOf i ≠ defaultRef := by simpa using hexplicit
      have hne : i ≠ j := by
        rintro rfl
        exact hexplicit (Option.some.inj (hj.symm.trans hi))
      have hsame := (writtenRefs_eq_iff hrefs hne hi hj).2 (.inr (.inl ⟨rfl, hexplicit, rfl⟩))
      exact hne (hinj (List.getElem?_eq_some_iff.1 hi).1 hsame)
  · rintro ⟨hgiven, hclash⟩
    refine List.nodup_iff_getElem?_ne_getElem?.2 fun i j hij hjlt hsame => ?_
    rw [hlength] at hjlt
    obtain ⟨a, hi⟩ : ∃ a, refs[i]? = some a := ⟨_, List.getElem?_eq_getElem (by omega)⟩
    obtain ⟨b, hj⟩ : ∃ b, refs[j]? = some b := ⟨_, List.getElem?_eq_getElem hjlt⟩
    rcases (writtenRefs_eq_iff hrefs (by omega) hi hj).1 hsame with
      ⟨hexplicit, rfl⟩ | ⟨rfl, hexplicit, rfl⟩ | ⟨rfl, hexplicit, rfl⟩
    · exact hexplicit (hgiven i j a hij hi hj)
    · exact hclash (clash_of_getElem? hi hj hexplicit rfl)
    · exact hclash (clash_of_getElem? hj hi hexplicit rfl)

/-! ### References in the document of a panel -/

/-- The queries of a panel. -/
def queriesOf (v : Value) : List Value :=
  (v.get "targets").elements

/-- The references that the queries of a panel were given, or the default one. -/
def refsOf (v : Value) : List String :=
  (queriesOf v).map refOf

theorem zip_writtenRefs (queries : List Value) :
    queries.zip (writtenRefs (queries.map refOf)) =
      queries.zipIdx.map fun e => (e.1, writtenRef queries.length e.2 (refOf e.1)) := by
  have hzip : (queries.zipIdx.map Prod.fst).zip
      (queries.zipIdx.map fun e => writtenRef queries.length e.2 (refOf e.1)) = _ := List.zip_map'
  rw [List.zipIdx_map_fst] at hzip
  rw [writtenRefs, List.mapIdx_eq_zipIdx_map, List.length_map, List.zipIdx_map, List.map_map]
  exact hzip

/-- **A panel is written query by query, in order, and a reference that a query was given is kept.**
The references differ just if those that were given do and none of them is the letter that takes the
place of a default one. -/
theorem panel_references {v : Value} (hv : IsPanel v) :
    ((∀ e ∈ (refsOf v).zipIdx, e.1 = defaultRef → HasLetter e.2) → ∃ doc, panel v = .ok doc) ∧
    ∀ doc, panel v = .ok doc → ∃ written refs,
      (∀ id x y, (doc id x y).valueAt? "targets" = some (.list written)) ∧
      refs.length = (queriesOf v).length ∧
      List.Forall₂ (fun e w => WritesQuery e.1 e.2 w) ((queriesOf v).zip refs) written ∧
      (∀ e ∈ (queriesOf v).zip refs, refOf e.1 ≠ defaultRef → e.2 = refOf e.1) ∧
      (refs.Nodup ↔ (explicitRefs (refsOf v)).Nodup ∧ ¬ Clash (refsOf v)) := by
  refine ⟨fun hletters => ?_, fun doc hdoc => ?_⟩
  · have hrefs : ∀ e ∈ (queriesOf v).zipIdx, HasRef (queriesOf v).length e.2 (refOf e.1) := by
      intro e he _ hdefault
      refine hletters (refOf e.1, e.2) ?_ hdefault
      rw [refsOf, List.zipIdx_map]
      exact List.mem_map_of_mem he
    obtain ⟨docs, hdocs⟩ := exists_targets hv.queries hrefs
    exact exists_panel hv hdocs
  · obtain ⟨items, written, hitems, hwritten, hat⟩ := panel_eq_ok hdoc
    obtain rfl : queriesOf v = items :=
      Except.ok.inj ((Value.items_eq_elements hv.targets).symm.trans hitems)
    obtain ⟨hrefs, hqueries⟩ := forall₂_of_targets hv.queries hwritten
    refine ⟨written, writtenRefs (refsOf v), fun id x y => (hat id x y).2.1, ?_, ?_, ?_, ?_⟩
    · rw [writtenRefs, List.length_mapIdx, refsOf, List.length_map]
    · rw [refsOf, zip_writtenRefs]
      exact List.forall₂_map_left_iff.2 hqueries
    · intro e he hexplicit
      rw [refsOf, zip_writtenRefs] at he
      obtain ⟨f, -, rfl⟩ := List.mem_map.1 he
      exact if_neg fun h => hexplicit h.2
    · refine nodup_writtenRefs_iff fun position ref href => ?_
      rw [refsOf, List.getElem?_map, Option.map_eq_some_iff] at href
      obtain ⟨query, hquery, rfl⟩ := href
      rw [refsOf, List.length_map]
      exact hrefs (query, position) (List.mem_zipIdx_iff_getElem?.2 hquery)

/-- A panel whose queries were given some references. -/
def panelOf (refs : List String) : Value :=
  .build .panel [("title", .text "Traffic"), ("targets", .list (refs.map fun ref =>
    .build .target [("expr", .text "up"), ("ref_id", .text ref)]))]

theorem isPanel_panelOf (refs : List String) : IsPanel (panelOf refs) where
  isPanel := ⟨_, rfl⟩
  targets := rfl
  queries := by
    intro q hq
    obtain ⟨ref, -, rfl⟩ := List.mem_map.1 hq
    exact ⟨⟨_, rfl⟩, .inl ⟨_, rfl⟩, ⟨ref, rfl⟩⟩
  type := ⟨_, rfl⟩

/-- Default references in front of one that was given and behind it. -/
theorem panel_references_mixed :
    let v := panelOf ["A", "total", "A"]
    IsPanel v ∧ ∃ doc written refs, panel v = .ok doc ∧
      (∀ id x y, (doc id x y).valueAt? "targets" = some (.list written)) ∧
      List.Forall₂ (fun e w => WritesQuery e.1 e.2 w) ((queriesOf v).zip refs) written ∧
      refs.Nodup := by
  intro v
  have hv : IsPanel v := isPanel_panelOf _
  have hexplicit : (explicitRefs (refsOf v)).Nodup := by decide
  have hclash : ¬ Clash (refsOf v) := by decide
  obtain ⟨hwritten, hdocument⟩ := panel_references hv
  obtain ⟨doc, hdoc⟩ := hwritten (by decide)
  obtain ⟨written, refs, hat, -, hqueries, -, hnodup⟩ := hdocument doc hdoc
  exact ⟨hv, doc, written, refs, hdoc, hat, hqueries, hnodup.2 ⟨hexplicit, hclash⟩⟩

/-- **Two queries of a panel can have the same reference**, although only one was given it: it is
the letter of the position of the other. -/
theorem panel_references_clash :
    let v := panelOf ["B", "A"]
    IsPanel v ∧ (explicitRefs (refsOf v)).Nodup ∧ ∃ doc written, panel v = .ok doc ∧
      (∀ id x y, (doc id x y).valueAt? "targets" = some (.list written)) ∧
      written.map (·.valueAt? "refId") = [some (.text "B"), some (.text "B")] := by
  intro v
  have hv : IsPanel v := isPanel_panelOf _
  obtain ⟨docs, hdocs⟩ : ∃ docs, targets 2 0 (queriesOf v) = .ok docs :=
    exists_targets hv.queries (by decide)
  obtain ⟨doc, hdoc⟩ := exists_panel hv hdocs
  obtain ⟨items, written, hitems, hwritten, hat⟩ := panel_eq_ok hdoc
  obtain rfl := Except.ok.inj hitems
  refine ⟨hv, by decide, doc, written, hdoc, fun id x y => (hat id x y).2.1, ?_⟩
  have hqueries := (forall₂_of_targets hv.queries hwritten).2
  cases hqueries with
  | cons hfirst hrest =>
    cases hrest with
    | cons hsecond hnone =>
      cases hnone
      rw [List.map_cons, List.map_cons, hfirst.ref, hsecond.ref]
      rfl

end Dashboard

end MonitoringConfig
