import MonitoringConfig.Proofs.Dashboard.Grid
import MonitoringConfig.Proofs.Dashboard.Panel
/-!
# The places in the document of a dashboard

The document of a dashboard has one flat list of panels and headers, each with a number and a place.
Here these are read back from it: they are the cells of the grid, in the order in which they were
placed, and each stands beside the panel or the row that was placed there.

* `cellOf?` : the number and the place that a document gives.
* `Drawing` : a panel or a row with its cell and the document that is written for it.
* `drawings_of_arranged` : the documents of a dashboard are those of its drawings.
* `dashboard_layout` : **the places do not overlap**, keep to the columns of the grid, and are
  numbered in the order in which they are read; the panels of a row stand between its header and the
  next one.
-/

namespace MonitoringConfig.Dashboard

open Value (record)

/-! ### Parts and their places -/

/-- The panels of a dashboard that stand above its rows, or those of a row. -/
def panelsOf (v : Value) : List Value :=
  (v.get "panels").elements

/-- The rows of a dashboard. -/
def rowsOf (v : Value) : List Value :=
  (v.get "rows").elements

/-- Whether a panel is of a size. -/
structure HasSize (p : Value) (size : Size) : Prop where
  isPanel : ∃ fields, p = .entity .panel fields
  width : p.get "width" = .int size.width
  height : p.get "height" = .int size.height

/-- The number and the place that the document of a panel or a header gives. -/
def cellOf? (doc : Value) : Option Cell :=
  match doc.valueAt? "id", doc.valueAt? "gridPos" with
  | some (.int id), some place =>
    match place.valueAt? "x", place.valueAt? "y", place.valueAt? "w", place.valueAt? "h" with
    | some (.int x), some (.int y), some (.int w), some (.int h) => some ⟨id, x, y, ⟨w, h⟩⟩
    | _, _, _, _ => none
  | _, _ => none

/-- Whether a document is what is written for a panel or a row at a place. -/
inductive Draws : Value → Cell → Value → Prop
  | panel {p : Value} {c : Cell} {doc : Placed} (hsize : HasSize p c.size)
      (hdoc : panel p = .ok doc) : Draws p c (doc (.int c.id) (.int c.x) (.int c.y))
  | header {r : Value} {c : Cell} (hrow : ∃ fields, r = .entity .row fields) (hc : c.IsHeader) :
      Draws r c (row r (.int c.id) (.int c.y))

theorem cellOf?_eq_some {doc : Value} {c : Cell} (hid : doc.valueAt? "id" = some (.int c.id))
    (hplace : doc.valueAt? "gridPos" = some (record [("h", .int c.size.height),
      ("w", .int c.size.width), ("x", .int c.x), ("y", .int c.y)])) : cellOf? doc = some c := by
  rw [cellOf?, hid, hplace]
  simp only [Value.valueAt?_record]
  rfl

/-- **The document gives the place.** -/
theorem Draws.cellOf?_eq {part doc : Value} {c : Cell} (h : Draws part c doc) :
    cellOf? doc = some c := by
  cases h with
  | panel hsize hdoc =>
    obtain ⟨_, _, -, -, hat⟩ := panel_eq_ok hdoc
    obtain ⟨hid, -, hplace⟩ := hat (.int c.id) (.int c.x) (.int c.y)
    rw [hsize.width, hsize.height] at hplace
    exact cellOf?_eq_some hid hplace
  | header hrow hc =>
    obtain ⟨hleft, hsize⟩ := hc
    refine cellOf?_eq_some ?_ ?_
    · rw [row, Value.valueAt?_record]
      rfl
    · rw [row, Value.valueAt?_record, hleft, hsize]
      rfl

theorem HasSize.unique {p : Value} {size size' : Size} (h : HasSize p size)
    (h' : HasSize p size') : size = size' := by
  have hwidth : size.width = size'.width := Value.int.inj (h.width.symm.trans h'.width)
  have hheight : size.height = size'.height := Value.int.inj (h.height.symm.trans h'.height)
  cases size
  cases size'
  simp_all

theorem Draws.isHeader {r doc : Value} {c : Cell} (h : Draws r c doc)
    (hr : ∃ fields, r = .entity .row fields) : c.IsHeader := by
  cases h with
  | header _ hc => exact hc
  | panel hsize _ =>
    obtain ⟨fields, rfl⟩ := hr
    obtain ⟨_, hpanel⟩ := hsize.isPanel
    cases hpanel

theorem Draws.hasSize {p doc : Value} {c : Cell} (h : Draws p c doc)
    (hp : ∃ fields, p = .entity .panel fields) : HasSize p c.size := by
  cases h with
  | panel hsize _ => exact hsize
  | header hr _ =>
    obtain ⟨fields, rfl⟩ := hp
    obtain ⟨_, hrow⟩ := hr
    cases hrow

/-- A panel or a row of a dashboard, its place, and what is written for it there. -/
structure Drawing where
  part : Value
  cell : Cell
  document : Value
  draws : Draws part cell document

/-! ### Drawings of what is placed -/

/-- Panels with their sizes and documents are drawn at cells of these sizes. -/
theorem exists_drawings {parts : List Value} {ps : List (Size × Placed)}
    (hparts : List.Forall₂ (fun p e => HasSize p e.1 ∧ panel p = .ok e.2) parts ps)
    {cells : List Cell} (hsizes : cells.map (·.size) = ps.map (·.1)) :
    ∃ ds : List Drawing, ds.map (·.part) = parts ∧ ds.map (·.cell) = cells ∧
      ds.map (·.document) = placed ps cells := by
  induction hparts generalizing cells with
  | nil =>
    obtain rfl := List.map_eq_nil_iff.1 hsizes
    exact ⟨[], rfl, rfl, rfl⟩
  | @cons p e parts ps hp _ ih =>
    obtain ⟨c, cells, rfl, hc, hcells⟩ := List.map_eq_cons_iff.1 hsizes
    obtain ⟨ds, hds, hcell, hdoc⟩ := ih hcells
    obtain ⟨size, doc⟩ := e
    obtain rfl : c.size = size := hc
    refine ⟨⟨p, c, doc (.int c.id) (.int c.x) (.int c.y), .panel hp.1 hp.2⟩ :: ds, ?_, ?_, ?_⟩
    · rw [List.map_cons, hds]
    · rw [List.map_cons, hcell]
    · rw [List.map_cons, hdoc]
      rfl

/-- Rows are drawn one below the other, each as its header and its panels. -/
theorem exists_rowDrawings {rows : List Value} {below : List (List (Size × Placed))}
    (hrows : List.Forall₂ (fun r ps => (∃ fields, r = .entity .row fields) ∧
      List.Forall₂ (fun p e => HasSize p e.1 ∧ panel p = .ok e.2) (panelsOf r) ps) rows below)
    {rowCells : List (Cell × List Cell)} (hheaders : ∀ r ∈ rowCells, r.1.IsHeader)
    (hsizes : (rowCells.map fun r => r.2.map (·.size)) = below.map (·.map (·.1))) :
    ∃ ds : List (Drawing × List Drawing),
      ds.map (fun r => (r.1.part, r.2.map (·.part))) = rows.map (fun r => (r, panelsOf r)) ∧
      ds.map (fun r => (r.1.cell, r.2.map (·.cell))) = rowCells ∧
      (Grid.inOrder ds).map (·.document) =
        (((rows.zip below).zip rowCells).map fun ((r, ps), (header, cells)) =>
          row r (.int header.id) (.int header.y) :: placed ps cells).flatten := by
  -- The rows, what is placed of them and their cells are gone through side by side.
  induction hrows generalizing rowCells with
  | nil =>
    obtain rfl := List.map_eq_nil_iff.1 hsizes
    exact ⟨[], rfl, rfl, rfl⟩
  | @cons r ps rows below hr _ ih =>
    obtain ⟨⟨header, cells⟩, rowCells, rfl, hrow, hsizes⟩ := List.map_eq_cons_iff.1 hsizes
    obtain ⟨hheader, hheaders⟩ := List.forall_mem_cons.1 hheaders
    obtain ⟨ds, hds, hcell, hdoc⟩ := ih hheaders hsizes
    obtain ⟨panels, hpanels, hcells, hdocs⟩ := exists_drawings hr.2 hrow
    let top : Drawing := ⟨r, header, row r (.int header.id) (.int header.y), .header hr.1 hheader⟩
    refine ⟨(top, panels) :: ds, ?_, ?_, ?_⟩
    · rw [List.map_cons, List.map_cons, hds, hpanels]
    · rw [List.map_cons, hcell, hcells]
    · rw [Grid.inOrder, List.flatMap_cons, List.map_append, List.map_cons, hdocs]
      exact congrArg _ hdoc

/-! ### Documents of whole dashboards -/

/-- Whether a dashboard holds what it is declared to hold, as far as it is laid out. -/
structure IsDashboard (v : Value) : Prop where
  panels : v.get "panels" = .list (panelsOf v)
  rows : v.get "rows" = .list (rowsOf v)
  isRow : ∀ r ∈ rowsOf v, ∃ fields, r = .entity .row fields
  rowPanels : ∀ r ∈ rowsOf v, r.get "panels" = .list (panelsOf r)
  tags : v.get "tags" = .list (v.get "tags").elements
  templateVariables : v.get "template_variables" = .list (v.get "template_variables").elements
  isVariable : ∀ w ∈ (v.get "template_variables").elements,
    ∃ fields, w = .entity .templateVariable fields

/-- All panels of a dashboard. -/
def allPanels (v : Value) : List Value :=
  panelsOf v ++ (rowsOf v).flatMap panelsOf

variable {v : Value}

theorem sizeOf?_eq_ok {p : Value} {size : Size} (h : HasSize p size) : sizeOf? p = .ok size := by
  obtain ⟨fields, rfl⟩ := h.isPanel
  rw [sizeOf?, get_eq, h.width, get_eq, h.height]
  rfl

theorem exists_panels (hlist : v.get "panels" = .list (panelsOf v))
    (hsizes : ∀ p ∈ panelsOf v, ∃ size, HasSize p size)
    (hdocs : ∀ p ∈ panelsOf v, ∃ doc, panel p = .ok doc) : ∃ ps, panels v = .ok ps := by
  rw [panels, get_eq, Value.items_eq_elements hlist]
  refine exists_mapM_eq_ok fun p hp => ?_
  obtain ⟨size, hsize⟩ := hsizes p hp
  obtain ⟨doc, hdoc⟩ := hdocs p hp
  rw [sizeOf?_eq_ok hsize, hdoc]
  exact ⟨(size, doc), rfl⟩

/-- Panels are written one by one, each with its size. -/
theorem forall₂_of_panels (hlist : v.get "panels" = .list (panelsOf v))
    (hsizes : ∀ p ∈ panelsOf v, ∃ size, HasSize p size) {ps : List (Size × Placed)}
    (h : panels v = .ok ps) :
    List.Forall₂ (fun p e => HasSize p e.1 ∧ panel p = .ok e.2) (panelsOf v) ps := by
  rw [panels, get_eq, Value.items_eq_elements hlist] at h
  have hmap := List.forall₂_iff_zip.1 (mapM_eq_ok_iff.1 h)
  refine List.forall₂_iff_zip.2 ⟨hmap.1, fun {p e} hmem => ?_⟩
  obtain ⟨size, hsize⟩ := hsizes p (List.of_mem_zip hmem).1
  obtain ⟨size', hsize', hpanel⟩ := bind_eq_ok.1 (hmap.2 hmem)
  obtain rfl := Except.ok.inj ((sizeOf?_eq_ok hsize).symm.trans hsize')
  obtain ⟨doc, hdoc, hpanel⟩ := bind_eq_ok.1 hpanel
  cases hpanel
  exact ⟨hsize, hdoc⟩

/-- The rows of a dashboard are written one by one, each with its panels. -/
theorem forall₂_of_rowPanels (hv : IsDashboard v)
    (hsizes : ∀ p ∈ allPanels v, ∃ size, HasSize p size) {below : List (List (Size × Placed))}
    (h : (rowsOf v).mapM rowPanels = .ok below) :
    List.Forall₂ (fun r ps => (∃ fields, r = .entity .row fields) ∧
      List.Forall₂ (fun p e => HasSize p e.1 ∧ panel p = .ok e.2) (panelsOf r) ps)
      (rowsOf v) below := by
  have hmap := List.forall₂_iff_zip.1 (mapM_eq_ok_iff.1 h)
  refine List.forall₂_iff_zip.2 ⟨hmap.1, fun {r ps} hmem => ?_⟩
  have hr := (List.of_mem_zip hmem).1
  obtain ⟨fields, hfields⟩ := hv.isRow r hr
  have hps : panels r = .ok ps := by
    have hrow := hmap.2 hmem
    rw [hfields] at hrow ⊢
    exact hrow
  refine ⟨⟨fields, hfields⟩, forall₂_of_panels (hv.rowPanels r hr) (fun p hp => ?_) hps⟩
  exact hsizes p (List.mem_append_right _ (List.mem_flatMap.2 ⟨r, hr, hp⟩))

/-- **The documents of a dashboard are those of drawings**, whose cells are where the layout places
their sizes. -/
theorem drawings_of_arranged (hv : IsDashboard v)
    (hsizes : ∀ p ∈ allPanels v, ∃ size, HasSize p size) {items : List Value}
    (h : arranged v = .ok items) :
    ∃ (above : List Drawing) (below : List (Drawing × List Drawing)),
      above.map (·.part) = panelsOf v ∧
      below.map (fun r => (r.1.part, r.2.map (·.part))) =
        (rowsOf v).map (fun r => (r, panelsOf r)) ∧
      (above.map (·.cell), below.map fun r => (r.1.cell, r.2.map (·.cell))) =
        layout (above.map (·.cell.size)) (below.map fun r => r.2.map (·.cell.size)) ∧
      items = (above ++ Grid.inOrder below).map (·.document) := by
  rw [arranged] at h
  obtain ⟨ps, hps, h⟩ := bind_eq_ok.1 h
  obtain ⟨rows, hrows, h⟩ := bind_eq_ok.1 h
  obtain ⟨rowPs, hrowPs, h⟩ := bind_eq_ok.1 h
  obtain rfl : rowsOf v = rows := Except.ok.inj ((Value.items_eq_elements hv.rows).symm.trans hrows)
  have habove := forall₂_of_panels hv.panels
    (fun p hp => hsizes p (List.mem_append_left _ hp)) hps
  have hbelow := forall₂_of_rowPanels hv hsizes hrowPs
  -- The cells have the sizes of the panels, with which they are placed: the layout can be said of
  -- what is drawn.
  let sizes := ps.map (·.1)
  let rowSizes := rowPs.map (·.map (·.1))
  let g := (Grid.placeAll {} sizes).2
  have hcells : (layout sizes rowSizes).1.map (·.size) = sizes := Grid.size_placeAll _ _
  have hrowCells : ((layout sizes rowSizes).2.map fun r => r.2.map (·.size)) = rowSizes :=
    Grid.sizes_placeRows g rowSizes
  obtain ⟨above, hpanels, habovecells, habovedocs⟩ := exists_drawings habove hcells
  obtain ⟨below, hheaders, hbelowcells, hbelowdocs⟩ :=
    exists_rowDrawings hbelow (Grid.isHeader_placeRows g rowSizes) hrowCells
  refine ⟨above, below, hpanels, hheaders, ?_, ?_⟩
  · have hsizes : above.map (·.cell.size) = sizes := by
      rw [← hcells, ← habovecells, List.map_map]
      rfl
    have hrowSizes : (below.map fun r => r.2.map (·.cell.size)) = rowSizes := by
      rw [← hrowCells]
      show _ = (g.placeRows rowSizes).map _
      rw [← hbelowcells, List.map_map]
      simp
    rw [hsizes, hrowSizes, habovecells, hbelowcells]
    rfl
  · rw [List.map_append, habovedocs, hbelowdocs]
    exact (Except.ok.inj h).symm

/-- The parts of a dashboard are arranged if all of its panels are written. -/
theorem exists_arranged (hv : IsDashboard v) (hsizes : ∀ p ∈ allPanels v, ∃ size, HasSize p size)
    (hdocs : ∀ p ∈ allPanels v, ∃ doc, panel p = .ok doc) : ∃ items, arranged v = .ok items := by
  obtain ⟨ps, hps⟩ := exists_panels hv.panels
    (fun p hp => hsizes p (List.mem_append_left _ hp))
    (fun p hp => hdocs p (List.mem_append_left _ hp))
  obtain ⟨rowPs, hrowPs⟩ : ∃ rowPs, (rowsOf v).mapM rowPanels = .ok rowPs := by
    refine exists_mapM_eq_ok fun r hr => ?_
    have hmem : ∀ p ∈ panelsOf r, p ∈ allPanels v := fun p hp =>
      List.mem_append_right _ (List.mem_flatMap.2 ⟨r, hr, hp⟩)
    obtain ⟨ps, hps⟩ := exists_panels (hv.rowPanels r hr) (fun p hp => hsizes p (hmem p hp))
      (fun p hp => hdocs p (hmem p hp))
    obtain ⟨fields, rfl⟩ := hv.isRow r hr
    exact ⟨ps, hps⟩
  exact ⟨_, bind_eq_ok.2 ⟨ps, hps, bind_eq_ok.2 ⟨rowsOf v, Value.items_eq_elements hv.rows,
    bind_eq_ok.2 ⟨rowPs, hrowPs, rfl⟩⟩⟩⟩

/-- A dashboard is written if its parts are arranged. -/
theorem exists_dashboard (hv : IsDashboard v) {items : List Value}
    (hitems : arranged v = .ok items) : ∃ doc, dashboard v = .ok doc := by
  refine exists_bind_eq_ok.2 ⟨items, hitems, ?_⟩
  refine exists_bind_eq_ok.2 ⟨_, Value.items_eq_elements hv.tags, ?_⟩
  extract_lets given rest
  have hrest : ∀ templating, ∃ doc, rest templating = .ok doc := fun _ => ⟨_, rfl⟩
  split
  · refine exists_bind_eq_ok.2 ⟨_, Value.items_eq_elements hv.templateVariables, ?_⟩
    refine exists_bind_eq_ok.2 ((exists_mapM_eq_ok fun w hw => ?_).imp fun vars hvars =>
      ⟨hvars, hrest _⟩)
    obtain ⟨fields, rfl⟩ := hv.isVariable w hw
    exact ⟨_, rfl⟩
  · exact hrest []

theorem valueAt?_dashboard {doc : Value} (h : dashboard v = .ok doc) :
    ∃ items, arranged v = .ok items ∧ doc.valueAt? "panels" = some (.list items) := by
  rw [dashboard] at h
  obtain ⟨items, hitems, h⟩ := bind_eq_ok.1 h
  obtain ⟨tags, -, h⟩ := bind_eq_ok.1 h
  refine ⟨items, hitems, ?_⟩
  extract_lets given rest at h
  have hrest : ∀ templating, rest templating = .ok doc →
      doc.valueAt? "panels" = some (.list items) := by
    intro templating htemplating
    obtain rfl := Except.ok.inj htemplating
    rw [Value.valueAt?_record]
    rfl
  split at h
  · obtain ⟨vars, -, h⟩ := bind_eq_ok.1 h
    obtain ⟨docs, -, h⟩ := bind_eq_ok.1 h
    exact hrest _ h
  · exact hrest [] h

/-- Rows that are drawn are rows with their panels. -/
theorem parts_of_rows {rows : List Value} {below : List (Drawing × List Drawing)}
    (h : below.map (fun r => (r.1.part, r.2.map (·.part))) = rows.map fun r => (r, panelsOf r)) :
    ∀ r ∈ below, r.1.part ∈ rows ∧ r.2.map (·.part) = panelsOf r.1.part := by
  intro r hr
  have hmem : (r.1.part, r.2.map (·.part)) ∈ rows.map fun r => (r, panelsOf r) :=
    h ▸ List.mem_map_of_mem hr
  obtain ⟨row, hrow, heq⟩ := List.mem_map.1 hmem
  obtain ⟨rfl, hpanels⟩ := Prod.mk.inj heq
  exact ⟨hrow, hpanels.symm⟩

theorem Drawing.isPositive {d : Drawing}
    (hsizes : ∀ p ∈ allPanels v, ∃ size : Size, HasSize p size ∧ size.IsPositive)
    (hd : d.part ∈ allPanels v) : d.cell.size.IsPositive := by
  obtain ⟨size, hsize, hpositive⟩ := hsizes d.part hd
  rwa [(d.draws.hasSize hsize.isPanel).unique hsize]

/-- **The places in the document of a dashboard do not overlap**, whatever the sizes of its panels.
They keep to the columns of the grid, and are numbered in the order in which they are read. The
panels of a row stand between its header and the next one. -/
theorem dashboard_layout (hv : IsDashboard v)
    (hsizes : ∀ p ∈ allPanels v, ∃ size : Size, HasSize p size ∧ size.IsPositive) :
    ((∀ p ∈ allPanels v, ∃ doc, panel p = .ok doc) → ∃ doc, dashboard v = .ok doc) ∧
    ∀ doc, dashboard v = .ok doc →
      ∃ (above : List Drawing) (below : List (Drawing × List Drawing)),
        doc.valueAt? "panels" =
          some (.list ((above ++ Grid.inOrder below).map (·.document))) ∧
        above.map (·.part) = panelsOf v ∧
        below.map (fun r => (r.1.part, r.2.map (·.part))) =
          (rowsOf v).map (fun r => (r, panelsOf r)) ∧
        (∀ d ∈ above ++ Grid.inOrder below, cellOf? d.document = some d.cell) ∧
        AreLaidOut ((above ++ Grid.inOrder below).map (·.cell)) ∧
        (∀ r ∈ below, r.1.cell.IsHeader ∧ ∀ d ∈ r.2, r.1.cell.y + 1 ≤ d.cell.y) ∧
        below.Pairwise fun r next =>
          ∀ d ∈ r.2, d.cell.y + d.cell.size.height ≤ next.1.cell.y := by
  have hsize : ∀ p ∈ allPanels v, ∃ size, HasSize p size := fun p hp =>
    (hsizes p hp).imp fun _ h => h.1
  refine ⟨fun hdocs => ?_, fun doc hdoc => ?_⟩
  · obtain ⟨items, hitems⟩ := exists_arranged hv hsize hdocs
    exact exists_dashboard hv hitems
  obtain ⟨items, hitems, hpanels⟩ := valueAt?_dashboard hdoc
  obtain ⟨above, below, habove, hbelow, hcells, rfl⟩ := drawings_of_arranged hv hsize hitems
  have hpositive : ∀ d : Drawing, d.part ∈ allPanels v → d.cell.size.IsPositive :=
    fun d hd => d.isPositive hsizes hd
  have hparts := parts_of_rows hbelow
  have hheaders : ∀ r ∈ below, r.1.cell.IsHeader := fun r hr =>
    r.1.draws.isHeader (hv.isRow _ (hparts r hr).1)
  have hsizesAbove : ∀ size ∈ above.map (·.cell.size), size.IsPositive := by
    refine List.forall_mem_map.2 fun d hd => hpositive d (List.mem_append_left _ ?_)
    exact habove ▸ List.mem_map_of_mem hd
  have hsizesBelow : ∀ sizes ∈ below.map fun r => r.2.map (·.cell.size),
      ∀ size ∈ sizes, size.IsPositive := by
    refine List.forall_mem_map.2 fun r hr => List.forall_mem_map.2 fun d hd => hpositive d ?_
    obtain ⟨hrow, hpanels⟩ := hparts r hr
    refine List.mem_append_right _ (List.mem_flatMap.2 ⟨_, hrow, ?_⟩)
    exact hpanels ▸ List.mem_map_of_mem hd
  obtain ⟨g, hholds⟩ := holds_layout hsizesAbove hsizesBelow
  -- What the grid holds after the last row is all that is needed of the grid.
  rw [← hcells] at hholds
  obtain ⟨hbelowHeader, hbetween⟩ := hholds.between (List.forall_mem_map.2 hheaders)
  refine ⟨above, below, hpanels, habove, hbelow, fun d _ => d.draws.cellOf?_eq, ?_, ?_, ?_⟩
  · rw [List.map_append, Grid.map_inOrder]
    exact hholds.areLaidOut
  · intro r hr
    refine ⟨hheaders r hr, fun d hd => ?_⟩
    exact hbelowHeader _ (List.mem_map_of_mem hr) d.cell (List.mem_map_of_mem hd)
  · refine (List.pairwise_map.1 hbetween).imp fun {r next} h d hd => ?_
    exact h d.cell (List.mem_map_of_mem hd)

/-- A panel of a size, without queries. -/
def sizedPanel (width height : Int) : Value :=
  .build .panel [("title", .text "Traffic"), ("targets", .list []), ("width", .int width),
    ("height", .int height)]

/-- Panels of unequal heights side by side, one that is wider than the grid, and a row without
panels. -/
def unevenDashboard : Value :=
  .build .dashboard [("title", .text "Overview"),
    ("panels", .list [sizedPanel 12 8, sizedPanel 6 4, sizedPanel 30 2]),
    ("rows", .list [.build .row [("title", .text "Empty")],
      .build .row [("title", .text "Full"),
        ("panels", .list [sizedPanel 20 3, sizedPanel 4 5, sizedPanel 24 1])]])]

theorem hasSize_sizedPanel (size : Size) : HasSize (sizedPanel size.width size.height) size :=
  ⟨⟨_, rfl⟩, rfl, rfl⟩

theorem isDashboard_uneven : IsDashboard unevenDashboard where
  panels := rfl
  rows := rfl
  isRow := List.forall_mem_cons.2 ⟨⟨_, rfl⟩, List.forall_mem_singleton.2 ⟨_, rfl⟩⟩
  rowPanels := List.forall_mem_cons.2 ⟨rfl, List.forall_mem_singleton.2 rfl⟩
  tags := rfl
  templateVariables := rfl
  isVariable := fun _ hw => absurd hw List.not_mem_nil

/-- The sizes of its panels. -/
def unevenSizes : List Size :=
  [⟨12, 8⟩, ⟨6, 4⟩, ⟨30, 2⟩, ⟨20, 3⟩, ⟨4, 5⟩, ⟨24, 1⟩]

theorem allPanels_uneven : allPanels unevenDashboard =
    unevenSizes.map fun size => sizedPanel size.width size.height := rfl

/-- Such a dashboard is written, and its places do not overlap. -/
theorem dashboard_layout_uneven :
    IsDashboard unevenDashboard ∧
    (∀ p ∈ allPanels unevenDashboard, ∃ size : Size, HasSize p size ∧ size.IsPositive) ∧
    ∃ doc items cells, dashboard unevenDashboard = .ok doc ∧
      doc.valueAt? "panels" = some (.list items) ∧ items.map cellOf? = cells.map some ∧
      AreLaidOut cells := by
  have hsizes : ∀ p ∈ allPanels unevenDashboard,
      ∃ size : Size, HasSize p size ∧ size.IsPositive := by
    have hpositive : ∀ size ∈ unevenSizes, size.IsPositive := by decide
    rw [allPanels_uneven]
    exact List.forall_mem_map.2 fun size hsize =>
      ⟨size, hasSize_sizedPanel size, hpositive size hsize⟩
  refine ⟨isDashboard_uneven, hsizes, ?_⟩
  obtain ⟨hwritten, hlaidOut⟩ := dashboard_layout isDashboard_uneven hsizes
  obtain ⟨doc, hdoc⟩ := hwritten (by
    rw [allPanels_uneven]
    exact List.forall_mem_map.2 fun size _ => ⟨_, rfl⟩)
  obtain ⟨above, below, hpanels, -, -, hread, hcells, -, -⟩ := hlaidOut doc hdoc
  refine ⟨doc, _, _, hdoc, hpanels, ?_, hcells⟩
  rw [List.map_map, List.map_map]
  exact List.map_congr_left hread

end MonitoringConfig.Dashboard
