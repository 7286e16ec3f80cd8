import Mathlib.Data.List.Forall2
import MonitoringConfig.Dashboard.Grid
/-!
# Cells that do not overlap

Panels of unequal heights stand side by side, so what has been placed does not end at one line. What
does hold of everything placed so far is that it ends before the next panel: it ends above the line
under way, or it stands on that line and ends at the column under way. This is preserved by each
of the ways in which the grid moves on, and it is all that the layout rests on.

* `Cell.EndsBefore` : a cell ends above another one, or on the same line to the left of it. Cells of
  which this is true have no point in common (`Cell.EndsBefore.apart`) and are read one after the
  other (`Cell.EndsBefore.readBefore`).
* `Grid.Holds` : what is true of a grid on which some cells have been placed.
* `Grid.Holds.place`, `Grid.Holds.placeHeader` : one more cell is placed.
* `holds_layout` : **all the cells of a dashboard**, whatever their sizes.
-/

namespace MonitoringConfig.Dashboard

/-! ### Cells -/

/-- Whether something takes up space. -/
def Size.IsPositive (size : Size) : Prop :=
  0 < size.width ∧ 0 < size.height

instance : DecidablePred Size.IsPositive := fun size =>
  inferInstanceAs (Decidable (0 < size.width ∧ 0 < size.height))

theorem Size.isPositive_header : Size.IsPositive ⟨gridWidth, 1⟩ := by
  decide

namespace Cell

/-- Whether a point lies in a cell. The lines and columns at which a cell ends are not its own. -/
def Covers (c : Cell) (x y : Int) : Prop :=
  c.x ≤ x ∧ x < c.x + c.size.width ∧ c.y ≤ y ∧ y < c.y + c.size.height

/-- Whether two cells have no point in common. -/
def Apart (a b : Cell) : Prop :=
  ∀ x y, ¬ (a.Covers x y ∧ b.Covers x y)

/-- Whether a cell starts before another one: on a line above it, or further left on its line. -/
def ReadBefore (a b : Cell) : Prop :=
  a.y < b.y ∨ (a.y = b.y ∧ a.x < b.x)

/-- Whether a cell has ended where a line starts. -/
def EndsAbove (c : Cell) (y : Int) : Prop :=
  c.y + c.size.height ≤ y

/-- Whether a cell ends above another one, or on the same line to the left of it. -/
def EndsBefore (a b : Cell) : Prop :=
  a.EndsAbove b.y ∨ (a.y = b.y ∧ a.x + a.size.width ≤ b.x)

/-- Whether a cell keeps to the columns of the grid, as far as it can: what is wider than the grid
starts at its left edge. -/
def KeepsToGrid (c : Cell) : Prop :=
  0 ≤ c.x ∧ (c.x = 0 ∨ c.x + c.size.width ≤ gridWidth)

variable {a b c : Cell}

theorem EndsBefore.apart (h : a.EndsBefore b) : a.Apart b := by
  rintro x y ⟨⟨-, hax, -, hay⟩, ⟨hbx, -, hby, -⟩⟩
  rcases h with h | ⟨-, h⟩
  · rw [EndsAbove] at h
    omega
  · omega

theorem EndsBefore.readBefore (ha : a.size.IsPositive) (h : a.EndsBefore b) :
    a.ReadBefore b := by
  obtain ⟨hwidth, hheight⟩ := ha
  rcases h with h | ⟨hline, h⟩
  · rw [EndsAbove] at h
    left
    omega
  · right
    exact ⟨hline, by omega⟩

theorem KeepsToGrid.within (h : c.KeepsToGrid) (hwidth : c.size.width ≤ gridWidth) :
    c.x + c.size.width ≤ gridWidth := by
  obtain ⟨-, hleft | hright⟩ := h
  · omega
  · exact hright

/-- What is not empty starts inside the grid. -/
theorem KeepsToGrid.lt_gridWidth (h : c.KeepsToGrid) (hc : c.size.IsPositive) :
    c.x < gridWidth := by
  have hgrid : (0 : Int) < gridWidth := by decide
  obtain ⟨-, hleft | hright⟩ := h
  · omega
  · have hwidth := hc.1
    omega

/-- Whether a cell is a header: one line across the whole grid. -/
def IsHeader (c : Cell) : Prop :=
  c.x = 0 ∧ c.size = ⟨gridWidth, 1⟩

/-- What stands behind a header stands below it. -/
theorem EndsBefore.below (hb : b.size.IsPositive) (hgrid : b.KeepsToGrid) (ha : a.IsHeader)
    (h : a.EndsBefore b) : a.y + 1 ≤ b.y := by
  obtain ⟨hleft, hsize⟩ := ha
  have hinside := hgrid.lt_gridWidth hb
  rcases h with h | ⟨-, h⟩
  · rwa [EndsAbove, hsize] at h
  · -- A header is as wide as the grid, and nothing starts to the right of that.
    rw [hsize, hleft] at h
    have hacross : 0 + gridWidth ≤ b.x := h
    omega

/-- What stands in front of a header stands above it. -/
theorem EndsBefore.above (ha : a.size.IsPositive) (hgrid : a.KeepsToGrid) (hb : b.IsHeader)
    (h : a.EndsBefore b) : a.y + a.size.height ≤ b.y := by
  have hwidth := ha.1
  have hleft := hgrid.1
  rcases h with h | ⟨-, h⟩
  · exact h
  · -- A header starts at the left edge, and nothing ends to the left of that.
    have hzero := hb.1
    omega

end Cell

/-! ### What has been placed -/

namespace Grid

/-- Whether a cell stands on the line under way, in front of the next panel. -/
def HasOnLine (g : Grid) (c : Cell) : Prop :=
  c.y = g.y ∧ c.x + c.size.width ≤ g.x ∧ c.size.height ≤ g.lineHeight ∧ 0 < g.x

/-- What is true of a grid on which some cells have been placed, in this order. -/
structure Holds (g : Grid) (cells : List Cell) : Prop where
  x_nonneg : 0 ≤ g.x
  lineHeight_nonneg : 0 ≤ g.lineHeight
  /-- Everything ends before the place of the next panel. -/
  behind : ∀ c ∈ cells, c.EndsAbove g.y ∨ g.HasOnLine c
  endsBefore : cells.Pairwise Cell.EndsBefore
  keepsToGrid : ∀ c ∈ cells, c.KeepsToGrid
  isPositive : ∀ c ∈ cells, c.size.IsPositive
  ids : cells.map (·.id) = (List.range cells.length).map fun i : Nat => (i : Int) + 1
  nextId : g.nextId = cells.length + 1

variable {g : Grid} {cells : List Cell} {size : Size}

theorem holds_nil : Holds {} [] where
  x_nonneg := Int.le_refl _
  lineHeight_nonneg := Int.le_refl _
  behind _ hc := absurd hc List.not_mem_nil
  endsBefore := List.Pairwise.nil
  keepsToGrid _ hc := absurd hc List.not_mem_nil
  isPositive _ hc := absurd hc List.not_mem_nil
  ids := rfl
  nextId := rfl

/-- Where a line starts, everything that has been placed is above. -/
theorem Holds.endsAbove_finishLine (h : g.Holds cells) :
    ∀ c ∈ cells, c.EndsAbove g.finishLine.y := by
  intro c hc
  have hheight := h.lineHeight_nonneg
  simp only [finishLine]
  rcases h.behind c hc with habove | ⟨hline, -, htall, hx⟩
  · rw [Cell.EndsAbove] at habove ⊢
    split <;> omega
  · rw [Cell.EndsAbove, if_pos hx]
    omega

/-- Ending the line changes nothing about what has been placed. -/
theorem Holds.finishLine (h : g.Holds cells) : g.finishLine.Holds cells :=
  { h with
    x_nonneg := Int.le_refl _
    lineHeight_nonneg := Int.le_refl _
    behind := fun c hc => .inl (h.endsAbove_finishLine c hc) }

/-- One more cell is placed: behind all others, with the next number, and in front of what the grid
goes on with. -/
theorem Holds.concat {g' : Grid} {c : Cell} (h : g.Holds cells)
    (hends : ∀ b ∈ cells, b.EndsBefore c) (hgrid : c.KeepsToGrid) (hc : c.size.IsPositive)
    (hid : c.id = g.nextId) (hnext : g'.nextId = g.nextId + 1) (hx : 0 ≤ g'.x)
    (hheight : 0 ≤ g'.lineHeight)
    (hbehind : ∀ b ∈ cells ++ [c], b.EndsAbove g'.y ∨ g'.HasOnLine b) :
    g'.Holds (cells ++ [c]) where
  x_nonneg := hx
  lineHeight_nonneg := hheight
  behind := hbehind
  endsBefore := by
    refine List.pairwise_append.2 ⟨h.endsBefore, List.pairwise_singleton _ _, ?_⟩
    intro b hb d hd
    rw [List.mem_singleton.1 hd]
    exact hends b hb
  keepsToGrid := by
    intro b hb
    rcases List.mem_append.1 hb with hb | hb
    · exact h.keepsToGrid b hb
    · rw [List.mem_singleton.1 hb]
      exact hgrid
  isPositive := by
    intro b hb
    rcases List.mem_append.1 hb with hb | hb
    · exact h.isPositive b hb
    · rw [List.mem_singleton.1 hb]
      exact hc
  ids := by
    rw [List.map_append, h.ids, List.length_append, List.length_singleton, List.range_succ,
      List.map_append, List.map_singleton, List.map_singleton, hid, h.nextId]
  nextId := by
    rw [hnext, h.nextId, List.length_append, List.length_singleton]
    omega

/-- A panel is placed where the line under way has space for it, or at the start of a line. -/
theorem Holds.placeHere (h : g.Holds cells) (hsize : size.IsPositive)
    (hspace : g.x = 0 ∨ g.x + size.width ≤ gridWidth) :
    Holds { g with
      nextId := g.nextId + 1
      x := g.x + size.width
      lineHeight := max g.lineHeight size.height }
      (cells ++ [⟨g.nextId, g.x, g.y, size⟩]) := by
  have hx := h.x_nonneg
  have hheight := h.lineHeight_nonneg
  obtain ⟨hwide, htall⟩ := hsize
  refine h.concat ?_ ⟨hx, hspace⟩ ⟨hwide, htall⟩ rfl rfl (by dsimp only; omega)
    (by dsimp only; omega) ?_
  · -- What stands on the line ends at the column under way, where the panel starts.
    intro b hb
    rcases h.behind b hb with habove | ⟨hline, hleft, -, -⟩
    · exact .inl habove
    · exact .inr ⟨hline, hleft⟩
  · intro b hb
    rcases List.mem_append.1 hb with hb | hb
    · rcases h.behind b hb with habove | ⟨hline, hleft, hlow, -⟩
      · exact .inl habove
      · refine .inr ⟨hline, ?_, ?_, ?_⟩ <;> dsimp only <;> omega
    · rw [List.mem_singleton.1 hb]
      refine .inr ⟨rfl, Int.le_refl _, ?_, ?_⟩ <;> dsimp only <;> omega

/-- **One more panel is placed.** -/
theorem Holds.place (h : g.Holds cells) (hsize : size.IsPositive) :
    (g.place size).2.Holds (cells ++ [(g.place size).1]) := by
  rw [Grid.place]
  split
  · -- The line is full. The next one is empty, so it has space for whatever comes.
    exact h.finishLine.placeHere hsize (.inl rfl)
  · next hspace => exact h.placeHere hsize (.inr (by omega))

/-- **One more header is placed**, below everything that has been placed. -/
theorem Holds.placeHeader (h : g.Holds cells) :
    g.placeHeader.2.Holds (cells ++ [g.placeHeader.1]) := by
  have habove := h.endsAbove_finishLine
  refine h.finishLine.concat (fun b hb => .inl (habove b hb)) ⟨Int.le_refl _, .inl rfl⟩
    Size.isPositive_header rfl rfl (Int.le_refl _) (Int.le_refl _) ?_
  intro b hb
  rcases List.mem_append.1 hb with hb | hb
  · left
    have hends := habove b hb
    simp only [Grid.placeHeader, Cell.EndsAbove] at hends ⊢
    omega
  · rw [List.mem_singleton.1 hb]
    exact .inl (Int.le_refl _)

/-! ### Whole dashboards -/

/-- Several panels are placed one after the other. -/
theorem Holds.placeAll {sizes : List Size} (h : g.Holds cells)
    (hsizes : ∀ size ∈ sizes, size.IsPositive) :
    (g.placeAll sizes).2.Holds (cells ++ (g.placeAll sizes).1) := by
  induction sizes generalizing g cells with
  | nil => simpa [Grid.placeAll] using h
  | cons size sizes ih =>
    have hfirst := h.place (hsizes size List.mem_cons_self)
    have hrest := ih hfirst fun s hs => hsizes s (List.mem_cons_of_mem _ hs)
    rw [List.append_assoc] at hrest
    exact hrest

/-- What belongs to rows in the order in which it is placed: each header, and then its panels. -/
def inOrder {α : Type} (rows : List (α × List α)) : List α :=
  rows.flatMap fun r => r.1 :: r.2

theorem map_inOrder {α β : Type} (f : α → β) (rows : List (α × List α)) :
    (inOrder rows).map f = inOrder (rows.map fun r => (f r.1, r.2.map f)) := by
  simp [inOrder, List.map_flatMap, List.flatMap_map]

/-- Several rows are placed one below the other. -/
theorem Holds.placeRows {rows : List (List Size)} (h : g.Holds cells)
    (hrows : ∀ sizes ∈ rows, ∀ size ∈ sizes, size.IsPositive) :
    ∃ g' : Grid, g'.Holds (cells ++ inOrder (g.placeRows rows)) := by
  induction rows generalizing g cells with
  | nil => exact ⟨g, by simpa [Grid.placeRows, inOrder] using h⟩
  | cons sizes rows ih =>
    have hrow := h.placeHeader.placeAll (hrows sizes List.mem_cons_self)
    obtain ⟨g', hrest⟩ := ih hrow fun s hs => hrows s (List.mem_cons_of_mem _ hs)
    refine ⟨g', ?_⟩
    simpa [Grid.placeRows, inOrder] using hrest

/-- Panels have the sizes that they are placed with. -/
theorem size_placeAll (g : Grid) (sizes : List Size) :
    (g.placeAll sizes).1.map (·.size) = sizes := by
  induction sizes generalizing g with
  | nil => rfl
  | cons size sizes ih =>
    rw [placeAll, List.map_cons, ih]
    rfl

theorem sizes_placeRows (g : Grid) (rows : List (List Size)) :
    ((g.placeRows rows).map fun r => r.2.map (·.size)) = rows := by
  induction rows generalizing g with
  | nil => rfl
  | cons sizes rows ih =>
    rw [placeRows, List.map_cons, ih]
    exact congrArg (· :: rows) (size_placeAll _ sizes)

/-- Every row has a header. -/
theorem isHeader_placeRows (g : Grid) (rows : List (List Size)) :
    ∀ r ∈ g.placeRows rows, r.1.IsHeader := by
  induction rows generalizing g with
  | nil => exact fun r hr => absurd hr List.not_mem_nil
  | cons sizes rows ih =>
    refine List.forall_mem_cons.2 ⟨⟨rfl, rfl⟩, ?_⟩
    exact ih _

end Grid

/-- What the places of panels and headers are like, in the order in which they are listed. -/
structure AreLaidOut (cells : List Cell) : Prop where
  apart : cells.Pairwise Cell.Apart
  inGrid : ∀ c ∈ cells, 0 ≤ c.x ∧ (c.size.width ≤ gridWidth → c.x + c.size.width ≤ gridWidth)
  inOrder : cells.Pairwise Cell.ReadBefore
  numbered : cells.map (·.id) = (List.range cells.length).map fun i : Nat => (i : Int) + 1

theorem Grid.Holds.areLaidOut {g : Grid} {cells : List Cell} (h : g.Holds cells) :
    AreLaidOut cells where
  apart := h.endsBefore.imp Cell.EndsBefore.apart
  inGrid c hc := ⟨(h.keepsToGrid c hc).1, (h.keepsToGrid c hc).within⟩
  inOrder := h.endsBefore.imp_of_mem fun ha _ hends => hends.readBefore (h.isPositive _ ha)
  numbered := h.ids

/-- **The panels of a row stand below its header and above the next one.** -/
theorem Grid.Holds.between {g : Grid} {above : List Cell} {rows : List (Cell × List Cell)}
    (h : g.Holds (above ++ Grid.inOrder rows)) (hheaders : ∀ r ∈ rows, r.1.IsHeader) :
    (∀ r ∈ rows, ∀ c ∈ r.2, r.1.y + 1 ≤ c.y) ∧
      rows.Pairwise fun r next => ∀ c ∈ r.2, c.y + c.size.height ≤ next.1.y := by
  have hmem : ∀ r ∈ rows, ∀ c ∈ r.2, c ∈ above ++ Grid.inOrder rows := fun r hr c hc =>
    List.mem_append_right _ (List.mem_flatMap.2 ⟨r, hr, List.mem_cons_of_mem _ hc⟩)
  obtain ⟨hrow, hrows⟩ := List.pairwise_flatMap.1 (List.pairwise_append.1 h.endsBefore).2.1
  constructor
  · -- Within a row, the header comes first.
    intro r hr c hc
    have hends := (List.pairwise_cons.1 (hrow r hr)).1 c hc
    have hplaced := hmem r hr c hc
    exact hends.below (h.isPositive c hplaced) (h.keepsToGrid c hplaced) (hheaders r hr)
  · -- Between rows, all that belongs to the first one comes before the header of the other.
    refine hrows.imp_of_mem fun {r next} hr hnext hends c hc => ?_
    have hplaced := hmem r hr c hc
    exact (hends c (List.mem_cons_of_mem _ hc) next.1 List.mem_cons_self).above
      (h.isPositive c hplaced) (h.keepsToGrid c hplaced) (hheaders next hnext)

/-- **All the cells of a dashboard end one before the other**, whatever their sizes. -/
theorem holds_layout {above : List Size} {below : List (List Size)}
    (habove : ∀ size ∈ above, size.IsPositive)
    (hbelow : ∀ sizes ∈ below, ∀ size ∈ sizes, size.IsPositive) :
    ∃ g : Grid, g.Holds ((layout above below).1 ++ Grid.inOrder (layout above below).2) :=
  (Grid.holds_nil.placeAll habove).placeRows hbelow

end MonitoringConfig.Dashboard
