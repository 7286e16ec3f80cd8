/-!
# The grid of a dashboard

Panels are placed on a grid of 24 columns from left to right, and below each other where the line
is full. A row has a header of its own line, and its panels stand below that.

* `Grid.place` finds the place of the next panel.
* `layout` places all panels and rows of a dashboard and numbers them.
-/

namespace MonitoringConfig.Dashboard

/-- The number of columns. -/
def gridWidth : Int := 24

/-- How wide and how high a panel is. -/
structure Size where
  width : Int
  height : Int
  deriving DecidableEq, Repr, Inhabited

/-- A place on the grid, with its number. -/
structure Cell where
  id : Int
  x : Int
  y : Int
  size : Size
  deriving DecidableEq, Repr, Inhabited

/-- The line under way: the column and line at which the next panel fits, the height of the highest
panel of the line, and the next number. -/
structure Grid where
  nextId : Int := 1
  x : Int := 0
  y : Int := 0
  lineHeight : Int := 0
  deriving DecidableEq, Repr, Inhabited

namespace Grid

/-- The grid with the line under way ended. -/
def finishLine (g : Grid) : Grid :=
  { g with x := 0, y := if 0 < g.x then g.y + g.lineHeight else g.y, lineHeight := 0 }

/-- The place of a panel, on a new line where the line under way has no space for it. -/
def place (g : Grid) (size : Size) : Cell × Grid :=
  let g := if gridWidth < g.x + size.width then g.finishLine else g
  (⟨g.nextId, g.x, g.y, size⟩,
    { g with
      nextId := g.nextId + 1
      x := g.x + size.width
      lineHeight := max g.lineHeight size.height })

/-- The places of several panels. -/
def placeAll (g : Grid) : List Size → List Cell × Grid
  | [] => ([], g)
  | size :: sizes =>
    let (cell, g) := g.place size
    let (cells, g) := placeAll g sizes
    (cell :: cells, g)

/-- The place of the header of a row, on a line of its own. -/
def placeHeader (g : Grid) : Cell × Grid :=
  let g := g.finishLine
  (⟨g.nextId, 0, g.y, ⟨gridWidth, 1⟩⟩, { g with nextId := g.nextId + 1, y := g.y + 1 })

/-- The places of several rows, each the header with the panels below it. -/
def placeRows (g : Grid) : List (List Size) → List (Cell × List Cell)
  | [] => []
  | sizes :: rows =>
    let (header, g) := g.placeHeader
    let (cells, g) := g.placeAll sizes
    (header, cells) :: placeRows g rows

end Grid

/-- The places of the panels of a dashboard and of its rows. -/
def layout (panels : List Size) (rows : List (List Size)) :
    List Cell × List (Cell × List Cell) :=
  let (cells, g) := Grid.placeAll {} panels
  (cells, g.placeRows rows)

end MonitoringConfig.Dashboard
