import ForwardPass.Register.Lanes

/-!
# Shapes

The shape of one image: `height` planes of `rows` rows, each of `cols` logical lanes followed by `pad`
pad lanes. `offset` lays the planes out one behind the other, rows contiguous. `aligned` chooses the
pads so that every row starts on a vector boundary.
-/

namespace ForwardPass

/-- The fewest lanes that round `cols` up to a multiple of `alignment`; none for an alignment of
zero. -/
def alignPad (cols alignment : Nat) : Nat :=
  if alignment = 0 then 0 else (alignment - cols % alignment) % alignment

structure Shape where
  rows : Nat
  cols : Nat
  height : Nat
  pad : Nat
deriving DecidableEq, Repr, Inhabited

namespace Shape

/-- The shape whose rows are rounded up to whole vectors. -/
def aligned (rows cols height : Nat) : Shape :=
  ⟨rows, cols, height, alignPad cols vectorLanes⟩

/-- The shape of a layer that has no such operand. -/
def nothing : Shape := ⟨0, 0, 0, 0⟩

/-- Lanes of a row, pads included. -/
def rowLanes (s : Shape) : Nat := s.cols + s.pad

/-- Elements of a plane, pads included. -/
def planeSize (s : Shape) : Nat := s.rows * s.rowLanes

/-- Elements of an image, pads included. -/
def size (s : Shape) : Nat := s.height * s.planeSize

/-- Logical elements of an image. -/
def logicalSize (s : Shape) : Nat := s.height * s.rows * s.cols

/-- Where element `[chan][row][col]` lies within its image. -/
def offset (s : Shape) (chan row col : Nat) : Nat := (chan * s.rows + row) * s.rowLanes + col

/-- The same image with `border` zeros on each of its four sides. -/
def bordered (s : Shape) (border : Nat) : Shape :=
  aligned (s.rows + 2 * border) (s.cols + 2 * border) s.height

/-- The offsets of the logical elements, in the order channel, row, column. -/
def logicalOffsets (s : Shape) : List Nat :=
  (List.range s.height).flatMap fun chan =>
    (List.range s.rows).flatMap fun row =>
      (List.range s.cols).map fun col => s.offset chan row col

/-- Whether the element at a flat position holds a logical value, not a pad. -/
def isLogical (s : Shape) (i : Nat) : Bool := i % s.rowLanes < s.cols

/-- The shape as messages show it. -/
def describe (s : Shape) : String :=
  "Dims \x7b rows: " ++ toString s.rows ++ ", cols: " ++ toString s.cols ++ ", height: " ++
    toString s.height ++ ", align_pad: " ++ toString s.pad ++ " \x7d"

end Shape

end ForwardPass
