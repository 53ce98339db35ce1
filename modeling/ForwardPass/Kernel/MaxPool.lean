import ForwardPass.Buffer

/-!
# Max pooling

Each output element is the running maximum over a square window of its channel, row by row, starting
below every number. Pad lanes of the output are zero.
-/

namespace ForwardPass.MaxPool

variable {α : Type} [Scalar α]

/-- The windows of one pooling. -/
structure Windows where
  input : Shape
  output : Shape
  fieldSize : Nat
  stride : Nat
deriving DecidableEq, Repr

/-- The maximum of the window for output `[chan][row][col]` over one image. -/
def windowMax (w : Windows) (image : Array α) (chan row col : Nat) : Except Failure α :=
  (List.range w.fieldSize).foldlM (fun best i => do
    let lanes ← Buffer.slice image
      (w.input.offset chan (row * w.stride + i) (col * w.stride)) w.fieldSize
    return lanes.foldl Scalar.larger best) Scalar.lowest

/-- The output elements of one image, as `[chan][row][col]`. -/
def Windows.positions (w : Windows) : List (Nat × Nat × Nat) :=
  (List.range w.input.height).flatMap fun chan =>
    (List.range w.output.rows).flatMap fun row =>
      (List.range w.output.cols).map fun col => (chan, row, col)

/-- The pooled image. -/
def poolImage (w : Windows) (image : Array α) : Except Failure (Array α) :=
  w.positions.foldlM (fun output (chan, row, col) => do
    let best ← windowMax w image chan row col
    Buffer.put output (w.output.offset chan row col) [best]) (Array.replicate w.output.size 0)

/-- Pool a batch of images into `result`. -/
def run (w : Windows) (images : Nat) (activations result : Array α) : Except Failure (Array α) :=
  (List.range images).foldlM (fun result image => do
    let input ← Buffer.slice activations (image * w.input.size) w.input.size
    -- Room for the whole output image is asked for before any window is reduced.
    let _ ← Buffer.slice result (image * w.output.size) w.output.size
    let output ← poolImage w input
    Buffer.put result (image * w.output.size) output.toList) result

end ForwardPass.MaxPool
