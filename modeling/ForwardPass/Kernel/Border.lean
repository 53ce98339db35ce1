import ForwardPass.Buffer

/-!
# Zero borders

Copies of a batch of images with zeros around every plane, laid out in the bordered shape.
-/

namespace ForwardPass.Border

variable {α : Type} [Scalar α]

/-- The rows of a batch of `images` images, as `[image][chan][row]`. -/
def rows (shape : Shape) (images : Nat) : List (Nat × Nat × Nat) :=
  (List.range images).flatMap fun image =>
    (List.range shape.height).flatMap fun chan =>
      (List.range shape.rows).map fun row => (image, chan, row)

/-- Copy `images` images of shape `shape` into `target`, inside a border of zeros. -/
def copy (shape : Shape) (images border : Nat) (source target : Array α) :
    Except Failure (Array α) := do
  let framed := shape.bordered border
  -- The border is whatever the copied rows leave untouched, so everything is cleared first.
  let cleared ← Buffer.put target 0 (List.replicate (images * framed.size) 0)
  (rows shape images).foldlM (fun target (image, chan, row) => do
    let lanes ← Buffer.slice source (image * shape.size + shape.offset chan row 0) shape.cols
    Buffer.put target
      (image * framed.size + framed.offset chan (row + border) border) lanes.toList) cleared

end ForwardPass.Border
