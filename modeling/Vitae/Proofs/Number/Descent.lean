import Vitae.Proofs.Number.Rounding

/-!
# Going Down in Floats

A value from which something is taken away again and again, as the cursor of a page is
moved down, is rounded every time, and no bound on the number of times is known. Two
facts keep it in reach all the same. Rounding keeps the order, so taking something away
never leads up. And far down a float absorbs what is taken away from it, so a value that
is above such a float stays above it.

## Main definitions

* `Binary32.Between`: A float that lies between two others.
* `Binary32.Descent`: Two bounds that taking something away does not lead out of.

## Theorems

* `Binary32.Descent.between`: Between the bounds, taking away leads down and stays there.
-/

namespace Vitae

namespace Binary32

/-- Floats that are numbers are their own nearest. -/
theorem nearest_value {x : Float32} (h : x.isFinite = true) : nearest (value x) = value x :=
  nearest_valueOf (canonical_unpack h)

theorem not_lt_iff {x y : Float32} (hx : x.isFinite = true) (hy : y.isFinite = true) :
    ¬x < y ↔ y ≤ x := by
  rw [lt_iff hx hy, le_iff hy hx, not_lt]

/-- A float that lies between two others. -/
structure Between (low high x : Float32) : Prop where
  isFinite : x.isFinite = true
  low_le : low ≤ x
  le_high : x ≤ high

instance (low high x : Float32) : Decidable (Between low high x) :=
  decidable_of_iff (x.isFinite = true ∧ low ≤ x ∧ x ≤ high)
    ⟨fun h => ⟨h.1, h.2.1, h.2.2⟩, fun h => ⟨h.isFinite, h.low_le, h.le_high⟩⟩

/-- Two bounds that taking `d` away does not lead out of. The lower one is so far down
that it absorbs `d`. -/
structure Descent (low high d : Float32) : Prop where
  lowest : Between (-1073741824) 1073741824 low
  highest : Between (-1073741824) 1073741824 high
  step : Between 0 1073741824 d
  absorbs : low ≤ low - d

instance (low high d : Float32) : Decidable (Descent low high d) :=
  decidable_of_iff (Between (-1073741824) 1073741824 low ∧ Between (-1073741824) 1073741824 high ∧
      Between 0 1073741824 d ∧ low ≤ low - d)
    ⟨fun h => ⟨h.1, h.2.1, h.2.2.1, h.2.2.2⟩, fun h => ⟨h.lowest, h.highest, h.step, h.absorbs⟩⟩

theorem Between.value_bounds {low high x : Float32} (h : Between low high x)
    (hlow : low.isFinite = true) (hhigh : high.isFinite = true) :
    value low ≤ value x ∧ value x ≤ value high :=
  ⟨(le_iff hlow h.isFinite).mp h.low_le, (le_iff h.isFinite hhigh).mp h.le_high⟩

/-- Between the bounds, taking `d` away leads down and stays between them. -/
theorem Descent.between {low high d x : Float32} (h : Descent low high d)
    (hx : Between low high x) : Between low high (x - d) ∧ x - d ≤ x := by
  have hlarge : (1073741824 : Float32).isFinite = true := by decide +kernel
  have hlargeNeg : (-1073741824 : Float32).isFinite = true := by decide +kernel
  have hpower : value 1073741824 = 1073741824 := by decide +kernel
  have hpowerNeg : value (-1073741824) = -1073741824 := by decide +kernel
  have hzero : value 0 = 0 := by decide +kernel
  have hx' := hx.value_bounds h.lowest.isFinite h.highest.isFinite
  have hlow := h.lowest.value_bounds hlargeNeg hlarge
  have hhigh := h.highest.value_bounds hlargeNeg hlarge
  have hd := h.step.value_bounds (by decide +kernel) hlarge
  rw [hpower, hpowerNeg] at hlow hhigh
  rw [hzero, hpower] at hd
  have hspec := sub_spec hx.isFinite h.step.isFinite (by
    rw [abs_lt]
    constructor <;> linarith)
  have hspecLow := sub_spec h.lowest.isFinite h.step.isFinite (by
    rw [abs_lt]
    constructor <;> linarith)
  -- Rounding keeps the order, and it leaves what is a float alone.
  have hdown : value (x - d) ≤ value x := by
    have hmono := nearest_mono (x := value x - value d) (y := value x) (by linarith)
    rwa [nearest_value hx.isFinite, ← hspec.2] at hmono
  have habove : value (low - d) ≤ value (x - d) := by
    rw [hspec.2, hspecLow.2]
    exact nearest_mono (by linarith)
  have habsorbs := (le_iff h.lowest.isFinite hspecLow.1).mp h.absorbs
  exact ⟨⟨hspec.1, (le_iff h.lowest.isFinite hspec.1).mpr (habsorbs.trans habove),
    (le_iff hspec.1 h.highest.isFinite).mpr (hdown.trans hx'.2)⟩, (le_iff hspec.1 hx.isFinite).mpr hdown⟩

end Binary32

end Vitae
