import ShipEmissions.Fault

/-!
# Windows on lists

A window is an item of a list with the items around it: up to a number of items before it and up to
a number behind it, in the order of the list.

* `windows` gives the window of every item.
* `Window.at?` takes the window of an item out of the list by its indices, which have 64 bits.
* `windows?` does so for every item, and refuses windows without past.
-/

namespace ShipEmissions

/-- An item of a list with the items around it. -/
structure Window (β : Type) where
  past : List β
  current : β
  future : List β
  deriving DecidableEq, Repr

namespace Window

/-- Windows of the items that follow others, which stand last first. -/
def after {β : Type} (past future : Nat) : (before : List β) → List β → List (Window β)
  | _, [] => []
  | before, item :: rest =>
    ⟨(before.take past).reverse, item, rest.take future⟩ ::
      after past future (item :: before) rest

end Window

/-- The windows of all items, with up to `past` items before and up to `future` items behind. -/
def windows {β : Type} (past future : Nat) (items : List β) : List (Window β) :=
  Window.after past future [] items

/-! ## Windows by indices -/

/-- Why items cannot be taken out of a list by their indices. -/
inductive IndexFault where
  /-- A sum of indices is none of 64 bits. -/
  | overflow
  /-- Some of the indices belong to no item, or they are out of order. -/
  | outOfRange
  deriving DecidableEq, Repr

/-- The sum of two indices. -/
def Bits64.indexSum? (i j : Nat) : Except IndexFault Nat :=
  if i + j < count then .ok (i + j) else .error .overflow

/-- The items from the index `start` up to, but not including, the index `stop`. -/
def slice? {β : Type} (start stop : Nat) (items : List β) : Except IndexFault (List β) :=
  if start ≤ stop ∧ stop ≤ items.length then .ok ((items.take stop).drop start)
  else .error .outOfRange

/-- The window of the item at the index `i`. An index before the first item goes to the first, but
the index where the window ends is computed before it goes to the end of the list. -/
def Window.at? {β : Type} (past future : Nat) (items : List β) (i : Nat) (item : β) :
    Except IndexFault (Window β) := do
  let before ← slice? (i - past) i items
  let start ← Bits64.indexSum? i 1
  let stop ← Bits64.indexSum? start future
  let behind ← slice? start (min stop items.length) items
  return ⟨before, item, behind⟩

/-- The windows of all items by their indices. -/
def indexedWindows? {β : Type} (past future : Nat) (items : List β) :
    Except IndexFault (List (Window β)) :=
  items.zipIdx.mapM fun (item, i) => Window.at? past future items i item

/-- The windows of all items, if there is a past and the items can be taken by their indices. -/
def windows? {α β : Type} (past future : Nat) (items : List β) :
    Except (Fault α) (List (Window β)) :=
  if past = 0 then .error .emptyPast
  else (indexedWindows? past future items).mapError fun _ => .indexOverflow

end ShipEmissions
