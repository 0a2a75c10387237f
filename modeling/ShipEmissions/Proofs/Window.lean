import ShipEmissions.Proofs.Outcome
import ShipEmissions.Window

/-!
# Windows on lists

The window of an item is what stands around it in the list, up to its two sizes. Taken out by
indices, it is there as long as the index where it ends has 64 bits: where a window starts is cut
off at the first item, but where it ends is added up before it is cut off at the last.

* `getElem?_windows`, `mem_windows`: a window holds items in their order.
* `Window.IsAt`, `isAt_windows`: the part of a list that a window is.
* `Window.at?_of_lt`, `Window.at?_of_le`: a window by indices, and the only reason to have none.
* `windows?_surround`: the windows of all items.
-/

namespace ShipEmissions

section

variable {β : Type} {past future : ℕ} {items : List β} {w : Window β}

theorem Window.mem_after {before : List β} (h : w ∈ after past future before items) :
    ∃ left right, items = left ++ w.current :: right ∧
      w.past = ((left.reverse ++ before).take past).reverse ∧ w.future = right.take future := by
  induction items generalizing before with
  | nil => cases h
  | cons item items ih =>
    rcases List.mem_cons.1 h with rfl | h
    · exact ⟨[], items, rfl, rfl, rfl⟩
    · obtain ⟨left, right, rfl, hpast, hfuture⟩ := ih h
      refine ⟨item :: left, right, rfl, ?_, hfuture⟩
      rw [hpast, List.reverse_cons, List.append_assoc]
      rfl

theorem Window.map_current_after (before : List β) :
    (after past future before items).map (fun w => w.current) = items := by
  induction items generalizing before with
  | nil => rfl
  | cons item items ih => exact congrArg (item :: ·) (ih (item :: before))

theorem Window.getElem?_after (before : List β) (i : ℕ) :
    (after past future before items)[i]? = items[i]?.map fun item =>
      ⟨(((items.take i).reverse ++ before).take past).reverse, item,
        (items.drop (i + 1)).take future⟩ := by
  induction items generalizing before i with
  | nil => rfl
  | cons first items ih =>
    cases i with
    | zero => rfl
    | succ i =>
      have hbefore : (first :: items.take i).reverse ++ before =
          (items.take i).reverse ++ first :: before := by
        rw [List.reverse_cons, List.append_assoc]
        rfl
      rw [List.take_succ_cons, hbefore]
      exact ih (first :: before) i

/-- There is a window for each item, in order. -/
theorem map_current_windows (past future : ℕ) (items : List β) :
    (windows past future items).map (fun w => w.current) = items := Window.map_current_after []

theorem current_mem_of_mem_windows {w : Window β} (hw : w ∈ windows past future items) :
    w.current ∈ items := by
  rw [← map_current_windows past future items]
  exact List.mem_map_of_mem hw

theorem length_windows (past future : ℕ) (items : List β) :
    (windows past future items).length = items.length := by
  rw [← List.length_map (fun w : Window β => w.current), map_current_windows]

theorem forall₂_windows_iff {γ : Type} {R : β → γ → Prop} {l : List γ} :
    List.Forall₂ (fun w c => R w.current c) (windows past future items) l ↔
      List.Forall₂ R items l := by
  rw [← List.forall₂_map_left_iff, map_current_windows]

/-- The window at a place holds the last items before that place and the first behind it. -/
theorem getElem?_windows (i : ℕ) :
    (windows past future items)[i]? = items[i]?.map fun item =>
      ⟨(items.take i).drop (i - past), item, (items.drop (i + 1)).take future⟩ := by
  rw [windows, Window.getElem?_after, List.append_nil]
  cases hi : items[i]? with
  | none => rfl
  | some item =>
    have hlength : (items.take i).length = i := by
      have hlt := (List.getElem?_eq_some_iff.1 hi).1
      rw [List.length_take]
      omega
    rw [List.take_reverse, List.reverse_reverse, hlength]

/-- The item that a window is about stands between the last before it and the first behind it. -/
theorem mem_windows (h : w ∈ windows past future items) :
    (∀ a, w.past.getLast? = some a → [a, w.current].Sublist items) ∧
      ∀ a, w.future.head? = some a → [w.current, a].Sublist items := by
  obtain ⟨left, right, rfl, hpast, hfuture⟩ := Window.mem_after h
  constructor
  · intro a ha
    have hleft : a ∈ left := by
      have hmem := List.mem_of_getLast? ha
      rw [hpast, List.append_nil] at hmem
      exact List.mem_reverse.1 (List.mem_of_mem_take (List.mem_reverse.1 hmem))
    exact (List.singleton_sublist.2 hleft).append
      (List.singleton_sublist.2 List.mem_cons_self)
  · intro a ha
    have hright : a ∈ right := by
      rw [hfuture] at ha
      exact List.mem_of_mem_take (List.mem_of_head? ha)
    exact ((List.singleton_sublist.2 hright).cons_cons w.current).trans
      (List.sublist_append_right left _)

/-! ## Parts of a list -/

/-- A window is the part of a list around the index `i`, with as many items as there are on each
side, up to a number. -/
structure Window.IsAt (past future : ℕ) (items : List β) (i : ℕ) (w : Window β) : Prop where
  contiguous : ∃ before behind, items = before ++ (w.past ++ w.current :: w.future) ++ behind ∧
    before.length + w.past.length = i
  length_past : w.past.length = min past i
  length_future : w.future.length = min future (items.length - i - 1)

theorem isAt_windows {i : ℕ} (h : (windows past future items)[i]? = some w) :
    w.IsAt past future items i := by
  rw [getElem?_windows] at h
  obtain ⟨item, hitem, rfl⟩ := Option.map_eq_some_iff.1 h
  obtain ⟨hi, hitem⟩ := List.getElem?_eq_some_iff.1 hitem
  have hitems : items = items.take i ++ item :: items.drop (i + 1) := by
    rw [← hitem, ← List.drop_eq_getElem_cons hi, List.take_append_drop]
  have hpast : ((items.take i).drop (i - past)).length = min past i := by
    rw [List.length_drop, List.length_take]
    omega
  refine ⟨⟨(items.take i).take (i - past), (items.drop (i + 1)).drop future, ?_, ?_⟩, hpast, ?_⟩
  · calc items = items.take i ++ item :: items.drop (i + 1) := hitems
      _ = (items.take i).take (i - past) ++ (items.take i).drop (i - past) ++
            item :: ((items.drop (i + 1)).take future ++ (items.drop (i + 1)).drop future) := by
          rw [List.take_append_drop, List.take_append_drop]
      _ = _ := by simp only [List.append_assoc, List.cons_append]
  · rw [hpast, List.length_take, List.length_take]
    omega
  · rw [List.length_take, List.length_drop]
    omega

/-! ## Windows by indices -/

theorem slice?_eq_ok {start stop : ℕ} (horder : start ≤ stop) (hstop : stop ≤ items.length) :
    slice? start stop items = .ok ((items.take stop).drop start) := if_pos ⟨horder, hstop⟩

theorem Bits64.indexSum?_eq_ok {i j : ℕ} (h : i + j < count) : indexSum? i j = .ok (i + j) :=
  if_pos h

theorem Bits64.indexSum?_eq_error {i j : ℕ} (h : count ≤ i + j) :
    indexSum? i j = .error .overflow := if_neg (Nat.not_lt.2 h)

namespace Window

variable {i : ℕ} {item : β}

/-- What is taken out behind an item. -/
theorem slice?_behind (hi : i < items.length) :
    slice? (i + 1) (min (i + 1 + future) items.length) items =
      .ok ((items.drop (i + 1)).take future) := by
  rw [slice?_eq_ok (by omega) (by omega), List.drop_take]
  congr 1
  rw [List.take_eq_take_iff, List.length_drop]
  omega

/-- If the index where it ends has 64 bits, there is a window. -/
theorem at?_of_lt (hi : i < items.length) (hstop : i + 1 + future < Bits64.count) :
    at? past future items i item =
      .ok ⟨(items.take i).drop (i - past), item, (items.drop (i + 1)).take future⟩ := by
  have hstart : i + 1 < Bits64.count := by omega
  rw [at?, slice?_eq_ok (Nat.sub_le i past) (Nat.le_of_lt hi), Bits64.indexSum?_eq_ok hstart]
  show (Bits64.indexSum? (i + 1) future >>= _) = _
  rw [Bits64.indexSum?_eq_ok hstop]
  show (slice? (i + 1) (min (i + 1 + future) items.length) items >>= _) = _
  rw [slice?_behind hi]
  rfl

/-- If not, one of the sums is refused before anything is taken out behind the item. -/
theorem at?_of_le (hi : i < items.length) (hstop : Bits64.count ≤ i + 1 + future) :
    at? past future items i item = .error .overflow := by
  rw [at?, slice?_eq_ok (Nat.sub_le i past) (Nat.le_of_lt hi)]
  show (Bits64.indexSum? i 1 >>= _) = _
  rcases Nat.lt_or_ge (i + 1) Bits64.count with hstart | hstart
  · rw [Bits64.indexSum?_eq_ok hstart]
    show (Bits64.indexSum? (i + 1) future >>= _) = _
    rw [Bits64.indexSum?_eq_error hstop]
    rfl
  · rw [Bits64.indexSum?_eq_error hstart]
    rfl

end Window

/-! ## All windows by indices -/

/-- Nothing but a sum of indices is ever refused. -/
theorem errors_indexedWindows? :
    Outcome.ErrorsAre (· = .overflow) (indexedWindows? past future items) := by
  refine Outcome.ErrorsAre.mapM ?_
  rintro ⟨item, i⟩ hmem
  have hi : i < items.length :=
    (List.getElem?_eq_some_iff.1 (List.mem_zipIdx_iff_getElem?.1 hmem)).1
  show Outcome.ErrorsAre _ (Window.at? past future items i item)
  rcases Nat.lt_or_ge (i + 1 + future) Bits64.count with hstop | hstop
  · rw [Window.at?_of_lt hi hstop]
    exact .ok _
  · rw [Window.at?_of_le hi hstop]
    exact .error rfl

theorem indexedWindows?_eq_ok (h : ∀ i < items.length, i + 1 + future < Bits64.count) :
    indexedWindows? past future items = .ok (windows past future items) := by
  rw [indexedWindows?, Outcome.mapM_eq_ok_iff, List.forall₂_iff_get]
  refine ⟨by rw [List.length_zipIdx, length_windows], fun i hi hi' => ?_⟩
  rw [List.length_zipIdx] at hi
  have hwindow : (windows past future items)[i]? = _ := getElem?_windows i
  rw [List.getElem?_eq_getElem hi', List.getElem?_eq_getElem hi] at hwindow
  rw [List.get_eq_getElem, List.get_eq_getElem, List.getElem_zipIdx, Option.some.inj hwindow]
  show Window.at? past future items (0 + i) items[i] = _
  rw [Nat.zero_add]
  exact Window.at?_of_lt hi (h i hi)

/-- The last window is the first that ends beyond all indices. -/
theorem indexedWindows?_eq_error (hsome : items ≠ [])
    (hstop : Bits64.count ≤ items.length + future) :
    indexedWindows? past future items = .error .overflow := by
  have hlength : 0 < items.length := List.length_pos_iff.2 hsome
  cases hresult : indexedWindows? past future items with
  | error fault => rw [errors_indexedWindows? fault hresult]
  | ok ws =>
    have hlast : items.length - 1 < items.length := by omega
    have hmem : (items[items.length - 1], items.length - 1) ∈ items.zipIdx :=
      List.mem_zipIdx_iff_getElem?.2 (List.getElem?_eq_getElem hlast)
    obtain ⟨w, hw⟩ := Outcome.exists_mapM_eq_ok_iff.1 ⟨ws, hresult⟩ _ hmem
    have hrefused : Window.at? past future items (items.length - 1) items[items.length - 1] =
        .error .overflow := Window.at?_of_le hlast (by omega)
    cases hrefused.symm.trans hw

/-- The window of an item by its index is the part of the list around it, if the index where it ends
has 64 bits before it is cut off at the end of the list. Otherwise the sum is refused, which is the
only fault. So the windows of a list are there, one for each item and in order, unless there are
items and their number and the size behind them have too many bits together. -/
theorem windows?_surround (α : Type) (past future : ℕ) (items : List β) (hpast : 1 ≤ past) :
    (∀ i item, items[i]? = some item →
      (i + 1 + future < Bits64.count →
        ∃ w : Window β, Window.at? past future items i item = .ok w ∧ w.current = item ∧
          w.IsAt past future items i) ∧
      (Bits64.count ≤ i + 1 + future →
        Window.at? past future items i item = .error .overflow)) ∧
      (items = [] ∨ items.length + future < Bits64.count →
        ∃ ws, (windows? past future items : Except (Fault α) _) = .ok ws ∧
          indexedWindows? past future items = .ok ws ∧ ws = windows past future items ∧
          ws.map (fun w => w.current) = items ∧
          ∀ i (w : Window β), ws[i]? = some w → w.IsAt past future items i) ∧
      (items ≠ [] → Bits64.count ≤ items.length + future →
        (windows? past future items : Except (Fault α) _) = .error .indexOverflow ∧
          indexedWindows? past future items = .error .overflow) := by
  have hsome : past ≠ 0 := by omega
  refine ⟨fun i item hitem => ⟨fun hstop => ?_, fun hstop => ?_⟩, fun hfits => ?_,
    fun hitems hstop => ?_⟩
  · have hi := (List.getElem?_eq_some_iff.1 hitem).1
    have hwindow : (windows past future items)[i]? = some
        ⟨(items.take i).drop (i - past), item, (items.drop (i + 1)).take future⟩ := by
      rw [getElem?_windows, hitem, Option.map_some]
    exact ⟨_, Window.at?_of_lt hi hstop, rfl, isAt_windows hwindow⟩
  · exact Window.at?_of_le (List.getElem?_eq_some_iff.1 hitem).1 hstop
  · have hok : indexedWindows? past future items = .ok (windows past future items) := by
      refine indexedWindows?_eq_ok fun i hi => ?_
      rcases hfits with rfl | hfits
      · cases hi
      · omega
    refine ⟨_, ?_, hok, rfl, map_current_windows past future items, fun i w => isAt_windows⟩
    rw [windows?, if_neg hsome, hok]
    rfl
  · have herror : indexedWindows? past future items = .error .overflow :=
      indexedWindows?_eq_error hitems hstop
    refine ⟨?_, herror⟩
    rw [windows?, if_neg hsome, herror]
    rfl

end

/-- Three items with the greatest sizes that fit. -/
theorem windows?_surround_widest :
    1 ≤ 18446744073709551615 ∧ [7, 8, 9].length + 18446744073709551612 < Bits64.count ∧
      ∃ ws, (windows? 18446744073709551615 18446744073709551612 [7, 8, 9] :
        Except (Fault Float) _) = .ok ws ∧ ws[1]? = some ⟨[7], 8, [9]⟩ := by
  have hpast : 1 ≤ 18446744073709551615 := by decide
  have hfits : [7, 8, 9].length + 18446744073709551612 < Bits64.count := by decide
  obtain ⟨-, hok, -⟩ :=
    windows?_surround Float 18446744073709551615 18446744073709551612 [7, 8, 9] hpast
  obtain ⟨_, hws, -, rfl, -⟩ := hok (.inr hfits)
  refine ⟨hpast, hfits, _, hws, ?_⟩
  rw [getElem?_windows]
  rfl

/-- Nothing stands behind a single item. With the greatest size of 64 bits its window is refused all
the same, since the index where it would end is added up first. -/
theorem windows?_greatest_future :
    1 ≤ 1 ∧ 18446744073709551615 < Bits64.count ∧
      windows 1 18446744073709551615 [1] = [⟨[], 1, []⟩] ∧
      indexedWindows? 1 18446744073709551615 [1] = .error .overflow ∧
      (windows? 1 18446744073709551615 [1] : Except (Fault Float) _) = .error .indexOverflow :=
  ⟨by decide, by decide, rfl, rfl, rfl⟩

end ShipEmissions
