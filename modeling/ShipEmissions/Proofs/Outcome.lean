import Mathlib.Data.List.Forall2

/-!
# Computations that may fail

Readers and checks are computations in `Except`. A sequence of them succeeds iff each does, and its
error is the error of one of them.

* `bind_eq_ok`, `bind_eq_error`: what it takes for two steps to succeed or to fail.
* `mapM_eq_ok_iff`: a list is read iff each of its items is, place by place.
* `exists_of_mapM_eq_error`, `forM_eq_ok_iff`: the same for errors and for checks.
* `ErrorsAre`: what is true of all errors of the steps is true of those of the whole.
* `Agree`: computations whose steps agree do so as a whole.
-/

namespace ShipEmissions

namespace Outcome

variable {ε α β : Type}

/-! ## Two steps -/

theorem bind_eq_ok {x : Except ε α} {f : α → Except ε β} {b : β} :
    (x >>= f) = .ok b ↔ ∃ a, x = .ok a ∧ f a = .ok b := by
  cases x with
  | error e => simp [bind, Except.bind]
  | ok a => simp [bind, Except.bind]

theorem bind_eq_error {x : Except ε α} {f : α → Except ε β} {e : ε} :
    (x >>= f) = .error e ↔ x = .error e ∨ ∃ a, x = .ok a ∧ f a = .error e := by
  cases x with
  | error e' => simp [bind, Except.bind]
  | ok a => simp [bind, Except.bind]

theorem map_eq_ok {x : Except ε α} {f : α → β} {b : β} :
    x.map f = .ok b ↔ ∃ a, x = .ok a ∧ f a = b := by
  cases x <;> simp [Except.map]

theorem map_eq_error {x : Except ε α} {f : α → β} {e : ε} :
    x.map f = .error e ↔ x = .error e := by
  cases x <;> simp [Except.map]

theorem pure_eq_ok {a b : α} : (pure a : Except ε α) = .ok b ↔ a = b := by
  simp [pure, Except.pure]

theorem eq_ok_of_toOption {x : Except ε α} {a : α} (h : x.toOption = some a) : x = .ok a := by
  cases x with
  | error e => cases h
  | ok b => rw [Option.some.inj h]

/-! ## Lists -/

theorem mapM_eq_ok_iff {f : α → Except ε β} {l : List α} {l' : List β} :
    l.mapM f = .ok l' ↔ List.Forall₂ (fun a b => f a = .ok b) l l' := by
  induction l generalizing l' with
  | nil =>
    rw [List.mapM_nil, pure_eq_ok, List.forall₂_nil_left_iff]
    exact eq_comm
  | cons a l ih =>
    rw [List.mapM_cons, bind_eq_ok, List.forall₂_cons_left_iff]
    constructor
    · rintro ⟨b, hb, h⟩
      obtain ⟨bs, hbs, h⟩ := bind_eq_ok.1 h
      exact ⟨b, bs, hb, ih.1 hbs, (pure_eq_ok.1 h).symm⟩
    · rintro ⟨b, bs, hb, hbs, rfl⟩
      exact ⟨b, hb, bind_eq_ok.2 ⟨bs, ih.2 hbs, rfl⟩⟩

theorem mapM_congr {f g : α → Except ε β} {l : List α} (h : ∀ a ∈ l, f a = g a) :
    l.mapM f = l.mapM g := by
  induction l with
  | nil => rfl
  | cons a l ih =>
    rw [List.mapM_cons, List.mapM_cons, h a List.mem_cons_self,
      ih fun b hb => h b (List.mem_cons_of_mem a hb)]

/-- Of lists that are related item by item, one has an item where the other has one. -/
theorem exists_getElem?_of_forall₂ {R : α → β → Prop} {l : List α} {l' : List β}
    (h : List.Forall₂ R l l') {i : ℕ} {a : α} (ha : l[i]? = some a) :
    ∃ b, l'[i]? = some b ∧ R a b := by
  induction h generalizing i with
  | nil => simp at ha
  | @cons a₀ b₀ l l' hab _ ih =>
    cases i with
    | zero =>
      obtain rfl : a₀ = a := by simpa using ha
      exact ⟨b₀, rfl, hab⟩
    | succ i => exact ih ha

/-- The items of a list that is read, place by place. -/
theorem getElem?_of_mapM_eq_ok {f : α → Except ε β} {l : List α} {l' : List β}
    (h : l.mapM f = .ok l') (i : ℕ) :
    (∀ a, l[i]? = some a → ∃ b, l'[i]? = some b ∧ f a = .ok b) ∧
      ∀ b, l'[i]? = some b → ∃ a, l[i]? = some a ∧ f a = .ok b := by
  have hread := mapM_eq_ok_iff.1 h
  have hitems : List.Forall₂ (fun b a => f a = .ok b) l' l := List.Forall₂.flip hread
  exact ⟨fun a ha => exists_getElem?_of_forall₂ hread ha,
    fun b hb => exists_getElem?_of_forall₂ hitems hb⟩

/-- The items of a list that is read, and what they are read from. -/
theorem mem_of_mapM_eq_ok {f : α → Except ε β} {l : List α} {l' : List β}
    (h : l.mapM f = .ok l') :
    (∀ a ∈ l, ∃ b ∈ l', f a = .ok b) ∧ ∀ b ∈ l', ∃ a ∈ l, f a = .ok b := by
  constructor
  · intro a ha
    obtain ⟨i, hi⟩ := List.mem_iff_getElem?.1 ha
    obtain ⟨b, hb, hf⟩ := (getElem?_of_mapM_eq_ok h i).1 a hi
    exact ⟨b, List.mem_of_getElem? hb, hf⟩
  · intro b hb
    obtain ⟨i, hi⟩ := List.mem_iff_getElem?.1 hb
    obtain ⟨a, ha, hf⟩ := (getElem?_of_mapM_eq_ok h i).2 b hi
    exact ⟨a, List.mem_of_getElem? ha, hf⟩

/-- Items that are read alike may be left out before or after reading. -/
theorem mapM_filter {f : α → Except ε β} {l : List α} {l' : List β} (h : l.mapM f = .ok l')
    {p : α → Bool} {p' : β → Bool} (hp : ∀ a b, f a = .ok b → p' b = p a) :
    (l.filter p).mapM f = .ok (l'.filter p') := by
  rw [mapM_eq_ok_iff] at h ⊢
  induction h with
  | nil => exact .nil
  | @cons a b l l' hab _ ih =>
    cases hpa : p a with
    | true =>
      rw [List.filter_cons_of_pos hpa, List.filter_cons_of_pos ((hp a b hab).trans hpa)]
      exact .cons hab ih
    | false =>
      have hpb : ¬p' b = true := by rw [hp a b hab, hpa]; decide
      rw [List.filter_cons_of_neg (by rw [hpa]; decide), List.filter_cons_of_neg hpb]
      exact ih

/-- Each item has a related one iff the list has. -/
theorem exists_forall₂_iff {R : α → β → Prop} {l : List α} :
    (∃ l', List.Forall₂ R l l') ↔ ∀ a ∈ l, ∃ b, R a b := by
  induction l with
  | nil => simp
  | cons a l ih =>
    rw [List.forall_mem_cons, ← ih]
    constructor
    · rintro ⟨l', h⟩
      obtain ⟨b, bs, hb, hbs, -⟩ := List.forall₂_cons_left_iff.1 h
      exact ⟨⟨b, hb⟩, bs, hbs⟩
    · rintro ⟨⟨b, hb⟩, bs, hbs⟩
      exact ⟨b :: bs, .cons hb hbs⟩

theorem exists_mapM_eq_ok_iff {f : α → Except ε β} {l : List α} :
    (∃ l', l.mapM f = .ok l') ↔ ∀ a ∈ l, ∃ b, f a = .ok b := by
  simp only [mapM_eq_ok_iff]
  exact exists_forall₂_iff

theorem exists_of_mapM_eq_error {f : α → Except ε β} {l : List α} {e : ε}
    (h : l.mapM f = .error e) : ∃ a ∈ l, f a = .error e := by
  induction l with
  | nil => cases h
  | cons a l ih =>
    rw [List.mapM_cons] at h
    rcases bind_eq_error.1 h with h | ⟨b, -, h⟩
    · exact ⟨a, List.mem_cons_self, h⟩
    · rcases bind_eq_error.1 h with h | ⟨bs, -, h⟩
      · obtain ⟨a', ha', h⟩ := ih h
        exact ⟨a', List.mem_cons_of_mem a ha', h⟩
      · cases h

theorem forM_eq_ok_iff {f : α → Except ε Unit} {l : List α} :
    l.forM f = .ok () ↔ ∀ a ∈ l, f a = .ok () := by
  induction l with
  | nil => simp [pure, Except.pure]
  | cons a l ih =>
    show (f a >>= fun _ => l.forM f) = _ ↔ _
    rw [bind_eq_ok, List.forall_mem_cons, ← ih]
    constructor
    · rintro ⟨⟨⟩, ha, hl⟩; exact ⟨ha, hl⟩
    · rintro ⟨ha, hl⟩; exact ⟨(), ha, hl⟩

theorem exists_of_forM_eq_error {f : α → Except ε Unit} {l : List α} {e : ε}
    (h : l.forM f = .error e) : ∃ a ∈ l, f a = .error e := by
  induction l with
  | nil => cases h
  | cons a l ih =>
    rcases bind_eq_error.1 h with h | ⟨-, -, h⟩
    · exact ⟨a, List.mem_cons_self, h⟩
    · obtain ⟨a', ha', h⟩ := ih h
      exact ⟨a', List.mem_cons_of_mem a ha', h⟩

/-! ## All errors -/

/-- Every error of a computation has a property. -/
def ErrorsAre (P : ε → Prop) (x : Except ε α) : Prop := ∀ e, x = .error e → P e

variable {P : ε → Prop}

theorem ErrorsAre.ok (a : α) : ErrorsAre P (.ok a) := by
  intro e h
  cases h

theorem ErrorsAre.error {e : ε} (he : P e) : ErrorsAre P (.error e : Except ε α) := by
  intro e' h
  cases h
  exact he

theorem ErrorsAre.bind {x : Except ε α} {f : α → Except ε β} (hx : ErrorsAre P x)
    (hf : ∀ a, x = .ok a → ErrorsAre P (f a)) : ErrorsAre P (x >>= f) := by
  intro e h
  rcases bind_eq_error.1 h with h | ⟨a, ha, h⟩
  · exact hx e h
  · exact hf a ha e h

theorem ErrorsAre.map {x : Except ε α} {f : α → β} (hx : ErrorsAre P x) :
    ErrorsAre P (x.map f) := by
  intro e h
  exact hx e (map_eq_error.1 h)

theorem ErrorsAre.mapM {f : α → Except ε β} {l : List α} (h : ∀ a ∈ l, ErrorsAre P (f a)) :
    ErrorsAre P (l.mapM f) := by
  intro e he
  obtain ⟨a, ha, hfa⟩ := exists_of_mapM_eq_error he
  exact h a ha e hfa

theorem ErrorsAre.forM {f : α → Except ε Unit} {l : List α} (h : ∀ a ∈ l, ErrorsAre P (f a)) :
    ErrorsAre P (l.forM f) := by
  intro e he
  obtain ⟨a, ha, hfa⟩ := exists_of_forM_eq_error he
  exact h a ha e hfa

/-! ## Two computations -/

/-- Two computations have the same result if both have one. -/
def Agree (x y : Except ε α) : Prop := ∀ a b, x = .ok a → y = .ok b → a = b

theorem Agree.refl (x : Except ε α) : Agree x x := by
  intro a b ha hb
  exact Except.ok.inj (ha.symm.trans hb)

theorem Agree.bind {x y : Except ε α} {f g : α → Except ε β} (hxy : Agree x y)
    (hfg : ∀ a, Agree (f a) (g a)) : Agree (x >>= f) (y >>= g) := by
  intro b b' hb hb'
  obtain ⟨a, ha, hb⟩ := bind_eq_ok.1 hb
  obtain ⟨a', ha', hb'⟩ := bind_eq_ok.1 hb'
  cases hxy a a' ha ha'
  exact hfg a b b' hb hb'

theorem Agree.map {x y : Except ε α} (hxy : Agree x y) (f : α → β) : Agree (x.map f) (y.map f) := by
  intro b b' hb hb'
  obtain ⟨a, ha, rfl⟩ := map_eq_ok.1 hb
  obtain ⟨a', ha', rfl⟩ := map_eq_ok.1 hb'
  rw [hxy a a' ha ha']

theorem Agree.mapM {f g : α → Except ε β} {l : List α} (h : ∀ a ∈ l, Agree (f a) (g a)) :
    Agree (l.mapM f) (l.mapM g) := by
  induction l with
  | nil => exact .refl _
  | cons a l ih =>
    rw [List.mapM_cons, List.mapM_cons]
    have hrest := ih fun b hb => h b (List.mem_cons_of_mem a hb)
    exact (h a List.mem_cons_self).bind fun _ => hrest.bind fun _ => .refl _

end Outcome

end ShipEmissions
