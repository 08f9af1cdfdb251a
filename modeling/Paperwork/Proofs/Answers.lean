/-
Answers that may be errors.

Filling templates and reading pages are computations that may fail.  What such a
computation answers is taken apart here, once for a step that uses the answer of
another, once for a row of computations, and once where notices are given on the way.
-/
import Mathlib
import Paperwork.Notice

namespace Paperwork

variable {ε α β : Type}

@[simp] theorem ok_bind (a : α) (f : α → Except ε β) : ((.ok a : Except ε α) >>= f) = f a := rfl

theorem bind_eq_ok {x : Except ε α} {f : α → Except ε β} {b : β} :
    (x >>= f) = .ok b ↔ ∃ a, x = .ok a ∧ f a = .ok b := by
  cases x with
  | error e => simp [bind, Except.bind]
  | ok a => simp [bind, Except.bind]

theorem bind_eq_error {x : Except ε α} {f : α → Except ε β} {e : ε} :
    (x >>= f) = .error e ↔ x = .error e ∨ ∃ a, x = .ok a ∧ f a = .error e := by
  cases x with
  | error e' => simp [bind, Except.bind]
  | ok a => simp [bind, Except.bind]

theorem map_eq_ok {f : α → β} {x : Except ε α} {b : β} :
    x.map f = .ok b ↔ ∃ a, x = .ok a ∧ f a = b := by
  cases x <;> simp [Except.map]

/-- A row of computations answers if each of them does. -/
theorem mapM_eq_ok {f : α → Except ε β} {xs : List α} {ys : List β} :
    xs.mapM f = .ok ys ↔ List.Forall₂ (fun x y => f x = .ok y) xs ys := by
  induction xs generalizing ys with
  | nil => simp [pure, Except.pure, eq_comm]
  | cons x xs ih =>
      rw [List.mapM_cons, bind_eq_ok, List.forall₂_cons_left_iff]
      constructor
      · rintro ⟨y, hy, hrest⟩
        obtain ⟨more, hmore, hys⟩ := bind_eq_ok.mp hrest
        simp only [pure, Except.pure, Except.ok.injEq] at hys
        exact ⟨y, more, hy, ih.mp hmore, hys.symm⟩
      · rintro ⟨y, more, hy, hmore, rfl⟩
        exact ⟨y, hy, bind_eq_ok.mpr ⟨more, ih.mpr hmore, rfl⟩⟩

/-- A row of values is found if each of them is. -/
theorem mapM_eq_some {f : α → Option β} {xs : List α} {ys : List β} :
    xs.mapM f = some ys ↔ List.Forall₂ (fun x y => f x = some y) xs ys := by
  induction xs generalizing ys with
  | nil => simp [eq_comm]
  | cons x xs ih =>
      rw [List.mapM_cons, List.forall₂_cons_left_iff]
      constructor
      · intro h
        obtain ⟨y, hy, hrest⟩ := Option.bind_eq_some_iff.mp h
        obtain ⟨more, hmore, hys⟩ := Option.bind_eq_some_iff.mp hrest
        exact ⟨y, more, hy, ih.mp hmore, (Option.some.inj hys).symm⟩
      · rintro ⟨y, more, hy, hmore, rfl⟩
        rw [hy, ih.mpr hmore]
        rfl

/-- A row of values is not found if one of them is not. -/
theorem mapM_eq_none {f : α → Option β} {xs : List α} :
    xs.mapM f = none ↔ ∃ x ∈ xs, f x = none := by
  induction xs with
  | nil => simp
  | cons x xs ih =>
      rw [List.mapM_cons]
      simp only [List.mem_cons, exists_eq_or_imp, ← ih]
      cases f x <;> cases xs.mapM f <;> simp

/-- What a row of computations has made was made by one of them. -/
theorem exists_of_mem_mapM {f : α → Except ε β} {xs : List α} {ys : List β}
    (h : xs.mapM f = .ok ys) {y : β} (hy : y ∈ ys) : ∃ x ∈ xs, f x = .ok y := by
  have hall := mapM_eq_ok.mp h
  clear h
  induction hall with
  | nil => simp at hy
  | cons hfirst _ ih =>
      rcases List.mem_cons.mp hy with rfl | hy
      · exact ⟨_, List.mem_cons_self, hfirst⟩
      · obtain ⟨x, hx, hmade⟩ := ih hy
        exact ⟨x, List.mem_cons_of_mem _ hx, hmade⟩

/-- What rows of two computations make is related if what each two of them make is. -/
theorem exists_related_of_mapM {γ : Type} {f : α → Except ε β} {g : α → Except ε γ}
    {r : β → γ → Prop} (hfg : ∀ x y, f x = .ok y → ∃ z, g x = .ok z ∧ r y z) {xs : List α}
    {ys : List β} (h : xs.mapM f = .ok ys) :
    ∃ zs, xs.mapM g = .ok zs ∧ List.Forall₂ r ys zs := by
  have hall := mapM_eq_ok.mp h
  clear h
  induction hall with
  | nil => exact ⟨[], rfl, .nil⟩
  | @cons x y xs ys hfirst _ ih =>
      obtain ⟨z, hz, hyz⟩ := hfg x y hfirst
      obtain ⟨zs, hzs, hyzs⟩ := ih
      refine ⟨z :: zs, ?_, .cons hyz hyzs⟩
      rw [List.mapM_cons, hz, ok_bind, hzs]
      rfl

/-- What rows of two computations make agrees if what each two of them make does. -/
theorem flatMap_eq_of_mapM {γ δ : Type} {f : α → Except ε β} {g : α → Except ε γ}
    {left : β → List δ} {right : γ → List δ}
    (hfg : ∀ x y z, f x = .ok y → g x = .ok z → left y = right z) {xs : List α} {ys : List β}
    {zs : List γ} (hys : xs.mapM f = .ok ys) (hzs : xs.mapM g = .ok zs) :
    ys.flatMap left = zs.flatMap right := by
  have hall := mapM_eq_ok.mp hys
  have hothers := mapM_eq_ok.mp hzs
  clear hys hzs
  induction hall generalizing zs with
  | nil =>
      cases hothers
      rfl
  | cons hfirst _ ih =>
      cases hothers with
      | cons hother hmore =>
          rw [List.flatMap_cons, List.flatMap_cons, hfg _ _ _ hfirst hother, ih hmore]

/-- A row of computations fails if one of them does. -/
theorem mapM_eq_error {f : α → Except ε β} {xs : List α} :
    (∃ e, xs.mapM f = .error e) ↔ ∃ x ∈ xs, ∃ e, f x = .error e := by
  induction xs with
  | nil => simp [pure, Except.pure]
  | cons x xs ih =>
      simp only [List.mapM_cons, bind_eq_error, List.mem_cons, exists_eq_or_imp]
      cases hx : f x with
      | error e => simp
      | ok y =>
          rw [← ih]
          simp [pure, Except.pure]

/-! ### Two computations -/

/-- Two computations fail both, or they answer both and what they answer is related. -/
inductive Agree (r : α → β → Prop) : Except ε α → Except ε β → Prop
  | answers {a : α} {b : β} (h : r a b) : Agree r (.ok a) (.ok b)
  | fails {e f : ε} : Agree r (.error e) (.error f)

namespace Agree

variable {γ δ : Type} {r : α → β → Prop} {s : γ → δ → Prop} {x : Except ε α} {y : Except ε β}

theorem bind (h : Agree r x y) {f : α → Except ε γ} {g : β → Except ε δ}
    (hfg : ∀ a b, r a b → Agree s (f a) (g b)) : Agree s (x >>= f) (y >>= g) := by
  cases h with
  | answers hab => exact hfg _ _ hab
  | fails => exact .fails

theorem map (h : Agree r x y) {f : α → γ} {g : β → δ} (hfg : ∀ a b, r a b → s (f a) (g b)) :
    Agree s (x.map f) (y.map g) := by
  cases h with
  | answers hab => exact .answers (hfg _ _ hab)
  | fails => exact .fails

theorem map_left (h : Agree r x y) {f : α → γ} {t : γ → β → Prop}
    (hf : ∀ a b, r a b → t (f a) b) : Agree t (x.map f) y := by
  cases h with
  | answers hab => exact .answers (hf _ _ hab)
  | fails => exact .fails

theorem symm (h : Agree r x y) : Agree (fun b a => r a b) y x := by
  cases h with
  | answers hab => exact .answers hab
  | fails => exact .fails

theorem trans {z : Except ε γ} {t : β → γ → Prop} {u : α → γ → Prop} (h : Agree r x y)
    (hmore : Agree t y z) (hrtu : ∀ a b c, r a b → t b c → u a c) : Agree u x z := by
  cases h with
  | answers hab =>
      cases hmore with
      | answers hbc => exact .answers (hrtu _ _ _ hab hbc)
  | fails =>
      cases hmore with
      | fails => exact .fails

/-- Rows of computations agree if each two of them do. -/
theorem mapM {f : α → Except ε γ} {g : β → Except ε δ} (hfg : ∀ a b, r a b → Agree s (f a) (g b))
    {as : List α} {bs : List β} (h : List.Forall₂ r as bs) :
    Agree (List.Forall₂ s) (as.mapM f) (bs.mapM g) := by
  induction h with
  | nil => exact .answers .nil
  | cons hab _ ih =>
      rw [List.mapM_cons, List.mapM_cons]
      refine (hfg _ _ hab).bind fun c d hcd => ih.bind fun cs ds hrest => ?_
      exact .answers (.cons hcd hrest)

end Agree

/-! ### Notices -/

/-- What a computation answers does not depend on its notices. -/
theorem Noted.value_bind (x : ExceptT ε Noted α) (f : α → ExceptT ε Noted β) :
    (x >>= f).run.value = x.run.value >>= fun a => (f a).run.value := by
  rw [ExceptT.run_bind]
  change (Noted.andThen _ _).value = _
  rw [Noted.andThen]
  cases x.run.value <;> rfl

/-- Putting the error of a computation another way does not change its answer. -/
theorem Noted.value_adapt {ε' : Type} (x : ExceptT ε Noted α) (f : ε → ε') :
    (x.adapt f).run.value = x.run.value.mapError f := rfl

end Paperwork
