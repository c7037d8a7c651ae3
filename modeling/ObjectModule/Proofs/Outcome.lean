import Mathlib.Data.List.Forall2

/-! Outcomes of computations that may fail.

A computation made of parts gives something only if its parts do. Each lemma says for one
way of composing what the parts gave; what a list of computations gives is related to the
list item by item. -/
namespace ObjectModule.Outcome
variable {ε ε' α β γ : Type}

@[simp] theorem bind_eq_ok {x : Except ε α} {f : α → Except ε β} {b : β} :
    x >>= f = .ok b ↔ ∃ a, x = .ok a ∧ f a = .ok b := by
  cases x <;> simp [bind, Except.bind]

@[simp] theorem map_eq_ok {f : α → β} {x : Except ε α} {b : β} :
    f <$> x = .ok b ↔ ∃ a, x = .ok a ∧ f a = b := by
  cases x <;> simp [Functor.map, Except.map]

theorem ok_bind (a : α) (f : α → Except ε β) : (Except.ok a >>= f) = f a := rfl

theorem bind_eq_error {x : Except ε α} {f : α → Except ε β} {e : ε} :
    x >>= f = .error e ↔ x = .error e ∨ ∃ a, x = .ok a ∧ f a = .error e := by
  cases x <;> simp [bind, Except.bind]

theorem map_eq_error {f : α → β} {x : Except ε α} {e : ε} :
    f <$> x = .error e ↔ x = .error e := by
  cases x <;> simp [Functor.map, Except.map]

@[simp] theorem mapError_eq_ok {f : ε → ε'} {x : Except ε α} {a : α} :
    x.mapError f = .ok a ↔ x = .ok a := by
  cases x <;> simp [Except.mapError]

@[simp] theorem mapError_eq_error {f : ε → ε'} {x : Except ε α} {e : ε'} :
    x.mapError f = .error e ↔ ∃ cause, x = .error cause ∧ e = f cause := by
  cases x <;> simp [Except.mapError, eq_comm]

@[simp] theorem pure_eq_ok {a b : α} : (pure a : Except ε α) = .ok b ↔ a = b := by
  simp [pure, Except.pure]

@[simp] theorem throw_ne_ok {e : ε} {a : α} : (throw e : Except ε α) ≠ .ok a := nofun

/-- What a list of computations gives, item by item. -/
theorem mapM_eq_ok {f : α → Except ε β} {items : List α} {results : List β} :
    items.mapM f = .ok results ↔ List.Forall₂ (fun a b => f a = .ok b) items results := by
  induction items generalizing results with
  | nil =>
    rw [List.forall₂_nil_left_iff, List.mapM_nil, pure_eq_ok]
    exact eq_comm
  | cons a rest ih =>
    simp only [List.mapM_cons, bind_eq_ok, pure_eq_ok, ih, List.forall₂_cons_left_iff]
    constructor
    · rintro ⟨b, hb, others, hothers, rfl⟩
      exact ⟨b, others, hb, hothers, rfl⟩
    · rintro ⟨b, others, hb, hothers, rfl⟩
      exact ⟨b, hb, others, hothers, rfl⟩

theorem mapM_toList_of_ok {f : α → Except ε β} {items : Array α} {results : Array β}
    (h : items.mapM f = .ok results) :
    List.Forall₂ (fun a b => f a = .ok b) items.toList results.toList := by
  rw [← mapM_eq_ok, ← Array.toList_mapM, h]
  rfl

/-- What is done to each result may be done at the end. -/
theorem mapM_map_left (f : α → Except ε β) (g : β → γ) (items : Array α) :
    items.mapM (fun a => g <$> f a) = (fun results => results.map g) <$> items.mapM f := by
  have hlist (items : List α) : items.mapM (fun a => g <$> f a) = List.map g <$> items.mapM f := by
    induction items with
    | nil => rfl
    | cons a rest ih =>
      rw [List.mapM_cons, List.mapM_cons, ih]
      cases f a with
      | error e => rfl
      | ok b => cases rest.mapM f <;> rfl
  rw [Array.mapM_eq_mapM_toList, Array.mapM_eq_mapM_toList, hlist]
  cases items.toList.mapM f with
  | error e => rfl
  | ok results => simp [Functor.map, Except.map]

theorem toOption_congr {x y : Except ε α} (h : ∀ a, x = .ok a ↔ y = .ok a) :
    x.toOption = y.toOption := by
  cases x with
  | ok a => rw [(h a).mp rfl]
  | error e =>
    cases y with
    | ok a => cases (h a).mpr rfl
    | error e' => rfl

theorem toOption_eq_some {x : Except ε α} {a : α} : x.toOption = some a ↔ x = .ok a := by
  cases x <;> simp [Except.toOption]

/-- What a computation gave, from what can be told of it. -/
theorem exists_of_toOption_map {x : Except ε α} {f : α → β} {b : β}
    (h : x.toOption.map f = some b) : ∃ a, x = .ok a ∧ f a = b := by
  cases x with
  | error e => cases h
  | ok a => exact ⟨a, rfl, Option.some.inj h⟩

theorem exists_of_isSome_toOption {x : Except ε α} (h : x.toOption.isSome) : ∃ a, x = .ok a := by
  cases x with
  | error e => cases h
  | ok a => exact ⟨a, rfl⟩

/-- Why a computation fails, if it does. -/
def failure? : Except ε α → Option ε
  | .ok _ => none
  | .error e => some e

theorem failure?_eq_some {x : Except ε α} {e : ε} : failure? x = some e ↔ x = .error e := by
  cases x <;> simp [failure?]

/-! ### Ways to end -/

section Ends
variable {P : α → Prop} {P' : β → Prop} {Q : ε → Prop} {x : Except ε α} {f : α → Except ε β}

/-- A computation gives only what satisfies one predicate, and fails only with what satisfies
the other. -/
def Ends (P : α → Prop) (Q : ε → Prop) : Except ε α → Prop
  | .ok a => P a
  | .error e => Q e

theorem Ends.bind (h : Ends P Q x) (hf : ∀ a, P a → Ends P' Q (f a)) : Ends P' Q (x >>= f) := by
  cases x with
  | ok a => exact hf a h
  | error e => exact h

/-- What is known of what is given may be known otherwise than from how a computation ends. -/
theorem Ends.with_ok (h : Ends P Q x) {P' : α → Prop} (hP : ∀ a, x = .ok a → P' a) :
    Ends P' Q x := by
  cases x with
  | ok a => exact hP a rfl
  | error e => exact h

theorem ends_mapM {items : List α} (h : ∀ a ∈ items, Ends P' Q (f a)) :
    Ends (fun results => ∀ b ∈ results, P' b) Q (items.mapM f) := by
  induction items with
  | nil => exact fun b hb => nomatch hb
  | cons a rest ih =>
    obtain ⟨ha, hrest⟩ := List.forall_mem_cons.mp h
    rw [List.mapM_cons]
    refine ha.bind fun b hb => (ih hrest).bind fun others hothers => ?_
    exact List.forall_mem_cons.mpr ⟨hb, hothers⟩

theorem ends_mapM_toList {items : Array α} (h : ∀ a ∈ items.toList, Ends P' Q (f a)) :
    Ends (fun results => ∀ b ∈ results.toList, P' b) Q (items.mapM f) := by
  have hlist := ends_mapM h
  rw [← Array.toList_mapM] at hlist
  cases hrun : items.mapM f with
  | ok results =>
    rw [hrun] at hlist
    exact hlist
  | error e =>
    rw [hrun] at hlist
    exact hlist

end Ends

/-! ### Lists related item by item -/

variable {R : α → β → Prop} {items : List α} {results : List β}

theorem forall₂_comp {S : β → γ → Prop} {T : α → γ → Prop}
    (hT : ∀ a b c, R a b → S b c → T a c) {others : List γ} (h : List.Forall₂ R items results)
    (h' : List.Forall₂ S results others) : List.Forall₂ T items others := by
  induction h generalizing others with
  | nil =>
    cases h'
    exact .nil
  | cons hab _ ih =>
    cases h' with
    | cons hbc hrest => exact .cons (hT _ _ _ hab hbc) (ih hrest)

/-- What is the same of related items is the same of the lists. -/
theorem map_eq_of_forall₂ {f : α → γ} {g : β → γ} (h : List.Forall₂ R items results)
    (same : ∀ a b, R a b → g b = f a) : results.map g = items.map f := by
  induction h with
  | nil => rfl
  | cons hab _ ih => rw [List.map_cons, List.map_cons, same _ _ hab, ih]

/-- What related items take over holds of all results if it holds of all items. -/
theorem forall_mem_of_forall₂ {P : α → Prop} {Q : β → Prop} (h : List.Forall₂ R items results)
    (takes : ∀ a b, R a b → P a → Q b) (all : ∀ a ∈ items, P a) : ∀ b ∈ results, Q b := by
  induction h with
  | nil => simp
  | cons hab _ ih =>
    obtain ⟨hfirst, hrest⟩ := List.forall_mem_cons.mp all
    exact List.forall_mem_cons.mpr ⟨takes _ _ hab hfirst, ih hrest⟩

end ObjectModule.Outcome
