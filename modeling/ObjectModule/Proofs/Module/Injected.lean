import ObjectModule.Proofs.ImageStream.Tiling
import ObjectModule.Proofs.Module.Entering

/-! Injected segments.

Segments are injected for numbers, in ascending order, and hold data from the start: handing
a fragment to a number makes or grows its segment and leaves the others as they are
(`lookup_withInjected`). A segment that is only ever grown is as long as its data needs
(`Segment.IsGrown`). -/
namespace ObjectModule

/-- An injected segment holds data and is as long as that needs. -/
structure Segment.IsGrown (s : Segment) : Prop where
  width : s.length.width = 2
  covers : ∀ f ∈ s.fragments, f.offset + f.bytes.length ≤ s.length.value
  reached : ∃ f ∈ s.fragments, s.length.value = f.offset + f.bytes.length

namespace Segment
variable {s : Segment} {f : Fragment}

/-- A grown segment is as long as it was or as its new fragment needs, whichever is more. -/
theorem value_grownBy (s : Segment) (f : Fragment) :
    (s.grownBy f).length.value = max s.length.value f.endOffset := by
  unfold grownBy
  split
  · next longer => exact (Int.max_eq_right (Int.le_of_lt longer)).symm
  · next within => exact (Int.max_eq_left (Int.not_lt.mp within)).symm

theorem width_grownBy (s : Segment) (f : Fragment) :
    (s.grownBy f).length.width = s.length.width := by
  unfold grownBy
  split <;> rfl

theorem mem_grownBy {g : Fragment} : g ∈ (s.grownBy f).fragments ↔ g ∈ s.fragments ∨ g = f :=
  Array.mem_push

theorem endOffset_eq (hf : f.IsData) : f.endOffset = f.offset + f.bytes.length :=
  congrArg (f.offset + ·) hf.length

theorem isGrown_injected (number : Nat) (hf : f.IsData) :
    (grownBy f (injected number .data)).IsGrown := by
  have hvalue : (grownBy f (injected number .data)).length.value = f.offset + f.bytes.length := by
    have hoffset := hf.offset
    rw [value_grownBy, endOffset_eq hf]
    show max 0 (f.offset + f.bytes.length) = _
    omega
  refine ⟨width_grownBy .., fun g hg => ?_, f, mem_grownBy.mpr (.inr rfl), hvalue⟩
  rcases mem_grownBy.mp hg with none | rfl
  · simp [injected] at none
  · exact Int.le_of_eq hvalue.symm

theorem IsGrown.grownBy (h : s.IsGrown) (hf : f.IsData) : (s.grownBy f).IsGrown := by
  obtain ⟨hwidth, hcovers, longest, hmem, hreached⟩ := h
  have hvalue := value_grownBy s f
  rw [endOffset_eq hf] at hvalue
  refine ⟨(width_grownBy s f).trans hwidth, fun g hg => ?_, ?_⟩
  · rcases mem_grownBy.mp hg with hg | rfl
    · have := hcovers g hg
      omega
    · omega
  · by_cases longer : s.length.value < f.offset + f.bytes.length
    · exact ⟨f, mem_grownBy.mpr (.inr rfl), by omega⟩
    · exact ⟨longest, mem_grownBy.mpr (.inl hmem), by omega⟩

end Segment

namespace Contents
variable {f : Fragment} {injected : List (Nat × Segment)} {number : Nat}

theorem ascending_withInjected (h : injected.Pairwise fun p q => p.1 < q.1) :
    (withInjected number f injected).Pairwise fun p q => p.1 < q.1 := by
  fun_induction withInjected number f injected with
  | case1 => exact List.pairwise_singleton ..
  | case2 i s rest less ih =>
    obtain ⟨hfirst, hrest⟩ := List.pairwise_cons.mp h
    exact List.pairwise_cons.mpr ⟨forall_withInjected hfirst less fun _ => id, ih hrest⟩
  | case3 s rest less =>
    obtain ⟨hfirst, hrest⟩ := List.pairwise_cons.mp h
    exact List.pairwise_cons.mpr ⟨hfirst, hrest⟩
  | case4 i s rest less other =>
    have hless : number < i := by omega
    obtain ⟨hfirst, _⟩ := List.pairwise_cons.mp h
    refine List.pairwise_cons.mpr ⟨List.forall_mem_cons.mpr ⟨hless, fun p hp => ?_⟩, h⟩
    exact Nat.lt_trans hless (hfirst p hp)

theorem lookup_cons (i j : Nat) (s : Segment) (rest : List (Nat × Segment)) :
    ((j, s) :: rest).lookup i = if i = j then some s else rest.lookup i := by
  by_cases hi : i = j
  · rw [hi, List.lookup_cons_self, if_pos rfl]
  · rw [List.lookup_cons, beq_false_of_ne hi, if_neg hi]

/-- The segment of the number is grown, or made if there is none; the others stay. -/
theorem lookup_withInjected (h : injected.Pairwise fun p q => p.1 < q.1) (number : Nat)
    (f : Fragment) (i : Nat) :
    (withInjected number f injected).lookup i =
      if i = number then
        some (((injected.lookup number).getD (.injected number .data)).grownBy f)
      else injected.lookup i := by
  fun_induction withInjected number f injected with
  | case1 => simp [lookup_cons]
  | case2 j s rest less ih =>
    have hj : number ≠ j := by omega
    rw [lookup_cons, lookup_cons, lookup_cons, ih (List.pairwise_cons.mp h).2, if_neg hj]
    by_cases hi : i = j
    · simp [hi, hj.symm]
    · simp [hi]
  | case3 s rest less =>
    rw [lookup_cons, lookup_cons, lookup_cons, if_pos rfl]
    by_cases hi : i = number <;> simp [hi]
  | case4 j s rest less other =>
    have hnone : ((j, s) :: rest).lookup number = none := by
      refine List.lookup_eq_none_iff.mpr (List.forall_mem_cons.mpr ⟨?_, fun p hp => ?_⟩)
      · simpa using fun hj => other hj.symm
      · have := (List.pairwise_cons.mp h).1 p hp
        exact bne_iff_ne.mpr (by omega)
    rw [lookup_cons, hnone]
    rfl

/-- The injected segments hold one more fragment. -/
theorem held_withInjected :
    ((withInjected number f injected).flatMap (·.2.fragments.toList)).Perm
      (f :: injected.flatMap (·.2.fragments.toList)) := by
  fun_induction withInjected number f injected with
  | case1 => simp [Segment.grownBy, Segment.injected]
  | case2 i s rest less ih =>
    rw [List.flatMap_cons, List.flatMap_cons]
    exact (ih.append_left _).trans List.perm_middle
  | case3 s rest less => simp [Segment.grownBy]
  | case4 i s rest less other => simp [Segment.grownBy, Segment.injected]

end Contents
end ObjectModule
