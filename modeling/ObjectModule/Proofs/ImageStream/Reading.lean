import ObjectModule.ImageStream.Basic

/-! Reads of any size.

What a stream gives does not depend on how much of it is asked for at a time.
Reading `a + b` bytes is reading `a` bytes and then `b` from where the first read
left the stream (`read_add_of_ok`, `read_add_of_error`), down to the run being
delivered. Whatever is read first, reading what is left completes it
(`read_left_of_ok`), so reading all, which asks for `readSize` bytes at a time, is
one read of everything left (`readAll_eq`). A read that gives less than asked for
leaves nothing to come (`isExhausted_of_short`). -/
namespace ObjectModule.ImageStream

variable {s : Segment} {done : Packed} {want : Nat} {st st' : ImageStream}

/-! ### One step of a read -/

section
variable [Machine]

theorem readOnto_of_exhausted (h : st.isExhausted = true) :
    st.readOnto s done want = .ok done st := by
  have stopped : ¬ (0 < want ∧ st.error = none ∧ 0 < st.left) := by
    intro ready
    rw [isExhausted_eq_false.mpr ready.2] at h
    cases h
  rw [readOnto, dif_neg stopped]

theorem readOnto_zero : st.readOnto s done 0 = .ok done st := by
  rw [readOnto, dif_neg fun ready => Nat.lt_irrefl 0 ready.1]

theorem readOnto_run {run : Run} {nonempty : run.isEmpty = false}
    (h : 0 < want ∧ st.error = none ∧ 0 < st.left)
    (hs : st.supply s h.2.2 = (st', .run run nonempty)) :
    st.readOnto s done want =
      (st'.deliver run (run.take (min want st.left)).size).readOnto s
        (done ++ run.take (min want st.left)) (want - (run.take (min want st.left)).size) := by
  rw [readOnto, dif_pos h, hs]

theorem readOnto_hole {hole : Hole} (h : 0 < want ∧ st.error = none ∧ 0 < st.left)
    (hs : st.supply s h.2.2 = (st', .hole hole)) :
    st.readOnto s done want =
      .ok done { st' with error := some { hole, segment := s.displayName } } := by
  rw [readOnto, dif_pos h, hs]

theorem readOnto_failed {cause : Error} (h : 0 < want ∧ st.error = none ∧ 0 < st.left)
    (hs : st.supply s h.2.2 = (st', .failed cause)) :
    st.readOnto s done want = .error cause st' := by
  rw [readOnto, dif_pos h, hs]

/-- What is left of a run is what the stream goes on with. -/
theorem supply_deliver {run : Run} {count : Nat} (h : 0 < (st.deliver run count).left)
    (more : (run.drop count).isEmpty = false) :
    (st.deliver run count).supply s h = (st.deliver run count, .run (run.drop count) more) := by
  unfold supply
  split
  · rfl
  · next none =>
    have hdrop : (run.drop count).isEmpty = true := none
    rw [more] at hdrop
    cases hdrop

end

theorem deliver_deliver (run : Run) (a b : Nat) :
    (st.deliver run a).deliver (run.drop a) b = st.deliver run (a + b) := by
  simp only [deliver, Run.drop_drop, Nat.add_assoc]

variable [Machine]

/-- To deliver part of a run and read on is to read on from before it. -/
theorem readOnto_deliver {run : Run} {a b : Nat} (ha : a < run.toBytes.length)
    (hleft : a < st.left) (hb : 0 < b) (herror : st.error = none) :
    (st.deliver run a).readOnto s (done ++ run.take a) b =
      (st.deliver run (run.take (min (a + b) st.left)).size).readOnto s
        (done ++ run.take (min (a + b) st.left))
        (a + b - (run.take (min (a + b) st.left)).size) := by
  have hleft' := left_deliver st run a
  have ready : 0 < b ∧ (st.deliver run a).error = none ∧ 0 < (st.deliver run a).left :=
    ⟨hb, herror, by omega⟩
  have hmin : min (a + b) st.left = a + min b (st.left - a) := by omega
  have hsize : (run.take a).size = a := by
    rw [Run.size_take]
    omega
  rw [readOnto_run ready (supply_deliver ready.2.2 (Run.isEmpty_drop ha)), hleft',
    deliver_deliver, hmin, Run.take_add, Packed.size_append, hsize, Packed.append_assoc]
  congr 1
  omega

/-! ### A read in two -/

theorem readOnto_add (s : Segment) (done : Packed) (st : ImageStream) (a b : Nat) :
    st.readOnto s done (a + b) =
      match st.readOnto s done a with
      | .ok mid st' => st'.readOnto s mid b
      | .error cause st' => .error cause st' := by
  fun_induction readOnto s done a st with
  | case1 done a st h st' run nonempty hs pos chunk ih =>
    have hleft := left_supply hs
    rw [readOnto_run ⟨by omega, h.2⟩ hs, ← ih]
    -- Unless the shorter read ends inside the run, both take the same from it.
    by_cases whole : run.toBytes.length ≤ a ∨ st.left ≤ a ∨ b = 0
    · have same : run.take (min (a + b) st.left) = chunk := by
        rcases whole with whole | whole | whole
        · by_cases hlen : run.toBytes.length ≤ st.left
          · exact Run.take_eq_take (by omega) (by omega)
          · show _ = run.take (min a st.left)
            congr 1
            omega
        · show _ = run.take (min a st.left)
          congr 1
          omega
        · rw [whole, Nat.add_zero]
      have hle : chunk.size ≤ min a st.left := Run.size_take_le ..
      rw [same]
      congr 1
      omega
    · have hchunk : chunk = run.take a := congrArg run.take (by omega)
      have hsize : chunk.size = a := by
        rw [hchunk, Run.size_take]
        omega
      rw [hsize, hchunk, Nat.sub_self, Nat.zero_add,
        readOnto_deliver (by omega) (by omega) (by omega) ((supply_keeps hs).2.2.trans h.2.1),
        hleft]
  | case2 done a st h st' hole hs =>
    rw [readOnto_hole ⟨by omega, h.2⟩ hs]
    exact (readOnto_of_exhausted rfl).symm
  | case3 done a st h st' cause hs => exact readOnto_failed ⟨by omega, h.2⟩ hs
  | case4 done a st h =>
    show _ = st.readOnto s done b
    by_cases ha : a = 0
    · rw [ha, Nat.zero_add]
    · have stopped : st.isExhausted = true :=
        isExhausted_of_not fun ready => h ⟨by omega, ready⟩
      rw [readOnto_of_exhausted stopped, readOnto_of_exhausted stopped]

/-- What was produced before is not looked at. -/
theorem readOnto_append (s : Segment) (front done : Packed) (want : Nat) (st : ImageStream) :
    st.readOnto s (front ++ done) want =
      match st.readOnto s done want with
      | .ok bytes final => .ok (front ++ bytes) final
      | .error cause final => .error cause final := by
  fun_induction readOnto s done want st with
  | case1 done want st h st' run nonempty hs pos chunk ih =>
    rw [readOnto_run h hs, Packed.append_assoc]
    exact ih
  | case2 done want st h st' hole hs => exact readOnto_hole h hs
  | case3 done want st h st' cause hs => exact readOnto_failed h hs
  | case4 done want st h => rw [readOnto, dif_neg h]

theorem readOnto_eq (s : Segment) (done : Packed) (want : Nat) (st : ImageStream) :
    st.readOnto s done want =
      match st.read s want with
      | .ok bytes final => .ok (done ++ bytes) final
      | .error cause final => .error cause final := by
  have h := readOnto_append s done .empty want st
  rwa [Packed.append_empty] at h

/-- **Reading `a + b` bytes is reading `a` bytes and then `b`.** -/
theorem read_add_of_ok {a : Nat} {front : Packed} (h : st.read s a = .ok front st') (b : Nat) :
    st.read s (a + b) =
      match st'.read s b with
      | .ok back final => .ok (front ++ back) final
      | .error cause final => .error cause final := by
  have hadd := readOnto_add s .empty st a b
  rw [show st.readOnto s .empty a = .ok front st' from h] at hadd
  exact hadd.trans (readOnto_eq s front b st')

/-- Where a read fails a longer one fails. -/
theorem read_add_of_error {a : Nat} {cause : Error} (h : st.read s a = .error cause st')
    (b : Nat) : st.read s (a + b) = .error cause st' := by
  have hadd := readOnto_add s .empty st a b
  rwa [show st.readOnto s .empty a = .error cause st' from h] at hadd

theorem position_readOnto {bytes : Packed} {final : ImageStream}
    (h : st.readOnto s done want = .ok bytes final) :
    final.position + done.size = st.position + bytes.size := by
  fun_induction readOnto s done want st with
  | case1 done want st h' st' run nonempty hs pos chunk ih =>
    have hp := (supply_keeps hs).1
    have hnext : (st'.deliver run chunk.size).position = st'.position + chunk.size := rfl
    have := ih h
    rw [Packed.size_append] at this
    omega
  | case2 done want st h' st' hole hs =>
    cases h
    show st'.position + bytes.size = st.position + bytes.size
    rw [(supply_keeps hs).1]
  | case3 done want st h' st' cause hs => cases h
  | case4 done want st h' =>
    cases h
    rfl

/-- A read moves the stream by what it gives. -/
theorem position_read {bytes : Packed} {final : ImageStream}
    (h : st.read s want = .ok bytes final) : final.position = st.position + bytes.size :=
  position_readOnto h

/-! ### Reads that give less than asked for -/

theorem size_readOnto_le {bytes : Packed} {final : ImageStream}
    (h : st.readOnto s done want = .ok bytes final) : bytes.size ≤ done.size + want := by
  fun_induction readOnto s done want st with
  | case1 done want st h' st' run nonempty hs pos chunk ih =>
    have hle : chunk.size ≤ min want st.left := Run.size_take_le ..
    have hmore := ih h
    rw [Packed.size_append] at hmore
    omega
  | case2 done want st h' st' hole hs =>
    cases h
    omega
  | case3 done want st h' st' cause hs => cases h
  | case4 done want st h' =>
    cases h
    omega

/-- A read gives no more than is asked for. -/
theorem size_read_le {bytes : Packed} {final : ImageStream}
    (h : st.read s want = .ok bytes final) : bytes.size ≤ want := by
  have hsize := size_readOnto_le h
  have none : Packed.empty.size = 0 := rfl
  omega

theorem isExhausted_of_readOnto {bytes : Packed} {final : ImageStream}
    (h : st.readOnto s done want = .ok bytes final) (short : bytes.size < done.size + want) :
    final.isExhausted = true := by
  fun_induction readOnto s done want st with
  | case1 done want st h' st' run nonempty hs pos chunk ih =>
    have hle : chunk.size ≤ min want st.left := Run.size_take_le ..
    apply ih h
    rw [Packed.size_append]
    omega
  | case2 done want st h' st' hole hs =>
    cases h
    rfl
  | case3 done want st h' st' cause hs => cases h
  | case4 done want st h' =>
    cases h
    exact isExhausted_of_not fun ready => h' ⟨by omega, ready⟩

/-- A read that gives less than asked for leaves nothing to come. -/
theorem isExhausted_of_short {bytes : Packed} {final : ImageStream}
    (h : st.read s want = .ok bytes final) (short : bytes.size < want) :
    final.isExhausted = true := by
  refine isExhausted_of_readOnto h ?_
  show _ < 0 + want
  omega

theorem isExhausted_of_left_le {bytes : Packed} {final : ImageStream}
    (h : st.read s want = .ok bytes final) (hw : st.left ≤ want) : final.isExhausted = true := by
  by_cases short : bytes.size < want
  · exact isExhausted_of_short h short
  · have hleft := left_read h
    exact isExhausted_of_not fun ready => by omega

/-! ### Reading everything -/

/-- Asking for more than is left is asking for what is left. -/
theorem read_of_left_le (s : Segment) (h : st.left ≤ want) :
    st.read s want = st.read s st.left := by
  obtain ⟨more, rfl⟩ := Nat.exists_eq_add_of_le h
  cases hr : st.read s st.left with
  | error cause final => exact read_add_of_error hr more
  | ok bytes final =>
    have stopped := isExhausted_of_left_le hr (Nat.le_refl _)
    rw [read_add_of_ok hr, read, readOnto_of_exhausted stopped]
    exact congrArg (EStateM.Result.ok · final) (Packed.append_empty bytes)

/-- Whatever is read first, reading what is left completes it. -/
theorem read_left_of_ok {front : Packed} (h : st.read s want = .ok front st') :
    st.read s st.left =
      match st'.read s st'.left with
      | .ok back final => .ok (front ++ back) final
      | .error cause final => .error cause final := by
  have hleft := left_read h
  have more : st'.left ≤ st.left := by omega
  rw [← read_of_left_le s (Nat.le_add_left st.left want), read_add_of_ok h,
    read_of_left_le s more]

theorem read_left_of_error {cause : Error} (h : st.read s want = .error cause st') :
    st.read s st.left = .error cause st' := by
  rw [← read_of_left_le s (Nat.le_add_left st.left want), read_add_of_error h]

theorem readAllOnto_eq (s : Segment) (done : Packed) (st : ImageStream) :
    st.readAllOnto s done =
      match st.read s st.left with
      | .ok bytes final => .ok (done ++ bytes) final
      | .error cause final => .error cause final := by
  fun_induction readAllOnto s done st with
  | case1 done st cause final h => rw [read_left_of_error h]
  | case2 done st bytes final h more hlt ih =>
    rw [ih, read_left_of_ok h]
    cases final.read s final.left with
    | error cause last => rfl
    | ok rest last => exact congrArg (EStateM.Result.ok · last) (Packed.append_assoc ..)
  | case3 done st bytes final h more =>
    have none : bytes = .empty := by
      apply Packed.eq_of_toBytes_eq
      apply List.eq_nil_of_length_eq_zero
      rw [Packed.length_toBytes]
      omega
    have stopped : final.isExhausted = true := by
      refine isExhausted_of_short h ?_
      rw [none]
      decide
    rw [read_left_of_ok h, read, readOnto_of_exhausted stopped, none]
    exact congrArg (EStateM.Result.ok · final) (Packed.append_empty done).symm

/-- Reading all is one read of what is left. -/
theorem readAll_eq (s : Segment) (st : ImageStream) : st.readAll s = st.read s st.left := by
  rw [readAll, readAllOnto_eq]
  cases st.read s st.left with
  | error cause final => rfl
  | ok bytes final => exact congrArg (EStateM.Result.ok · final) (Packed.empty_append bytes)

end ObjectModule.ImageStream
