import ObjectModule.Proofs.Record.Written

/-! What was taken for a value.

Reading what was written has a converse: whatever a reader gives within an input, it took for
it some bytes from the front, and what is known of these bytes (`Reader.Takes`) follows from what
its parts took, one behind the other. Where taking is writing backwards, the bytes taken are the
value as it is written, so nothing is passed over and no two inputs are read as the same.

What a reader complains of is told in the same way (`Reader.Lacks`): it is short of bytes, at the
very end of the input, or finds one of the faults that are its own. -/
namespace ObjectModule

namespace Bytes

/-- A string of bytes is the number it stands for, written in as many bytes. -/
theorem ofNat_littleEndian (bytes : Bytes) : ofNat bytes.length (littleEndian bytes) = bytes := by
  induction bytes with
  | nil => rfl
  | cons b rest ih =>
    have hb := b.toNat_lt
    have hfirst : UInt8.ofNat (b.toNat + 256 * littleEndian rest) = b := by
      apply UInt8.toNat_inj.mp
      rw [UInt8.toNat_ofNat']
      omega
    have hdiv : (b.toNat + 256 * littleEndian rest) / 256 = littleEndian rest := by omega
    rw [littleEndian, List.length_cons, ofNat, hfirst, hdiv, ih]

end Bytes

/-- Whether an error says that an input which goes on with these bytes behind an offset ends
before all that is needed. -/
def FormatError.IsShortage (offset : Nat) (rest : Bytes) : FormatError → Prop
  | unexpectedEnd need place left =>
    (offset : Int) ≤ place ∧ place + left = (offset + rest.length : Nat) ∧ 0 ≤ left ∧ left < need
  | _ => False

theorem FormatError.IsShortage.eq {offset : Nat} {rest : Bytes} {e : FormatError}
    (h : e.IsShortage offset rest) : ∃ need place left, e = .unexpectedEnd need place left := by
  cases e with
  | unexpectedEnd need place left => exact ⟨need, place, left, rfl⟩
  | _ => exact h.elim

namespace Reader
variable {α β : Type} {reader item : Reader α} {next : α → Reader β} {a : α}
  {P : Bytes → α → Prop} {P' : Bytes → β → Prop} {Q : Bytes → FormatError → Prop}

/-! ### Bytes taken -/

/-- What a reader takes within an input, for the value it gives, satisfies a predicate. -/
def Takes (reader : Reader α) (P : Bytes → α → Prop) : Prop :=
  ∀ offset rest a after, reader ⟨offset, rest, 0⟩ = .ok a after →
    ∃ front back, rest = front ++ back ∧ after = ⟨offset + front.length, back, 0⟩ ∧ P front a

theorem Takes.mono {R : Bytes → α → Prop} (h : reader.Takes P)
    (hR : ∀ front a, P front a → R front a) : reader.Takes R := by
  intro offset rest a after hrun
  obtain ⟨front, back, hrest, hafter, ha⟩ := h offset rest a after hrun
  exact ⟨front, back, hrest, hafter, hR front a ha⟩

theorem takes_pure (h : P [] a) : Takes (pure a) P := by
  intro offset rest b after hrun
  cases hrun
  exact ⟨[], rest, rfl, rfl, h⟩

theorem takes_throw (e : FormatError) : Takes (throw e : Reader α) P := by
  intro offset rest a after hrun
  cases hrun

/-- What the last of two readers takes comes behind what the first took. -/
theorem Takes.bind (h : reader.Takes P)
    (hnext : ∀ a front, P front a → (next a).Takes fun back b => P' (front ++ back) b) :
    (reader >>= next).Takes P' := by
  intro offset rest b after hrun
  obtain ⟨a, middle, hfirst, hrun⟩ := bind_eq_ok.mp hrun
  obtain ⟨front, more, rfl, rfl, ha⟩ := h offset rest a middle hfirst
  obtain ⟨front', back, rfl, rfl, hb⟩ := hnext a front ha _ _ _ _ hrun
  refine ⟨front ++ front', back, (List.append_assoc ..).symm, ?_, hb⟩
  rw [List.length_append, Nat.add_assoc]

theorem takes_bytes (size : Int) :
    (bytes size).Takes fun front got => got = front ∧ (front.length : Int) = size := by
  intro offset rest got after hrun
  rw [bytes_eq] at hrun
  split at hrun
  · next fits =>
    cases hrun
    have hlength : (rest.take size.toNat).length = size.toNat := by
      rw [List.length_take]
      omega
    refine ⟨rest.take size.toNat, rest.drop size.toNat, (List.take_append_drop ..).symm, ?_, rfl,
      ?_⟩
    · rw [hlength]
    · omega
  · cases hrun

/-- A number is taken from the bytes it is written in. -/
theorem takes_number (width : Nat) :
    (number width).Takes fun front n => front = Bytes.ofNat width n ∧ n < .pow 256 width := by
  intro offset rest n after hrun
  rw [number_eq] at hrun
  split at hrun
  · next fits =>
    cases hrun
    have hlength : (rest.take width).length = width := by
      rw [List.length_take]
      omega
    refine ⟨rest.take width, rest.drop width, (List.take_append_drop ..).symm, by rw [hlength],
      ?_, ?_⟩
    · have := Bytes.ofNat_littleEndian (rest.take width)
      rw [hlength] at this
      exact this.symm
    · have := Bytes.littleEndian_lt (rest.take width)
      rwa [hlength] at this
  · cases hrun

theorem takes_u8 : u8.Takes fun front n => ∃ byte : UInt8, front = [byte] ∧ n = byte.toNat := by
  refine (takes_number 1).mono fun front n h => ?_
  obtain ⟨rfl, hn⟩ := h
  have hn : n < 256 := hn
  exact ⟨UInt8.ofNat n, rfl, (UInt8.toNat_ofNat_of_lt hn).symm⟩

/-- A text is taken from what it is written as behind its count. -/
theorem takes_countedString : countedString.Takes fun front text =>
    ∃ bytes : Bytes, bytes.length < 0x100 ∧ front = bytes.counted ∧ text = bytes.latin1 := by
  refine (takes_number 1).bind fun length front hlength => ?_
  refine (takes_bytes length).bind fun bytes front' hbytes => takes_pure ?_
  obtain ⟨⟨rfl, hfits⟩, rfl, hcount⟩ := And.intro hlength hbytes
  have hcount : bytes.length = length := Int.ofNat_inj.mp hcount
  subst hcount
  exact ⟨bytes, hfits, by rw [List.append_nil]; rfl, rfl⟩

/-- What is given for an input was taken from the front of it. -/
theorem Takes.parse (h : reader.Takes P) {input : Bytes} (hrun : reader.parse input = .ok a) :
    ∃ front back, input = front ++ back ∧ P front a := by
  unfold Reader.parse at hrun
  split at hrun
  · next a' after hread =>
    cases hrun
    have hread : reader ⟨0, input, 0⟩ = .ok a after := Cursor.start_zero input ▸ hread
    obtain ⟨front, back, hinput, _, ha⟩ := h _ _ _ _ hread
    exact ⟨front, back, hinput, ha⟩
  · cases hrun

/-! ### Repetition -/

section
variable {write : α → Bytes} {Good : α → Prop} {done : List α}

theorem takes_timesAfter (h : item.Takes fun front a => front = write a ∧ Good a) (count : Nat) :
    (timesAfter item count done).Takes fun front all => ∃ new, all = done.reverse ++ new ∧
      new.length = count ∧ front = new.flatMap write ∧ ∀ a ∈ new, Good a := by
  induction count generalizing done with
  | zero => exact takes_pure ⟨[], (List.append_nil _).symm, rfl, rfl, by simp⟩
  | succ count ih =>
    refine h.bind fun a front ha => ih.mono fun back all hall => ?_
    obtain ⟨rfl, ha⟩ := ha
    obtain ⟨new, rfl, rfl, rfl, hnew⟩ := hall
    exact ⟨a :: new, by simp, rfl, rfl, List.forall_mem_cons.mpr ⟨ha, hnew⟩⟩

/-- Items are taken from what they are written as, one behind the other. -/
theorem takes_times (h : item.Takes fun front a => front = write a ∧ Good a) (count : Nat) :
    (times count item).Takes fun front all =>
      all.length = count ∧ front = all.flatMap write ∧ ∀ a ∈ all, Good a :=
  (takes_timesAfter h count).mono fun front all hall => by
    obtain ⟨new, rfl, hcount, hfront, hnew⟩ := hall
    exact ⟨hcount, hfront, hnew⟩

end

/-! ### Inputs taken whole -/

/-- All that lies ahead of a reader, for the value it gives, satisfies a predicate. -/
def TakesAll (reader : Reader α) (P : Bytes → α → Prop) : Prop :=
  ∀ offset rest a after, reader ⟨offset, rest, 0⟩ = .ok a after → P rest a

theorem TakesAll.mono {R : Bytes → α → Prop} (h : reader.TakesAll P)
    (hR : ∀ rest a, P rest a → R rest a) : reader.TakesAll R :=
  fun offset rest a after hrun => hR rest a (h offset rest a after hrun)

theorem TakesAll.bind_pure {f : α → β} (h : reader.TakesAll fun rest a => P' rest (f a)) :
    (do return f (← reader) : Reader β).TakesAll P' := by
  intro offset rest b after hrun
  obtain ⟨a, middle, hfirst, hlast⟩ := bind_eq_ok.mp hrun
  cases hlast
  exact h offset rest a _ hfirst

theorem Takes.bind_all (h : reader.Takes P)
    (hnext : ∀ a front, P front a → (next a).TakesAll fun back b => P' (front ++ back) b) :
    (reader >>= next).TakesAll P' := by
  intro offset rest b after hrun
  obtain ⟨a, middle, hfirst, hrun⟩ := bind_eq_ok.mp hrun
  obtain ⟨front, back, rfl, rfl, ha⟩ := h offset rest a middle hfirst
  exact hnext a front ha _ _ _ _ hrun

theorem TakesAll.parse (h : reader.TakesAll P) {input : Bytes}
    (ha : reader.parse input = .ok a) : P input a := by
  unfold Reader.parse at ha
  split at ha
  · next hrun =>
    cases ha
    exact h 0 input a _ (Cursor.start_zero input ▸ hrun)
  · cases ha

theorem takesAll_remainder : remainder.TakesAll fun rest got => got = rest := by
  intro offset rest got after hrun
  have hrun : bytes (rest.length - 0) ⟨offset, rest, 0⟩ = .ok got after := hrun
  have hall := reads_bytes rest offset []
  rw [List.append_nil] at hall
  rw [Int.sub_zero, hall] at hrun
  cases hrun
  rfl

section
variable {write : α → Bytes} {Good : α → Prop} {done all : List α} {limit offset : Nat}
  {rest : Bytes} {after : Cursor}

theorem taken_of_untilEndAfter (h : item.Takes fun front a => front = write a ∧ Good a)
    (hne : ∀ a, write a ≠ []) (hlimit : rest.length ≤ limit)
    (hrun : untilEndAfter item limit done ⟨offset, rest, 0⟩ = .ok all after) :
    ∃ new, all = done.reverse ++ new ∧ rest = new.flatMap write ∧ ∀ a ∈ new, Good a := by
  induction limit generalizing rest offset done with
  | zero =>
    obtain rfl := List.eq_nil_of_length_eq_zero (Nat.le_zero.mp hlimit)
    cases hrun
    exact ⟨[], (List.append_nil _).symm, rfl, by simp⟩
  | succ limit ih =>
    by_cases hrest : rest = []
    · subst hrest
      rw [untilEndAfter_at_end] at hrun
      cases hrun
      exact ⟨[], (List.append_nil _).symm, rfl, by simp⟩
    · rw [untilEndAfter_inside hrest] at hrun
      obtain ⟨a, middle, hfirst, hrun⟩ := bind_eq_ok.mp hrun
      obtain ⟨_, back, rfl, rfl, rfl, ha⟩ := h offset rest a middle hfirst
      have hfront := List.length_pos_iff.mpr (hne a)
      have hback : back.length ≤ limit := by
        rw [List.length_append] at hlimit
        omega
      obtain ⟨new, rfl, rfl, hnew⟩ := ih hback hrun
      exact ⟨a :: new, by simp, rfl, List.forall_mem_cons.mpr ⟨ha, hnew⟩⟩

/-- Nothing of an input is left over when it is read as items up to its end. -/
theorem takesAll_untilEnd (h : item.Takes fun front a => front = write a ∧ Good a)
    (hne : ∀ a, write a ≠ []) :
    (untilEnd item).TakesAll fun rest all => rest = all.flatMap write ∧ ∀ a ∈ all, Good a := by
  intro offset rest all after hrun
  obtain ⟨new, rfl, hrest, hnew⟩ := taken_of_untilEndAfter h hne (Nat.le_refl _) hrun
  exact ⟨hrest, hnew⟩

end

/-! ### Bytes lacking -/

/-- What a reader complains of within an input is a shortage of bytes, or satisfies a predicate. -/
def Lacks (reader : Reader α) (Q : Bytes → FormatError → Prop) : Prop :=
  ∀ offset rest e after, reader ⟨offset, rest, 0⟩ = .error e after →
    e.IsShortage offset rest ∨ Q rest e

theorem lacks_pure (a : α) : Lacks (pure a) Q := by
  intro offset rest e after hrun
  cases hrun

theorem lacks_throw {e : FormatError} (h : ∀ rest, Q rest e) : Lacks (throw e : Reader α) Q := by
  intro offset rest e after hrun
  cases hrun
  exact .inr (h rest)

/-- What the last of two readers lacks, the input lacks behind what the first took. -/
theorem Lacks.bind (h : reader.Lacks Q) (htakes : reader.Takes P)
    (hnext : ∀ a front, P front a → (next a).Lacks fun back e => Q (front ++ back) e) :
    (reader >>= next).Lacks Q := by
  intro offset rest e after hrun
  rcases bind_eq_error.mp hrun with hrun | ⟨a, middle, hfirst, hrun⟩
  · exact h offset rest e after hrun
  · obtain ⟨front, back, rfl, rfl, ha⟩ := htakes offset rest a middle hfirst
    rcases hnext a front ha _ _ _ _ hrun with shortage | fault
    · left
      cases e with
      | unexpectedEnd need place left =>
        obtain ⟨hplace, hend, hleft⟩ := shortage
        refine ⟨by omega, ?_, hleft⟩
        rw [hend, List.length_append]
        omega
      | _ => exact shortage
    · exact .inr fault

/-- What is done to a value lacks nothing. -/
theorem Lacks.bind_pure {f : α → β} (h : reader.Lacks Q) :
    (do return f (← reader) : Reader β).Lacks Q := by
  intro offset rest e after hrun
  rcases bind_eq_error.mp hrun with hrun | ⟨_, _, _, hrun⟩
  · exact h offset rest e after hrun
  · cases hrun

theorem lacks_bytes {size : Int} (h : 0 ≤ size) : (bytes size).Lacks Q := by
  intro offset rest e after hrun
  rw [bytes_eq] at hrun
  split at hrun
  · cases hrun
  · next short =>
    cases hrun
    exact .inl ⟨Int.le_refl _, by omega, Int.natCast_nonneg _, by omega⟩

theorem lacks_number (width : Nat) : (number width).Lacks Q := by
  intro offset rest e after hrun
  rw [number_eq] at hrun
  split at hrun
  · cases hrun
  · next short =>
    cases hrun
    exact .inl ⟨Int.le_refl _, by omega, Int.natCast_nonneg _, by omega⟩

theorem lacks_countedString : countedString.Lacks Q :=
  (lacks_number 1).bind (takes_number 1) fun _ _ _ =>
    (lacks_bytes (Int.natCast_nonneg _)).bind_pure

/-- All that is left can be read. -/
theorem lacks_remainder : remainder.Lacks Q := by
  intro offset rest e after hrun
  rw [readsAll_remainder rest offset] at hrun
  cases hrun

/-- What is wrong with an input is that bytes are lacking in it, or what the reader tells. -/
theorem Lacks.parse (h : reader.Lacks Q) {input : Bytes} {e : FormatError}
    (hrun : reader.parse input = .error e) : e.IsShortage 0 input ∨ Q input e := by
  unfold Reader.parse at hrun
  split at hrun
  · cases hrun
  · next hfails =>
    cases hrun
    exact h 0 input e _ (Cursor.start_zero input ▸ hfails)

section
variable {done : List α} {Fault : FormatError → Prop}

/-- What is wrong with items is wrong with one of them. -/
theorem Lacks.timesAfter (h : item.Lacks fun _ => Fault) (htakes : item.Takes P) (count : Nat) :
    (timesAfter item count done).Lacks fun _ => Fault := by
  induction count generalizing done with
  | zero => exact lacks_pure _
  | succ count ih => exact h.bind htakes fun _ _ _ => ih

theorem Lacks.times (h : item.Lacks fun _ => Fault) (htakes : item.Takes P) (count : Nat) :
    (times count item).Lacks fun _ => Fault :=
  h.timesAfter htakes count

theorem Lacks.untilEndAfter (h : item.Lacks fun _ => Fault) (htakes : item.Takes P) (limit : Nat) :
    (untilEndAfter item limit done).Lacks fun _ => Fault := by
  induction limit generalizing done with
  | zero => exact lacks_pure _
  | succ limit ih =>
    intro offset rest e after hrun
    by_cases hrest : rest = []
    · subst hrest
      rw [untilEndAfter_at_end] at hrun
      cases hrun
    · rw [untilEndAfter_inside hrest] at hrun
      exact h.bind htakes (fun _ _ _ => ih) offset rest e after hrun

theorem Lacks.untilEnd (h : item.Lacks fun _ => Fault) (htakes : item.Takes P) :
    (untilEnd item).Lacks fun _ => Fault :=
  fun offset rest => h.untilEndAfter htakes rest.length offset rest

end

end Reader
end ObjectModule
