import Mathlib.Data.List.Basic
import ObjectModule.Text.Hex
import ObjectModule.Text.Integer

/-! Numbers in base sixteen, read back.

What is written in hexadecimal digits, with zeros before them or a sign, is read as the number it
was written for (`hexInteger?_paddedHex`). -/
namespace ObjectModule.Text

/-- The value of a hexadecimal digit. -/
def hexDigit? (c : Char) : Option Nat := (digitValue? c).filter (· < 16)

/-- The number that hexadecimal digits write behind those of another. -/
def hexContinued? (value : Nat) (digits : List Char) : Option Nat :=
  digits.foldlM (fun value c => (value * 16 + ·) <$> hexDigit? c) value

/-- The number that hexadecimal digits write, of which there must be one. -/
def hexNatural? (digits : List Char) : Option Nat :=
  if digits = [] then none else hexContinued? 0 digits

/-- The number that hexadecimal digits write behind a sign, if there is one. -/
def hexInteger? (text : List Char) : Option Int := signed? hexNatural? text

/-- The digits of a number are digits in its base. -/
theorem exists_of_mem_toDigits {base n : Nat} {c : Char} (hbase : 1 < base)
    (h : c ∈ Nat.toDigits base n) : ∃ d < base, c = d.digitChar := by
  induction n using Nat.strongRecOn with
  | ind n ih =>
    rw [Nat.toDigits_eq_if hbase] at h
    split at h
    · next small => exact ⟨n, small, List.mem_singleton.mp h⟩
    · next large =>
      rcases List.mem_append.mp h with h | h
      · exact ih (n / base) (Nat.div_lt_self (by omega) hbase) h
      · exact ⟨n % base, Nat.mod_lt n (by omega), List.mem_singleton.mp h⟩

theorem hexDigit?_digitChar {d : Nat} (h : d < 16) : hexDigit? d.digitChar = some d := by
  have all : ∀ d : Fin 16, hexDigit? d.val.digitChar = some d.val := by decide
  exact all ⟨d, h⟩

theorem hexContinued?_append (value : Nat) (front back : List Char) :
    hexContinued? value (front ++ back) =
      (hexContinued? value front).bind fun value => hexContinued? value back := by
  rw [hexContinued?, List.foldlM_append]
  rfl

theorem hexContinued?_singleton {d : Nat} (value : Nat) (h : d < 16) :
    hexContinued? value [d.digitChar] = some (value * 16 + d) := by
  simp [hexContinued?, hexDigit?_digitChar h]

theorem hexContinued?_zeros (count : Nat) :
    hexContinued? 0 (List.replicate count '0') = some 0 := by
  induction count with
  | zero => rfl
  | succ count ih =>
    rw [List.replicate_succ', hexContinued?_append, ih]
    rfl

theorem hexContinued?_toDigits (n : Nat) : hexContinued? 0 (Nat.toDigits 16 n) = some n := by
  induction n using Nat.strongRecOn with
  | ind n ih =>
    rw [Nat.toDigits_eq_if (by decide)]
    split
    · next small =>
      rw [hexContinued?_singleton 0 small, Nat.zero_mul, Nat.zero_add]
    · next large =>
      rw [hexContinued?_append, ih (n / 16) (by omega)]
      show hexContinued? (n / 16) _ = _
      rw [hexContinued?_singleton _ (Nat.mod_lt n (by decide)), Nat.mul_comm, Nat.div_add_mod]

/-- Zeros in front of a number change nothing. -/
theorem hexNatural?_padded (count n : Nat) :
    hexNatural? (List.replicate count '0' ++ Nat.toDigits 16 n) = some n := by
  have some : List.replicate count '0' ++ Nat.toDigits 16 n ≠ [] := by
    simp [Nat.toDigits_ne_nil]
  rw [hexNatural?, if_neg some, hexContinued?_append, hexContinued?_zeros]
  exact hexContinued?_toDigits n

/-- Whether a character is one that numbers are written with. -/
def IsMark (c : Char) : Prop := c = '-' ∨ ∃ d < 16, c = Nat.digitChar d

theorem isMark_of_mem_padded {c : Char} {count n : Nat}
    (h : c ∈ List.replicate count '0' ++ Nat.toDigits 16 n) : ∃ d < 16, c = Nat.digitChar d := by
  rcases List.mem_append.mp h with h | h
  · exact ⟨0, by decide, List.eq_of_mem_replicate h⟩
  · exact exists_of_mem_toDigits (by decide) h

theorem isMark_paddedHex (width : Nat) (n : Int) : ∀ c ∈ (paddedHex width n).toList, IsMark c := by
  intro c hc
  unfold paddedHex at hc
  dsimp only at hc
  split at hc
  · rw [String.toList_ofList, List.cons_append] at hc
    rcases List.mem_cons.mp hc with rfl | hc
    · exact .inl rfl
    · exact .inr (isMark_of_mem_padded hc)
  · rw [String.toList_ofList] at hc
    exact .inr (isMark_of_mem_padded hc)

theorem isMark_hexDigits (n : Nat) : ∀ c ∈ (hexDigits n).toList, IsMark c := by
  intro c hc
  rw [hexDigits, String.toList_ofList] at hc
  exact .inr (exists_of_mem_toDigits (by decide) hc)

/-- What holds of the minus sign and of all hexadecimal digits. -/
@[elab_as_elim]
theorem IsMark.elim {motive : Char → Prop} {c : Char} (h : IsMark c) (sign : motive '-')
    (digits : ∀ d : Fin 16, motive d.val.digitChar) : motive c := by
  rcases h with rfl | ⟨d, hd, rfl⟩
  · exact sign
  · exact digits ⟨d, hd⟩

/-- **A number written in base sixteen is read back.** -/
theorem hexInteger?_paddedHex (width : Nat) (n : Int) :
    hexInteger? (paddedHex width n).toList = some n := by
  unfold paddedHex
  dsimp only
  split
  · next negative =>
    rw [String.toList_ofList, List.cons_append, hexInteger?, signed?, hexNatural?_padded]
    show some (-(n.natAbs : Int)) = some n
    congr 1
    omega
  · next natural =>
    rw [String.toList_ofList, hexInteger?]
    have hread := hexNatural?_padded (width - (Nat.toDigits 16 n.natAbs).length) n.natAbs
    have hmarks : ∀ c ∈ List.replicate (width - (Nat.toDigits 16 n.natAbs).length) '0' ++
        Nat.toDigits 16 n.natAbs, c ≠ '-' ∧ c ≠ '+' := by
      intro c hc
      obtain ⟨d, hd, rfl⟩ := isMark_of_mem_padded hc
      have all : ∀ d : Fin 16, d.val.digitChar ≠ '-' ∧ d.val.digitChar ≠ '+' := by decide
      exact all ⟨d, hd⟩
    generalize List.replicate (width - (Nat.toDigits 16 n.natAbs).length) '0' ++
      Nat.toDigits 16 n.natAbs = text at hread hmarks
    unfold signed?
    split
    · exact absurd rfl (hmarks _ List.mem_cons_self).1
    · exact absurd rfl (hmarks _ List.mem_cons_self).2
    · rw [hread]
      show some (n.natAbs : Int) = some n
      congr 1
      omega

/-- A byte is written in two digits. -/
theorem exists_digits_of_lt {n : Nat} (h : n < 256) :
    ∃ c d, (paddedHex 2 n).toList = [c, d] ∧ hexNatural? [c, d] = some n := by
  have hlength : (Nat.toDigits 16 n).length ≤ 2 :=
    (Nat.length_toDigits_le_iff (by decide) (by decide)).mpr h
  have hread := hexNatural?_padded (2 - (Nat.toDigits 16 n).length) n
  have hlist : (paddedHex 2 n).toList =
      List.replicate (2 - (Nat.toDigits 16 n).length) '0' ++ Nat.toDigits 16 n := by
    have natural : ¬ (n : Int) < 0 := by omega
    rw [paddedHex, if_neg natural, String.toList_ofList]
    rfl
  have htwo : (List.replicate (2 - (Nat.toDigits 16 n).length) '0' ++
      Nat.toDigits 16 n).length = 2 := by
    rw [List.length_append, List.length_replicate]
    omega
  rw [hlist]
  obtain ⟨c, d, hcd⟩ := List.length_eq_two.mp htwo
  rw [hcd] at hread ⊢
  exact ⟨c, d, rfl, hread⟩

end ObjectModule.Text
