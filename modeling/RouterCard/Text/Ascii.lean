import RouterCard.Text.Bytes

namespace RouterCard.Text

def IsAscii (s : Bytes) : Prop := ∀ b ∈ s, 0 < b.toNat ∧ b.toNat < 0x80

instance (s : Bytes) : Decidable (IsAscii s) := List.decidableBAll (fun b : UInt8 => 0 < b.toNat ∧ b.toNat < 0x80) s

lemma IsAscii.append {s t : Bytes} (hs : IsAscii s) (ht : IsAscii t) : IsAscii (s ++ t) :=
  List.forall_mem_append.mpr ⟨hs, ht⟩

lemma bytes_eq (s : String) : bytes s = s.toList.flatMap String.utf8EncodeChar := by
  rw [bytes, String.toUTF8, ← String.utf8Encode_toList]
  simp [List.utf8Encode]

lemma bytes_append (s t : String) : bytes (s ++ t) = bytes s ++ bytes t := by
  rw [bytes_eq, bytes_eq, bytes_eq, String.toList_append, List.flatMap_append]

lemma isAscii_bytes {s : String} (h : ∀ c ∈ s.toList, 0 < c.toNat ∧ c.toNat < 0x80) : IsAscii (bytes s) := by
  intro b hb
  rw [bytes_eq] at hb
  obtain ⟨c, hc, hb⟩ := List.mem_flatMap.mp hb
  obtain ⟨hpos, hlt⟩ := h c hc
  have hval : c.val.toNat = c.toNat := rfl
  have hsize : c.utf8Size = 1 := by
    rw [Char.utf8Size_eq_one_iff, UInt32.le_iff_toNat_le, hval]
    exact Nat.le_of_lt_succ hlt
  rw [String.utf8EncodeChar_eq_singleton hsize] at hb
  obtain rfl := List.mem_singleton.mp hb
  rw [UInt32.toNat_toUInt8, hval]
  omega

lemma isAscii_repr (n : ℕ) : IsAscii (bytes n.repr) := by
  apply isAscii_bytes
  intro c hc
  rw [Nat.toList_repr] at hc
  have hdigit := Nat.isDigit_of_mem_toDigits (by decide) (by decide) hc
  obtain ⟨hlow, hhigh⟩ : 48 ≤ c.toNat ∧ c.toNat ≤ 57 := Char.isDigit_iff_toNat.mp hdigit
  exact ⟨by omega, by omega⟩

lemma isAscii_ofInt (n : ℤ) : IsAscii (ofInt n) := by
  cases n with
  | ofNat n => exact isAscii_repr n
  | negSucc n =>
    have hminus : ofInt (.negSucc n) = bytes "-" ++ bytes (n + 1).repr := bytes_append "-" (n + 1).repr
    rw [hminus]
    exact .append (by decide) (isAscii_repr _)

end RouterCard.Text
