import RouterCard.Text.Bytes

namespace RouterCard.Text

section bigEndian

def bigEndian : ℕ → ℕ → Bytes
  | 0, _ => []
  | k + 1, n => bigEndian k (n / 256) ++ [UInt8.ofNat n]

variable {k l n : ℕ}

lemma length_bigEndian (k n : ℕ) : (bigEndian k n).length = k := by
  induction k generalizing n with
  | zero => rfl
  | succ k ih => rw [bigEndian, List.length_append, ih, List.length_singleton]

lemma bigEndian_add (k l n : ℕ) : bigEndian (k + l) n = bigEndian k (n / 256 ^ l) ++ bigEndian l n := by
  induction l generalizing n with
  | zero => rw [pow_zero, Nat.div_one, bigEndian, List.append_nil]; rfl
  | succ l ih =>
    rw [← Nat.add_assoc, bigEndian, ih, bigEndian, List.append_assoc, Nat.div_div_eq_div_mul, ← pow_succ']

lemma bigEndian_mod (k n : ℕ) : bigEndian k (n % 256 ^ k) = bigEndian k n := by
  induction k generalizing n with
  | zero => rfl
  | succ k ih =>
    have hdiv : n % 256 ^ (k + 1) / 256 = n / 256 % 256 ^ k := by
      rw [pow_succ', Nat.mod_mul_right_div_self]
    have hlast : UInt8.ofNat (n % 256 ^ (k + 1)) = UInt8.ofNat n := by
      apply UInt8.toNat_inj.mp
      rw [UInt8.toNat_ofNat', UInt8.toNat_ofNat', pow_succ']
      exact Nat.mod_mul_right_mod n 256 (256 ^ k)
    rw [bigEndian, hdiv, ih, hlast, bigEndian]

end bigEndian

section hex

def hexDigit (n : ℕ) : UInt8 := UInt8.ofNat (if n < 10 then 48 + n else 87 + n)

def hexValue (b : UInt8) : ℕ := if b.toNat < 58 then b.toNat - 48 else b.toNat - 87

def hexPair (b : UInt8) : Bytes := [hexDigit (b.toNat / 16), hexDigit (b.toNat % 16)]

def hexText (s : Bytes) : Bytes := s.flatMap hexPair

def hexBytes : Bytes → Bytes
  | a :: b :: s => UInt8.ofNat (16 * hexValue a + hexValue b) :: hexBytes s
  | _ => []

def isLowerHex (b : UInt8) : Bool := isDigit b || (97 ≤ b && b ≤ 102)

lemma hexValue_hexDigit : ∀ n < 16, hexValue (hexDigit n) = n := by decide

lemma isLowerHex_hexDigit : ∀ n < 16, isLowerHex (hexDigit n) = true := by decide

lemma isLowerHex_hexText {s : Bytes} {b : UInt8} (h : b ∈ hexText s) : isLowerHex b = true := by
  obtain ⟨a, -, hb⟩ := List.mem_flatMap.mp h
  have ha := a.toNat_lt
  rcases List.mem_cons.mp hb with rfl | hb
  · apply isLowerHex_hexDigit
    omega
  · rw [List.mem_singleton.mp hb]
    apply isLowerHex_hexDigit
    omega

lemma length_hexText (s : Bytes) : (hexText s).length = 2 * s.length := by
  induction s with
  | nil => rfl
  | cons a s ih =>
    have hcons : hexText (a :: s) = hexPair a ++ hexText s := rfl
    have hpair : (hexPair a).length = 2 := rfl
    rw [hcons, List.length_append, hpair, ih, List.length_cons]
    omega

lemma hexBytes_hexText (s : Bytes) : hexBytes (hexText s) = s := by
  induction s with
  | nil => rfl
  | cons a s ih =>
    have ha := a.toNat_lt
    have hcons : hexText (a :: s) = hexDigit (a.toNat / 16) :: hexDigit (a.toNat % 16) :: hexText s := rfl
    rw [hcons, hexBytes, ih, hexValue_hexDigit _ (by omega), hexValue_hexDigit _ (by omega), Nat.div_add_mod]
    exact congrArg (· :: s) (UInt8.ofNat_toNat)

end hex

end RouterCard.Text
