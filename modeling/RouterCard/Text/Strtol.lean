import RouterCard.Text.Bytes

namespace RouterCard.Text

-- 36 for a byte that is no digit in any base.
def digitValue (b : UInt8) : ℕ :=
  if isDigit b then b.toNat - 48
  else if 97 ≤ b && b ≤ 122 then b.toNat - 87
  else if 65 ≤ b && b ≤ 90 then b.toNat - 55
  else 36

def numberIn (base : ℕ) (s : Bytes) : ℕ :=
  (s.takeWhile fun b => digitValue b < base).foldl (fun n b => base * n + digitValue b) 0

def hasHexPrefix : Bytes → Bool
  | a :: x :: b :: _ => a == 48 && (x == 120 || x == 88) && digitValue b < 16
  | _ => false

def strtol (s : Bytes) : ℤ :=
  let t := s.dropWhile isSpace
  let u := dropSign t
  let value := if hasHexPrefix u then numberIn 16 (u.drop 2) else if u.head? = some 48 then numberIn 8 u else numberIn 10 u
  if t.head? = some 45 then -value else value

lemma hexDigit_ne_zero {b : UInt8} (h : digitValue b < 16) : b ≠ 0 := by
  rintro rfl
  exact absurd h (by decide)

lemma strtol_hexPair {a b : UInt8} (ha : digitValue a < 16) (hb : digitValue b < 16) :
    strtol [48, 120, a, b] = 16 * digitValue a + digitValue b := by
  have hspace : [48, 120, a, b].dropWhile isSpace = [48, 120, a, b] := by simp [isSpace]
  have hsign : dropSign [48, 120, a, b] = [48, 120, a, b] := by simp [dropSign, hasSign]
  have hprefix : hasHexPrefix [48, 120, a, b] = true := by simp [hasHexPrefix, ha]
  have hnumber : numberIn 16 [a, b] = 16 * digitValue a + digitValue b := by simp [numberIn, ha, hb]
  have hminus : ([48, 120, a, b] : Bytes).head? ≠ some 45 := by simp
  rw [strtol, hspace, hsign, if_neg hminus, hprefix, if_pos rfl]
  exact congrArg Nat.cast hnumber

example : strtol (bytes "0x1fz") = 31 := by decide

end RouterCard.Text
