import Mathlib.Data.List.TakeWhile
import Mathlib.Tactic

/-! Byte strings, and the conversions of the C and C++ libraries that read them. -/

namespace RouterCard.Text

abbrev Bytes := List UInt8

def bytes (s : String) : Bytes := s.toUTF8.data.toList

def isDigit (b : UInt8) : Bool := 48 ≤ b && b ≤ 57

def isSpace (b : UInt8) : Bool := b == 32 || (9 ≤ b && b ≤ 13)

def isWord (b : UInt8) : Bool :=
  isDigit b || (65 ≤ b && b ≤ 90) || (97 ≤ b && b ≤ 122) || b == 95

def ofInt (n : Int) : Bytes := bytes (toString n)

def breakAt (p : UInt8 → Bool) (s : Bytes) : Bytes × Bytes := s.span (fun b => !p b)

def cString (s : Bytes) : Bytes := s.takeWhile (· != 0)

lemma cString_of_not_mem {s : Bytes} (h : (0 : UInt8) ∉ s) : cString s = s := by
  refine List.takeWhile_eq_self_iff.mpr fun b hb => ?_
  simpa using fun hz : b = 0 => h (hz ▸ hb)

def getline (s : Bytes) : Option Bytes :=
  if s = [] then none else some (breakAt (· == 10) s).1

def natOfDigits (s : Bytes) : ℕ := s.foldl (fun n b => 10 * n + (b.toNat - 48)) 0

def hasSign (s : Bytes) : Bool := s.head?.any fun b => b == 45 || b == 43

def dropSign (s : Bytes) : Bytes := if hasSign s then s.tail else s

inductive StoiError where
  | invalidArgument
  | outOfRange
  deriving DecidableEq, Repr

def stoi (s : Bytes) : Except StoiError ℤ :=
  let t := s.dropWhile isSpace
  let digits := (dropSign t).takeWhile isDigit
  let value : ℤ := if t.head? = some 45 then -(natOfDigits digits : ℤ) else natOfDigits digits
  if digits = [] then .error .invalidArgument
  else if -2147483648 ≤ value ∧ value ≤ 2147483647 then .ok value
  else .error .outOfRange

-- Whether the number rounds to more than the greatest double.
def overflowsDouble (digits : Bytes) (scale : ℤ) : Bool :=
  if natOfDigits digits = 0 ∨ digits.length + scale ≤ 308 then false
  else if 309 ≤ scale then true
  else (2 ^ 54 - 1) * 2 ^ 970 * 10 ^ (-scale).toNat ≤ natOfDigits digits * 10 ^ scale.toNat

def doubleText (s : Bytes) : Option Bytes :=
  let t := s.dropWhile isSpace
  let sign := if hasSign t then t.take 1 else []
  let whole := (dropSign t).takeWhile isDigit
  let afterWhole := (dropSign t).dropWhile isDigit
  let fraction := if afterWhole.head? = some 46 then afterWhole.tail.takeWhile isDigit else []
  let point := if afterWhole.head? = some 46 then [46] else []
  let afterFraction := afterWhole.drop (point.length + fraction.length)
  if whole ++ fraction = [] then none
  else if afterFraction.head?.any (fun b => b == 101 || b == 69) then
    let exponentSign := if hasSign afterFraction.tail then afterFraction.tail.take 1 else []
    let exponent := (dropSign afterFraction.tail).takeWhile isDigit
    let power : ℤ := if exponentSign = [45] then -(natOfDigits exponent : ℤ) else natOfDigits exponent
    if exponent = [] ∨ overflowsDouble (whole ++ fraction) (power - fraction.length) then none
    else some (sign ++ whole ++ point ++ fraction ++ afterFraction.take 1 ++ exponentSign ++ exponent)
  else if overflowsDouble (whole ++ fraction) (-fraction.length) then none
  else some (sign ++ whole ++ point ++ fraction)

structure Utf8State where
  pending : ℕ
  size : ℕ
  value : ℕ
  deriving DecidableEq

def utf8Start : Utf8State := ⟨0, 0, 0⟩

def utf8First (b : ℕ) : Option Utf8State :=
  if b < 0x80 then some utf8Start
  else if b < 0xC2 then none
  else if b < 0xE0 then some ⟨1, 2, b - 0xC0⟩
  else if b < 0xF0 then some ⟨2, 3, b - 0xE0⟩
  else if b < 0xF5 then some ⟨3, 4, b - 0xF0⟩
  else none

def utf8Scalar (size value : ℕ) : Bool :=
  (size == 2 || (size == 3 && 0x800 ≤ value) || (size == 4 && 0x10000 ≤ value)) &&
    value ≤ 0x10FFFF && !(0xD800 ≤ value && value ≤ 0xDFFF)

def utf8Step (s : Utf8State) (b : UInt8) : Option Utf8State :=
  if s.pending = 0 then utf8First b.toNat
  else if 0x80 ≤ b.toNat ∧ b.toNat < 0xC0 then
    let value := 64 * s.value + (b.toNat - 0x80)
    if s.pending = 1 then if utf8Scalar s.size value then some utf8Start else none
    else some ⟨s.pending - 1, s.size, value⟩
  else none

def validUtf8 (s : Bytes) : Bool :=
  match s.foldlM utf8Step utf8Start with
  | some t => t.pending == 0
  | none => false

lemma validUtf8_ascii {s : Bytes} (h : ∀ b ∈ s, b.toNat < 0x80) : validUtf8 s = true := by
  suffices hs : s.foldlM utf8Step utf8Start = some utf8Start by rw [validUtf8, hs]; rfl
  induction s with
  | nil => rfl
  | cons b s ih =>
    have hb : utf8Step utf8Start b = some utf8Start := by
      simp [utf8Step, utf8First, utf8Start, h b (List.mem_cons_self ..)]
    rw [List.foldlM_cons, hb]
    exact ih fun c hc => h c (List.mem_cons_of_mem b hc)

example : stoi (bytes " -12abc") = .ok (-12) := by decide
example : doubleText (bytes "350735.47 234388.90") = some (bytes "350735.47") := by decide
example : doubleText (bytes "1e309") = none := by decide

end RouterCard.Text
