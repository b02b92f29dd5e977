import RouterCard.Hashing.Blocks
import RouterCard.Hashing.RootBits
import RouterCard.Text.BigEndian

/-! The SHA-256 digest, as the standard defines it: on 32-bit words, with constants taken
from the roots of the first prime numbers. -/

namespace RouterCard.Hashing

open Text

structure Registers (α : Type) where
  a : α
  b : α
  c : α
  d : α
  e : α
  f : α
  g : α
  h : α

namespace Registers

variable {α β γ : Type}

def map (φ : α → β) (v : Registers α) : Registers β := ⟨φ v.a, φ v.b, φ v.c, φ v.d, φ v.e, φ v.f, φ v.g, φ v.h⟩

def zipWith (φ : α → β → γ) (v : Registers α) (u : Registers β) : Registers γ :=
  ⟨φ v.a u.a, φ v.b u.b, φ v.c u.c, φ v.d u.d, φ v.e u.e, φ v.f u.f, φ v.g u.g, φ v.h u.h⟩

def toList (v : Registers α) : List α := [v.a, v.b, v.c, v.d, v.e, v.f, v.g, v.h]

lemma toList_map (φ : α → β) (v : Registers α) : (v.map φ).toList = v.toList.map φ := rfl

end Registers

namespace Sha256

abbrev Word := BitVec 32

section words

def ch (x y z : Word) : Word := (x &&& y) ^^^ (~~~x &&& z)

def maj (x y z : Word) : Word := (x &&& y) ^^^ (x &&& z) ^^^ (y &&& z)

def bigSigma0 (x : Word) : Word := x.rotateRight 2 ^^^ x.rotateRight 13 ^^^ x.rotateRight 22

def bigSigma1 (x : Word) : Word := x.rotateRight 6 ^^^ x.rotateRight 11 ^^^ x.rotateRight 25

def smallSigma0 (x : Word) : Word := x.rotateRight 7 ^^^ x.rotateRight 18 ^^^ x >>> 3

def smallSigma1 (x : Word) : Word := x.rotateRight 17 ^^^ x.rotateRight 19 ^^^ x >>> 10

/-- The first 32 bits of the fractional part of the `n`-th root of the prime number `i`. -/
noncomputable def primeRoot (n i : ℕ) : Word := .ofNat 32 (fractionBits 32 ((Nat.nth Nat.Prime i : ℝ) ^ (n : ℝ)⁻¹))

noncomputable def initial : Registers Word :=
  ⟨primeRoot 2 0, primeRoot 2 1, primeRoot 2 2, primeRoot 2 3, primeRoot 2 4, primeRoot 2 5, primeRoot 2 6, primeRoot 2 7⟩

end words

section digest

def messageWord (block : Bytes) (t : ℕ) : Word :=
  (block.getD (4 * t) 0).toBitVec ++ (block.getD (4 * t + 1) 0).toBitVec ++ (block.getD (4 * t + 2) 0).toBitVec ++
    (block.getD (4 * t + 3) 0).toBitVec

def schedule (block : Bytes) (t : ℕ) : Word :=
  if t < 16 then messageWord block t
  else smallSigma1 (schedule block (t - 2)) + schedule block (t - 7) + smallSigma0 (schedule block (t - 15)) +
    schedule block (t - 16)

def round (k w : Word) (v : Registers Word) : Registers Word :=
  let t₁ := v.h + bigSigma1 v.e + ch v.e v.f v.g + k + w
  let t₂ := bigSigma0 v.a + maj v.a v.b v.c
  ⟨t₁ + t₂, v.a, v.b, v.c, v.d + t₁, v.e, v.f, v.g⟩

noncomputable def compress (hash : Registers Word) (block : Bytes) : Registers Word :=
  hash.zipWith (· + ·) ((List.range 64).foldl (fun v t => round (primeRoot 3 t) (schedule block t) v) hash)

def padding (length : ℕ) : Bytes := 0x80 :: List.replicate ((119 - length % 64) % 64) 0 ++ bigEndian 8 (8 * length)

def digest (hash : Registers Word) : Bytes := hash.toList.flatMap fun x => bigEndian 4 x.toNat

noncomputable def sha256 (message : Bytes) : Bytes :=
  digest (absorb 64 compress initial (message ++ padding message.length)).1

end digest

lemma schedule_of_lt (block : Bytes) {t : ℕ} (ht : t < 16) : schedule block t = messageWord block t := by
  rw [schedule, if_pos ht]

lemma schedule_of_le (block : Bytes) (t : ℕ) : schedule block (t + 16) = smallSigma1 (schedule block (t + 14)) +
    schedule block (t + 9) + smallSigma0 (schedule block (t + 1)) + schedule block t := by
  rw [schedule, if_neg (by omega)]
  rfl

lemma length_digest (hash : Registers Word) : (digest hash).length = 32 := by
  simp [digest, Registers.toList, length_bigEndian]

lemma length_sha256 (message : Bytes) : (sha256 message).length = 32 := length_digest _

lemma primeRoot_eq {n i p r d : ℕ} (hn : n ≠ 0) (hp : p.Prime) (hi : Nat.count Nat.Prime p = i) (hd : d < 2 ^ 32)
    (hl : (r * 2 ^ 32 + d) ^ n ≤ p * (2 ^ 32) ^ n) (hu : p * (2 ^ 32) ^ n < (r * 2 ^ 32 + d + 1) ^ n) :
    primeRoot n i = .ofNat 32 d := by
  rw [primeRoot, nth_prime_eq hp hi, fractionBits_root hn hd hl hu]

end Sha256

end RouterCard.Hashing
