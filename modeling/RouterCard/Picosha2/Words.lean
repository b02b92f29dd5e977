import RouterCard.Hashing.Sha256

namespace RouterCard.Picosha2

open Text Hashing

section source

variable {w : ℕ}

abbrev Word (w : ℕ) := BitVec w

def mask32bit (x : Word w) : Word w := x &&& BitVec.ofNat w 0xffffffff

def addConstant : List ℕ :=
  [0x428a2f98, 0x71374491, 0xb5c0fbcf, 0xe9b5dba5, 0x3956c25b, 0x59f111f1, 0x923f82a4, 0xab1c5ed5,
    0xd807aa98, 0x12835b01, 0x243185be, 0x550c7dc3, 0x72be5d74, 0x80deb1fe, 0x9bdc06a7, 0xc19bf174,
    0xe49b69c1, 0xefbe4786, 0x0fc19dc6, 0x240ca1cc, 0x2de92c6f, 0x4a7484aa, 0x5cb0a9dc, 0x76f988da,
    0x983e5152, 0xa831c66d, 0xb00327c8, 0xbf597fc7, 0xc6e00bf3, 0xd5a79147, 0x06ca6351, 0x14292967,
    0x27b70a85, 0x2e1b2138, 0x4d2c6dfc, 0x53380d13, 0x650a7354, 0x766a0abb, 0x81c2c92e, 0x92722c85,
    0xa2bfe8a1, 0xa81a664b, 0xc24b8b70, 0xc76c51a3, 0xd192e819, 0xd6990624, 0xf40e3585, 0x106aa070,
    0x19a4c116, 0x1e376c08, 0x2748774c, 0x34b0bcb5, 0x391c0cb3, 0x4ed8aa4a, 0x5b9cca4f, 0x682e6ff3,
    0x748f82ee, 0x78a5636f, 0x84c87814, 0x8cc70208, 0x90befffa, 0xa4506ceb, 0xbef9a3f7, 0xc67178f2]

def initialMessageDigest : Registers ℕ :=
  ⟨0x6a09e667, 0xbb67ae85, 0x3c6ef372, 0xa54ff53a, 0x510e527f, 0x9b05688c, 0x1f83d9ab, 0x5be0cd19⟩

def ch (x y z : Word w) : Word w := (x &&& y) ^^^ (~~~x &&& z)

def maj (x y z : Word w) : Word w := (x &&& y) ^^^ (x &&& z) ^^^ (y &&& z)

def rotr (x : Word w) (n : ℕ) : Word w := mask32bit (x >>> n ||| x <<< (32 - n))

def bsig0 (x : Word w) : Word w := rotr x 2 ^^^ rotr x 13 ^^^ rotr x 22

def bsig1 (x : Word w) : Word w := rotr x 6 ^^^ rotr x 11 ^^^ rotr x 25

def shr (x : Word w) (n : ℕ) : Word w := x >>> n

def ssig0 (x : Word w) : Word w := rotr x 7 ^^^ rotr x 18 ^^^ shr x 3

def ssig1 (x : Word w) : Word w := rotr x 17 ^^^ rotr x 19 ^^^ shr x 10

section block

def byteWord (block : Bytes) (i : ℕ) : Word w := (block.getD i 0).toBitVec.setWidth w

def inputWord (block : Bytes) (i : ℕ) : Word w :=
  byteWord block (i * 4) <<< 24 ||| byteWord block (i * 4 + 1) <<< 16 ||| byteWord block (i * 4 + 2) <<< 8 |||
    byteWord block (i * 4 + 3)

-- The array `w` as far as it is filled; behind that it holds zeros.
def extend : ℕ → List (Word w) → List (Word w)
  | 0, ws => ws
  | k + 1, ws =>
    let i := ws.length
    extend k (ws ++ [mask32bit (ssig1 (ws.getD (i - 2) 0) + ws.getD (i - 7) 0 + ssig0 (ws.getD (i - 15) 0) +
      ws.getD (i - 16) 0)])

def words (block : Bytes) : List (Word w) := extend 48 ((List.range 16).map (inputWord block))

def round (k x : Word w) (v : Registers (Word w)) : Registers (Word w) :=
  let temp1 := v.h + bsig1 v.e + ch v.e v.f v.g + k + x
  let temp2 := bsig0 v.a + maj v.a v.b v.c
  ⟨mask32bit (temp1 + temp2), v.a, v.b, v.c, mask32bit (v.d + temp1), v.e, v.f, v.g⟩

def hash256Block (messageDigest : Registers (Word w)) (block : Bytes) : Registers (Word w) :=
  let ws := words block
  let v := (List.range 64).foldl (fun v i => round (.ofNat w (addConstant.getD i 0)) (ws.getD i 0) v) messageDigest
  (messageDigest.zipWith (· + ·) v).map mask32bit

end block

end source

section truncation

variable {w : ℕ}

abbrev lift (w : ℕ) (x : Sha256.Word) : Word w := x.setWidth w

lemma setWidth_lift (hw : 32 ≤ w) (x : Sha256.Word) : (lift w x).setWidth 32 = x := by
  rw [BitVec.setWidth_setWidth_of_le _ hw, BitVec.setWidth_eq]

lemma mask32bit_eq (x : Word w) : mask32bit x = lift w (x.setWidth 32) := by
  have hmask : ∀ i, (0xffffffff : ℕ).testBit i = decide (i < 32) := Nat.testBit_two_pow_sub_one 32
  apply BitVec.eq_of_getLsbD_eq
  intro i hi
  rw [mask32bit, BitVec.getLsbD_and, BitVec.getLsbD_ofNat, BitVec.getLsbD_setWidth, BitVec.getLsbD_setWidth, hmask]
  simp [hi, Bool.and_comm]

lemma setWidth_rotr {x : Word w} (hw : 32 ≤ w) {y : Sha256.Word} (hx : x = lift w y) {n : ℕ} (hn : n < 32) :
    rotr x n = lift w (y.rotateRight n) := by
  subst hx
  rw [rotr, mask32bit_eq]
  apply congrArg
  apply BitVec.eq_of_getLsbD_eq
  intro i hi
  rw [BitVec.getLsbD_setWidth, BitVec.getLsbD_or, BitVec.getLsbD_ushiftRight, BitVec.getLsbD_shiftLeft,
    BitVec.getLsbD_setWidth, BitVec.getLsbD_setWidth, BitVec.getLsbD_rotateRight_of_lt hn]
  by_cases h : i < 32 - n
  · simp [h, hi, show n + i < w by omega]
  · have hhigh : y.getLsbD (n + i) = false := BitVec.getLsbD_of_ge y _ (by omega)
    simp [h, hi, hhigh, show i < w by omega, show i - (32 - n) < w by omega]

end truncation

end RouterCard.Picosha2
