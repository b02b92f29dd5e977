import RouterCard.Picosha2.Block

namespace RouterCard.Picosha2

open Text Hashing

section source

variable {w : ℕ}

structure Hasher (w : ℕ) where
  buffer : Bytes
  dataLengthDigits : List (Word w)
  h : Registers (Word w)

def init : Hasher w := ⟨[], [0, 0, 0, 0], initialMessageDigest.map (BitVec.ofNat w)⟩

def low16 (x : Word w) : Word w := x &&& BitVec.ofNat w 65535

def addCarry : Word w → List (Word w) → List (Word w)
  | _, [] => []
  | carry, d :: ds =>
    let d := d + carry
    if 65536 ≤ d.toNat then low16 d :: addCarry (d >>> 16) ds else d :: ds

def addToDataLength (n : Word w) : List (Word w) → List (Word w)
  | [] => []
  | d :: ds => addCarry 0 ((d + n) :: ds)

def process (x : Hasher w) (data : Bytes) : Hasher w :=
  let buffer := x.buffer ++ data
  -- the blocks of the loop: from the offsets i with i + 64 <= buffer_.size()
  let count := buffer.length / 64
  ⟨buffer.drop (64 * count), addToDataLength (.ofNat w data.length) x.dataLengthDigits,
    (List.range count).foldl (fun h i => hash256Block h ((buffer.drop (64 * i)).take 64)) x.h⟩

section finish

def toByte (x : Word w) : UInt8 := .ofBitVec (x.setWidth 8)

def shiftDigits : Word w → List (Word w) → List (Word w)
  | _, [] => []
  | carry, d :: ds => low16 (d <<< 3 ||| carry) :: shiftDigits (low16 (d >>> (16 - 3))) ds

def writeDataBitLength (digits : List (Word w)) : Bytes :=
  (shiftDigits 0 digits).reverse.flatMap fun d : Word w => [toByte (d >>> 8), toByte d]

def store (temp : Bytes) (i : ℕ) (data : Bytes) : Option Bytes :=
  if i + data.length ≤ temp.length then some (temp.take i ++ data ++ temp.drop (i + data.length)) else none

def fill (temp : Bytes) (first last : ℕ) : Option Bytes :=
  if first ≤ last then store temp first (List.replicate (last - first) 0) else none

def lastBlocks (h : Registers (Word w)) (temp : Bytes) (remains : ℕ) : Option (Registers (Word w) × Bytes) :=
  if 55 < remains then do
    let temp ← fill temp (remains + 1) 64
    let cleared ← fill temp 0 (64 - 4)
    return (hash256Block h temp, cleared)
  else do
    let temp ← fill temp (remains + 1) (64 - 4)
    return (h, temp)

def finish (x : Hasher w) : Option (Hasher w) := do
  let remains := x.buffer.length
  let temp ← store (List.replicate 64 0) 0 x.buffer
  let temp ← store temp remains [0x80]
  let (h, temp) ← lastBlocks x.h temp remains
  let temp ← store temp 56 (writeDataBitLength x.dataLengthDigits)
  return { x with h := hash256Block h temp }

-- The two loops stop where the output ends.
def getHashBytes (x : Hasher w) (size : ℕ) : Bytes :=
  (x.h.toList.flatMap fun word : Word w => (List.range 4).map fun i => toByte (word >>> (24 - 8 * i))).take size

end finish

end source

variable {w : ℕ}

section digits

def digitsValue (ds : List (Word w)) : ℕ := Nat.ofDigits 65536 (ds.map BitVec.toNat)

def AreDigits (ds : List (Word w)) : Prop := ∀ d ∈ ds, d.toNat < 65536

lemma digitsValue_cons (d : Word w) (ds : List (Word w)) : digitsValue (d :: ds) = d.toNat + 65536 * digitsValue ds := by
  rw [digitsValue, List.map_cons, Nat.ofDigits_cons]
  rfl

lemma digitsValue_lt {ds : List (Word w)} (h : AreDigits ds) : digitsValue ds < 65536 ^ ds.length := by
  have hlt := Nat.ofDigits_lt_base_pow_length (b := 65536) (l := ds.map BitVec.toNat) (by decide) fun x hx => by
    obtain ⟨d, hd, rfl⟩ := List.mem_map.mp hx
    exact h d hd
  rwa [List.length_map] at hlt

lemma toNat_low16 (hw : 32 ≤ w) (x : Word w) : (low16 x).toNat = x.toNat % 65536 := by
  have hpow : 2 ^ 32 ≤ 2 ^ w := Nat.pow_le_pow_right (by decide) hw
  have hmask : (BitVec.ofNat w 65535).toNat = 2 ^ 16 - 1 := by
    rw [BitVec.toNat_ofNat, Nat.mod_eq_of_lt (by omega)]
    rfl
  rw [low16, BitVec.toNat_and, hmask, Nat.and_two_pow_sub_one_eq_mod]

structure Counts (ds : List (Word w)) (k n : ℕ) : Prop where
  areDigits : AreDigits ds
  length : ds.length = k
  value : digitsValue ds = n % 65536 ^ k

lemma Counts.cons {ds : List (Word w)} {k n m : ℕ} {d : Word w} (hd : d.toNat = n % 65536) (hm : n / 65536 = m)
    (h : Counts ds k m) : Counts (d :: ds) (k + 1) n := by
  subst hm
  refine ⟨List.forall_mem_cons.mpr ⟨by omega, h.areDigits⟩, by rw [List.length_cons, h.length], ?_⟩
  rw [digitsValue_cons, hd, h.value, pow_succ', Nat.mod_mul]

lemma Counts.nil (n : ℕ) : Counts ([] : List (Word w)) 0 n := ⟨by simp [AreDigits], rfl, by simp [digitsValue, Nat.mod_one]⟩

lemma counts_self {ds : List (Word w)} (h : AreDigits ds) : Counts ds ds.length (digitsValue ds) :=
  ⟨h, rfl, (Nat.mod_eq_of_lt (digitsValue_lt h)).symm⟩

lemma counts_addCarry (hw : 32 ≤ w) {carry d : Word w} {ds : List (Word w)} (hd : carry.toNat + d.toNat < 2 ^ w)
    (hds : AreDigits ds) :
    Counts (addCarry carry (d :: ds)) (ds.length + 1) (carry.toNat + digitsValue (d :: ds)) := by
  have hpow : 2 ^ 32 ≤ 2 ^ w := Nat.pow_le_pow_right (by decide) hw
  induction ds generalizing carry d with
  | nil =>
    have hsum : (d + carry).toNat = carry.toNat + d.toNat := by
      rw [BitVec.toNat_add, Nat.mod_eq_of_lt (by omega), Nat.add_comm]
    have hvalue : digitsValue [d] = d.toNat := by rw [digitsValue_cons]; rfl
    rw [addCarry, hvalue]
    split_ifs with h
    · exact .cons (by rw [toNat_low16 hw, hsum]) rfl (.nil _)
    · exact .cons (by omega) rfl (.nil _)
  | cons e ds ih =>
    obtain ⟨he, hds⟩ := List.forall_mem_cons.mp hds
    have hsum : (d + carry).toNat = carry.toNat + d.toNat := by
      rw [BitVec.toNat_add, Nat.mod_eq_of_lt (by omega), Nat.add_comm]
    have hshift : ((d + carry) >>> 16).toNat = (carry.toNat + d.toNat) / 65536 := by
      rw [BitVec.toNat_ushiftRight, hsum, Nat.shiftRight_eq_div_pow]
    rw [addCarry, digitsValue_cons]
    split_ifs with h
    · apply Counts.cons (by rw [toNat_low16 hw, hsum]; omega) _ (ih (by rw [hshift]; omega) hds)
      rw [hshift]
      omega
    · apply Counts.cons (by omega) _ (counts_self (List.forall_mem_cons.mpr ⟨he, hds⟩))
      omega

lemma counts_addToDataLength (hw : 32 ≤ w) {n k m : ℕ} {ds : List (Word w)} (h : Counts ds (k + 1) m)
    (hn : n < 2 ^ (w - 1)) : Counts (addToDataLength (.ofNat w n) ds) (k + 1) (m + n) := by
  have hpow : 2 ^ 31 ≤ 2 ^ (w - 1) := Nat.pow_le_pow_right (by decide) (by omega)
  have htwice : 2 ^ w = 2 * 2 ^ (w - 1) := by rw [← pow_succ', Nat.sub_add_cancel (by omega)]
  cases ds with
  | nil => exact absurd h.length (by simp)
  | cons d ds =>
    obtain ⟨hd, hds⟩ := List.forall_mem_cons.mp h.areDigits
    have hlength : ds.length = k := by simpa using h.length
    have hn' : (BitVec.ofNat w n).toNat = n := by rw [BitVec.toNat_ofNat, Nat.mod_eq_of_lt (by omega)]
    have hsum : (d + BitVec.ofNat w n).toNat = d.toNat + n := by
      rw [BitVec.toNat_add, hn', Nat.mod_eq_of_lt (by omega)]
    have hzero : (0 : Word w).toNat = 0 := BitVec.toNat_ofNat .. ▸ Nat.zero_mod _
    have hcount := counts_addCarry hw (d := d + .ofNat w n) (by rw [hzero, hsum]; omega) hds
    rw [hlength, hzero, digitsValue_cons, hsum, Nat.zero_add] at hcount
    refine ⟨hcount.areDigits, hcount.length, hcount.value.trans ?_⟩
    have hvalue := h.value
    rw [digitsValue_cons] at hvalue
    rw [Nat.add_right_comm, Nat.add_mod, hvalue, Nat.mod_mod, ← Nat.add_mod]

lemma counts_shiftDigits (hw : 32 ≤ w) {carry : Word w} {ds : List (Word w)} (hc : carry.toNat < 8) (hds : AreDigits ds) :
    Counts (shiftDigits carry ds) ds.length (carry.toNat + 8 * digitsValue ds) := by
  have hpow : 2 ^ 32 ≤ 2 ^ w := Nat.pow_le_pow_right (by decide) hw
  induction ds generalizing carry with
  | nil => exact .nil _
  | cons d ds ih =>
    obtain ⟨hd, hds⟩ := List.forall_mem_cons.mp hds
    have hshift : (d <<< 3).toNat = 2 ^ 3 * d.toNat := by
      rw [BitVec.toNat_shiftLeft, Nat.shiftLeft_eq, Nat.mod_eq_of_lt (by omega), Nat.mul_comm]
    have hlow : (d <<< 3 ||| carry).toNat = 2 ^ 3 * d.toNat + carry.toNat := by
      rw [BitVec.toNat_or, hshift, Nat.two_pow_add_eq_or_of_lt hc]
    have hhigh : (low16 (d >>> (16 - 3))).toNat = d.toNat / 2 ^ 13 := by
      rw [toNat_low16 hw, BitVec.toNat_ushiftRight, Nat.shiftRight_eq_div_pow, Nat.mod_eq_of_lt (by omega)]
    rw [shiftDigits, digitsValue_cons]
    apply Counts.cons _ _ (ih (by rw [hhigh]; omega) hds)
    · rw [toNat_low16 hw, hlow]
      omega
    · rw [hhigh]
      omega

lemma toByte_eq (x : Word w) : toByte x = UInt8.ofNat x.toNat := by
  apply UInt8.toNat_inj.mp
  rw [toByte, UInt8.toNat_ofBitVec, BitVec.toNat_setWidth, UInt8.toNat_ofNat']

lemma writeDigits {ds : List (Word w)} (hds : AreDigits ds) :
    ds.reverse.flatMap (fun d : Word w => [toByte (d >>> 8), toByte d]) = bigEndian (2 * ds.length) (digitsValue ds) := by
  induction ds with
  | nil => rfl
  | cons d ds ih =>
    obtain ⟨hd, hds⟩ := List.forall_mem_cons.mp hds
    have hvalue : digitsValue (d :: ds) / 256 ^ 2 = digitsValue ds := by
      rw [digitsValue_cons]
      omega
    have hlow : digitsValue (d :: ds) % 256 ^ 2 = d.toNat := by
      rw [digitsValue_cons]
      omega
    have hlast : bigEndian 2 (digitsValue (d :: ds)) = [toByte (d >>> 8), toByte d] := by
      rw [← bigEndian_mod, hlow, toByte_eq, toByte_eq, BitVec.toNat_ushiftRight, Nat.shiftRight_eq_div_pow]
      rfl
    rw [List.reverse_cons, List.flatMap_append, ih hds, List.length_cons, Nat.mul_succ, bigEndian_add, hvalue, hlast]
    rfl

lemma writeDataBitLength_eq (hw : 32 ≤ w) {ds : List (Word w)} {n : ℕ} (h : Counts ds 4 n) :
    writeDataBitLength ds = bigEndian 8 (8 * n) := by
  have hzero : (0 : Word w).toNat = 0 := BitVec.toNat_ofNat .. ▸ Nat.zero_mod _
  have hcarry : (0 : Word w).toNat < 8 := hzero ▸ by decide
  have hshift := counts_shiftDigits hw hcarry h.areDigits
  have hvalue : digitsValue (shiftDigits 0 ds) = 8 * n % 256 ^ 8 := by
    rw [hshift.value, hzero, h.length, h.value]
    omega
  rw [writeDataBitLength, writeDigits hshift.areDigits, hshift.length, h.length, hvalue]
  exact bigEndian_mod 8 (8 * n)

end digits

end RouterCard.Picosha2
