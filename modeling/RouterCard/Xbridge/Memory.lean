import RouterCard.OnesComplement.WordSum

/-! Reads and writes of C memory that stay in their block or are a fault, the conversions
between `int` and `size_t`, and the checksum of `xbridge.c`. A block of memory is the list
of its bytes from the pointer on, on a little-endian host. A read finds the bytes that lie there whatever type they
were stored with, as in a build without strict aliasing; ISO C leaves the `uint16_t` reads of `uint32_t` fields open,
and `Xbridge.Advertisement` says what becomes of the checksum when they find other bytes. -/

namespace RouterCard.Xbridge

open Text OnesComplement

inductive Fault where
  | read
  | write
  deriving DecidableEq

abbrev Access := Except Fault

abbrev Octets (n : ℕ) := {s : Bytes // s.length = n}

def readByte (data : Bytes) (i : ℕ) : Access UInt8 :=
  if h : i < data.length then .ok data[i] else .error .read

def readField (data : Bytes) (i n : ℕ) : Access (Octets n) :=
  if h : i + n ≤ data.length then .ok ⟨(data.drop i).take n, by simp; omega⟩ else .error .read

def memcpy {n : ℕ} (dest : Octets n) (i : ℕ) (data : Bytes) (size : ℕ) : Access (Octets n) :=
  if hs : data.length < size then .error .read
  else if hd : n < i + size then .error .write
  else .ok ⟨dest.val.take i ++ data.take size ++ dest.val.drop (i + size), by
    have := dest.property
    simp
    omega⟩

section conversions

-- `size_t` has 64 bits here; what becomes of a length is the same with 32.
def toSize (n : ℤ) : ℕ := (n % 2 ^ 64).toNat

def subSize (m n : ℕ) : ℕ := (m + 2 ^ 64 - n) % 2 ^ 64

def toInt (n : ℕ) : ℤ := if n % 2 ^ 32 < 2 ^ 31 then (n % 2 ^ 32 : ℕ) else (n % 2 ^ 32 : ℕ) - 2 ^ 32

end conversions

section checksum

def checksumLoop (data : Bytes) (len : ℤ) (sum : ℕ) : Access ℕ :=
  if 1 < len then
    match data with
    | a :: b :: rest => checksumLoop rest (len - 2) ((sum + (a.toNat + 256 * b.toNat)) % 2 ^ 32)
    | _ => .error .read
  else if len = 0 then .ok sum
  else
    match data with
    | a :: _ => .ok ((sum + a.toNat) % 2 ^ 32)
    | [] => .error .read

def checksum (data : Bytes) (len : ℤ) : Access ℕ := do
  let sum ← checksumLoop data len 0
  return fold (b := 65536) (by decide) sum

end checksum

section rules

variable {data : Bytes} {i n size : ℕ}

lemma readByte_ok (h : i < data.length) : readByte data i = .ok data[i] := dif_pos h

lemma readField_ok (h : i + n ≤ data.length) :
    readField data i n = .ok ⟨(data.drop i).take n, by simp; omega⟩ := dif_pos h

lemma readField_fault (h : data.length < i + n) : readField data i n = .error .read := dif_neg (by omega)

lemma memcpy_ok (dest : Octets n) (hs : size ≤ data.length) (hd : i + size ≤ n) :
    ∃ buf : Octets n, memcpy dest i data size = .ok buf ∧
      buf.val = dest.val.take i ++ data.take size ++ dest.val.drop (i + size) :=
  ⟨_, by rw [memcpy, dif_neg (by omega), dif_neg (by omega)], rfl⟩

lemma memcpy_fault (dest : Octets n) (hs : size ≤ data.length) (hd : n < i + size) :
    memcpy dest i data size = .error .write := by
  rw [memcpy, dif_neg (by omega), dif_pos hd]

lemma toSize_of_nonneg {n : ℕ} (h : n < 2 ^ 64) : toSize n = n := by
  rw [toSize]
  omega

lemma subSize_of_le {m n : ℕ} (h : n ≤ m) (hm : m < 2 ^ 64) : subSize m n = m - n := by
  rw [subSize]
  omega

lemma toInt_of_lt {n : ℕ} (h : n < 2 ^ 31) : toInt n = n := by
  rw [toInt]
  split_ifs <;> omega

lemma checksumLoop_zero (data : Bytes) {sum : ℕ} (hs : sum < 2 ^ 32) :
    checksumLoop data (0 : ℕ) sum = .ok ((sum + sumLE (data.take 0)) % 2 ^ 32) := by
  rw [List.take_zero, sumLE_nil, Nat.add_zero, Nat.mod_eq_of_lt hs, checksumLoop.eq_def]
  rfl

lemma checksumLoop_eq {sum : ℕ} (hn : n ≤ data.length) (hs : sum < 2 ^ 32) :
    checksumLoop data n sum = .ok ((sum + sumLE (data.take n)) % 2 ^ 32) := by
  induction data using wordsLE.induct generalizing n sum with
  | case1 =>
    obtain rfl : n = 0 := by simpa using hn
    exact checksumLoop_zero _ hs
  | case2 a =>
    obtain rfl | rfl : n = 0 ∨ n = 1 := by simp only [List.length_singleton] at hn; omega
    · exact checksumLoop_zero _ hs
    · simp [checksumLoop]
  | case3 a b rest ih =>
    rcases n with _ | _ | n
    · exact checksumLoop_zero _ hs
    · simp [checksumLoop]
    · have hlen : n ≤ rest.length := by simp only [List.length_cons] at hn; omega
      have hrest := ih hlen (Nat.mod_lt (sum + (a.toNat + 256 * b.toNat)) (show 0 < 2 ^ 32 by decide))
      have hdec : ((n + 2 : ℕ) : ℤ) - 2 = n := by omega
      rw [checksumLoop, if_pos (by omega), hdec, hrest, List.take_succ_cons, List.take_succ_cons, sumLE_cons_cons,
        Nat.mod_add_mod, Nat.add_assoc]

lemma checksum_eq (hn : n ≤ data.length) :
    checksum data n = .ok (residue 65536 (sumLE (data.take n) % 2 ^ 32)) := by
  rw [checksum, checksumLoop_eq hn (by decide), Nat.zero_add]
  exact congrArg Except.ok (fold_eq_residue _ _)

lemma sumLE_le (s : Bytes) : sumLE s ≤ 65535 * ((s.length + 1) / 2) := by
  induction s using wordsLE.induct with
  | case1 => simp
  | case2 a =>
    have := a.toNat_lt
    simp only [sumLE_singleton, List.length_singleton]
    omega
  | case3 a b s ih =>
    have := a.toNat_lt
    have := b.toNat_lt
    simp only [sumLE_cons_cons, List.length_cons]
    omega

-- No carry gets lost in 65537 words.
lemma checksum_eq_of_le (hn : n ≤ data.length) (hb : n ≤ 131074) :
    checksum data n = .ok (residue 65536 (sumLE (data.take n))) := by
  have hle := sumLE_le (data.take n)
  rw [List.length_take_of_le hn] at hle
  rw [checksum_eq hn, Nat.mod_eq_of_lt (by omega)]

end rules

end RouterCard.Xbridge
