import RouterCard.UsbGadget.IdentityFiles

namespace RouterCard.Xbridge

open Text UsbGadget

def hexDigits : Bytes := bytes "0123456789abcdef"

def putOctet (p : Block × ℕ) (x : UInt8) : Block × ℕ :=
  let (b, p) := p
  let b := b.store p (hexDigits.getD (x >>> 4).toNat 0)
  let b := b.store (p + 1) (hexDigits.getD (x &&& 0xf).toNat 0)
  (b.store (p + 2) 58, p + 3)

def mac2ascii (ascii : Block) (mac : EtherAddr) : Block :=
  let (b, p) := (List.finRange 6).foldl (fun p i => putOctet p (mac i)) (ascii, 0)
  b.store (p - 1) 0

namespace MacText

def digits (mac : EtherAddr) (i : Fin 6) : UInt8 × UInt8 :=
  (hexDigits.getD (mac i >>> 4).toNat 0, hexDigits.getD (mac i &&& 0xf).toNat 0)

variable {ascii : Block} {mac : EtherAddr} {b : Block}

lemma digitValue_hexDigits : ∀ n < 16, digitValue (hexDigits.getD n 0) = n := by decide

lemma spells_digits (i : Fin 6) : Spells (digits mac i) (mac i) := by
  have hhigh : (mac i >>> 4).toNat = (mac i).toNat / 16 := by
    rw [UInt8.toNat_shiftRight]
    exact Nat.shiftRight_eq_div_pow _ 4
  have hlow : (mac i &&& 0xf).toNat = (mac i).toNat % 16 := by
    rw [UInt8.toNat_and]
    exact Nat.and_two_pow_sub_one_eq_mod _ 4
  have hlt := (mac i).toNat_lt
  refine ⟨?_, ?_⟩
  · rw [digits, hhigh, digitValue_hexDigits _ (by omega)]
  · rw [digits, hlow, digitValue_hexDigits _ (by omega)]

lemma mac2ascii_eq (ascii : Block) (mac : EtherAddr) :
    mac2ascii ascii mac = (ascii.fill 0 (colonSeparated (List.ofFn (digits mac)) ++ [58])).store 17 0 := rfl

lemma inBounds_store {i : ℕ} {x : UInt8} (h : b.InBounds) (hi : i < b.size) : (b.store i x).InBounds := by
  intro j hj
  rcases List.mem_append.mp hj with hj | hj
  · exact h j hj
  · rw [List.mem_singleton.mp hj]
    exact hi

lemma inBounds_fill {i : ℕ} (data : Bytes) (h : b.InBounds) (hi : i + data.length ≤ b.size) : (b.fill i data).InBounds := by
  induction data generalizing b i with
  | nil => exact h
  | cons x data ih =>
    rw [List.length_cons] at hi
    apply ih
    · exact inBounds_store h (by omega)
    · change i + 1 + data.length ≤ b.size
      omega

lemma memory_store (b : Block) (i : ℕ) (x : UInt8) : (b.store i x).memory i = x := by
  simp [Block.store]

lemma memory_store_ne (b : Block) (x : UInt8) {i j : ℕ} (h : j ≠ i) : (b.store i x).memory j = b.memory j := by
  simp [Block.store, h]

lemma length_text (mac : EtherAddr) : (colonSeparated (List.ofFn (digits mac))).length = 17 := by
  rw [length_colonSeparated, List.length_ofFn]

lemma memory_text {i : ℕ} (hi : i < (colonSeparated (List.ofFn (digits mac))).length) :
    (mac2ascii ascii mac).memory i = (colonSeparated (List.ofFn (digits mac)))[i] := by
  have hlen := length_text mac
  have hlong : i < (colonSeparated (List.ofFn (digits mac)) ++ [58]).length := by
    rw [List.length_append]
    omega
  have hstore : ((ascii.fill 0 (colonSeparated (List.ofFn (digits mac)) ++ [58])).store 17 0).memory i =
      (ascii.fill 0 (colonSeparated (List.ofFn (digits mac)) ++ [58])).memory i := memory_store_ne _ 0 (by omega)
  have hfill := Block.memory_fill ascii 0 hlong
  rw [Nat.zero_add] at hfill
  rw [mac2ascii_eq, hstore, hfill, List.getElem_append_left hi]

lemma memory_end : (mac2ascii ascii mac).memory 17 = 0 := by
  rw [mac2ascii_eq]
  exact memory_store _ 17 0

lemma macStrToOctet_congr {b b' : Block} (h : ∀ i < 17, b.memory i = b'.memory i) (dest : EtherAddr) :
    macStrToOctet (some b) dest = macStrToOctet (some b') dest := by
  have hshort : b.shorterThan 16 = b'.shorterThan 16 := by
    rw [Bool.eq_iff_iff, Block.shorterThan, Block.shorterThan, List.any_eq_true, List.any_eq_true]
    refine exists_congr fun i => and_congr_right fun hi => ?_
    rw [h i (by have := List.mem_range.mp hi; omega)]
  rw [macStrToOctet, macStrToOctet, hshort]
  split_ifs
  · rfl
  · congr 1
    funext dest i
    rw [h _ (by omega), h _ (by omega)]

lemma text_ne_zero (mac : EtherAddr) : ∀ x ∈ colonSeparated (List.ofFn (digits mac)), x ≠ 0 := by
  apply colonSeparated_ne_zero
  intro p hp
  obtain ⟨i, rfl⟩ := (List.mem_ofFn' _ _).mp hp
  exact (spells_digits i).lt

lemma mac2ascii_inBounds (hsize : ascii.size = 24) (hb : ascii.InBounds) : (mac2ascii ascii mac).InBounds := by
  rw [mac2ascii_eq]
  apply inBounds_store
  · apply inBounds_fill _ hb
    rw [List.length_append, length_text, hsize]
    decide
  · rw [Block.size_fill, hsize]
    decide

lemma macStrToOctet_mac2ascii (dest : EtherAddr) : macStrToOctet (some (mac2ascii ascii mac)) dest = mac := by
  -- the newline of a file in place of the NUL
  let file : Block := (mac2ascii ascii mac).store 17 10
  have hcongr : macStrToOctet (some (mac2ascii ascii mac)) dest = macStrToOctet (some file) dest := by
    apply macStrToOctet_congr
    intro i hi
    exact (memory_store_ne _ 10 (by omega)).symm
  rw [hcongr]
  apply macStrToOctet_text spells_digits
  intro i hi
  have hlen := length_text mac
  by_cases h17 : i = 17
  · subst h17
    have hlast : (macText (digits mac))[17] = 10 := List.getElem_concat_length hlen.symm _
    rw [hlast]
    exact memory_store _ 17 10
  · have hi' : i < (colonSeparated (List.ofFn (digits mac))).length := by
      rw [length_macText] at hi
      omega
    have hfile : file.memory i = (mac2ascii ascii mac).memory i := memory_store_ne _ 10 h17
    rw [hfile, memory_text hi']
    exact (List.getElem_append_left hi').symm

theorem mac_round_trip (ascii : Block) (mac dest : EtherAddr) (hsize : ascii.size = 24) (hb : ascii.InBounds) :
    (mac2ascii ascii mac).InBounds ∧ (mac2ascii ascii mac).HasLength 17 ∧
      (∀ i (h : i < (colonSeparated (List.ofFn (digits mac))).length),
        (mac2ascii ascii mac).memory i = (colonSeparated (List.ofFn (digits mac)))[i]) ∧
      macStrToOctet (some (mac2ascii ascii mac)) dest = mac := by
  refine ⟨mac2ascii_inBounds hsize hb, ⟨fun i hi => ?_, memory_end⟩, fun i => memory_text, macStrToOctet_mac2ascii dest⟩
  have hlen : i < (colonSeparated (List.ofFn (digits mac))).length := by rwa [length_text]
  rw [memory_text hlen]
  exact text_ne_zero mac _ (List.getElem_mem hlen)

theorem mac_round_trip_zeroed :
    macStrToOctet (some (mac2ascii ⟨24, fun _ => 0, []⟩ fun _ => 0xab)) (fun _ => 0) = fun _ => 0xab :=
  (mac_round_trip ⟨24, fun _ => 0, []⟩ (fun _ => 0xab) (fun _ => 0) rfl fun _ hi => absurd hi List.not_mem_nil).2.2.2

end MacText

end RouterCard.Xbridge
