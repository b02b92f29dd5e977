import RouterCard.Picosha2.Words

/-! The hash of one block is the compression function of the standard, on words of any width
that an `unsigned long` may have. -/

namespace RouterCard.Picosha2

open Text Hashing

variable {w : ℕ}

section constants

def firstPrimes : List ℕ :=
  [2, 3, 5, 7, 11, 13, 17, 19, 23, 29, 31, 37, 41, 43, 47, 53, 59, 61, 67, 71, 73, 79, 83, 89, 97, 101, 103, 107, 109, 113,
    127, 131, 137, 139, 149, 151, 157, 163, 167, 173, 179, 181, 191, 193, 197, 199, 211, 223, 227, 229, 233, 239, 241, 251,
    257, 263, 269, 271, 277, 281, 283, 293, 307, 311]

set_option maxRecDepth 100000 in
lemma firstPrimes_count : ∀ t < 64, (firstPrimes.getD t 0).Prime ∧ Nat.count Nat.Prime (firstPrimes.getD t 0) = t := by
  decide +kernel

def IsRoot (n p d : ℕ) : Prop :=
  ∃ r < 8, d < 2 ^ 32 ∧ (r * 2 ^ 32 + d) ^ n ≤ p * (2 ^ 32) ^ n ∧ p * (2 ^ 32) ^ n < (r * 2 ^ 32 + d + 1) ^ n

instance (n p d : ℕ) : Decidable (IsRoot n p d) := inferInstanceAs (Decidable (∃ r < 8, _))

lemma addConstant_isRoot : ∀ t < 64, IsRoot 3 (firstPrimes.getD t 0) (addConstant.getD t 0) := by decide +kernel

lemma initialMessageDigest_isRoot : ∀ t < 8, IsRoot 2 (firstPrimes.getD t 0) (initialMessageDigest.toList.getD t 0) := by
  decide +kernel

lemma IsRoot.lift_eq {n t d : ℕ} (hw : 32 ≤ w) (hn : n ≠ 0) (ht : t < 64) (h : IsRoot n (firstPrimes.getD t 0) d) :
    BitVec.ofNat w d = lift w (Sha256.primeRoot n t) := by
  obtain ⟨hp, hc⟩ := firstPrimes_count t ht
  obtain ⟨r, -, hd, hl, hu⟩ := h
  rw [Sha256.primeRoot_eq hn hp hc hd hl hu]
  exact (BitVec.setWidth_ofNat_of_le_of_lt hw hd).symm

end constants

section words

lemma lift_xor (x y : Sha256.Word) : lift w (x ^^^ y) = lift w x ^^^ lift w y := BitVec.setWidth_xor

lemma ch_lift (x y z : Sha256.Word) : ch (lift w x) (lift w y) (lift w z) = lift w (Sha256.ch x y z) := by
  apply BitVec.eq_of_getLsbD_eq
  intro i hi
  simp only [ch, Sha256.ch, lift, BitVec.getLsbD_xor, BitVec.getLsbD_and, BitVec.getLsbD_not, BitVec.getLsbD_setWidth, hi,
    decide_true, Bool.true_and]
  cases hz : z.getLsbD i with
  | false => simp
  | true =>
    have h32 : i < 32 := BitVec.lt_of_getLsbD hz
    simp [h32]

lemma maj_lift (x y z : Sha256.Word) : maj (lift w x) (lift w y) (lift w z) = lift w (Sha256.maj x y z) := by
  simp only [maj, Sha256.maj, lift, BitVec.setWidth_xor, BitVec.setWidth_and]

variable (hw : 32 ≤ w)

include hw

lemma shr_lift {n : ℕ} (x : Sha256.Word) : shr (lift w x) n = lift w (x >>> n) := by
  rw [shr, lift, lift, BitVec.setWidth_ushiftRight hw]

lemma rotr_lift (x : Sha256.Word) {n : ℕ} (hn : n < 32) : rotr (lift w x) n = lift w (x.rotateRight n) :=
  setWidth_rotr hw rfl hn

lemma bsig0_lift (x : Sha256.Word) : bsig0 (lift w x) = lift w (Sha256.bigSigma0 x) := by
  rw [bsig0, rotr_lift hw x (by decide), rotr_lift hw x (by decide), rotr_lift hw x (by decide), Sha256.bigSigma0,
    lift_xor, lift_xor]

lemma bsig1_lift (x : Sha256.Word) : bsig1 (lift w x) = lift w (Sha256.bigSigma1 x) := by
  rw [bsig1, rotr_lift hw x (by decide), rotr_lift hw x (by decide), rotr_lift hw x (by decide), Sha256.bigSigma1,
    lift_xor, lift_xor]

lemma ssig0_lift (x : Sha256.Word) : ssig0 (lift w x) = lift w (Sha256.smallSigma0 x) := by
  rw [ssig0, rotr_lift hw x (by decide), rotr_lift hw x (by decide), shr_lift hw, Sha256.smallSigma0,
    lift_xor, lift_xor]

lemma ssig1_lift (x : Sha256.Word) : ssig1 (lift w x) = lift w (Sha256.smallSigma1 x) := by
  rw [ssig1, rotr_lift hw x (by decide), rotr_lift hw x (by decide), shr_lift hw, Sha256.smallSigma1,
    lift_xor, lift_xor]

lemma mask32bit_add (x y : Word w) : mask32bit (x + y) = lift w (x.setWidth 32 + y.setWidth 32) := by
  rw [mask32bit_eq, BitVec.setWidth_add x y hw]

end words

section schedule

omit w in
lemma getD_map_range {α : Type} (f : ℕ → α) (d : α) {n i : ℕ} (hi : i < n) : ((List.range n).map f).getD i d = f i := by
  rw [List.getD_eq_getElem _ _ (by simpa using hi), List.getElem_map, List.getElem_range]

lemma lift_append (a b c d : BitVec 8) : lift w (a ++ b ++ c ++ d) =
    a.setWidth w <<< 24 ||| b.setWidth w <<< 16 ||| c.setWidth w <<< 8 ||| d.setWidth w :=
  BitVec.setWidth_append_append_append_eq_shiftLeft_setWidth_or

lemma inputWord_eq (block : Bytes) (i : ℕ) : inputWord block i = lift w (Sha256.messageWord block i) := by
  rw [inputWord, byteWord, byteWord, byteWord, byteWord, Nat.mul_comm i 4, Sha256.messageWord, lift_append]

lemma extend_eq (hw : 32 ≤ w) (block : Bytes) (k n : ℕ) :
    extend k ((List.range (n + 16)).map fun t => lift w (Sha256.schedule block t)) =
      (List.range (n + 16 + k)).map fun t => lift w (Sha256.schedule block t) := by
  induction k generalizing n with
  | zero => rfl
  | succ k ih =>
    have hnext : mask32bit (ssig1 (lift w (Sha256.schedule block (n + 14))) + lift w (Sha256.schedule block (n + 9)) +
        ssig0 (lift w (Sha256.schedule block (n + 1))) + lift w (Sha256.schedule block n)) =
        lift w (Sha256.schedule block (n + 16)) := by
      rw [ssig1_lift hw, ssig0_lift hw, mask32bit_add hw, BitVec.setWidth_add _ _ hw, BitVec.setWidth_add _ _ hw,
        setWidth_lift hw, setWidth_lift hw, setWidth_lift hw, setWidth_lift hw, Sha256.schedule_of_le]
    have hget : ∀ i < n + 16, ((List.range (n + 16)).map fun t => lift w (Sha256.schedule block t)).getD i 0 =
        lift w (Sha256.schedule block i) := fun i hi => getD_map_range _ _ hi
    have hgrow : (List.range (n + 16)).map (fun t => lift w (Sha256.schedule block t)) ++
        [lift w (Sha256.schedule block (n + 16))] =
        (List.range (n + 1 + 16)).map fun t => lift w (Sha256.schedule block t) := by
      rw [Nat.add_right_comm, List.range_succ (n := n + 16), List.map_append]
      rfl
    rw [extend, List.length_map, List.length_range, hget _ (by omega), hget _ (by omega), hget _ (by omega),
      hget _ (by omega)]
    change extend k (_ ++ [mask32bit (ssig1 (lift w (Sha256.schedule block (n + 14))) +
      lift w (Sha256.schedule block (n + 9)) + ssig0 (lift w (Sha256.schedule block (n + 1))) +
      lift w (Sha256.schedule block n))]) = _
    rw [hnext, hgrow, ih, Nat.add_right_comm n 1 16, Nat.add_assoc, Nat.add_comm 1 k]

lemma words_eq (hw : 32 ≤ w) (block : Bytes) :
    words block = (List.range 64).map fun t => lift w (Sha256.schedule block t) := by
  have hinput : (List.range 16).map (inputWord block) =
      (List.range (0 + 16)).map fun t => lift w (Sha256.schedule block t) := by
    apply List.map_congr_left
    intro t ht
    rw [inputWord_eq, Sha256.schedule_of_lt block (List.mem_range.mp ht)]
  rw [words, hinput, extend_eq hw block 48 0]

end schedule

section rounds

lemma round_lift (hw : 32 ≤ w) (k x : Sha256.Word) (v : Registers Sha256.Word) :
    round (lift w k) (lift w x) (v.map (lift w)) = (Sha256.round k x v).map (lift w) := by
  simp only [round, Registers.map, bsig0_lift hw, bsig1_lift hw, ch_lift, maj_lift, mask32bit_add hw,
    BitVec.setWidth_add _ _ hw, setWidth_lift hw, Sha256.round]

lemma rounds_lift (hw : 32 ≤ w) (block : Bytes) (v : Registers Sha256.Word) {l : List ℕ} (hl : ∀ t ∈ l, t < 64) :
    l.foldl (fun v i => round (.ofNat w (addConstant.getD i 0)) ((words block).getD i 0) v) (v.map (lift w)) =
      (l.foldl (fun v t => Sha256.round (Sha256.primeRoot 3 t) (Sha256.schedule block t) v) v).map (lift w) := by
  induction l generalizing v with
  | nil => rfl
  | cons t l ih =>
    have ht := hl t (.head _)
    have hconstant := (addConstant_isRoot t ht).lift_eq hw (by decide) ht
    rw [List.foldl_cons, List.foldl_cons, hconstant, words_eq hw, getD_map_range _ _ ht, round_lift hw, ← words_eq hw]
    exact ih _ fun u hu => hl u (.tail t hu)

lemma hash256Block_lift (hw : 32 ≤ w) (hash : Registers Sha256.Word) (block : Bytes) :
    hash256Block (hash.map (lift w)) block = (Sha256.compress hash block).map (lift w) := by
  have hrounds := rounds_lift hw block hash (l := List.range 64) fun t => List.mem_range.mp
  rw [hash256Block, hrounds]
  simp only [Registers.zipWith, Registers.map, mask32bit_add hw, setWidth_lift hw, Sha256.compress]

lemma initial_lift (hw : 32 ≤ w) : initialMessageDigest.map (BitVec.ofNat w) = Sha256.initial.map (lift w) := by
  have h : ∀ t < 8, BitVec.ofNat w (initialMessageDigest.toList.getD t 0) = lift w (Sha256.primeRoot 2 t) :=
    fun t ht => (initialMessageDigest_isRoot t ht).lift_eq hw (by decide) (by omega)
  rw [Registers.map, Registers.map, Registers.mk.injEq]
  exact ⟨h 0 (by decide), h 1 (by decide), h 2 (by decide), h 3 (by decide), h 4 (by decide), h 5 (by decide),
    h 6 (by decide), h 7 (by decide)⟩

end rounds

end RouterCard.Picosha2
