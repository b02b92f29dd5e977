import Mathlib.Tactic

namespace RouterCard.Hashing

variable {α σ τ : Type}

section blocks

variable (n : ℕ) (compress : σ → List α → σ)

def feed : ℕ → σ → List α → σ × List α
  | 0, s, xs => (s, xs)
  | k + 1, s, xs => feed k (compress s (xs.take n)) (xs.drop n)

def absorb (s : σ) (xs : List α) : σ × List α := feed n compress (xs.length / n) s xs

end blocks

variable {n : ℕ} {compress : σ → List α → σ} {s : σ} {b xs ys : List α}

lemma absorb_of_lt (h : xs.length < n) : absorb n compress s xs = (s, xs) := by
  rw [absorb, Nat.div_eq_of_lt h]
  rfl

lemma absorb_block (hn : 0 < n) (hb : b.length = n) : absorb n compress s (b ++ xs) = absorb n compress (compress s b) xs := by
  have hcount : (b ++ xs).length / n = xs.length / n + 1 := by
    rw [List.length_append, hb, Nat.add_div_left _ hn]
  have htake : (b ++ xs).take n = b := by rw [← hb, List.take_left]
  have hdrop : (b ++ xs).drop n = xs := by rw [← hb, List.drop_left]
  rw [absorb, hcount, feed, htake, hdrop]
  rfl

lemma blocks_induct (hn : 0 < n) {P : List α → Prop} (rest : ∀ xs, xs.length < n → P xs)
    (block : ∀ b xs, b.length = n → P xs → P (b ++ xs)) (xs : List α) : P xs := by
  induction hl : xs.length using Nat.strong_induction_on generalizing xs with
  | _ l ih =>
    subst hl
    by_cases h : xs.length < n
    · exact rest xs h
    · rw [← List.take_append_drop n xs]
      apply block _ _ (List.length_take_of_le (by omega))
      exact ih _ (by rw [List.length_drop]; omega) _ rfl

lemma length_absorb (hn : 0 < n) (s : σ) (xs : List α) : (absorb n compress s xs).2.length = xs.length % n := by
  induction xs using blocks_induct hn generalizing s with
  | rest xs h => rw [absorb_of_lt h, Nat.mod_eq_of_lt h]
  | block b xs hb ih =>
    rw [absorb_block hn hb, List.length_append, hb, Nat.add_mod_left]
    exact ih _

lemma absorb_append (hn : 0 < n) (s : σ) (xs ys : List α) : absorb n compress s (xs ++ ys) =
    absorb n compress (absorb n compress s xs).1 ((absorb n compress s xs).2 ++ ys) := by
  induction xs using blocks_induct hn generalizing s with
  | rest xs h => rw [absorb_of_lt h]
  | block b xs hb ih =>
    rw [List.append_assoc, absorb_block hn hb, absorb_block hn hb]
    exact ih _

lemma absorb_map (hn : 0 < n) {f : σ → τ} {follow : τ → List α → τ}
    (hf : ∀ s b, b.length = n → f (compress s b) = follow (f s) b) (s : σ) (xs : List α) :
    absorb n follow (f s) xs = (f (absorb n compress s xs).1, (absorb n compress s xs).2) := by
  induction xs using blocks_induct hn generalizing s with
  | rest xs h => rw [absorb_of_lt h, absorb_of_lt h]
  | block b xs hb ih =>
    rw [absorb_block hn hb, absorb_block hn hb, ← hf s b hb]
    exact ih _

lemma feed_eq_foldl (k : ℕ) (s : σ) (xs : List α) : feed n compress k s xs =
    ((List.range k).foldl (fun s i => compress s ((xs.drop (n * i)).take n)) s, xs.drop (n * k)) := by
  induction k generalizing s xs with
  | zero => rfl
  | succ k ih =>
    have hshift : ∀ i, ((xs.drop n).drop (n * i)) = xs.drop (n * (i + 1)) := by
      intro i
      rw [List.drop_drop, Nat.mul_succ, Nat.add_comm]
    rw [feed, ih, List.range_succ_eq_map, List.foldl_cons, List.foldl_map, Nat.mul_zero, List.drop_zero]
    simp only [hshift]

end RouterCard.Hashing
