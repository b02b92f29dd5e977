import RouterCard.Picosha2.Hasher

namespace RouterCard.Picosha2

open Text Hashing

variable {w : ℕ}

section arrays

variable {a b c data : Bytes} {i j k : ℕ}

abbrev zeros (k : ℕ) : Bytes := List.replicate k 0

lemma store_append (hi : a.length = i) (hb : b.length = data.length) : store (a ++ b ++ c) i data = some (a ++ data ++ c) := by
  subst hi
  have htake : (a ++ b ++ c).take a.length = a := by rw [List.append_assoc, List.take_left]
  have hdrop : (a ++ b ++ c).drop (a.length + data.length) = c := by
    rw [← hb, ← List.length_append, List.drop_left]
  rw [store, if_pos (by simp only [List.length_append]; omega), htake, hdrop]

lemma fill_append (hi : a.length = i) (hj : i + b.length = j) : fill (a ++ b ++ c) i j = some (a ++ zeros b.length ++ c) := by
  subst hj
  rw [fill, if_pos (by omega), Nat.add_sub_cancel_left]
  apply store_append hi
  rw [List.length_replicate]

lemma store_marker (hk : b.length + (k + 1) = 64) : ∃ temp, store (zeros 64) 0 b = some temp ∧
    store temp b.length [0x80] = some (b ++ [0x80] ++ zeros k) := by
  have hzeros : zeros 64 = [] ++ zeros b.length ++ zeros (k + 1) := by
    rw [List.nil_append, ← List.replicate_add, hk]
  refine ⟨b ++ zeros (k + 1), ?_, ?_⟩
  · rw [hzeros]
    exact store_append rfl (List.length_replicate ..)
  · rw [zeros, List.replicate_succ, ← List.singleton_append, ← List.append_assoc]
    exact store_append rfl rfl

end arrays

section finish

variable {b length : Bytes} {k : ℕ} (h : Registers (Word w))

lemma lastBlocks_short (hk : b.length + (k + 8 + 1) = 64) :
    lastBlocks h (b ++ [0x80] ++ zeros (k + 8)) b.length = some (h, b ++ [0x80] ++ zeros (k + 8)) := by
  have hsplit : b ++ [0x80] ++ zeros (k + 8) = (b ++ [0x80]) ++ zeros (k + 4) ++ zeros 4 := by
    rw [List.append_assoc _ (zeros (k + 4)), ← List.replicate_add]
  have hfill : fill (b ++ [0x80] ++ zeros (k + 8)) (b.length + 1) (64 - 4) = some (b ++ [0x80] ++ zeros (k + 8)) := by
    rw [hsplit, fill_append (by simp) (by simp; omega), List.length_replicate]
  rw [lastBlocks, if_neg (by omega), hfill]
  rfl

lemma lastBlocks_long (hk : b.length + (k + 1) = 64) (h8 : k < 8) : ∃ rest : Bytes, rest.length = 4 ∧
    lastBlocks h (b ++ [0x80] ++ zeros k) b.length = some (hash256Block h (b ++ [0x80] ++ zeros k), zeros 60 ++ rest) := by
  have hkeep : fill (b ++ [0x80] ++ zeros k) (b.length + 1) 64 = some (b ++ [0x80] ++ zeros k) := by
    have hfill := fill_append (a := b ++ [0x80]) (b := zeros k) (c := []) (i := b.length + 1) (j := 64) (by simp)
      (by simp; omega)
    rwa [List.append_nil, List.append_nil, List.length_replicate] at hfill
  have hlength : (b ++ [0x80] ++ zeros k).length = 64 := by
    simp only [List.length_append, List.length_singleton, List.length_replicate]
    omega
  have hclear : fill (b ++ [0x80] ++ zeros k) 0 (64 - 4) = some (zeros 60 ++ (b ++ [0x80] ++ zeros k).drop 60) := by
    have hfill := fill_append (a := []) (b := (b ++ [0x80] ++ zeros k).take 60) (c := (b ++ [0x80] ++ zeros k).drop 60)
      (i := 0) (j := 60) rfl (by rw [List.length_take, hlength]; rfl)
    rwa [List.nil_append, List.take_append_drop, List.nil_append, List.length_take, hlength] at hfill
  refine ⟨(b ++ [0x80] ++ zeros k).drop 60, by rw [List.length_drop, hlength], ?_⟩
  rw [lastBlocks, if_pos (by omega), hkeep]
  change (fill _ 0 (64 - 4)).bind _ = _
  rw [hclear]
  rfl

lemma finish_eq {x : Hasher w} (hx : x.buffer.length < 64) (hl : writeDataBitLength x.dataLengthDigits = length)
    (h8 : length.length = 8) : finish x = some { x with h := (absorb 64 hash256Block x.h
      (x.buffer ++ (0x80 :: zeros ((119 - x.buffer.length) % 64) ++ length))).1 } := by
  obtain ⟨b, digits, h⟩ := x
  dsimp only at *
  obtain ⟨k, hk⟩ : ∃ k, b.length + (k + 1) = 64 := ⟨63 - b.length, by omega⟩
  obtain ⟨temp, hcopy, hmarker⟩ := store_marker hk
  by_cases hshort : k < 8
  · obtain ⟨rest, hrest, hlast⟩ := lastBlocks_long h hk hshort
    have hstore : store (zeros 60 ++ rest) 56 length = some (zeros 56 ++ length) := by
      have hsplit : zeros 60 ++ rest = zeros 56 ++ (zeros 4 ++ rest) ++ [] := by
        rw [List.append_nil, ← List.append_assoc, ← List.replicate_add]
      rw [hsplit, store_append (by simp) (by simp [hrest, h8]), List.append_nil]
    have hblocks : b ++ (0x80 :: zeros ((119 - b.length) % 64) ++ length) =
        (b ++ [0x80] ++ zeros k) ++ ((zeros 56 ++ length) ++ []) := by
      have hcount : (119 - b.length) % 64 = k + 56 := by omega
      rw [hcount, zeros, List.replicate_add]
      simp only [List.append_assoc, List.cons_append, List.nil_append, List.append_nil]
    have hfinish : finish ⟨b, digits, h⟩ =
        some ⟨b, digits, hash256Block (hash256Block h (b ++ [0x80] ++ zeros k)) (zeros 56 ++ length)⟩ := by
      simp only [finish, hcopy, hmarker, hlast, hl, hstore, bind, Option.bind, pure]
    rw [hfinish, hblocks, absorb_block (by decide) (by simp; omega), absorb_block (by decide) (by simp [h8]),
      absorb_of_lt (by decide)]
  · obtain ⟨k, rfl⟩ : ∃ l, k = l + 8 := ⟨k - 8, by omega⟩
    have hlast := lastBlocks_short h hk
    have hstore : store (b ++ [0x80] ++ zeros (k + 8)) 56 length = some (b ++ [0x80] ++ zeros k ++ length) := by
      have hsplit : b ++ [0x80] ++ zeros (k + 8) = (b ++ [0x80] ++ zeros k) ++ zeros 8 ++ [] := by
        rw [List.append_nil, List.append_assoc _ (zeros k), ← List.replicate_add]
      rw [hsplit, store_append (by simp; omega) (by simp [h8]), List.append_nil]
    have hblocks : b ++ (0x80 :: zeros ((119 - b.length) % 64) ++ length) =
        (b ++ [0x80] ++ zeros k ++ length) ++ [] := by
      have hcount : (119 - b.length) % 64 = k := by omega
      rw [hcount]
      simp
    have hfinish : finish ⟨b, digits, h⟩ = some ⟨b, digits, hash256Block h (b ++ [0x80] ++ zeros k ++ length)⟩ := by
      simp only [finish, hcopy, hmarker, hlast, hl, hstore, bind, Option.bind, pure]
    rw [hfinish, hblocks, absorb_block (by decide) (by simp [h8]; omega), absorb_of_lt (by decide)]

end finish

section message

structure Hasher.Holds (x : Hasher w) (message : Bytes) : Prop where
  buffer : x.buffer = (absorb 64 Sha256.compress Sha256.initial message).2
  digits : Counts x.dataLengthDigits 4 message.length
  h : x.h = (absorb 64 Sha256.compress Sha256.initial message).1.map (lift w)

variable {x : Hasher w} {message data : Bytes}

lemma absorbed_append (message data : Bytes) : absorb 64 Sha256.compress Sha256.initial (message ++ data) =
    absorb 64 Sha256.compress (absorb 64 Sha256.compress Sha256.initial message).1
      ((absorb 64 Sha256.compress Sha256.initial message).2 ++ data) :=
  absorb_append (by decide) _ _ _

lemma absorb_lift (hw : 32 ≤ w) (hash : Registers Sha256.Word) (data : Bytes) :
    absorb 64 hash256Block (hash.map (lift w)) data =
      ((absorb 64 Sha256.compress hash data).1.map (lift w), (absorb 64 Sha256.compress hash data).2) :=
  absorb_map (by decide) (fun hash block _ => (hash256Block_lift hw hash block).symm) hash data

lemma init_holds (hw : 32 ≤ w) : (init : Hasher w).Holds [] := by
  refine ⟨rfl, ?_, initial_lift hw⟩
  have hzero : (0 : Word w).toNat = 0 := BitVec.toNat_ofNat .. ▸ Nat.zero_mod _
  exact .cons hzero rfl (.cons hzero rfl (.cons hzero rfl (.cons hzero rfl (.nil _))))

lemma Hasher.Holds.process (hw : 32 ≤ w) (hx : x.Holds message) (hd : data.length < 2 ^ (w - 1)) :
    (process x data).Holds (message ++ data) := by
  have hprocess : Picosha2.process x data = ⟨(absorb 64 hash256Block x.h (x.buffer ++ data)).2,
      addToDataLength (.ofNat w data.length) x.dataLengthDigits, (absorb 64 hash256Block x.h (x.buffer ++ data)).1⟩ := by
    rw [absorb, feed_eq_foldl]
    rfl
  rw [hprocess, hx.h, hx.buffer, absorb_lift hw]
  refine ⟨?_, ?_, ?_⟩
  · rw [absorbed_append]
  · rw [List.length_append]
    exact counts_addToDataLength hw hx.digits hd
  · rw [absorbed_append]

lemma Hasher.Holds.finish (hw : 32 ≤ w) (hx : x.Holds message) : ∃ y, finish x = some y ∧
    y.h = (absorb 64 Sha256.compress Sha256.initial (message ++ Sha256.padding message.length)).1.map (lift w) := by
  have hmod : x.buffer.length = message.length % 64 := hx.buffer ▸ length_absorb (by decide) _ _
  refine ⟨_, finish_eq (by omega) (writeDataBitLength_eq hw hx.digits) (length_bigEndian ..), ?_⟩
  rw [absorbed_append, hmod, hx.buffer]
  dsimp only
  rw [hx.h, absorb_lift hw]
  rfl

end message

end RouterCard.Picosha2
