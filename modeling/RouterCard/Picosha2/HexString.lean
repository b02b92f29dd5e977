import RouterCard.Picosha2.Digest

namespace RouterCard.Picosha2

open Text Hashing

/-- The width of an `unsigned long`, with the least that C allows. -/
abbrev LongWidth := {w : ℕ // 32 ≤ w}

section source

variable (w : LongWidth)

def kDigestSize : ℕ := 32

def digestOf (x : Hasher w.val) (size : ℕ) : Option Bytes := do
  let y ← finish x
  return getHashBytes y size

-- hash256_impl for random access iterators.
def hash256 (src : Bytes) (size : ℕ) : Option Bytes := digestOf w (process init src) size

-- The loop of hash256_impl for input iterators; the fuel bounds its turns.
def readInto (bufferSize : ℕ) : ℕ → Bytes → Hasher w.val → Option (Hasher w.val)
  | 0, _, _ => none
  | fuel + 1, src, x =>
    if src = [] then some x else readInto bufferSize fuel (src.drop bufferSize) (process x (src.take bufferSize))

def hash256Input (bufferSize fuel : ℕ) (src : Bytes) (size : ℕ) : Option Bytes := do
  let x ← readInto w bufferSize fuel src init
  digestOf w x size

-- A number as a stream prints it in the base 16.
def hexNumeral (n : ℕ) : Bytes := if n = 0 then [48] else (Nat.digits 16 n).reverse.map hexDigit

def padLeft (width : ℕ) (fill : UInt8) (s : Bytes) : Bytes := List.replicate (width - s.length) fill ++ s

def outputHex (s : Bytes) : Bytes := s.flatMap fun b => padLeft 2 48 (hexNumeral b.toNat)

def hash256HexString (src : Bytes) : Option Bytes := do
  let hashed ← hash256 w src kDigestSize
  return outputHex hashed

end source

section digests

variable {w : ℕ} {x : Hasher w} {hash : Registers Sha256.Word} {message : Bytes}

lemma wordBytes (hw : 32 ≤ w) (x : Sha256.Word) :
    ((List.range 4).map fun i => toByte (lift w x >>> (24 - 8 * i))) = bigEndian 4 x.toNat := by
  have hlift : (lift w x).toNat = x.toNat := by
    rw [BitVec.toNat_setWidth, Nat.mod_eq_of_lt (x.isLt.trans_le (Nat.pow_le_pow_right (by decide) hw))]
  have hbyte : ∀ n, toByte (lift w x >>> n) = UInt8.ofNat (x.toNat / 2 ^ n) := by
    intro n
    rw [toByte_eq, BitVec.toNat_ushiftRight, hlift, Nat.shiftRight_eq_div_pow]
  simp only [hbyte, bigEndian, Nat.div_div_eq_div_mul, List.nil_append, List.cons_append, List.range, List.range.loop,
    List.map_cons, List.map_nil]
  norm_num

lemma getHashBytes_eq (hw : 32 ≤ w) (h : x.h = hash.map (lift w)) : getHashBytes x 32 = Sha256.digest hash := by
  have hbytes : (x.h.toList.flatMap fun word : Word w => (List.range 4).map fun i => toByte (word >>> (24 - 8 * i))) =
      Sha256.digest hash := by
    rw [h, Registers.toList_map, List.flatMap_map, Sha256.digest]
    simp only [wordBytes hw]
  rw [getHashBytes, hbytes, List.take_of_length_le (Sha256.length_digest hash).le]

lemma Hasher.Holds.digestOf {w : LongWidth} {x : Hasher w.val} (h : x.Holds message) :
    digestOf w x 32 = some (Sha256.sha256 message) := by
  obtain ⟨y, hy, hdigest⟩ := h.finish w.property
  rw [Picosha2.digestOf, hy]
  exact congrArg some (getHashBytes_eq w.property hdigest)

lemma holds_pieces {w : LongWidth} {x : Hasher w.val} (h : x.Holds message) {pieces : List Bytes}
    (hp : ∀ data ∈ pieces, data.length < 2 ^ (w.val - 1)) : (pieces.foldl process x).Holds (message ++ pieces.flatten) := by
  induction pieces generalizing x message with
  | nil => simpa using h
  | cons data pieces ih =>
    rw [List.foldl_cons, List.flatten_cons, ← List.append_assoc]
    exact ih (h.process w.property (hp data (.head _))) fun d hd => hp d (.tail data hd)

theorem pieces_hashed (w : LongWidth) (pieces : List Bytes) (hp : ∀ data ∈ pieces, data.length < 2 ^ (w.val - 1)) :
    digestOf w (pieces.foldl process init) 32 = some (Sha256.sha256 pieces.flatten) :=
  (holds_pieces (init_holds w.property) hp).digestOf

theorem pieces_hashed_abc : digestOf ⟨32, le_rfl⟩ ([bytes "a", bytes "", bytes "bc"].foldl process init) 32 =
    some (Sha256.sha256 [bytes "a", bytes "", bytes "bc"].flatten) :=
  pieces_hashed ⟨32, le_rfl⟩ _ (by decide)

end digests

section input

variable {w : LongWidth} {x y : Hasher w.val} {message src : Bytes} {n fuel : ℕ}

lemma readInto_holds (hn : n < 2 ^ (w.val - 1)) (hx : x.Holds message) (h : readInto w n fuel src x = some y) :
    y.Holds (message ++ src) := by
  induction fuel generalizing src x message with
  | zero => simp [readInto] at h
  | succ fuel ih =>
    rw [readInto] at h
    split_ifs at h with hs
    · obtain rfl := Option.some.inj h
      simpa [hs] using hx
    · have hlen : (src.take n).length < 2 ^ (w.val - 1) := (List.length_take_le n src).trans_lt hn
      have hrest := ih (hx.process w.property hlen) h
      rwa [List.append_assoc, List.take_append_drop] at hrest

lemma readInto_some (hn : 0 < n) (hf : src.length < fuel) : ∃ y, readInto w n fuel src x = some y := by
  induction fuel generalizing src x with
  | zero => exact absurd hf (Nat.not_lt_zero _)
  | succ fuel ih =>
    rw [readInto]
    split_ifs with hs
    · exact ⟨x, rfl⟩
    · have hpos := List.length_pos_of_ne_nil hs
      exact ih (by rw [List.length_drop]; omega)

lemma readInto_zero (hs : src ≠ []) : readInto w 0 fuel src x = none := by
  induction fuel generalizing x with
  | zero => rfl
  | succ fuel ih =>
    rw [readInto, if_neg hs, List.drop_zero]
    exact ih

theorem buffered_hashed (w : LongWidth) {n : ℕ} (hn : n < 2 ^ (w.val - 1)) (src : Bytes) :
    (∀ fuel hashed, hash256Input w n fuel src 32 = some hashed → hashed = Sha256.sha256 src) ∧
      ((∃ fuel hashed, hash256Input w n fuel src 32 = some hashed) ↔ 0 < n ∨ src = []) := by
  have hread : ∀ {fuel y}, readInto w n fuel src init = some y → hash256Input w n fuel src 32 = some (Sha256.sha256 src) := by
    intro fuel y h
    have hy := readInto_holds hn (init_holds w.property) h
    rw [hash256Input, h]
    exact hy.digestOf
  constructor
  · intro fuel hashed h
    obtain ⟨y, hy, -⟩ := Option.bind_eq_some_iff.mp h
    exact Option.some.inj (h.symm.trans (hread hy))
  · constructor
    · rintro ⟨fuel, hashed, h⟩
      by_contra hnot
      push Not at hnot
      obtain ⟨hzero, hs⟩ := hnot
      obtain rfl : n = 0 := by omega
      obtain ⟨y, hy, -⟩ := Option.bind_eq_some_iff.mp h
      rw [readInto_zero hs] at hy
      cases hy
    · rintro (hpos | rfl)
      · obtain ⟨y, hy⟩ := readInto_some (w := w) (x := init) hpos (Nat.lt_succ_self src.length)
        exact ⟨_, _, hread hy⟩
      · exact ⟨1, _, hread (y := init) rfl⟩

theorem buffered_hashed_abc :
    (∀ fuel hashed, hash256Input ⟨32, le_rfl⟩ 1048576 fuel (bytes "abc") 32 = some hashed →
      hashed = Sha256.sha256 (bytes "abc")) ∧
      ((∃ fuel hashed, hash256Input ⟨32, le_rfl⟩ 1048576 fuel (bytes "abc") 32 = some hashed) ↔
        0 < 1048576 ∨ bytes "abc" = []) :=
  buffered_hashed ⟨32, le_rfl⟩ (by norm_num) (bytes "abc")

end input

section text

lemma padLeft_hexNumeral (b : UInt8) : padLeft 2 48 (hexNumeral b.toNat) = hexPair b := by
  have hb := b.toNat_lt
  rw [hexNumeral, hexPair]
  split_ifs with hzero
  · rw [hzero]
    rfl
  · by_cases hlow : b.toNat < 16
    · rw [Nat.digits_of_lt 16 _ hzero hlow, Nat.div_eq_of_lt hlow, Nat.mod_eq_of_lt hlow]
      rfl
    · rw [Nat.digits_def' (by decide) (by omega), Nat.digits_of_lt 16 _ (by omega) (by omega)]
      rfl

lemma outputHex_eq (s : Bytes) : outputHex s = hexText s := by
  rw [outputHex, hexText]
  exact congrArg (s.flatMap ·) (funext padLeft_hexNumeral)

lemma hash256HexString_eq (w : LongWidth) {src : Bytes} (hs : src.length < 2 ^ (w.val - 1)) :
    hash256HexString w src = some (hexText (Sha256.sha256 src)) := by
  have hdigest := (((init_holds w.property).process w.property hs).digestOf : digestOf w _ 32 = _)
  rw [List.nil_append] at hdigest
  rw [hash256HexString, hash256, kDigestSize, hdigest]
  exact congrArg some (outputHex_eq _)

theorem hex_string_spells (w : LongWidth) {src : Bytes} (hs : src.length < 2 ^ (w.val - 1)) :
    ∃ text, hash256HexString w src = some text ∧ text.length = 64 ∧ (∀ b ∈ text, isLowerHex b = true) ∧
      hexBytes text = Sha256.sha256 src := by
  refine ⟨_, hash256HexString_eq w hs, ?_, fun b hb => isLowerHex_hexText hb, hexBytes_hexText _⟩
  rw [length_hexText, Sha256.length_sha256]

theorem hex_string_spells_abc : ∃ text, hash256HexString ⟨32, le_rfl⟩ (bytes "abc") = some text ∧ text.length = 64 ∧
    (∀ b ∈ text, isLowerHex b = true) ∧ hexBytes text = Sha256.sha256 (bytes "abc") :=
  hex_string_spells ⟨32, le_rfl⟩ (by decide)

set_option maxRecDepth 100000 in
example : hash256HexString ⟨64, by decide⟩ (bytes "abc") =
    some (bytes "ba7816bf8f01cfea414140de5dae2223b00361a396177a9cb410ff61f20015ad") := by decide +kernel

end text

end RouterCard.Picosha2
