import RouterCard.Text.Stdio
import RouterCard.Text.Strtol

namespace RouterCard.UsbGadget

open Text

-- The memory from the pointer on; only the first `size` bytes of it were allocated.
structure Block where
  size : ℕ
  memory : ℕ → UInt8
  written : List ℕ

namespace Block

def store (b : Block) (i : ℕ) (x : UInt8) : Block := ⟨b.size, Function.update b.memory i x, b.written ++ [i]⟩

def fill (b : Block) : ℕ → Bytes → Block
  | _, [] => b
  | i, x :: data => (b.store i x).fill (i + 1) data

def InBounds (b : Block) : Prop := ∀ i ∈ b.written, i < b.size

-- strlen(b) = n
def HasLength (b : Block) (n : ℕ) : Prop := (∀ i < n, b.memory i ≠ 0) ∧ b.memory n = 0

-- strlen(b) < n
def shorterThan (b : Block) (n : ℕ) : Bool := (List.range n).any fun i => b.memory i = 0

end Block

inductive Fault where
  | overflow
  | nullPointer

-- What malloc does: the memory it returns, with what is in it.
structure Heap where
  granted : Bool
  memory : ℕ → UInt8

-- The least LONG_MAX that C allows is that of 32 bits.
abbrev LongMax := {n : ℕ // 2 ^ 31 ≤ n + 1}

section source

variable (LONG_MAX : LongMax)

def ftell (contents : Bytes) : ℤ := if contents.length ≤ LONG_MAX.val then contents.length else -1

/-- The file is `none` where no path is given or it cannot be opened; `ok none` is NULL. -/
def readFile (file : Option Bytes) (heap : Heap) (len : ℕ) : Except Fault (Option Block) :=
  if LONG_MAX.val < len + 1 then .error .overflow
  else
    let len := len + 1
    match file with
    | none => .ok none
    | some contents =>
      if ftell LONG_MAX contents ≠ len then .ok none
      else if !heap.granted then .error .nullPointer
      else
        let ret : Block := ⟨len, heap.memory, []⟩
        let ret := ret.fill 0 (contents.take len)
        .ok (some (ret.store len 0))

abbrev EtherAddr := Fin 6 → UInt8

def octet (a b : UInt8) : UInt8 := UInt8.ofNat (strtol (cString [48, 120, a, b, 0]) % 256).toNat

def macStrToOctet (addr : Option Block) (dest : EtherAddr) : EtherAddr :=
  match addr with
  | none => dest
  | some addr =>
    if addr.shorterThan 16 then dest
    else (List.finRange 6).foldl (fun dest i =>
      Function.update dest i (octet (addr.memory (i * 3)) (addr.memory (i * 3 + 1)))) dest

-- What the calls of libusbg are given.
structure Attributes where
  hostAddr : EtherAddr
  devAddr : EtherAddr
  serial : Option Block

/-- The heaps are those that the three allocations meet. -/
def createUsbGadget (rom : Bytes → Option Bytes) (h₁ h₂ h₃ : Heap) : Except Fault Attributes := do
  let macAddr1 ← readFile LONG_MAX (rom (bytes "/rom/mac_address/1")) h₁ 17
  let macAddr2 ← readFile LONG_MAX (rom (bytes "/rom/mac_address/2")) h₂ 17
  let serial ← readFile LONG_MAX (rom (bytes "/rom/serial")) h₃ 14
  return ⟨macStrToOctet macAddr1 fun _ => 0, macStrToOctet macAddr2 fun _ => 0, serial⟩

end source

section texts

def Spells (digits : UInt8 × UInt8) (b : UInt8) : Prop :=
  digitValue digits.1 = b.toNat / 16 ∧ digitValue digits.2 = b.toNat % 16

def colonSeparated : List (UInt8 × UInt8) → Bytes
  | [] => []
  | [(a, b)] => [a, b]
  | (a, b) :: pairs => a :: b :: 58 :: colonSeparated pairs

def macText (digits : Fin 6 → UInt8 × UInt8) : Bytes := colonSeparated (List.ofFn digits) ++ [10]

end texts

def Exact (file : Option Bytes) (len : ℕ) : Except Fault (Option Block) → Prop
  | .error _ => False
  | .ok none => True
  | .ok (some b) => (∃ contents, file = some contents ∧ contents.length = len + 1 ∧
      ∀ i (h : i < contents.length), i < len → b.memory i = contents[i]) ∧ b.memory len = 0 ∧ b.InBounds

variable {LONG_MAX : LongMax} {len : ℕ} {file : Option Bytes} {heap : Heap} {b : Block} {contents : Bytes}

namespace Block

lemma memory_fill_lt (b : Block) {i n : ℕ} (data : Bytes) (h : n < i) : (b.fill i data).memory n = b.memory n := by
  induction data generalizing b i with
  | nil => rfl
  | cons x data ih =>
    rw [fill, ih _ (by omega)]
    exact Function.update_of_ne (by omega) _ _

lemma memory_fill (b : Block) (i : ℕ) {data : Bytes} {k : ℕ} (h : k < data.length) : (b.fill i data).memory (i + k) = data[k] := by
  induction data generalizing b i k with
  | nil => simp at h
  | cons x data ih =>
    cases k with
    | zero =>
      have hlater := memory_fill_lt (b.store i x) data (Nat.lt_succ_self i)
      exact hlater.trans (Function.update_self ..)
    | succ k =>
      have hlater := ih (b.store i x) (i + 1) (Nat.lt_of_succ_lt_succ h)
      rwa [Nat.add_assoc, Nat.add_comm 1] at hlater

lemma size_fill (b : Block) (i : ℕ) (data : Bytes) : (b.fill i data).size = b.size := by
  induction data generalizing b i with
  | nil => rfl
  | cons x data ih => exact ih _ _

lemma not_inBounds_store (b : Block) (x : UInt8) : ¬ (b.store b.size x).InBounds := by
  intro h
  exact absurd (h b.size (List.mem_append_right _ (List.mem_singleton_self _))) (Nat.lt_irrefl _)

end Block

section readFile

lemma ftell_eq (hlen : len < LONG_MAX.val) : ftell LONG_MAX contents = ((len + 1 : ℕ) : ℤ) ↔ contents.length = len + 1 := by
  by_cases h : contents.length ≤ LONG_MAX.val
  · rw [ftell, if_pos h]
    exact Int.ofNat_inj
  · rw [ftell, if_neg h]
    exact iff_of_false (by omega) (by omega)

lemma readFile_null (hlen : len < LONG_MAX.val) (h : ∀ contents, file = some contents → contents.length ≠ len + 1) :
    readFile LONG_MAX file heap len = .ok none := by
  rw [readFile, if_neg (by omega)]
  cases file with
  | none => rfl
  | some contents =>
    exact if_pos (mt (ftell_eq hlen).mp (h contents rfl))

variable (LONG_MAX) in
lemma readFile_some (hlen : len < LONG_MAX.val) (hc : contents.length = len + 1) (hgranted : heap.granted = true) :
    ∃ b, readFile LONG_MAX (some contents) heap len = .ok (some b) ∧
      (∀ i (h : i < contents.length), b.memory i = contents[i]) ∧ b.memory (len + 1) = 0 ∧ ¬ b.InBounds := by
  have hsize : ¬ ftell LONG_MAX contents ≠ ((len + 1 : ℕ) : ℤ) := not_not.mpr ((ftell_eq hlen).mpr hc)
  refine ⟨((⟨len + 1, heap.memory, []⟩ : Block).fill 0 contents).store (len + 1) 0, ?_, fun i h => ?_, ?_, ?_⟩
  · rw [readFile, if_neg (by omega)]
    dsimp only
    rw [if_neg hsize, hgranted, ← hc, List.take_length]
    rfl
  · have hfill := Block.memory_fill ⟨len + 1, heap.memory, []⟩ 0 h
    rw [Nat.zero_add] at hfill
    rw [← hfill]
    exact Function.update_of_ne (by omega) _ _
  · exact Function.update_self ..
  · have hsize := Block.size_fill ⟨len + 1, heap.memory, []⟩ 0 contents
    have hstore := Block.not_inBounds_store ((⟨len + 1, heap.memory, []⟩ : Block).fill 0 contents) 0
    rwa [hsize] at hstore

lemma exact_iff : Exact file len (readFile LONG_MAX file heap len) ↔
    len < LONG_MAX.val ∧ ∀ contents, file = some contents → contents.length ≠ len + 1 := by
  by_cases hlen : len < LONG_MAX.val
  · by_cases h : ∀ contents, file = some contents → contents.length ≠ len + 1
    · rw [readFile_null hlen h]
      exact iff_of_true trivial ⟨hlen, h⟩
    · refine iff_of_false (fun hexact => ?_) fun hcond => h hcond.2
      push Not at h
      obtain ⟨contents, rfl, hc⟩ := h
      cases hgranted : heap.granted with
      | false =>
        have hsize : ¬ ftell LONG_MAX contents ≠ ((len + 1 : ℕ) : ℤ) := not_not.mpr ((ftell_eq hlen).mpr hc)
        rw [readFile, if_neg (by omega)] at hexact
        dsimp only at hexact
        rw [if_neg hsize, hgranted] at hexact
        exact hexact
      | true =>
        obtain ⟨b, hb, -, -, hout⟩ := readFile_some LONG_MAX hlen hc hgranted
        rw [hb] at hexact
        exact hout hexact.2.2
  · refine iff_of_false (fun hexact => ?_) fun hcond => hlen hcond.1
    rw [readFile, if_pos (by omega)] at hexact
    exact hexact

end readFile

section macStrToOctet

variable {pairs : List (UInt8 × UInt8)} {digits : Fin 6 → UInt8 × UInt8} {a : EtherAddr}

lemma Spells.lt {pair : UInt8 × UInt8} {x : UInt8} (h : Spells pair x) : digitValue pair.1 < 16 ∧ digitValue pair.2 < 16 := by
  have hx := x.toNat_lt
  rw [h.1, h.2]
  omega

lemma Spells.octet_eq {pair : UInt8 × UInt8} {x : UInt8} (h : Spells pair x) : octet pair.1 pair.2 = x := by
  obtain ⟨h₁, h₂⟩ := h.lt
  have hz : (0 : UInt8) ∉ [48, 120, pair.1, pair.2] := by
    simp [(hexDigit_ne_zero h₁).symm, (hexDigit_ne_zero h₂).symm]
  have hstring : cString [48, 120, pair.1, pair.2, 0] = [48, 120, pair.1, pair.2] := cString_append_nul hz []
  have hvalue : (((16 * digitValue pair.1 + digitValue pair.2 : ℕ) : ℤ) % 256).toNat = x.toNat := by
    have hx := x.toNat_lt
    rw [h.1, h.2]
    omega
  rw [octet, hstring, strtol_hexPair h₁ h₂]
  push_cast at hvalue
  rw [hvalue, UInt8.ofNat_toNat]

lemma length_colonSeparated (pairs : List (UInt8 × UInt8)) : (colonSeparated pairs).length = 3 * pairs.length - 1 := by
  induction pairs using colonSeparated.induct with
  | case1 => rfl
  | case2 a b => rfl
  | case3 a b pairs hne ih =>
    have hpos := List.length_pos_of_ne_nil hne
    simp only [colonSeparated, List.length_cons, ih]
    omega

lemma getElem_colonSeparated (pairs : List (UInt8 × UInt8)) (i : ℕ) :
    (colonSeparated pairs)[i * 3]? = pairs[i]?.map Prod.fst ∧ (colonSeparated pairs)[i * 3 + 1]? = pairs[i]?.map Prod.snd := by
  induction pairs using colonSeparated.induct generalizing i with
  | case1 => exact ⟨rfl, rfl⟩
  | case2 a b =>
    cases i with
    | zero => exact ⟨rfl, rfl⟩
    | succ i =>
      have h : (i + 1) * 3 = i * 3 + 1 + 1 + 1 := by omega
      simp [colonSeparated, h]
  | case3 a b pairs hne ih =>
    cases i with
    | zero => simp [colonSeparated]
    | succ i =>
      have h : (i + 1) * 3 = i * 3 + 1 + 1 + 1 := by omega
      simpa [colonSeparated, h] using ih i

lemma colonSeparated_ne_zero (h : ∀ p ∈ pairs, digitValue p.1 < 16 ∧ digitValue p.2 < 16) :
    ∀ c ∈ colonSeparated pairs, c ≠ 0 := by
  induction pairs using colonSeparated.induct with
  | case1 => exact nofun
  | case2 a b =>
    obtain ⟨ha, hb⟩ := h (a, b) (.head _)
    simp only [colonSeparated, List.forall_mem_cons]
    exact ⟨hexDigit_ne_zero ha, hexDigit_ne_zero hb, nofun⟩
  | case3 a b pairs hne ih =>
    obtain ⟨ha, hb⟩ := h (a, b) (.head _)
    simp only [colonSeparated, List.forall_mem_cons]
    exact ⟨hexDigit_ne_zero ha, hexDigit_ne_zero hb, by decide, ih fun p hp => h p (.tail _ hp)⟩

lemma foldl_update (f : Fin 6 → UInt8) (l : List (Fin 6)) (dest : EtherAddr) (i : Fin 6) :
    l.foldl (fun dest i => Function.update dest i (f i)) dest i = if i ∈ l then f i else dest i := by
  induction l generalizing dest with
  | nil => simp
  | cons j l ih =>
    rw [List.foldl_cons, ih]
    by_cases hi : i ∈ l
    · rw [if_pos hi, if_pos (List.mem_cons_of_mem j hi)]
    · by_cases hj : i = j
      · subst hj
        rw [if_neg hi, if_pos (List.mem_cons_self ..), Function.update_self]
      · rw [if_neg hi, if_neg (by simp [hi, hj]), Function.update_of_ne hj]

lemma length_macText (digits : Fin 6 → UInt8 × UInt8) : (macText digits).length = 18 := by
  rw [macText, List.length_append, length_colonSeparated, List.length_ofFn]
  rfl

lemma macStrToOctet_text (hd : ∀ i, Spells (digits i) (a i))
    (hb : ∀ i (h : i < (macText digits).length), b.memory i = (macText digits)[i]) (dest : EtherAddr) :
    macStrToOctet (some b) dest = a := by
  have hget : ∀ i x, (colonSeparated (List.ofFn digits))[i]? = some x → b.memory i = x := by
    intro i x hx
    obtain ⟨hi, rfl⟩ := List.getElem?_eq_some_iff.mp hx
    rw [hb i (by rw [macText, List.length_append]; omega)]
    exact List.getElem_append_left hi
  have hhex : ∀ p ∈ List.ofFn digits, digitValue p.1 < 16 ∧ digitValue p.2 < 16 := by
    intro p hp
    obtain ⟨i, rfl⟩ := (List.mem_ofFn' _ _).mp hp
    exact (hd i).lt
  have hlong : b.shorterThan 16 = false := by
    rw [Block.shorterThan, List.any_eq_false]
    intro i hi
    have hlen : i < (colonSeparated (List.ofFn digits)).length := by
      rw [length_colonSeparated, List.length_ofFn]
      have := List.mem_range.mp hi
      omega
    rw [hget i _ (List.getElem?_eq_getElem hlen)]
    simpa using colonSeparated_ne_zero hhex _ (List.getElem_mem hlen)
  rw [macStrToOctet, hlong]
  funext i
  have hi : (List.ofFn digits)[i.val]? = some (digits i) := by
    rw [List.getElem?_ofFn, dif_pos i.isLt]
  obtain ⟨hfst, hsnd⟩ := getElem_colonSeparated (List.ofFn digits) i
  rw [hi] at hfst hsnd
  refine (foldl_update _ _ _ _).trans ?_
  rw [if_pos (List.mem_finRange i), hget _ _ hfst, hget _ _ hsnd]
  exact (hd i).octet_eq

end macStrToOctet

section gadget

variable (LONG_MAX) in
lemma readFile_macText {digits : Fin 6 → UInt8 × UInt8} {a : EtherAddr} (hgranted : heap.granted = true)
    (hd : ∀ i, Spells (digits i) (a i)) : ∃ b, readFile LONG_MAX (some (macText digits)) heap 17 = .ok (some b) ∧
      ∀ dest, macStrToOctet (some b) dest = a := by
  have hmax := LONG_MAX.property
  obtain ⟨b, hread, hb, -, -⟩ := readFile_some LONG_MAX (by omega) (length_macText digits) hgranted
  exact ⟨b, hread, macStrToOctet_text hd hb⟩

lemma hasLength_iff (hc : contents.length = len + 1) (hb : ∀ i (h : i < contents.length), b.memory i = contents[i]) :
    b.HasLength len ↔ ∃ s : Bytes, s.length = len ∧ (0 : UInt8) ∉ s ∧ contents = s ++ [0] := by
  constructor
  · rintro ⟨hne, hz⟩
    refine ⟨contents.take len, List.length_take_of_le (by omega), fun hmem => ?_, ?_⟩
    · obtain ⟨i, hi, hi0⟩ := List.mem_iff_getElem.mp hmem
      rw [List.length_take] at hi
      rw [List.getElem_take] at hi0
      exact hne i (by omega) ((hb i (by omega)).trans hi0)
    · have hlast : contents[len] = 0 := (hb len (by omega)).symm.trans hz
      have hsplit := List.take_append_drop len contents
      rw [List.drop_eq_getElem_cons (by omega), hlast, List.drop_eq_nil_of_le (by omega)] at hsplit
      exact hsplit.symm
  · rintro ⟨s, hs, hz, rfl⟩
    subst hs
    refine ⟨fun i hi hi0 => hz ?_, ?_⟩
    · rw [hb i (by simp; omega), List.getElem_append_left hi] at hi0
      exact hi0 ▸ List.getElem_mem hi
    · rw [hb _ (by simp)]
      simp

variable (LONG_MAX file) in
lemma serial_iff (hgranted : heap.granted = true) : ∃ serial, readFile LONG_MAX file heap 14 = .ok serial ∧
    ((∃ b, serial = some b ∧ b.HasLength 14) ↔ ∃ s : Bytes, s.length = 14 ∧ (0 : UInt8) ∉ s ∧ file = some (s ++ [0])) := by
  have hmax := LONG_MAX.property
  by_cases h : ∀ contents, file = some contents → contents.length ≠ 14 + 1
  · refine ⟨none, readFile_null (by omega) h, iff_of_false (by simp) ?_⟩
    rintro ⟨s, hs, -, rfl⟩
    exact h _ rfl (by simp [hs])
  · push Not at h
    obtain ⟨contents, rfl, hc⟩ := h
    obtain ⟨b, hread, hb, -, -⟩ := readFile_some LONG_MAX (by omega) hc hgranted
    refine ⟨some b, hread, ?_⟩
    simpa using hasLength_iff hc hb

theorem identity_files_iff (LONG_MAX : LongMax) :
    (∀ file heap len, Exact file len (readFile LONG_MAX file heap len) ↔
      len < LONG_MAX.val ∧ ∀ contents, file = some contents → contents.length ≠ len + 1) ∧
    (∀ heap digits a, heap.granted = true → (∀ i, Spells (digits i) (a i)) →
      ∃ b, readFile LONG_MAX (some (macText digits)) heap 17 = .ok (some b) ∧ ∀ dest, macStrToOctet (some b) dest = a) ∧
    ∀ rom (h₁ h₂ h₃ : Heap) digits₁ digits₂ a₁ a₂, h₁.granted = true → h₂.granted = true → h₃.granted = true →
      (∀ i, Spells (digits₁ i) (a₁ i)) → (∀ i, Spells (digits₂ i) (a₂ i)) →
      rom (bytes "/rom/mac_address/1") = some (macText digits₁) → rom (bytes "/rom/mac_address/2") = some (macText digits₂) →
      ∃ g, createUsbGadget LONG_MAX rom h₁ h₂ h₃ = .ok g ∧ g.hostAddr = a₁ ∧ g.devAddr = a₂ ∧
        ((∃ b, g.serial = some b ∧ b.HasLength 14) ↔
          ∃ s : Bytes, s.length = 14 ∧ (0 : UInt8) ∉ s ∧ rom (bytes "/rom/serial") = some (s ++ [0])) := by
  refine ⟨fun file heap len => exact_iff, fun heap digits a hg hd => readFile_macText LONG_MAX hg hd, ?_⟩
  intro rom h₁ h₂ h₃ digits₁ digits₂ a₁ a₂ hg₁ hg₂ hg₃ hd₁ hd₂ hrom₁ hrom₂
  obtain ⟨b₁, hread₁, hmac₁⟩ := readFile_macText LONG_MAX hg₁ hd₁
  obtain ⟨b₂, hread₂, hmac₂⟩ := readFile_macText LONG_MAX hg₂ hd₂
  obtain ⟨serial, hread₃, hserial⟩ := serial_iff LONG_MAX (rom (bytes "/rom/serial")) hg₃
  refine ⟨⟨macStrToOctet (some b₁) fun _ => 0, macStrToOctet (some b₂) fun _ => 0, serial⟩, ?_, hmac₁ _, hmac₂ _, hserial⟩
  rw [createUsbGadget, hrom₁, hrom₂, hread₁, hread₂, hread₃]
  rfl

end gadget

section samples

def long64 : LongMax := ⟨2 ^ 63 - 1, by decide⟩

def zeroed : Heap := ⟨true, fun _ => 0⟩

theorem identity_files_iff_mac : ∃ b, readFile long64 (some (macText fun _ => (97, 66))) zeroed 17 = .ok (some b) ∧
    ∀ dest, macStrToOctet (some b) dest = fun _ => 0xab :=
  (identity_files_iff long64).2.1 zeroed _ _ rfl fun _ => ⟨by decide, by decide⟩

theorem serial_overruns : ¬ Exact (some (bytes "XAP01234567890\n")) 14
      (readFile long64 (some (bytes "XAP01234567890\n")) zeroed 14) ∧
    ∃ b, readFile long64 (some (bytes "XAP01234567890\n")) zeroed 14 = .ok (some b) ∧
      b.size = 15 ∧ 15 ∈ b.written ∧ ¬ b.HasLength 14 := by
  refine ⟨fun h => absurd (h.2.2 15) (by decide), _, rfl, rfl, by decide, fun h => absurd h.2 (by decide)⟩

end samples

end RouterCard.UsbGadget
