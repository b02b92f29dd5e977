import RouterCard.Text.Bytes

namespace RouterCard.Text

variable {s blanks sign digits rest : Bytes} {n : ℤ}

structure IsNumeral (sign digits : Bytes) : Prop where
  isSign : sign = [] ∨ sign = [43] ∨ sign = [45]
  areDigits : ∀ b ∈ digits, isDigit b = true
  nonempty : digits ≠ []

def numeralValue (sign digits : Bytes) : ℤ :=
  if sign = [45] then -(natOfDigits digits : ℤ) else natOfDigits digits

def StartsWithInt (s : Bytes) (n : ℤ) : Prop :=
  ∃ blanks sign digits rest, s = blanks ++ (sign ++ (digits ++ rest)) ∧ (∀ b ∈ blanks, isSpace b = true) ∧
    IsNumeral sign digits ∧ (∀ b ∈ rest.head?, isDigit b = false) ∧ numeralValue sign digits = n ∧
    -2147483648 ≤ n ∧ n ≤ 2147483647

section prefixes

variable {p : UInt8 → Bool}

lemma takeWhile_stop (hs : ∀ b ∈ s, p b = true) (hr : ∀ b ∈ rest.head?, p b = false) : (s ++ rest).takeWhile p = s := by
  rw [List.takeWhile_append_of_pos hs]
  cases rest with
  | nil => simp
  | cons b rest => simp [hr b rfl]

lemma dropWhile_stop (hs : ∀ b ∈ s, p b = true) (hr : ∀ b ∈ rest.head?, p b = false) : (s ++ rest).dropWhile p = rest := by
  rw [List.dropWhile_append_of_pos hs]
  cases rest with
  | nil => rfl
  | cons b rest => simp [hr b rfl]

lemma head_dropWhile (p : UInt8 → Bool) (s : Bytes) : ∀ b ∈ (s.dropWhile p).head?, p b = false := by
  intro b hb
  have h := List.head?_dropWhile_not p s
  rw [hb] at h
  exact h

end prefixes

lemma isSpace_of_isDigit {b : UInt8} (h : isDigit b = true) : isSpace b = false := by
  have hlow : (48 : UInt8) ≤ b := by simp only [isDigit, Bool.and_eq_true, decide_eq_true_eq] at h; exact h.1
  have hle : 48 ≤ b.toNat := hlow
  simp only [isSpace, Bool.or_eq_false_iff, Bool.and_eq_false_iff, beq_eq_false_iff_ne, ne_eq, decide_eq_false_iff_not,
    ← UInt8.toNat_inj, UInt8.le_iff_toNat_le]
  constructor
  · simp; omega
  · right; simp; omega

lemma IsNumeral.head (h : IsNumeral sign digits) (rest : Bytes) :
    ∀ b ∈ (sign ++ (digits ++ rest)).head?, isSpace b = false := by
  intro b hb
  obtain ⟨d, ds, rfl⟩ := List.exists_cons_of_ne_nil h.nonempty
  rcases h.isSign with rfl | rfl | rfl
  · obtain rfl : d = b := by simpa using hb
    exact isSpace_of_isDigit (h.areDigits d (.head _))
  · obtain rfl : 43 = b := by simpa using hb
    rfl
  · obtain rfl : 45 = b := by simpa using hb
    rfl

lemma hasSign_of_isDigit {b : UInt8} (h : isDigit b = true) : b ≠ 43 ∧ b ≠ 45 := by
  constructor <;> rintro rfl <;> exact absurd h (by decide)

lemma IsNumeral.dropSign (h : IsNumeral sign digits) (rest : Bytes) :
    dropSign (sign ++ (digits ++ rest)) = digits ++ rest := by
  obtain ⟨d, ds, rfl⟩ := List.exists_cons_of_ne_nil h.nonempty
  obtain ⟨hplus, hminus⟩ := hasSign_of_isDigit (h.areDigits d (.head _))
  rcases h.isSign with rfl | rfl | rfl
  · simp [Text.dropSign, hasSign, hplus, hminus]
  · rfl
  · rfl

lemma IsNumeral.value (h : IsNumeral sign digits) (rest : Bytes) :
    (if (sign ++ (digits ++ rest)).head? = some 45 then -(natOfDigits digits : ℤ) else natOfDigits digits) =
      numeralValue sign digits := by
  obtain ⟨d, ds, rfl⟩ := List.exists_cons_of_ne_nil h.nonempty
  obtain ⟨-, hminus⟩ := hasSign_of_isDigit (h.areDigits d (.head _))
  rcases h.isSign with rfl | rfl | rfl
  · simp [numeralValue, hminus]
  · rfl
  · rfl

lemma stoi_numeral (hb : ∀ b ∈ blanks, isSpace b = true) (h : IsNumeral sign digits)
    (hr : ∀ b ∈ rest.head?, isDigit b = false) : stoi (blanks ++ (sign ++ (digits ++ rest))) =
      if -2147483648 ≤ numeralValue sign digits ∧ numeralValue sign digits ≤ 2147483647 then
        .ok (numeralValue sign digits) else .error .outOfRange := by
  rw [stoi, dropWhile_stop hb (h.head rest), h.dropSign, takeWhile_stop h.areDigits hr, h.value, if_neg h.nonempty]

lemma stoi_whole (h : IsNumeral sign digits) : stoi (sign ++ digits) =
    if -2147483648 ≤ numeralValue sign digits ∧ numeralValue sign digits ≤ 2147483647 then
      .ok (numeralValue sign digits) else .error .outOfRange := by
  have hblanks : ∀ b ∈ ([] : Bytes), isSpace b = true := by simp
  have hrest : ∀ b ∈ ([] : Bytes).head?, isDigit b = false := by simp
  have hall := stoi_numeral hblanks h hrest
  rwa [List.nil_append, List.append_nil] at hall

lemma split_sign (t : Bytes) : ∃ sign, t = sign ++ dropSign t ∧ (sign = [] ∨ sign = [43] ∨ sign = [45]) := by
  cases t with
  | nil => exact ⟨[], rfl, .inl rfl⟩
  | cons b t =>
    by_cases hm : b = 45
    · exact ⟨[45], by simp [dropSign, hasSign, hm], .inr (.inr rfl)⟩
    · by_cases hp : b = 43
      · exact ⟨[43], by simp [dropSign, hasSign, hp], .inr (.inl rfl)⟩
      · exact ⟨[], by simp [dropSign, hasSign, hm, hp], .inl rfl⟩

theorem stoi_ok_iff : stoi s = .ok n ↔ StartsWithInt s n := by
  constructor
  · intro h
    obtain ⟨sign, hsplit, hsign⟩ := split_sign (s.dropWhile isSpace)
    generalize hd : dropSign (s.dropWhile isSpace) = t at hsplit
    have hdigits : t.takeWhile isDigit ≠ [] := by
      intro hnil
      rw [stoi, hd, if_pos hnil] at h
      cases h
    have hnum : IsNumeral sign (t.takeWhile isDigit) := ⟨hsign, fun b hb => List.mem_takeWhile_imp hb, hdigits⟩
    have hs : s = s.takeWhile isSpace ++ (sign ++ (t.takeWhile isDigit ++ t.dropWhile isDigit)) := by
      rw [List.takeWhile_append_dropWhile, ← hsplit, List.takeWhile_append_dropWhile]
    rw [hs, stoi_numeral (fun b hb => List.mem_takeWhile_imp hb) hnum (head_dropWhile isDigit t)] at h
    split_ifs at h with hrange
    obtain rfl := Except.ok.inj h
    exact ⟨_, _, _, _, hs, fun b hb => List.mem_takeWhile_imp hb, hnum, head_dropWhile isDigit t, rfl, hrange⟩
  · rintro ⟨blanks, sign, digits, rest, rfl, hb, hnum, hr, rfl, hrange⟩
    rw [stoi_numeral hb hnum hr, if_pos hrange]

end RouterCard.Text
