import RouterCard.Text.Bytes

namespace RouterCard.Text

variable {sep : UInt8} {s front rest : Bytes}

def AfterLast (sep : UInt8) (s rest : Bytes) : Prop := sep ∉ rest ∧ (s = rest ∨ ∃ front, s = front ++ sep :: rest)

def BeforeLast (sep : UInt8) (s front : Bytes) : Prop :=
  sep ∉ s ∧ s = front ∨ ∃ rest, sep ∉ rest ∧ s = front ++ sep :: rest

lemma exists_last (h : sep ∈ s) : ∃ front rest, s = front ++ sep :: rest ∧ sep ∉ rest := by
  induction s with
  | nil => exact absurd h List.not_mem_nil
  | cons b s ih =>
    by_cases hs : sep ∈ s
    · obtain ⟨front, rest, rfl, hr⟩ := ih hs
      exact ⟨b :: front, rest, rfl, hr⟩
    · obtain rfl : sep = b := (List.mem_cons.mp h).resolve_right hs
      exact ⟨[], s, rfl, hs⟩

lemma exists_afterLast (sep : UInt8) (s : Bytes) : ∃ rest, AfterLast sep s rest := by
  by_cases h : sep ∈ s
  · obtain ⟨front, rest, rfl, hr⟩ := exists_last h
    exact ⟨rest, hr, .inr ⟨front, rfl⟩⟩
  · exact ⟨s, h, .inl rfl⟩

lemma exists_beforeLast (sep : UInt8) (s : Bytes) : ∃ front, BeforeLast sep s front := by
  by_cases h : sep ∈ s
  · obtain ⟨front, rest, rfl, hr⟩ := exists_last h
    exact ⟨front, .inr ⟨rest, hr, rfl⟩⟩
  · exact ⟨s, .inl ⟨h, rfl⟩⟩

end RouterCard.Text
