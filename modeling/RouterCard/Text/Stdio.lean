import RouterCard.Text.Bytes

namespace RouterCard.Text

abbrev CharArray (n : ℕ) := {s : Bytes // s.length = n}

-- At most `n` bytes, and none behind the first newline.
def lineChunk : ℕ → Bytes → Bytes
  | 0, _ => []
  | _ + 1, [] => []
  | n + 1, b :: s => if b = 10 then [b] else b :: lineChunk n s

lemma length_lineChunk_le (n : ℕ) (s : Bytes) : (lineChunk n s).length ≤ n := by
  induction n, s using lineChunk.induct with
  | case1 | case2 => simp [lineChunk]
  | case3 n s => simp [lineChunk]
  | case4 n b s hb ih => simpa [lineChunk, hb] using ih

/-- The call fills the array with the chunk and a NUL; at the end of the stream it leaves it alone. -/
def fgets {n : ℕ} (buffer : CharArray (n + 1)) (stream : Bytes) : Option (CharArray (n + 1) × Bytes) :=
  if stream = [] then none
  else some (⟨lineChunk n stream ++ 0 :: buffer.val.drop ((lineChunk n stream).length + 1), by
      have hb := buffer.property
      have hc := length_lineChunk_le n stream
      simp
      omega⟩, stream.drop (lineChunk n stream).length)

variable {n : ℕ} {s t : Bytes}

lemma lineChunk_append_drop (n : ℕ) (s : Bytes) : lineChunk n s ++ s.drop (lineChunk n s).length = s := by
  induction n, s using lineChunk.induct with
  | case1 | case2 => simp [lineChunk]
  | case3 n s => simp [lineChunk]
  | case4 n b s hb ih => simpa [lineChunk, hb] using ih

lemma lineChunk_ne_nil (hs : s ≠ []) : lineChunk (n + 1) s ≠ [] := by
  cases s with
  | nil => exact absurd rfl hs
  | cons b s =>
    rw [lineChunk]
    split_ifs
    · exact List.cons_ne_nil _ _
    · exact List.cons_ne_nil _ _

lemma length_drop_lineChunk (hs : s ≠ []) : (s.drop (lineChunk (n + 1) s).length).length < s.length := by
  have hpos := List.length_pos_of_ne_nil (lineChunk_ne_nil (n := n) hs)
  have hs := List.length_pos_of_ne_nil hs
  rw [List.length_drop]
  omega

lemma fgets_nil (buffer : CharArray (n + 1)) : fgets buffer [] = none := if_pos rfl

lemma fgets_ne_nil (buffer : CharArray (n + 1)) (hs : s ≠ []) : ∃ filled : CharArray (n + 1),
    fgets buffer s = some (filled, s.drop (lineChunk n s).length) ∧ ∃ rest, filled.val = lineChunk n s ++ 0 :: rest :=
  ⟨_, if_neg hs, _, rfl⟩

lemma cString_append_nul (h : (0 : UInt8) ∉ s) (t : Bytes) : cString (s ++ 0 :: t) = s := by
  have hall : ∀ b ∈ s, (b != 0) = true := fun b hb => by simpa using fun hz : b = 0 => h (hz ▸ hb)
  rw [cString, List.takeWhile_append_of_pos hall]
  simp

end RouterCard.Text
