import RouterCard.Text.Bytes

/-! How a POSIX shell splits a command line into tokens. Where an expansion begins, the
rest of the line is left to the environment of the shell. -/

namespace RouterCard.Shell

open Text

-- A byte of a word, and whether it was quoted.
abbrev Piece := UInt8 × Bool

abbrev Word := List Piece

inductive Token where
  | word (w : Word)
  | operator (c : UInt8)
  | newline
  -- the word begun by `w` goes on with an expansion, at `s`
  | expansion (w : Word) (s : Bytes)

inductive Mode where
  | unquoted
  | escaped
  | single
  | double
  | doubleEscaped
  | comment

def isOperator (c : UInt8) : Bool := (bytes "|&;<>()").contains c

def isBlank (c : UInt8) : Bool := c == 32 || c == 9

-- What ends a word, with the token it makes itself.
def separator (c : UInt8) : Option (List Token) :=
  if isOperator c then some [.operator c]
  else if c = 10 then some [.newline]
  else if isBlank c then some []
  else none

def isExpansion (c : UInt8) : Bool := c == 36 || c == 96

def isQuoting (c : UInt8) : Bool := c == 39 || c == 34 || c == 92

def isOrdinary (c : UInt8) : Bool := (separator c).isNone && !isExpansion c && !isQuoting c

def push (cur : Option Word) (p : Piece) : Option Word := some (cur.getD [] ++ [p])

def finish (cur : Option Word) : List Token := (cur.map Token.word).toList

-- `none` for a quotation without an end.
def lex : Mode → Option Word → Bytes → Option (List Token)
  | .unquoted, cur, [] | .comment, cur, [] => some (finish cur)
  -- an escape at the end of the line is unspecified
  | .escaped, cur, [] => some [.expansion (cur.getD []) []]
  | .single, _, [] | .double, _, [] | .doubleEscaped, _, [] => none
  | .unquoted, cur, c :: s =>
    match separator c with
    | some ts => (lex .unquoted none s).map fun rest => finish cur ++ (ts ++ rest)
    | none =>
      if isExpansion c then some [.expansion (cur.getD []) (c :: s)]
      else if c = 39 then lex .single (some (cur.getD [])) s
      else if c = 34 then lex .double (some (cur.getD [])) s
      else if c = 92 then lex .escaped cur s
      else if c = 35 ∧ cur = none then lex .comment none s
      else lex .unquoted (push cur (c, false)) s
  | .comment, cur, c :: s =>
    if c = 10 then (lex .unquoted none s).map fun rest => finish cur ++ (.newline :: rest)
    else lex .comment cur s
  | .escaped, cur, c :: s => if c = 10 then lex .unquoted cur s else lex .unquoted (push cur (c, true)) s
  | .single, cur, c :: s => if c = 39 then lex .unquoted cur s else lex .single (push cur (c, true)) s
  | .double, cur, c :: s =>
    if c = 34 then lex .unquoted cur s
    else if isExpansion c then some [.expansion (cur.getD []) (c :: s)]
    else if c = 92 then lex .doubleEscaped cur s
    else lex .double (push cur (c, true)) s
  | .doubleEscaped, cur, c :: s =>
    if c = 10 then lex .double cur s
    else if isExpansion c || c == 34 || c == 92 then lex .double (push cur (c, true)) s
    else lex .double (push (push cur (92, true)) (c, true)) s

def tokens (line : Bytes) : Option (List Token) := lex .unquoted none line

section size

def Token.size : Token → ℕ
  | .word w => w.length + 1
  | _ => 0

def size (ts : List Token) : ℕ := (ts.map Token.size).sum

@[simp] lemma size_nil : size [] = 0 := rfl

@[simp] lemma size_cons (t : Token) (ts : List Token) : size (t :: ts) = t.size + size ts := by simp [size]

@[simp] lemma size_append (ts us : List Token) : size (ts ++ us) = size ts + size us := by simp [size]

def held (cur : Option Word) : ℕ := (cur.map List.length).getD 0

@[simp] lemma held_none : held none = 0 := rfl

@[simp] lemma held_push (cur : Option Word) (p : Piece) : held (push cur p) = held cur + 1 := by
  cases cur <;> simp [held, push]

@[simp] lemma held_begin (cur : Option Word) : held (some (cur.getD [])) = held cur := by
  cases cur <;> rfl

lemma size_finish (cur : Option Word) : size (finish cur) ≤ held cur + 1 := by
  cases cur <;> simp [finish, held, Token.size]

lemma size_separator {c : UInt8} {ts : List Token} (h : separator c = some ts) : size ts = 0 := by
  unfold separator at h
  split_ifs at h <;> obtain rfl := Option.some.inj h <;> rfl

def slack : Mode → ℕ
  | .doubleEscaped => 1
  | _ => 0

lemma lex_size {m : Mode} {cur : Option Word} {s : Bytes} {ts : List Token} (h : lex m cur s = some ts) :
    size ts ≤ held cur + s.length + 1 + slack m := by
  induction s generalizing m cur ts with
  | nil =>
    cases m with
    | unquoted | comment =>
      obtain rfl := Option.some.inj h
      have hf := size_finish cur
      simp only [List.length_nil, slack]
      omega
    | escaped =>
      obtain rfl := Option.some.inj h
      simp [Token.size]
    | single | double | doubleEscaped => simp [lex] at h
  | cons c s ih =>
    have hf := size_finish cur
    cases m with
    | unquoted =>
      unfold lex at h
      split at h
      · next us hs =>
        obtain ⟨rest, hr, rfl⟩ := Option.map_eq_some_iff.mp h
        have hi := ih hr
        simp only [size_append, size_separator hs, List.length_cons, held_none, slack] at hi ⊢
        omega
      · split_ifs at h
        · obtain rfl := Option.some.inj h
          simp [Token.size]
        all_goals
          have hi := ih h
          simp only [held_push, held_begin, held_none, List.length_cons, slack] at hi ⊢
          omega
    | comment =>
      unfold lex at h
      split_ifs at h
      · obtain ⟨rest, hr, rfl⟩ := Option.map_eq_some_iff.mp h
        have hi := ih hr
        simp only [size_append, size_cons, Token.size, List.length_cons, held_none, slack] at hi ⊢
        omega
      · have hi := ih h
        simp only [List.length_cons, slack] at hi ⊢
        omega
    | escaped | single | double | doubleEscaped =>
      unfold lex at h
      split_ifs at h
      all_goals first
        | obtain rfl := Option.some.inj h
          simp [Token.size]
        | have hi := ih h
          simp only [held_push, List.length_cons, slack] at hi ⊢
          omega

end size

section clean

def plain (s : Bytes) : Word := s.map fun c => (c, false)

structure Clean (s : Bytes) : Prop where
  nonempty : s ≠ []
  ordinary : ∀ c ∈ s, isOrdinary c = true
  comment : s.head? ≠ some 35

def isClean (s : Bytes) : Bool := !s.isEmpty && s.all isOrdinary && s.head?.all (· != 35)

lemma isClean_iff (s : Bytes) : isClean s = true ↔ Clean s := by
  simp only [isClean, Bool.and_eq_true, Bool.not_eq_true', List.isEmpty_eq_false_iff, List.all_eq_true]
  constructor
  · rintro ⟨⟨hne, hord⟩, h35⟩
    exact ⟨hne, hord, fun h => by simp [h] at h35⟩
  · rintro ⟨hne, hord, h35⟩
    refine ⟨⟨hne, hord⟩, ?_⟩
    cases h : s.head? with
    | none => rfl
    | some c => simpa using fun hc : c = 35 => h35 (hc ▸ h)

instance (s : Bytes) : Decidable (Clean s) := decidable_of_iff _ (isClean_iff s)

def CleanWord (w : Word) : Prop := ∃ s, Clean s ∧ w = plain s

structure Tight (ts : List Token) : Prop where
  clean : ∀ w, .word w ∈ ts → CleanWord w
  head : ∃ w rest, ts = .word w :: rest
  last : ∃ w init, ts = init ++ [.word w]

lemma separator_not_word {c : UInt8} {us : List Token} (h : separator c = some us) (w : Word) : .word w ∉ us := by
  unfold separator at h
  split_ifs at h <;> obtain rfl := Option.some.inj h <;> simp

lemma cleanWord_push {cur : Option Word} {c : UInt8} (hc : isOrdinary c = true) (h35 : ¬ (c = 35 ∧ cur = none))
    (hcur : ∀ w, cur = some w → CleanWord w) : CleanWord (cur.getD [] ++ [(c, false)]) := by
  cases cur with
  | none => exact ⟨[c], ⟨by simp, by simpa using hc, by simpa using h35⟩, rfl⟩
  | some w =>
    obtain ⟨s, hs, rfl⟩ := hcur w rfl
    refine ⟨s ++ [c], ⟨by simp, ?_, ?_⟩, by simp [plain]⟩
    · intro d hd
      rcases List.mem_append.mp hd with hd | hd
      · exact hs.ordinary d hd
      · exact List.mem_singleton.mp hd ▸ hc
    · rw [List.head?_append_of_ne_nil _ hs.nonempty]
      exact hs.comment

lemma lex_tight {cur : Option Word} {s : Bytes} {ts : List Token} (h : lex .unquoted cur s = some ts)
    (hs : size ts = held cur + s.length + 1) (hcur : ∀ w, cur = some w → CleanWord w) : Tight ts := by
  induction s generalizing cur ts with
  | nil =>
    obtain rfl := Option.some.inj h
    cases cur with
    | none => simp [finish] at hs
    | some w => exact ⟨by simpa [finish] using hcur w rfl, ⟨w, [], rfl⟩, ⟨w, [], rfl⟩⟩
  | cons c s ih =>
    unfold lex at h
    split at h
    · next us hus =>
      obtain ⟨rest, hr, rfl⟩ := Option.map_eq_some_iff.mp h
      have hb := lex_size hr
      simp only [size_append, size_separator hus, List.length_cons, held_none, slack] at hs hb
      cases cur with
      | none =>
        simp [finish] at hs
        omega
      | some w =>
        have hsw : size (finish (some w)) = w.length + 1 := by simp [finish, Token.size]
        have hheld : held (some w) = w.length := rfl
        obtain ⟨hclean, -, wl, init, hlast⟩ := ih hr (by simp; omega) (by simp)
        refine ⟨fun v hv => ?_, ⟨w, us ++ rest, rfl⟩, ⟨wl, .word w :: (us ++ init), by simp [finish, hlast]⟩⟩
        rcases List.mem_append.mp hv with hv | hv
        · obtain rfl : v = w := by simpa [finish] using hv
          exact hcur v rfl
        · rcases List.mem_append.mp hv with hv | hv
          · exact absurd hv (separator_not_word hus v)
          · exact hclean v hv
    · next hsep =>
      split_ifs at h with h1 h2 h3 h4 h5
      · obtain rfl := Option.some.inj h
        simp [Token.size] at hs
      · have hb := lex_size h
        simp [slack] at hs hb
        omega
      · have hb := lex_size h
        simp [slack] at hs hb
        omega
      · have hb := lex_size h
        simp [slack] at hs hb
        omega
      · have hb := lex_size h
        simp [slack] at hs hb
        omega
      · refine ih h (by simp at hs ⊢; omega) fun w hw => ?_
        obtain rfl := Option.some.inj hw
        refine cleanWord_push ?_ h5 hcur
        simp [isOrdinary, isQuoting, hsep, h1, h2, h3, h4]

lemma lex_ordinary {s : Bytes} (hs : ∀ c ∈ s, isOrdinary c = true) (w : Word) (rest : Bytes) :
    lex .unquoted (some w) (s ++ rest) = lex .unquoted (some (w ++ plain s)) rest := by
  induction s generalizing w with
  | nil => simp [plain]
  | cons c s ih =>
    have hc := hs c (.head s)
    simp only [isOrdinary, isQuoting, Bool.and_eq_true, Option.isNone_iff_eq_none, Bool.not_eq_true',
      Bool.or_eq_false_iff, beq_eq_false_iff_ne] at hc
    obtain ⟨⟨hsep, hexp⟩, ⟨h39, h34⟩, h92⟩ := hc
    have hih := ih (fun d hd => hs d (.tail c hd)) (w ++ [(c, false)])
    rw [List.cons_append, lex, hsep]
    simpa [hexp, h39, h34, h92, push, plain] using hih

lemma lex_clean {s : Bytes} (hs : Clean s) (rest : Bytes) :
    lex .unquoted none (s ++ rest) = lex .unquoted (some (plain s)) rest := by
  obtain ⟨hne, hord, h35⟩ := hs
  cases s with
  | nil => exact absurd rfl hne
  | cons c s =>
    have hc := hord c (.head s)
    simp only [isOrdinary, isQuoting, Bool.and_eq_true, Option.isNone_iff_eq_none, Bool.not_eq_true',
      Bool.or_eq_false_iff, beq_eq_false_iff_ne] at hc
    obtain ⟨⟨hsep, hexp⟩, ⟨h39, h34⟩, h92⟩ := hc
    have h35' : c ≠ 35 := by simpa using h35
    have hih := lex_ordinary (fun d hd => hord d (.tail c hd)) [(c, false)] rest
    rw [List.cons_append, lex, hsep]
    simpa [hexp, h39, h34, h92, h35', push, plain] using hih

lemma lex_clean_blank {s : Bytes} (hs : Clean s) (rest : Bytes) :
    tokens (s ++ 32 :: rest) = (tokens rest).map fun ts => .word (plain s) :: ts := by
  rw [tokens, lex_clean hs, lex]
  rfl

lemma lex_clean_end {s : Bytes} (hs : Clean s) : tokens s = some [.word (plain s)] := by
  have h := lex_clean hs []
  rw [List.append_nil] at h
  rw [tokens, h]
  rfl

end clean

end RouterCard.Shell
