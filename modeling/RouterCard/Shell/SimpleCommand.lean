import Mathlib.Data.List.DropRight
import RouterCard.Shell.Lexer

namespace RouterCard.Shell

open Text

/-- What the variables, files and users of the machine make of the words that the shell
expands. -/
structure Environment where
  fields : Word → List Bytes
  rest : Word → Bytes → Option (List Bytes)
  -- a pattern without a match, and a user without a home, stay
  fields_ne_nil : ∀ w, fields w ≠ []

def text (w : Word) : Bytes := w.map Prod.fst

@[simp] lemma text_plain (s : Bytes) : text (plain s) = s := by simp [text, plain, Function.comp_def]

def closes : Word → Bool
  | [] => false
  | (c, q) :: w => if c == 93 && !q then true else if c == 47 then false else closes w

-- A bracket expression, from behind its bracket on; its first character may be a bracket too.
def isBracket : Word → Bool
  | (33, false) :: (c, _) :: w => c != 47 && closes w
  | (c, _) :: w => c != 47 && closes w
  | [] => false

def isPattern : Word → Bool
  | [] => false
  | (c, q) :: w => !q && (c == 42 || c == 63 || c == 91 && isBracket w) || isPattern w

def isTilde (w : Word) : Bool := w.head? == some (126, false)

def isExpanded (w : Word) : Bool := isPattern w || isTilde w

def isAssignment (w : Word) : Bool :=
  let name := w.takeWhile fun p => isWord p.1 && !p.2
  (name.head?.any fun p => !isDigit p.1) && (w.drop name.length).head? == some (61, false)

def reserved : List Bytes :=
  ["!", "\x7b", "\x7d", "case", "do", "done", "elif", "else", "esac", "fi", "for", "if", "in", "then", "until", "while"].map bytes

def isReserved (w : Word) : Bool := w.all (fun p => !p.2) && reserved.contains (text w)

def Token.isNewline : Token → Bool
  | .newline => true
  | _ => false

def Token.fields (env : Environment) : Token → Option (List Bytes)
  | .word w => some (if isExpanded w then env.fields w else [text w])
  | .expansion w s => env.rest w s
  | .operator _ | .newline => none

def startsCommand : List Token → Bool
  | [] => false
  | .word w :: _ => !(isAssignment w || isReserved w)
  | _ :: _ => true

def trim (ts : List Token) : List Token := (ts.dropWhile Token.isNewline).rdropWhile Token.isNewline

def simpleCommand (env : Environment) (line : Bytes) : Option (List Bytes) := do
  let ts ← tokens line
  if startsCommand (trim ts) then (trim ts).mapM (Token.fields env) |>.map List.flatten else none

def weight (argv : List Bytes) : ℕ := (argv.map fun a => a.length + 1).sum

@[simp] lemma weight_nil : weight [] = 0 := rfl

@[simp] lemma weight_cons (a : Bytes) (l : List Bytes) : weight (a :: l) = a.length + 1 + weight l := by simp [weight]

@[simp] lemma weight_append (l r : List Bytes) : weight (l ++ r) = weight l + weight r := by simp [weight]

-- An environment in which expansions yield as little as they can.
def barren : Environment := ⟨fun _ => [[]], fun _ _ => none, fun _ => List.cons_ne_nil _ _⟩

lemma length_pos_of_isExpanded {w : Word} (h : isExpanded w = true) : 0 < w.length := by
  cases w with
  | nil => simp [isExpanded, isPattern, isTilde] at h
  | cons p w => simp

lemma token_fields {t : Token} {fs : List Bytes} (h : t.fields barren = some fs) :
    weight fs ≤ t.size ∧ (weight fs = t.size → ∃ w, t = .word w ∧ isExpanded w = false ∧ fs = [text w]) := by
  cases t with
  | word w =>
    have hfs := Option.some.inj h
    cases hw : isExpanded w with
    | true =>
      obtain rfl : [[]] = fs := by simpa [hw, barren] using hfs
      have hpos := length_pos_of_isExpanded hw
      have hweight : weight [[]] = 1 := rfl
      simp only [hweight, Token.size]
      exact ⟨by omega, fun he => by omega⟩
    | false =>
      obtain rfl : [text w] = fs := by simpa [hw] using hfs
      exact ⟨by simp [Token.size, text], fun _ => ⟨w, rfl, hw, rfl⟩⟩
  | expansion | operator | newline => simp [Token.fields, barren] at h

lemma tokens_fields {ts : List Token} {fss : List (List Bytes)} (h : ts.mapM (Token.fields barren) = some fss) :
    weight fss.flatten ≤ size ts ∧ (weight fss.flatten = size ts →
      ∃ ws : List Word, ts = ws.map Token.word ∧ (∀ w ∈ ws, isExpanded w = false) ∧ fss.flatten = ws.map text) := by
  induction ts generalizing fss with
  | nil =>
    obtain rfl := Option.some.inj h
    exact ⟨le_rfl, fun _ => ⟨[], rfl, by simp, rfl⟩⟩
  | cons t ts ih =>
    rw [List.mapM_cons] at h
    obtain ⟨fs, hf, h⟩ := Option.bind_eq_some_iff.mp h
    obtain ⟨gss, hg, h⟩ := Option.bind_eq_some_iff.mp h
    obtain rfl := Option.some.inj h
    obtain ⟨hle, heq⟩ := token_fields hf
    obtain ⟨hles, heqs⟩ := ih hg
    simp only [List.flatten_cons, weight_append, size_cons]
    refine ⟨by omega, fun he => ?_⟩
    obtain ⟨w, rfl, hw, rfl⟩ := heq (by omega)
    obtain ⟨ws, rfl, hws, hfl⟩ := heqs (by omega)
    refine ⟨w :: ws, rfl, ?_, by rw [hfl]; rfl⟩
    intro v hv
    rcases List.mem_cons.mp hv with rfl | hv
    · exact hw
    · exact hws v hv

lemma size_sublist {ts us : List Token} (h : ts.Sublist us) : size ts ≤ size us :=
  (h.map Token.size).sum_le_sum fun _ _ => Nat.zero_le _

lemma size_trim (ts : List Token) : size (trim ts) ≤ size ts := by
  have h : (trim ts).Sublist (ts.dropWhile Token.isNewline) := (List.rdropWhile_prefix _ _).sublist
  exact size_sublist (h.trans (List.dropWhile_sublist _))

lemma Tight.trim {ts : List Token} (h : Tight ts) : trim ts = ts := by
  obtain ⟨-, ⟨w, rest, hw⟩, v, init, hv⟩ := h
  have hd : ts.dropWhile Token.isNewline = ts := by
    rw [hw]
    rfl
  rw [Shell.trim, hd, hv, List.rdropWhile_concat_neg]
  simp [Token.isNewline]

lemma words_of_simpleCommand {line : Bytes} {argv : List Bytes} (h : simpleCommand barren line = some argv)
    (hw : weight argv = line.length + 1) :
    (∀ a ∈ argv, Clean a ∧ isExpanded (plain a) = false) ∧
    ∀ a rest, argv = a :: rest → isAssignment (plain a) = false ∧ isReserved (plain a) = false := by
  obtain ⟨ts, ht, h⟩ := Option.bind_eq_some_iff.mp h
  split_ifs at h with hc
  obtain ⟨fss, hf, rfl⟩ := Option.map_eq_some_iff.mp h
  obtain ⟨hle, heq⟩ := tokens_fields hf
  have hts := lex_size ht
  have htr := size_trim ts
  simp only [held_none, slack] at hts
  have htight : Tight ts := lex_tight ht (by simp; omega) (by simp)
  obtain ⟨ws, hws, hexp, hflat⟩ := heq (by omega)
  rw [htight.trim] at hws hc
  have hclean : ∀ w ∈ ws, Clean (text w) ∧ w = plain (text w) := by
    intro w hw
    obtain ⟨s, hs, rfl⟩ := htight.clean w (hws ▸ List.mem_map_of_mem hw)
    exact ⟨by simpa using hs, by simp⟩
  refine ⟨fun a ha => ?_, fun a rest ha => ?_⟩
  · rw [hflat] at ha
    obtain ⟨w, hw, rfl⟩ := List.mem_map.mp ha
    obtain ⟨hcl, hpl⟩ := hclean w hw
    exact ⟨hcl, hpl ▸ hexp w hw⟩
  · rw [hflat] at ha
    obtain ⟨w, ws', rfl, rfl, -⟩ := List.map_eq_cons_iff.mp ha
    rw [← (hclean w (.head _)).2]
    simpa [hws, startsCommand] using hc

structure Literal (a : Bytes) : Prop where
  clean : Clean a
  unexpanded : isExpanded (plain a) = false

instance (a : Bytes) : Decidable (Literal a) :=
  decidable_of_iff (Clean a ∧ isExpanded (plain a) = false) ⟨fun h => ⟨h.1, h.2⟩, fun h => ⟨h.1, h.2⟩⟩

def IsCommandName (a : Bytes) : Prop := isAssignment (plain a) = false ∧ isReserved (plain a) = false

instance (a : Bytes) : Decidable (IsCommandName a) := inferInstanceAs (Decidable (_ ∧ _))

def joinBlank (a : Bytes) : List Bytes → Bytes
  | [] => a
  | b :: args => a ++ 32 :: joinBlank b args

lemma weight_joinBlank (a : Bytes) (args : List Bytes) : weight (a :: args) = (joinBlank a args).length + 1 := by
  induction args generalizing a with
  | nil => rfl
  | cons b args ih =>
    have hih := ih b
    simp only [joinBlank, weight_cons, List.length_append, List.length_cons] at hih ⊢
    omega

lemma tokens_joinBlank {a : Bytes} {args : List Bytes} (h : ∀ b ∈ a :: args, Clean b) :
    tokens (joinBlank a args) = some ((a :: args).map fun b => .word (plain b)) := by
  induction args generalizing a with
  | nil => exact lex_clean_end (h a (.head _))
  | cons b args ih =>
    rw [joinBlank, lex_clean_blank (h a (.head _)), ih fun c hc => h c (.tail a hc)]
    rfl

lemma trim_words (w : Word) (ws : List Word) :
    trim (Token.word w :: ws.map Token.word) = Token.word w :: ws.map Token.word := by
  obtain ⟨init, v, hv⟩ : ∃ init v, w :: ws = init ++ [v] := ⟨_, _, (List.dropLast_append_getLast (by simp)).symm⟩
  have hd : (Token.word w :: ws.map Token.word).dropWhile Token.isNewline = (w :: ws).map Token.word := rfl
  rw [trim, hd, hv, List.map_append, List.map_singleton, List.rdropWhile_concat_neg _ _ _ (by simp [Token.isNewline])]
  rw [← List.map_singleton, ← List.map_append, ← hv]
  rfl

lemma fields_words (env : Environment) {l : List Bytes} (h : ∀ b ∈ l, isExpanded (plain b) = false) :
    (l.map fun b => Token.word (plain b)).mapM (Token.fields env) = some (l.map fun b => [b]) := by
  induction l with
  | nil => rfl
  | cons b l ih => simp [Token.fields, h b (.head l), ih fun c hc => h c (.tail b hc)]

theorem simpleCommand_joinBlank_iff (a : Bytes) (args : List Bytes) :
    (∀ env, simpleCommand env (joinBlank a args) = some (a :: args)) ↔
      (∀ b ∈ a :: args, Literal b) ∧ IsCommandName a := by
  constructor
  · intro h
    obtain ⟨hl, hn⟩ := words_of_simpleCommand (h barren) (weight_joinBlank a args)
    exact ⟨fun b hb => ⟨(hl b hb).1, (hl b hb).2⟩, hn a args rfl⟩
  · rintro ⟨hl, hn⟩ env
    have ht := tokens_joinBlank fun b hb => (hl b hb).clean
    have htrim : trim ((a :: args).map fun b => .word (plain b)) = (a :: args).map fun b => .word (plain b) := by
      simpa [Function.comp_def] using trim_words (plain a) (args.map plain)
    have hs : startsCommand ((a :: args).map fun b => .word (plain b)) = true := by
      simp [startsCommand, hn.1, hn.2]
    have hf := fields_words env fun b hb => (hl b hb).unexpanded
    have hflat : ((a :: args).map fun b => [b]).flatten = a :: args := by
      rw [← List.flatMap_def, List.flatMap_singleton']
    simp only [simpleCommand, ht, Option.bind_eq_bind, Option.bind_some, htrim, hs, if_true, hf, Option.map_some, hflat]

end RouterCard.Shell
