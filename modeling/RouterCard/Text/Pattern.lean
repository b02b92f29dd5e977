import RouterCard.Text.Bytes

/-! A fragment of the ECMAScript regular expressions: sequences of literals, character
classes and greedy repetitions of a class, with one capture group. -/

namespace RouterCard.Text

inductive Atom where
  | literal (s : Bytes)
  | oneOf (words : List Bytes)
  | many (least : ℕ) (p : UInt8 → Bool)
  | groupOpen
  | groupClose
  | lineEnd

abbrev Pattern := List Atom

def dot (b : UInt8) : Bool := b != 10 && b != 13

def stripPrefix (p s : Bytes) : Option Bytes := if p <+: s then some (s.drop p.length) else none

structure Capture where
  opened : Bytes
  text : Bytes

def Capture.empty : Capture := ⟨[], []⟩

def greedy {α : Type} (p : UInt8 → Bool) (k : Bytes → Option α) : ℕ → Bytes → Option α
  | 0, [] => k []
  | _ + 1, [] => none
  | 0, b :: s => (if p b then greedy p k 0 s else none) <|> k (b :: s)
  | n + 1, b :: s => if p b then greedy p k n s else none

def matchHere : Pattern → Bytes → Capture → Option Bytes
  | [], _, c => some c.text
  | .literal l :: as, s, c => (stripPrefix l s).bind fun t => matchHere as t c
  | .oneOf ws :: as, s, c => ws.findSome? fun l => (stripPrefix l s).bind fun t => matchHere as t c
  | .many n p :: as, s, c => greedy p (fun t => matchHere as t c) n s
  | .groupOpen :: as, s, c => matchHere as s { c with opened := s }
  | .groupClose :: as, s, c => matchHere as s { c with text := c.opened.take (c.opened.length - s.length) }
  | .lineEnd :: as, s, c => if s = [] then matchHere as s c else none

def search (p : Pattern) : Bytes → Option Bytes
  | [] => matchHere p [] .empty
  | b :: s => matchHere p (b :: s) .empty <|> search p s

def group (p : Pattern) : Pattern := .groupOpen :: p ++ [.groupClose]

section lines

variable {α : Type} {p : UInt8 → Bool} {k : Bytes → Option α} {v rest : Bytes} {a : α}

lemma greedy_all (hv : ∀ b ∈ v, p b = true) (hr : ∀ b ∈ rest.head?, p b = false) (hk : k rest = some a) :
    greedy p k 0 (v ++ rest) = some a := by
  induction v with
  | nil =>
    cases rest with
    | nil => exact hk
    | cons b rest =>
      have hb : p b = false := hr b rfl
      simp [greedy, hb, hk]
  | cons b v ih =>
    have hb : p b = true := hv b (.head _)
    have ht := ih fun c hc => hv c (.tail b hc)
    simp [greedy, hb, ht]

lemma stripPrefix_append (l s : Bytes) : stripPrefix l (l ++ s) = some s := by
  rw [stripPrefix, if_pos (List.prefix_append l s), List.drop_left]

lemma search_line (l : Bytes) (hne : v ≠ []) (hv : ∀ b ∈ v, dot b = true) (hr : ∀ b ∈ rest.head?, dot b = false) :
    search (.literal l :: group [.many 1 dot]) (l ++ (v ++ rest)) = some v := by
  have htake : (v ++ rest).take ((v ++ rest).length - rest.length) = v := by
    rw [List.length_append, Nat.add_sub_cancel, List.take_left]
  have hhere : matchHere (.literal l :: group [.many 1 dot]) (l ++ (v ++ rest)) .empty = some v := by
    obtain ⟨b, u, rfl⟩ := List.exists_cons_of_ne_nil hne
    have hb : dot b = true := hv b (.head _)
    have hall := greedy_all (k := fun t => matchHere [.groupClose] t ⟨b :: u ++ rest, []⟩)
      (fun c hc => hv c (.tail b hc)) hr (congrArg some htake)
    simpa [matchHere, group, stripPrefix_append, Capture.empty, greedy, hb] using hall
  cases hs : l ++ (v ++ rest) with
  | nil => exact absurd (List.append_eq_nil_iff.mp (List.append_eq_nil_iff.mp hs).2).1 hne
  | cons b s =>
    rw [hs] at hhere
    rw [search, hhere]
    rfl

end lines

example : search (.literal (bytes "SSID: ") :: group [.many 0 dot]) (bytes "x\n\tSSID: home net\n\ty") =
    some (bytes "home net") := by decide

end RouterCard.Text
