import Mathlib.Computability.Language
import RouterCard.Text.Pattern

/-! What a pattern matches, apart from the order in which the search tries, and that the
search finds it. -/

namespace RouterCard.Text

variable {l s t : Bytes} {c : Capture} {a : Bytes} {p g rest : Pattern}

def Matches : Pattern → Bytes → Capture → Bytes → Prop
  | [], _, c, a => c.text = a
  | .literal l :: as, s, c, a => ∃ t, s = l ++ t ∧ Matches as t c a
  | .oneOf ws :: as, s, c, a => ∃ l ∈ ws, ∃ t, s = l ++ t ∧ Matches as t c a
  | .many n q :: as, s, c, a => ∃ u t, s = u ++ t ∧ n ≤ u.length ∧ (∀ b ∈ u, q b = true) ∧ Matches as t c a
  | .groupOpen :: as, s, c, a => Matches as s { c with opened := s } a
  | .groupClose :: as, s, c, a => Matches as s { c with text := c.opened.take (c.opened.length - s.length) } a
  | .lineEnd :: as, s, c, a => s = [] ∧ Matches as s c a

def Finds (p : Pattern) (s a : Bytes) : Prop := ∃ t, t <:+ s ∧ Matches p t .empty a

lemma orElse_eq_some {α : Type} {o o' : Option α} {x : α} :
    (o <|> o') = some x ↔ o = some x ∨ o = none ∧ o' = some x := by
  cases o <;> simp

section repetition

variable {α : Type} {q : UInt8 → Bool} {k : Bytes → Option α} {x : α} {n : ℕ}

lemma greedy_sound (h : greedy q k n s = some x) :
    ∃ u t, s = u ++ t ∧ n ≤ u.length ∧ (∀ b ∈ u, q b = true) ∧ k t = some x := by
  induction s generalizing n with
  | nil =>
    cases n with
    | zero => exact ⟨[], [], rfl, le_rfl, by simp, h⟩
    | succ n => cases h
  | cons b s ih =>
    have hcons : ∀ {m}, q b = true → greedy q k m s = some x → n ≤ m + 1 →
        ∃ u t, b :: s = u ++ t ∧ n ≤ u.length ∧ (∀ b ∈ u, q b = true) ∧ k t = some x := by
      intro m hb hm hn
      obtain ⟨u, t, rfl, hu, hall, hk⟩ := ih hm
      exact ⟨b :: u, t, rfl, by rw [List.length_cons]; omega, List.forall_mem_cons.mpr ⟨hb, hall⟩, hk⟩
    cases n with
    | zero =>
      rcases orElse_eq_some.mp h with h | ⟨-, h⟩
      · obtain ⟨hb, h⟩ := Option.ite_none_right_eq_some.mp h
        exact hcons hb h (Nat.zero_le _)
      · exact ⟨[], b :: s, rfl, le_rfl, by simp, h⟩
    | succ n =>
      obtain ⟨hb, h⟩ := Option.ite_none_right_eq_some.mp h
      exact hcons hb h le_rfl

lemma greedy_complete {u : Bytes} (hn : n ≤ u.length) (hu : ∀ b ∈ u, q b = true) (hk : (k t).isSome = true) :
    (greedy q k n (u ++ t)).isSome = true := by
  induction u generalizing n with
  | nil =>
    obtain rfl : n = 0 := Nat.le_zero.mp hn
    cases t with
    | nil => exact hk
    | cons b t => simp [greedy, hk]
  | cons b u ih =>
    obtain ⟨hb, hu⟩ := List.forall_mem_cons.mp hu
    cases n with
    | zero => simp [greedy, hb, ih (Nat.zero_le _) hu]
    | succ n => simpa [greedy, hb] using ih (Nat.le_of_succ_le_succ hn) hu

-- A repetition whose continuation never fails is not taken back.
lemma greedy_total {f : Bytes → α} : greedy q (fun t => some (f t)) 0 s = some (f (s.dropWhile q)) := by
  induction s with
  | nil => rfl
  | cons b s ih =>
    by_cases hb : q b = true
    · simp [greedy, hb, ih]
    · simp [greedy, hb]

end repetition

lemma stripPrefix_eq_some : stripPrefix l s = some t ↔ s = l ++ t := by
  constructor
  · intro h
    rw [stripPrefix] at h
    split_ifs at h with hp
    obtain ⟨u, rfl⟩ := hp
    rw [List.drop_left, Option.some_inj] at h
    rw [h]
  · rintro rfl
    exact stripPrefix_append l t

lemma matchHere_sound (h : matchHere p s c = some a) : Matches p s c a := by
  induction p generalizing s c with
  | nil => exact Option.some.inj h
  | cons atom as ih =>
    cases atom with
    | literal l =>
      obtain ⟨t, ht, h⟩ := Option.bind_eq_some_iff.mp h
      exact ⟨t, stripPrefix_eq_some.mp ht, ih h⟩
    | oneOf ws =>
      obtain ⟨l, hl, h⟩ := List.exists_of_findSome?_eq_some h
      obtain ⟨t, ht, h⟩ := Option.bind_eq_some_iff.mp h
      exact ⟨l, hl, t, stripPrefix_eq_some.mp ht, ih h⟩
    | many n q =>
      obtain ⟨u, t, hs, hn, hu, h⟩ := greedy_sound h
      exact ⟨u, t, hs, hn, hu, ih h⟩
    | groupOpen => exact ih h
    | groupClose => exact ih h
    | lineEnd =>
      obtain ⟨hs, h⟩ := Option.ite_none_right_eq_some.mp h
      exact ⟨hs, ih h⟩

lemma matchHere_complete (h : Matches p s c a) : (matchHere p s c).isSome = true := by
  induction p generalizing s c with
  | nil => rfl
  | cons atom as ih =>
    cases atom with
    | literal l =>
      obtain ⟨t, rfl, h⟩ := h
      rw [matchHere, stripPrefix_append, Option.bind_some]
      exact ih h
    | oneOf ws =>
      obtain ⟨l, hl, t, rfl, h⟩ := h
      rw [matchHere, List.findSome?_isSome_iff]
      refine ⟨l, hl, ?_⟩
      rw [stripPrefix_append, Option.bind_some]
      exact ih h
    | many n q =>
      obtain ⟨u, t, rfl, hn, hu, h⟩ := h
      exact greedy_complete hn hu (ih h)
    | groupOpen => exact ih h
    | groupClose => exact ih h
    | lineEnd =>
      obtain ⟨hs, h⟩ := h
      rw [matchHere, if_pos hs]
      exact ih h

lemma search_sound (h : search p s = some a) : Finds p s a := by
  induction s with
  | nil => exact ⟨[], List.suffix_rfl, matchHere_sound h⟩
  | cons b s ih =>
    rcases orElse_eq_some.mp h with h | ⟨-, h⟩
    · exact ⟨b :: s, List.suffix_rfl, matchHere_sound h⟩
    · obtain ⟨t, ht, h⟩ := ih h
      exact ⟨t, ht.trans (List.suffix_cons b s), h⟩

lemma search_complete (h : Finds p s a) : (search p s).isSome = true := by
  obtain ⟨t, ht, h⟩ := h
  have hhere := matchHere_complete h
  induction s with
  | nil =>
    obtain rfl := List.suffix_nil.mp ht
    exact hhere
  | cons b s ih =>
    rcases List.suffix_cons_iff.mp ht with rfl | ht
    · simp [search, hhere]
    · simp [search, ih ht]

lemma search_iff (hunique : ∀ a b, Finds p s a → Finds p s b → a = b) : search p s = some a ↔ Finds p s a := by
  refine ⟨search_sound, fun h => ?_⟩
  obtain ⟨b, hb⟩ := Option.isSome_iff_exists.mp (search_complete h)
  rw [hb, hunique b a (search_sound hb) h]

section languages

def Reads (g : Pattern) (L : Language UInt8) : Prop :=
  ∀ rest s c a, Matches (g ++ rest) s c a ↔ ∃ u ∈ L, ∃ t, s = u ++ t ∧ Matches rest t c a

def word (l : Bytes) : Language UInt8 := {l}

def repeated (n : ℕ) (q : UInt8 → Bool) : Language UInt8 := {u | n ≤ u.length ∧ ∀ b ∈ u, q b = true}

lemma notMem_repeated {n : ℕ} {q : UInt8 → Bool} {u : Bytes} {b : UInt8} (hu : u ∈ repeated n q) (hb : q b = false) : b ∉ u :=
  fun h => Bool.false_ne_true (hb.symm.trans (hu.2 b h))

variable {g' : Pattern} {L L' : Language UInt8}

lemma reads_literal (l : Bytes) : Reads [.literal l] (word l) := by
  intro rest s c a
  constructor
  · rintro ⟨t, rfl, h⟩
    exact ⟨l, rfl, t, rfl, h⟩
  · rintro ⟨u, rfl, t, rfl, h⟩
    exact ⟨t, rfl, h⟩

lemma reads_many (n : ℕ) (q : UInt8 → Bool) : Reads [.many n q] (repeated n q) := by
  intro rest s c a
  constructor
  · rintro ⟨u, t, rfl, hn, hu, h⟩
    exact ⟨u, ⟨hn, hu⟩, t, rfl, h⟩
  · rintro ⟨u, ⟨hn, hu⟩, t, rfl, h⟩
    exact ⟨u, t, rfl, hn, hu, h⟩

lemma Reads.append (h : Reads g L) (h' : Reads g' L') : Reads (g ++ g') (L * L') := by
  intro rest s c a
  rw [List.append_assoc, h]
  constructor
  · rintro ⟨u, hu, t, rfl, hm⟩
    obtain ⟨u', hu', t', rfl, hm'⟩ := (h' ..).mp hm
    exact ⟨u ++ u', Language.append_mem_mul hu hu', t', (List.append_assoc ..).symm, hm'⟩
  · rintro ⟨x, hx, t, rfl, hm⟩
    obtain ⟨u, hu, u', hu', rfl⟩ := Language.mem_mul.mp hx
    exact ⟨u, hu, u' ++ t, List.append_assoc .., (h' ..).mpr ⟨u', hu', t, rfl, hm⟩⟩

lemma Reads.group (h : Reads g L) :
    Matches (group g ++ rest) s c a ↔ ∃ u ∈ L, ∃ t, s = u ++ t ∧ Matches rest t ⟨s, u⟩ a := by
  have htake : ∀ u t : Bytes, (u ++ t).take ((u ++ t).length - t.length) = u := by
    intro u t
    rw [List.length_append, Nat.add_sub_cancel, List.take_left]
  have hgroup : Matches (Text.group g ++ rest) s c a ↔ Matches (g ++ (.groupClose :: rest)) s { c with opened := s } a := by
    have happend : Text.group g ++ rest = .groupOpen :: (g ++ (.groupClose :: rest)) := by
      simp [Text.group]
    rw [happend]
    exact Iff.rfl
  rw [hgroup, h]
  constructor
  · rintro ⟨u, hu, t, rfl, hm⟩
    rw [Matches, htake] at hm
    exact ⟨u, hu, t, rfl, hm⟩
  · rintro ⟨u, hu, t, rfl, hm⟩
    refine ⟨u, hu, t, rfl, ?_⟩
    rw [Matches, htake]
    exact hm

end languages

section markers

lemma append_cons_inj {b : UInt8} {x y s t : Bytes} (hs : b ∉ s) (ht : b ∉ t) (h : x ++ b :: s = y ++ b :: t) :
    x = y ∧ s = t := by
  have hcons : ∀ {z s t : Bytes}, b ∉ s → b :: s = z ++ b :: t → z = [] := by
    intro z s t hs h
    cases z with
    | nil => rfl
    | cons c z =>
      rw [List.cons_append, List.cons.injEq] at h
      exact absurd (h.2 ▸ List.mem_append_right z (.head t)) hs
  rcases List.append_eq_append_iff.mp h with ⟨z, rfl, hz⟩ | ⟨z, rfl, hz⟩
  · obtain rfl := hcons hs hz
    exact ⟨(List.append_nil x).symm, (List.cons.inj hz).2⟩
  · obtain rfl := hcons ht hz
    exact ⟨List.append_nil y, (List.cons.inj hz).2.symm⟩

def afterFirst (l : Bytes) : Bytes → Option Bytes
  | [] => stripPrefix l []
  | b :: s => stripPrefix l (b :: s) <|> afterFirst l s

def OccursOnce (l s : Bytes) : Prop := ∃! t, l ++ t <:+ s

lemma afterFirst_eq_some : afterFirst l s = some t ↔
    l ++ t <:+ s ∧ ∀ t', l ++ t' <:+ s → t'.length ≤ t.length := by
  induction s with
  | nil =>
    rw [afterFirst, stripPrefix_eq_some, List.suffix_nil]
    constructor
    · intro h
      refine ⟨h.symm, fun t' h' => ?_⟩
      rw [(List.append_eq_nil_iff.mp (List.suffix_nil.mp h')).2]
      exact Nat.zero_le _
    · exact fun h => h.1.symm
  | cons b s ih =>
    rw [afterFirst, orElse_eq_some, stripPrefix_eq_some]
    by_cases hb : ∃ u, b :: s = l ++ u
    · obtain ⟨u, hu⟩ := hb
      have hstrip : stripPrefix l (b :: s) = some u := stripPrefix_eq_some.mpr hu
      rw [hstrip, hu]
      constructor
      · rintro (h | ⟨h, -⟩)
        · refine ⟨h ▸ List.suffix_rfl, fun t' h' => ?_⟩
          have hlen := h'.length_le
          rw [List.append_cancel_left h] at hlen
          simpa using hlen
        · cases h
      · rintro ⟨h, hmax⟩
        have hlen : (l ++ u).length ≤ (l ++ t).length := by
          rw [List.length_append, List.length_append]
          exact Nat.add_le_add_left (hmax u List.suffix_rfl) _
        exact .inl (h.eq_of_length_le hlen).symm
    · have hstrip : stripPrefix l (b :: s) = none :=
        Option.eq_none_iff_forall_ne_some.mpr fun u hu => hb ⟨u, stripPrefix_eq_some.mp hu⟩
      have hsuffix : ∀ u, l ++ u <:+ b :: s ↔ l ++ u <:+ s := fun u =>
        List.suffix_cons_iff.trans (or_iff_right fun h => hb ⟨u, h.symm⟩)
      simp only [hstrip, hsuffix, true_and, ih, or_iff_right_iff_imp]
      exact fun h => absurd ⟨t, h⟩ hb

lemma OccursOnce.afterFirst (h : OccursOnce l s) (ht : l ++ t <:+ s) : afterFirst l s = some t :=
  afterFirst_eq_some.mpr ⟨ht, fun _ h' => (congrArg List.length (h.unique h' ht)).le⟩

lemma search_marker {q : UInt8 → Bool} : search (.literal l :: group [.many 0 q]) s =
    (afterFirst l s).map (List.takeWhile q) := by
  have hhere : ∀ s, matchHere (.literal l :: group [.many 0 q]) s .empty = (stripPrefix l s).map (List.takeWhile q) := by
    intro s
    cases hs : stripPrefix l s with
    | none => rw [matchHere, hs, Option.bind_none, Option.map_none]
    | some t =>
      have htake : t.take (t.length - (t.dropWhile q).length) = t.takeWhile q := by
        have hsplit := List.takeWhile_append_dropWhile (p := q) (l := t)
        have hlen := congrArg List.length hsplit
        rw [List.length_append] at hlen
        rw [← hlen, Nat.add_sub_cancel]
        nth_rewrite 2 [← hsplit]
        exact List.take_left
      rw [matchHere, hs, Option.bind_some, Option.map_some, ← htake]
      exact greedy_total
  induction s with
  | nil => exact hhere []
  | cons b s ih =>
    rw [search, hhere, ih, afterFirst]
    cases stripPrefix l (b :: s) with
    | none => rfl
    | some t => rfl

end markers

end RouterCard.Text
