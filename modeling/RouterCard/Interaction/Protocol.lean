import RouterCard.Interaction.Program

/-! The protocol of a library: what may be called in which state of its use, and what is
promised of the replies. A program obeys it when no promised reply makes it call amiss. -/

namespace RouterCard.Interaction

structure Protocol (S : Signature) where
  State : Type
  allows : State → S.Call → Prop
  promises : State → (c : S.Call) → S.Reply c → Prop
  next : State → (c : S.Call) → S.Reply c → State

variable {S : Signature} {α β : Type}

namespace Protocol

variable (P : Protocol S)

def after : P.State → Trace S → P.State
  | s, [] => s
  | s, ⟨c, r⟩ :: t => after (P.next s c r) t

def Legal : P.State → Trace S → Prop
  | _, [] => True
  | s, ⟨c, r⟩ :: t => P.allows s c ∧ Legal (P.next s c r) t

def Kept : P.State → Trace S → Prop
  | _, [] => True
  | s, ⟨c, r⟩ :: t => P.promises s c r ∧ Kept (P.next s c r) t

end Protocol

namespace Program

variable {P : Protocol S} {s : P.State} {post : α → P.State → Prop} {p : Program S α} {W : Type}
  {answer : (c : S.Call) → W → Option (S.Reply c × W)} {w : W}

def Obeys (P : Protocol S) (post : α → P.State → Prop) : Program S α → P.State → Prop
  | done a, s => post a s
  | call c next, s => P.allows s c ∧ ∀ r, P.promises s c r → Obeys P post (next r) (P.next s c r)

lemma Obeys.mono {post' : α → P.State → Prop} (hp : p.Obeys P post s) (h : ∀ a s, post a s → post' a s) : p.Obeys P post' s := by
  induction p generalizing s with
  | done a => exact h a s hp
  | call c next ih => exact ⟨hp.1, fun r hr => ih r (hp.2 r hr)⟩

lemma Obeys.bind {post : β → P.State → Prop} {f : α → Program S β} (hp : p.Obeys P (fun a s => (f a).Obeys P post s) s) :
    (p >>= f).Obeys P post s := by
  induction p generalizing s with
  | done a => exact hp
  | call c next ih => exact ⟨hp.1, fun r hr => ih r (hp.2 r hr)⟩

theorem Obeys.observed (hp : p.Obeys P post s) (hk : P.Kept s (p.observe answer w).1) :
    P.Legal s (p.observe answer w).1 ∧
      ∀ a v, (p.observe answer w).2 = some (a, v) → post a (P.after s (p.observe answer w).1) := by
  induction p generalizing s w with
  | done a =>
    refine ⟨trivial, fun b v hb => ?_⟩
    obtain ⟨rfl, -⟩ := Prod.mk.inj (Option.some.inj hb)
    exact hp
  | call c next ih =>
    cases hc : answer c w with
    | none =>
      rw [observe_call_none hc]
      exact ⟨trivial, fun a v h => by cases h⟩
    | some rv =>
      rw [observe_call_some hc] at hk ⊢
      have hnext := ih rv.1 (hp.2 rv.1 hk.1) hk.2
      exact ⟨⟨hp.1, hnext.1⟩, hnext.2⟩

def Errs (P : Protocol S) : Program S α → P.State → Prop
  | done _, _ => False
  | call c next, s => ¬ P.allows s c ∨ ∀ r, P.promises s c r → Errs P (next r) (P.next s c r)

lemma Errs.observed (hp : p.Errs P s) (hk : P.Kept s (p.observe answer w).1) (hfin : (p.observe answer w).2 ≠ none) :
    ¬ P.Legal s (p.observe answer w).1 := by
  induction p generalizing s w with
  | done a => exact hp.elim
  | call c next ih =>
    cases hc : answer c w with
    | none => exact absurd (congrArg Prod.snd (observe_call_none hc)) hfin
    | some rv =>
      rw [observe_call_some hc] at hk hfin ⊢
      rintro ⟨hallow, hlegal⟩
      obtain hamiss | hrest := hp
      · exact hamiss hallow
      · exact ih rv.1 (hrest rv.1 hk.1) hk.2 hfin hlegal

/-- It obeys as long as the replies are such, and errs as soon as one is not. -/
def ObeysIf (P : Protocol S) (Q : (c : S.Call) → S.Reply c → Prop) (post : α → P.State → Prop) : Program S α → P.State → Prop
  | done a, s => post a s
  | call c next, s => P.allows s c ∧ ∀ r, P.promises s c r →
      (Q c r → ObeysIf P Q post (next r) (P.next s c r)) ∧ (¬ Q c r → Errs P (next r) (P.next s c r))

variable {Q : (c : S.Call) → S.Reply c → Prop}

lemma Obeys.obeysIf (hp : p.Obeys P post s) (hq : p.Calls fun c => ∀ r, Q c r) : p.ObeysIf P Q post s := by
  induction p generalizing s with
  | done a => exact hp
  | call c next ih => exact ⟨hp.1, fun r hr => ⟨fun _ => ih r (hp.2 r hr) (hq.2 r), fun h => absurd (hq.1 r) h⟩⟩

theorem ObeysIf.observed (hp : p.ObeysIf P Q post s) (hk : P.Kept s (p.observe answer w).1)
    {a : α} {v : W} (hfin : (p.observe answer w).2 = some (a, v)) :
    (P.Legal s (p.observe answer w).1 ↔ ∀ x ∈ (p.observe answer w).1, Q x.1 x.2) ∧
      (P.Legal s (p.observe answer w).1 → post a (P.after s (p.observe answer w).1)) := by
  induction p generalizing s w with
  | done b =>
    obtain ⟨rfl, -⟩ := Prod.mk.inj (Option.some.inj hfin)
    exact ⟨iff_of_true trivial fun x hx => absurd hx List.not_mem_nil, fun _ => hp⟩
  | call c next ih =>
    cases hc : answer c w with
    | none => exact absurd (hfin.symm.trans (congrArg Prod.snd (observe_call_none hc))) (Option.some_ne_none _)
    | some rv =>
      rw [observe_call_some hc] at hk hfin ⊢
      rw [List.forall_mem_cons]
      obtain ⟨hthen, helse⟩ := hp.2 rv.1 hk.1
      by_cases hq : Q c rv.1
      · obtain ⟨hiff, hpost⟩ := ih rv.1 (hthen hq) hk.2 hfin
        exact ⟨and_congr (iff_of_true hp.1 hq) hiff, fun hl => hpost hl.2⟩
      · have hnot := (helse hq).observed hk.2 (ne_of_eq_of_ne hfin (Option.some_ne_none _))
        exact ⟨iff_of_false (fun hl => hnot hl.2) (fun h => hq h.1), fun hl => absurd hl.2 hnot⟩

end Program

end RouterCard.Interaction
