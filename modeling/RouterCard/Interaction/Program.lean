import Mathlib.Tactic

/-! Sequential programs that reach their surroundings through calls only. -/

namespace RouterCard.Interaction

structure Signature where
  Call : Type
  Reply : Call → Type

abbrev Trace (S : Signature) := List (Sigma S.Reply)

inductive Program (S : Signature) (α : Type) where
  | done (a : α)
  | call (c : S.Call) (next : S.Reply c → Program S α)

namespace Program

variable {S : Signature} {α β : Type}

def bind : Program S α → (α → Program S β) → Program S β
  | done a, f => f a
  | call c next, f => call c (fun r => (next r).bind f)

instance : Monad (Program S) where
  pure := done
  bind := bind

def perform (c : S.Call) : Program S (S.Reply c) := call c done

@[simp] lemma pure_eq (a : α) : (pure a : Program S α) = done a := rfl

@[simp] lemma done_bind (a : α) (f : α → Program S β) : (done a : Program S α) >>= f = f a := rfl

@[simp] lemma call_bind (c : S.Call) (next : S.Reply c → Program S α) (f : α → Program S β) :
    (call c next) >>= f = call c (fun r => next r >>= f) := rfl

@[simp] lemma perform_bind (c : S.Call) (f : S.Reply c → Program S β) :
    (perform c : Program S (S.Reply c)) >>= f = call c f := rfl

lemma bind_done (p : Program S α) : p >>= done = p := by
  induction p with
  | done a => rfl
  | call c next ih => exact congrArg (call c) (funext ih)

lemma bind_assoc {γ : Type} (p : Program S α) (f : α → Program S β) (g : β → Program S γ) :
    p >>= f >>= g = p >>= fun a => f a >>= g := by
  induction p with
  | done a => rfl
  | call c next ih => exact congrArg (call c) (funext ih)

instance : LawfulMonad (Program S) := LawfulMonad.mk' (Program S) bind_done (fun _ _ => rfl) bind_assoc

def Calls (P : S.Call → Prop) : Program S α → Prop
  | done _ => True
  | call c next => P c ∧ ∀ r, (next r).Calls P

@[simp] lemma calls_done (P : S.Call → Prop) (a : α) : (done a : Program S α).Calls P := trivial

@[simp] lemma calls_call (P : S.Call → Prop) (c : S.Call) (next : S.Reply c → Program S α) :
    (call c next).Calls P ↔ P c ∧ ∀ r, (next r).Calls P := Iff.rfl

lemma Calls.bind {P : S.Call → Prop} {p : Program S α} {f : α → Program S β}
    (hp : p.Calls P) (hf : ∀ a, (f a).Calls P) : (p >>= f).Calls P := by
  induction p with
  | done a => exact hf a
  | call c next ih => exact ⟨hp.1, fun r => ih r (hp.2 r)⟩

lemma Calls.mono {P Q : S.Call → Prop} {p : Program S α} (hp : p.Calls P) (h : ∀ c, P c → Q c) :
    p.Calls Q := by
  induction p with
  | done a => trivial
  | call c next ih => exact ⟨h c hp.1, fun r => ih r (hp.2 r)⟩

def exec {W : Type} (answer : (c : S.Call) → W → Option (S.Reply c × W)) :
    Program S α → W → Option (α × W)
  | done a, w => some (a, w)
  | call c next, w => (answer c w).bind fun (r, w') => exec answer (next r) w'

variable {W : Type} (answer : (c : S.Call) → W → Option (S.Reply c × W))

@[simp] lemma exec_done (a : α) (w : W) : (done a : Program S α).exec answer w = some (a, w) := rfl

@[simp] lemma exec_call (c : S.Call) (next : S.Reply c → Program S α) (w : W) :
    (call c next).exec answer w = (answer c w).bind fun rw => (next rw.1).exec answer rw.2 := rfl

lemma exec_bind (p : Program S α) (f : α → Program S β) (w : W) :
    (p >>= f).exec answer w = (p.exec answer w).bind fun aw => (f aw.1).exec answer aw.2 := by
  induction p generalizing w with
  | done a => rfl
  | call c next ih =>
    simp only [call_bind, exec_call, Option.bind_assoc, ih]

variable {answer}

lemma exec_call_elim {c : S.Call} {next : S.Reply c → Program S α} {a : α} {w w' : W}
    (h : (call c next).exec answer w = some (a, w')) :
    ∃ r v, answer c w = some (r, v) ∧ (next r).exec answer v = some (a, w') := by
  obtain ⟨⟨r, v⟩, hr, hv⟩ := Option.bind_eq_some_iff.mp h
  exact ⟨r, v, hr, hv⟩

lemma exec_bind_elim {p : Program S α} {f : α → Program S β} {b : β} {w w' : W}
    (h : (p >>= f).exec answer w = some (b, w')) :
    ∃ a v, p.exec answer w = some (a, v) ∧ (f a).exec answer v = some (b, w') := by
  rw [exec_bind] at h
  obtain ⟨⟨a, v⟩, ha, hv⟩ := Option.bind_eq_some_iff.mp h
  exact ⟨a, v, ha, hv⟩

lemma exec_done_elim {a b : α} {w w' : W} (h : (done a : Program S α).exec answer w = some (b, w')) :
    a = b ∧ w = w' := Prod.mk.inj (Option.some.inj h)

section observation

def observe (answer : (c : S.Call) → W → Option (S.Reply c × W)) : Program S α → W → Trace S × Option (α × W)
  | done a, w => ([], some (a, w))
  | call c next, w =>
    match answer c w with
    | none => ([], none)
    | some (r, v) => (⟨c, r⟩ :: (observe answer (next r) v).1, (observe answer (next r) v).2)

lemma observe_call_none {c : S.Call} {next : S.Reply c → Program S α} {w : W} (h : answer c w = none) :
    (call c next).observe answer w = ([], none) := by
  rw [observe, h]

lemma observe_call_some {c : S.Call} {next : S.Reply c → Program S α} {w v : W} {r : S.Reply c}
    (h : answer c w = some (r, v)) : (call c next).observe answer w =
      (⟨c, r⟩ :: ((next r).observe answer v).1, ((next r).observe answer v).2) := by
  rw [observe, h]

lemma observe_result (p : Program S α) (w : W) : (p.observe answer w).2 = p.exec answer w := by
  induction p generalizing w with
  | done a => rfl
  | call c next ih =>
    cases hc : answer c w with
    | none => rw [observe_call_none hc, exec_call, hc, Option.bind_none]
    | some rv => rw [observe_call_some hc, exec_call, hc, Option.bind_some, ih]

variable (answer) in
lemma Calls.observe {P : S.Call → Prop} {p : Program S α} (hp : p.Calls P) (w : W) :
    ∀ x ∈ (p.observe answer w).1, P x.1 := by
  induction p generalizing w with
  | done a => exact fun x hx => absurd hx List.not_mem_nil
  | call c next ih =>
    intro x hx
    cases hc : answer c w with
    | none =>
      rw [observe_call_none hc] at hx
      exact absurd hx List.not_mem_nil
    | some rv =>
      rw [observe_call_some hc] at hx
      rcases List.mem_cons.mp hx with rfl | hx
      · exact hp.1
      · exact ih rv.1 (hp.2 rv.1) rv.2 x hx

lemma observe_bind_none {p : Program S α} (f : α → Program S β) {t : Trace S} {w : W}
    (h : p.observe answer w = (t, none)) : (p >>= f).observe answer w = (t, none) := by
  induction p generalizing t w with
  | done a => cases (Prod.mk.inj h).2
  | call c next ih =>
    rw [call_bind]
    cases hc : answer c w with
    | none =>
      rw [observe_call_none hc] at h ⊢
      rw [(Prod.mk.inj h).1]
    | some rv =>
      rw [observe_call_some hc] at h ⊢
      obtain ⟨ht, hn⟩ := Prod.mk.inj h
      rw [ih rv.1 (Prod.ext rfl hn), ← ht]

lemma observe_bind_some {p : Program S α} (f : α → Program S β) {a : α} {t : Trace S} {w v : W}
    (h : p.observe answer w = (t, some (a, v))) :
    (p >>= f).observe answer w = (t ++ ((f a).observe answer v).1, ((f a).observe answer v).2) := by
  induction p generalizing t w with
  | done b =>
    obtain ⟨rfl, hb⟩ := Prod.mk.inj h
    obtain ⟨rfl, rfl⟩ := Prod.mk.inj (Option.some.inj hb)
    rfl
  | call c next ih =>
    rw [call_bind]
    cases hc : answer c w with
    | none =>
      rw [observe_call_none hc] at h
      cases (Prod.mk.inj h).2
    | some rv =>
      rw [observe_call_some hc] at h ⊢
      obtain ⟨ht, hn⟩ := Prod.mk.inj h
      rw [ih rv.1 (Prod.ext rfl hn), ← ht]
      rfl

end observation

end Program

end RouterCard.Interaction
