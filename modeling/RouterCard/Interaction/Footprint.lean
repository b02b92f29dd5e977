import RouterCard.Interaction.Server

namespace RouterCard.Interaction

variable {S : Signature} {α β : Type}

namespace Program

def Returns (P : α → Prop) : Program S α → Prop
  | done a => P a
  | call _ next => ∀ r, (next r).Returns P

variable {P : α → Prop} {Q : β → Prop} {p : Program S α}

lemma Returns.mono {P' : α → Prop} (hp : p.Returns P) (h : ∀ a, P a → P' a) : p.Returns P' := by
  induction p with
  | done a => exact h a hp
  | call c next ih => exact fun r => ih r (hp r)

lemma Returns.bind {f : α → Program S β} (hp : p.Returns P) (hf : ∀ a, P a → (f a).Returns Q) : (p >>= f).Returns Q := by
  induction p with
  | done a => exact hf a hp
  | call c next ih => exact fun r => ih r (hp r)

lemma returns_any (p : Program S α) : p.Returns fun _ => True := by
  induction p with
  | done a => trivial
  | call c next ih => exact ih

lemma returns_bind {f : α → Program S β} (hf : ∀ a, (f a).Returns Q) : (p >>= f).Returns Q :=
  (returns_any p).bind fun a _ => hf a

lemma Returns.map {f : α → β} (hp : p.Returns P) (hf : ∀ a, P a → Q (f a)) : (f <$> p).Returns Q := by
  rw [← bind_pure_comp]
  exact hp.bind hf

end Program

namespace Server

variable {H : Host S} {V : Server S H} {c d : V.Config} {l : V.Label} {ls : List V.Label}

section calls

variable (calls : V.Request → S.Call → Prop)

def Config.Confined (c : V.Config) : Prop := ∀ t, c.thread = some t → t.rest.Calls (calls t.request)

variable {calls}

lemma Config.confined_of_idle (h : c.thread = none) : c.Confined calls := by
  intro t ht
  rw [h] at ht
  cases ht

lemma Config.Confined.step (hh : ∀ r, l = .start r → (V.handler r).Calls (calls r)) (hc : c.Confined calls)
    (h : c.step l = some d) : d.Confined calls := by
  rcases Config.step_cases h with ⟨r, w, hl, -, -, rfl⟩ | ⟨r, k, a, -, -, rfl⟩ | ⟨t, m, s, -, ht, hm, rfl⟩ | ⟨a, w, -, hn, -, rfl⟩
  · intro t ht
    obtain rfl := Option.some.inj ht
    exact hh r hl
  · exact confined_of_idle rfl
  · intro u hu
    obtain rfl := Option.some.inj hu
    cases m with
    | act a =>
      obtain ⟨w, -, rfl⟩ := Session.move_act hm
      exact hc t ht
    | answer o =>
      obtain ⟨k, next, x, w, hk, -, rfl⟩ := Session.move_answer hm
      have hcalls : t.rest.Calls (calls t.request) := hc t ht
      have hrest : t.rest = .call k next := hk
      rw [hrest] at hcalls
      exact hcalls.2 x
  · exact confined_of_idle hn

lemma Config.Confined.run (hh : ∀ r, .start r ∈ ls → (V.handler r).Calls (calls r)) (hc : c.Confined calls)
    (h : c.run ls = some d) : d.Confined calls := by
  induction ls generalizing c with
  | nil => exact Option.some.inj h ▸ hc
  | cons l ls ih =>
    obtain ⟨e, he, hd⟩ := Option.bind_eq_some_iff.mp h
    have hstep : e.Confined calls := hc.step (fun r hl => hh r (by simp [hl])) he
    exact ih (fun r hr => hh r (.tail l hr)) hstep hd

lemma Config.Confined.pending {r : V.Request} {k : Trace S} {q : S.Call} {next : S.Reply q → Program S V.Response}
    (hc : c.Confined calls) (ht : c.thread = some ⟨r, k, .call q next⟩) : calls r q := (hc _ ht).1

lemma Config.Confined.invariant {I : H.World → Prop} (hh : ∀ r, .start r ∈ ls → (V.handler r).Calls (calls r))
    (haccept : ∀ r w v, V.accept r w = some v → I w → I v)
    (hact : ∀ a w v, .move (.act a) ∈ ls → H.act a w = some v → I w → I v)
    (hanswer : ∀ r q o w x v, calls r q → H.answer q o w = some (x, v) → I w → I v) (hc : c.Confined calls)
    (h : c.run ls = some d) (hw : I c.world) : I d.world := by
  induction ls generalizing c with
  | nil => exact Option.some.inj h ▸ hw
  | cons l ls ih =>
    obtain ⟨e, he, hd⟩ := Option.bind_eq_some_iff.mp h
    have hstep : e.Confined calls := hc.step (fun r hl => hh r (by simp [hl])) he
    refine ih (fun r hr => hh r (.tail l hr)) (fun a w v ha => hact a w v (.tail l ha)) hstep hd ?_
    rcases Config.step_cases he with ⟨r, w, -, -, hv, rfl⟩ | ⟨r, k, a, -, -, rfl⟩ | ⟨t, m, s, rfl, ht, hm, rfl⟩ |
      ⟨a, w, rfl, -, hv, rfl⟩
    · exact haccept r _ w hv hw
    · exact hw
    · cases m with
      | act a =>
        obtain ⟨w, hv, rfl⟩ := Session.move_act hm
        exact hact a _ w (.head ls) hv hw
      | answer o =>
        obtain ⟨k, next, x, w, hk, hv, rfl⟩ := Session.move_answer hm
        have hcalls : t.rest.Calls (calls t.request) := hc t ht
        have hrest : t.rest = .call k next := hk
        rw [hrest] at hcalls
        exact hanswer t.request k o _ x w hcalls.1 hv hw
    · exact hact a _ w (.head ls) hv hw

end calls

section responses

variable (results : V.Request → V.Response → Prop)

structure Config.Conforms (c : V.Config) : Prop where
  given : ∀ x ∈ c.log, results x.1 x.2
  pending : ∀ t, c.thread = some t → t.rest.Returns (results t.request)

variable {results}

lemma Config.Conforms.step (hh : ∀ r, (V.handler r).Returns (results r)) (hc : c.Conforms results) (h : c.step l = some d) :
    d.Conforms results := by
  rcases Config.step_cases h with ⟨r, w, -, -, -, rfl⟩ | ⟨r, k, a, -, ht, rfl⟩ | ⟨t, m, s, -, ht, hm, rfl⟩ | ⟨a, w, -, hn, -, rfl⟩
  · refine ⟨hc.given, fun t ht => ?_⟩
    obtain rfl := Option.some.inj ht
    exact hh r
  · have hlast : results r a := hc.pending _ ht
    exact ⟨List.forall_mem_append.mpr ⟨hc.given, List.forall_mem_singleton.mpr hlast⟩, fun t ht => by cases ht⟩
  · refine ⟨hc.given, fun u hu => ?_⟩
    obtain rfl := Option.some.inj hu
    cases m with
    | act a =>
      obtain ⟨w, -, rfl⟩ := Session.move_act hm
      exact hc.pending t ht
    | answer o =>
      obtain ⟨k, next, x, w, hk, -, rfl⟩ := Session.move_answer hm
      have hreturns : t.rest.Returns (results t.request) := hc.pending t ht
      have hrest : t.rest = .call k next := hk
      rw [hrest] at hreturns
      exact hreturns x
  · exact ⟨hc.given, hc.pending⟩

lemma Config.Conforms.run (hh : ∀ r, (V.handler r).Returns (results r)) (hc : c.Conforms results) (h : c.run ls = some d) :
    d.Conforms results := by
  induction ls generalizing c with
  | nil => exact Option.some.inj h ▸ hc
  | cons l ls ih =>
    obtain ⟨e, he, hd⟩ := Option.bind_eq_some_iff.mp h
    exact ih (hc.step hh he) hd

lemma conforms_idle (w : H.World) : (Config.idle (V := V) w).Conforms results := ⟨by simp [Config.idle], by simp [Config.idle]⟩

end responses

end Server

end RouterCard.Interaction
