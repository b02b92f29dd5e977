import RouterCard.Interaction.Server

namespace RouterCard.Interaction

structure Machine where
  State : Type
  Event : Type
  after : State → Event → Option State

namespace Machine

variable {M : Machine} {s t u : M.State} {e f : M.Event} {es mid : List M.Event}

def run (M : Machine) : M.State → List M.Event → Option M.State
  | s, [] => some s
  | s, e :: es => (M.after s e).bind fun t => run M t es

lemma run_append (s : M.State) (es fs : List M.Event) : M.run s (es ++ fs) = (M.run s es).bind fun t => M.run t fs := by
  induction es generalizing s with
  | nil => rfl
  | cons e es ih => simp only [List.cons_append, run, Option.bind_assoc, ih]

lemma run_singleton (s : M.State) (e : M.Event) : M.run s [e] = M.after s e := by
  cases h : M.after s e <;> simp [run, h]

lemma run_split {pre post : List M.Event} (h : M.run s (pre ++ e :: post) = some u) :
    ∃ t v, M.run s pre = some t ∧ M.after t e = some v ∧ M.run v post = some u := by
  rw [run_append] at h
  obtain ⟨t, ht, h⟩ := Option.bind_eq_some_iff.mp h
  obtain ⟨v, hv, h⟩ := Option.bind_eq_some_iff.mp h
  exact ⟨t, v, ht, hv, h⟩

lemma lasts {P : M.State → Prop} {Q : M.Event → Prop} (hstep : ∀ s e t, M.after s e = some t → P s → P t ∨ Q e)
    (h : M.run s es = some t) (hs : P s) : P t ∨ ∃ e ∈ es, Q e := by
  induction es generalizing s with
  | nil => exact .inl (Option.some.inj h ▸ hs)
  | cons e es ih =>
    obtain ⟨u, hu, h⟩ := Option.bind_eq_some_iff.mp h
    rcases hstep s e u hu hs with hP | hQ
    · exact (ih h hP).imp_right fun ⟨f, hf, hQ⟩ => ⟨f, .tail e hf, hQ⟩
    · exact .inr ⟨e, .head es, hQ⟩

lemma separated {P : M.State → Prop} {Q : M.Event → Prop} {pre post : List M.Event}
    (hstep : ∀ s e t, M.after s e = some t → P s → P t ∨ Q e) (he : ∀ s t, M.after s e = some t → P t)
    (hf : ∀ s t, M.after s f = some t → ¬ P s) (h : M.run s (pre ++ e :: (mid ++ f :: post)) = some t) : ∃ e ∈ mid, Q e := by
  obtain ⟨s₁, s₂, -, hs₂, h⟩ := run_split h
  obtain ⟨s₃, s₄, hs₃, hs₄, -⟩ := run_split h
  exact (lasts hstep hs₃ (he s₁ s₂ hs₂)).resolve_left (hf s₃ s₄ hs₄)

end Machine

namespace Server

variable {S : Signature} {H : Host S} {V : Server S H} {E : Type}

def Config.events (event : V.Config → V.Label → List E) : V.Config → List V.Label → List E
  | _, [] => []
  | c, l :: ls =>
    match c.step l with
    | some d => event c l ++ Config.events event d ls
    | none => []

variable {M : Machine} {event : V.Config → V.Label → List M.Event} {init : V.Config → Prop}
  {ok : V.Config → V.Label → Prop} {c d : V.Config} {ls : List V.Label}

theorem Reachable.refines (view : V.Config → M.State)
    (hstep : ∀ c d l, Reachable init ok c → ok c l → c.step l = some d → M.run (view c) (event c l) = some (view d))
    (hc : Reachable init ok c) (hok : ∀ l ∈ ls, ∀ c, ok c l) (h : c.run ls = some d) :
    M.run (view c) (c.events event ls) = some (view d) := by
  induction ls generalizing c with
  | nil => rw [Option.some.inj h, Config.events, Machine.run]
  | cons l ls ih =>
    obtain ⟨e, he, h⟩ := Option.bind_eq_some_iff.mp h
    have hl : ok c l := hok l (.head ls) c
    have hrest := ih (.step hc hl he) (fun k hk => hok k (.tail l hk)) h
    rw [Config.events, he]
    dsimp only
    rw [Machine.run_append, hstep c e l hc hl he, Option.bind_some, hrest]

end Server

end RouterCard.Interaction
