import RouterCard.Interaction.Contract

/-! A monitor of a server: a state that every call with its reply moves on along a run, and
rely-guarantee reasoning about it together with the world. -/

namespace RouterCard.Interaction

structure Monitor (S : Signature) where
  State : Type
  start : State
  next : State → (c : S.Call) → S.Reply c → State

variable {S : Signature} {H : Host S} {V : Server S H} {M : Monitor S}

namespace Server

variable (M) in
def Config.watch (c : V.Config) (g : M.State) : V.Label → M.State
  | .move (.answer o) =>
    match c.thread with
    | some ⟨_, _, .call k _⟩ => ((H.answer k o c.world).map fun r => M.next g k r.1).getD g
    | _ => g
  | _ => g

inductive Watched (M : Monitor S) (init : V.Config → Prop) : V.Config → M.State → Prop
  | init {c} : init c → Watched M init c M.start
  | step {c d l g} : Watched M init c g → c.step l = some d → Watched M init d (c.watch M g l)

variable {init : V.Config → Prop} {c d : V.Config} {g : M.State}

lemma Watched.run {ls : List V.Label} (hc : Watched M init c g) (h : c.run ls = some d) : ∃ f, Watched M init d f := by
  induction ls generalizing c g with
  | nil => exact ⟨g, Option.some.inj h ▸ hc⟩
  | cons l ls ih =>
    obtain ⟨e, he, hd⟩ := Option.bind_eq_some_iff.mp h
    exact ih (.step hc he) hd

end Server

def Monitor.rules (M : Monitor S) (H : Host S) : Rules S (H.World × M.State) where
  rely _ x y := ∃ a, H.act a x.1 = some y.1 ∧ y.2 = x.2
  answers _ c x r y := ∃ o, H.answer c o x.1 = some (r, y.1) ∧ y.2 = M.next x.2 c r
  always _ := True
  allowed _ _ _ := True

namespace Server

/-- The obligations: between requests `idle` relates the world and the monitor's state, and
each handler leads from it back to it. -/
structure Watch (V : Server S H) (M : Monitor S) (idle : H.World → M.State → Prop) : Prop where
  act : ∀ a w v g, idle w g → H.act a w = some v → idle v g
  serve : ∀ r w v g, idle w g → V.accept r w = some v →
    Program.Safe (M.rules H) (fun _ _ x => idle x.1 x.2) (V.handler r) [] (v, g)

def Config.Keeps (c : V.Config) (idle : H.World → M.State → Prop) (g : M.State) : Prop :=
  match c.thread with
  | none => idle c.world g
  | some t => Program.Safe (M.rules H) (fun _ _ x => idle x.1 x.2) t.rest t.trace (c.world, g)

variable {init : V.Config → Prop} {c : V.Config} {g : M.State} {idle : H.World → M.State → Prop}

theorem Watch.keeps (K : Watch V M idle) (h₀ : ∀ c, init c → c.thread = none ∧ idle c.world M.start)
    (hc : Watched M init c g) : c.Keeps idle g := by
  induction hc with
  | init h =>
    obtain ⟨hn, hw⟩ := h₀ _ h
    simpa only [Config.Keeps, hn] using hw
  | @step c d l g _ hst ih =>
    rcases Config.step_cases hst with ⟨r, w, rfl, hn, ha, rfl⟩ | ⟨r, t, a, rfl, hn, rfl⟩ |
      ⟨⟨r, t, p⟩, m, s, rfl, hn, hm, rfl⟩ | ⟨a, w, rfl, hn, ha, rfl⟩
    · simp only [Config.Keeps, hn] at ih
      exact K.serve r c.world w g ih ha
    · simp only [Config.Keeps, hn] at ih
      exact Program.Safe.result ih
    · simp only [Config.Keeps, hn] at ih
      cases m with
      | act a =>
        obtain ⟨v, hv, rfl⟩ := Session.move_act hm
        exact Program.Safe.rely ih (.single ⟨a, hv, rfl⟩)
      | answer o =>
        obtain ⟨k, next, x, v, rfl, hx, rfl⟩ := Session.move_answer hm
        have hx : H.answer k o c.world = some (x, v) := hx
        have hg : c.watch M g (.move (.answer o)) = M.next g k x := by
          simp only [Config.watch, hn, hx, Option.map_some, Option.getD_some]
        rw [hg]
        exact Program.Safe.answer ih ⟨o, hx, rfl⟩
    · simp only [Config.Keeps, hn] at ih ⊢
      exact K.act a c.world w g ih ha

theorem Watch.between (K : Watch V M idle) (h₀ : ∀ c, init c → c.thread = none ∧ idle c.world M.start)
    (hc : Watched M init c g) (hn : c.thread = none) : idle c.world g := by
  have h := K.keeps h₀ hc
  simpa only [Config.Keeps, hn] using h

end Server

end RouterCard.Interaction
