import RouterCard.Interaction.Contract

/-! A server beside itself: one run as it is and once more with further requests
inserted, and the rules by which the insertion shows in no other response. -/

namespace RouterCard.Interaction

open Relation

variable {S : Signature} {H : Host S} {α β : Type}

structure Coupling (H : Host S) where
  rely : H.World × H.World → H.World × H.World → Prop
  always : H.World × H.World → Prop

def Coupling.Stable (C : Coupling H) (P : H.World × H.World → Prop) : Prop := ∀ w v, P w → C.rely w v → P v

lemma Coupling.Stable.star {C : Coupling H} {P : H.World × H.World → Prop} (h : C.Stable P)
    {w v : H.World × H.World} (hw : P w) (hr : ReflTransGen C.rely w v) : P v := by
  induction hr with
  | refl => exact hw
  | tail _ hs ih => exact h _ _ ih hs

namespace Program

/-- The program goes the same way in both worlds: the second can answer whatever the
first can, and where it answers differently the program does not look at the answer. -/
def Alike (C : Coupling H) (post : α → H.World × H.World → Prop) : Program S α → H.World × H.World → Prop
  | done a, w => ∀ v, ReflTransGen C.rely w v → C.always v ∧ post a v
  | call c next, w => ∀ v, ReflTransGen C.rely w v → C.always v ∧
      ∀ o r u, H.answer c o v.1 = some (r, u) →
        ∃ r' u', H.answer c o v.2 = some (r', u') ∧ next r' = next r ∧ Alike C post (next r) (u, u')

variable {C : Coupling H} {post : α → H.World × H.World → Prop} {w v : H.World × H.World}

lemma Alike.rely {p : Program S α} (h : p.Alike C post w) (hr : ReflTransGen C.rely w v) : p.Alike C post v := by
  cases p with
  | done a => exact fun u hu => h u (hr.trans hu)
  | call c next => exact fun u hu => h u (hr.trans hu)

lemma Alike.always {p : Program S α} (h : p.Alike C post w) : C.always w := by
  cases p with
  | done a => exact (h w .refl).1
  | call c next => exact (h w .refl).1

lemma Alike.result {a : α} (h : (done a : Program S α).Alike C post w) : post a w := (h w .refl).2

lemma Alike.answer {c : S.Call} {next : S.Reply c → Program S α} {o : H.Outcome} {r : S.Reply c} {u : H.World}
    (h : (call c next).Alike C post w) (hr : H.answer c o w.1 = some (r, u)) :
    ∃ r' u', H.answer c o w.2 = some (r', u') ∧ next r' = next r ∧ (next r).Alike C post (u, u') :=
  (h w .refl).2 o r u hr

lemma Alike.of_done {P : H.World × H.World → Prop} {a : α} (hs : C.Stable P) (hw : P w)
    (h : ∀ v, P v → C.always v ∧ post a v) : (done a : Program S α).Alike C post w :=
  fun v hv => h v (hs.star hw hv)

lemma Alike.of_call {P : H.World × H.World → Prop} {c : S.Call} {next : S.Reply c → Program S α} (hs : C.Stable P)
    (hw : P w) (ha : ∀ v, P v → C.always v)
    (hn : ∀ v o r u, P v → H.answer c o v.1 = some (r, u) →
      ∃ r' u', H.answer c o v.2 = some (r', u') ∧ next r' = next r ∧ (next r).Alike C post (u, u')) :
    (call c next).Alike C post w := by
  intro v hv
  have hP := hs.star hw hv
  exact ⟨ha v hP, fun o r u => hn v o r u hP⟩

lemma Alike.mono {post' : α → H.World × H.World → Prop} {p : Program S α} (h : p.Alike C post w)
    (hp : ∀ a v, post a v → post' a v) : p.Alike C post' w := by
  induction p generalizing w with
  | done a => exact fun v hv => ⟨(h v hv).1, hp a v (h v hv).2⟩
  | call c next ih =>
    refine fun v hv => ⟨(h v hv).1, fun o r u hr => ?_⟩
    obtain ⟨r', u', hr', hn, hu⟩ := (h v hv).2 o r u hr
    exact ⟨r', u', hr', hn, ih r hu⟩

lemma Alike.bind {post : β → H.World × H.World → Prop} {p : Program S α} {f : α → Program S β}
    (h : p.Alike C (fun a v => (f a).Alike C post v) w) : (p >>= f).Alike C post w := by
  induction p generalizing w with
  | done a => exact h.result
  | call c next ih =>
    refine fun v hv => ⟨(h v hv).1, fun o r u hr => ?_⟩
    obtain ⟨r', u', hr', hn, hu⟩ := (h v hv).2 o r u hr
    exact ⟨r', u', hr', congrArg (· >>= f) hn, ih r hu⟩

end Program

namespace Server

variable {V : Server S H}

def Label.isAct : V.Label → Bool
  | .move m => m.isAct
  | _ => false

-- `own` collects what the second run answers to the requests of the first.
structure Twin (V : Server S H) where
  base : V.Config
  woven : V.Config
  own : List (V.Request × V.Response)

inductive Stitch (V : Server S H) where
  | own (l : V.Label)
  | extra (l : V.Label)

namespace Twin

def worlds (t : Twin V) : H.World × H.World := (t.base.world, t.woven.world)

def aside (t : Twin V) : Bool := t.base.thread.isNone && t.woven.thread.isSome

-- Requests are inserted between the requests of the first run, not into them.
def step (t : Twin V) : Stitch V → Option (Twin V)
  | .own l => (t.base.step l).bind fun b => (t.woven.step l).map fun i =>
    ⟨b, i, t.own ++ i.log.drop t.woven.log.length⟩
  | .extra l =>
    if t.base.thread.isSome && !l.isAct then none else (t.woven.step l).map fun i => { t with woven := i }

lemma step_own {t u : Twin V} {l : V.Label} (h : t.step (.own l) = some u) :
    t.base.step l = some u.base ∧ t.woven.step l = some u.woven ∧
      u.own = t.own ++ u.woven.log.drop t.woven.log.length := by
  obtain ⟨b, hb, hm⟩ := Option.bind_eq_some_iff.mp h
  obtain ⟨i, hi, rfl⟩ := Option.map_eq_some_iff.mp hm
  exact ⟨hb, hi, rfl⟩

lemma step_extra {t u : Twin V} {l : V.Label} (h : t.step (.extra l) = some u) :
    (t.base.thread = none ∨ l.isAct = true) ∧ ∃ i, t.woven.step l = some i ∧ u = { t with woven := i } := by
  simp only [step] at h
  split_ifs at h with hb
  obtain ⟨i, hi, rfl⟩ := Option.map_eq_some_iff.mp h
  refine ⟨?_, i, hi, rfl⟩
  cases ht : t.base.thread with
  | none => exact .inl rfl
  | some b =>
    refine .inr ?_
    simpa [ht] using hb

inductive Reachable (init : V.Config → Prop) (ok : Twin V → Stitch V → Prop) : Twin V → Prop
  | init {c} : init c → Reachable init ok ⟨c, c, c.log⟩
  | step {t u l} : Reachable init ok t → ok t l → t.step l = some u → Reachable init ok u

-- For concrete runs: each step is checked before it is taken.
def run (check : Twin V → Stitch V → Bool) : Twin V → List (Stitch V) → Option (Twin V)
  | t, [] => some t
  | t, l :: ls => if check t l then (t.step l).bind fun t' => t'.run check ls else none

lemma Reachable.run {init : V.Config → Prop} {ok : Twin V → Stitch V → Prop} {check : Twin V → Stitch V → Bool}
    (hok : ∀ t l, check t l = true → ok t l) {t u : Twin V} {ls : List (Stitch V)} (ht : Reachable init ok t)
    (h : t.run check ls = some u) : Reachable init ok u := by
  induction ls generalizing t with
  | nil => exact Option.some.inj h ▸ ht
  | cons l ls ih =>
    simp only [Twin.run] at h
    split_ifs at h with hc
    obtain ⟨e, he, hu⟩ := Option.bind_eq_some_iff.mp h
    exact ih (.step ht (hok t l hc) he) hu

end Twin

structure Insertion (V : Server S H) where
  -- a step that the others take in both runs; the flag says that an inserted request is being served
  act : Bool → H.Act → H.World × H.World → Prop
  extraAct : H.Act → H.World × H.World → Prop
  start : V.Request → H.World × H.World → Prop
  answer : S.Call → H.World × H.World → Prop

namespace Insertion

variable (J : Insertion V)

def ok (t : Twin V) : Stitch V → Prop
  | .own (.move (.act a)) => J.act t.aside a t.worlds
  | .own _ => True
  | .extra (.move (.act a)) => J.extraAct a t.worlds
  | .extra (.start r) => J.start r t.worlds
  | .extra (.move (.answer _)) => ∀ k, t.woven.nextCall = some k → J.answer k t.worlds
  | .extra .finish => True

def rely (aside : Bool) (w v : H.World × H.World) : Prop :=
  (∃ a, J.act aside a w ∧ H.act a w.1 = some v.1 ∧ H.act a w.2 = some v.2) ∨
    ∃ a, J.extraAct a w ∧ v.1 = w.1 ∧ H.act a w.2 = some v.2

def coupling (I : H.World × H.World → Prop) : Coupling H := ⟨J.rely false, I⟩

def rules (I : H.World × H.World → Prop) : Rules S (H.World × H.World) where
  rely _ := J.rely true
  answers _ c w r v := ∃ o, J.answer c w ∧ v.1 = w.1 ∧ H.answer c o w.2 = some (r, v.2)
  always := I
  allowed _ _ _ := True

/-- The obligations: `I` lets the second world follow the first, a request of the first
run goes the same way in both, and an inserted one leads from `I` back to it. -/
structure Sound (I : H.World × H.World → Prop) : Prop where
  follow : ∀ a w v, I w → H.act a w.1 = some v → ∃ v', H.act a w.2 = some v'
  idle : ∀ w v, I w → J.rely false w v → I v
  own : ∀ r w v, I w → V.accept r w.1 = some v → ∃ v', V.accept r w.2 = some v' ∧
    (V.handler r).Alike (J.coupling I) (fun _ u => I u) (v, v')
  extra : ∀ r w v, I w → J.start r w → V.accept r w.2 = some v →
    (V.handler r).Safe (J.rules I) (fun _ _ u => I u) [] (w.1, v)

variable {J} {I : H.World × H.World → Prop}

inductive Matched (J : Insertion V) (I : H.World × H.World → Prop) (t : Twin V) : Prop
  | idle : t.base.thread = none → t.woven.thread = none → I t.worlds → Matched J I t
  | serving {r k k' p} : t.base.thread = some ⟨r, k, p⟩ → t.woven.thread = some ⟨r, k', p⟩ →
      p.Alike (J.coupling I) (fun _ u => I u) t.worlds → Matched J I t
  | aside {i} : t.base.thread = none → t.woven.thread = some i →
      i.rest.Safe (J.rules I) (fun _ _ u => I u) i.trace t.worlds → Matched J I t

lemma Matched.always {t : Twin V} (h : Matched J I t) : I t.worlds := by
  cases h with
  | idle _ _ hI => exact hI
  | serving _ _ ha => exact ha.always
  | aside _ _ hs => exact hs.always

lemma Matched.rely (hJ : J.Sound I) {t u : Twin V} (h : Matched J I t) (hb : u.base.thread = t.base.thread)
    (hw : u.woven.thread = t.woven.thread) (hr : J.rely t.aside t.worlds u.worlds) : Matched J I u := by
  cases h with
  | idle h₁ h₂ hI =>
    have ha : t.aside = false := by simp [Twin.aside, h₂]
    rw [ha] at hr
    exact .idle (hb.trans h₁) (hw.trans h₂) (hJ.idle _ _ hI hr)
  | serving h₁ h₂ hp =>
    have ha : t.aside = false := by simp [Twin.aside, h₁]
    rw [ha] at hr
    exact .serving (hb.trans h₁) (hw.trans h₂) (hp.rely (.single hr))
  | aside h₁ h₂ hs =>
    have ha : t.aside = true := by simp [Twin.aside, h₁, h₂]
    rw [ha] at hr
    exact .aside (hb.trans h₁) (hw.trans h₂) (hs.rely (.single hr))

lemma Matched.extra (hJ : J.Sound I) {t u : Twin V} {l : V.Label} (h : Matched J I t) (hok : J.ok t (.extra l))
    (hst : t.step (.extra l) = some u) : u.base = t.base ∧ u.own = t.own ∧ Matched J I u := by
  obtain ⟨hl, i, hi, rfl⟩ := Twin.step_extra hst
  refine ⟨rfl, rfl, ?_⟩
  cases l with
  | start r =>
    obtain ⟨hn, w, hw, rfl⟩ := Config.step_start hi
    cases h with
    | idle h₁ h₂ hI => exact .aside h₁ rfl (hJ.extra r _ w hI hok hw)
    | serving h₁ h₂ hp => simp [hn] at h₂
    | aside h₁ h₂ hs => simp [hn] at h₂
  | finish =>
    obtain ⟨r, k, a, hn, rfl⟩ := Config.step_finish hi
    have hb : t.base.thread = none := by simpa [Label.isAct] using hl
    cases h with
    | idle h₁ h₂ hI => simp [hn] at h₂
    | serving h₁ h₂ hp => simp [hb] at h₁
    | aside h₁ h₂ hs =>
      obtain rfl := Option.some.inj (hn.symm.trans h₂)
      exact .idle h₁ rfl (Program.Safe.result hs)
  | move m =>
    cases m with
    | act a =>
      obtain ⟨w, hw, rfl⟩ := Config.step_act hi
      exact h.rely hJ rfl rfl (.inr ⟨a, hok, rfl, hw⟩)
    | answer o =>
      obtain ⟨r, k, c, next, x, w, hn, hw, rfl⟩ := Config.step_answer hi
      have hb : t.base.thread = none := by simpa [Label.isAct, Move.isAct] using hl
      cases h with
      | idle h₁ h₂ hI => simp [hn] at h₂
      | serving h₁ h₂ hp => simp [hb] at h₁
      | aside h₁ h₂ hs =>
        obtain rfl := Option.some.inj (hn.symm.trans h₂)
        have hc : t.woven.nextCall = some c := by simp [Config.nextCall, hn]
        exact .aside h₁ rfl (Program.Safe.answer hs ⟨o, hok c hc, rfl, hw⟩)

lemma Matched.own (hJ : J.Sound I) {t u : Twin V} {l : V.Label} (h : Matched J I t) (hl : t.own = t.base.log)
    (hok : J.ok t (.own l)) (hst : t.step (.own l) = some u) : u.own = u.base.log ∧ Matched J I u := by
  rcases t with ⟨b, i, own⟩
  rcases u with ⟨b', i', own'⟩
  obtain ⟨hb, hi, ho⟩ := Twin.step_own hst
  dsimp only at hb hi ho hl
  subst ho hl
  cases l with
  | start r =>
    obtain ⟨hn, v, hv, rfl⟩ := Config.step_start hb
    obtain ⟨hn', v', hv', rfl⟩ := Config.step_start hi
    cases h with
    | idle h₁ h₂ hI =>
      obtain ⟨x, hx, hp⟩ := hJ.own r _ v hI hv
      obtain rfl := Option.some.inj (hx.symm.trans hv')
      exact ⟨by simp [Config.busy], .serving rfl rfl hp⟩
    | serving h₁ h₂ hp => simp [hn] at h₁
    | aside h₁ h₂ hs => simp [hn'] at h₂
  | finish =>
    obtain ⟨r, k, a, hn, rfl⟩ := Config.step_finish hb
    obtain ⟨r', k', a', hn', rfl⟩ := Config.step_finish hi
    cases h with
    | idle h₁ h₂ hI => simp [hn] at h₁
    | serving h₁ h₂ hp =>
      obtain ⟨rfl, rfl, rfl⟩ := Thread.mk.inj (Option.some.inj (hn.symm.trans h₁))
      obtain ⟨rfl, rfl, ha⟩ := Thread.mk.inj (Option.some.inj (hn'.symm.trans h₂))
      obtain rfl := Program.done.inj ha
      exact ⟨by simp, .idle rfl rfl hp.result⟩
    | aside h₁ h₂ hs => simp [hn] at h₁
  | move m =>
    cases m with
    | act a =>
      obtain ⟨v, hv, rfl⟩ := Config.step_act hb
      obtain ⟨v', hv', rfl⟩ := Config.step_act hi
      exact ⟨by simp, h.rely hJ rfl rfl (.inl ⟨a, hok, hv, hv'⟩)⟩
    | answer o =>
      obtain ⟨r, k, c, next, x, v, hn, hv, rfl⟩ := Config.step_answer hb
      obtain ⟨r', k', c', next', x', v', hn', hv', rfl⟩ := Config.step_answer hi
      cases h with
      | idle h₁ h₂ hI => simp [hn] at h₁
      | serving h₁ h₂ hp =>
        obtain ⟨rfl, rfl, rfl⟩ := Thread.mk.inj (Option.some.inj (hn.symm.trans h₁))
        obtain ⟨rfl, rfl, hc⟩ := Thread.mk.inj (Option.some.inj (hn'.symm.trans h₂))
        cases hc
        obtain ⟨y, z, hy, hnext, hz⟩ := hp.answer hv
        obtain ⟨rfl, rfl⟩ := Prod.mk.inj (Option.some.inj (hy.symm.trans hv'))
        exact ⟨by simp, .serving rfl (congrArg (fun p => some (Thread.mk _ _ p)) hnext) hz⟩
      | aside h₁ h₂ hs => simp [hn] at h₁

theorem Sound.matched (hJ : J.Sound I) {init : V.Config → Prop}
    (h₀ : ∀ c, init c → c.thread = none ∧ I (c.world, c.world)) {t : Twin V} (ht : t.Reachable init J.ok) :
    t.own = t.base.log ∧ Matched J I t := by
  induction ht with
  | init hc => exact ⟨rfl, .idle (h₀ _ hc).1 (h₀ _ hc).1 (h₀ _ hc).2⟩
  | @step t u l _ hok hst ih =>
    cases l with
    | own l => exact ih.2.own hJ ih.1 hok hst
    | extra l =>
      obtain ⟨hb, ho, hm⟩ := ih.2.extra hJ hok hst
      exact ⟨by rw [ho, hb, ih.1], hm⟩

theorem Matched.follows (hJ : J.Sound I) {t : Twin V} {d : V.Config} {l : V.Label} (h : Matched J I t)
    (hl : l.isAct = true ∨ t.aside = false) (hst : t.base.step l = some d) : ∃ e, t.woven.step l = some e := by
  cases l with
  | start r =>
    obtain ⟨hn, v, hv, rfl⟩ := Config.step_start hst
    cases h with
    | idle h₁ h₂ hI =>
      obtain ⟨x, hx, -⟩ := hJ.own r _ v hI hv
      exact ⟨_, Config.start_step h₂ hx⟩
    | serving h₁ h₂ hp => simp [hn] at h₁
    | aside h₁ h₂ hs => simp [Twin.aside, Label.isAct, h₁, h₂] at hl
  | finish =>
    obtain ⟨r, k, a, hn, rfl⟩ := Config.step_finish hst
    cases h with
    | idle h₁ h₂ hI => simp [hn] at h₁
    | serving h₁ h₂ hp =>
      obtain ⟨rfl, rfl, rfl⟩ := Thread.mk.inj (Option.some.inj (hn.symm.trans h₁))
      exact ⟨_, Config.finish_step h₂⟩
    | aside h₁ h₂ hs => simp [hn] at h₁
  | move m =>
    cases m with
    | act a =>
      obtain ⟨v, hv, rfl⟩ := Config.step_act hst
      obtain ⟨x, hx⟩ := hJ.follow a _ v h.always hv
      exact ⟨_, Config.act_step hx⟩
    | answer o =>
      obtain ⟨r, k, c, next, x, v, hn, hv, rfl⟩ := Config.step_answer hst
      cases h with
      | idle h₁ h₂ hI => simp [hn] at h₁
      | serving h₁ h₂ hp =>
        obtain ⟨rfl, rfl, rfl⟩ := Thread.mk.inj (Option.some.inj (hn.symm.trans h₁))
        obtain ⟨y, z, hy, -⟩ := hp.answer hv
        exact ⟨_, Config.answer_step h₂ hy⟩
      | aside h₁ h₂ hs => simp [hn] at h₁

end Insertion

end Server

end RouterCard.Interaction
