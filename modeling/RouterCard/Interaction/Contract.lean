import RouterCard.Interaction.Server
import Mathlib.Logic.Relation

/-! Rely-guarantee reasoning: a program is safe when every state it meets keeps an
invariant, every call it makes is allowed there, and it ends in its postcondition,
whatever the other parties do between its calls. -/

namespace RouterCard.Interaction

open Relation

structure Rules (S : Signature) (W : Type) where
  rely : Trace S → W → W → Prop
  answers : Trace S → (c : S.Call) → W → S.Reply c → W → Prop
  always : W → Prop
  allowed : Trace S → S.Call → W → Prop

variable {S : Signature} {W α β : Type}

namespace Rules

variable (R : Rules S W)

def Stable (t : Trace S) (P : W → Prop) : Prop := ∀ w v, P w → R.rely t w v → P v

variable {R}

lemma Stable.star {t : Trace S} {P : W → Prop} (h : R.Stable t P) {w v : W} (hw : P w)
    (hr : ReflTransGen (R.rely t) w v) : P v := by
  induction hr with
  | refl => exact hw
  | tail _ hs ih => exact h _ _ ih hs

lemma Stable.and {t : Trace S} {P Q : W → Prop} (hP : R.Stable t P) (hQ : R.Stable t Q) :
    R.Stable t (fun w => P w ∧ Q w) :=
  fun w v hw hr => ⟨hP w v hw.1 hr, hQ w v hw.2 hr⟩

end Rules

namespace Program

variable {R : Rules S W}

def Safe (R : Rules S W) (post : α → Trace S → W → Prop) : Program S α → Trace S → W → Prop
  | done a, t, w => ∀ v, ReflTransGen (R.rely t) w v → R.always v ∧ post a t v
  | call c next, t, w => ∀ v, ReflTransGen (R.rely t) w v → R.always v ∧ R.allowed t c v ∧
      ∀ r u, R.answers t c v r u → Safe R post (next r) (t ++ [⟨c, r⟩]) u

variable {post : α → Trace S → W → Prop} {t : Trace S} {w v : W}

lemma Safe.rely {p : Program S α} (h : Safe R post p t w) (hr : ReflTransGen (R.rely t) w v) :
    Safe R post p t v := by
  cases p with
  | done a => exact fun u hu => h u (hr.trans hu)
  | call c next => exact fun u hu => h u (hr.trans hu)

lemma Safe.always {p : Program S α} (h : Safe R post p t w) : R.always w := by
  cases p with
  | done a => exact (h w .refl).1
  | call c next => exact (h w .refl).1

lemma Safe.allowed {c : S.Call} {next : S.Reply c → Program S α} (h : Safe R post (.call c next) t w) :
    R.allowed t c w := (h w .refl).2.1

lemma Safe.answer {c : S.Call} {next : S.Reply c → Program S α} {r : S.Reply c}
    (h : Safe R post (.call c next) t w) (hr : R.answers t c w r v) :
    Safe R post (next r) (t ++ [⟨c, r⟩]) v := (h w .refl).2.2 r v hr

lemma Safe.result {a : α} (h : Safe R post (.done a) t w) : post a t w := (h w .refl).2

lemma Safe.of_done {P : W → Prop} {a : α} (hs : R.Stable t P) (hw : P w)
    (h : ∀ v, P v → R.always v ∧ post a t v) : Safe R post (.done a) t w :=
  fun v hv => h v (hs.star hw hv)

lemma Safe.of_call {P : W → Prop} {c : S.Call} {next : S.Reply c → Program S α} (hs : R.Stable t P)
    (hw : P w) (hg : ∀ v, P v → R.always v ∧ R.allowed t c v)
    (hn : ∀ v r u, P v → R.answers t c v r u → Safe R post (next r) (t ++ [⟨c, r⟩]) u) :
    Safe R post (.call c next) t w := by
  intro v hv
  have hP := hs.star hw hv
  exact ⟨(hg v hP).1, (hg v hP).2, fun r u hr => hn v r u hP hr⟩

lemma Safe.mono {post' : α → Trace S → W → Prop} {p : Program S α} (h : Safe R post p t w)
    (hp : ∀ a t w, post a t w → post' a t w) : Safe R post' p t w := by
  induction p generalizing t w with
  | done a => exact fun v hv => ⟨(h v hv).1, hp _ _ _ (h v hv).2⟩
  | call c next ih => exact fun v hv => ⟨(h v hv).1, (h v hv).2.1, fun r u hr => ih r ((h v hv).2.2 r u hr)⟩

lemma Safe.bind {post : β → Trace S → W → Prop} {p : Program S α} {f : α → Program S β}
    (h : Safe R (fun a t w => Safe R post (f a) t w) p t w) : Safe R post (p >>= f) t w := by
  induction p generalizing t w with
  | done a => exact Safe.result h
  | call c next ih => exact fun v hv => ⟨(h v hv).1, (h v hv).2.1, fun r u hr => ih r ((h v hv).2.2 r u hr)⟩

lemma Safe.map {post : β → Trace S → W → Prop} {p : Program S α} {f : α → β}
    (h : Safe R (fun a t w => post (f a) t w) p t w) : Safe R post (f <$> p) t w := by
  induction p generalizing t w with
  | done a => exact h
  | call c next ih => exact fun v hv => ⟨(h v hv).1, (h v hv).2.1, fun r u hr => ih r ((h v hv).2.2 r u hr)⟩

lemma Safe.of_calls {C : S.Call → Prop} {P : Trace S → W → Prop} {p : Program S α} (hp : p.Calls C)
    (hs : ∀ t, R.Stable t (P t)) (hg : ∀ t c v, C c → P t v → R.always v ∧ R.allowed t c v)
    (ha : ∀ t v, P t v → R.always v)
    (hn : ∀ t c v r u, C c → P t v → R.answers t c v r u → P (t ++ [⟨c, r⟩]) u) (hw : P t w) :
    Safe R (fun _ t w => P t w) p t w := by
  induction p generalizing t w with
  | done a => exact .of_done (hs t) hw fun v hv => ⟨ha t v hv, hv⟩
  | call c next ih =>
    exact .of_call (hs t) hw (fun v hv => hg t c v hp.1 hv)
      fun v r u hv hr => ih r (hp.2 r) (hn t c v r u hp.1 hv hr)

variable {H : Host S}

lemma Safe.play {R : Rules S H.World} {post : α → Trace S → H.World → Prop} (ok : H.Act → Prop)
    (hact : ∀ t a w v, ok a → H.act a w = some v → R.rely t w v)
    (hans : ∀ t c o w r v, H.answer c o w = some (r, v) → R.answers t c w r v) {s s' : Session H α}
    {ms : List (Move H)} (hms : ∀ a, .act a ∈ ms → ok a) (hs : s.rest.Safe R post s.trace s.world)
    (h : s.play ms = some s') : s'.rest.Safe R post s'.trace s'.world := by
  induction ms generalizing s with
  | nil => exact Option.some.inj h ▸ hs
  | cons m ms ih =>
    obtain ⟨u, hu, hp⟩ := Option.bind_eq_some_iff.mp h
    have hms' : ∀ a, .act a ∈ ms → ok a := fun a ha => hms a (.tail m ha)
    cases m with
    | act a =>
      obtain ⟨w, hw, rfl⟩ := Session.move_act hu
      exact ih (s := { s with world := w }) hms' (hs.rely (.single (hact _ a _ w (hms a (.head ms)) hw))) hp
    | answer o =>
      obtain ⟨c, next, r, w, hc, hr, rfl⟩ := Session.move_answer hu
      rw [hc] at hs
      exact ih hms' (hs.answer (hans _ c o _ r w hr)) hp

end Program

variable {H : Host S} {V : Server S H}

structure Server.Limits (V : Server S H) where
  act : Option (V.Request × Trace S) → H.Act → H.World → Prop
  answer : V.Request → Trace S → (c : S.Call) → H.Outcome → H.World → Prop

namespace Server

def Thread.scope (t : V.Thread) : V.Request × Trace S := (t.request, t.trace)

def Limits.ok (L : V.Limits) (c : V.Config) : V.Label → Prop
  | .start _ | .finish => True
  | .move (.act a) => L.act (c.thread.map Thread.scope) a c.world
  | .move (.answer o) =>
    match c.thread with
    | some ⟨r, t, .call k _⟩ => L.answer r t k o c.world
    | _ => True

def Limits.rules (L : V.Limits) (always : H.World → Prop)
    (allowed : V.Request → Trace S → S.Call → H.World → Prop) (r : V.Request) : Rules S H.World where
  rely t w v := ∃ a, L.act (some (r, t)) a w ∧ H.act a w = some v
  answers t c w a v := ∃ o, L.answer r t c o w ∧ H.answer c o w = some (a, v)
  always := always
  allowed := allowed r

/-- The obligations of a server proof: between requests `idle` holds and is kept by
the others, and each handler leads from it back to it. -/
structure Contract (L : V.Limits) (idle always : H.World → Prop)
    (allowed : V.Request → Trace S → S.Call → H.World → Prop) : Prop where
  always_of_idle : ∀ w, idle w → always w
  act : ∀ a w v, idle w → L.act none a w → H.act a w = some v → idle v
  serve : ∀ r w v, idle w → V.accept r w = some v →
    Program.Safe (L.rules always allowed r) (fun _ _ w => idle w) (V.handler r) [] v

variable {L : V.Limits} {idle always : H.World → Prop}
  {allowed : V.Request → Trace S → S.Call → H.World → Prop}

def Holds (L : V.Limits) (idle always : H.World → Prop)
    (allowed : V.Request → Trace S → S.Call → H.World → Prop) (c : V.Config) : Prop :=
  match c.thread with
  | none => idle c.world
  | some t => Program.Safe (L.rules always allowed t.request) (fun _ _ w => idle w) t.rest t.trace c.world

lemma Holds.move {c : V.Config} {t : V.Thread} {m : Move H}
    {s : Session H V.Response} (h : Holds L idle always allowed c) (hc : c.thread = some t)
    (hok : L.ok c (.move m)) (hm : (t.session c.world).move m = some s) :
    Holds L idle always allowed (c.busy t.request s) := by
  rcases c with ⟨w, _, log⟩
  obtain rfl : _ = some t := hc
  cases m with
  | act a =>
    obtain ⟨v, hv, rfl⟩ := Session.move_act hm
    exact Program.Safe.rely h (.single ⟨a, hok, hv⟩)
  | answer o =>
    obtain ⟨k, next, a, v, hk, ha, rfl⟩ := Session.move_answer hm
    rcases t with ⟨r, t, rest⟩
    obtain rfl : rest = _ := hk
    exact Program.Safe.answer h ⟨o, hok, ha⟩

theorem Contract.holds (K : Contract L idle always allowed) {init : V.Config → Prop}
    (h₀ : ∀ c, init c → c.thread = none ∧ idle c.world) {c : V.Config}
    (hc : Reachable init L.ok c) : Holds L idle always allowed c := by
  refine hc.induct (fun c hc => ?_) (fun c d l h hok hst => ?_)
  · obtain ⟨ht, hw⟩ := h₀ c hc
    simpa only [Holds, ht] using hw
  · rcases Config.step_cases hst with ⟨r, w, rfl, hn, ha, rfl⟩ | ⟨r, t, a, rfl, ht, rfl⟩ |
      ⟨t, m, s, rfl, ht, hm, rfl⟩ | ⟨a, w, rfl, hn, ha, rfl⟩
    · simp only [Holds, hn] at h
      exact K.serve r c.world w h ha
    · simp only [Holds, ht] at h
      exact Program.Safe.result h
    · exact h.move ht hok hm
    · simp only [Holds, hn] at h
      have hl : L.act none a c.world := by simpa only [Limits.ok, hn, Option.map_none] using hok
      simpa only [Holds, hn] using K.act a c.world w h hl ha

lemma Contract.always_of_holds (K : Contract L idle always allowed) {c : V.Config}
    (h : Holds L idle always allowed c) : always c.world := by
  unfold Holds at h
  split at h
  · exact K.always_of_idle _ h
  · exact h.always

theorem Contract.invariant (K : Contract L idle always allowed) {init : V.Config → Prop}
    (h₀ : ∀ c, init c → c.thread = none ∧ idle c.world) {c : V.Config}
    (hc : Reachable init L.ok c) : always c.world :=
  K.always_of_holds (K.holds h₀ hc)

theorem Contract.guard (K : Contract L idle always allowed) {init : V.Config → Prop}
    (h₀ : ∀ c, init c → c.thread = none ∧ idle c.world) {c : V.Config}
    (hc : Reachable init L.ok c) {r : V.Request} {t : Trace S} {k : S.Call}
    {next : S.Reply k → Program S V.Response} (ht : c.thread = some ⟨r, t, .call k next⟩) :
    allowed r t k c.world := by
  have h := K.holds h₀ hc
  simp only [Holds, ht] at h
  exact Program.Safe.allowed h

end Server

end RouterCard.Interaction
