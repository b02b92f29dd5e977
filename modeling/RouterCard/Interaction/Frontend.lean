import RouterCard.Interaction.Footprint
import RouterCard.Interaction.Refinement

namespace RouterCard.Interaction

variable {S : Signature} {H : Host S} {W V : Server S H}

structure Front (W V : Server S H) where
  forward : W.Request → Except W.Response V.Request
  respond : W.Request → V.Response → Program S W.Response
  refused {r : W.Request} {a : W.Response} : forward r = .error a →
    W.handler r = .done a ∧ ∀ w v, W.accept r w = some v → v = w
  handed {r : W.Request} {q : V.Request} : forward r = .ok q →
    W.handler r = V.handler q >>= respond r ∧ W.accept r = V.accept q
  -- What it calls by itself gets no answer.
  halts (r : W.Request) (b : V.Response) : (respond r b).Calls fun c => ∀ o w, H.answer c o w = none

namespace Front

variable (F : Front W V)

def Behind : Option W.Thread → Option V.Thread → Prop
  | none, u => u = none
  | some t, none => ∃ a, F.forward t.request = .error a ∧ t.rest = .done a
  | some t, some u => F.forward t.request = .ok u.request ∧ u.trace = t.trace ∧ t.rest = u.rest >>= F.respond t.request

inductive Logged : List (W.Request × W.Response) → List (V.Request × V.Response) → Prop
  | nil : Logged [] []
  | refused {xs ys r a} : Logged xs ys → F.forward r = .error a → Logged (xs ++ [(r, a)]) ys
  | handed {xs ys r q a b} : Logged xs ys → F.forward r = .ok q → F.respond r b = .done a →
      Logged (xs ++ [(r, a)]) (ys ++ [(q, b)])

structure Stands (c : W.Config) (d : V.Config) : Prop where
  world : d.world = c.world
  thread : F.Behind c.thread d.thread
  log : F.Logged c.log d.log

def labels (c : W.Config) : W.Label → List V.Label
  | .start r =>
    match F.forward r with
    | .ok q => [.start q]
    | .error _ => []
  | .move m => [.move m]
  | .finish =>
    match c.thread.map fun t => F.forward t.request with
    | some (.ok _) => [.finish]
    | _ => []

variable {F} {c c' : W.Config} {d : V.Config} {l : W.Label} {ls : List W.Label}

lemma stands_idle (w : H.World) : F.Stands (.idle w) (.idle w) := ⟨rfl, rfl, .nil⟩

lemma Logged.mem {xs : List (W.Request × W.Response)} {ys : List (V.Request × V.Response)} {r : W.Request} {a : W.Response}
    (h : F.Logged xs ys) (hx : (r, a) ∈ xs) : F.forward r = .error a ∨
      ∃ q b, F.forward r = .ok q ∧ F.respond r b = .done a ∧ (q, b) ∈ ys := by
  induction h with
  | nil => cases hx
  | refused h hr ih =>
    rcases List.mem_append.mp hx with hx | hx
    · exact ih hx
    · obtain ⟨rfl, rfl⟩ := Prod.mk.inj (List.mem_singleton.mp hx)
      exact .inl hr
  | handed h hr hb ih =>
    rcases List.mem_append.mp hx with hx | hx
    · refine (ih hx).imp_right ?_
      rintro ⟨q, b, hq, ha, hy⟩
      exact ⟨q, b, hq, ha, List.mem_append_left _ hy⟩
    · obtain ⟨rfl, rfl⟩ := Prod.mk.inj (List.mem_singleton.mp hx)
      exact .inr ⟨_, _, hr, hb, List.mem_append_right _ (List.mem_singleton_self _)⟩

lemma Behind.cases {r : W.Request} {t : Trace S} {rest : Program S W.Response} {u : Option V.Thread}
    (h : F.Behind (some ⟨r, t, rest⟩) u) : (∃ a, F.forward r = .error a ∧ rest = .done a ∧ u = none) ∨
      ∃ q p, F.forward r = .ok q ∧ rest = p >>= F.respond r ∧ u = some ⟨q, t, p⟩ := by
  cases u with
  | none =>
    obtain ⟨a, ha, hd⟩ := h
    exact .inl ⟨a, ha, hd, rfl⟩
  | some u =>
    obtain ⟨ha, ht, hp⟩ := h
    obtain rfl : u.trace = t := ht
    exact .inr ⟨u.request, u.rest, ha, hp, rfl⟩

lemma stands_start (hs : F.Stands c d) {r : W.Request} {w : H.World} (hn : c.thread = none)
    (hw : W.accept r c.world = some w) :
    ∃ d', d.run (F.labels c (.start r)) = some d' ∧ F.Stands (c.busy r ⟨[], W.handler r, w⟩) d' := by
  have hd : d.thread = none := by simpa [hn, Behind] using hs.thread
  cases ha : F.forward r with
  | error a =>
    obtain ⟨hdone, hkeep⟩ := F.refused ha
    obtain rfl := hkeep _ _ hw
    refine ⟨d, by simp [labels, ha], hs.world, ?_, hs.log⟩
    rw [hd]
    exact ⟨a, ha, hdone⟩
  | ok q =>
    obtain ⟨hprog, haccept⟩ := F.handed ha
    have hv : V.accept q d.world = some w := by rw [hs.world, ← haccept, hw]
    refine ⟨d.busy q ⟨[], V.handler q, w⟩, ?_, rfl, ⟨ha, rfl, hprog⟩, hs.log⟩
    simp [labels, ha, Server.Config.start_step hd hv]

lemma stands_finish (hs : F.Stands c d) {r : W.Request} {t : Trace S} {a : W.Response}
    (ht : c.thread = some ⟨r, t, .done a⟩) :
    ∃ d', d.run (F.labels c .finish) = some d' ∧ F.Stands { c with thread := none, log := c.log ++ [(r, a)] } d' := by
  have hb := hs.thread
  rw [ht] at hb
  rcases hb.cases with ⟨a', ha, hrest, hu⟩ | ⟨q, p, ha, hrest, hu⟩
  · obtain rfl := Program.done.inj hrest
    refine ⟨d, by simp [labels, ht, ha], hs.world, ?_, hs.log.refused ha⟩
    exact hu
  · cases p with
    | call k next => simp at hrest
    | done b =>
      refine ⟨{ d with thread := none, log := d.log ++ [(q, b)] }, ?_, hs.world, rfl, hs.log.handed ha hrest.symm⟩
      simp [labels, ht, ha, Server.Config.finish_step hu]

lemma stands_act (hs : F.Stands c d) {a : H.Act} {w : H.World} (hw : H.act a c.world = some w) :
    ∃ d', d.run [.move (.act a)] = some d' ∧ F.Stands { c with world := w } d' := by
  have hv : H.act a d.world = some w := by rw [hs.world, hw]
  exact ⟨{ d with world := w }, by simp [Server.Config.act_step hv], rfl, hs.thread, hs.log⟩

lemma stands_answer (hs : F.Stands c d) {r : W.Request} {t : Trace S} {k : S.Call} {next : S.Reply k → Program S W.Response}
    {o : H.Outcome} {x : S.Reply k} {w : H.World} (ht : c.thread = some ⟨r, t, .call k next⟩)
    (hw : H.answer k o c.world = some (x, w)) : ∃ d', d.run [.move (.answer o)] = some d' ∧
      F.Stands { c with world := w, thread := some ⟨r, t ++ [⟨k, x⟩], next x⟩ } d' := by
  have hb := hs.thread
  rw [ht] at hb
  rcases hb.cases with ⟨a, -, hrest, -⟩ | ⟨q, p, ha, hrest, hu⟩
  · cases hrest
  · cases p with
    | done b =>
      have hcalls := F.halts r b
      have hcall : F.respond r b = .call k next := hrest.symm
      rw [hcall] at hcalls
      rw [hcalls.1] at hw
      cases hw
    | call j rest =>
      obtain ⟨rfl, hnext⟩ := Program.call.inj hrest
      obtain rfl := eq_of_heq hnext
      have hv : H.answer k o d.world = some (x, w) := by rw [hs.world, hw]
      refine ⟨{ d with world := w, thread := some ⟨q, t ++ [⟨k, x⟩], rest x⟩ }, ?_, rfl, ⟨ha, rfl, rfl⟩, hs.log⟩
      simp [Server.Config.answer_step hu hv]

lemma stands_step (hs : F.Stands c d) (h : c.step l = some c') : ∃ d', d.run (F.labels c l) = some d' ∧ F.Stands c' d' := by
  cases l with
  | start r =>
    obtain ⟨hn, w, hw, rfl⟩ := Server.Config.step_start h
    exact stands_start hs hn hw
  | finish =>
    obtain ⟨r, t, a, ht, rfl⟩ := Server.Config.step_finish h
    exact stands_finish hs ht
  | move m =>
    cases m with
    | act a =>
      obtain ⟨w, hw, rfl⟩ := Server.Config.step_act h
      exact stands_act hs hw
    | answer o =>
      obtain ⟨r, t, k, next, x, w, ht, hw, rfl⟩ := Server.Config.step_answer h
      exact stands_answer hs ht hw

theorem stands_run (hs : F.Stands c d) (h : c.run ls = some c') :
    ∃ d', d.run (c.events F.labels ls) = some d' ∧ F.Stands c' d' := by
  induction ls generalizing c d with
  | nil =>
    obtain rfl := Option.some.inj h
    exact ⟨d, rfl, hs⟩
  | cons l ls ih =>
    obtain ⟨e, he, hrest⟩ := Option.bind_eq_some_iff.mp h
    obtain ⟨m, hm, hsm⟩ := stands_step hs he
    obtain ⟨d', hd, hsd⟩ := ih hsm hrest
    refine ⟨d', ?_, hsd⟩
    rw [Server.Config.events, he, Server.Config.run_append, hm, Option.bind_some, hd]

end Front

end RouterCard.Interaction
