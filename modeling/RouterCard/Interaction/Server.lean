import RouterCard.Interaction.Host

/-! A single-threaded server: one request is served at a time, while the other
parties of its host go on acting. -/

namespace RouterCard.Interaction

structure Server (S : Signature) (H : Host S) where
  Request : Type
  Response : Type
  handler : Request → Program S Response
  accept : Request → H.World → Option H.World

variable {S : Signature} {H : Host S}

namespace Server

structure Thread (V : Server S H) where
  request : V.Request
  trace : Trace S
  rest : Program S V.Response

structure Config (V : Server S H) where
  world : H.World
  thread : Option V.Thread
  log : List (V.Request × V.Response)

inductive Label (V : Server S H) where
  | start (r : V.Request)
  | move (m : Move H)
  | finish

variable {V : Server S H}

def Thread.session (t : V.Thread) (w : H.World) : Session H V.Response := ⟨t.trace, t.rest, w⟩

def Config.idle (w : H.World) : V.Config := ⟨w, none, []⟩

def Config.busy (c : V.Config) (r : V.Request) (s : Session H V.Response) : V.Config :=
  { c with world := s.world, thread := some ⟨r, s.trace, s.rest⟩ }

def Config.nextCall (c : V.Config) : Option S.Call :=
  match c.thread with
  | some ⟨_, _, .call k _⟩ => some k
  | _ => none

lemma Config.thread_of_nextCall {c : V.Config} {k : S.Call} (h : c.nextCall = some k) :
    ∃ r t next, c.thread = some ⟨r, t, .call k next⟩ := by
  unfold nextCall at h
  split at h
  · next r t k' next ht =>
    obtain rfl := Option.some.inj h
    exact ⟨r, t, next, ht⟩
  · simp at h

def Config.step (c : V.Config) : V.Label → Option V.Config
  | .start r =>
    match c.thread with
    | none => (V.accept r c.world).map fun w => c.busy r ⟨[], V.handler r, w⟩
    | some _ => none
  | .finish =>
    match c.thread with
    | some ⟨r, _, .done a⟩ => some { c with thread := none, log := c.log ++ [(r, a)] }
    | _ => none
  | .move m =>
    match c.thread with
    | some t => ((t.session c.world).move m).map fun s => c.busy t.request s
    | none =>
      match m with
      | .act a => (H.act a c.world).map fun w => { c with world := w }
      | .answer _ => none

def Config.run : V.Config → List V.Label → Option V.Config
  | c, [] => some c
  | c, l :: ls => (c.step l).bind fun c' => c'.run ls

@[simp] lemma Config.run_nil (c : V.Config) : c.run [] = some c := rfl

@[simp] lemma Config.run_cons (c : V.Config) (l : V.Label) (ls : List V.Label) :
    c.run (l :: ls) = (c.step l).bind fun c' => c'.run ls := rfl

lemma Config.run_append (c : V.Config) (ls ks : List V.Label) :
    c.run (ls ++ ks) = (c.run ls).bind fun c' => c'.run ks := by
  induction ls generalizing c with
  | nil => rfl
  | cons l ls ih => simp only [List.cons_append, run_cons, Option.bind_assoc, ih]

lemma Config.step_cases {c d : V.Config} {l : V.Label} (h : c.step l = some d) :
    (∃ r w, l = .start r ∧ c.thread = none ∧ V.accept r c.world = some w ∧
      d = c.busy r ⟨[], V.handler r, w⟩) ∨
    (∃ r t a, l = .finish ∧ c.thread = some ⟨r, t, .done a⟩ ∧
      d = { c with thread := none, log := c.log ++ [(r, a)] }) ∨
    (∃ t m s, l = .move m ∧ c.thread = some t ∧ (t.session c.world).move m = some s ∧
      d = c.busy t.request s) ∨
    (∃ a w, l = .move (.act a) ∧ c.thread = none ∧ H.act a c.world = some w ∧
      d = { c with world := w }) := by
  rcases c with ⟨w, thread, log⟩
  cases l with
  | start r =>
    cases thread with
    | some t => simp [step] at h
    | none =>
      obtain ⟨v, hv, rfl⟩ := Option.map_eq_some_iff.mp h
      exact .inl ⟨r, v, rfl, rfl, hv, rfl⟩
  | finish =>
    cases thread with
    | none => simp [step] at h
    | some t =>
      rcases t with ⟨r, t, rest⟩
      cases rest with
      | call k next => simp [step] at h
      | done a => exact .inr (.inl ⟨r, t, a, rfl, rfl, (Option.some.inj h).symm⟩)
  | move m =>
    cases thread with
    | some t =>
      obtain ⟨s, hs, rfl⟩ := Option.map_eq_some_iff.mp h
      exact .inr (.inr (.inl ⟨t, m, s, rfl, rfl, hs, rfl⟩))
    | none =>
      cases m with
      | answer o => simp [step] at h
      | act a =>
        obtain ⟨v, hv, rfl⟩ := Option.map_eq_some_iff.mp h
        exact .inr (.inr (.inr ⟨a, v, rfl, rfl, hv, rfl⟩))

section steps

variable {c d : V.Config}

lemma Config.step_start {r : V.Request} (h : c.step (.start r) = some d) :
    c.thread = none ∧ ∃ w, V.accept r c.world = some w ∧ d = c.busy r ⟨[], V.handler r, w⟩ := by
  rcases Config.step_cases h with ⟨r', w, hl, hn, hw, rfl⟩ | ⟨_, _, _, hl, _⟩ | ⟨_, _, _, hl, _⟩ | ⟨_, _, hl, _⟩
  · obtain rfl := Label.start.inj hl
    exact ⟨hn, w, hw, rfl⟩
  all_goals simp at hl

lemma Config.step_finish (h : c.step .finish = some d) :
    ∃ r k a, c.thread = some ⟨r, k, .done a⟩ ∧ d = { c with thread := none, log := c.log ++ [(r, a)] } := by
  rcases Config.step_cases h with ⟨_, _, hl, _⟩ | ⟨r, k, a, _, hn, rfl⟩ | ⟨_, _, _, hl, _⟩ | ⟨_, _, hl, _⟩
  · simp at hl
  · exact ⟨r, k, a, hn, rfl⟩
  all_goals simp at hl

lemma Config.step_act {a : H.Act} (h : c.step (.move (.act a)) = some d) :
    ∃ w, H.act a c.world = some w ∧ d = { c with world := w } := by
  rcases Config.step_cases h with ⟨_, _, hl, _⟩ | ⟨_, _, _, hl, _⟩ | ⟨t, m, s, hl, hn, hm, rfl⟩ | ⟨b, w, hl, _, hw, rfl⟩
  · simp at hl
  · simp at hl
  · obtain rfl := Label.move.inj hl
    obtain ⟨w, hw, rfl⟩ := Session.move_act hm
    exact ⟨w, hw, by simp [Config.busy, Thread.session, hn]⟩
  · obtain rfl := Move.act.inj (Label.move.inj hl)
    exact ⟨w, hw, rfl⟩

lemma Config.step_answer {o : H.Outcome} (h : c.step (.move (.answer o)) = some d) :
    ∃ r k q next x w, c.thread = some ⟨r, k, .call q next⟩ ∧ H.answer q o c.world = some (x, w) ∧
      d = { c with world := w, thread := some ⟨r, k ++ [⟨q, x⟩], next x⟩ } := by
  rcases Config.step_cases h with ⟨_, _, hl, _⟩ | ⟨_, _, _, hl, _⟩ | ⟨⟨r, k, p⟩, m, s, hl, hn, hm, rfl⟩ | ⟨_, _, hl, _⟩
  · simp at hl
  · simp at hl
  · obtain rfl := Label.move.inj hl
    obtain ⟨q, next, x, w, rfl, hw, rfl⟩ := Session.move_answer hm
    exact ⟨r, k, q, next, x, w, hn, hw, rfl⟩
  · simp at hl

lemma Config.start_step {r : V.Request} {w : H.World} (hn : c.thread = none) (hw : V.accept r c.world = some w) :
    c.step (.start r) = some (c.busy r ⟨[], V.handler r, w⟩) := by
  simp only [Config.step, hn, hw, Option.map_some]

lemma Config.finish_step {r : V.Request} {k : Trace S} {a : V.Response} (hn : c.thread = some ⟨r, k, .done a⟩) :
    c.step .finish = some { c with thread := none, log := c.log ++ [(r, a)] } := by
  simp only [Config.step, hn]

lemma Config.act_step {a : H.Act} {w : H.World} (hw : H.act a c.world = some w) :
    c.step (.move (.act a)) = some { c with world := w } := by
  rcases c with ⟨v, thread, log⟩
  cases thread with
  | none => simpa [Config.step] using hw
  | some t =>
    have hw' : H.act a v = some w := hw
    simp [Config.step, Session.move, Thread.session, Config.busy, hw']

lemma Config.answer_step {r : V.Request} {k : Trace S} {q : S.Call} {next : S.Reply q → Program S V.Response}
    {o : H.Outcome} {x : S.Reply q} {w : H.World} (hn : c.thread = some ⟨r, k, .call q next⟩)
    (hw : H.answer q o c.world = some (x, w)) :
    c.step (.move (.answer o)) = some { c with world := w, thread := some ⟨r, k ++ [⟨q, x⟩], next x⟩ } := by
  simp only [Config.step, hn, Thread.session, Session.move_call hw, Option.map_some, Config.busy]

end steps

lemma Config.run_snoc {c d e : V.Config} {ls : List V.Label} {l : V.Label} (h : c.run ls = some d)
    (hl : d.step l = some e) : c.run (ls ++ [l]) = some e := by
  rw [run_append, h]
  simpa using hl

def Label.started : V.Label → Option V.Request
  | .start r => some r
  | _ => none

def Config.taken (c : V.Config) : List V.Request := c.log.map Prod.fst ++ (c.thread.map Thread.request).toList

lemma Config.taken_step {c d : V.Config} {l : V.Label} (h : c.step l = some d) : d.taken = c.taken ++ l.started.toList := by
  rcases Config.step_cases h with ⟨r, w, rfl, hn, -, rfl⟩ | ⟨r, k, a, rfl, ht, rfl⟩ | ⟨t, m, s, rfl, ht, -, rfl⟩ |
    ⟨a, w, rfl, hn, -, rfl⟩
  · simp [taken, busy, hn, Label.started]
  · simp [taken, ht, Label.started]
  · simp [taken, busy, ht, Label.started]
  · simp [taken, hn, Label.started]

lemma Config.taken_run {c d : V.Config} {ls : List V.Label} (h : c.run ls = some d) :
    d.taken = c.taken ++ ls.filterMap Label.started := by
  induction ls generalizing c with
  | nil =>
    obtain rfl := Option.some.inj h
    simp
  | cons l ls ih =>
    obtain ⟨e, he, hd⟩ := Option.bind_eq_some_iff.mp h
    rw [ih hd, taken_step he, List.append_assoc]
    cases hl : l.started <;> simp [hl]

def Config.Visits (c : V.Config) (ls : List V.Label) (d : V.Config) : Prop :=
  ∃ pre post, ls = pre ++ post ∧ c.run pre = some d

def Config.Takes (c : V.Config) (ls : List V.Label) (d : V.Config) (l : V.Label) : Prop :=
  ∃ pre post, ls = pre ++ l :: post ∧ c.run pre = some d

lemma Config.Takes.step {c d f : V.Config} {ls : List V.Label} {l : V.Label} (h : c.Takes ls d l)
    (hr : c.run ls = some f) : ∃ e, d.step l = some e ∧ c.Visits ls e := by
  obtain ⟨pre, post, rfl, hd⟩ := h
  rw [run_append, hd, Option.bind_some, run_cons] at hr
  obtain ⟨e, he, -⟩ := Option.bind_eq_some_iff.mp hr
  exact ⟨e, he, pre ++ [l], post, by simp, run_snoc hd he⟩

lemma Config.Visits.invariant {I : V.Config → Prop} {c : V.Config} {ls : List V.Label} (hc : I c)
    (hs : ∀ d e l, c.Takes ls d l → I d → d.step l = some e → I e) {d : V.Config} (h : c.Visits ls d) : I d := by
  obtain ⟨pre, post, rfl, hd⟩ := h
  induction pre using List.reverseRecOn generalizing d post with
  | nil => exact Option.some.inj hd ▸ hc
  | append_singleton pre l ih =>
    rw [run_append] at hd
    obtain ⟨e, he, hl⟩ := Option.bind_eq_some_iff.mp hd
    have htake : c.Takes (pre ++ [l] ++ post) e l := ⟨pre, post, by simp, he⟩
    refine hs e d l htake ?_ (by simpa [Option.bind_eq_some_iff] using hl)
    refine ih (l :: post) he fun d' e' l' ht => hs d' e' l' ?_
    simpa using ht

lemma Config.Visits.fresh {c d : V.Config} {ls : List V.Label} (h : c.Visits ls d) (hc : c.thread = none) :
    ∀ t, d.thread = some t → t.trace = [] → t.rest = V.handler t.request := by
  refine h.invariant (I := fun d => ∀ t, d.thread = some t → t.trace = [] → t.rest = V.handler t.request)
    (fun t ht => ?_) fun d e l _ hd hst => ?_
  · rw [hc] at ht
    cases ht
  · intro t ht htrace
    rcases Config.step_cases hst with ⟨r, w, -, -, -, rfl⟩ | ⟨r, k, a, -, -, rfl⟩ | ⟨u, m, s, -, hu, hm, rfl⟩ |
      ⟨a, w, -, hn, -, rfl⟩
    · obtain rfl := Option.some.inj ht
      rfl
    · cases ht
    · obtain rfl := Option.some.inj ht
      cases m with
      | act a =>
        obtain ⟨w, -, rfl⟩ := Session.move_act hm
        exact hd u hu htrace
      | answer o =>
        obtain ⟨k, next, x, w, -, -, rfl⟩ := Session.move_answer hm
        exact absurd htrace (List.append_ne_nil_of_right_ne_nil _ (List.cons_ne_nil _ _))
    · exact hd t ht htrace

inductive Reachable (init : V.Config → Prop) (ok : V.Config → V.Label → Prop) : V.Config → Prop
  | init {c} : init c → Reachable init ok c
  | step {c d l} : Reachable init ok c → ok c l → c.step l = some d → Reachable init ok d

lemma Reachable.induct {init : V.Config → Prop} {ok : V.Config → V.Label → Prop} {I : V.Config → Prop}
    (h₀ : ∀ c, init c → I c) (hs : ∀ c d l, I c → ok c l → c.step l = some d → I d)
    {c : V.Config} (hc : Reachable init ok c) : I c := by
  induction hc with
  | init h => exact h₀ _ h
  | step _ hok hst ih => exact hs _ _ _ ih hok hst

lemma Reachable.run {init : V.Config → Prop} {ok : V.Config → V.Label → Prop} {c d : V.Config}
    {ls : List V.Label} (hc : Reachable init ok c) (hok : ∀ l ∈ ls, ∀ c, ok c l) (h : c.run ls = some d) :
    Reachable init ok d := by
  induction ls generalizing c with
  | nil => exact Option.some.inj h ▸ hc
  | cons l ls ih =>
    obtain ⟨e, he, hd⟩ := Option.bind_eq_some_iff.mp h
    exact ih (.step hc (hok l (.head ls) c) he) (fun k hk => hok k (.tail l hk)) hd

end Server

end RouterCard.Interaction
