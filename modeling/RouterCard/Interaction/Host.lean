import RouterCard.Interaction.Program

/-! What surrounds a program: the world that answers its calls and that other
parties may change between any two of them. -/

namespace RouterCard.Interaction

structure Host (S : Signature) where
  World : Type
  Outcome : Type
  Act : Type
  answer : (c : S.Call) → Outcome → World → Option (S.Reply c × World)
  act : Act → World → Option World

variable {S : Signature} {H : Host S} {α β : Type}

inductive Move (H : Host S) where
  | answer (o : H.Outcome)
  | act (a : H.Act)

def Move.isAct : Move H → Bool
  | .answer _ => false
  | .act _ => true

lemma acts_append {l k r r' : List (Move H)} {o : H.Outcome} (hl : ∀ m ∈ l, m.isAct = true)
    (h : l ++ r = k ++ .answer o :: r') : ∃ more, k = l ++ more ∧ r = more ++ .answer o :: r' := by
  rcases List.append_eq_append_iff.mp h with ⟨more, rfl, hr⟩ | ⟨more, rfl, hr⟩
  · exact ⟨more, rfl, hr⟩
  · cases more with
    | nil => exact ⟨[], by simp, hr.symm⟩
    | cons m more =>
      obtain ⟨rfl, -⟩ := List.cons.inj hr
      exact absurd (hl (.answer o) (by simp)) Bool.false_ne_true

lemma first_answer {l k r r' : List (Move H)} {o o' : H.Outcome} (hl : ∀ m ∈ l, m.isAct = true)
    (hk : ∀ m ∈ k, m.isAct = true) (h : l ++ .answer o :: r = k ++ .answer o' :: r') :
    l = k ∧ o = o' ∧ r = r' := by
  obtain ⟨more, rfl, hr⟩ := acts_append hl h
  cases more with
  | nil =>
    obtain ⟨ho, hr⟩ := List.cons.inj hr
    exact ⟨by simp, Move.answer.inj ho, hr⟩
  | cons m more =>
    obtain ⟨rfl, -⟩ := List.cons.inj hr
    exact absurd (hk (.answer o) (by simp)) Bool.false_ne_true

structure Session (H : Host S) (α : Type) where
  trace : Trace S
  rest : Program S α
  world : H.World

namespace Session

def result (s : Session H α) : Option α :=
  match s.rest with
  | .done a => some a
  | .call .. => none

lemma result_eq {s : Session H α} {a : α} (h : s.result = some a) : s.rest = .done a := by
  rcases s with ⟨t, rest, w⟩
  cases rest with
  | done b => exact congrArg Program.done (Option.some.inj h)
  | call c next => simp [result] at h

def move (s : Session H α) : Move H → Option (Session H α)
  | .act a => (H.act a s.world).map fun w => { s with world := w }
  | .answer o =>
    match s.rest with
    | .done _ => none
    | .call c next => (H.answer c o s.world).map fun (r, w) => ⟨s.trace ++ [⟨c, r⟩], next r, w⟩

def play : Session H α → List (Move H) → Option (Session H α)
  | s, [] => some s
  | s, m :: ms => (s.move m).bind fun s' => s'.play ms

@[simp] lemma play_nil (s : Session H α) : s.play [] = some s := rfl

@[simp] lemma play_cons (s : Session H α) (m : Move H) (ms : List (Move H)) :
    s.play (m :: ms) = (s.move m).bind fun s' => s'.play ms := rfl

lemma play_append (s : Session H α) (ms ns : List (Move H)) :
    s.play (ms ++ ns) = (s.play ms).bind fun s' => s'.play ns := by
  induction ms generalizing s with
  | nil => rfl
  | cons m ms ih => simp only [List.cons_append, play_cons, Option.bind_assoc, ih]

lemma move_act {s s' : Session H α} {a : H.Act} (h : s.move (.act a) = some s') :
    ∃ w, H.act a s.world = some w ∧ s' = { s with world := w } := by
  obtain ⟨w, hw, rfl⟩ := Option.map_eq_some_iff.mp h
  exact ⟨w, hw, rfl⟩

lemma move_answer {s s' : Session H α} {o : H.Outcome} (h : s.move (.answer o) = some s') :
    ∃ c next r w, s.rest = .call c next ∧ H.answer c o s.world = some (r, w) ∧
      s' = ⟨s.trace ++ [⟨c, r⟩], next r, w⟩ := by
  rcases s with ⟨t, rest, w⟩
  cases rest with
  | done a => simp [move] at h
  | call c next =>
    obtain ⟨⟨r, v⟩, hr, rfl⟩ := Option.map_eq_some_iff.mp h
    exact ⟨c, next, r, v, rfl, hr, rfl⟩

lemma move_call {t : Trace S} {c : S.Call} {next : S.Reply c → Program S α} {o : H.Outcome} {r : S.Reply c}
    {w v : H.World} (h : H.answer c o w = some (r, v)) :
    (⟨t, .call c next, w⟩ : Session H α).move (.answer o) = some ⟨t ++ [⟨c, r⟩], next r, v⟩ := by
  simp only [move, h, Option.map_some]

lemma play_invariant {I : H.World → Prop} {P : S.Call → Prop} {ok : H.Act → Prop}
    (hact : ∀ a w v, ok a → H.act a w = some v → I w → I v)
    (hans : ∀ c o w r v, P c → H.answer c o w = some (r, v) → I w → I v)
    {s s' : Session H α} {ms : List (Move H)} (hp : s.rest.Calls P) (hms : ∀ a, .act a ∈ ms → ok a)
    (h : s.play ms = some s') (hs : I s.world) : I s'.world := by
  induction ms generalizing s with
  | nil => exact Option.some.inj h ▸ hs
  | cons m ms ih =>
    obtain ⟨t, ht, hplay⟩ := Option.bind_eq_some_iff.mp h
    have hms' : ∀ a, .act a ∈ ms → ok a := fun a ha => hms a (.tail m ha)
    cases m with
    | act a =>
      obtain ⟨w, hw, rfl⟩ := move_act ht
      exact ih (s := { s with world := w }) hp hms' hplay (hact a _ w (hms a (.head ms)) hw hs)
    | answer o =>
      obtain ⟨c, next, r, w, hc, hr, rfl⟩ := move_answer ht
      rw [hc] at hp
      exact ih (hp.2 r) hms' hplay (hans c o _ r w hp.1 hr hs)

lemma play_acts_invariant {I : H.World → Prop} {K : H.Act → Prop}
    (hact : ∀ a w v, K a → H.act a w = some v → I w → I v) {s s' : Session H α} {ms : List (Move H)}
    (hacts : ∀ m ∈ ms, m.isAct = true) (hms : ∀ a, .act a ∈ ms → K a) (h : s.play ms = some s')
    (hs : I s.world) : I s'.world := by
  induction ms generalizing s with
  | nil => exact Option.some.inj h ▸ hs
  | cons m ms ih =>
    obtain ⟨t, ht, hplay⟩ := Option.bind_eq_some_iff.mp h
    cases m with
    | answer o => exact absurd (hacts _ (.head ms)) Bool.false_ne_true
    | act a =>
      obtain ⟨w, hw, rfl⟩ := move_act ht
      exact ih (fun n hn => hacts n (.tail _ hn)) (fun b hb => hms b (.tail _ hb)) hplay
        (hact a _ w (hms a (.head ms)) hw hs)

lemma play_trace {s s' : Session H α} {ms : List (Move H)} (h : s.play ms = some s') :
    ∃ more, s'.trace = s.trace ++ more := by
  induction ms generalizing s with
  | nil => exact ⟨[], by rw [← Option.some.inj h, List.append_nil]⟩
  | cons m ms ih =>
    obtain ⟨t, ht, hp⟩ := Option.bind_eq_some_iff.mp h
    obtain ⟨more, hmore⟩ := ih hp
    cases m with
    | act a =>
      obtain ⟨w, -, rfl⟩ := move_act ht
      exact ⟨more, hmore⟩
    | answer o =>
      obtain ⟨c, next, r, w, -, -, rfl⟩ := move_answer ht
      exact ⟨⟨c, r⟩ :: more, by rw [hmore, List.append_assoc, List.singleton_append]⟩

lemma play_done {s' : Session H α} {t : Trace S} {a : α} {w : H.World} {ms : List (Move H)}
    (h : (⟨t, .done a, w⟩ : Session H α).play ms = some s') :
    (∀ m ∈ ms, m.isAct = true) ∧ s'.trace = t ∧ s'.rest = .done a := by
  induction ms generalizing w with
  | nil =>
    obtain rfl := Option.some.inj h
    exact ⟨by simp, rfl, rfl⟩
  | cons m ms ih =>
    obtain ⟨u, hu, hs⟩ := Option.bind_eq_some_iff.mp h
    cases m with
    | answer o => simp [move] at hu
    | act a =>
      obtain ⟨v, -, rfl⟩ := move_act hu
      obtain ⟨hm, ht, hr⟩ := ih hs
      exact ⟨by simpa [Move.isAct] using hm, ht, hr⟩

-- A run that gets past a call: the others act, the call is answered, and the run goes on.
lemma play_call {t t' : Trace S} {c : S.Call} {next : S.Reply c → Program S α} {a : α} {w w' : H.World}
    {ms : List (Move H)} (h : (⟨t, .call c next, w⟩ : Session H α).play ms = some ⟨t', .done a, w'⟩) :
    ∃ pre o post v r u, ms = pre ++ .answer o :: post ∧ (∀ m ∈ pre, m.isAct = true) ∧
      (⟨t, .call c next, w⟩ : Session H α).play pre = some ⟨t, .call c next, v⟩ ∧
      H.answer c o v = some (r, u) ∧
      (⟨t ++ [⟨c, r⟩], next r, u⟩ : Session H α).play post = some ⟨t', .done a, w'⟩ := by
  induction ms generalizing w with
  | nil => simp at h
  | cons m ms ih =>
    obtain ⟨s, hs, hp⟩ := Option.bind_eq_some_iff.mp h
    cases m with
    | act b =>
      obtain ⟨v, hv, rfl⟩ := move_act hs
      obtain ⟨pre, o, post, v', r, u, rfl, hpre, hplay, hr, hpost⟩ := ih hp
      refine ⟨.act b :: pre, o, post, v', r, u, rfl, by simpa [Move.isAct] using hpre, ?_, hr, hpost⟩
      rw [play_cons, hs]
      exact hplay
    | answer o =>
      obtain ⟨c', next', r, v, hc, hr, rfl⟩ := move_answer hs
      cases hc
      exact ⟨[], o, ms, w, r, v, rfl, by simp, rfl, hr, hp⟩

lemma play_of_exec {f : S.Call → H.Outcome} {p : Program S α} {a : α} {w v : H.World}
    (h : p.exec (fun c w => H.answer c (f c) w) w = some (a, v)) (t : Trace S) :
    ∃ ms t', (⟨t, p, w⟩ : Session H α).play ms = some ⟨t', .done a, v⟩ := by
  induction p generalizing w t with
  | done b =>
    obtain ⟨rfl, rfl⟩ := Program.exec_done_elim h
    exact ⟨[], t, rfl⟩
  | call c next ih =>
    obtain ⟨r, u, hr, hu⟩ := Program.exec_call_elim h
    obtain ⟨ms, t', hms⟩ := ih r hu (t ++ [⟨c, r⟩])
    refine ⟨.answer (f c) :: ms, t', ?_⟩
    rw [play_cons, move_call hr]
    exact hms

end Session

end RouterCard.Interaction
