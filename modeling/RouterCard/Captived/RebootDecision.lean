import RouterCard.Captived.ModeChange

namespace RouterCard.Captived.RebootDecision

open Text Interaction Mode ModeChange

section histories

variable (sys : System)

-- A reboot leaves the files; what systemctl reports then is an outcome of the next change.
inductive Event where
  | change (mode : Bytes) (o : Outcomes)
  | boot

def after : Event → World → Option World
  | .change mode o, w => ((setRouterMode sys mode).exec (respond sys o) w).map Prod.snd
  | .boot, w => some (World.initial w.env w.files)

def history : List Event → World → Option World
  | [], w => some w
  | e :: es, w => (after sys e w).bind (history es)

def Called (es : List Event) (w : World) (mode : Bytes) (o : Outcomes) (u : World) : Prop :=
  ∃ pre post, es = pre ++ .change mode o :: post ∧ history sys pre w = some u

variable (mode : Bytes) (o : Outcomes) (w : World)

def configured : Option Bytes := ((routerModeConfig sys).exec (respond sys fun _ => .done) w).bind Prod.fst

def running : Option Bytes := runningMode (pipeReply (o (.popen (targetsCommand sys)))).result

def Relinks : Prop := ∃ v, (setRouterModeConfig sys mode).exec (respond sys o) w = some (true, v)

def trace : Trace calls := ((setRouterMode sys mode).observe (respond sys o) w).1

def Reboots : Prop := ∃ rc : ℤ, (⟨.shell (rebootCommand sys), rc⟩ : Sigma calls.Reply) ∈ trace sys mode o w

def AsDocumented : Prop := Reboots sys mode o w ↔ configured sys w ≠ some mode ∨ running sys o ≠ some mode

def Returns : Prop := running sys o = some mode ∧ configured sys w ≠ some mode

end histories

variable {sys : System} {mode : Bytes} {o : Outcomes} {w u v : World} {b : Bool} {es : List Event}

section decision

variable (sys mode) in
lemma calls_setRouterModeConfig (command : Bytes) : (setRouterModeConfig sys mode).Calls fun c : Call => c ≠ .shell command := by
  unfold setRouterModeConfig
  split_ifs
  · trivial
  · refine ⟨Call.noConfusion, fun stat : Option FileKind => ?_⟩
    rcases stat with _ | _ | _ | _ | _
    · exact ⟨Call.noConfusion, fun _ => trivial⟩
    · exact ⟨Call.noConfusion, fun _ => ⟨Call.noConfusion, fun _ => trivial⟩⟩
    all_goals trivial

lemma setRouterMode_eq (hm : isValidMode mode = true) : setRouterMode sys mode =
    setRouterModeConfig sys mode >>= fun linked =>
      if linked = true then .call (S := calls) (.popen (targetsCommand sys)) fun r =>
        if some mode ≠ runningMode (PopenReply.result r) then
          .call (S := calls) (.shell (rebootCommand sys)) fun rc => .done (decide (rc = 0))
        else .done true
      else .done false := by
  rw [setRouterMode, hm]
  refine congrArg (setRouterModeConfig sys mode >>= ·) (funext fun linked : Bool => ?_)
  cases linked with
  | false => rfl
  | true => rfl

lemma respond_targets {r : PopenReply} (h : respond sys o (.popen (targetsCommand sys)) w = some (r, v)) :
    runningMode r.result = running sys o := by
  have hc : ∀ e, printenv sys (targetsCommand sys) e = none := printenv_eq_none (by decide) (by decide)
  rw [answer_popen_reply hc h, running]

lemma reboots_iff (hm : isValidMode mode = true) (hl : Relinks sys mode o w)
    (hx : (setRouterMode sys mode).exec (respond sys o) w = some (b, v)) :
    Reboots sys mode o w ↔ running sys o ≠ some mode := by
  obtain ⟨u, hu⟩ := hl
  obtain ⟨t, ht⟩ : ∃ t, (setRouterModeConfig sys mode).observe (respond sys o) w = (t, some (true, u)) :=
    ⟨_, Prod.ext rfl ((Program.observe_result _ w).trans hu)⟩
  have hquiet : ∀ rc : ℤ, (⟨.shell (rebootCommand sys), rc⟩ : Sigma calls.Reply) ∉ t := by
    intro rc hrc
    have hcalls := (calls_setRouterModeConfig sys mode (rebootCommand sys)).observe (respond sys o) w
    rw [ht] at hcalls
    exact hcalls _ hrc rfl
  rw [setRouterMode_eq hm, Program.exec_bind, hu, Option.bind_some] at hx
  obtain ⟨r, x, hr, hx⟩ := Program.exec_call_elim hx
  have hrun := respond_targets hr
  rw [Reboots, trace, setRouterMode_eq hm, Program.observe_bind_some _ ht]
  change (∃ rc : ℤ, _ ∈ t ++ (Program.observe _ (.call (S := calls) (.popen (targetsCommand sys)) _) u).1) ↔ _
  rw [Program.observe_call_some hr]
  rw [hrun] at hx ⊢
  by_cases hmode : running sys o = some mode
  · refine iff_of_false ?_ (not_not.mpr hmode)
    rintro ⟨rc, hrc⟩
    rw [hmode] at hrc
    simp [Program.observe] at hrc
    exact hquiet rc hrc
  · refine iff_of_true ?_ hmode
    have hne : some mode ≠ running sys o := fun he => hmode he.symm
    rw [if_pos hne] at hx ⊢
    obtain ⟨rc, y, hrc, -⟩ := Program.exec_call_elim hx
    rw [Program.observe_call_some hrc]
    exact ⟨rc, by simp⟩

theorem asDocumented_iff (hm : isValidMode mode = true) (hl : Relinks sys mode o w)
    (hx : (setRouterMode sys mode).exec (respond sys o) w = some (b, v)) :
    AsDocumented sys mode o w ↔ ¬ Returns sys mode o w := by
  rw [AsDocumented, reboots_iff hm hl hx, Returns, iff_or_self, not_and']

end decision

section runs

lemma history_append (pre post : List Event) (w : World) :
    history sys (pre ++ post) w = (history sys pre w).bind (history sys post) := by
  induction pre generalizing w with
  | nil => rfl
  | cons e pre ih =>
    rw [List.cons_append, history, history, Option.bind_assoc]
    exact congrArg ((after sys e w).bind ·) (funext fun v => ih v)

lemma Called.returned (hc : Called sys es w mode o u) (hrun : history sys es w = some v) :
    ∃ b x, (setRouterMode sys mode).exec (respond sys o) u = some (b, x) := by
  obtain ⟨pre, post, rfl, hpre⟩ := hc
  rw [history_append, hpre, Option.bind_some] at hrun
  obtain ⟨x, hx, -⟩ := Option.bind_eq_some_iff.mp hrun
  obtain ⟨⟨b, x⟩, hbx, -⟩ := Option.map_eq_some_iff.mp hx
  exact ⟨b, x, hbx⟩

-- Every change decides on the running mode alone, so that a history decides as documented exactly if
-- it never comes back to the running mode from another one that was configured in between.
theorem history_asDocumented_iff (hrun : history sys es w = some v) :
    (∀ mode o u, Called sys es w mode o u → isValidMode mode = true → Relinks sys mode o u →
      (Reboots sys mode o u ↔ running sys o ≠ some mode)) ∧
    ((∀ mode o u, Called sys es w mode o u → isValidMode mode = true → Relinks sys mode o u → AsDocumented sys mode o u) ↔
      ∀ mode o u, Called sys es w mode o u → isValidMode mode = true → Relinks sys mode o u → ¬ Returns sys mode o u) := by
  refine ⟨fun mode o u hc hm hl => ?_, fun h mode o u hc hm hl => ?_, fun h mode o u hc hm hl => ?_⟩
  · obtain ⟨b, x, hx⟩ := hc.returned hrun
    exact reboots_iff hm hl hx
  · obtain ⟨b, x, hx⟩ := hc.returned hrun
    exact (asDocumented_iff hm hl hx).mp (h mode o u hc hm hl)
  · obtain ⟨b, x, hx⟩ := hc.returned hrun
    exact (asDocumented_iff hm hl hx).mpr (h mode o u hc hm hl)

end runs

section samples

-- The card runs in passthrough mode, and does not reboot.
def stuck : Outcomes
  | .popen _ => .reply (bytes "passthrough.target loaded active active") 0
  | .shell _ => .reply [] 256
  | _ => .done

def away : Event := .change MODE_SECURE_HOST stuck

def back : Event := .change MODE_PASSTHROUGH stuck

def left : World := (after Sample.bare away passthrough).getD passthrough

lemma history_away : history Sample.bare [away] passthrough = some left := rfl

lemma history_back : ∃ v, history Sample.bare [away, back] passthrough = some v := ⟨_, rfl⟩

lemma called_back : Called Sample.bare [away, back] passthrough MODE_PASSTHROUGH stuck left := ⟨[away], [], rfl, history_away⟩

lemma relinks_back : Relinks Sample.bare MODE_PASSTHROUGH stuck left := ⟨_, rfl⟩

lemma configured_left : configured Sample.bare left = some MODE_SECURE_HOST := rfl

lemma running_stuck : running Sample.bare stuck = some MODE_PASSTHROUGH := by decide

theorem history_asDocumented_away :
    (∀ mode o u, Called Sample.bare [away] passthrough mode o u → isValidMode mode = true →
      Relinks Sample.bare mode o u → (Reboots Sample.bare mode o u ↔ running Sample.bare o ≠ some mode)) ∧
    ((∀ mode o u, Called Sample.bare [away] passthrough mode o u → isValidMode mode = true →
      Relinks Sample.bare mode o u → AsDocumented Sample.bare mode o u) ↔
    ∀ mode o u, Called Sample.bare [away] passthrough mode o u → isValidMode mode = true →
      Relinks Sample.bare mode o u → ¬ Returns Sample.bare mode o u) := history_asDocumented_iff history_away

theorem returning_mode_not_rebooted : ∃ v, history Sample.bare [away, back] passthrough = some v ∧
    ¬ ∀ mode o u, Called Sample.bare [away, back] passthrough mode o u → isValidMode mode = true →
      Relinks Sample.bare mode o u → AsDocumented Sample.bare mode o u := by
  obtain ⟨v, hv⟩ := history_back
  refine ⟨v, hv, fun h => ?_⟩
  have hdoc := h _ _ _ called_back (by decide) relinks_back
  obtain ⟨b, x, hx⟩ := called_back.returned hv
  have hreboots := hdoc.mpr (.inl (by rw [configured_left]; decide))
  exact (reboots_iff (by decide) relinks_back hx).mp hreboots running_stuck

end samples

end RouterCard.Captived.RebootDecision
