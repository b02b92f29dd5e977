import RouterCard.Captived.ModeChange

namespace RouterCard.Captived.BootMode

open Text Interaction ModeChange

variable (sys : System)

-- The files that PUT /mode changes, if any, are the link.
def ModeCall : Call → Prop
  | .popen _ | .shell _ | .lstat _ | .readlink .. | .abort _ => True
  | .remove path | .symlink _ path => path = modeLink sys
  | _ => False

section calls

variable {sys}

lemma calls_routerMode : (Mode.routerMode sys).Calls (ModeCall sys) := ⟨trivial, fun _ => trivial⟩

lemma calls_setSymlinkTarget (target : Bytes) : (sys.setSymlinkTarget target LINK_MODE).Calls (ModeCall sys) := by
  refine ⟨trivial, fun stat : Option FileKind => ?_⟩
  rcases stat with _ | _ | _ | _ | _
  · exact ⟨rfl, fun _ => trivial⟩
  · exact ⟨rfl, fun _ => ⟨rfl, fun _ => trivial⟩⟩
  all_goals trivial

lemma calls_setRouterMode (mode : Bytes) : (Mode.setRouterMode sys mode).Calls (ModeCall sys) := by
  unfold Mode.setRouterMode
  split_ifs with hm
  · trivial
  · refine Program.Calls.bind ?_ fun linked => ?_
    · rw [Mode.setRouterModeConfig, if_neg hm]
      exact calls_setSymlinkTarget _
    · cases linked with
      | false => trivial
      | true =>
        refine calls_routerMode.bind fun running => ?_
        split_ifs
        · exact ⟨trivial, fun _ => trivial⟩
        · trivial

lemma calls_routerModeConfig : (Mode.routerModeConfig sys).Calls (ModeCall sys) := by
  refine Program.Calls.bind (p := sys.symlinkTarget LINK_MODE) ⟨trivial, fun _ => trivial⟩ fun link => ?_
  cases link with
  | none => trivial
  | some link =>
    dsimp only
    split
    · trivial
    · exact ⟨trivial, fun r => r.elim⟩

lemma calls_put (body : Body) : (Mode.put sys body).Calls (ModeCall sys) := by
  unfold Mode.put
  split
  · split_ifs
    · trivial
    · refine (calls_setRouterMode _).bind fun changed => ?_
      cases changed with
      | false => trivial
      | true => exact calls_routerModeConfig.bind fun mode => by cases mode <;> trivial
  · trivial

end calls

def putMode (body : Body) : Request := .http .put URI_ROUTER_MODE body

variable {sys} {w v : World} {o : Outcome}

lemma answer_link {c : Call} {r : c.Reply} {t : Bytes} (hc : ModeCall sys c) (hw : w.files (modeLink sys) = some (.link t))
    (hrm : ¬ (c = .remove (modeLink sys) ∧ o = .done)) (h : answer sys c o w = some (r, v)) :
    v.files (modeLink sys) = w.files (modeLink sys) := by
  cases c with
  | popen command => rw [answer_popen_files h]
  | shell command => rw [answer_shell_files h]
  | lstat path => rw [(answer_lstat h).1]
  | readlink path size => rw [(answer_readlink h).1]
  | abort a => exact (answer_abort h).elim
  | remove path =>
    obtain rfl : path = modeLink sys := hc
    rcases answer_remove h with ⟨rfl, -, -⟩ | ⟨-, rfl⟩
    · exact absurd ⟨rfl, rfl⟩ hrm
    · rfl
  | symlink target path =>
    obtain rfl : path = modeLink sys := hc
    rcases answer_symlink h with ⟨-, hn, -, -⟩ | ⟨-, -, rfl⟩
    · simp [hw] at hn
    · rfl
  | _ => exact hc.elim

abbrev Config (sys : System) := (daemon sys).Config

abbrev Label (sys : System) := (daemon sys).Label

def Removes (c : Config sys) (l : Label sys) : Prop :=
  c.nextCall = some (.remove (modeLink sys)) ∧ l = .move (.answer .done)

def IsPutMode : Label sys → Prop
  | .start r => ∃ body, r = putMode body
  | _ => True

-- The link leads to `t`, and what is left of the request makes calls of PUT /mode only.
structure Linked (t : Bytes) (c : Config sys) : Prop where
  link : c.world.files (modeLink sys) = some (.link t)
  calls : ∀ th, c.thread = some th → th.rest.Calls (ModeCall sys)

lemma Linked.step {t : Bytes} {c d : Config sys} {l : Label sys} (hc : Linked t c) (hl : IsPutMode l)
    (hrm : ¬ Removes c l) (h : c.step l = some d) : Linked t d := by
  rcases Server.Config.step_cases h with ⟨r, w, rfl, -, ha, rfl⟩ | ⟨r, tr, a, rfl, -, rfl⟩ | ⟨th, m, s, rfl, ht, hm, rfl⟩ |
    ⟨a, w, rfl, ht, ha, rfl⟩
  · obtain ⟨body, rfl⟩ := hl
    obtain rfl : c.world = w := Option.some.inj ha
    refine ⟨hc.link, fun th hth => ?_⟩
    obtain rfl := Option.some.inj hth
    have hcalls : (some <$> Mode.put sys body).Calls (ModeCall sys) := by
      rw [← bind_pure_comp]
      exact (calls_put body).bind fun _ => trivial
    exact hcalls
  · exact ⟨hc.link, fun th hth => by simp at hth⟩
  · have hcalls := hc.calls th ht
    cases m with
    | act a =>
      obtain ⟨w, hw, rfl⟩ := Session.move_act hm
      refine ⟨(congrFun (act_files hw) _).trans hc.link, fun th' hth => ?_⟩
      obtain rfl := Option.some.inj hth
      exact hcalls
    | answer o =>
      obtain ⟨k, next, r, w, hk, hr, rfl⟩ := Session.move_answer hm
      rcases th with ⟨req, tr, rest⟩
      obtain rfl : rest = .call k next := hk
      have hnext : c.nextCall = some k := by rw [Server.Config.nextCall, ht]
      have hkeep := answer_link hcalls.1 hc.link (fun ⟨hk, ho⟩ => hrm ⟨hk ▸ hnext, ho ▸ rfl⟩) hr
      refine ⟨hkeep.trans hc.link, fun th' hth => ?_⟩
      obtain rfl := Option.some.inj hth
      exact hcalls.2 r
  · exact ⟨(congrFun (act_files ha) _).trans hc.link, fun th hth => by simp [ht] at hth⟩

lemma link_of_removes {t : Bytes} {c d : Config sys} {l : Label sys} (hc : c.world.files (modeLink sys) = some (.link t))
    (hrm : Removes c l) (h : c.step l = some d) : d.world.files (modeLink sys) = none := by
  obtain ⟨hn, rfl⟩ := hrm
  obtain ⟨r, tr, next, ht⟩ := Server.Config.thread_of_nextCall hn
  rw [Server.Config.step, ht] at h
  obtain ⟨s, hs, rfl⟩ := Option.map_eq_some_iff.mp h
  obtain ⟨k, next', x, w, hk, hx, rfl⟩ := Session.move_answer hs
  cases hk
  have ha : answer sys (.remove (modeLink sys)) .done c.world = some (x, w) := hx
  rcases answer_remove ha with ⟨-, -, rfl⟩ | ⟨hnone, -⟩
  · simp [Server.Config.busy, World.setFile]
  · simp [hc] at hnone

def bootModes : List Bytes := [ MODE_PASSTHROUGH, MODE_SECURE_HOST]

def LinksTo (sys : System) (w : World) (mode : Bytes) : Prop :=
  w.files (modeLink sys) = some (.link (targetFile sys mode))

def Boots (sys : System) (w : World) : Prop := ∃ mode ∈ bootModes, LinksTo sys w mode

def IsStart : Label sys → Prop
  | .start _ => True
  | _ => False

/-- At every instant of the run the link leads to a boot mode, and while a request is
served, and after it, to the mode before the request or to the one it asks for. -/
structure AlwaysBoots (c : Config sys) (ls : List (Label sys)) : Prop where
  boots : ∀ d, c.Visits ls d → Boots sys d.world
  old_or_new : ∀ pre body during post d e, ls = pre ++ .start (putMode body) :: (during ++ post) →
    (∀ l ∈ during, ¬ IsStart l) → c.run pre = some d → d.run (.start (putMode body) :: during) = some e →
    e.world.files (modeLink sys) = d.world.files (modeLink sys) ∨
      ∃ mode, body = some (.string mode) ∧ LinksTo sys e.world mode.val

theorem alwaysBoots_iff {c d : Config sys} {ls : List (Label sys)} (hc : c.thread = none) (hw : Boots sys c.world)
    (hls : ∀ l ∈ ls, IsPutMode l) (hrun : c.run ls = some d) :
    AlwaysBoots c ls ↔ ∀ e l, c.Takes ls e l → ¬ Removes e l := by
  obtain ⟨mode, hm, hlink⟩ := hw
  constructor
  · intro hb e l htake hrm
    obtain ⟨f, hf, hvf⟩ := htake.step hrun
    obtain ⟨pre, post, rfl, he⟩ := htake
    obtain ⟨old, -, hold⟩ := hb.boots e ⟨pre, l :: post, rfl, he⟩
    obtain ⟨new, -, hnew⟩ := hb.boots f hvf
    rw [LinksTo, link_of_removes hold hrm hf] at hnew
    exact absurd hnew.symm (Option.some_ne_none _)
  · intro hno
    have hinit : Linked (targetFile sys mode) c := ⟨hlink, fun th hth => by simp [hc] at hth⟩
    have hkeep : ∀ e, c.Visits ls e → Linked (targetFile sys mode) e := by
      intro e he
      refine he.invariant hinit fun e f l htake hlinked hf => ?_
      obtain ⟨pre, post, rfl, -⟩ := id htake
      exact hlinked.step (hls l (by simp)) (hno e l htake) hf
    refine ⟨fun e he => ⟨mode, hm, (hkeep e he).link⟩, fun pre body during post e f hsplit _ he hf => .inl ?_⟩
    have hve : c.Visits ls e := ⟨pre, _, hsplit, he⟩
    have hvf : c.Visits ls f := by
      refine ⟨pre ++ .start (putMode body) :: during, post, by simp [hsplit], ?_⟩
      rw [Server.Config.run_append, he]
      exact hf
    exact (hkeep f hvf).link.trans (hkeep e hve).link.symm

section samples

open Sample

def linked : Config bare := .idle passthrough

lemma boots_linked : Boots bare linked.world := ⟨MODE_PASSTHROUGH, by simp [bootModes], rfl⟩

def change : Body := some (.string secureHost)

def changing : List (Label bare) := .start (putMode change) :: done 3

theorem alwaysBoots_iff_changing : ∃ d, linked.run changing = some d ∧
    d.world.files (modeLink bare) = some (.link (targetFile bare MODE_SECURE_HOST)) ∧
    (AlwaysBoots linked changing ↔ ∀ e l, linked.Takes changing e l → ¬ Removes e l) := by
  refine ⟨_, rfl, rfl, alwaysBoots_iff rfl boots_linked (fun l hl => ?_) rfl⟩
  simp only [changing, done, List.replicate, List.mem_cons, List.not_mem_nil, or_false] at hl
  rcases hl with rfl | rfl | rfl | rfl
  · exact ⟨change, rfl⟩
  all_goals trivial

theorem no_boot_mode_between_calls : Boots bare linked.world ∧
    ∃ d, linked.run (.start (putMode change) :: done 2) = some d ∧ d.world.files (modeLink bare) = none :=
  ⟨boots_linked, _, rfl, rfl⟩

end samples

end RouterCard.Captived.BootMode
