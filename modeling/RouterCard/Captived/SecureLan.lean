import RouterCard.Captived.Answers
import RouterCard.Interaction.Contract
import RouterCard.Shell.Removal

/-! The link from secure-lan to secure-host that the initialization task makes, on any files
and whatever becomes of its calls. -/

namespace RouterCard.Captived

open Text Interaction

namespace Tasks

variable (sys : System)

-- The message on the standard error is left out.
def ensureSecureLanSymlinkExists : Prog Bool :=
  sys.createSymlinkToConfigDir DIR_WIFI_CONFIG_SECURE_HOST DIR_WIFI_CONFIG_SECURE_LAN

def runInitTasks : Prog Bool := ensureSecureLanSymlinkExists sys

end Tasks

namespace SecureLan

open Shell

/-- The shell that `::system` starts: its variables and users, and what it does with a line that it
neither gives up nor reads as one `rm -rf` of operands. -/
structure Sh where
  env : Environment
  other : Bytes → Files → ℤ × Files

inductive Outcome where
  | call (o : Captived.Outcome)
  -- rm ends with this status, and these are among the files that are left
  | stopped (status : ℤ) (kept : Bytes → Bool)

def refuse (files : Files) : Outcome → Option (ℤ × Files)
  | .call (.failed _) => some (-1, files)
  | .stopped status _ => if status = 0 then none else some (status, files)
  | _ => none

def rm (operands : List Bytes) (files : Files) : Outcome → Option (ℤ × Files)
  | .call (.failed _) => some (-1, files)
  | .call .done => if accepts operands then some (0, remove operands (fun _ => false) files) else none
  | .stopped status kept => if status = 0 then none else some (status, remove operands kept files)
  | _ => none

def Sh.run (sh : Sh) (line : Bytes) (files : Files) (o : Outcome) : Option (ℤ × Files) :=
  match removal sh.env line with
  | some args =>
    match rmOperands args with
    | some operands => rm operands files o
    | none => some (sh.other line files)
  | none => if unterminated line then refuse files o else some (sh.other line files)

variable (sh : Sh) (sys : System)

def answer : (c : Call) → Outcome → World → Option (c.Reply × World)
  | .shell line, o, w => (sh.run line w.files o).map fun (status, files) => (status, { w with files := files })
  | c, .call o, w => Captived.answer sys c o w
  | _, _, _ => none

abbrev shellHost : Host calls where
  World := World
  Outcome := Outcome
  Act := Empty
  answer := answer sh sys
  act a _ := a.elim

def fqTarget : Bytes := sys.chroot ++ DIR_WIFI_CONFIG_SECURE_HOST

def fqLink : Bytes := sys.chroot ++ DIR_WIFI_CONFIG_SECURE_LAN

def command : Bytes := bytes "rm -rf " ++ fqLink sys

def start (w : World) : Session (shellHost sh sys) Bool := ⟨[], Tasks.runInitTasks sys, w⟩

def Modifies : Call → Prop
  | .shell _ | .createFile _ | .writeFile .. | .closeFile _ | .rename .. | .remove _ | .symlink .. => True
  | _ => False

def Owned (w : World) (path : Bytes) : Prop :=
  path = fqLink sys ∨ w.files (fqLink sys) = some .directory ∧ Within (fqLink sys) path

def succeeds (c : Call) (w : World) : Option (c.Reply × World) := answer sh sys c (.call .done) w

structure Established (w : World) : Prop where
  linked : ∀ ms s, (start sh sys w).play ms = some s → s.result = some true →
    s.world.files (fqLink sys) = some (.link (fqTarget sys))
  again : ∀ ms s, (start sh sys w).play ms = some s → s.result = some true →
    ∃ t, (Tasks.runInitTasks sys).observe (succeeds sh sys) s.world = (t, some (true, s.world)) ∧ ∀ x ∈ t, ¬ Modifies x.1
  frame : ∀ ms s, (start sh sys w).play ms = some s → ∀ path, ¬ Owned sys w path → s.world.files path = w.files path

/-- However the shell reads the command, it removes nothing that exists outside of the directory. -/
def Swept (w : World) : Prop :=
  ∀ env, unterminated (command sys) = true ∨
    ∃ args operands, removal env (command sys) = some args ∧ rmOperands args = some operands ∧
      ∀ path, covers operands path = true → w.files path ≠ none → Within (fqLink sys) path

def Spared : Prop :=
  ∀ env args operands, removal env (command sys) = some args → rmOperands args = some operands → accepts operands = true →
    covers operands (fqLink sys) = false

def Sound (w : World) : Prop :=
  match w.files (fqLink sys) with
  | none | some (.file _) => (fqTarget sys).length ≤ 512
  | some (.link t) => (fqTarget sys).length ≤ 512 ∧ (t.take 512 = fqTarget sys → t = fqTarget sys)
  | some .directory => Swept sys w ∧ ((fqTarget sys).length ≤ 512 ∨ Spared sys)
  | some .other => True

section steps

def linkStep : Prog Bool := System.makeLink (fqTarget sys) (fqLink sys)

def unlinkStep : Prog Bool := .call (S := calls) (.remove (fqLink sys)) fun removed =>
  if removed ≠ 0 then .done false else linkStep sys

def verifyStep : Prog Bool := .call (S := calls) (.readlink (fqLink sys) 512) fun buf =>
  if buf.any fun oldTarget => oldTarget ≠ [] && oldTarget = fqTarget sys then .done true else unlinkStep sys

def sweepStep : Prog Bool := .call (S := calls) (.shell (command sys)) fun res =>
  if res ≠ 0 then .done false else linkStep sys

def afterStat : Option FileKind → Prog Bool
  | some .link => verifyStep sys
  | some .directory => sweepStep sys
  | some .regular => unlinkStep sys
  | _ => linkStep sys

lemma runInitTasks_eq : Tasks.runInitTasks sys = .call (S := calls) (.lstat (fqLink sys)) (afterStat sys) := by
  refine congrArg (Program.call (S := calls) (.lstat _)) (funext fun stat : Option FileKind => ?_)
  rcases stat with _ | _ | _ | _ | _ <;> rfl

end steps

variable {sh sys} {w v u : World} {t : Trace calls}

def Frame (sys : System) (w v : World) : Prop := ∀ path, ¬ Owned sys w path → v.files path = w.files path

lemma Frame.setLink (h : Frame sys w v) (n : Option Node) : Frame sys w (v.setFile (fqLink sys) n) := by
  intro path hpath
  have hne : path ≠ fqLink sys := fun he => hpath (.inl he)
  exact (Function.update_of_ne hne _ _).trans (h path hpath)

abbrev rules (sh : Sh) (sys : System) (w : World) : Rules calls World where
  rely _ _ _ := False
  answers _ c v r u := ∃ o, answer sh sys c o v = some (r, u)
  always v := Frame sys w v
  allowed _ _ _ := True

def Linked (sys : System) (v : World) : Prop :=
  v.files (fqLink sys) = some (.link (fqTarget sys)) ∧ (fqTarget sys).length ≤ 512

abbrev SafeFrom (sh : Sh) (sys : System) (w : World) (p : Prog Bool) (t : Trace calls) (v : World) : Prop :=
  p.Safe (rules sh sys w) (fun b _ v => b = true → Linked sys v) t v

lemma safe_done {b : Bool} (hv : Frame sys w v) (hb : b = true → Linked sys v) : SafeFrom sh sys w (.done b) t v :=
  .of_done (P := fun u => u = v) (fun _ _ _ h => h.elim) rfl fun _ hu => hu ▸ ⟨hv, hb⟩

lemma safe_call {c : Call} {next : c.Reply → Prog Bool} (hv : Frame sys w v)
    (h : ∀ o r u, answer sh sys c o v = some (r, u) → SafeFrom sh sys w (next r) (t ++ [⟨c, r⟩]) u) :
    SafeFrom sh sys w (.call (S := calls) c next) t v := by
  refine .of_call (P := fun u => u = v) (fun _ _ _ h => h.elim) rfl (fun _ hu => hu ▸ ⟨hv, trivial⟩) ?_
  rintro _ r u rfl ⟨o, ho⟩
  exact h o r u ho

lemma answer_symlink {target link : Bytes} {o : Outcome} {r : ℤ} (h : answer sh sys (.symlink target link) o v = some (r, u)) :
    (v.files link = none ∧ r = 0 ∧ u = v.setFile link (some (.link target))) ∨ (r = -1 ∧ u = v) := by
  cases o with
  | call o =>
    rcases Captived.answer_symlink h with ⟨-, hn, hr, hu⟩ | ⟨-, hr, hu⟩
    · exact .inl ⟨hn, hr, hu⟩
    · exact .inr ⟨hr, hu⟩
  | stopped status kept => cases h

lemma safe_linkStep (hv : Frame sys w v) (hlen : v.files (fqLink sys) = none → (fqTarget sys).length ≤ 512) :
    SafeFrom sh sys w (linkStep sys) t v := by
  refine safe_call hv fun o r u h => ?_
  rcases answer_symlink h with ⟨hn, rfl, rfl⟩ | ⟨rfl, rfl⟩
  · refine safe_done (hv.setLink _) fun _ => ⟨?_, hlen hn⟩
    exact Function.update_self ..
  · exact safe_done hv fun hb => absurd hb (by decide)

lemma safe_unlinkStep (hv : Frame sys w v) (hlen : (fqTarget sys).length ≤ 512) : SafeFrom sh sys w (unlinkStep sys) t v := by
  refine safe_call hv fun o r u h => ?_
  have hu : Frame sys w u := by
    cases o with
    | call o =>
      rcases answer_remove h with ⟨-, -, rfl⟩ | ⟨-, rfl⟩
      · exact hv.setLink none
      · exact hv
    | stopped status kept => cases h
  dsimp only
  split_ifs
  · exact safe_done hu nofun
  · exact safe_linkStep hu fun _ => hlen

lemma safe_verifyStep {target : Bytes} (hv : Frame sys w v) (hlink : v.files (fqLink sys) = some (.link target))
    (hlen : (fqTarget sys).length ≤ 512) (htext : target.take 512 = fqTarget sys → target = fqTarget sys) :
    SafeFrom sh sys w (verifyStep sys) t v := by
  refine safe_call hv fun o r u h => ?_
  cases o with
  | call o =>
    obtain ⟨rfl, hr⟩ := answer_readlink h
    dsimp only
    split_ifs with hbuf
    · refine safe_done hv fun _ => ⟨?_, hlen⟩
      rcases hr with ⟨-, rfl⟩ | ⟨-, rfl⟩
      · rw [hlink] at hbuf ⊢
        simp only [targetOf, Option.map_some, Option.any_some, Bool.and_eq_true, decide_eq_true_eq] at hbuf
        rw [htext hbuf.2]
      · cases hbuf
    · exact safe_unlinkStep hv hlen
  | stopped status kept => cases h

inductive Swept.Effect (sys : System) (w : World) (status : ℤ) (G : Files) : Prop
  | nothing : status ≠ 0 → G = w.files → Swept.Effect sys w status G
  | partly {operands kept} : status ≠ 0 → G = remove operands kept w.files → Frame sys w { w with files := G } →
    Swept.Effect sys w status G
  | whole {env args operands} : status = 0 → removal env (command sys) = some args → rmOperands args = some operands →
    accepts operands = true → G = remove operands (fun _ => false) w.files → Frame sys w { w with files := G } →
    Swept.Effect sys w status G

lemma refuse_cases {F G : Files} {o : Outcome} {status : ℤ} (h : refuse F o = some (status, G)) : status ≠ 0 ∧ G = F := by
  cases o with
  | call o =>
    cases o with
    | failed e =>
      obtain ⟨rfl, rfl⟩ := Prod.mk.inj (Option.some.inj h)
      exact ⟨by decide, rfl⟩
    | _ => cases h
  | stopped status' kept =>
    simp only [refuse, Option.ite_none_left_eq_some] at h
    obtain ⟨hne, h⟩ := h
    obtain ⟨rfl, rfl⟩ := Prod.mk.inj (Option.some.inj h)
    exact ⟨hne, rfl⟩

lemma frame_remove {operands : List Bytes} {kept : Bytes → Bool} (hw : w.files (fqLink sys) = some .directory)
    (hwithin : ∀ path, covers operands path = true → w.files path ≠ none → Within (fqLink sys) path) :
    Frame sys w { w with files := remove operands kept w.files } := by
  intro path hpath
  change remove operands kept w.files path = w.files path
  cases hcov : covers operands path with
  | false => exact remove_of_not_covers hcov
  | true =>
    have hnone : w.files path = none := by
      by_contra hne
      exact hpath (.inr ⟨hw, hwithin path hcov hne⟩)
    rw [remove_of_absent hnone, hnone]

lemma Swept.effect {G : Files} {o : Outcome} {status : ℤ} (hsweep : Swept sys w)
    (hw : w.files (fqLink sys) = some .directory) (h : sh.run (command sys) w.files o = some (status, G)) :
    Swept.Effect sys w status G := by
  rcases hsweep sh.env with hline | ⟨args, operands, hargs, hops, hwithin⟩
  · rw [Sh.run, removal_unterminated hline] at h
    dsimp only at h
    rw [if_pos hline] at h
    obtain ⟨hne, rfl⟩ := refuse_cases h
    exact .nothing hne rfl
  · rw [Sh.run, hargs] at h
    dsimp only at h
    rw [hops] at h
    cases o with
    | call o =>
      cases o with
      | failed e =>
        obtain ⟨rfl, rfl⟩ := Prod.mk.inj (Option.some.inj h)
        exact .nothing (by decide) rfl
      | done =>
        simp only [rm, Option.ite_none_right_eq_some] at h
        obtain ⟨hacc, h⟩ := h
        obtain ⟨rfl, rfl⟩ := Prod.mk.inj (Option.some.inj h)
        exact .whole rfl hargs hops hacc rfl (frame_remove hw hwithin)
      | _ => cases h
    | stopped status' kept =>
      simp only [rm, Option.ite_none_left_eq_some] at h
      obtain ⟨hne, h⟩ := h
      obtain ⟨rfl, rfl⟩ := Prod.mk.inj (Option.some.inj h)
      exact .partly hne rfl (frame_remove hw hwithin)

lemma safe_sweepStep (hw : w.files (fqLink sys) = some .directory) (hsweep : Swept sys w)
    (hlen : (fqTarget sys).length ≤ 512 ∨ Spared sys) : SafeFrom sh sys w (sweepStep sys) t w := by
  refine safe_call (fun _ _ => rfl) fun o r u h => ?_
  obtain ⟨⟨status, G⟩, hrun, heq⟩ := Option.map_eq_some_iff.mp h
  obtain ⟨rfl, rfl⟩ := Prod.mk.inj heq
  dsimp only
  cases hsweep.effect hw hrun with
  | nothing hne hG =>
    subst hG
    rw [if_pos hne]
    exact safe_done (fun _ _ => rfl) nofun
  | partly hne hG hframe =>
    rw [if_pos hne]
    exact safe_done hframe nofun
  | @whole env args operands hzero hargs hops hacc hG hframe =>
    rw [if_neg (not_not.mpr hzero)]
    refine safe_linkStep hframe fun hnone => hlen.resolve_right fun hspared => ?_
    change G (fqLink sys) = none at hnone
    rw [hG, remove_of_not_covers (hspared env args operands hargs hops hacc), hw] at hnone
    cases hnone

lemma safe_start (hw : Sound sys w) : SafeFrom sh sys w (Tasks.runInitTasks sys) [] w := by
  have hv : Frame sys w w := fun _ _ => rfl
  have habsent : w.files (fqLink sys) = none → (fqTarget sys).length ≤ 512 := by
    intro hnone
    simpa only [Sound, hnone] using hw
  rw [runInitTasks_eq]
  refine safe_call hv fun o r u h => ?_
  cases o with
  | stopped status kept => cases h
  | call o =>
    obtain ⟨rfl, ⟨-, rfl⟩ | ⟨-, rfl⟩⟩ := answer_lstat h
    · rcases hnode : u.files (fqLink sys) with _ | (_ | target | _ | _)
      · exact safe_linkStep hv habsent
      · simp only [Sound, hnode] at hw
        exact safe_unlinkStep hv hw
      · simp only [Sound, hnode] at hw
        exact safe_verifyStep hv hnode hw.1 hw.2
      · simp only [Sound, hnode] at hw
        exact safe_sweepStep hnode hw.1 hw.2
      · exact safe_linkStep hv habsent
    · exact safe_linkStep hv habsent

lemma observe_linked (h : Linked sys v) :
    ∃ t, (Tasks.runInitTasks sys).observe (succeeds sh sys) v = (t, some (true, v)) ∧ ∀ x ∈ t, ¬ Modifies x.1 := by
  obtain ⟨hlink, hlen⟩ := h
  have hstat : succeeds sh sys (.lstat (fqLink sys)) v = some (some .link, v) := by
    have hkind : (v.files (fqLink sys)).map fileKind = some .link := by rw [hlink]; rfl
    rw [← hkind]
    rfl
  have hread : succeeds sh sys (.readlink (fqLink sys) 512) v = some (some (fqTarget sys), v) := by
    have htext : (targetOf (v.files (fqLink sys))).map (·.take 512) = some (fqTarget sys) := by
      rw [hlink, targetOf, Option.map_some, List.take_of_length_le hlen]
    rw [← htext]
    rfl
  have hne : fqTarget sys ≠ [] := List.append_ne_nil_of_right_ne_nil _ (by decide)
  refine ⟨[⟨.lstat (fqLink sys), some .link⟩, ⟨.readlink (fqLink sys) 512, some (fqTarget sys)⟩], ?_, ?_⟩
  · rw [runInitTasks_eq, Program.observe_call_some hstat, afterStat, verifyStep, Program.observe_call_some hread]
    simp [hne, Program.observe]
  · intro x hx
    simp only [List.mem_cons, List.not_mem_nil, or_false] at hx
    rcases hx with rfl | rfl
    · exact id
    · exact id

theorem Sound.established (hw : Sound sys w) : Established sh sys w := by
  have hplay : ∀ ms s, (start sh sys w).play ms = some s → SafeFrom sh sys w s.rest s.trace s.world := by
    intro ms s hs
    refine Program.Safe.play (H := shellHost sh sys) (R := rules sh sys w) (fun _ => True) (fun _ a _ _ _ _ => a.elim)
      (fun _ _ o _ _ _ ha => ⟨o, ha⟩) (fun _ _ => trivial) ?_ hs
    exact safe_start hw
  have hresult : ∀ ms s, (start sh sys w).play ms = some s → s.result = some true → Linked sys s.world := by
    intro ms s hs hr
    have hsafe := hplay ms s hs
    rw [Session.result_eq hr] at hsafe
    exact hsafe.result rfl
  exact ⟨fun ms s hs hr => (hresult ms s hs hr).1, fun ms s hs hr => observe_linked (hresult ms s hs hr),
    fun ms s hs => (hplay ms s hs).always⟩

section converse

lemma succeeds_lstat {n : Option Node} (h : v.files (fqLink sys) = n) :
    succeeds sh sys (.lstat (fqLink sys)) v = some (n.map fileKind, v) := by
  rw [← h]
  rfl

lemma succeeds_readlink {target : Bytes} (h : v.files (fqLink sys) = some (.link target)) :
    succeeds sh sys (.readlink (fqLink sys) 512) v = some (some (target.take 512), v) := by
  have htext : (targetOf (v.files (fqLink sys))).map (·.take 512) = some (target.take 512) := by
    rw [h]
    rfl
  rw [← htext]
  rfl

lemma succeeds_remove (h : v.files (fqLink sys) ≠ none) :
    succeeds sh sys (.remove (fqLink sys)) v = some (0, v.setFile (fqLink sys) none) :=
  if_pos (Option.isSome_iff_ne_none.mpr h)

lemma exec_linkStep (h : v.files (fqLink sys) = none) :
    (linkStep sys).exec (succeeds sh sys) v = some (true, v.setFile (fqLink sys) (some (.link (fqTarget sys)))) := by
  have hlink : succeeds sh sys (.symlink (fqTarget sys) (fqLink sys)) v =
      some (0, v.setFile (fqLink sys) (some (.link (fqTarget sys)))) := by
    refine if_neg ?_
    rw [h]
    exact Bool.false_ne_true
  rw [linkStep, System.makeLink, ask_bind, Program.exec_call, hlink]
  rfl

lemma exec_unlinkStep (h : v.files (fqLink sys) ≠ none) : ∃ u, (unlinkStep sys).exec (succeeds sh sys) v = some (true, u) := by
  have hnone : (v.setFile (fqLink sys) none).files (fqLink sys) = none := Function.update_self ..
  have hrest : (unlinkStep sys).exec (succeeds sh sys) v =
      (linkStep sys).exec (succeeds sh sys) (v.setFile (fqLink sys) none) := by
    rw [unlinkStep, Program.exec_call, succeeds_remove h]
    rfl
  exact ⟨_, hrest.trans (exec_linkStep hnone)⟩

lemma exec_verifyStep {target : Bytes} (h : v.files (fqLink sys) = some (.link target)) :
    ∃ u, (verifyStep sys).exec (succeeds sh sys) v = some (true, u) ∧ (target.take 512 = fqTarget sys → u = v) := by
  rw [verifyStep, Program.exec_call, succeeds_readlink h, Option.bind_some, Option.any_some]
  dsimp only
  split_ifs with hbuf
  · exact ⟨v, rfl, fun _ => rfl⟩
  · obtain ⟨u, hu⟩ : ∃ u, (unlinkStep sys).exec (succeeds sh sys) v = some (true, u) :=
      exec_unlinkStep (by rw [h]; exact Option.some_ne_none _)
    refine ⟨u, hu, fun htext => absurd ?_ hbuf⟩
    have hne : fqTarget sys ≠ [] := List.append_ne_nil_of_right_ne_nil _ (by decide)
    simp [htext, hne]

lemma length_of_again (hlink : v.files (fqLink sys) = some (.link (fqTarget sys)))
    (h : ∃ t, (Tasks.runInitTasks sys).observe (succeeds sh sys) v = (t, some (true, v)) ∧ ∀ x ∈ t, ¬ Modifies x.1) :
    (fqTarget sys).length ≤ 512 := by
  obtain ⟨t, ht, hno⟩ := h
  by_contra hlong
  have hnode : v.files (fqLink sys) ≠ none := by
    rw [hlink]
    exact Option.some_ne_none _
  have hcut : (fqTarget sys).take 512 ≠ fqTarget sys := by
    intro hcut
    have hlen := congrArg List.length hcut
    rw [List.length_take] at hlen
    omega
  rw [runInitTasks_eq, Program.observe_call_some (succeeds_lstat hlink)] at ht
  change (_ :: ((verifyStep sys).observe (succeeds sh sys) v).1, _) = _ at ht
  rw [verifyStep, Program.observe_call_some (succeeds_readlink hlink)] at ht
  dsimp only at ht
  rw [Option.any_some, decide_eq_false hcut, Bool.and_false, if_neg Bool.false_ne_true, unlinkStep,
    Program.observe_call_some (succeeds_remove hnode)] at ht
  have htrace := (Prod.mk.inj ht).1
  refine hno ⟨.remove (fqLink sys), 0⟩ ?_ trivial
  rw [← htrace]
  exact .tail _ (.tail _ (.head _))

lemma length_of_run (hw : Established sh sys w) (h : (Tasks.runInitTasks sys).exec (succeeds sh sys) w = some (true, v)) :
    v.files (fqLink sys) = some (.link (fqTarget sys)) ∧ (fqTarget sys).length ≤ 512 := by
  obtain ⟨ms, t, hplay⟩ := Session.play_of_exec (H := shellHost sh sys) (f := fun _ => .call .done) h []
  have hlink := hw.linked ms _ hplay rfl
  exact ⟨hlink, length_of_again hlink (hw.again ms _ hplay rfl)⟩

lemma exec_start {n : Option Node} (h : w.files (fqLink sys) = n) : (Tasks.runInitTasks sys).exec (succeeds sh sys) w =
    (afterStat sys (n.map fileKind)).exec (succeeds sh sys) w := by
  rw [runInitTasks_eq, Program.exec_call, succeeds_lstat h]
  rfl

def meddling (F : Files) : Files := Function.update F [] (if (F []).isSome then none else some .other)

lemma meddling_ne (F : Files) : meddling F [] ≠ F [] := by
  rw [meddling, Function.update_self]
  cases F [] with
  | none => exact Option.some_ne_none _
  | some n => exact (Option.some_ne_none n).symm

lemma play_sweep {o : Outcome} {status : ℤ} {G : Files} (hdir : w.files (fqLink sys) = some .directory)
    (h : sh.run (command sys) w.files o = some (status, G)) :
    ∃ ms s, (start sh sys w).play ms = some s ∧ s.world = { w with files := G } := by
  have hstat : answer sh sys (.lstat (fqLink sys)) (.call .done) w = some (some .directory, w) := succeeds_lstat hdir
  have hsweep : answer sh sys (.shell (command sys)) o w = some (status, { w with files := G }) := by
    rw [answer, h]
    rfl
  have hplay : ((start sh sys w).play [.answer (.call .done), .answer o]).map Session.world = some { w with files := G } := by
    rw [start, runInitTasks_eq, Session.play_cons, Session.move_call (H := shellHost sh sys) hstat, Option.bind_some, afterStat,
      sweepStep, Session.play_cons, Session.move_call (H := shellHost sh sys) hsweep]
    rfl
  obtain ⟨s, hs, hworld⟩ := Option.map_eq_some_iff.mp hplay
  exact ⟨_, s, hs, hworld⟩

lemma not_within_nil (sys : System) : ¬ Within (fqLink sys) [] := by
  have hne : fqLink sys ≠ [] := List.append_ne_nil_of_right_ne_nil _ (by decide)
  rintro (h | h)
  · exact hne h.symm
  · exact List.append_ne_nil_of_right_ne_nil _ (List.cons_ne_nil _ _) (List.prefix_nil.mp h)

lemma not_owned {path : Bytes} (h : ¬ Within (fqLink sys) path) : ¬ Owned sys w path := by
  rintro (rfl | ⟨-, hw⟩)
  · exact h (.inl rfl)
  · exact h hw

lemma run_ne_meddling (hw : ∀ sh, Established sh sys w) (hdir : w.files (fqLink sys) = some .directory) (env : Environment) :
    (⟨env, fun _ F => (1, meddling F)⟩ : Sh).run (command sys) w.files (.call .done) ≠ some (1, meddling w.files) := by
  intro hrun
  obtain ⟨ms, s, hplay, hs⟩ := play_sweep hdir hrun
  have hframe := (hw _).frame ms s hplay [] (not_owned (not_within_nil sys))
  rw [hs] at hframe
  exact meddling_ne w.files hframe

lemma swept_of_established (hw : ∀ sh, Established sh sys w) (hdir : w.files (fqLink sys) = some .directory) :
    Swept sys w := by
  intro env
  have hmeddle := run_ne_meddling hw hdir env
  cases hargs : removal env (command sys) with
  | none =>
    rw [Sh.run, hargs] at hmeddle
    exact .inl (not_not.mp fun hline => hmeddle (if_neg hline))
  | some args =>
    cases hops : rmOperands args with
    | none =>
      rw [Sh.run, hargs] at hmeddle
      simp only [hops] at hmeddle
      exact absurd rfl hmeddle
    | some operands =>
      refine .inr ⟨args, operands, rfl, hops, fun path hcov hex => ?_⟩
      by_contra hnot
      let shell : Sh := ⟨env, fun _ F => (0, F)⟩
      have hrun : shell.run (command sys) w.files (.stopped 1 fun _ => false) =
          some (1, remove operands (fun _ => false) w.files) := by
        rw [Sh.run, hargs]
        simp only [hops]
        rfl
      obtain ⟨ms, s, hplay, hs⟩ := play_sweep hdir hrun
      have hframe := (hw shell).frame ms s hplay path (not_owned hnot)
      rw [hs] at hframe
      exact hex (hframe.symm.trans (remove_of_covers hcov))

lemma spared_of_established (hw : ∀ sh, Established sh sys w) (hdir : w.files (fqLink sys) = some .directory)
    (hlong : ¬ (fqTarget sys).length ≤ 512) : Spared sys := by
  intro env args operands hargs hops hacc
  by_contra hcov
  rw [Bool.not_eq_false] at hcov
  let shell : Sh := ⟨env, fun _ F => (0, F)⟩
  let v : World := { w with files := remove operands (fun _ => false) w.files }
  have hsweep : succeeds shell sys (.shell (command sys)) w = some (0, v) := by
    rw [succeeds, answer, Sh.run, hargs]
    simp only [hops, rm, hacc, if_true]
    rfl
  have hrun : (Tasks.runInitTasks sys).exec (succeeds shell sys) w =
      some (true, v.setFile (fqLink sys) (some (.link (fqTarget sys)))) := by
    rw [exec_start hdir, Option.map_some, fileKind, afterStat, sweepStep, Program.exec_call, hsweep, Option.bind_some]
    exact exec_linkStep (remove_of_covers hcov)
  exact hlong (length_of_run (hw shell) hrun).2

lemma sound_of_established (hw : ∀ sh, Established sh sys w) : Sound sys w := by
  let shell : Sh := ⟨barren, fun _ F => (0, F)⟩
  have hlength : ∀ v, (Tasks.runInitTasks sys).exec (succeeds shell sys) w = some (true, v) → (fqTarget sys).length ≤ 512 :=
    fun v hv => (length_of_run (hw shell) hv).2
  unfold Sound
  split
  · next hnode =>
    exact hlength _ ((exec_start hnode).trans (exec_linkStep hnode))
  · next c hnode =>
    obtain ⟨u, hu⟩ : ∃ u, (unlinkStep sys).exec (succeeds shell sys) w = some (true, u) := exec_unlinkStep (by simp [hnode])
    exact hlength u ((exec_start hnode).trans hu)
  · next target hnode =>
    obtain ⟨u, hu, hsame⟩ : ∃ u, (verifyStep sys).exec (succeeds shell sys) w = some (true, u) ∧
      (target.take 512 = fqTarget sys → u = w) := exec_verifyStep hnode
    have hrun := (exec_start hnode).trans hu
    refine ⟨hlength u hrun, fun htext => ?_⟩
    have hlink := (length_of_run (hw shell) hrun).1
    rw [hsame htext, hnode] at hlink
    exact Node.link.inj (Option.some.inj hlink)
  · next hnode =>
    refine ⟨swept_of_established hw hnode, ?_⟩
    by_cases hlen : (fqTarget sys).length ≤ 512
    · exact .inl hlen
    · exact .inr (spared_of_established hw hnode hlen)
  · trivial

end converse

theorem established_iff (sys : System) (w : World) : (∀ sh, Established sh sys w) ↔ Sound sys w :=
  ⟨sound_of_established, fun hw _ => hw.established⟩

lemma withoutSlashes_fqLink (sys : System) : withoutSlashes (fqLink sys) = fqLink sys := by
  have hlast : fqLink sys = sys.chroot ++ bytes "/data/connman/secure-la" ++ [110] := by
    rw [List.append_assoc]
    rfl
  rw [withoutSlashes, hlast]
  exact List.rdropWhile_concat_neg _ _ _ (by decide)

lemma swept_of_literal (h : Literal (fqLink sys)) (hdash : (fqLink sys).head? ≠ some 45) : Swept sys w := by
  intro env
  refine .inr ⟨[fqLink sys], [fqLink sys], removal_literal h env, rmOperands_single hdash, fun path hcov _ => ?_⟩
  exact within_of_covers (withoutSlashes_fqLink sys) hcov

theorem established_of_literal (h : Literal (fqLink sys)) (hdash : (fqLink sys).head? ≠ some 45)
    (hlen : (fqTarget sys).length < 512) : Established sh sys w := by
  apply Sound.established
  unfold Sound
  split
  · exact hlen.le
  · exact hlen.le
  · refine ⟨hlen.le, fun htext => ?_⟩
    have hlength := congrArg List.length htext
    rw [List.length_take] at hlength
    rw [← htext, List.take_of_length_le (by omega)]
  · exact ⟨swept_of_literal h hdash, .inl hlen.le⟩
  · trivial

section samples

def blankRoot : System := ⟨bytes "/srv/a b", fun _ => ⟨[48], by simp [isHexDigit, isDigit]⟩⟩

def beside : World := .initial ⟨none, none⟩ fun path =>
  if path = bytes "/srv/a b/data/connman/secure-lan" then some .directory
  else if path = bytes "/srv/a" then some (.file (bytes "kept")) else none

def plainShell : Sh := ⟨barren, fun _ F => (0, F)⟩

theorem blank_root_removes_other_file :
    (∃ s, (start plainShell blankRoot beside).play [.answer (.call .done), .answer (.call .done)] = some s ∧
      s.world.files (bytes "/srv/a") = none) ∧
    beside.files (bytes "/srv/a") = some (.file (bytes "kept")) ∧ ¬ Established plainShell blankRoot beside := by
  have hrun : ∃ s, (start plainShell blankRoot beside).play [.answer (.call .done), .answer (.call .done)] = some s ∧
      s.world.files (bytes "/srv/a") = none := ⟨_, rfl, rfl⟩
  have howned : ¬ Owned blankRoot beside (bytes "/srv/a") := not_owned (by decide)
  obtain ⟨s, hplay, hgone⟩ := hrun
  refine ⟨⟨s, hplay, hgone⟩, rfl, fun h => ?_⟩
  have hframe := h.frame _ s hplay (bytes "/srv/a") howned
  rw [hgone] at hframe
  cases hframe

end samples

end SecureLan

end RouterCard.Captived
