import RouterCard.Captived.UpdateState

/-! Two worlds of which the second has served more requests: they agree but for the
members that a GET may write and a SIGCHLD more, and answer the daemon's calls alike. -/

namespace RouterCard.Captived

open Text Interaction FirmwareManager

structure Shadow (w v : World) : Prop where
  env : v.env = w.env
  installers : v.installers = w.installers
  registered : v.registered = w.registered
  files : v.files = w.files
  loaded : v.loaded = w.loaded
  childPid : v.memory.childPid = w.memory.childPid
  uri : v.memory.uri = w.memory.uri
  caught : w.caught = true → v.caught = true
  downloading : v.memory.downloading = w.memory.downloading ∨
    w.memory.downloading = true ∧ w.env.upgradeText = some (bytes "1")

def Call.Shared (sys : System) : Call → Prop
  | .shell command => command ≠ sys.chroot ++ COMMAND_MENDER_COMMIT
  | .load .downloading | .load .wifi | .load .debugMessage => False
  | _ => True

variable {sys : System} {w v u : World} {o : Outcome}

lemma Shadow.raise (h : Shadow w v) : Shadow w.raise v.raise := by
  refine ⟨h.env, h.installers, h.registered, h.files, h.loaded, h.childPid, h.uri, fun hc => ?_, h.downloading⟩
  rcases (Bool.or_eq_true _ _).mp hc with hc | hr
  · exact (Bool.or_eq_true _ _).mpr (.inl (h.caught hc))
  · exact (Bool.or_eq_true _ _).mpr (.inr (h.registered.trans hr))

lemma Shadow.setFile (h : Shadow w v) (path : Bytes) (n : Option Node) : Shadow (w.setFile path n) (v.setFile path n) :=
  { h with files := by simp only [World.setFile, h.files] }

lemma Shadow.content (h : Shadow w v) (path : Bytes) : v.content path = w.content path := by
  rw [World.content, World.content, h.files]

lemma Shadow.create (h : Shadow w v) (path : Bytes) :
    (v.create path).1 = (w.create path).1 ∧ Shadow (w.create path).2 (v.create path).2 := by
  simp only [World.create, h.files]
  split
  · exact ⟨rfl, h⟩
  · split
    · exact ⟨rfl, h⟩
    · exact ⟨rfl, h⟩
    · exact ⟨rfl, h.setFile _ _⟩

lemma Shadow.amend (h : Shadow w v) (path : Bytes) (f : Bytes → Bytes) : Shadow (w.amend path f) (v.amend path f) := by
  simp only [World.amend, h.files]
  split
  · exact h
  · split
    · exact h.setFile _ _
    · exact h

lemma Shadow.find (h : Shadow w v) (pid : ℤ) : v.find pid = w.find pid := by
  rw [World.find, World.find, h.installers]

lemma Shadow.shell (h : Shadow w v) {command : Bytes} {r : ℤ} (hc : command ≠ sys.chroot ++ COMMAND_MENDER_COMMIT)
    (ha : answer sys (.shell command) o w = some (r, u)) :
    ∃ u', answer sys (.shell command) o v = some (r, u') ∧ Shadow u u' := by
  cases o with
  | done =>
    simp only [answer, answerShell, if_neg hc] at ha ⊢
    split_ifs at ha ⊢
    · obtain ⟨rfl, rfl⟩ := Prod.mk.inj (Option.some.inj ha)
      exact ⟨_, rfl, { h.raise with loaded := h.files }⟩
    · obtain ⟨rfl, rfl⟩ := Prod.mk.inj (Option.some.inj ha)
      exact ⟨_, rfl, h.raise⟩
  | failed errno =>
    obtain ⟨rfl, rfl⟩ := Prod.mk.inj (Option.some.inj ha)
    exact ⟨_, rfl, h⟩
  | partly n => simp [answer, answerShell, hc] at ha
  | reply output status =>
    simp only [answer, answerShell] at ha ⊢
    split_ifs at ha ⊢
    obtain ⟨rfl, rfl⟩ := Prod.mk.inj (Option.some.inj ha)
    exact ⟨_, rfl, h.raise⟩
  | _ => simp [answer, answerShell] at ha

lemma Shadow.popen (h : Shadow w v) {command : Bytes} {r : PopenReply}
    (ha : answer sys (.popen command) o w = some (r, u)) :
    ∃ u', answer sys (.popen command) o v = some (r, u') ∧ Shadow u u' := by
  cases o with
  | done =>
    simp only [answer, answerPopen, h.env] at ha ⊢
    obtain ⟨p, hp, he⟩ := Option.map_eq_some_iff.mp ha
    obtain ⟨rfl, rfl⟩ := Prod.mk.inj he
    exact ⟨_, by rw [hp]; rfl, h.raise⟩
  | failed errno =>
    obtain ⟨rfl, rfl⟩ := Prod.mk.inj (Option.some.inj ha)
    exact ⟨_, rfl, h⟩
  | reply output status =>
    simp only [answer, answerPopen, h.env] at ha ⊢
    split_ifs at ha ⊢
    obtain ⟨rfl, rfl⟩ := Prod.mk.inj (Option.some.inj ha)
    exact ⟨_, rfl, h.raise⟩
  | _ => simp [answer, answerPopen] at ha

lemma Shadow.fork (h : Shadow w v) {command : Bytes} {r : ℤ} (ha : answer sys (.fork command) o w = some (r, u)) :
    ∃ u', answer sys (.fork command) o v = some (r, u') ∧ Shadow u u' := by
  cases o with
  | failed errno =>
    obtain ⟨rfl, rfl⟩ := Prod.mk.inj (Option.some.inj ha)
    exact ⟨_, rfl, h⟩
  | forked pid =>
    simp only [answer, answerFork, h.find] at ha ⊢
    split_ifs at ha ⊢
    obtain ⟨rfl, rfl⟩ := Prod.mk.inj (Option.some.inj ha)
    exact ⟨_, rfl, { h with installers := congrArg (· ++ [⟨pid, .running false⟩]) h.installers }⟩
  | _ => simp [answer, answerFork] at ha

lemma Shadow.waitid (h : Shadow w v) {pid : ℤ} {r : WaitReply} (ha : answer sys (.waitid pid) o w = some (r, u)) :
    ∃ u', answer sys (.waitid pid) o v = some (r, u') ∧ Shadow u u' := by
  cases o with
  | done =>
    have hw : answerWaitid pid w = (r, u) := Option.some.inj ha
    have hv : answer sys (.waitid pid) .done v = some (answerWaitid pid v) := rfl
    rw [hv]
    simp only [answerWaitid, h.find, h.installers] at hw ⊢
    split at hw
    · obtain ⟨rfl, rfl⟩ := Prod.mk.inj hw
      exact ⟨_, rfl, h⟩
    · obtain ⟨rfl, rfl⟩ := Prod.mk.inj hw
      exact ⟨_, rfl, h⟩
    · obtain ⟨rfl, rfl⟩ := Prod.mk.inj hw
      exact ⟨_, rfl, { h with installers := rfl }⟩
  | _ => simp [answer] at ha

lemma Shadow.fileCall (h : Shadow w v) {c : Call} {r : c.Reply} (hc : c.isFileCall = true)
    (ha : answer sys c o w = some (r, u)) : ∃ u', answer sys c o v = some (r, u') ∧ Shadow u u' := by
  cases c with
  | rename old new =>
    cases o with
    | done =>
      obtain ⟨n, hn, he⟩ := Option.map_eq_some_iff.mp ha
      obtain ⟨rfl, rfl⟩ := Prod.mk.inj he
      refine ⟨_, ?_, (h.setFile old none).setFile new (some n)⟩
      simp only [answer, h.files, hn, Option.map_some]
    | failed e =>
      obtain ⟨rfl, rfl⟩ := Prod.mk.inj (Option.some.inj ha)
      exact ⟨_, rfl, h⟩
    | _ => simp [answer] at ha
  | remove path =>
    cases o with
    | done =>
      simp only [answer, h.files] at ha ⊢
      split_ifs at ha ⊢
      · obtain ⟨rfl, rfl⟩ := Prod.mk.inj (Option.some.inj ha)
        exact ⟨_, rfl, h.setFile path none⟩
      · obtain ⟨rfl, rfl⟩ := Prod.mk.inj (Option.some.inj ha)
        exact ⟨_, rfl, h⟩
    | failed e =>
      obtain ⟨rfl, rfl⟩ := Prod.mk.inj (Option.some.inj ha)
      exact ⟨_, rfl, h⟩
    | _ => simp [answer] at ha
  | symlink target link =>
    cases o with
    | done =>
      simp only [answer, h.files] at ha ⊢
      split_ifs at ha ⊢
      · obtain ⟨rfl, rfl⟩ := Prod.mk.inj (Option.some.inj ha)
        exact ⟨_, rfl, h⟩
      · obtain ⟨rfl, rfl⟩ := Prod.mk.inj (Option.some.inj ha)
        exact ⟨_, rfl, h.setFile link _⟩
    | failed e =>
      obtain ⟨rfl, rfl⟩ := Prod.mk.inj (Option.some.inj ha)
      exact ⟨_, rfl, h⟩
    | _ => simp [answer] at ha
  | createFile path =>
    cases o with
    | done =>
      obtain ⟨hopened, hshadow⟩ := h.create path
      have hw : w.create path = (r, u) := Option.some.inj ha
      rw [hw] at hopened hshadow
      exact ⟨(v.create path).2, congrArg some (Prod.ext hopened rfl), hshadow⟩
    | failed e =>
      obtain ⟨rfl, rfl⟩ := Prod.mk.inj (Option.some.inj ha)
      exact ⟨_, rfl, h⟩
    | _ => simp [answer] at ha
  | writeFile | closeFile =>
    cases o <;> simp only [answer, reduceCtorEq] at ha ⊢ <;> obtain ⟨rfl, rfl⟩ := Prod.mk.inj (Option.some.inj ha)
    all_goals first | exact ⟨_, rfl, h⟩ | exact ⟨_, rfl, h.amend _ _⟩
  | readFile | lstat | readlink | getifaddrs =>
    cases o <;> simp only [answer, reduceCtorEq, h.files, h.content] at ha ⊢ <;>
      obtain ⟨rfl, rfl⟩ := Prod.mk.inj (Option.some.inj ha) <;> exact ⟨_, rfl, h⟩
  | _ => simp [Call.isFileCall] at hc

lemma Shadow.store (h : Shadow w v) (f : Field) (x : f.Value) : Shadow (w.store f x) (v.store f x) := by
  cases f with
  | downloading => exact { h with downloading := .inl rfl }
  | childPid => exact { h with childPid := rfl }
  | uri => exact { h with uri := rfl }
  | debugMessage | wifi => exact { h with }

theorem Shadow.answer (h : Shadow w v) {c : Call} {r : c.Reply} (hc : c.Shared sys)
    (ha : answer sys c o w = some (r, u)) : ∃ u', Captived.answer sys c o v = some (r, u') ∧ Shadow u u' := by
  cases c with
  | popen command => exact h.popen ha
  | shell command => exact h.shell hc ha
  | fork command => exact h.fork ha
  | waitid pid => exact h.waitid ha
  | load f =>
    obtain ⟨rfl, rfl⟩ := answer_load ha
    cases o with
    | done =>
      cases f with
      | childPid => exact ⟨v, by rw [Captived.answer, Memory.get, h.childPid]; rfl, h⟩
      | uri => exact ⟨v, by rw [Captived.answer, Memory.get, h.uri]; rfl, h⟩
      | downloading | wifi | debugMessage => exact hc.elim
    | _ => simp [Captived.answer] at ha
  | store f x =>
    cases o with
    | done =>
      obtain rfl := answer_store ha
      exact ⟨_, rfl, h.store f x⟩
    | _ => simp [Captived.answer] at ha
  | replaceSignalEvent =>
    cases o with
    | done =>
      obtain rfl := answer_replaceSignalEvent ha
      exact ⟨_, rfl, { h with registered := rfl }⟩
    | _ => simp [Captived.answer] at ha
  | deleteSignalEvent =>
    cases o with
    | done =>
      obtain rfl := answer_deleteSignalEvent ha
      exact ⟨_, rfl, { h with registered := rfl }⟩
    | _ => simp [Captived.answer] at ha
  | addSignalEvent =>
    rcases answer_addSignalEvent ha with ⟨rfl, rfl, rfl⟩ | ⟨e, rfl, rfl, rfl⟩
    · exact ⟨_, rfl, { h with registered := rfl }⟩
    · exact ⟨_, rfl, h⟩
  | emptyOptional =>
    obtain ⟨rfl, rfl⟩ := answer_emptyOptional ha
    exact ⟨v, rfl, h⟩
  | abort a => exact (answer_abort ha).elim
  | readFile | createFile | writeFile | closeFile | rename | lstat | remove | symlink | readlink | getifaddrs =>
    exact h.fileCall rfl ha

lemma Shadow.follow (h : Shadow w v) {a : Act} (ha : act a w = some u) : ∃ u', act a v = some u' := by
  cases act_cases ha with
  | write hp hu => exact ⟨_, by rw [act, h.find, if_pos hp]⟩
  | @exit pid how hp hu =>
    obtain ⟨b, hb⟩ := hp
    exact ⟨_, by rw [act, h.find, hb]; exact if_pos rfl⟩
  | sigchld hu => exact ⟨_, rfl⟩
  | dropSigchld hr hu =>
    simp only [act] at ha
    split_ifs at ha with hd
    exact ⟨_, by rw [act, if_pos ⟨h.caught hd.1, by rw [h.registered]; exact hd.2⟩]⟩
  | setBootcount hu => exact ⟨_, rfl⟩
  | setEnv hu => exact ⟨_, rfl⟩

lemma Shadow.act (h : Shadow w v) {a : Act} {u' : World} (ha : act a w = some u) (ha' : Captived.act a v = some u')
    (hk : w.memory.downloading = true → v.memory.downloading = false → w.env.upgradeText = some (bytes "1") →
      u.env.upgradeText = some (bytes "1")) : Shadow u u' := by
  have hm := act_memory ha
  have hm' := act_memory ha'
  have hd : u'.memory.downloading = u.memory.downloading ∨
      u.memory.downloading = true ∧ u.env.upgradeText = some (bytes "1") := by
    rw [hm, hm']
    rcases h.downloading with hd | ⟨hd, hu⟩
    · exact .inl hd
    · cases hv : v.memory.downloading with
      | true => exact .inl hd.symm
      | false => exact .inr ⟨hd, hk hd hv hu⟩
  have hp : u'.memory.childPid = u.memory.childPid := by rw [hm, hm', h.childPid]
  have hr : u'.memory.uri = u.memory.uri := by rw [hm, hm', h.uri]
  have hx := h.raise
  cases act_cases ha with
  | write _ hu =>
    cases act_cases ha' with
    | write _ hu' =>
      subst hu hu'
      exact { h with env := rfl, installers := congrArg (setState _ _) h.installers, downloading := hd }
  | exit _ hu =>
    cases act_cases ha' with
    | exit _ hu' =>
      subst hu hu'
      exact { hx with installers := congrArg (setState _ _) h.installers, downloading := hd }
  | sigchld hu =>
    cases act_cases ha' with
    | sigchld hu' =>
      subst hu hu'
      exact { hx with downloading := hd }
  | dropSigchld _ hu =>
    cases act_cases ha' with
    | dropSigchld _ hu' =>
      subst hu hu'
      exact { h with caught := id, downloading := hd }
  | setBootcount hu =>
    cases act_cases ha' with
    | setBootcount hu' =>
      subst hu hu'
      exact { h with env := by rw [h.env], downloading := hd }
  | setEnv hu =>
    cases act_cases ha' with
    | setEnv hu' =>
      subst hu hu'
      exact { h with env := rfl, downloading := hd }

end RouterCard.Captived
