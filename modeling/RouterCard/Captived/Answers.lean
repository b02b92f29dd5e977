import RouterCard.Captived.World

namespace RouterCard.Captived

open Text Interaction

variable {sys : System} {w v : World} {o : Outcome}

attribute [local simp] answer

lemma answer_popen {command : Bytes} {r : PopenReply}
    (h : answer sys (.popen command) o w = some (r, v)) :
    ((∃ errno, o = .failed errno) ∧ v = w) ∨ (r.opened = true ∧ v = w.raise) := by
  cases o with
  | failed errno =>
    obtain ⟨-, rfl⟩ := Prod.mk.inj (Option.some.inj h)
    exact .inl ⟨⟨errno, rfl⟩, rfl⟩
  | done =>
    obtain ⟨p, hp, he⟩ := Option.map_eq_some_iff.mp h
    obtain ⟨rfl, rfl⟩ := Prod.mk.inj he
    refine .inr ⟨?_, rfl⟩
    unfold printenv at hp
    split_ifs at hp
    · obtain rfl := Option.some.inj hp
      cases w.env.bootcount <;> rfl
    · obtain rfl := Option.some.inj hp
      cases w.env.upgradeAvailable <;> rfl
  | reply output status =>
    simp only [answer, answerPopen] at h
    split_ifs at h
    obtain ⟨rfl, rfl⟩ := Prod.mk.inj (Option.some.inj h)
    exact .inr ⟨rfl, rfl⟩
  | _ => simp [answerPopen] at h

lemma answer_shell {command : Bytes} {r : ℤ} (h : answer sys (.shell command) o w = some (r, v)) :
    v = w ∨ v = w.raise ∨
      (command = sys.chroot ++ COMMAND_MENDER_COMMIT ∧ v = { w.raise with env := w.env.commit }) ∨
      (command = sys.chroot ++ COMMAND_RELOAD_CONNMAN ∧ v = { w.raise with loaded := w.files }) := by
  cases o with
  | failed errno => exact .inl (Prod.mk.inj (Option.some.inj h)).2.symm
  | done =>
    simp only [answer, answerShell] at h
    split_ifs at h with hc hr
    · exact .inr (.inr (.inl ⟨hc, (Prod.mk.inj (Option.some.inj h)).2.symm⟩))
    · exact .inr (.inr (.inr ⟨hr, (Prod.mk.inj (Option.some.inj h)).2.symm⟩))
    · exact .inr (.inl (Prod.mk.inj (Option.some.inj h)).2.symm)
  | partly n =>
    simp only [answer, answerShell] at h
    split_ifs at h with hc
    exact .inr (.inr (.inl ⟨hc, (Prod.mk.inj (Option.some.inj h)).2.symm⟩))
  | reply output status =>
    simp only [answer, answerShell] at h
    split_ifs at h
    exact .inr (.inl (Prod.mk.inj (Option.some.inj h)).2.symm)
  | _ => simp [answerShell] at h

lemma answer_fork {command : Bytes} {r : ℤ} (h : answer sys (.fork command) o w = some (r, v)) :
    (r < 0 ∧ v = w) ∨ (0 < r ∧ w.find r = none ∧
      v = { w with installers := w.installers ++ [⟨r, .running false⟩] }) := by
  cases o with
  | failed errno =>
    obtain ⟨rfl, rfl⟩ := Prod.mk.inj (Option.some.inj h)
    exact .inl ⟨by decide, rfl⟩
  | forked pid =>
    simp only [answer, answerFork] at h
    split_ifs at h with hp
    obtain ⟨rfl, rfl⟩ := Prod.mk.inj (Option.some.inj h)
    exact .inr ⟨hp.1, hp.2, rfl⟩
  | _ => simp [answerFork] at h

lemma answer_waitid {pid : ℤ} {r : WaitReply} (h : answer sys (.waitid pid) o w = some (r, v)) :
    (r, v) = answerWaitid pid w := by
  cases o with
  | done => exact (Option.some.inj h).symm
  | _ => simp at h

lemma answer_replaceSignalEvent (h : answer sys .replaceSignalEvent o w = some ((), v)) :
    v = { w with registered := false } := by
  cases o with
  | done => exact (Prod.mk.inj (Option.some.inj h)).2.symm
  | _ => simp at h

lemma answer_deleteSignalEvent (h : answer sys .deleteSignalEvent o w = some ((), v)) :
    v = { w with registered := false } := by
  cases o with
  | done => exact (Prod.mk.inj (Option.some.inj h)).2.symm
  | _ => simp at h

lemma answer_addSignalEvent {r : ℤ} (h : answer sys .addSignalEvent o w = some (r, v)) :
    (o = .done ∧ r = 0 ∧ v = { w with registered := true }) ∨ (∃ e, o = .failed e ∧ r = -1 ∧ v = w) := by
  cases o with
  | done =>
    obtain ⟨rfl, rfl⟩ := Prod.mk.inj (Option.some.inj h)
    exact .inl ⟨rfl, rfl, rfl⟩
  | failed e =>
    obtain ⟨rfl, rfl⟩ := Prod.mk.inj (Option.some.inj h)
    exact .inr ⟨e, rfl, rfl, rfl⟩
  | _ => simp at h

lemma answer_load {f : Field} {r : f.Value} (h : answer sys (.load f) o w = some (r, v)) :
    r = w.memory.get f ∧ v = w := by
  cases o with
  | done =>
    obtain ⟨rfl, rfl⟩ := Prod.mk.inj (Option.some.inj h)
    exact ⟨rfl, rfl⟩
  | _ => simp at h

lemma answer_store {f : Field} {x : f.Value} (h : answer sys (.store f x) o w = some ((), v)) :
    v = w.store f x := by
  cases o with
  | done => exact (Prod.mk.inj (Option.some.inj h)).2.symm
  | _ => simp at h

section streams

variable {fs : Files} {path : Bytes}

lemma opened_self (h : ∀ t, fs path ≠ some (.link t)) : opened fs path = some path := by
  rw [opened, follow]
  split
  · next t ht => exact absurd ht (h t)
  · rfl

lemma Regular.not_link {n : Option Node} (h : Regular n) (t : Bytes) : n ≠ some (.link t) := by
  obtain rfl | ⟨c, rfl⟩ := h
  · exact nofun
  · exact nofun

lemma Regular.opened (h : Regular (fs path)) : opened fs path = some path := opened_self h.not_link

lemma create_plain (h : Regular (w.files path)) : w.create path = (true, w.setFile path (some (.file []))) := by
  simp only [World.create, h.opened]
  obtain hn | ⟨c, hc⟩ := h
  · rw [hn]
  · rw [hc]

lemma amend_file {c : Bytes} (h : w.files path = some (.file c)) (f : Bytes → Bytes) :
    w.amend path f = w.setFile path (some (.file (f c))) := by
  have hopened : opened w.files path = some path := Regular.opened (.inr ⟨c, h⟩)
  simp only [World.amend, hopened, h]

lemma content_file {c : Bytes} (h : w.files path = some (.file c)) : w.content path = some c := by
  have hopened : opened w.files path = some path := Regular.opened (.inr ⟨c, h⟩)
  rw [World.content, contentAt, hopened, Option.bind_some, h]
  rfl

inductive Streamed (w : World) (path : Bytes) : World → Prop
  | same : Streamed w path w
  | set {p c : Bytes} : opened w.files path = some p → Streamed w path (w.setFile p (some (.file c)))

lemma create_streamed (w : World) (path : Bytes) : Streamed w path (w.create path).2 := by
  rw [World.create]
  split
  · exact .same
  · next hp =>
    split
    · exact .same
    · exact .same
    · exact .set hp

lemma amend_streamed (w : World) (path : Bytes) (f : Bytes → Bytes) : Streamed w path (w.amend path f) := by
  rw [World.amend]
  split
  · exact .same
  · next hp =>
    split
    · exact .set hp
    · exact .same

lemma answer_createFile {r : Bool} (h : answer sys (.createFile path) o w = some (r, v)) : Streamed w path v := by
  cases o with
  | done =>
    have hv : w.create path = (r, v) := Option.some.inj h
    have hstream := create_streamed w path
    rwa [hv] at hstream
  | failed e =>
    rw [← (Prod.mk.inj (Option.some.inj h)).2]
    exact .same
  | _ => simp at h

lemma answer_writeFile {s : Bytes} {r : Bool} (h : answer sys (.writeFile path s) o w = some (r, v)) : Streamed w path v := by
  cases o with
  | done | partly =>
    rw [← (Prod.mk.inj (Option.some.inj h)).2]
    exact amend_streamed ..
  | failed e =>
    rw [← (Prod.mk.inj (Option.some.inj h)).2]
    exact .same
  | _ => simp at h

lemma answer_closeFile {r : Bool} (h : answer sys (.closeFile path) o w = some (r, v)) : Streamed w path v := by
  cases o with
  | partly =>
    rw [← (Prod.mk.inj (Option.some.inj h)).2]
    exact amend_streamed ..
  | done | failed e =>
    rw [← (Prod.mk.inj (Option.some.inj h)).2]
    exact .same
  | _ => simp at h

lemma Streamed.exists_files (h : Streamed w path v) : ∃ fs, v = { w with files := fs } := by
  cases h with
  | same => exact ⟨w.files, rfl⟩
  | set => exact ⟨_, rfl⟩

end streams

def Call.isFileCall : Call → Bool
  | .readFile _ | .createFile _ | .writeFile .. | .closeFile _ | .rename .. | .lstat _ | .remove _
  | .symlink .. | .readlink .. | .getifaddrs => true
  | _ => false

lemma answer_fileCall {c : Call} {r : c.Reply} (hc : c.isFileCall = true)
    (h : answer sys c o w = some (r, v)) : ∃ fs, v = { w with files := fs } := by
  cases c with
  | rename old new =>
    cases o with
    | done =>
      obtain ⟨n, -, he⟩ := Option.map_eq_some_iff.mp h
      exact ⟨_, (Prod.mk.inj he).2.symm⟩
    | failed e => exact ⟨w.files, (Prod.mk.inj (Option.some.inj h)).2.symm⟩
    | _ => simp at h
  | remove path =>
    cases o with
    | done =>
      simp only [answer] at h
      split_ifs at h
      · exact ⟨_, (Prod.mk.inj (Option.some.inj h)).2.symm⟩
      · exact ⟨w.files, (Prod.mk.inj (Option.some.inj h)).2.symm⟩
    | failed e => exact ⟨w.files, (Prod.mk.inj (Option.some.inj h)).2.symm⟩
    | _ => simp at h
  | symlink target link =>
    cases o with
    | done =>
      simp only [answer] at h
      split_ifs at h
      · exact ⟨w.files, (Prod.mk.inj (Option.some.inj h)).2.symm⟩
      · exact ⟨_, (Prod.mk.inj (Option.some.inj h)).2.symm⟩
    | failed e => exact ⟨w.files, (Prod.mk.inj (Option.some.inj h)).2.symm⟩
    | _ => simp at h
  | createFile path => exact (answer_createFile h).exists_files
  | writeFile path s => exact (answer_writeFile h).exists_files
  | closeFile path => exact (answer_closeFile h).exists_files
  | readFile | lstat | readlink | getifaddrs =>
    cases o <;> simp only [answer, reduceCtorEq] at h <;>
      exact ⟨_, (Prod.mk.inj (Option.some.inj h)).2.symm⟩
  | _ => simp [Call.isFileCall] at hc

lemma answer_lstat {path : Bytes} {r : Option FileKind} (h : answer sys (.lstat path) o w = some (r, v)) :
    v = w ∧ (o = .done ∧ r = (w.files path).map fileKind ∨ o ≠ .done ∧ r = none) := by
  cases o with
  | done =>
    obtain ⟨rfl, rfl⟩ := Prod.mk.inj (Option.some.inj h)
    exact ⟨rfl, .inl ⟨rfl, rfl⟩⟩
  | failed e =>
    obtain ⟨rfl, rfl⟩ := Prod.mk.inj (Option.some.inj h)
    exact ⟨rfl, .inr ⟨Outcome.noConfusion, rfl⟩⟩
  | _ => simp at h

lemma answer_remove {path : Bytes} {r : ℤ} (h : answer sys (.remove path) o w = some (r, v)) :
    (o = .done ∧ w.files path ≠ none ∧ v = w.setFile path none) ∨ ((o = .done → w.files path = none) ∧ v = w) := by
  cases o with
  | done =>
    simp only [answer] at h
    split_ifs at h with hp
    · exact .inl ⟨rfl, Option.isSome_iff_ne_none.mp hp, (Prod.mk.inj (Option.some.inj h)).2.symm⟩
    · exact .inr ⟨fun _ => by simpa using hp, (Prod.mk.inj (Option.some.inj h)).2.symm⟩
  | failed e => exact .inr ⟨Outcome.noConfusion, (Prod.mk.inj (Option.some.inj h)).2.symm⟩
  | _ => simp at h

lemma answer_symlink {target link : Bytes} {r : ℤ} (h : answer sys (.symlink target link) o w = some (r, v)) :
    (o = .done ∧ w.files link = none ∧ r = 0 ∧ v = w.setFile link (some (.link target))) ∨
    ((o = .done → w.files link ≠ none) ∧ r = -1 ∧ v = w) := by
  cases o with
  | done =>
    simp only [answer] at h
    split_ifs at h with hp
    · obtain ⟨rfl, rfl⟩ := Prod.mk.inj (Option.some.inj h)
      exact .inr ⟨fun _ => Option.isSome_iff_ne_none.mp hp, rfl, rfl⟩
    · obtain ⟨rfl, rfl⟩ := Prod.mk.inj (Option.some.inj h)
      exact .inl ⟨rfl, by simpa using hp, rfl, rfl⟩
  | failed e =>
    obtain ⟨rfl, rfl⟩ := Prod.mk.inj (Option.some.inj h)
    exact .inr ⟨Outcome.noConfusion, rfl, rfl⟩
  | _ => simp at h

lemma answer_readlink {path : Bytes} {n : ℕ} {r : Option Bytes}
    (h : answer sys (.readlink path n) o w = some (r, v)) :
    v = w ∧ (o = .done ∧ r = (targetOf (w.files path)).map (·.take n) ∨ o ≠ .done ∧ r = none) := by
  cases o with
  | done =>
    obtain ⟨rfl, rfl⟩ := Prod.mk.inj (Option.some.inj h)
    exact ⟨rfl, .inl ⟨rfl, rfl⟩⟩
  | failed e =>
    obtain ⟨rfl, rfl⟩ := Prod.mk.inj (Option.some.inj h)
    exact ⟨rfl, .inr ⟨Outcome.noConfusion, rfl⟩⟩
  | _ => simp at h

lemma answer_readFile {path : Bytes} {r : Option Bytes} (h : answer sys (.readFile path) o w = some (r, v)) :
    v = w ∧ (o ≠ .done ∧ r = none ∨ o = .done ∧ r = w.content path) := by
  cases o with
  | done =>
    obtain ⟨rfl, rfl⟩ := Prod.mk.inj (Option.some.inj h)
    exact ⟨rfl, .inr ⟨rfl, rfl⟩⟩
  | failed n =>
    obtain ⟨rfl, rfl⟩ := Prod.mk.inj (Option.some.inj h)
    exact ⟨rfl, .inl ⟨Outcome.noConfusion, rfl⟩⟩
  | _ => simp at h

lemma answer_emptyOptional {r : Bytes} (h : answer sys .emptyOptional o w = some (r, v)) : o = .garbage r ∧ v = w := by
  cases o with
  | garbage s =>
    obtain ⟨rfl, rfl⟩ := Prod.mk.inj (Option.some.inj h)
    exact ⟨rfl, rfl⟩
  | _ => simp at h

lemma answer_abort {a : Abort} {r : Empty} (_ : answer sys (.abort a) o w = some (r, v)) : False :=
  r.elim

lemma answer_env {c : Call} {r : c.Reply} (hc : ∀ command, c ≠ .shell command)
    (h : answer sys c o w = some (r, v)) : v.env = w.env := by
  cases c with
  | shell command => exact absurd rfl (hc command)
  | popen command => rcases answer_popen h with ⟨-, rfl⟩ | ⟨-, rfl⟩ <;> rfl
  | fork command => rcases answer_fork h with ⟨-, rfl⟩ | ⟨-, -, rfl⟩ <;> rfl
  | waitid pid =>
    obtain ⟨-, rfl⟩ := Prod.mk.inj (answer_waitid h)
    split <;> rfl
  | replaceSignalEvent => rw [answer_replaceSignalEvent h]
  | addSignalEvent => rcases answer_addSignalEvent h with ⟨-, -, rfl⟩ | ⟨-, -, -, rfl⟩ <;> rfl
  | deleteSignalEvent => rw [answer_deleteSignalEvent h]
  | load f => rw [(answer_load h).2]
  | emptyOptional => rw [(answer_emptyOptional h).2]
  | store f x => rw [answer_store h]; rfl
  | abort a => exact (answer_abort h).elim
  | _ => obtain ⟨fs, rfl⟩ := answer_fileCall rfl h; rfl

lemma answer_memory {c : Call} {r : c.Reply} (hc : ∀ f x, c ≠ .store f x)
    (h : answer sys c o w = some (r, v)) : v.memory = w.memory := by
  cases c with
  | store f x => exact absurd rfl (hc f x)
  | popen command => rcases answer_popen h with ⟨-, rfl⟩ | ⟨-, rfl⟩ <;> rfl
  | shell command => rcases answer_shell h with rfl | rfl | ⟨-, rfl⟩ | ⟨-, rfl⟩ <;> rfl
  | fork command => rcases answer_fork h with ⟨-, rfl⟩ | ⟨-, -, rfl⟩ <;> rfl
  | waitid pid =>
    obtain ⟨-, rfl⟩ := Prod.mk.inj (answer_waitid h)
    split <;> rfl
  | replaceSignalEvent => rw [answer_replaceSignalEvent h]
  | addSignalEvent => rcases answer_addSignalEvent h with ⟨-, -, rfl⟩ | ⟨-, -, -, rfl⟩ <;> rfl
  | deleteSignalEvent => rw [answer_deleteSignalEvent h]
  | load f => rw [(answer_load h).2]
  | emptyOptional => rw [(answer_emptyOptional h).2]
  | abort a => exact (answer_abort h).elim
  | _ => obtain ⟨fs, rfl⟩ := answer_fileCall rfl h; rfl

inductive ActCases (w v : World) : Act → Prop
  | write {pid} : w.find pid = some ⟨pid, .running false⟩ →
      v = { w with env := .installed, installers := setState pid (.running true) w.installers } →
      ActCases w v (.write pid)
  | exit {pid how} : (∃ b, w.find pid = some ⟨pid, .running b⟩) →
      v = { w.raise with installers := setState pid (.zombie how) w.installers } →
      ActCases w v (.exit pid how)
  | sigchld : v = w.raise → ActCases w v .sigchld
  | dropSigchld : w.registered = false → v = { w with caught := false } → ActCases w v .dropSigchld
  | setBootcount {b} : v = { w with env := { w.env with bootcount := b } } → ActCases w v (.setBootcount b)
  | setEnv {e} : v = { w with env := e } → ActCases w v (.setEnv e)

lemma act_cases {a : Act} (h : act a w = some v) : ActCases w v a := by
  cases a with
  | write pid =>
    simp only [act] at h
    split_ifs at h with hp
    exact .write hp (Option.some.inj h).symm
  | exit pid how =>
    simp only [act] at h
    split_ifs at h with hp
    refine .exit ?_ (Option.some.inj h).symm
    obtain ⟨⟨q, s⟩, hf, ha⟩ := (Option.any_eq_true _ _).mp hp
    obtain rfl : q = pid := by simpa using List.find?_some hf
    cases s with
    | running b => exact ⟨b, hf⟩
    | zombie how => simp [Installer.alive] at ha
  | sigchld => exact .sigchld (Option.some.inj h).symm
  | dropSigchld =>
    simp only [act] at h
    split_ifs at h with hp
    exact .dropSigchld (by simpa using hp.2) (Option.some.inj h).symm
  | setBootcount b => exact .setBootcount (Option.some.inj h).symm
  | setEnv e => exact .setEnv (Option.some.inj h).symm

lemma act_memory {a : Act} (h : act a w = some v) : v.memory = w.memory := by
  cases act_cases h <;> subst_vars <;> rfl

lemma act_registered {a : Act} (h : act a w = some v) : v.registered = w.registered := by
  cases act_cases h <;> subst_vars <;> rfl

lemma act_files {a : Act} (h : act a w = some v) : v.files = w.files := by
  cases act_cases h with
  | write _ hv | exit _ hv | dropSigchld _ hv | sigchld hv | setBootcount hv | setEnv hv =>
    subst hv
    rfl

end RouterCard.Captived
