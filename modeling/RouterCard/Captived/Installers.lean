import RouterCard.Captived.Answers
import RouterCard.Captived.Handlers
import RouterCard.Captived.UpdateState

namespace RouterCard.Captived

open Text Interaction

variable {sys : System} {w v : World} {o : Outcome} {pid : ℤ}

namespace World

def Unwritten (w : World) (pid : ℤ) : Prop := ⟨pid, .running false⟩ ∈ w.installers

def Written (w : World) (pid : ℤ) : Prop := ⟨pid, .running true⟩ ∈ w.installers

def Alive (w : World) (pid : ℤ) : Prop := w.Unwritten pid ∨ w.Written pid

lemma unwritten_of_find (h : w.find pid = some ⟨pid, .running false⟩) : w.Unwritten pid :=
  List.mem_of_find?_eq_some h

end World

lemma mem_setState {p : Installer} {s : InstallerState} {l : List Installer} (h : p ∈ setState pid s l) :
    p = ⟨pid, s⟩ ∨ p.pid ≠ pid ∧ p ∈ l := by
  obtain ⟨q, hq, rfl⟩ := List.mem_map.mp h
  by_cases hp : q.pid = pid
  · exact .inl (if_pos hp)
  · rw [if_neg hp]
    exact .inr ⟨hp, hq⟩

structure Fades (w v : World) : Prop where
  unwritten : ∀ pid, v.Unwritten pid → w.Unwritten pid
  written : ∀ pid, v.Written pid → w.Alive pid

lemma Fades.of_eq (h : v.installers = w.installers) : Fades w v :=
  ⟨fun pid hp => by rwa [World.Unwritten, h] at hp, fun pid hp => .inr (by rwa [World.Written, h] at hp)⟩

lemma act_fades {a : Act} (h : act a w = some v) : Fades w v := by
  cases act_cases h with
  | @write pid hf hv =>
    subst hv
    refine ⟨fun p hp => ?_, fun p hp => ?_⟩
    · rcases mem_setState hp with he | ⟨-, hp⟩
      · simp at he
      · exact hp
    · rcases mem_setState hp with he | ⟨-, hp⟩
      · obtain ⟨rfl, -⟩ := Installer.mk.inj he
        exact .inl (World.unwritten_of_find hf)
      · exact .inr hp
  | exit hf hv =>
    subst hv
    refine ⟨fun p hp => ?_, fun p hp => ?_⟩
    · rcases mem_setState hp with he | ⟨-, hp⟩
      · simp at he
      · exact hp
    · rcases mem_setState hp with he | ⟨-, hp⟩
      · simp at he
      · exact .inr hp
  | sigchld hv | dropSigchld _ hv | setBootcount hv | setEnv hv => exact .of_eq (hv ▸ rfl)

lemma act_written {a : Act} {p : ℤ} (h : act a w = some v) (hp : v.Written p) : w.Written p ∨ a = .write p := by
  cases act_cases h with
  | @write pid hf hv =>
    subst hv
    rcases mem_setState hp with he | ⟨-, hp⟩
    · obtain ⟨rfl, -⟩ := Installer.mk.inj he
      exact .inr rfl
    · exact .inl hp
  | exit hf hv =>
    subst hv
    rcases mem_setState hp with he | ⟨-, hp⟩
    · simp at he
    · exact .inl hp
  | sigchld hv | dropSigchld _ hv | setBootcount hv | setEnv hv => subst hv; exact .inl hp

lemma act_write {p : ℤ} (h : act (.write p) w = some v) :
    w.Unwritten p ∧ ¬ v.Unwritten p ∧ v.env = .installed ∧ v.memory = w.memory := by
  have hc : ActCases w v (.write p) := act_cases h
  cases hc with
  | write hf hv =>
    subst hv
    refine ⟨World.unwritten_of_find hf, fun hp => ?_, rfl, rfl⟩
    rcases mem_setState hp with he | ⟨hne, -⟩
    · simp at he
    · exact hne rfl

structure Kept (w v : World) : Prop where
  downloading : v.memory.downloading = w.memory.downloading
  childPid : v.memory.childPid = w.memory.childPid
  env : v.env = w.env
  installers : v.installers = w.installers
  registered : v.registered = w.registered
  caught : w.caught = true → v.caught = true

lemma Kept.refl (w : World) : Kept w w := ⟨rfl, rfl, rfl, rfl, rfl, id⟩

lemma Kept.raise (w : World) : Kept w w.raise := ⟨rfl, rfl, rfl, rfl, rfl, fun h => by simp [World.raise, h]⟩

lemma answer_quiet {c : Call} {r : c.Reply} (hc : c.Quiet sys) (h : answer sys c o w = some (r, v)) : Kept w v := by
  cases c with
  | popen command =>
    rcases answer_popen h with ⟨-, rfl⟩ | ⟨-, rfl⟩
    · exact .refl _
    · exact .raise _
  | shell command =>
    rcases answer_shell h with rfl | rfl | ⟨he, -⟩ | ⟨-, rfl⟩
    · exact .refl _
    · exact .raise _
    · exact absurd he hc
    · exact ⟨rfl, rfl, rfl, rfl, rfl, fun h => by simp [World.raise, h]⟩
  | load f =>
    rw [(answer_load h).2]
    exact .refl w
  | emptyOptional =>
    rw [(answer_emptyOptional h).2]
    exact .refl w
  | store f x =>
    rw [answer_store h]
    cases f with
    | downloading | childPid => exact hc.elim
    | debugMessage | uri | wifi => exact ⟨rfl, rfl, rfl, rfl, rfl, id⟩
  | fork | waitid | replaceSignalEvent | addSignalEvent | deleteSignalEvent => exact hc.elim
  | abort a => exact (answer_abort h).elim
  | _ =>
    obtain ⟨fs, rfl⟩ := answer_fileCall rfl h
    exact ⟨rfl, rfl, rfl, rfl, rfl, id⟩

lemma answer_popen_kept {command : Bytes} {r : PopenReply} (h : answer sys (.popen command) o w = some (r, v)) :
    Kept w v := answer_quiet (c := .popen command) trivial h

lemma answer_waitid_cases {r : WaitReply} (h : answer sys (.waitid pid) o w = some (r, v)) :
    (r = .failed ECHILD ∧ w.find pid = none ∧ v = w) ∨
    (r = .unchanged ∧ (∃ b, w.find pid = some ⟨pid, .running b⟩) ∧ v = w) ∨
    (∃ how, r = .ended how ∧ w.find pid = some ⟨pid, .zombie how⟩ ∧
      v = { w with installers := w.installers.filter fun p => p.pid ≠ pid }) := by
  have he := answer_waitid h
  unfold answerWaitid at he
  cases hf : w.find pid with
  | none =>
    rw [hf] at he
    obtain ⟨rfl, rfl⟩ := Prod.mk.inj he
    exact .inl ⟨rfl, rfl, rfl⟩
  | some p =>
    rcases p with ⟨q, s⟩
    obtain rfl : q = pid := by simpa using List.find?_some hf
    rw [hf] at he
    cases s with
    | running b =>
      obtain ⟨rfl, rfl⟩ := Prod.mk.inj he
      exact .inr (.inl ⟨rfl, ⟨b, rfl⟩, rfl⟩)
    | zombie how =>
      obtain ⟨rfl, rfl⟩ := Prod.mk.inj he
      exact .inr (.inr ⟨how, rfl, rfl, rfl⟩)

lemma find_setState (q : ℤ) (s : InstallerState) (l : List Installer) : (setState pid s l).find? (·.pid = q) =
    if q = pid then (l.find? (·.pid = q)).map fun _ => ⟨pid, s⟩ else l.find? (·.pid = q) := by
  induction l with
  | nil => simp [setState]
  | cons p l ih =>
    have ih' : (l.map fun p => if p.pid = pid then ⟨pid, s⟩ else p).find? (·.pid = q) = _ := ih
    by_cases hp : p.pid = pid
    · by_cases hq : q = pid
      · simp [setState, hp, hq]
      · have hne : pid ≠ q := fun h => hq h.symm
        simp [setState, hp, hq, hne, ih']
    · by_cases hpq : p.pid = q
      · have hq : q ≠ pid := fun h => hp (hpq.trans h)
        simp [setState, hpq, hq]
      · simp [setState, hp, hpq, ih']

lemma act_find_none {a : Act} (h : act a w = some v) (hn : w.find pid = none) : v.find pid = none := by
  have hs : ∀ q s, (setState q s w.installers).find? (·.pid = pid) = none := fun q s => by
    have hn : w.installers.find? (·.pid = pid) = none := hn
    rw [find_setState, hn]
    split_ifs <;> rfl
  cases act_cases h with
  | write _ hv | exit _ hv =>
    subst hv
    exact hs _ _
  | sigchld hv | dropSigchld _ hv | setBootcount hv | setEnv hv => exact hv ▸ hn

lemma act_find {a : Act} {p : Installer} (h : act a w = some v) (hp : w.find pid = some p) :
    ∃ q, v.find pid = some q ∧ (p.alive = true → q.alive = true ∨ v.caught = (w.caught || w.registered)) := by
  have hs : ∀ r s, (setState r s w.installers).find? (·.pid = pid) = some (if pid = r then ⟨r, s⟩ else p) :=
    fun r s => by
      have hp : w.installers.find? (·.pid = pid) = some p := hp
      rw [find_setState, hp]
      split_ifs <;> rfl
  cases act_cases h with
  | write _ hv =>
    subst hv
    refine ⟨_, hs _ _, fun ha => .inl ?_⟩
    split_ifs
    · rfl
    · exact ha
  | exit _ hv =>
    subst hv
    exact ⟨_, hs _ _, fun _ => .inr rfl⟩
  | sigchld hv | dropSigchld _ hv | setBootcount hv | setEnv hv => exact ⟨p, hv ▸ hp, .inl⟩

lemma find_reaped : World.find { w with installers := w.installers.filter fun p => p.pid ≠ pid } pid = none := by
  refine List.find?_eq_none.mpr fun p hp => ?_
  simpa using (List.mem_filter.mp hp).2

end RouterCard.Captived
