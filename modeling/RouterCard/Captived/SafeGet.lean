import RouterCard.Captived.Handlers
import RouterCard.Captived.Shadow
import RouterCard.Interaction.Insertion

namespace RouterCard.Captived

open Text Interaction FirmwareManager

namespace SafeGet

-- Besides the GETs themselves, a SIGCHLD of their children alone may be delivered or lost.
def starts : Request → World × World → Prop
  | .http m _ _, _ => m = .get
  | .sigchld, w => w.1.caught = false

def drops : Act → World × World → Prop
  | .dropSigchld, w => w.1.caught = false
  | _, _ => False

def gets (sys : System) : (daemon sys).Insertion where
  act _ _ _ := True
  extraAct := drops
  start := starts
  answer _ _ := True

def Act.KeepsUpgrade : Act → Prop
  | .setEnv e => e.upgradeText = some (bytes "1")
  | _ => True

-- The flag is set in the first run for an upgrade that an inserted GET has seen, or may see.
def Pending (aside : Bool) (w : World × World) : Prop :=
  w.1.memory.downloading = true ∧ (w.2.memory.downloading = false ∨ aside = true) ∧
    w.1.env.upgradeText = some (bytes "1")

def Reaps (w : World) : Call → Prop
  | .waitid pid => ∃ q how, w.find pid = some ⟨q, .zombie how⟩
  | _ => False

def settledGets (sys : System) : (daemon sys).Insertion where
  act aside a w := Pending aside w → Act.KeepsUpgrade a
  extraAct := drops
  start := starts
  answer c w := ¬ Reaps w.2 c

variable {sys : System} {w v : World × World}

def Shadowed (w : World × World) : Prop := Shadow w.1 w.2

lemma keeps_upgrade {a : Act} {w u : World} (hk : Act.KeepsUpgrade a) (ha : act a w = some u)
    (hw : w.env.upgradeText = some (bytes "1")) : u.env.upgradeText = some (bytes "1") := by
  cases act_cases ha with
  | write _ hu => exact hu ▸ Env.upgradeText_installed
  | exit _ hu | sigchld hu | dropSigchld _ hu | setBootcount hu =>
    subst hu
    exact hw
  | setEnv hu =>
    subst hu
    exact hk

lemma rely_memory {aside : Bool} (h : (settledGets sys).rely aside w v) :
    v.1.memory = w.1.memory ∧ v.2.memory = w.2.memory := by
  rcases h with ⟨a, -, h₁, h₂⟩ | ⟨a, -, h₁, h₂⟩
  · exact ⟨act_memory h₁, act_memory h₂⟩
  · exact ⟨by rw [h₁], act_memory h₂⟩

lemma rely_shadowed {aside : Bool} (hw : Shadowed w) (h : (settledGets sys).rely aside w v) : Shadowed v := by
  rcases h with ⟨a, hk, h₁, h₂⟩ | ⟨a, hd, h₁, h₂⟩
  · exact Shadow.act hw h₁ h₂ fun hw₁ hw₂ hu => keeps_upgrade (hk ⟨hw₁, .inl hw₂, hu⟩) h₁ hu
  · rcases v with ⟨v₁, v₂⟩
    obtain rfl : v₁ = w.1 := h₁
    cases act_cases h₂ with
    | dropSigchld _ hv =>
      obtain rfl : v₂ = _ := hv
      have hc : w.1.caught = false := hd
      exact { hw with caught := fun h => absurd (hc.symm.trans h) Bool.false_ne_true }
    | write | exit | sigchld | setBootcount | setEnv => exact hd.elim

section alike

abbrev coupled (sys : System) : Coupling (host sys) := (settledGets sys).coupling Shadowed

-- The two worlds and a relation between the daemon's members, which only the daemon writes.
def Along (F : Memory → Memory → Prop) (w : World × World) : Prop := Shadowed w ∧ F w.1.memory w.2.memory

lemma stable_along (F : Memory → Memory → Prop) : (coupled sys).Stable (Along F) := by
  intro w v hw hr
  have hm := rely_memory hr
  refine ⟨rely_shadowed hw.1 hr, ?_⟩
  rw [hm.1, hm.2]
  exact hw.2

variable {F G : Memory → Memory → Prop} {α : Type} {post : α → World × World → Prop}

lemma along_done {a : α} (hw : Along F w) (h : ∀ v, Along F v → post a v) :
    (.done a : Prog α).Alike (coupled sys) post w :=
  .of_done (stable_along F) hw fun v hv => ⟨hv.1, h v hv⟩

lemma along_call {c : Call} {next : c.Reply → Prog α} (hc : c.Shared sys)
    (hm : ∀ o w r u, answer sys c o w = some (r, u) → u.memory = w.memory) (hw : Along F w)
    (hn : ∀ r v, Along F v → (next r).Alike (coupled sys) post v) :
    (.call (S := calls) c next : Prog α).Alike (coupled sys) post w := by
  refine .of_call (stable_along F) hw (fun v hv => hv.1) fun v o r u hv hr => ?_
  obtain ⟨u', hr', hu⟩ := Shadow.answer hv.1 hc hr
  refine ⟨r, u', hr', rfl, hn r (u, u') ⟨hu, ?_⟩⟩
  rw [hm o v.1 r u hr, hm o v.2 r u' hr']
  exact hv.2

lemma along_store {f : Field} {x : f.Value} {next : Unit → Prog α} (hw : Along F w)
    (hG : ∀ m n, F m n → G (m.set f x) (n.set f x)) (hn : ∀ v, Along G v → (next ()).Alike (coupled sys) post v) :
    (.call (S := calls) (.store f x) next : Prog α).Alike (coupled sys) post w := by
  refine .of_call (stable_along F) hw (fun v hv => hv.1) fun v o r u hv hr => ?_
  obtain ⟨u', hr', hu⟩ := Shadow.answer hv.1 (c := .store f x) trivial hr
  refine ⟨r, u', hr', rfl, hn (u, u') ⟨hu, ?_⟩⟩
  obtain rfl := answer_store hr
  obtain rfl := answer_store hr'
  exact hG _ _ hv.2

lemma along_load {f : Field} {next : f.Value → Prog α} (hw : Along F w)
    (hl : ∀ m n, F m n → next (n.get f) = next (m.get f)) (hn : ∀ x v, Along F v → (next x).Alike (coupled sys) post v) :
    (.call (S := calls) (.load f) next : Prog α).Alike (coupled sys) post w := by
  refine .of_call (stable_along F) hw (fun v hv => hv.1) fun v o r u hv hr => ?_
  obtain ⟨rfl, rfl⟩ := answer_load hr
  cases o with
  | done => exact ⟨v.2.memory.get f, v.2, rfl, hl _ _ hv.2, hn _ v hv⟩
  | _ => simp [answer] at hr

def Follows (sys : System) (α : Type) (p : Prog α) : Prop :=
  ∀ w, Shadowed w → p.Alike (coupled sys) (fun _ v => Shadowed v) w

def SameFlag (m n : Memory) : Prop := n.downloading = m.downloading

lemma along_shadowed (hw : Shadowed w) : Along (fun _ _ => True) w := ⟨hw, trivial⟩

lemma alike_firmwareState (hw : Shadowed w) :
    (firmwareState sys).Alike (coupled sys) (fun s v => Shadowed v ∧ (s ≠ none → SameFlag v.1.memory v.2.memory)) w := by
  rw [firmwareState_eq]
  refine along_call trivial (fun o w r u h => (answer_popen_frame h).1) (along_shadowed hw) fun r₁ w hw => ?_
  refine .of_call (stable_along _) hw (fun v hv => hv.1) fun v o r₂ u hv hr => ?_
  obtain ⟨u', hr', hu⟩ := Shadow.popen hv.1 hr
  refine ⟨r₂, u', hr', rfl, ?_⟩
  have hc := stateFrom_cases (envValue FIRMWARE_ENV_BOOT_COUNT r₁.result) (envValue FIRMWARE_ENV_UPGRADE_AVAIL r₂.result)
  generalize stateFrom _ _ = p at hc ⊢
  cases hc with
  | unread => exact along_done (along_shadowed hu) fun v hv => ⟨hv.1, fun h => absurd rfl h⟩
  | thrown => exact .of_call (stable_along _) (along_shadowed hu) (fun v hv => hv.1) fun v o r => r.elim
  | upgraded =>
    exact along_store (along_shadowed hu) (fun _ _ _ => rfl) fun v hv => along_done hv fun u hu => ⟨hu.1, fun _ => hu.2⟩
  | flagged _ _ ha h1 =>
    have hflag : SameFlag u.memory u'.memory := by
      rcases hu.downloading with hd | ⟨-, h⟩
      · exact hd
      · rcases read_upgrade hr with he | he
        · rw [(answer_popen_frame hr).2, ← he, ha] at h
          exact absurd (Option.some.inj h) h1
        · exact absurd (he.symm.trans ha) (by simp)
    refine along_load (F := SameFlag) ⟨hu, hflag⟩ (fun m n h => congrArg _ (congrArg _ (congrArg _ h))) fun d v hv => ?_
    exact along_done hv fun u hu => ⟨hu.1, fun _ => hu.2⟩

def SameWifi (m n : Memory) : Prop := n.wifi = m.wifi

lemma along_loadWifi {next : WifiFields → Prog α} (hw : Along SameWifi w)
    (hn : ∀ x v, Along SameWifi v → (next x).Alike (coupled sys) post v) :
    (.call (S := calls) (.load .wifi) next : Prog α).Alike (coupled sys) post w :=
  along_load hw (fun _ _ h => congrArg next h) hn

lemma wifiStatusGet_eq (b : Body) : WifiStatus.get sys b =
    .call (S := calls) (.load .wifi) fun _ => .call (S := calls) (.store .wifi ⟨[], [], [], false⟩) fun _ =>
      .call (S := calls) .getifaddrs fun entries => .call (S := calls) (.load .wifi) fun fields =>
        .call (S := calls) (.store .wifi (List.foldl WifiStatus.addEntry fields entries)) fun _ =>
          .call (S := calls) (.popen (sys.chroot ++ COMMAND_GET_SSID)) fun pipe =>
            .call (S := calls) (.load .wifi) fun fields =>
              .call (S := calls) (.store .wifi { fields with ssid := WifiStatus.ssidOf (PopenReply.result pipe) }) fun _ =>
                .call (S := calls) (.load .wifi) fun fields => .done (Resource.ok (some (WifiStatus.report fields))) := rfl

lemma follows_wifiStatusGet (b : Body) : Follows sys Resp (WifiStatus.get sys b) := by
  intro w hw
  rw [wifiStatusGet_eq]
  refine along_load (along_shadowed hw) (fun _ _ _ => rfl) fun _ w hw => ?_
  refine along_store (G := SameWifi) hw (fun _ _ _ => rfl) fun w hw => ?_
  refine along_call trivial (fun o w r u h => ?_) hw fun entries w hw => ?_
  · obtain ⟨fs, rfl⟩ := answer_fileCall rfl h
    rfl
  refine along_loadWifi hw fun fields w hw => ?_
  refine along_store (G := SameWifi) hw (fun _ _ _ => rfl) fun w hw => ?_
  refine along_call trivial (fun o w r u h => (answer_popen_frame h).1) hw fun pipe w hw => ?_
  refine along_loadWifi hw fun fields w hw => ?_
  refine along_store (G := SameWifi) hw (fun _ _ _ => rfl) fun w hw => ?_
  refine along_loadWifi hw fun fields w hw => ?_
  exact along_done hw fun v hv => hv.1

lemma closed_follows : Closed sys (Call.Shared sys) (Follows sys) where
  done a w hw := along_done (along_shadowed hw) fun v hv => hv.1
  bind hp hf w hw := .bind ((hp w hw).mono fun a v hv => hf a v hv)
  ask c hc w hw := by
    refine .of_call (stable_along _) (along_shadowed hw) (fun v hv => hv.1) fun v o r u hv hr => ?_
    obtain ⟨u', hr', hu⟩ := Shadow.answer hv.1 hc hr
    exact ⟨r, u', hr', rfl, along_done (along_shadowed hu) fun v hv => hv.1⟩
  state w hw := (alike_firmwareState hw).mono fun s v hv => hv.1
  status := follows_wifiStatusGet

lemma shared_of_works {c : Call} (h : c.Works sys) : c.Shared sys := by
  unfold Call.Works at h
  split at h <;> trivial

lemma shared_of_inspects (c : Call) (h : c.Inspects sys) : c.Shared sys := shared_of_works h.1.works

lemma follows_onSigchld : Follows sys Unit onSigchld := by
  have K : Closed sys (Call.Shared sys) (Follows sys) := closed_follows
  refine K.bind (K.ask (.load .childPid) trivial) fun pid => K.bind (K.ask (.waitid pid) trivial) fun r => ?_
  cases r with
  | failed errno => exact K.bind (K.ask (.load .childPid) trivial) fun _ => K.ask (.store .debugMessage _) trivial
  | unchanged => exact K.done ()
  | ended how =>
    refine K.bind (K.ask (.store .downloading false) trivial) fun _ => ?_
    exact K.bind (K.ask .deleteSignalEvent trivial) fun _ => K.ask (.store .debugMessage _) trivial

lemma follows_download (uri : Bytes) : Follows sys ℤ (download sys uri) := by
  have K : Closed sys (Call.Shared sys) (Follows sys) := closed_follows
  refine K.bind (K.ask (.fork _) trivial) fun id => ?_
  split_ifs
  · exact K.done _
  · refine K.bind (K.ask (.store .downloading true) trivial) fun _ => ?_
    refine K.bind (K.ask (.store .childPid id) trivial) fun _ => K.bind (K.ask .replaceSignalEvent trivial) fun _ => ?_
    refine K.bind (K.ask .addSignalEvent trivial) fun added => ?_
    split_ifs
    · exact K.done _
    · exact K.done _

lemma follows_firmwarePut (b : Body) : Follows sys Resp (Firmware.put sys b) := by
  have K : Closed sys (Call.Shared sys) (Follows sys) := closed_follows
  refine K.bind K.state fun s => ?_
  cases s with
  | none => exact K.done _
  | some s =>
    dsimp only
    split_ifs
    · exact K.done _
    · unfold Firmware.accept
      split
      · split
        · exact K.done _
        · refine K.bind (K.ask (.store .uri _) trivial) fun _ => K.bind (follows_download _) fun pid => ?_
          split_ifs
          · exact K.done _
          · exact K.firmwareGet shared_of_inspects _
        · exact K.done _
      · exact K.done _

lemma commit_shadow {w v u : World} {o : Outcome} {r : ℤ} (h : Shadow w v) (hd : SameFlag w.memory v.memory)
    (ha : answer sys (.shell (sys.chroot ++ COMMAND_MENDER_COMMIT)) o w = some (r, u)) :
    ∃ u', answer sys (.shell (sys.chroot ++ COMMAND_MENDER_COMMIT)) o v = some (r, u') ∧ Shadow u u' := by
  have hc : v.env.commit = w.env.commit := congrArg Env.commit h.env
  cases o with
  | failed errno =>
    obtain ⟨rfl, rfl⟩ := Prod.mk.inj (Option.some.inj ha)
    exact ⟨_, rfl, h⟩
  | done | partly n =>
    simp only [answer, answerShell, if_true] at ha ⊢
    obtain ⟨rfl, rfl⟩ := Prod.mk.inj (Option.some.inj ha)
    exact ⟨_, rfl, { h.raise with env := hc, downloading := .inl hd }⟩
  | reply output status =>
    simp only [answer, answerShell] at ha ⊢
    split_ifs at ha ⊢
    obtain ⟨rfl, rfl⟩ := Prod.mk.inj (Option.some.inj ha)
    exact ⟨_, rfl, h.raise⟩
  | _ => simp [answer, answerShell] at ha

lemma follows_commitPut (b : Body) : Follows sys Resp (FirmwareCommit.put sys b) := by
  have K : Closed sys (Call.Shared sys) (Follows sys) := closed_follows
  intro w hw
  refine .bind ((alike_firmwareState hw).mono fun s w hw => ?_)
  cases s with
  | none => exact K.done _ w hw.1
  | some s =>
    dsimp only
    split_ifs
    · exact K.done _ w hw.1
    · have hs : Along SameFlag w := ⟨hw.1, hw.2 (Option.some_ne_none s)⟩
      refine .of_call (stable_along SameFlag) hs (fun v hv => hv.1) fun v o r u hv hr => ?_
      obtain ⟨u', hr', hu⟩ := commit_shadow hv.1 hv.2 hr
      refine ⟨r, u', hr', rfl, ?_⟩
      have hget : Follows sys Resp (if r = 0 then Firmware.get sys none else
          pure (Resource.internalServerError (bytes "Failed to firmware_commit with error code: " ++ ofInt r))) := by
        split_ifs
        · exact K.firmwareGet shared_of_inspects _
        · exact K.done _
      exact hget (u, u') hu

theorem follows_handler (r : Request) : Follows sys (Option Resp) (handler sys r) := by
  have K : Closed sys (Call.Shared sys) (Follows sys) := closed_follows
  rcases K.handler_cases (fun _ h => shared_of_works h) r with hq | ⟨b, rfl, hp⟩ | ⟨b, rfl, hp⟩ | rfl
  · exact hq
  · rw [hp]
    exact K.map (follows_firmwarePut b) _
  · rw [hp]
    exact K.map (follows_commitPut b) _
  · exact K.map follows_onSigchld _

end alike

section aside

abbrev besides (sys : System) : Rules calls (World × World) := (settledGets sys).rules Shadowed

lemma stable_shadowed (t : Trace calls) : (besides sys).Stable t Shadowed := fun _ _ hw hr => rely_shadowed hw hr

lemma shadow_raise {w v : World} (h : Shadow w v) : Shadow w v.raise :=
  { h with caught := fun hc => (Bool.or_eq_true _ _).mpr (.inl (h.caught hc)) }

lemma shadow_popen {w v u : World} {o : Outcome} {command : Bytes} {r : PopenReply} (h : Shadow w v)
    (ha : answer sys (.popen command) o v = some (r, u)) : Shadow w u := by
  rcases answer_popen ha with ⟨-, rfl⟩ | ⟨-, rfl⟩
  · exact h
  · exact shadow_raise h

lemma shadow_reads {w v u : World} {o : Outcome} {c : Call} {r : c.Reply} (hc : c.Reads) (h : Shadow w v)
    (ha : answer sys c o v = some (r, u)) : Shadow w u := by
  cases c with
  | popen command => exact shadow_popen h ha
  | readFile | getifaddrs =>
    cases o <;> simp only [answer, reduceCtorEq] at ha <;>
      exact (Prod.mk.inj (Option.some.inj ha)).2 ▸ h
  | load f => exact (answer_load ha).2 ▸ h
  | store f x =>
    obtain rfl := answer_store ha
    cases f with
    | wifi => exact { h with }
    | downloading | childPid | debugMessage | uri => exact hc.elim
  | _ => exact hc.elim

-- The inserted GET has found an upgrade, which is still there when it clears the flag.
def Found (w : World × World) : Prop :=
  Shadowed w ∧ (w.1.memory.downloading = true → w.1.env.upgradeText = some (bytes "1"))

lemma stable_found (t : Trace calls) : (besides sys).Stable t Found := by
  intro w v hw hr
  refine ⟨rely_shadowed hw.1 hr, fun hd => ?_⟩
  rw [(rely_memory hr).1] at hd
  rcases hr with ⟨a, hk, h₁, -⟩ | ⟨a, -, h₁, -⟩
  · exact keeps_upgrade (hk ⟨hd, .inr rfl, hw.2 hd⟩) h₁ (hw.2 hd)
  · rw [h₁]
    exact hw.2 hd

variable {α : Type} {post : α → Trace calls → World × World → Prop} {t : Trace calls}

lemma beside_call {P : World × World → Prop} {c : Call} {next : c.Reply → Prog α} (hs : (besides sys).Stable t P)
    (hP : ∀ v, P v → Shadowed v) (hw : P w)
    (hn : ∀ v o r u, P v → ¬ Reaps v.2 c → answer sys c o v.2 = some (r, u) →
      (next r).Safe (besides sys) post (t ++ [⟨c, r⟩]) (v.1, u)) :
    (.call (S := calls) c next : Prog α).Safe (besides sys) post t w := by
  refine .of_call hs hw (fun v hv => ⟨hP v hv, trivial⟩) fun v r u hv ⟨o, hr, hu, ha⟩ => ?_
  rcases u with ⟨u₁, u₂⟩
  obtain rfl : u₁ = v.1 := hu
  exact hn v o r u₂ hv hr ha

lemma beside_done {a : α} (hw : Shadowed w) :
    (.done a : Prog α).Safe (besides sys) (fun _ _ v => Shadowed v) t w :=
  .of_done (stable_shadowed t) hw fun _ hv => ⟨hv, hv⟩

lemma beside_firmwareState (hw : Shadowed w) :
    (firmwareState sys).Safe (besides sys) (fun _ _ v => Shadowed v) t w := by
  rw [firmwareState_eq]
  refine beside_call (stable_shadowed t) (fun _ h => h) hw fun v o r₁ u hv _ ha => ?_
  refine beside_call (stable_shadowed _) (fun _ h => h) (shadow_popen hv ha) fun v o r₂ u hv _ ha => ?_
  have hu : Shadowed (v.1, u) := shadow_popen hv ha
  have hc := stateFrom_cases (envValue FIRMWARE_ENV_BOOT_COUNT r₁.result) (envValue FIRMWARE_ENV_UPGRADE_AVAIL r₂.result)
  generalize stateFrom _ _ = p at hc ⊢
  cases hc with
  | unread => exact beside_done hu
  | thrown => exact beside_call (stable_shadowed _) (fun _ h => h) hu fun v o r => r.elim
  | upgraded _ _ h1 =>
    have hf : Found (v.1, u) := by
      refine ⟨hu, fun _ => ?_⟩
      rcases read_upgrade ha with he | he
      · rw [← h1, he, hv.env]
      · exact absurd (he.symm.trans h1) (by simp)
    refine beside_call (stable_found _) (fun _ h => h.1) hf fun v o r u hv _ ha => ?_
    have hs : Shadow v.1 u := by
      rw [answer_store ha]
      refine { hv.1 with downloading := ?_ }
      cases hd : v.1.memory.downloading with
      | false => exact .inl rfl
      | true => exact .inr ⟨rfl, hv.2 hd⟩
    exact beside_done hs
  | flagged =>
    refine beside_call (stable_shadowed _) (fun _ h => h) hu fun v o r u hv _ ha => ?_
    have hs : Shadow v.1 u := (answer_load ha).2 ▸ hv
    exact beside_done hs

lemma beside_get (path : Bytes) (b : Body) (hw : Shadowed w) :
    (handler sys (.http .get path b)).Safe (besides sys) (fun _ _ v => Shadowed v) t w := by
  have hb : Built sys Call.Reads (handler sys (.http .get path b)) :=
    built_reads.getRequest (fun _ h => h.reads) path b
  refine Built.safe stable_shadowed (fun _ hw => hw) (fun t c w hc hw => ⟨trivial, ?_⟩)
    (fun t w hw => beside_firmwareState hw) hb hw
  rintro r ⟨u₁, u₂⟩ ⟨o, -, hu, ha⟩
  obtain rfl : u₁ = w.1 := hu
  exact shadow_reads hc hw ha

lemma waitid_unreaped {w u : World} {o : Outcome} {pid : ℤ} {r : WaitReply} (hr : ¬ Reaps w (.waitid pid))
    (ha : answer sys (.waitid pid) o w = some (r, u)) : u = w ∧ ∀ how, r ≠ .ended how := by
  have h : (r, u) = answerWaitid pid w := answer_waitid ha
  unfold answerWaitid at h
  split at h
  · obtain ⟨rfl, rfl⟩ := Prod.mk.inj h
    exact ⟨rfl, fun _ => WaitReply.noConfusion⟩
  · obtain ⟨rfl, rfl⟩ := Prod.mk.inj h
    exact ⟨rfl, fun _ => WaitReply.noConfusion⟩
  · next hf => exact absurd ⟨_, _, hf⟩ hr

lemma beside_onSigchld (hw : Shadowed w) : onSigchld.Safe (besides sys) (fun _ _ v => Shadowed v) t w := by
  have hload {f : Field} {o : Outcome} {x : f.Value} {w v u : World} (hv : Shadow w v)
      (ha : answer sys (.load f) o v = some (x, u)) : Shadow w u := (answer_load ha).2 ▸ hv
  rw [onSigchld_eq]
  refine beside_call (stable_shadowed t) (fun _ h => h) hw fun v o pid u hv _ ha => ?_
  refine beside_call (stable_shadowed _) (fun _ h => h) (hload hv ha) fun v o r u hv hr ha => ?_
  obtain ⟨rfl, hne⟩ := waitid_unreaped hr ha
  cases r with
  | unchanged => exact beside_done hv
  | ended how => exact absurd rfl (hne how)
  | failed errno =>
    refine beside_call (stable_shadowed _) (fun _ h => h) hv fun v o pid u hv _ ha => ?_
    refine beside_call (stable_shadowed _) (fun _ h => h) (hload hv ha) fun v o x u hv _ ha => ?_
    have hs : Shadow v.1 u := by
      rw [answer_store ha]
      exact { hv with }
    exact beside_done hs

end aside

theorem settledGets_sound (sys : System) : (settledGets sys).Sound Shadowed where
  follow a w v hw ha := Shadow.follow hw ha
  idle w v hw hr := rely_shadowed hw hr
  own r w v hw ha := by
    have hf : Follows sys (Option Resp) (handler sys r) := follows_handler r
    cases r with
    | http m path b =>
      obtain rfl := Option.some.inj ha
      exact ⟨w.2, rfl, hf (w.1, w.2) hw⟩
    | sigchld =>
      have ha' : (if w.1.caught ∧ w.1.registered then some { w.1 with caught := false } else none) = some v := ha
      split_ifs at ha' with hc
      obtain rfl := Option.some.inj ha'
      have hw' : Shadowed ({ w.1 with caught := false }, { w.2 with caught := false }) := { hw with caught := id }
      exact ⟨_, if_pos ⟨hw.caught hc.1, hw.registered.trans hc.2⟩, hf _ hw'⟩
  extra r w v hw hs ha := by
    cases r with
    | http m path b =>
      obtain rfl : m = .get := hs
      obtain rfl := Option.some.inj ha
      exact beside_get path b hw
    | sigchld =>
      have hc : w.1.caught = false := hs
      have ha' : (if w.2.caught ∧ w.2.registered then some { w.2 with caught := false } else none) = some v := ha
      split_ifs at ha' with hc'
      obtain rfl := Option.some.inj ha'
      have hw' : Shadowed (w.1, { w.2 with caught := false }) :=
        { hw with caught := fun h => absurd (hc.symm.trans h) Bool.false_ne_true }
      exact .bind ((beside_onSigchld hw').mono fun _ _ _ hv => beside_done hv)

lemma initial_shadowed (c : (daemon sys).Config) (hc : IsInitial sys c) :
    c.thread = none ∧ Shadowed (c.world, c.world) := by
  obtain ⟨env, files, rfl⟩ := hc
  exact ⟨rfl, rfl, rfl, rfl, rfl, rfl, rfl, rfl, id, .inl rfl⟩

theorem get_safe {t : Server.Twin (daemon sys)} (ht : t.Reachable (IsInitial sys) (settledGets sys).ok) :
    t.own = t.base.log ∧
      (∀ b, t.base.thread = some b → ∃ k, t.woven.thread = some ⟨b.request, k, b.rest⟩) ∧
      ∀ l d, t.base.step l = some d → l.isAct = true ∨ t.aside = false → ∃ e, t.woven.step l = some e := by
  obtain ⟨hl, hm⟩ := (settledGets_sound sys).matched initial_shadowed ht
  refine ⟨hl, fun b hb => ?_, fun l d hd h => hm.follows (settledGets_sound sys) h hd⟩
  cases hm with
  | idle h₁ h₂ hI => simp [hb] at h₁
  | serving h₁ h₂ hp =>
    obtain rfl := Option.some.inj (hb.symm.trans h₁)
    exact ⟨_, h₂⟩
  | aside h₁ h₂ hs => simp [hb] at h₁

namespace Sample

open Captived.Sample

def begun : Server.Twin (daemon bare) := ⟨first, first, first.log⟩

def getFirmware : List (daemon bare).Label := .start (.http .get URI_FIRMWARE none) :: done 6 ++ [.finish]

def inserting : List (Server.Stitch (daemon bare)) :=
  updating.map .own ++ [.own (acted (.write 7))] ++ getFirmware.map .extra

def isGet : Server.Stitch (daemon bare) → Bool
  | .own _ | .extra .finish | .extra (.move (.answer _)) | .extra (.start (.http .get _ _)) => true
  | _ => false

def isInserted (t : Server.Twin (daemon bare)) : Server.Stitch (daemon bare) → Bool
  | .extra (.start .sigchld) => !t.base.world.caught
  | l => isGet l

def isWaitid : Option Call → Bool
  | some (.waitid _) => true
  | _ => false

def settled (t : Server.Twin (daemon bare)) : Server.Stitch (daemon bare) → Bool
  | .own (.move (.act a)) => !a.setsEnv
  | .extra (.move (.answer _)) => !isWaitid t.woven.nextCall
  | l => isGet l

lemma gets_ok (t : Server.Twin (daemon bare)) (l : Server.Stitch (daemon bare)) (h : isInserted t l = true) :
    (gets bare).ok t l := by
  cases l with
  | own l => rcases l with _ | (_ | _) | _ <;> trivial
  | extra l =>
    rcases l with (⟨m, path, b⟩ | _) | (o | a) | _
    · cases m with
      | get => rfl
      | put | post => simp [isInserted, isGet] at h
    · exact Bool.not_eq_true' _ |>.mp h
    · exact fun _ _ => trivial
    · simp [isInserted, isGet] at h
    · trivial

lemma settledGets_ok (t : Server.Twin (daemon bare)) (l : Server.Stitch (daemon bare)) (h : settled t l = true) :
    (settledGets bare).ok t l := by
  cases l with
  | own l =>
    rcases l with _ | (_ | a) | _
    · trivial
    · trivial
    · intro _
      cases a with
      | setEnv e => simp [settled, Act.setsEnv] at h
      | _ => trivial
    · trivial
  | extra l =>
    rcases l with (⟨m, path, b⟩ | _) | (o | a) | _
    · cases m with
      | get => rfl
      | put | post => simp [settled, isGet] at h
    · simp [settled, isGet] at h
    · intro k hk hr
      cases k with
      | waitid pid => simp [settled, hk, isWaitid] at h
      | _ => exact hr
    · simp [settled, isGet] at h
    · trivial

def reverted : List (Server.Stitch (daemon bare)) :=
  inserting ++ [.own (acted (.setEnv committed))] ++ getFirmware.map .own ++
    (.start (.http .put URI_FIRMWARE install) :: done 3).map .own

def callback (n : ℕ) : List (daemon bare).Label := .start .sigchld :: done n ++ [.finish]

-- The installer ends while the callback runs that only the inserted GET has brought about.
def reaped : List (Server.Stitch (daemon bare)) :=
  (updating ++ callback 2).map .own ++ getFirmware.map .extra ++ ((callback 5).take 2).map .extra ++
    [.own (acted (.exit 7 (.exited 1)))] ++ ((callback 5).drop 2).map .extra ++
    (.start (.http .put URI_FIRMWARE install) :: done 3).map .own

-- `std::stoi` throws on the bootcount that the inserted GET reads.
def thrown : List (Server.Stitch (daemon bare)) :=
  .own (acted (.setBootcount (some (bytes "x")))) :: (.start (.http .get URI_FIRMWARE none) :: done 5).map .extra

def updateState : Request × Option Resp → Option Bytes
  | (_, some (_, some obj)) =>
    match obj.objectGet (bytes "update_state") with
    | some (.string s) => some s.val
    | _ => none
  | _ => none

def isRefused (t : (daemon bare).Thread) : Bool :=
  match t.rest with
  | .done (some (.badRequest, _)) => true
  | _ => false

def isStarted (t : (daemon bare).Thread) : Bool :=
  match t.rest with
  | .call (.store .uri _) _ => true
  | _ => false

def isThrowing (t : (daemon bare).Thread) : Bool :=
  match t.rest with
  | .call (.abort _) _ => true
  | _ => false

lemma reachable_inserted {ls : List (Server.Stitch (daemon bare))} {t : Server.Twin (daemon bare)}
    (h : begun.run isInserted ls = some t) : t.Reachable (IsInitial bare) (gets bare).ok :=
  (Server.Twin.Reachable.init ⟨_, _, rfl⟩).run gets_ok h

end Sample

set_option maxRecDepth 100000 in
theorem get_safe_inserted : ∃ t : Server.Twin (daemon Captived.Sample.bare),
    Sample.begun.run Sample.settled Sample.inserting = some t ∧
    t.base.world.memory.downloading = true ∧ t.woven.world.memory.downloading = false ∧ t.own = t.base.log ∧
    ∃ e, t.woven.step (.start (.http .get URI_FIRMWARE none)) = some e := by
  have h : ((Sample.begun.run Sample.settled Sample.inserting).map fun t =>
      (t.base.world.memory.downloading, t.woven.world.memory.downloading, t.aside,
        (t.base.step (.start (.http .get URI_FIRMWARE none))).isSome)) = some (true, false, false, true) := by decide
  obtain ⟨t, ht, he⟩ := Option.map_eq_some_iff.mp h
  simp only [Prod.mk.injEq] at he
  obtain ⟨hb, hw, ha, hs⟩ := he
  have hr : t.Reachable (IsInitial Captived.Sample.bare) (settledGets Captived.Sample.bare).ok :=
    (Server.Twin.Reachable.init ⟨_, _, rfl⟩).run Sample.settledGets_ok ht
  obtain ⟨ho, -, hf⟩ := get_safe hr
  obtain ⟨d, hd⟩ := Option.isSome_iff_exists.mp hs
  exact ⟨t, ht, hb, hw, ho, hf _ d hd (.inr ha)⟩

set_option maxRecDepth 100000 in
theorem get_unsafe :
    (∃ t : Server.Twin (daemon Captived.Sample.bare),
      t.Reachable (IsInitial Captived.Sample.bare) (gets Captived.Sample.bare).ok ∧ t.own ≠ t.base.log ∧
        t.base.thread.any Sample.isRefused = true ∧ t.woven.thread.any Sample.isStarted = true) ∧
    (∃ t : Server.Twin (daemon Captived.Sample.bare),
      t.Reachable (IsInitial Captived.Sample.bare) (gets Captived.Sample.bare).ok ∧
        t.base.thread.any Sample.isRefused = true ∧ t.woven.thread.any Sample.isStarted = true) ∧
    ∃ t : Server.Twin (daemon Captived.Sample.bare),
      t.Reachable (IsInitial Captived.Sample.bare) (gets Captived.Sample.bare).ok ∧
        t.base.thread.isNone = true ∧ t.woven.thread.any Sample.isThrowing = true := by
  refine ⟨?_, ?_, ?_⟩
  · have h : ((Sample.begun.run Sample.isInserted Sample.reverted).map fun t =>
        (t.base.log.map Sample.updateState, t.own.map Sample.updateState,
          t.base.thread.any Sample.isRefused && t.woven.thread.any Sample.isStarted)) =
        some ([some FIRMWARE_STATE_DOWNLOADING, some FIRMWARE_STATE_DOWNLOADING],
          [some FIRMWARE_STATE_DOWNLOADING, some FIRMWARE_STATE_NORMAL], true) := by decide
    obtain ⟨t, ht, he⟩ := Option.map_eq_some_iff.mp h
    simp only [Prod.mk.injEq, Bool.and_eq_true] at he
    obtain ⟨hb, ho, hr, hs⟩ := he
    refine ⟨t, Sample.reachable_inserted ht, fun hl => ?_, hr, hs⟩
    rw [hl, hb] at ho
    exact absurd ho (by decide)
  · have h : ((Sample.begun.run Sample.isInserted Sample.reaped).map fun t =>
        t.base.thread.any Sample.isRefused && t.woven.thread.any Sample.isStarted) = some true := by decide
    obtain ⟨t, ht, he⟩ := Option.map_eq_some_iff.mp h
    exact ⟨t, Sample.reachable_inserted ht, (Bool.and_eq_true _ _).mp he⟩
  · have h : ((Sample.begun.run Sample.isInserted Sample.thrown).map fun t =>
        t.base.thread.isNone && t.woven.thread.any Sample.isThrowing) = some true := by decide
    obtain ⟨t, ht, he⟩ := Option.map_eq_some_iff.mp h
    exact ⟨t, Sample.reachable_inserted ht, (Bool.and_eq_true _ _).mp he⟩

end SafeGet

end RouterCard.Captived
