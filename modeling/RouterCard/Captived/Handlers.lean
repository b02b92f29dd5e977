import RouterCard.Captived.Daemon

namespace RouterCard.Captived

open Text Interaction FirmwareManager

variable {sys : System} {C : Call → Prop} {α β : Type}

inductive Built (sys : System) (C : Call → Prop) : Prog α → Prop
  | done (a : α) : Built sys C (.done a)
  | call {c : Call} {next : c.Reply → Prog α} : C c → (∀ r, Built sys C (next r)) →
      Built sys C (.call (S := calls) c next)
  | state {k : Option Bytes → Prog α} : (∀ s, Built sys C (k s)) → Built sys C (firmwareState sys >>= k)

def Call.Evaluates : Call → Prop
  | .popen _ | .load .downloading | .store .downloading _ | .abort (.stoi _) => True
  | _ => False

lemma calls_stateFrom (b u : Option Bytes) : (stateFrom b u).Calls Call.Evaluates := by
  unfold stateFrom
  split
  · refine Program.Calls.bind ?_ fun n => ?_
    · unfold FirmwareManager.stoi
      split
      · trivial
      · exact ⟨trivial, fun r => r.elim⟩
    · split_ifs
      · exact ⟨trivial, fun _ => trivial⟩
      · exact ⟨trivial, fun _ => trivial⟩
      · refine ⟨trivial, fun downloading : Bool => ?_⟩
        cases downloading <;> trivial
  · trivial

lemma calls_firmwareState : (firmwareState sys).Calls Call.Evaluates := by
  rw [firmwareState_eq]
  exact ⟨trivial, fun r₁ => ⟨trivial, fun r₂ => calls_stateFrom _ _⟩⟩

namespace Built

lemma bind {p : Prog α} {f : α → Prog β} (hp : Built sys C p) (hf : ∀ a, Built sys C (f a)) :
    Built sys C (p >>= f) := by
  induction hp with
  | done a => exact hf a
  | call hc _ ih => exact .call hc ih
  | state _ ih =>
    rw [bind_assoc]
    exact .state ih

lemma mono {D : Call → Prop} {p : Prog α} (hp : Built sys C p) (h : ∀ c, C c → D c) : Built sys D p := by
  induction hp with
  | done a => exact .done a
  | call hc _ ih => exact .call (h _ hc) ih
  | state _ ih => exact .state ih

lemma ask {c : Call} (hc : C c) : Built sys C (Captived.ask c) := .call hc fun r => .done r

lemma all_calls {P : Call → Prop} {p : Prog α} (hp : Built sys C p) (hC : ∀ c, C c → P c)
    (hE : ∀ c : Call, c.Evaluates → P c) : p.Calls P := by
  induction hp with
  | done a => trivial
  | call hc _ ih => exact ⟨hC _ hc, ih⟩
  | state _ ih => exact (calls_firmwareState.mono hE).bind ih

theorem safe {W : Type} {R : Rules calls W} {I : W → Prop} (hst : ∀ t, R.Stable t I) (hal : ∀ w, I w → R.always w)
    (hcall : ∀ t c w, C c → I w → R.allowed t c w ∧ ∀ r u, R.answers t c w r u → I u)
    (hstate : ∀ t w, I w → (firmwareState sys).Safe R (fun _ _ v => I v) t w) {p : Prog α}
    (hp : Built sys C p) {t : Trace calls} {w : W} (hw : I w) : p.Safe R (fun _ _ v => I v) t w := by
  induction hp generalizing t w with
  | done a => exact .of_done (hst t) hw fun v hv => ⟨hal v hv, hv⟩
  | call hc _ ih =>
    refine .of_call (hst t) hw (fun v hv => ⟨hal v hv, (hcall t _ v hc hv).1⟩) fun v r u hv hr => ?_
    exact ih r ((hcall t _ v hc hv).2 r u hr)
  | state _ ih => exact .bind ((hstate t w hw).mono fun s t v hv => ih s hv)

end Built

def Call.Reads : Call → Prop
  | .popen _ | .readFile _ | .getifaddrs | .load .wifi | .load .uri | .store .wifi _ => True
  | _ => False

def Call.Quiet (sys : System) : Call → Prop
  | .fork _ | .waitid _ | .replaceSignalEvent | .addSignalEvent | .deleteSignalEvent => False
  | .store .downloading _ | .store .childPid _ => False
  | .shell command => command ≠ sys.chroot ++ COMMAND_MENDER_COMMIT
  | _ => True

def Call.Looks : Call → Prop
  | .popen _ | .readFile _ | .load .uri => True
  | _ => False

def Call.Works (sys : System) : Call → Prop
  | .popen _ | .readFile _ | .createFile _ | .writeFile .. | .closeFile _ | .rename .. | .lstat _ | .remove _
  | .symlink .. | .readlink .. | .load .uri | .emptyOptional | .abort _ => True
  | .shell command => command ≠ sys.chroot ++ COMMAND_MENDER_COMMIT
  | _ => False

lemma Call.Looks.reads {c : Call} (h : c.Looks) : c.Reads := by
  unfold Call.Looks at h
  split at h <;> trivial

lemma Call.Looks.works {c : Call} (h : c.Looks) : c.Works sys := by
  unfold Call.Looks at h
  split at h <;> trivial

def Call.PrintsEnv (sys : System) : Call → Prop
  | .popen command => command = sys.chroot ++ printenvCommand FIRMWARE_ENV_BOOT_COUNT ∨
      command = sys.chroot ++ printenvCommand FIRMWARE_ENV_UPGRADE_AVAIL
  | _ => False

-- A GET reads the boot loader's environment in whole evaluations of firmware_state only.
def Call.Inspects (sys : System) (c : Call) : Prop := c.Looks ∧ ¬ c.PrintsEnv sys

lemma Call.Inspects.reads {c : Call} (h : c.Inspects sys) : c.Reads := h.1.reads

lemma inspects_of_works (hC : ∀ c : Call, c.Works sys → C c) (c : Call) (h : c.Inspects sys) : C c := hC c h.1.works

lemma inspects_popen {command : Bytes} (hb : command ≠ printenvCommand FIRMWARE_ENV_BOOT_COUNT)
    (hu : command ≠ printenvCommand FIRMWARE_ENV_UPGRADE_AVAIL) : (Call.popen (sys.chroot ++ command)).Inspects sys :=
  ⟨trivial, fun h => h.elim (fun h => hb (List.append_cancel_left h)) fun h => hu (List.append_cancel_left h)⟩

lemma Call.Works.quiet {c : Call} (h : c.Works sys) : c.Quiet sys := by
  unfold Call.Works at h
  split at h <;> trivial

lemma Call.Reads.quiet {c : Call} (h : c.Reads) : c.Quiet sys := by
  unfold Call.Reads at h
  split at h <;> trivial

structure Closed (sys : System) (C : Call → Prop) (Q : (α : Type) → Prog α → Prop) : Prop where
  done : ∀ {α : Type} (a : α), Q α (.done a)
  bind : ∀ {α β : Type} {p : Prog α} {f : α → Prog β}, Q α p → (∀ a, Q β (f a)) → Q β (p >>= f)
  ask : ∀ c, C c → Q c.Reply (ask c)
  state : Q (Option Bytes) (firmwareState sys)
  status : ∀ b, Q Resp (WifiStatus.get sys b)

namespace Closed

variable {Q : (α : Type) → Prog α → Prop} (K : Closed sys C Q)

section reading

variable (hC : ∀ c : Call, c.Inspects sys → C c)

include K

lemma map {p : Prog α} (hp : Q α p) (f : α → β) : Q β (f <$> p) := by
  rw [← bind_pure_comp]
  exact K.bind hp fun a => K.done _

lemma addResource {c : Child} (h : ∀ b, Q Resp (c.res.get b)) (obj : Json) :
    Q Json (AggregateResource.addResource obj c) := by
  refine K.bind (h _) fun resp => ?_
  dsimp only
  split_ifs <;> exact K.done _

lemma addResources {children : List Child} (h : ∀ c ∈ children, ∀ b, Q Resp (c.res.get b)) (obj : Json) :
    Q Json (AggregateResource.addResources obj children) := by
  induction children generalizing obj with
  | nil => exact K.done obj
  | cons c children ih =>
    exact K.bind (K.addResource (h c (.head _)) obj) fun obj => ih (fun d hd => h d (.tail c hd)) obj

lemma aggregateGet {children : List Child} (h : ∀ c ∈ children, ∀ b, Q Resp (c.res.get b)) (b : Body) :
    Q Resp (AggregateResource.get children b) :=
  K.bind (K.addResources h _) fun _ => K.done _

lemma updateStateGet (b : Body) : Q Resp (FirmwareUpdateState.get sys b) :=
  K.bind K.state fun s => by cases s <;> exact K.done _

include hC

lemma readline (f : Bytes) : Q (Option Bytes) (sys.readline f) :=
  K.bind (K.ask (.readFile _) (hC _ ⟨trivial, id⟩)) fun _ => K.done _

lemma read (f : Bytes) : Q (Option Bytes) (sys.read f) :=
  K.bind (K.ask (.readFile _) (hC _ ⟨trivial, id⟩)) fun _ => K.done _

lemma executeResult {c : Bytes} (hb : c ≠ printenvCommand FIRMWARE_ENV_BOOT_COUNT)
    (hu : c ≠ printenvCommand FIRMWARE_ENV_UPGRADE_AVAIL) : Q (ℤ × Bytes) (sys.executeResult c) :=
  K.bind (K.ask (.popen _) (hC _ (inspects_popen hb hu))) fun _ => K.done _

lemma lineGet (file : Bytes) (b : Body) : Q Resp (LineResource.get sys file b) :=
  K.bind (K.readline hC file) fun line => by cases line <;> exact K.done _

lemma artifactGet (file : Bytes) (p : Pattern) (b : Body) : Q Resp (ArtifactInfo.get sys file p b) :=
  K.bind (K.bind (K.readline hC file) fun _ => K.done _) fun v => by cases v <;> exact K.done _

lemma uptimeGet (b : Body) : Q Resp (Uptime.get sys b) :=
  K.bind (K.bind (K.readline hC _) fun _ => K.done _) fun v => by cases v <;> exact K.done _

lemma wifiConfigGet (file : Bytes) (b : Body) : Q Resp (WifiConfig.get sys file b) :=
  K.bind (K.read hC file) fun v => by cases v <;> exact K.done _

lemma routerMode : Q (Option Bytes) (Mode.routerMode sys) :=
  K.bind (K.executeResult hC (by decide) (by decide)) fun _ => K.done _

lemma modeGet (b : Body) : Q Resp (Mode.get sys b) :=
  K.bind (K.routerMode hC) fun v => by cases v <;> exact K.done _

lemma firmwareUriGet (b : Body) : Q Resp (FirmwareUri.get b) :=
  K.bind (K.ask (.load .uri) (hC _ ⟨trivial, id⟩)) fun _ => by split_ifs <;> exact K.done _

lemma firmwareChildren : ∀ c ∈ Firmware.children sys, ∀ b, Q Resp (c.res.get b) := by
  intro c hc
  simp only [Firmware.children, List.mem_cons, List.not_mem_nil, or_false] at hc
  rcases hc with rfl | rfl | rfl | rfl
  · exact K.firmwareUriGet hC
  · exact K.artifactGet hC _ _
  · exact K.artifactGet hC _ _
  · exact K.updateStateGet

lemma firmwareGet (b : Body) : Q Resp (Firmware.get sys b) := K.aggregateGet (K.firmwareChildren hC) b

lemma macAddrsGet (b : Body) : Q Resp ((Main.macAddrs sys).get b) := by
  refine K.aggregateGet (fun c hc => ?_) b
  simp only [List.mem_cons, List.not_mem_nil, or_false] at hc
  rcases hc with rfl | rfl | rfl | rfl <;> exact K.lineGet hC _

lemma wifiConfigsGet (b : Body) : Q Resp ((Main.wifiConfigs sys).get b) := by
  refine K.aggregateGet (fun c hc => ?_) b
  simp only [List.mem_cons, List.not_mem_nil, or_false] at hc
  rcases hc with rfl | rfl <;> exact K.wifiConfigGet hC _

lemma wifiGet (b : Body) : Q Resp ((Main.wifi sys).get b) := by
  refine K.aggregateGet (fun c hc => ?_) b
  simp only [List.mem_cons, List.not_mem_nil, or_false] at hc
  rcases hc with rfl | rfl
  · exact K.wifiConfigsGet hC
  · exact K.status

lemma rootGet (b : Body) : Q Resp ((Main.root sys).get b) := by
  refine K.aggregateGet (fun c hc => ?_) b
  simp only [List.mem_cons, List.not_mem_nil, or_false] at hc
  rcases hc with rfl | rfl | rfl | rfl | rfl | rfl | rfl | rfl | rfl | rfl
  · exact K.lineGet hC _
  · exact K.artifactGet hC _ _
  · exact K.firmwareGet hC
  · exact K.artifactGet hC _ _
  · exact K.macAddrsGet hC
  · exact K.lineGet hC _
  · exact K.lineGet hC _
  · exact K.modeGet hC
  · exact K.uptimeGet hC
  · exact K.wifiGet hC

theorem get {r : Resource} (hr : r ∈ Main.registered sys) (b : Body) : Q Resp (r.get b) := by
  simp only [Main.registered, List.mem_cons, List.not_mem_nil, or_false] at hr
  rcases hr with rfl | rfl | rfl | rfl | rfl | rfl | rfl | rfl | rfl | rfl | rfl | rfl | rfl | rfl | rfl | rfl | rfl |
    rfl | rfl | rfl | rfl
  · exact K.lineGet hC _ b
  · exact K.lineGet hC _ b
  · exact K.lineGet hC _ b
  · exact K.lineGet hC _ b
  · exact K.lineGet hC _ b
  · exact K.macAddrsGet hC b
  · exact K.lineGet hC _ b
  · exact K.lineGet hC _ b
  · exact K.artifactGet hC _ _ b
  · exact K.firmwareGet hC b
  · exact K.done _
  · exact K.artifactGet hC _ _ b
  · exact K.modeGet hC b
  · exact K.uptimeGet hC b
  · exact K.wifiConfigGet hC _ b
  · exact K.wifiConfigGet hC _ b
  · exact K.wifiConfigsGet hC b
  · exact K.status b
  · exact K.wifiGet hC b
  · exact K.done _
  · exact K.rootGet hC b

theorem getRequest (path : Bytes) (b : Body) : Q (Option Resp) (handler sys (.http .get path b)) := by
  have hh : handler sys (.http .get path b) = some <$> serve sys .get path b := rfl
  rw [hh, serve]
  refine K.map ?_ some
  cases hf : (Main.registered sys).find? fun r => r.path = path with
  | none => exact K.done _
  | some r => exact K.get hC (List.mem_of_find?_eq_some hf) b

end reading

section writing

variable (hC : ∀ c : Call, c.Works sys → C c)

include K hC

lemma write (f s : Bytes) : Q Bool (sys.write f s) := by
  refine K.bind (K.ask (.createFile _) (hC _ trivial)) fun opened => ?_
  cases opened with
  | false => exact K.done _
  | true =>
    refine K.bind (K.ask (.writeFile ..) (hC _ trivial)) fun written => ?_
    refine K.bind (K.ask (.closeFile _) (hC _ trivial)) fun closed => ?_
    dsimp only
    split_ifs
    · exact K.done _
    · exact K.bind (K.ask (.rename ..) (hC _ trivial)) fun _ => K.done _

lemma execute {command : Bytes} (h : command ≠ COMMAND_MENDER_COMMIT) : Q ℤ (sys.execute command) :=
  K.ask (.shell _) (hC _ fun he => h (List.append_cancel_left he))

lemma abort (a : Abort) : Q α (Captived.abort a) := by
  have h : Q α (Captived.ask (.abort a) >>= fun r => Empty.elim r) :=
    K.bind (K.ask (.abort a) (hC _ trivial)) fun r => Empty.elim r
  exact h

lemma setContents (file s : Bytes) : Q Bool (WifiConfig.setContents sys file s) := by
  refine K.bind (K.bind (K.read (inspects_of_works hC) file) fun _ => K.done _) fun hash => ?_
  have hderef : Q Bytes (WifiConfig.deref hash) := by
    cases hash with
    | none => exact K.ask .emptyOptional (hC _ trivial)
    | some hash => exact K.done _
  refine K.bind hderef fun hash => ?_
  split_ifs
  · exact K.done _
  · refine K.bind (K.write hC file s) fun written => ?_
    cases written with
    | false => exact K.done _
    | true => exact K.bind (K.execute hC (by decide)) fun _ => K.done _

lemma wifiConfigPut (file : Bytes) (b : Body) : Q Resp (WifiConfig.put sys file b) := by
  unfold WifiConfig.put
  split
  · split
    · exact K.done _
    · refine K.bind (K.setContents hC file _) fun ok => ?_
      cases ok with
      | false => exact K.done _
      | true => exact K.wifiConfigGet (inspects_of_works hC) file (some .null)
    · exact K.done _
  · exact K.done _

lemma setSymlinkTarget (target link : Bytes) : Q Bool (sys.setSymlinkTarget target link) := by
  refine K.bind (K.ask (.lstat _) (hC _ trivial)) fun stat => ?_
  rcases stat with _ | _ | _ | _ | _
  · exact K.bind (K.ask (.symlink ..) (hC _ trivial)) fun _ => K.done _
  · refine K.bind (K.ask (.remove _) (hC _ trivial)) fun _ => ?_
    exact K.bind (K.ask (.symlink ..) (hC _ trivial)) fun _ => K.done _
  all_goals exact K.done _

lemma routerModeConfig : Q (Option Bytes) (Mode.routerModeConfig sys) := by
  refine K.bind (K.bind (K.ask (.readlink ..) (hC _ trivial)) fun _ => K.done _) fun link => ?_
  cases link with
  | none => exact K.done _
  | some link =>
    dsimp only
    split
    · exact K.done _
    · exact K.abort hC _

lemma setRouterModeConfig (mode : Bytes) : Q Bool (Mode.setRouterModeConfig sys mode) := by
  unfold Mode.setRouterModeConfig
  split_ifs
  · exact K.done _
  · exact K.setSymlinkTarget hC _ _

lemma setRouterMode (mode : Bytes) : Q Bool (Mode.setRouterMode sys mode) := by
  unfold Mode.setRouterMode
  split_ifs
  · exact K.done _
  · refine K.bind (K.setRouterModeConfig hC mode) fun ok => ?_
    cases ok with
    | false => exact K.done _
    | true =>
      refine K.bind (K.routerMode (inspects_of_works hC)) fun running => ?_
      split_ifs
      · exact K.bind (K.execute hC (by decide)) fun _ => K.done _
      · exact K.done _

lemma modePut (b : Body) : Q Resp (Mode.put sys b) := by
  unfold Mode.put
  split
  · split_ifs
    · exact K.done _
    · refine K.bind (K.setRouterMode hC _) fun ok => ?_
      cases ok with
      | false => exact K.done _
      | true => exact K.bind (K.routerModeConfig hC) fun mode => by cases mode <;> exact K.done _
  · exact K.done _

lemma rebootPost (b : Body) : Q Resp (Reboot.post sys b) := by
  refine K.bind (K.execute hC (by decide)) fun result => ?_
  split_ifs <;> exact K.done _

lemma post {r : Resource} (hr : r ∈ Main.registered sys) (b : Body) : Q Resp (r.post b) := by
  simp only [Main.registered, List.mem_cons, List.not_mem_nil, or_false] at hr
  rcases hr with rfl | rfl | rfl | rfl | rfl | rfl | rfl | rfl | rfl | rfl | rfl | rfl | rfl | rfl | rfl | rfl | rfl |
    rfl | rfl | rfl | rfl
  all_goals first | exact K.rebootPost hC b | exact K.done _

lemma put {r : Resource} (hr : r ∈ Main.registered sys) (b : Body) :
    Q Resp (r.put b) ∨ r = Firmware.resource sys ∨ r = FirmwareCommit.resource sys := by
  simp only [Main.registered, List.mem_cons, List.not_mem_nil, or_false] at hr
  rcases hr with rfl | rfl | rfl | rfl | rfl | rfl | rfl | rfl | rfl | rfl | rfl | rfl | rfl | rfl | rfl | rfl | rfl |
    rfl | rfl | rfl | rfl
  · exact .inl (K.done _)
  · exact .inl (K.done _)
  · exact .inl (K.done _)
  · exact .inl (K.done _)
  · exact .inl (K.done _)
  · exact .inl (K.done _)
  · exact .inl (K.done _)
  · exact .inl (K.done _)
  · exact .inl (K.done _)
  · exact .inr (.inl rfl)
  · exact .inr (.inr rfl)
  · exact .inl (K.done _)
  · exact .inl (K.modePut hC b)
  · exact .inl (K.done _)
  · exact .inl (K.wifiConfigPut hC _ b)
  · exact .inl (K.wifiConfigPut hC _ b)
  all_goals exact .inl (K.done _)

theorem handler_cases (r : Request) : Q (Option Resp) (handler sys r) ∨
    (∃ body, r = .http .put URI_FIRMWARE body ∧ handler sys r = some <$> Firmware.put sys body) ∨
    (∃ body, r = .http .put URI_FIRMWARE_COMMIT body ∧ handler sys r = some <$> FirmwareCommit.put sys body) ∨
    r = .sigchld := by
  cases r with
  | sigchld => exact .inr (.inr (.inr rfl))
  | http m path body =>
    have hh : handler sys (.http m path body) = some <$> serve sys m path body := rfl
    cases hf : (Main.registered sys).find? fun r => r.path = path with
    | none =>
      have hs : serve sys m path body = return notFound := by rw [serve, hf]
      rw [hh, hs]
      exact .inl (K.done _)
    | some r =>
      have hr : r ∈ Main.registered sys := List.mem_of_find?_eq_some hf
      have hs : serve sys m path body = r.handle m body := by rw [serve, hf]
      obtain rfl : r.path = path := by simpa using List.find?_some hf
      rw [hh, hs]
      cases m with
      | get => exact .inl (K.map (K.get (inspects_of_works hC) hr body) _)
      | post => exact .inl (K.map (K.post hC hr body) _)
      | put =>
        rcases K.put hC hr body with hq | rfl | rfl
        · exact .inl (K.map hq _)
        · exact .inr (.inl ⟨body, rfl, rfl⟩)
        · exact .inr (.inr (.inl ⟨body, rfl, rfl⟩))

end writing

end Closed

lemma built_wifiStatusGet (b : Body) : Built sys Call.Reads (WifiStatus.get sys b) := by
  refine Built.bind ?_ fun _ => Built.bind ?_ fun _ => (Built.ask trivial).bind fun _ => .done _
  · exact (Built.ask trivial).bind fun _ => (Built.ask trivial).bind fun _ => (Built.ask trivial).bind fun _ =>
      (Built.ask trivial).bind fun _ => Built.ask trivial
  · exact ((Built.ask trivial).bind fun _ => .done _).bind fun _ => (Built.ask trivial).bind fun _ => Built.ask trivial

lemma built_closed (hC : ∀ c : Call, c.Reads → C c) : Closed sys C fun _ p => Built sys C p where
  done a := .done a
  bind hp hf := hp.bind hf
  ask _ hc := .ask hc
  state := by
    rw [← Program.bind_done (firmwareState sys)]
    exact .state fun s => .done s
  status b := (built_wifiStatusGet b).mono hC

lemma built_reads : Closed sys Call.Reads fun _ p => Built sys Call.Reads p := built_closed fun _ h => h

lemma built_firmwareGet (b : Body) : Built sys Call.Reads (Firmware.get sys b) :=
  built_reads.firmwareGet (fun _ h => h.reads) b

inductive HandlerCases (sys : System) : Request → Prop
  | quiet {r} : Built sys (Call.Quiet sys) (handler sys r) → HandlerCases sys r
  | install {body} : handler sys (.http .put URI_FIRMWARE body) = some <$> Firmware.put sys body →
      HandlerCases sys (.http .put URI_FIRMWARE body)
  | commit {body} : handler sys (.http .put URI_FIRMWARE_COMMIT body) = some <$> FirmwareCommit.put sys body →
      HandlerCases sys (.http .put URI_FIRMWARE_COMMIT body)
  | sigchld : HandlerCases sys .sigchld

theorem handler_cases (r : Request) : HandlerCases sys r := by
  have K : Closed sys (Call.Quiet sys) fun _ p => Built sys (Call.Quiet sys) p := built_closed fun _ h => h.quiet
  rcases K.handler_cases (fun _ h => h.quiet) r with hq | ⟨body, rfl, hp⟩ | ⟨body, rfl, hp⟩ | rfl
  · exact .quiet hq
  · exact .install hp
  · exact .commit hp
  · exact .sigchld

end RouterCard.Captived
