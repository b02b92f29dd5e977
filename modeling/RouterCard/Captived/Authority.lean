import RouterCard.Captived.Alone
import RouterCard.Captived.SafeGet
import RouterCard.Captived.WifiLaw
import RouterCard.Interaction.Footprint

/-! What each request may do: the commands that it may run, the files that it may touch and
the members that it may change, over every run of the daemon. -/

namespace RouterCard.Captived.Authority

open Text Interaction FirmwareManager

section table

variable (sys : System)

def queries : List Bytes :=
  [printenvCommand FIRMWARE_ENV_BOOT_COUNT, printenvCommand FIRMWARE_ENV_UPGRADE_AVAIL, COMMAND_GET_SSID,
    COMMAND_GET_ACTIVE_TARGETS]

def sources : List Bytes :=
  [FILE_SERIAL_NUMBER, FILE_WIFI_MAC_ADDRESS_1, FILE_WIFI_MAC_ADDRESS_2, FILE_WIFI_MAC_ADDRESS_3, FILE_WIFI_MAC_ADDRESS_4,
    FILE_ENF_CONTROL_ADDRESS, FILE_ENF_DATA_ADDRESS, FILE_FIRMWARE_VERSION, FILE_WIFI_CONFIG_PASSTHROUGH,
    FILE_WIFI_CONFIG_SECURE_HOST, bytes "/proc/uptime"]

def Inspection : Call → Prop
  | .popen command => ∃ c ∈ queries, command = sys.chroot ++ c
  | .readFile path => ∃ f ∈ sources, path = sys.chroot ++ f
  | .getifaddrs | .load .downloading | .load .wifi | .load .uri | .store .wifi _ => True
  | .store .downloading flag => flag = false
  | .abort a => ∃ e, a = .stoi e
  | _ => False

def Installation (uri : JsonText) : Call → Prop
  | .fork command => command = installCommand sys uri.val
  | .store .uri stored => stored = uri.val
  | .store .downloading flag => flag = true
  | .store .childPid _ | .replaceSignalEvent | .addSignalEvent => True
  | _ => False

def Commitment : Call → Prop
  | .shell command => command = sys.chroot ++ COMMAND_MENDER_COMMIT
  | _ => False

def Configuration (file : Bytes) (s : JsonText) : Call → Prop
  | .readFile path => path = sys.chroot ++ file
  | .createFile path | .closeFile path => path = sys.tempFile file
  | .writeFile path written => path = sys.tempFile file ∧ written = s.val
  | .rename old new => old = sys.tempFile file ∧ new = sys.chroot ++ file
  | .shell command => command = sys.chroot ++ COMMAND_RELOAD_CONNMAN
  | .emptyOptional => True
  | _ => False

def Switch (mode : JsonText) : Call → Prop
  | .lstat path | .remove path | .readlink path _ => path = sys.chroot ++ LINK_MODE
  | .symlink target link => target = sys.chroot ++ Mode.targetName mode.val ∧ link = sys.chroot ++ LINK_MODE
  | .popen command => command = sys.chroot ++ COMMAND_GET_ACTIVE_TARGETS
  | .shell command => command = sys.chroot ++ FILE_REBOOT_EXE
  | .abort a => a = .outOfRange
  | _ => False

def Reboots : Call → Prop
  | .shell command => command = sys.chroot ++ FILE_REBOOT_EXE
  | _ => False

def Reaping : Call → Prop
  | .load .childPid | .waitid _ | .deleteSignalEvent | .store .debugMessage _ => True
  | .store .downloading flag => flag = false
  | _ => False

def requested (key : Bytes) (body : Body) : Option JsonText :=
  match body.bind fun obj => obj.objectGet key with
  | some (.string s) => some s
  | _ => none

def uriOf : WifiStore.Endpoint → Bytes
  | .passthrough => URI_WIFI_CONFIG_PASSTHROUGH
  | .secure => URI_WIFI_CONFIG_SECURE

inductive Allowed : Request → Call → Prop
  | inspect {path body c} : Inspection sys c → Allowed (.http .get path body) c
  | inspectFirst {path body c} : path = URI_FIRMWARE ∨ path = URI_FIRMWARE_COMMIT → Inspection sys c →
      Allowed (.http .put path body) c
  | install {body uri c} : requested (bytes "update_URI") body = some uri → Installation sys uri c →
      Allowed (.http .put URI_FIRMWARE body) c
  | commit {body c} : Commitment sys c → Allowed (.http .put URI_FIRMWARE_COMMIT body) c
  | configure {e body s c} : requested (bytes "contents") body = some s → Configuration sys (WifiStore.Endpoint.file e) s c →
      Allowed (.http .put (uriOf e) body) c
  | switch {mode c} : Mode.isValidMode mode.val = true → Switch sys mode c →
      Allowed (.http .put URI_ROUTER_MODE (some (.string mode))) c
  | reboot {body c} : Reboots sys c → Allowed (.http .post URI_REBOOT body) c
  | reap {c} : Reaping c → Allowed .sigchld c

end table

variable {sys : System} {α : Type}

section gets

lemma inspection_popen {c : Bytes} (h : c ∈ queries) : Inspection sys (.popen (sys.chroot ++ c)) := ⟨c, h, rfl⟩

lemma inspection_readFile {f : Bytes} (h : f ∈ sources) : Inspection sys (.readFile (sys.chroot ++ f)) := ⟨f, h, rfl⟩

lemma stateFrom_inspects (b u : Option Bytes) : (stateFrom b u).Calls (Inspection sys) := by
  have hc := stateFrom_cases b u
  generalize stateFrom b u = p at hc ⊢
  cases hc with
  | unread => trivial
  | thrown => exact ⟨⟨_, rfl⟩, fun r => r.elim⟩
  | upgraded => exact ⟨rfl, fun _ => trivial⟩
  | flagged => exact ⟨trivial, fun _ => trivial⟩

lemma firmwareState_inspects : (firmwareState sys).Calls (Inspection sys) := by
  rw [firmwareState_eq]
  refine ⟨inspection_popen (by simp [queries]), fun r₁ => ⟨inspection_popen (by simp [queries]), fun r₂ => ?_⟩⟩
  apply stateFrom_inspects

lemma wifiStatus_inspects (b : Body) : (WifiStatus.get sys b).Calls (Inspection sys) := by
  rw [SafeGet.wifiStatusGet_eq]
  refine ⟨trivial, fun _ => ⟨trivial, fun _ => ⟨trivial, fun _ => ⟨trivial, fun _ => ⟨trivial, fun _ => ?_⟩⟩⟩⟩⟩
  exact ⟨inspection_popen (by simp [queries]), fun _ => ⟨trivial, fun _ => ⟨trivial, fun _ => ⟨trivial, fun _ => trivial⟩⟩⟩⟩

lemma closed_inspection : Closed sys (Inspection sys) fun _ p => p.Calls (Inspection sys) where
  done _ := trivial
  bind := Program.Calls.bind
  ask _ hc := ⟨hc, fun _ => trivial⟩
  state := firmwareState_inspects
  status := wifiStatus_inspects

lemma readline_inspects {f : Bytes} (h : f ∈ sources) : (sys.readline f).Calls (Inspection sys) :=
  ⟨inspection_readFile h, fun _ => trivial⟩

lemma read_inspects {f : Bytes} (h : f ∈ sources) : (sys.read f).Calls (Inspection sys) :=
  ⟨inspection_readFile h, fun _ => trivial⟩

lemma routerMode_calls {P : Call → Prop} (h : P (.popen (sys.chroot ++ COMMAND_GET_ACTIVE_TARGETS))) :
    (Mode.routerMode sys).Calls P := ⟨h, fun _ => trivial⟩

def Looks (sys : System) (r : Resource) : Prop := ∀ b, (r.get b).Calls (Inspection sys)

lemma looks_line {f : Bytes} (h : f ∈ sources) (uri : Bytes) : Looks sys (Main.line sys uri f) :=
  fun _ => (readline_inspects h).bind fun line => by cases line <;> trivial

lemma looks_artifact (p : Text.Pattern) (uri : Bytes) : Looks sys (ArtifactInfo.resource sys FILE_FIRMWARE_VERSION p uri) := by
  intro b
  have hparse : (ArtifactInfo.parse sys FILE_FIRMWARE_VERSION p).Calls (Inspection sys) :=
    (readline_inspects (by simp [sources])).bind fun _ => trivial
  exact hparse.bind fun value => by cases value <;> trivial

lemma looks_uptime : Looks sys (Main.uptime sys) := by
  intro b
  have hseconds : (Uptime.seconds sys).Calls (Inspection sys) :=
    (readline_inspects (by simp [sources])).bind fun _ => trivial
  exact hseconds.bind fun value => by cases value <;> trivial

lemma looks_config {f : Bytes} (h : f ∈ sources) (uri : Bytes) : Looks sys (WifiConfig.resource sys f uri) :=
  fun _ => (read_inspects h).bind fun contents => by cases contents <;> trivial

lemma looks_mode : Looks sys (Main.routerMode sys) :=
  fun _ => (routerMode_calls (inspection_popen (by simp [queries]))).bind fun mode => by cases mode <;> trivial

lemma looks_uri (path : Bytes) : Looks sys (FirmwareUri.resource path) := by
  refine fun _ => ⟨trivial, fun uri => ?_⟩
  dsimp only [Program.bind]
  split_ifs <;> trivial

lemma looks_aggregate {path : Bytes} {children : List Child} (h : ∀ c ∈ children, Looks sys c.res) :
    Looks sys (AggregateResource.resource path children) := closed_inspection.aggregateGet h

lemma looks_firmware : Looks sys (Firmware.resource sys) := by
  apply closed_inspection.aggregateGet
  simp only [Firmware.children, List.forall_mem_cons]
  exact ⟨looks_uri _, looks_artifact _ _, looks_artifact _ _, closed_inspection.updateStateGet, by simp⟩

lemma looks_macAddrs : Looks sys (Main.macAddrs sys) := by
  apply looks_aggregate
  simp only [List.forall_mem_cons]
  exact ⟨looks_line (by simp [sources]) _, looks_line (by simp [sources]) _, looks_line (by simp [sources]) _,
    looks_line (by simp [sources]) _, by simp⟩

lemma looks_wifiConfigs : Looks sys (Main.wifiConfigs sys) := by
  apply looks_aggregate
  simp only [List.forall_mem_cons]
  exact ⟨looks_config (by simp [sources]) _, looks_config (by simp [sources]) _, by simp⟩

lemma looks_wifi : Looks sys (Main.wifi sys) := by
  apply looks_aggregate
  simp only [List.forall_mem_cons]
  exact ⟨looks_wifiConfigs, wifiStatus_inspects, by simp⟩

lemma looks_root : Looks sys (Main.root sys) := by
  apply looks_aggregate
  simp only [List.forall_mem_cons]
  exact ⟨looks_line (by simp [sources]) _, looks_artifact _ _, looks_firmware, looks_artifact _ _, looks_macAddrs,
    looks_line (by simp [sources]) _, looks_line (by simp [sources]) _, looks_mode, looks_uptime, looks_wifi, by simp⟩

lemma looks_base (path : Bytes) : Looks sys (Resource.base path) := fun _ => trivial

lemma looks_registered : ∀ r ∈ Main.registered sys, Looks sys r := by
  simp only [Main.registered, List.forall_mem_cons]
  refine ⟨looks_line (by simp [sources]) _, looks_line (by simp [sources]) _, looks_line (by simp [sources]) _,
    looks_line (by simp [sources]) _, looks_line (by simp [sources]) _, looks_macAddrs, looks_line (by simp [sources]) _,
    looks_line (by simp [sources]) _, looks_artifact _ _, looks_firmware, looks_base _, looks_artifact _ _, looks_mode,
    looks_uptime, looks_config (by simp [sources]) _, looks_config (by simp [sources]) _, looks_wifiConfigs,
    wifiStatus_inspects, looks_wifi, looks_base _, looks_root, by simp⟩

end gets

section puts

variable {body : Body}

def Puts (sys : System) (r : Resource) : Prop := ∀ b, (r.put b).Calls (Allowed sys (.http .put r.path b))

def Posts (sys : System) (r : Resource) : Prop := ∀ b, (r.post b).Calls (Allowed sys (.http .post r.path b))

lemma inspects_first {path : Bytes} (h : path = URI_FIRMWARE ∨ path = URI_FIRMWARE_COMMIT) {p : Prog α}
    (hp : p.Calls (Inspection sys)) : p.Calls (Allowed sys (.http .put path body)) :=
  hp.mono fun _ hc => .inspectFirst h hc

lemma firmware_report : (Firmware.get sys (some .null)).Calls (Allowed sys (.http .put URI_FIRMWARE body)) :=
  inspects_first (.inl rfl) (looks_firmware (some .null))

lemma download_installs (uri : JsonText) : (download sys uri.val).Calls (Installation sys uri) := by
  rw [download_eq]
  refine ⟨rfl, fun id => ?_⟩
  dsimp only
  split_ifs
  · trivial
  · exact ⟨rfl, fun _ => ⟨trivial, fun _ => ⟨trivial, fun _ => ⟨trivial, fun _ => trivial⟩⟩⟩⟩

lemma start_allowed {uri : JsonText} (h : requested (bytes "update_URI") body = some uri) :
    (Firmware.start sys uri.val).Calls (Allowed sys (.http .put URI_FIRMWARE body)) := by
  rw [Firmware.start_eq]
  refine ⟨.install h rfl, fun _ => ((download_installs uri).mono fun _ hc => .install h hc).bind fun pid => ?_⟩
  rw [Firmware.started]
  split_ifs
  · trivial
  · exact firmware_report

lemma accept_allowed (body : Body) : (Firmware.accept sys body).Calls (Allowed sys (.http .put URI_FIRMWARE body)) := by
  unfold Firmware.accept
  split
  next members =>
    split
    next => trivial
    next uri h =>
      apply start_allowed
      rw [requested, Option.bind_some, h]
    next => trivial
  next => trivial

lemma puts_firmware : Puts sys (Firmware.resource sys) := by
  intro body
  refine (inspects_first (.inl rfl) firmwareState_inspects).bind fun state => ?_
  cases state with
  | none => trivial
  | some state =>
    dsimp only
    split_ifs
    · trivial
    · exact accept_allowed body

lemma puts_commit : Puts sys (FirmwareCommit.resource sys) := by
  intro body
  refine (inspects_first (.inr rfl) firmwareState_inspects).bind fun state => ?_
  cases state with
  | none => trivial
  | some state =>
    dsimp only
    split_ifs
    · trivial
    · refine ⟨.commit rfl, fun result => ?_⟩
      dsimp only [Program.bind]
      split_ifs
      · exact inspects_first (.inr rfl) (looks_firmware none)
      · trivial

lemma write_configures (file : Bytes) (s : JsonText) : (sys.write file s.val).Calls (Configuration sys file s) := by
  rw [System.write_eq]
  refine ⟨rfl, fun opened => ?_⟩
  dsimp only
  split_ifs
  · refine ⟨⟨rfl, rfl⟩, fun written => ⟨rfl, fun closed => ?_⟩⟩
    dsimp only
    split_ifs
    · exact ⟨⟨rfl, rfl⟩, fun _ => trivial⟩
    · trivial
  · trivial

lemma read_configures (file : Bytes) (s : JsonText) : (sys.read file).Calls (Configuration sys file s) :=
  ⟨rfl, fun _ => trivial⟩

lemma configGet_configures (file : Bytes) (s : JsonText) (b : Body) : (WifiConfig.get sys file b).Calls (Configuration sys file s) :=
  (read_configures file s).bind fun contents => by cases contents <;> trivial

lemma setContents_configures (file : Bytes) (s : JsonText) :
    (WifiConfig.setContents sys file s.val).Calls (Configuration sys file s) := by
  have hash : (WifiConfig.sha256 sys file).Calls (Configuration sys file s) := (read_configures file s).bind fun _ => trivial
  have hderef : ∀ h, (WifiConfig.deref h).Calls (Configuration sys file s) := fun h => by
    cases h with
    | none => exact ⟨trivial, fun _ => trivial⟩
    | some h => trivial
  refine hash.bind fun h => (hderef h).bind fun current => ?_
  split_ifs
  · trivial
  · refine (write_configures file s).bind fun written => ?_
    cases written with
    | false => trivial
    | true => exact ⟨rfl, fun _ => trivial⟩

lemma put_configures (e : WifiStore.Endpoint) (body : Body) :
    (WifiConfig.put sys e.file body).Calls (Allowed sys (.http .put (uriOf e) body)) := by
  unfold WifiConfig.put
  split
  next members =>
    split
    next => trivial
    next s h =>
      have hs : requested (bytes "contents") (some (.object members)) = some s := by
        rw [requested, Option.bind_some, h]
      refine Program.Calls.mono ?_ fun c hc => .configure hs hc
      refine (setContents_configures e.file s).bind fun ok => ?_
      cases ok with
      | false => trivial
      | true => exact configGet_configures e.file s (some .null)
    next => trivial
  next => trivial

lemma setSymlinkTarget_switches (mode : JsonText) :
    (sys.setSymlinkTarget (Mode.targetName mode.val) LINK_MODE).Calls (Switch sys mode) := by
  refine ⟨rfl, fun stat => ?_⟩
  rcases stat with _ | _ | _ | _ | _
  · exact ⟨⟨rfl, rfl⟩, fun _ => trivial⟩
  · exact ⟨rfl, fun _ => ⟨⟨rfl, rfl⟩, fun _ => trivial⟩⟩
  all_goals trivial

lemma setRouterMode_switches (mode : JsonText) : (Mode.setRouterMode sys mode.val).Calls (Switch sys mode) := by
  unfold Mode.setRouterMode
  split_ifs
  · trivial
  next hvalid =>
    have hlink : (Mode.setRouterModeConfig sys mode.val).Calls (Switch sys mode) := by
      rw [Mode.setRouterModeConfig, if_neg hvalid]
      exact setSymlinkTarget_switches mode
    have hrunning : (Mode.routerMode sys).Calls (Switch sys mode) := routerMode_calls rfl
    refine hlink.bind fun linked => ?_
    cases linked with
    | false => trivial
    | true =>
      refine hrunning.bind fun running => ?_
      split_ifs
      · exact ⟨rfl, fun _ => trivial⟩
      · trivial

lemma routerModeConfig_switches (mode : JsonText) : (Mode.routerModeConfig sys).Calls (Switch sys mode) := by
  have hlink : (sys.symlinkTarget LINK_MODE).Calls (Switch sys mode) := ⟨rfl, fun _ => trivial⟩
  refine hlink.bind fun link => ?_
  cases link with
  | none => trivial
  | some link =>
    dsimp only
    split
    · trivial
    · exact ⟨rfl, fun r => r.elim⟩

lemma puts_mode : Puts sys (Main.routerMode sys) := by
  intro body
  change (Mode.put sys body).Calls _
  unfold Mode.put
  split
  next mode =>
    split_ifs with hvalid
    · trivial
    · have hmode : Mode.isValidMode mode.val = true := by simpa using hvalid
      refine Program.Calls.mono ?_ fun c hc => .switch hmode hc
      refine (setRouterMode_switches mode).bind fun changed => ?_
      cases changed with
      | false => trivial
      | true => exact (routerModeConfig_switches mode).bind fun shown => by cases shown <;> trivial
  next => trivial

lemma puts_registered : ∀ r ∈ Main.registered sys, Puts sys r := by
  simp only [Main.registered, List.forall_mem_cons]
  refine ⟨fun _ => trivial, fun _ => trivial, fun _ => trivial, fun _ => trivial, fun _ => trivial, fun _ => trivial,
    fun _ => trivial, fun _ => trivial, fun _ => trivial, puts_firmware, puts_commit, fun _ => trivial, puts_mode,
    fun _ => trivial, put_configures .passthrough, put_configures .secure, fun _ => trivial, fun _ => trivial,
    fun _ => trivial, fun _ => trivial, fun _ => trivial, by simp⟩

lemma posts_reboot : Posts sys (Main.reboot sys) := by
  intro body
  refine ⟨.reboot rfl, fun result => ?_⟩
  dsimp only [Program.bind]
  split_ifs <;> trivial

lemma posts_registered : ∀ r ∈ Main.registered sys, Posts sys r := by
  simp only [Main.registered, List.forall_mem_cons]
  exact ⟨fun _ => trivial, fun _ => trivial, fun _ => trivial, fun _ => trivial, fun _ => trivial, fun _ => trivial,
    fun _ => trivial, fun _ => trivial, fun _ => trivial, fun _ => trivial, fun _ => trivial, fun _ => trivial,
    fun _ => trivial, fun _ => trivial, fun _ => trivial, fun _ => trivial, fun _ => trivial, fun _ => trivial,
    fun _ => trivial, posts_reboot, fun _ => trivial, by simp⟩

lemma onSigchld_reaps : onSigchld.Calls Reaping := by
  rw [onSigchld_eq]
  refine ⟨trivial, fun pid => ⟨trivial, fun r => ?_⟩⟩
  cases r with
  | failed errno => exact ⟨trivial, fun _ => ⟨trivial, fun _ => trivial⟩⟩
  | unchanged => trivial
  | ended how => exact ⟨rfl, fun _ => ⟨trivial, fun _ => ⟨trivial, fun _ => trivial⟩⟩⟩

lemma handler_allowed (r : Request) : (handler sys r).Calls (Allowed sys r) := by
  cases r with
  | sigchld => exact (onSigchld_reaps.mono fun _ hc => .reap hc).bind fun _ => trivial
  | http m path body =>
    have hh : handler sys (.http m path body) = serve sys m path body >>= fun resp => .done (some resp) := by
      rw [handler, ← bind_pure_comp]
      rfl
    rw [hh, serve]
    refine Program.Calls.bind ?_ fun _ => trivial
    cases hf : (Main.registered sys).find? fun r => r.path = path with
    | none => trivial
    | some r =>
      have hr := List.mem_of_find?_eq_some hf
      obtain rfl : r.path = path := by simpa using List.find?_some hf
      cases m with
      | get => exact (looks_registered r hr body).mono fun _ hc => .inspect hc
      | put => exact puts_registered r hr body
      | post => exact posts_registered r hr body

end puts

section changes

variable {w v : World} {o : Outcome} {path : Bytes}

def Alters (files : Files) : Call → Bytes → Prop
  | .createFile path, p | .writeFile path _, p | .closeFile path, p => opened files path = some p
  | .remove path, p | .symlink _ path, p => p = path
  | .rename old new, p => p = old ∨ p = new
  | _, _ => False

def Links : Call → Bytes → Prop
  | .symlink _ path, p | .rename _ path, p => p = path
  | _, _ => False

lemma setFile_ne {p : Bytes} {n : Option Node} (h : (w.setFile p n).files path ≠ w.files path) : path = p := by
  by_contra hne
  exact h (Function.update_of_ne hne _ _)

lemma setFile_link {p t : Bytes} {n : Option Node} (h : (w.setFile p n).files path = some (.link t)) :
    w.files path = some (.link t) ∨ path = p ∧ n = some (.link t) := by
  rw [World.setFile] at h
  dsimp only at h
  rw [Function.update_apply] at h
  split_ifs at h with hp
  · exact .inr ⟨hp, h⟩
  · exact .inl h

structure Does (sys : System) (c : Call) (w v : World) : Prop where
  files : ∀ path, v.files path ≠ w.files path → Alters w.files c path
  links : ∀ path t, v.files path = some (.link t) → w.files path = some (.link t) ∨ Links c path
  loaded : v.loaded ≠ w.loaded → c = .shell (sys.chroot ++ COMMAND_RELOAD_CONNMAN)
  installers : ∀ p ∈ v.installers, p ∉ w.installers → ∃ command, c = .fork command

lemma Does.none {c : Call} (hf : v.files = w.files) (hl : v.loaded = w.loaded) (hi : v.installers ⊆ w.installers) :
    Does sys c w v :=
  ⟨fun path hp => absurd (congrFun hf path) hp, fun path _ h => .inl (congrFun hf path ▸ h), fun h => absurd hl h,
    fun _ hp hn => absurd (hi hp) hn⟩

lemma Does.refl (sys : System) (c : Call) (w : World) : Does sys c w w := .none rfl rfl (List.Subset.refl _)

lemma Does.only {c : Call} {fs : Files} (h : ∀ path, fs path ≠ w.files path → Alters w.files c path)
    (hl : ∀ path t, fs path = some (.link t) → w.files path = some (.link t) ∨ Links c path) :
    Does sys c w { w with files := fs } :=
  ⟨h, hl, fun h => absurd rfl h, fun _ hp hn => absurd hp hn⟩

lemma Does.set {c : Call} {p : Bytes} {n : Option Node} (h : Alters w.files c p) (hl : ∀ t, n = some (.link t) → Links c p) :
    Does sys c w (w.setFile p n) := by
  refine .only (fun path hp => ?_) fun path t ht => ?_
  · obtain rfl : path = p := setFile_ne hp
    exact h
  · rcases setFile_link ht with hw | ⟨rfl, hn⟩
    · exact .inl hw
    · exact .inr (hl t hn)

lemma does_streamed {c : Call} {p : Bytes} (h : Streamed w p v) (hc : ∀ q, opened w.files p = some q → Alters w.files c q) :
    Does sys c w v := by
  cases h with
  | same => exact .refl ..
  | set hp => exact .set (hc _ hp) nofun

lemma answer_does {c : Call} {r : c.Reply} (h : answer sys c o w = some (r, v)) : Does sys c w v := by
  cases c with
  | popen command => rcases answer_popen h with ⟨-, rfl⟩ | ⟨-, rfl⟩ <;> exact .none rfl rfl (List.Subset.refl _)
  | shell command =>
    rcases answer_shell h with rfl | rfl | ⟨-, rfl⟩ | ⟨rfl, rfl⟩
    · exact .refl ..
    · exact .none rfl rfl (List.Subset.refl _)
    · exact .none rfl rfl (List.Subset.refl _)
    · exact ⟨fun path hp => absurd rfl hp, fun _ _ => .inl, fun _ => rfl, fun _ hp hn => absurd hp hn⟩
  | fork command =>
    rcases answer_fork h with ⟨-, rfl⟩ | ⟨-, -, rfl⟩
    · exact .refl ..
    · exact ⟨fun path hp => absurd rfl hp, fun _ _ => .inl, fun hl => absurd rfl hl, fun _ _ _ => ⟨command, rfl⟩⟩
  | waitid pid =>
    have hw : v = (answerWaitid pid w).2 := (Prod.mk.inj (answer_waitid h)).2
    rw [hw, answerWaitid.eq_def]
    split
    · exact .refl ..
    · exact .refl ..
    · exact .none rfl rfl List.filter_sublist.subset
  | replaceSignalEvent =>
    rw [answer_replaceSignalEvent h]
    exact .none rfl rfl (List.Subset.refl _)
  | addSignalEvent => rcases answer_addSignalEvent h with ⟨-, -, rfl⟩ | ⟨-, -, -, rfl⟩ <;> exact .none rfl rfl (List.Subset.refl _)
  | deleteSignalEvent =>
    rw [answer_deleteSignalEvent h]
    exact .none rfl rfl (List.Subset.refl _)
  | load f =>
    rw [(answer_load h).2]
    exact .refl ..
  | store f x =>
    rw [answer_store h]
    exact .none rfl rfl (List.Subset.refl _)
  | abort a => exact (answer_abort h).elim
  | emptyOptional =>
    rw [(answer_emptyOptional h).2]
    exact .refl ..
  | readFile p =>
    rw [(answer_readFile h).1]
    exact .refl ..
  | lstat p =>
    rw [(answer_lstat h).1]
    exact .refl ..
  | readlink p n =>
    rw [(answer_readlink h).1]
    exact .refl ..
  | getifaddrs =>
    cases o <;> simp only [answer, reduceCtorEq] at h <;> rw [← (Prod.mk.inj (Option.some.inj h)).2] <;> exact .refl ..
  | createFile p => exact does_streamed (answer_createFile h) fun _ hq => hq
  | writeFile p s => exact does_streamed (answer_writeFile h) fun _ hq => hq
  | closeFile p => exact does_streamed (answer_closeFile h) fun _ hq => hq
  | rename old new =>
    cases o with
    | done =>
      obtain ⟨n, -, he⟩ := Option.map_eq_some_iff.mp h
      rw [← (Prod.mk.inj he).2]
      refine .only (fun path hp => ?_) fun path t ht => ?_
      · by_cases hold : path = old
        · exact .inl hold
        · exact .inr (setFile_ne (w := w.setFile old .none) fun hsame => hp (hsame.trans (Function.update_of_ne hold _ _)))
      · rcases setFile_link (w := w.setFile old .none) ht with hw | ⟨hnew, -⟩
        · exact (setFile_link hw).imp id fun h => absurd h.2 nofun
        · exact .inr hnew
    | failed e =>
      rw [← (Prod.mk.inj (Option.some.inj h)).2]
      exact .refl ..
    | _ => simp [answer] at h
  | remove p =>
    rcases answer_remove h with ⟨-, -, rfl⟩ | ⟨-, rfl⟩
    · exact .set rfl nofun
    · exact .refl ..
  | symlink target link =>
    rcases answer_symlink h with ⟨-, -, -, rfl⟩ | ⟨-, -, rfl⟩
    · exact .set rfl fun _ _ => rfl
    · exact .refl ..

inductive Owns (sys : System) : Request → Bytes → Prop
  | link {mode} : Mode.isValidMode mode.val = true →
      Owns sys (.http .put URI_ROUTER_MODE (some (.string mode))) (sys.chroot ++ LINK_MODE)
  | config {e body s} : requested (bytes "contents") body = some s →
      Owns sys (.http .put (uriOf e) body) (sys.chroot ++ e.file)
  | temp {e body s} : requested (bytes "contents") body = some s →
      Owns sys (.http .put (uriOf e) body) (sys.tempFile e.file)

-- No temporary name is a link, which a stream would follow to another file.
def Direct (sys : System) (files : Files) : Prop := ∀ (e : WifiStore.Endpoint) t, files (sys.tempFile e.file) ≠ some (.link t)

lemma Direct.opened (hf : Direct sys files) (e : WifiStore.Endpoint) (h : opened files (sys.tempFile e.file) = some path) :
    path = sys.tempFile e.file := by
  rw [opened_self (hf e)] at h
  exact (Option.some.inj h).symm

lemma inspection_alters {c : Call} (hc : Inspection sys c) (h : Alters files c path) : False := by
  cases c <;> first | exact hc | exact h

lemma installation_alters {uri : JsonText} {c : Call} (hc : Installation sys uri c) (h : Alters files c path) : False := by
  cases c <;> first | exact hc | exact h

lemma configuration_alters {e : WifiStore.Endpoint} {s : JsonText} {c : Call} (hf : Direct sys files)
    (hc : Configuration sys e.file s c) (h : Alters files c path) :
    path = sys.chroot ++ e.file ∨ path = sys.tempFile e.file := by
  cases c with
  | createFile p | closeFile p =>
    obtain rfl : p = sys.tempFile e.file := hc
    exact .inr (hf.opened e h)
  | writeFile p written =>
    obtain ⟨rfl, -⟩ := hc
    exact .inr (hf.opened e h)
  | rename old new => exact h.symm.imp (·.trans hc.2) (·.trans hc.1)
  | _ => first | exact False.elim hc | exact False.elim h

lemma switch_alters {mode : JsonText} {c : Call} (hc : Switch sys mode c) (h : Alters files c path) :
    path = sys.chroot ++ LINK_MODE := by
  cases c with
  | remove p => exact Eq.trans h hc
  | symlink target link => exact Eq.trans h hc.2
  | _ => first | exact False.elim hc | exact False.elim h

lemma owns_of_alters {r : Request} {c : Call} (hf : Direct sys files) (hc : Allowed sys r c) (h : Alters files c path) :
    Owns sys r path := by
  cases hc with
  | inspect hc | inspectFirst _ hc => exact (inspection_alters hc h).elim
  | install _ hc => exact (installation_alters hc h).elim
  | commit hc | reboot hc | reap hc => cases c <;> first | exact False.elim hc | exact False.elim h
  | configure hs hc =>
    rcases configuration_alters hf hc h with rfl | rfl
    · exact .config hs
    · exact .temp hs
  | switch hm hc =>
    obtain rfl := switch_alters hc h
    exact .link hm

lemma link_ne_temp (e : WifiStore.Endpoint) : sys.tempFile e.file ≠ sys.chroot ++ LINK_MODE := by
  intro h
  rw [System.tempFile, List.append_assoc] at h
  have hf := List.append_cancel_left h
  cases e <;> exact absurd hf (by decide)

lemma not_links_of_allowed {r : Request} {c : Call} (hc : Allowed sys r c) (e : WifiStore.Endpoint) :
    ¬ Links c (sys.tempFile e.file) := by
  intro h
  cases hc with
  | inspect hc | inspectFirst _ hc | install _ hc | commit hc | reboot hc | reap hc =>
    cases c <;> first | exact False.elim hc | exact False.elim h
  | @configure e' _ _ _ _ hc =>
    cases c with
    | rename old new => exact WifiStore.temp_ne_path e e' (Eq.trans h hc.2)
    | _ => first | exact False.elim hc | exact False.elim h
  | switch _ hc =>
    cases c with
    | symlink target link => exact link_ne_temp e (Eq.trans h hc.2)
    | _ => first | exact False.elim hc | exact False.elim h

lemma Direct.answer {r : Request} {c : Call} {x : c.Reply} (hw : Direct sys w.files) (hc : Allowed sys r c)
    (h : answer sys c o w = some (x, v)) : Direct sys v.files := by
  intro e t ht
  rcases (answer_does h).links _ t ht with hlink | hlinks
  · exact hw e t hlink
  · exact not_links_of_allowed hc e hlinks

lemma env_of_allowed {r : Request} {c : Call} {x : c.Reply} (hc : Allowed sys r c) (h : answer sys c o w = some (x, v))
    (he : v.env ≠ w.env) : ∃ body, r = .http .put URI_FIRMWARE_COMMIT body := by
  by_cases hshell : ∀ command, c ≠ .shell command
  · exact absurd (answer_env hshell h) he
  · push Not at hshell
    obtain ⟨command, rfl⟩ := hshell
    have hcommit : command = sys.chroot ++ COMMAND_MENDER_COMMIT := by
      rcases answer_shell h with rfl | rfl | ⟨hcommit, -⟩ | ⟨-, rfl⟩
      · exact absurd rfl he
      · exact absurd rfl he
      · exact hcommit
      · exact absurd rfl he
    cases hc with
    | inspect hc | inspectFirst _ hc | install _ hc | reap hc => exact False.elim hc
    | commit hc => exact ⟨_, rfl⟩
    | configure _ hc | switch _ hc | reboot hc =>
      have hcommand := List.append_cancel_left (hcommit.symm.trans hc)
      exact absurd hcommand (by decide)

lemma loaded_of_allowed {r : Request} {c : Call} {x : c.Reply} (hc : Allowed sys r c) (h : answer sys c o w = some (x, v))
    (hl : v.loaded ≠ w.loaded) : ∃ e body, r = .http .put (uriOf e) body := by
  obtain rfl := (answer_does h).loaded hl
  cases hc with
  | inspect hc | inspectFirst _ hc | install _ hc | reap hc => exact False.elim hc
  | configure _ hc => exact ⟨_, _, rfl⟩
  | commit hc | switch _ hc | reboot hc => exact absurd (List.append_cancel_left hc) (by decide)

def Updates (r : Request) : Prop := ∃ body uri, r = .http .put URI_FIRMWARE body ∧ requested (bytes "update_URI") body = some uri

lemma raised_of_allowed {r : Request} {c : Call} {x : c.Reply} (hc : Allowed sys r c) (h : answer sys c o w = some (x, v))
    (hv : v.memory.downloading = true) (hw : w.memory.downloading = false) : Updates r := by
  by_cases hstore : ∀ f x, c ≠ .store f x
  · rw [answer_memory hstore h, hw] at hv
    cases hv
  · push Not at hstore
    obtain ⟨f, flag, rfl⟩ := hstore
    rw [answer_store h] at hv
    cases f with
    | downloading =>
      have hflag : flag = true := hv
      cases hc with
      | install huri hc => exact ⟨_, _, rfl, huri⟩
      | inspect hc | inspectFirst _ hc | reap hc => exact absurd (hflag.symm.trans hc) Bool.noConfusion
      | commit hc | configure _ hc | switch _ hc | reboot hc => exact False.elim hc
    | _ =>
      have hkept : w.memory.downloading = true := hv
      exact absurd (hkept.symm.trans hw) Bool.noConfusion

lemma forked_of_allowed {r : Request} {c : Call} {x : c.Reply} {p : Installer} (hc : Allowed sys r c)
    (h : answer sys c o w = some (x, v)) (hp : p ∈ v.installers) (hw : p ∉ w.installers) : Updates r := by
  obtain ⟨command, rfl⟩ := (answer_does h).installers p hp hw
  cases hc with
  | install huri hc => exact ⟨_, _, rfl, huri⟩
  | inspect hc | inspectFirst _ hc | reap hc | commit hc | configure _ hc | switch _ hc | reboot hc => exact False.elim hc

end changes

section runs

variable {env : Env} {files : Files} {ls : List (daemon sys).Label} {c d : (daemon sys).Config}

lemma confined (h : (initial sys env files).run ls = some c) : c.Confined (Allowed sys) :=
  Server.Config.Confined.run (fun r _ => handler_allowed r) (Server.Config.confined_of_idle rfl) h

theorem calls_authorised {r : Request} {t : Trace calls} {q : Call} {next : q.Reply → Prog (Option Resp)}
    (h : (initial sys env files).run ls = some c) (ht : c.thread = some ⟨r, t, .call q next⟩) : Allowed sys r q :=
  (confined h).pending ht

structure Accounted (sys : System) (l : (daemon sys).Label) (c d : (daemon sys).Config) : Prop where
  files : ∀ path, d.world.files path ≠ c.world.files path → ∃ t, c.thread = some t ∧ Owns sys t.request path
  loaded : d.world.loaded ≠ c.world.loaded → ∃ t e body, c.thread = some t ∧ t.request = .http .put (uriOf e) body
  env : d.world.env ≠ c.world.env → (∃ a, l = .move (.act a)) ∨
    ∃ t body, c.thread = some t ∧ t.request = .http .put URI_FIRMWARE_COMMIT body
  raised : d.world.memory.downloading = true → c.world.memory.downloading = false →
    ∃ t, c.thread = some t ∧ Updates t.request
  installers : ∀ p ∈ d.world.installers, c.world.find p.pid = none → ∃ t, c.thread = some t ∧ Updates t.request

lemma accounted_same {l : (daemon sys).Label} (hf : d.world.files = c.world.files) (hl : d.world.loaded = c.world.loaded)
    (he : d.world.env ≠ c.world.env → ∃ a, l = .move (.act a)) (hm : d.world.memory = c.world.memory)
    (hi : ∀ p ∈ d.world.installers, c.world.find p.pid ≠ none) : Accounted sys l c d where
  files path hp := absurd (congrFun hf path) hp
  loaded h := absurd hl h
  env h := .inl (he h)
  raised hd hc := absurd ((hm ▸ hd : c.world.memory.downloading = true).symm.trans hc) Bool.noConfusion
  installers p hp hn := absurd hn (hi p hp)

lemma find_of_mem {w : World} {p : Installer} (h : p ∈ w.installers) : w.find p.pid ≠ none := by
  intro hn
  have hnone := List.find?_eq_none.mp hn p h
  simp at hnone

lemma act_loaded {w v : World} {a : Act} (h : act a w = some v) : v.loaded = w.loaded := by
  cases act_cases h with
  | write _ hv | exit _ hv | dropSigchld _ hv | sigchld hv | setBootcount hv | setEnv hv =>
    subst hv
    rfl

lemma find_of_setState {w : World} {s : InstallerState} {p : Installer} {pid : ℤ} (h : p ∈ setState pid s w.installers) :
    w.find p.pid ≠ none := by
  obtain ⟨q, hq, rfl⟩ := List.mem_map.mp h
  have hfind := find_of_mem hq
  split_ifs with hpid
  · rwa [hpid] at hfind
  · exact hfind

lemma act_find {w v : World} {a : Act} (h : act a w = some v) : ∀ p ∈ v.installers, w.find p.pid ≠ none := by
  intro p hp
  cases act_cases h with
  | write _ hv | exit _ hv =>
    subst hv
    exact find_of_setState hp
  | dropSigchld _ hv | sigchld hv | setBootcount hv | setEnv hv =>
    subst hv
    exact find_of_mem hp

lemma accept_files {r : Request} {w v : World} (h : acceptRequest r w = some v) : v.files = w.files := by
  cases r with
  | http m path body => rw [Option.some.inj h]
  | sigchld =>
    simp only [acceptRequest] at h
    split_ifs at h
    rw [← Option.some.inj h]

lemma direct_run (hf : Direct sys files) (h : (initial sys env files).run ls = some c) : Direct sys c.world.files := by
  refine Server.Config.Confined.invariant (I := fun w : World => Direct sys w.files) (fun r _ => handler_allowed r)
    (fun r w v hv hw => ?_) (fun a w v _ hv hw => ?_) (fun r q o w x v hq hv hw => hw.answer hq hv)
    (Server.Config.confined_of_idle rfl) h hf
  · exact (accept_files hv).symm ▸ hw
  · exact (act_files hv).symm ▸ hw

theorem changes_accounted {l : (daemon sys).Label} (hf : Direct sys files) (h : (initial sys env files).run ls = some c)
    (hl : c.step l = some d) : Accounted sys l c d := by
  rcases Server.Config.step_cases hl with ⟨r, w, -, -, hw, rfl⟩ | ⟨r, k, a, -, -, rfl⟩ | ⟨⟨r, k, p⟩, m, s, rfl, ht, hm, rfl⟩ |
    ⟨a, w, rfl, -, hw, rfl⟩
  · cases r with
    | http m path body =>
      obtain rfl : c.world = w := Option.some.inj hw
      exact accounted_same rfl rfl (fun h => absurd rfl h) rfl fun p => find_of_mem
    | sigchld =>
      simp only [acceptRequest] at hw
      split_ifs at hw
      obtain rfl := Option.some.inj hw
      exact accounted_same rfl rfl (fun h => absurd rfl h) rfl fun p => find_of_mem
  · exact accounted_same rfl rfl (fun h => absurd rfl h) rfl fun p => find_of_mem
  · cases m with
    | act a =>
      obtain ⟨w, hw, rfl⟩ := Session.move_act hm
      exact accounted_same (act_files hw) (act_loaded hw) (fun _ => ⟨a, rfl⟩) (act_memory hw) (act_find hw)
    | answer o =>
      obtain ⟨q, next, x, w, rfl, hw, rfl⟩ := Session.move_answer hm
      have hc : Allowed sys r q := (confined h).pending ht
      have hdirect : Direct sys c.world.files := direct_run hf h
      refine ⟨fun path hp => ⟨_, ht, owns_of_alters hdirect hc ((answer_does hw).files path hp)⟩, fun hl => ?_, fun he => .inr ?_,
        fun hd hcd => ⟨_, ht, raised_of_allowed hc hw hd hcd⟩, fun p hp hn => ⟨_, ht, forked_of_allowed hc hw hp fun hmem => ?_⟩⟩
      · obtain ⟨e, body, rfl⟩ := loaded_of_allowed hc hw hl
        exact ⟨_, e, body, ht, rfl⟩
      · obtain ⟨body, rfl⟩ := env_of_allowed hc hw he
        exact ⟨_, body, ht, rfl⟩
      · exact find_of_mem hmem hn
  · exact accounted_same (act_files hw) (act_loaded hw) (fun _ => ⟨a, rfl⟩) (act_memory hw) (act_find hw)

def ownFiles (sys : System) : List Bytes :=
  [sys.chroot ++ LINK_MODE, sys.chroot ++ FILE_WIFI_CONFIG_PASSTHROUGH, sys.tempFile FILE_WIFI_CONFIG_PASSTHROUGH,
    sys.chroot ++ FILE_WIFI_CONFIG_SECURE_HOST, sys.tempFile FILE_WIFI_CONFIG_SECURE_HOST]

lemma Owns.mem {r : Request} {path : Bytes} (h : Owns sys r path) : path ∈ ownFiles sys := by
  cases h with
  | link => simp [ownFiles]
  | @config e => cases e <;> simp [ownFiles, WifiStore.Endpoint.file]
  | @temp e => cases e <;> simp [ownFiles, WifiStore.Endpoint.file]

theorem other_files_kept {path : Bytes} (hf : Direct sys files) (hp : path ∉ ownFiles sys)
    (h : (initial sys env files).run ls = some c) : c.world.files path = files path := by
  have hkept : Direct sys c.world.files ∧ c.world.files path = files path := by
    refine Server.Config.Confined.invariant (I := fun w : World => Direct sys w.files ∧ w.files path = files path)
      (fun r _ => handler_allowed r) (fun r w v hv hw => ?_) (fun a w v _ hv hw => ?_) (fun r q o w x v hq hv hw => ?_)
      (Server.Config.confined_of_idle rfl) h ⟨hf, rfl⟩
    · rw [accept_files hv]
      exact hw
    · rw [act_files hv]
      exact hw
    · refine ⟨hw.1.answer hq hv, ?_⟩
      rw [← hw.2]
      by_contra hne
      exact hp (owns_of_alters hw.1 hq ((answer_does hv).files path hne)).mem
  exact hkept.2

end runs

section samples

open Sample

-- PUT /firmware up to the fork.
def forking : List (daemon bare).Label := .start (.http .put URI_FIRMWARE install) :: done 4

def forkCommand : Call → Option Bytes
  | .fork command => some command
  | _ => none

set_option maxRecDepth 100000 in
lemma run_forking : ∃ c, first.run forking = some c ∧ c.nextCall = some (.fork (bytes "/bin/mender -install u")) ∧
    c.world.installers = [] := by
  have h : (first.run forking).map (fun c => (c.nextCall.bind forkCommand, c.world.installers)) =
      some (some (bytes "/bin/mender -install u"), []) := by decide
  obtain ⟨c, hc, he⟩ := Option.map_eq_some_iff.mp h
  obtain ⟨hn, hi⟩ := Prod.mk.inj he
  obtain ⟨q, hq, hcommand⟩ := Option.bind_eq_some_iff.mp hn
  cases q with
  | fork command =>
    obtain rfl := Option.some.inj hcommand
    exact ⟨c, hc, hq, hi⟩
  | _ => simp [forkCommand] at hcommand

theorem calls_authorised_fork : ∃ c r t next, first.run forking = some c ∧
    c.thread = some ⟨r, t, .call (S := calls) (.fork (bytes "/bin/mender -install u")) next⟩ ∧
    Allowed bare r (.fork (bytes "/bin/mender -install u")) := by
  obtain ⟨c, hc, hn, -⟩ := run_forking
  obtain ⟨r, t, next, ht⟩ := Server.Config.thread_of_nextCall hn
  exact ⟨c, r, t, next, hc, ht, calls_authorised hc ht⟩

theorem changes_accounted_fork : ∃ c d, first.run forking = some c ∧ c.step (answered (.forked 7)) = some d ∧
    d.world.installers = [⟨7, .running false⟩] ∧ Accounted bare (answered (.forked 7)) c d := by
  obtain ⟨c, hc, hn, hi⟩ := run_forking
  obtain ⟨r, t, next, ht⟩ := Server.Config.thread_of_nextCall hn
  have hfind : c.world.find 7 = none := by rw [World.find, hi]; rfl
  have hfork : answer bare (.fork (bytes "/bin/mender -install u")) (.forked 7) c.world =
      some (7, { c.world with installers := c.world.installers ++ [⟨7, .running false⟩] }) := by
    simp [answer, answerFork, hfind]
  have hstep := Server.Config.answer_step (H := host bare) (o := .forked 7) ht hfork
  have hdirect : Direct bare fun _ => none := fun _ _ => (Option.some_ne_none _).symm
  exact ⟨c, _, hc, hstep, by simp [hi], changes_accounted hdirect hc hstep⟩

open WifiStore in
def storing : List (daemon hashing).Label :=
  .start (.http .put (uriOf .passthrough) (some (.object (upload textB).members))) ::
    List.replicate 6 (.move (.answer .done))

def hosts : Files := fun path =>
  if path = FILE_WIFI_CONFIG_PASSTHROUGH then some (.file (bytes "a"))
  else if path = bytes "/etc/hosts" then some (.file (bytes "h")) else none

theorem other_files_kept_storing : ∃ c, (initial WifiStore.hashing committed hosts).run storing = some c ∧
    c.world.files FILE_WIFI_CONFIG_PASSTHROUGH = some (.file (bytes "b")) ∧
    c.world.files (bytes "/etc/hosts") = some (.file (bytes "h")) := by
  have hdirect : Direct WifiStore.hashing hosts := fun e t => by cases e <;> exact nofun
  have hrun : (initial WifiStore.hashing committed hosts).run storing = some _ := rfl
  exact ⟨_, hrun, rfl, other_files_kept hdirect (by decide) hrun⟩

end samples

end RouterCard.Captived.Authority
