import RouterCard.Captived.UpdateHistory

namespace RouterCard.Captived.AdvertisedUri

open Text Interaction FirmwareManager UpdateHistory

section documents

variable {sys : System} {name : Bytes}

def uriMembers (uri : Bytes) : Json :=
  if uri = [] then .object [] else Json.objectSet (.object []) (bytes "update_URI") (Json.ofString uri)

def artifact (p : Pattern) (contents : Option Bytes) : Option Json :=
  match (contents.bind getline).bind (search p) with
  | none => some .null
  | some value => Json.ofString value

def stateBody : Option Bytes → Option Json
  | none => some .null
  | some state => Json.ofString state

def document (uri : Bytes) (version image state : Option Bytes) : Json :=
  Json.objectSet (Json.objectSet (Json.objectSet (uriMembers uri) (bytes "running_version") (artifact FirmwareVersion.pattern version))
    (bytes "running_image") (artifact FirmwareImage.pattern image)) (bytes "update_state") (stateBody state)

lemma isNull_ofString (s : Bytes) : Json.isNull (Json.ofString s) = false := by
  rw [Json.ofString]
  split_ifs <;> rfl

lemma addResource_uri : AggregateResource.addResource (.object [])
    ⟨bytes "update_URI", FirmwareUri.resource URI_FIRMWARE_UPDATE_URI, true⟩ =
      .call (S := calls) (.load .uri) fun uri => .done (uriMembers uri) := by
  refine congrArg (Program.call (S := calls) (.load .uri)) (funext fun uri : Bytes => ?_)
  by_cases hu : uri = []
  · subst hu
    rfl
  · simp [hu, uriMembers, Resource.ok, isNull_ofString, Program.bind]

lemma addResource_artifact (obj : Json) (p : Pattern) (path : Bytes) : AggregateResource.addResource obj
    ⟨name, ArtifactInfo.resource sys FILE_FIRMWARE_VERSION p path, false⟩ =
      .call (S := calls) (.readFile (sys.chroot ++ FILE_FIRMWARE_VERSION)) fun contents =>
        .done (Json.objectSet obj name (artifact p contents)) := by
  refine congrArg (Program.call (S := calls) (.readFile _)) (funext fun contents : Option Bytes => ?_)
  rw [artifact]
  change (match (contents.bind getline).bind (search p) with
    | none => Program.done _
    | some value => Program.done _) >>= _ = _
  cases (contents.bind getline).bind (search p) with
  | none => rfl
  | some value => rfl

lemma addResource_state (obj : Json) (path : Bytes) : AggregateResource.addResource obj
    ⟨bytes "update_state", FirmwareUpdateState.resource sys path, false⟩ =
      firmwareState sys >>= fun s => .done (Json.objectSet obj (bytes "update_state") (stateBody s)) := by
  refine (bind_assoc (firmwareState sys) _ _).trans (bind_congr fun s => ?_)
  cases s with
  | none => rfl
  | some s => rfl

lemma firmwareGet_eq (b : Body) : Firmware.get sys b =
    .call (S := calls) (.load .uri) fun uri => .call (S := calls) (.readFile (sys.chroot ++ FILE_FIRMWARE_VERSION)) fun version =>
      .call (S := calls) (.readFile (sys.chroot ++ FILE_FIRMWARE_VERSION)) fun image =>
        firmwareState sys >>= fun state => .done (Resource.ok (some (document uri version image state))) := by
  rw [Firmware.get_eq, addResource_uri]
  simp only [addResource_artifact, addResource_state, Program.call_bind, Program.done_bind, bind_assoc]
  rfl

end documents

section answers

open InstallRequest

variable (sys : System)

abbrev bootCall : Call := .popen (sys.chroot ++ printenvCommand FIRMWARE_ENV_BOOT_COUNT)
abbrev upgradeCall : Call := .popen (sys.chroot ++ printenvCommand FIRMWARE_ENV_UPGRADE_AVAIL)

def ReadsNormal (t : Trace calls) : Prop :=
  ∃ r₁ r₂ : PopenReply, (⟨bootCall sys, r₁⟩ : Sigma Call.Reply) ∈ t ∧ (⟨upgradeCall sys, r₂⟩ : Sigma Call.Reply) ∈ t ∧
    envValue FIRMWARE_ENV_BOOT_COUNT r₁.result ≠ none ∧
    ∃ u, envValue FIRMWARE_ENV_UPGRADE_AVAIL r₂.result = some u ∧ u ≠ bytes "1"

structure ReadOnce (t : Trace calls) (r₁ r₂ : PopenReply) : Prop where
  boot : ∀ r, (⟨bootCall sys, r⟩ : Sigma Call.Reply) ∈ t ↔ r = r₁
  upgrade : ∀ r, (⟨upgradeCall sys, r⟩ : Sigma Call.Reply) ∈ t ↔ r = r₂

structure Told (downloading : Bool) (s : Option Bytes) (t : Trace calls) : Prop where
  text : ∀ x, s = some x → IsJsonText x
  normal : s = some FIRMWARE_STATE_NORMAL ↔ downloading = false ∧ ReadsNormal sys t
  downloading : s = some FIRMWARE_STATE_DOWNLOADING → downloading = true

variable {sys} {w v : World} {t : Trace calls} {r₁ r₂ : PopenReply} {α : Type}

lemma ReadOnce.normal_iff (h : ReadOnce sys t r₁ r₂) : ReadsNormal sys t ↔ envValue FIRMWARE_ENV_BOOT_COUNT r₁.result ≠ none ∧
    ∃ u, envValue FIRMWARE_ENV_UPGRADE_AVAIL r₂.result = some u ∧ u ≠ bytes "1" := by
  simp only [ReadsNormal, h.boot, h.upgrade, exists_and_left, exists_eq_left]

lemma ReadOnce.snoc {c : Call} {x : c.Reply} (hc : ∀ command, c ≠ .popen command) (h : ReadOnce sys t r₁ r₂) :
    ReadOnce sys (t ++ [⟨c, x⟩]) r₁ r₂ := by
  have hne : ∀ {command} {r : PopenReply}, (⟨.popen command, r⟩ : Sigma Call.Reply) ∉ [(⟨c, x⟩ : Sigma Call.Reply)] :=
    fun hm => hc _ (congrArg Sigma.fst (List.mem_singleton.mp hm)).symm
  constructor
  · intro r
    rw [List.mem_append, or_iff_left hne]
    exact h.boot r
  · intro r
    rw [List.mem_append, or_iff_left hne]
    exact h.upgrade r

lemma readOnce_of_fresh (h : ∀ command r, (⟨.popen command, r⟩ : Sigma Call.Reply) ∉ t) :
    ReadOnce sys (t ++ [⟨bootCall sys, r₁⟩] ++ [⟨upgradeCall sys, r₂⟩]) r₁ r₂ := by
  have hne : printenvCommand FIRMWARE_ENV_BOOT_COUNT ≠ printenvCommand FIRMWARE_ENV_UPGRADE_AVAIL := by decide
  constructor
  · intro r
    simp [h, hne]
  · intro r
    simp [h, hne.symm]

lemma stable_same (m : Memory) (t : Trace calls) : (rules sys).Stable t fun w => w.memory = m :=
  InstallRequest.stable (fun _ _ hm _ h => hm.trans h) t

lemma stateFrom_told (h : ReadOnce sys t r₁ r₂) (m : Memory) (hw : w.memory = m) :
    (stateFrom (envValue FIRMWARE_ENV_BOOT_COUNT r₁.result) (envValue FIRMWARE_ENV_UPGRADE_AVAIL r₂.result)).Safe (rules sys)
      (fun s t _ => Told sys m.downloading s t) t w := by
  have hc := stateFrom_cases (envValue FIRMWARE_ENV_BOOT_COUNT r₁.result) (envValue FIRMWARE_ENV_UPGRADE_AVAIL r₂.result)
  have hn := h.normal_iff
  have hnormal : IsJsonText FIRMWARE_STATE_NORMAL := by decide
  have hdownloading : IsJsonText FIRMWARE_STATE_DOWNLOADING := by decide
  have hdownloaded : IsJsonText FIRMWARE_STATE_DOWNLOADED := by decide
  have huncommitted : IsJsonText FIRMWARE_STATE_UNCOMMITTED := by decide
  have htext : ∀ {s}, IsJsonText s → ∀ x, some s = some x → IsJsonText x := by
    intro s hs x hx
    exact Option.some.inj hx ▸ hs
  generalize stateFrom _ _ = p at hc ⊢
  cases hc with
  | unread hnone =>
    refine .of_done (stable_same m t) hw fun x _ => ⟨trivial, by simp, iff_of_false (by simp) ?_, by simp⟩
    rintro ⟨-, hread⟩
    obtain ⟨hb, u, hu, -⟩ := hn.mp hread
    rcases hnone with hnone | hnone
    · exact hb hnone
    · exact Option.some_ne_none u (hu.symm.trans hnone)
  | thrown => exact .of_call (stable_same m t) hw (fun _ _ => ⟨trivial, trivial⟩) fun _ r => r.elim
  | upgraded _ _ hu =>
    refine .of_call (stable_same m t) hw (fun _ _ => ⟨trivial, trivial⟩) fun x r y _ _ => ?_
    refine any_done fun z => ?_
    have hread : ¬ ReadsNormal sys (t ++ [⟨.store .downloading false, r⟩]) := by
      rw [(h.snoc (c := .store .downloading false) (by simp)).normal_iff]
      rintro ⟨-, u, hu', hne⟩
      exact hne (Option.some.inj (hu'.symm.trans hu))
    rw [stateText, if_pos rfl]
    split_ifs
    · exact ⟨htext hdownloaded, iff_of_false (by decide) fun h => hread h.2, fun h => absurd h (by decide)⟩
    · exact ⟨htext huncommitted, iff_of_false (by decide) fun h => hread h.2, fun h => absurd h (by decide)⟩
  | flagged hb _ hu h1 =>
    refine .of_call (stable_same m t) hw (fun _ _ => ⟨trivial, trivial⟩) fun x d y hx ha => ?_
    refine any_done fun z => ?_
    obtain ⟨o, ha⟩ := ha
    obtain ⟨hd, -⟩ := answer_load ha
    obtain rfl : d = m.downloading := hd.trans (congrArg Memory.downloading hx)
    have hread : ReadsNormal sys (t ++ [⟨.load .downloading, m.downloading⟩]) := by
      rw [(h.snoc (c := .load .downloading) (by simp)).normal_iff, hb]
      exact ⟨Option.some_ne_none _, _, hu, h1⟩
    rw [stateText, if_neg h1]
    cases hd : m.downloading with
    | true => exact ⟨htext hdownloading, iff_of_false (by decide) fun h => Bool.noConfusion h.1, fun _ => rfl⟩
    | false => exact ⟨htext hnormal, iff_of_true rfl ⟨rfl, hd ▸ hread⟩, fun h => absurd h (by decide)⟩

lemma firmwareState_told (h : ∀ command r, (⟨.popen command, r⟩ : Sigma Call.Reply) ∉ t) (m : Memory) (hw : w.memory = m) :
    (firmwareState sys).Safe (rules sys) (fun s t _ => Told sys m.downloading s t) t w := by
  rw [firmwareState_eq]
  refine .of_call (stable_same m t) hw (fun _ _ => ⟨trivial, trivial⟩) fun x r₁ y hx ⟨o, ha⟩ => ?_
  have hy : y.memory = m := (answer_memory (by simp) ha).trans hx
  refine .of_call (stable_same m _) hy (fun _ _ => ⟨trivial, trivial⟩) fun x r₂ y hx ⟨o, ha⟩ => ?_
  exact stateFrom_told (readOnce_of_fresh h) m ((answer_memory (by simp) ha).trans hx)

def Shown (sys : System) (m : Memory) (a : Option Resp) (t : Trace calls) : Prop :=
  ∃ version image state, a = some (Resource.ok (some (document m.uri version image state))) ∧ Told sys m.downloading state t

lemma handler_shown (body : Body) (w : World) : (handler sys (.http .get URI_FIRMWARE body)).Safe (rules sys)
    (fun a t _ => Shown sys w.memory a t) [] w := by
  have hhandler : handler sys (.http .get URI_FIRMWARE body) = some <$> Firmware.get sys body := rfl
  rw [hhandler, firmwareGet_eq]
  refine .map ?_
  refine .of_call (stable_same w.memory _) rfl (fun _ _ => ⟨trivial, trivial⟩) fun x uri y hx ⟨o, ha⟩ => ?_
  obtain ⟨hu, rfl⟩ := answer_load ha
  obtain rfl : uri = w.memory.uri := hu.trans (congrArg Memory.uri hx)
  refine .of_call (stable_same w.memory _) hx (fun _ _ => ⟨trivial, trivial⟩) fun x version y hx ⟨o, ha⟩ => ?_
  refine .of_call (stable_same w.memory _) ((answer_memory (by simp) ha).trans hx) (fun _ _ => ⟨trivial, trivial⟩)
    fun x image y hx ⟨o, ha⟩ => ?_
  refine .bind ((firmwareState_told (by simp) w.memory ((answer_memory (by simp) ha).trans hx)).mono fun state t z h => ?_)
  exact any_done fun _ => ⟨version, image, state, rfl, h⟩

end answers

section advertised

variable {sys : System} {uri : Bytes} {version image state : Option Bytes} {g : Installs}

def ReportsState (obj : Json) (text : Bytes) : Prop :=
  ∃ s : JsonText, Json.objectGet obj (bytes "update_state") = some (.string s) ∧ s.val = text

structure Advertised (sys : System) (g : Installs) (obj : Json) : Prop where
  normal : ReportsState obj FIRMWARE_STATE_NORMAL → Json.objectGet obj (bytes "update_URI") = none
  downloading : ∀ uri, uri ≠ [] → g.started = some (installCommand sys uri) → ReportsState obj FIRMWARE_STATE_DOWNLOADING →
    ∃ s : JsonText, Json.objectGet obj (bytes "update_URI") = some (.string s) ∧ s.val = uri

/-- A URI is stored, while the flag is down and the variables read as normal. -/
structure Outdated (sys : System) (g : Installs) (w : World) (t : Trace calls) : Prop where
  requested : g.requested ≠ []
  down : w.memory.downloading = false
  reads : ReadsNormal sys t

variable (version image state) in
lemma document_uri (htext : IsJsonText uri) : Json.objectGet (document uri version image state) (bytes "update_URI") =
    if uri = [] then none else some (.string ⟨uri, htext⟩) := by
  have h₁ : bytes "update_URI" ≠ cString (bytes "update_state") := by decide
  have h₂ : bytes "update_URI" ≠ cString (bytes "running_image") := by decide
  have h₃ : bytes "update_URI" ≠ cString (bytes "running_version") := by decide
  rw [document, Json.objectGet_set_of_ne h₁, Json.objectGet_set_of_ne h₂, Json.objectGet_set_of_ne h₃, uriMembers]
  split_ifs
  · rfl
  · rw [Json.objectGet_set_self (by decide) rfl]
    exact Json.ofString_text ⟨uri, htext⟩

lemma document_state : Json.objectGet (document uri version image state) (bytes "update_state") = stateBody state := by
  have h₁ : bytes "update_state" ≠ cString (bytes "running_image") := by decide
  have h₂ : bytes "update_state" ≠ cString (bytes "running_version") := by decide
  have h₃ : bytes "update_state" ≠ cString (bytes "update_URI") := by decide
  have hmembers : ∃ ms, uriMembers uri = .object ms := by
    rw [uriMembers]
    split_ifs
    · exact ⟨[], rfl⟩
    · exact Json.objectSet_object _ _ _
  have hnone : Json.objectGet (uriMembers uri) (bytes "update_state") = none := by
    rw [uriMembers]
    split_ifs
    · rfl
    · exact Json.objectGet_set_of_ne h₃ _ _
  obtain ⟨ms₁, hms₁⟩ := hmembers
  obtain ⟨ms₂, hms₂⟩ := Json.objectSet_object ms₁ (bytes "running_version") (artifact FirmwareVersion.pattern version)
  obtain ⟨ms₃, hms₃⟩ := Json.objectSet_object ms₂ (bytes "running_image") (artifact FirmwareImage.pattern image)
  have hget : Json.objectGet (.object ms₃) (bytes "update_state") = none := by
    rw [← hms₃, Json.objectGet_set_of_ne h₁, ← hms₂, Json.objectGet_set_of_ne h₂, ← hms₁, hnone]
  rw [document, hms₁, hms₂, hms₃, Json.objectGet_set_self (by decide) hget]

lemma reportsState_iff (htext : ∀ x, state = some x → IsJsonText x) {text : Bytes} :
    ReportsState (document uri version image state) text ↔ state = some text := by
  rw [ReportsState, document_state]
  cases state with
  | none => simp [stateBody]
  | some x =>
    have hx : Json.ofString x = some (.string ⟨x, htext x rfl⟩) := Json.ofString_text ⟨x, htext x rfl⟩
    rw [stateBody, hx]
    constructor
    · rintro ⟨s, hs, rfl⟩
      cases hs
      rfl
    · intro h
      exact ⟨_, rfl, Option.some.inj h⟩

lemma advertised_document_iff {w : World} {t : Trace calls} (hw : Matching sys w g) (ht : Told sys w.memory.downloading state t) :
    Advertised sys g (document w.memory.uri version image state) ↔ ¬ Outdated sys g w t := by
  have hget := document_uri version image state hw.text
  have hcommand : ∀ {uri}, installCommand sys w.memory.uri = installCommand sys uri → w.memory.uri = uri :=
    fun h => List.append_cancel_left (List.append_cancel_left h)
  constructor
  · rintro ⟨hnormal, -⟩ ⟨hrequested, hdown, hreads⟩
    have hnone := hnormal ((reportsState_iff ht.text).mpr (ht.normal.mpr ⟨hdown, hreads⟩))
    rw [hget, if_neg (hw.requested ▸ hrequested)] at hnone
    cases hnone
  · intro hout
    refine ⟨fun hnormal => ?_, fun uri hne hstarted hdownloading => ?_⟩
    · obtain ⟨hdown, hreads⟩ := ht.normal.mp ((reportsState_iff ht.text).mp hnormal)
      rw [hget, if_pos]
      by_contra hne
      exact hout ⟨hw.requested ▸ hne, hdown, hreads⟩
    · have hup := ht.downloading ((reportsState_iff ht.text).mp hdownloading)
      obtain rfl := hcommand (Option.some.inj ((hw.started hup).symm.trans hstarted))
      exact ⟨_, by rw [hget, if_neg hne], rfl⟩

theorem advertised_iff {c : (daemon sys).Config} (hc : Server.Watched installs (IsInitial sys) c g) (hn : c.thread = none)
    {body : Body} {moves : List (Move (host sys))} {t : Trace calls} {resp : Resp} {v : World}
    (h : (⟨[], handler sys (.http .get URI_FIRMWARE body), c.world⟩ : Session (host sys) (Option Resp)).play moves =
      some ⟨t, .done (some resp), v⟩) :
    ∃ obj, resp = Resource.ok (some obj) ∧ (Advertised sys g obj ↔ ¬ Outdated sys g c.world t) := by
  obtain ⟨version, image, state, hresp, ht⟩ := InstallRequest.play_result (handler_shown body c.world) h
  exact ⟨_, Option.some.inj hresp, advertised_document_iff (matching_of_watched hc hn) ht⟩

end advertised

section samples

open Sample

-- The installer of the PUT exits with status 1, and the callback reaps it.
def failing : List (daemon bare).Label :=
  updating ++ acted (.exit 7 (.exited 1)) :: .start .sigchld :: done 5 ++ [.finish]

def failed : (daemon bare).Config := (first.run failing).getD first

set_option maxRecDepth 100000 in
lemma run_failing : first.run failing = some failed := by
  have h : (first.run failing).isSome = true := by decide
  exact (Option.getD_of_ne_none (Option.ne_none_iff_isSome.mpr h) first).symm

set_option maxRecDepth 100000 in
lemma failed_thread : failed.thread = none := by
  have h : failed.thread.isNone = true := by decide
  exact Option.isNone_iff_eq_none.mp h

lemma watched_failed : ∃ g, Server.Watched installs (IsInitial bare) failed g :=
  (Server.Watched.init ⟨committed, fun _ => none, rfl⟩).run run_failing

def request : Session (host bare) (Option Resp) := ⟨[], handler bare (.http .get URI_FIRMWARE none), failed.world⟩

def shows (key text : Bytes) : Option Resp → Bool
  | some (.ok, some obj) =>
    match Json.objectGet obj key with
    | some (.string s) => s.val = text
    | _ => false
  | _ => false

lemma shows_elim {key text : Bytes} {a : Option Resp} (h : shows key text a = true) :
    ∃ obj, a = some (Resource.ok (some obj)) ∧ ∃ s : JsonText, Json.objectGet obj key = some (.string s) ∧ s.val = text := by
  unfold shows at h
  split at h
  · next obj =>
    split at h
    · next s hs => exact ⟨obj, rfl, s, hs, by simpa using h⟩
    · exact absurd h Bool.false_ne_true
  · exact absurd h Bool.false_ne_true

set_option maxRecDepth 100000 in
lemma play_request : ∃ t obj v, request.play (List.replicate 6 (.answer .done)) = some ⟨t, .done (some (Resource.ok (some obj))), v⟩ ∧
    ReportsState obj FIRMWARE_STATE_NORMAL ∧ ∃ s : JsonText, Json.objectGet obj (bytes "update_URI") = some (.string s) ∧
      s.val = bytes "u" := by
  have h : ((request.play (List.replicate 6 (.answer .done))).any fun s => s.result.any fun resp =>
      shows (bytes "update_state") FIRMWARE_STATE_NORMAL resp && shows (bytes "update_URI") (bytes "u") resp) = true := by
    decide
  obtain ⟨⟨t, rest, v⟩, hs, hresult⟩ := (Option.any_eq_true _ _).mp h
  obtain ⟨resp, hr, hboth⟩ := (Option.any_eq_true _ _).mp hresult
  obtain rfl := Session.result_eq hr
  obtain ⟨hshown, hkept⟩ := (Bool.and_eq_true _ _).mp hboth
  obtain ⟨obj, rfl, hstate⟩ := shows_elim hshown
  obtain ⟨obj', hobj, huri⟩ := shows_elim hkept
  obtain rfl : obj = obj' := Option.some.inj (Prod.mk.inj (Option.some.inj hobj)).2
  exact ⟨t, obj, v, hs, hstate, huri⟩

theorem advertised_iff_failed : ∃ g t resp v, Server.Watched installs (IsInitial bare) failed g ∧
    request.play (List.replicate 6 (.answer .done)) = some ⟨t, .done (some resp), v⟩ ∧
    ∃ obj, resp = Resource.ok (some obj) ∧ (Advertised bare g obj ↔ ¬ Outdated bare g failed.world t) := by
  obtain ⟨g, hg⟩ := watched_failed
  obtain ⟨t, obj, v, hplay, -⟩ := play_request
  exact ⟨g, t, _, v, hg, hplay, advertised_iff hg failed_thread hplay⟩

theorem uri_outlives_update : first.run failing = some failed ∧ failed.thread = none ∧
    ∃ g t obj v, Server.Watched installs (IsInitial bare) failed g ∧
      request.play (List.replicate 6 (.answer .done)) = some ⟨t, .done (some (Resource.ok (some obj))), v⟩ ∧
      ReportsState obj FIRMWARE_STATE_NORMAL ∧
      (∃ s : JsonText, Json.objectGet obj (bytes "update_URI") = some (.string s) ∧ s.val = bytes "u") ∧
      ¬ Advertised bare g obj := by
  obtain ⟨g, hg⟩ := watched_failed
  obtain ⟨t, obj, v, hplay, hstate, huri⟩ := play_request
  refine ⟨run_failing, failed_thread, g, t, obj, v, hg, hplay, hstate, huri, fun hadvertised => ?_⟩
  obtain ⟨s, hs, -⟩ := huri
  exact Option.some_ne_none _ (hs.symm.trans (hadvertised.normal hstate))

end samples

end RouterCard.Captived.AdvertisedUri
