import RouterCard.Captived.TextAnswers
import RouterCard.Captived.UpdateState
import RouterCard.Interaction.Footprint
import RouterCard.Text.Ascii

namespace RouterCard.Captived.Conformance

open Text Interaction FirmwareManager

section table

variable (sys : System)

def methods (path : Bytes) : List Method :=
  if path = URI_FIRMWARE ∨ path = URI_ROUTER_MODE ∨ path = URI_WIFI_CONFIG_PASSTHROUGH ∨ path = URI_WIFI_CONFIG_SECURE then
    [.get, .put]
  else if path = URI_FIRMWARE_COMMIT then [.put]
  else if path = URI_REBOOT then [.post]
  else [.get]

def methodName : Method → String
  | .get => "GET"
  | .put => "PUT"
  | .post => "POST"

def isDocument (path : Bytes) : Bool :=
  path ∈ [URI_WIFI_MAC_ADDRESS, URI_FIRMWARE, URI_FIRMWARE_COMMIT, URI_WIFI_CONFIG_PASSTHROUGH, URI_WIFI_CONFIG_SECURE,
    URI_WIFI_CONFIG, URI_WIFI_STATUS, URI_WIFI, URI_ROUTER_STATUS]

def isAggregate (path : Bytes) : Bool :=
  path ∈ [URI_WIFI_MAC_ADDRESS, URI_FIRMWARE, URI_WIFI_CONFIG, URI_WIFI, URI_ROUTER_STATUS]

inductive Replies (m : Method) (path : Bytes) : Resp → Prop
  | ok {body} : (isDocument path = true → ∃ ms, body = some (.object ms)) → Replies m path (.ok, body)
  | failed {msg} : (m = .get → isAggregate path = false) → Replies m path (.internalServerError, some (.string msg))
  | refused {msg} : m = .put → Replies m path (.badRequest, some (.string msg))

def Refuses (m : Method) (path : Bytes) (resp : Resp) : Prop :=
  ∃ msg : JsonText, msg.val = bytes (methodName m) ++ bytes " method not allowed for " ++ path ∧
    resp = (.methodNotAllowed, some (.string msg))

inductive Conforms : Request → Option Resp → Prop
  | reaped : Conforms .sigchld none
  | unknown {m path body} : (∀ r ∈ Main.registered sys, r.path ≠ path) → Conforms (.http m path body) (some (.notFound, none))
  | lacking {m r body resp} : r ∈ Main.registered sys → m ∉ methods r.path → Refuses m r.path resp →
      Conforms (.http m r.path body) (some resp)
  | having {m r body resp} : r ∈ Main.registered sys → m ∈ methods r.path → Replies m r.path resp →
      Conforms (.http m r.path body) (some resp)

end table

variable {sys : System} {m : Method} {path : Bytes}

section messages

lemma isJsonText_of_ascii {s : Bytes} (h : IsAscii s) : IsJsonText s := Json.isJsonText_ascii h

lemma isDocument_of_isAggregate (h : isAggregate path = true) : isDocument path = true := by
  simp only [isAggregate, isDocument, List.mem_cons, List.not_mem_nil, or_false, decide_eq_true_eq] at h ⊢
  tauto

lemma failed_message {msg : Bytes} (hm : m = .get → isAggregate path = false) (h : IsAscii msg) :
    Replies m path (Resource.internalServerError msg) := by
  rw [Resource.internalServerError, Json.ofString_text ⟨msg, isJsonText_of_ascii h⟩]
  exact .failed hm

lemma failed_value {msg : Bytes} (hp : isDocument path = false) (h : IsAscii msg) :
    Replies m path (Resource.internalServerError msg) := by
  refine failed_message (fun _ => ?_) h
  by_contra ha
  rw [Bool.not_eq_false] at ha
  exact Bool.noConfusion ((isDocument_of_isAggregate ha).symm.trans hp)

lemma refused_message {msg : Bytes} (h : IsAscii msg) : Replies .put path (.badRequest, Json.ofString msg) := by
  rw [Json.ofString_text ⟨msg, isJsonText_of_ascii h⟩]
  exact .refused rfl

lemma ok_value (hp : isDocument path = false) (body : Body) : Replies m path (Resource.ok body) :=
  .ok fun h => absurd (h.symm.trans hp) Bool.noConfusion

lemma ok_object (ms : List (Bytes × Json)) : Replies m path (Resource.ok (some (.object ms))) := .ok fun _ => ⟨ms, rfl⟩

lemma notAllowed_refuses (h : IsAscii (bytes (methodName m) ++ bytes " method not allowed for " ++ path)) :
    (Resource.notAllowed path (methodName m)).Returns (Refuses m path) :=
  ⟨⟨_, isJsonText_of_ascii h⟩, rfl, congrArg (Prod.mk Status.methodNotAllowed) (Json.ofString_text ⟨_, isJsonText_of_ascii h⟩)⟩

end messages

section gets

lemma line_replies {f : Bytes} (b : Body) (hp : isDocument path = false) :
    (LineResource.get sys f b).Returns (Replies m path) :=
  Program.returns_bind fun line => by
    cases line with
    | none => exact failed_value hp (by decide)
    | some line => exact ok_value hp _

lemma artifact_replies {f : Bytes} {p : Text.Pattern} (b : Body) (hp : isDocument path = false) :
    (ArtifactInfo.get sys f p b).Returns (Replies m path) :=
  Program.returns_bind fun value => by
    cases value with
    | none => exact failed_value hp (by decide)
    | some value => exact ok_value hp _

lemma uptime_replies (b : Body) (hp : isDocument path = false) : (Uptime.get sys b).Returns (Replies m path) :=
  Program.returns_bind fun value => by
    cases value with
    | none => exact failed_value hp (by decide)
    | some value => exact ok_value hp _

lemma mode_replies (b : Body) (hp : isDocument path = false) : (Mode.get sys b).Returns (Replies m path) :=
  Program.returns_bind fun mode => by
    cases mode with
    | none => exact failed_value hp (by decide)
    | some mode => exact ok_value hp _

lemma addResources_object (children : List Child) (ms : List (Bytes × Json)) :
    (AggregateResource.addResources (.object ms) children).Returns fun obj => ∃ ns, obj = .object ns := by
  induction children generalizing ms with
  | nil => exact ⟨ms, rfl⟩
  | cons c children ih =>
    refine Program.Returns.bind (P := fun obj => ∃ ns, obj = .object ns) ?_ fun obj hobj => ?_
    · rw [AggregateResource.addResource_eq]
      exact Program.returns_bind fun resp => AggregateResource.added_object ms c resp
    · obtain ⟨ns, rfl⟩ := hobj
      exact ih ns

lemma aggregate_replies (children : List Child) (b : Body) :
    (AggregateResource.get children b).Returns (Replies m path) :=
  (addResources_object children []).bind fun obj hobj => by
    obtain ⟨ns, rfl⟩ := hobj
    exact ok_object ns

lemma status_replies (b : Body) : (WifiStatus.get sys b).Returns (Replies m path) := by
  refine Program.returns_bind fun _ => Program.returns_bind fun _ => fun fields : WifiFields => ?_
  obtain ⟨ms, hms⟩ := Json.objectSet_object [(bytes "connected", .boolean fields.connected),
    (bytes "IPv4_addresses", WifiStatus.addresses fields.ipv4Addrs),
    (bytes "IPv6_addresses", WifiStatus.addresses fields.ipv6Addrs)] (bytes "SSID") (Json.ofString fields.ssid)
  have hreport : WifiStatus.report fields = .object ms := hms
  exact .ok fun _ => ⟨ms, congrArg some hreport⟩

lemma config_replies {f : Bytes} (hm : m = .get → isAggregate path = false) (b : Body) :
    (WifiConfig.get sys f b).Returns (Replies m path) :=
  Program.returns_bind fun contents => by
    cases contents with
    | none => exact failed_message hm (by decide)
    | some s =>
      obtain ⟨ms, hms⟩ := Json.objectSet_object [] (bytes "contents") (Json.ofString s)
      obtain ⟨ns, hns⟩ := Json.objectSet_object ms (bytes "sha256") (Json.ofString (WifiConfig.sha256Hex sys s))
      have hreport : WifiConfig.report sys s = .object ns := by rw [WifiConfig.report, hms, hns]
      exact .ok fun _ => ⟨ns, congrArg some hreport⟩

end gets

section puts

def states : List Bytes :=
  [FIRMWARE_STATE_NORMAL, FIRMWARE_STATE_DOWNLOADING, FIRMWARE_STATE_DOWNLOADED, FIRMWARE_STATE_UNCOMMITTED]

def Known (s : Option Bytes) : Prop := ∀ x, s = some x → x ∈ states

lemma states_ascii : ∀ x ∈ states, IsAscii x := by decide

lemma known_stateText (n : ℤ) (u : Bytes) (d : Bool) : Known (some (stateText n u d)) := by
  intro x hx
  obtain rfl := Option.some.inj hx
  unfold stateText
  split_ifs <;> simp [states]

lemma stateFrom_known (b u : Option Bytes) : (stateFrom b u).Returns Known := by
  have hc := stateFrom_cases b u
  generalize stateFrom b u = p at hc ⊢
  cases hc with
  | unread =>
    intro x hx
    cases hx
  | thrown => exact fun r : Empty => r.elim
  | upgraded => exact fun _ => known_stateText _ _ _
  | flagged => exact fun _ => known_stateText _ _ _

lemma firmwareState_known : (firmwareState sys).Returns Known := by
  rw [firmwareState_eq]
  exact fun r₁ r₂ => stateFrom_known _ _

lemma start_replies (uri : Bytes) : (Firmware.start sys uri).Returns (Replies .put URI_FIRMWARE) := by
  rw [Firmware.start_eq]
  refine fun _ => Program.returns_bind fun pid => ?_
  unfold Firmware.started
  split_ifs
  · exact failed_message nofun (by decide)
  · exact aggregate_replies _ _

lemma accept_replies (body : Body) : (Firmware.accept sys body).Returns (Replies .put URI_FIRMWARE) := by
  unfold Firmware.accept
  split
  · split
    · exact refused_message (by decide)
    · exact start_replies _
    · exact refused_message (by decide)
  · exact refused_message (by decide)

lemma firmwarePut_replies (body : Body) : (Firmware.put sys body).Returns (Replies .put URI_FIRMWARE) :=
  Program.returns_bind fun state => by
    cases state with
    | none => exact failed_message nofun (by decide)
    | some state =>
      dsimp only
      split_ifs
      · exact refused_message (by decide)
      · exact accept_replies body

lemma commit_replies : (FirmwareCommit.commit sys).Returns (Replies .put URI_FIRMWARE_COMMIT) :=
  Program.returns_bind fun result => by
    split_ifs
    · exact aggregate_replies _ _
    · exact failed_message nofun (.append (by decide) (isAscii_ofInt result))

lemma commitPut_replies (body : Body) : (FirmwareCommit.put sys body).Returns (Replies .put URI_FIRMWARE_COMMIT) :=
  firmwareState_known.bind fun state hstate => by
    cases state with
    | none => exact refused_message (by decide)
    | some state =>
      dsimp only
      split_ifs
      · apply refused_message
        apply IsAscii.append (by decide)
        exact states_ascii state (hstate state rfl)
      · exact commit_replies

lemma modePut_replies (body : Body) : (Mode.put sys body).Returns (Replies .put URI_ROUTER_MODE) := by
  unfold Mode.put
  split
  · split_ifs
    · exact refused_message (by decide)
    · refine Program.returns_bind fun changed => ?_
      cases changed with
      | false => exact failed_message nofun (by decide)
      | true =>
        refine Program.returns_bind fun mode => ?_
        cases mode with
        | none => exact failed_message nofun (by decide)
        | some mode => exact ok_value rfl _
  · exact refused_message (by decide)

lemma configPut_replies {f : Bytes} (body : Body) : (WifiConfig.put sys f body).Returns (Replies .put path) := by
  unfold WifiConfig.put
  split
  · split
    · exact refused_message (by decide)
    · refine Program.returns_bind fun done => ?_
      cases done with
      | false => exact failed_message nofun (by decide)
      | true => exact config_replies (m := .put) nofun (some .null)
    · exact refused_message (by decide)
  · exact refused_message (by decide)

lemma rebootPost_replies (body : Body) : (Reboot.post sys body).Returns (Replies .post URI_REBOOT) :=
  Program.returns_bind fun result => by
    split_ifs
    · exact ok_value rfl _
    · exact failed_message nofun (.append (by decide) (isAscii_ofInt result))

end puts

section resources

def Served (r : Resource) : Prop := ∀ m b, (r.handle m b).Returns fun resp =>
  (m ∈ methods r.path ∧ Replies m r.path resp) ∨ (m ∉ methods r.path ∧ Refuses m r.path resp)

lemma having_method {p : Prog Resp} (h : m ∈ methods path) (hp : p.Returns (Replies m path)) : p.Returns fun resp =>
    (m ∈ methods path ∧ Replies m path resp) ∨ (m ∉ methods path ∧ Refuses m path resp) :=
  hp.mono fun _ hr => .inl ⟨h, hr⟩

lemma lacking_method (h : m ∉ methods path) (ha : IsAscii path) : (Resource.notAllowed path (methodName m)).Returns fun resp =>
    (m ∈ methods path ∧ Replies m path resp) ∨ (m ∉ methods path ∧ Refuses m path resp) := by
  have hname : IsAscii (bytes (methodName m) ++ bytes " method not allowed for ") := by cases m <;> decide
  exact (notAllowed_refuses (hname.append ha)).mono fun _ hr => .inr ⟨h, hr⟩

section tables

variable {r : Resource}

lemma served_get (hm : methods r.path = [.get]) (hput : ∀ b, r.put b = Resource.notAllowed r.path "PUT")
    (hpost : ∀ b, r.post b = Resource.notAllowed r.path "POST") (hget : ∀ b, (r.get b).Returns (Replies .get r.path))
    (ha : IsAscii r.path) : Served r := by
  intro m b
  cases m with
  | get => exact having_method (by simp [hm]) (hget b)
  | put =>
    rw [Resource.handle, hput]
    exact lacking_method (by simp [hm]) ha
  | post =>
    rw [Resource.handle, hpost]
    exact lacking_method (by simp [hm]) ha

lemma served_put (hm : methods r.path = [.get, .put]) (hget : ∀ b, (r.get b).Returns (Replies .get r.path))
    (hput : ∀ b, (r.put b).Returns (Replies .put r.path)) (hpost : ∀ b, r.post b = Resource.notAllowed r.path "POST")
    (ha : IsAscii r.path) : Served r := by
  intro m b
  cases m with
  | get => exact having_method (by simp [hm]) (hget b)
  | put => exact having_method (by simp [hm]) (hput b)
  | post =>
    rw [Resource.handle, hpost]
    exact lacking_method (by simp [hm]) ha

lemma served_commit (ha : IsAscii (FirmwareCommit.resource sys).path) : Served (FirmwareCommit.resource sys) := by
  have hm : methods (FirmwareCommit.resource sys).path = [.put] := rfl
  intro m b
  cases m with
  | get => exact lacking_method (by simp [hm]) ha
  | put => exact having_method (by simp [hm]) (commitPut_replies b)
  | post => exact lacking_method (by simp [hm]) ha

lemma served_reboot (ha : IsAscii (Main.reboot sys).path) : Served (Main.reboot sys) := by
  have hm : methods (Main.reboot sys).path = [.post] := rfl
  intro m b
  cases m with
  | get => exact lacking_method (by simp [hm]) ha
  | put => exact lacking_method (by simp [hm]) ha
  | post => exact having_method (by simp [hm]) (rebootPost_replies b)

end tables

section lines

variable {uri : Bytes} (hm : methods uri = [.get])

include hm

lemma served_line {f : Bytes} (hd : isDocument uri = false) (ha : IsAscii uri) : Served (Main.line sys uri f) :=
  served_get hm (fun _ => rfl) (fun _ => rfl) (fun b => line_replies b hd) ha

lemma served_artifact {f : Bytes} {p : Text.Pattern} (hd : isDocument uri = false) (ha : IsAscii uri) :
    Served (ArtifactInfo.resource sys f p uri) :=
  served_get hm (fun _ => rfl) (fun _ => rfl) (fun b => artifact_replies b hd) ha

lemma served_aggregate {children : List Child} (ha : IsAscii uri) : Served (AggregateResource.resource uri children) :=
  served_get hm (fun _ => rfl) (fun _ => rfl) (aggregate_replies children) ha

end lines

def paths : List Bytes :=
  [URI_SERIAL_NUMBER, URI_WIFI_MAC_ADDRESS_1, URI_WIFI_MAC_ADDRESS_2, URI_WIFI_MAC_ADDRESS_3, URI_WIFI_MAC_ADDRESS_4,
    URI_WIFI_MAC_ADDRESS, URI_ENF_CONTROL_ADDRESS, URI_ENF_DATA_ADDRESS, URI_FIRMWARE_VERSION, URI_FIRMWARE,
    URI_FIRMWARE_COMMIT, URI_MODEL, URI_ROUTER_MODE, URI_UPTIME, URI_WIFI_CONFIG_PASSTHROUGH, URI_WIFI_CONFIG_SECURE,
    URI_WIFI_CONFIG, URI_WIFI_STATUS, URI_WIFI, URI_REBOOT, URI_ROUTER_STATUS]

lemma registered_paths : (Main.registered sys).map Resource.path = paths := rfl

lemma paths_ascii : ∀ path ∈ paths, IsAscii path := by decide

lemma served_registered : ∀ r ∈ Main.registered sys, IsAscii r.path → Served r := by
  simp only [Main.registered, List.forall_mem_cons]
  exact ⟨served_line rfl rfl, served_line rfl rfl, served_line rfl rfl, served_line rfl rfl, served_line rfl rfl,
    served_aggregate rfl, served_line rfl rfl, served_line rfl rfl, served_artifact rfl rfl,
    served_put rfl (aggregate_replies _) firmwarePut_replies fun _ => rfl, served_commit, served_artifact rfl rfl,
    served_put rfl (fun b => mode_replies b rfl) modePut_replies fun _ => rfl,
    served_get rfl (fun _ => rfl) (fun _ => rfl) fun b => uptime_replies b rfl,
    served_put rfl (config_replies fun _ => rfl) configPut_replies fun _ => rfl,
    served_put rfl (config_replies fun _ => rfl) configPut_replies fun _ => rfl, served_aggregate rfl,
    served_get rfl (fun _ => rfl) (fun _ => rfl) status_replies, served_aggregate rfl, served_reboot,
    served_aggregate rfl, by simp⟩

lemma handler_conforms (r : Request) : (handler sys r).Returns (Conforms sys r) := by
  cases r with
  | sigchld => exact (Program.returns_any _).map fun _ _ => .reaped
  | http m path body =>
    have hh : handler sys (.http m path body) = some <$> serve sys m path body := rfl
    rw [hh, serve]
    cases hf : (Main.registered sys).find? fun r => r.path = path with
    | none =>
      have hnone : ∀ r ∈ Main.registered sys, r.path ≠ path := by simpa using hf
      exact .unknown hnone
    | some r =>
      have hr := List.mem_of_find?_eq_some hf
      obtain rfl : r.path = path := by simpa using List.find?_some hf
      have hpath := List.mem_map_of_mem (f := Resource.path) hr
      rw [registered_paths] at hpath
      refine (served_registered r hr (paths_ascii _ hpath) m body).map fun resp hresp => ?_
      rcases hresp with ⟨hm, hreply⟩ | ⟨hm, hreply⟩
      · exact .having hr hm hreply
      · exact .lacking hr hm hreply

theorem responses_conform {env : Env} {files : Files} {ls : List (daemon sys).Label} {c : (daemon sys).Config}
    (h : (initial sys env files).run ls = some c) : ∀ x ∈ c.log, Conforms sys x.1 x.2 :=
  (Server.Config.Conforms.run handler_conforms (Server.conforms_idle _) h).given

theorem responses_conform_updating : ∃ c, Sample.first.run Sample.updating = some c ∧
    ∀ x ∈ c.log, Conforms Sample.bare x.1 x.2 :=
  ⟨_, Sample.run_updating, responses_conform Sample.run_updating⟩

end resources

end RouterCard.Captived.Conformance
