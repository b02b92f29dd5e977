import RouterCard.Captived.InstallRequest
import RouterCard.Captived.WifiLaw

namespace RouterCard.Captived.ReportedHash

open Text Interaction WifiConfig WifiStore AggregateResource InstallRequest

variable {sys : System} {F : Files} {α β : Type} {e : Endpoint}

section programs

variable (sys F) in
def Reports (post : α → Prop) (p : Prog α) : Prop :=
  ∀ t w, w.files = F → p.Safe (rules sys) (fun a _ v => v.files = F ∧ post a) t w

def Keeps (c : Call) : Prop := ∀ (sys : System) o w r v, answer sys c o w = some (r, v) → v.files = w.files

variable {post : α → Prop} {post' : β → Prop}

lemma stable_files (t : Trace calls) : (rules sys).Stable t fun w => w.files = F := by
  rintro w v hw ⟨a, ha⟩
  exact (act_files ha).trans hw

lemma Reports.done {a : α} (h : post a) : Reports sys F post (.done a) :=
  fun t _ hw => .of_done (stable_files t) hw fun _ hv => ⟨trivial, hv, h⟩

lemma Reports.bind {p : Prog α} {f : α → Prog β} (hp : Reports sys F post p) (hf : ∀ a, post a → Reports sys F post' (f a)) :
    Reports sys F post' (p >>= f) :=
  fun t w hw => .bind ((hp t w hw).mono fun a s v hv => hf a hv.2 s v hv.1)

lemma Reports.call {c : Call} {next : c.Reply → Prog α} (hc : Keeps c)
    (hn : ∀ r, (∃ o w v, w.files = F ∧ answer sys c o w = some (r, v)) → Reports sys F post (next r)) :
    Reports sys F post (.call (S := calls) c next) := by
  intro t w hw
  refine .of_call (stable_files t) hw (fun _ _ => ⟨trivial, trivial⟩) fun v r u hv ⟨o, ho⟩ => ?_
  exact hn r ⟨o, v, u, hv, ho⟩ _ u ((hc sys o v r u ho).trans hv)

lemma Reports.of_calls {p : Prog α} (hp : p.Calls Keeps) : Reports sys F (fun _ => True) p := by
  induction p with
  | done a => exact .done trivial
  | call c next ih => exact .call hp.1 fun r _ => ih r (hp.2 r)

lemma keeps_reads {c : Call} (hc : c.Reads) : Keeps c := by
  intro sys o w r v h
  cases c with
  | popen command => exact answer_popen_files h
  | readFile path => rw [(answer_readFile h).1]
  | getifaddrs => cases o <;> simp only [answer, reduceCtorEq] at h <;> rw [← (Prod.mk.inj (Option.some.inj h)).2]
  | load f => rw [(answer_load h).2]
  | store f x =>
    rw [answer_store h]
    rfl
  | _ => exact hc.elim

lemma keeps_evaluates {c : Call} (hc : c.Evaluates) : Keeps c := by
  intro sys o w r v h
  cases c with
  | popen command => exact answer_popen_files h
  | load f => rw [(answer_load h).2]
  | store f x =>
    rw [answer_store h]
    rfl
  | abort a => exact (answer_abort h).elim
  | _ => exact hc.elim

lemma Reports.get {r : Resource} (hr : r ∈ Main.registered sys) (b : Body) : Reports sys F (fun _ => True) (r.get b) :=
  .of_calls ((built_reads.get (fun _ h => h.reads) hr b).all_calls (fun _ h => keeps_reads h) fun _ h => keeps_evaluates h)

end programs

section aggregates

variable {name : Bytes} {P : Option Json → Prop} {ms : List (Bytes × Json)}

def Shows (P : Option Json → Prop) (name : Bytes) (obj : Json) : Prop :=
  ∃ ms, obj = .object ms ∧ P (Json.objectGet (.object ms) name)

def Under (P : Option Json → Prop) (name : Bytes) (j : Option Json) : Prop := ∃ obj, j = some obj ∧ Shows P name obj

lemma shows_added_other {c : Child} (ht : IsJsonText c.name) (hne : name ≠ c.name) (resp : Resp)
    (hP : P (Json.objectGet (.object ms) name)) : Shows P name (added (.object ms) c resp) := by
  obtain ⟨ms', hms⟩ := added_object ms c resp
  refine ⟨ms', hms, ?_⟩
  rw [← hms, added]
  split_ifs
  · exact hP
  · rwa [Json.objectGet_set_of_ne (by rwa [cString_of_not_mem ht.2])]

lemma shows_added_self {c : Child} (ht : IsJsonText c.name) (homit : c.omitNull = false)
    (hnew : Json.objectGet (.object ms) c.name = none) {resp : Resp} (hP : P (shown resp)) :
    Shows P c.name (added (.object ms) c resp) := by
  obtain ⟨ms', hms⟩ := added_object ms c resp
  refine ⟨ms', hms, ?_⟩
  rw [← hms, added, homit, Bool.false_and, if_neg Bool.false_ne_true, Json.objectGet_set_self ht hnew]
  exact hP

lemma reports_other {c : Child} (hc : ∀ b, Reports sys F (fun _ => True) (c.res.get b)) (ht : IsJsonText c.name)
    (hne : name ≠ c.name) (hP : P (Json.objectGet (.object ms) name)) :
    Reports sys F (Shows P name) (addResource (.object ms) c) := by
  rw [addResource_eq]
  exact (hc (some .null)).bind fun resp _ => .done (shows_added_other ht hne resp hP)

lemma reports_self {c : Child} (hc : ∀ b, Reports sys F (fun resp => P (shown resp)) (c.res.get b)) (ht : IsJsonText c.name)
    (homit : c.omitNull = false) (hnew : Json.objectGet (.object ms) c.name = none) :
    Reports sys F (Shows P c.name) (addResource (.object ms) c) := by
  rw [addResource_eq]
  exact (hc (some .null)).bind fun resp hresp => .done (shows_added_self ht homit hnew hresp)

lemma reports_others {children : List Child} (hch : ∀ c ∈ children, ∀ b, Reports sys F (fun _ => True) (c.res.get b))
    (ht : ∀ c ∈ children, IsJsonText c.name) (hne : name ∉ children.map Child.name)
    (hP : P (Json.objectGet (.object ms) name)) : Reports sys F (Shows P name) (addResources (.object ms) children) := by
  induction children generalizing ms with
  | nil => exact .done ⟨ms, rfl, hP⟩
  | cons c children ih =>
    rw [List.map_cons, List.mem_cons, not_or] at hne
    refine (reports_other (hch c (.head _)) (ht c (.head _)) hne.1 hP).bind ?_
    rintro obj ⟨ms', rfl, hP'⟩
    exact ih (fun d hd => hch d (.tail c hd)) (fun d hd => ht d (.tail c hd)) hne.2 hP'

lemma reports_children {children : List Child} {c : Child} (hc : ∀ b, Reports sys F (fun resp => P (shown resp)) (c.res.get b))
    (homit : c.omitNull = false) (hmem : c ∈ children) (hn : (children.map Child.name).Nodup)
    (ht : ∀ d ∈ children, IsJsonText d.name) (hch : ∀ d ∈ children, ∀ b, Reports sys F (fun _ => True) (d.res.get b))
    (hnew : Json.objectGet (.object ms) c.name = none) :
    Reports sys F (Shows P c.name) (addResources (.object ms) children) := by
  induction children generalizing ms with
  | nil => exact absurd hmem List.not_mem_nil
  | cons d children ih =>
    obtain ⟨hfresh, hn⟩ := List.nodup_cons.mp hn
    have hrest : ∀ d ∈ children, ∀ b, Reports sys F (fun _ => True) (d.res.get b) := fun d' hd => hch d' (.tail d hd)
    have hkeys : ∀ d ∈ children, IsJsonText d.name := fun d' hd => ht d' (.tail d hd)
    rcases List.mem_cons.mp hmem with rfl | hmem
    · refine (reports_self hc (ht c (.head _)) homit hnew).bind ?_
      rintro obj ⟨ms', rfl, hP⟩
      exact reports_others hrest hkeys hfresh hP
    · have hne : c.name ≠ d.name := fun he => hfresh (he ▸ List.mem_map_of_mem hmem)
      refine (reports_other (P := fun j => j = none) (hch d (.head _)) (ht d (.head _)) hne hnew).bind ?_
      rintro obj ⟨ms', rfl, hnone⟩
      exact ih hmem hn hkeys hrest hnone

-- Names that are distinct keys of an object.
def Keys (names : List Bytes) : Prop := names.Nodup ∧ ∀ name ∈ names, IsJsonText name

instance (names : List Bytes) : Decidable (Keys names) := inferInstanceAs (Decidable (_ ∧ _))

lemma reports_aggregate {children : List Child} {c : Child}
    (hc : ∀ b, Reports sys F (fun resp => P (shown resp)) (c.res.get b)) (homit : c.omitNull = false) (hmem : c ∈ children)
    (hn : Keys (children.map Child.name)) (hch : ∀ d ∈ children, ∀ b, Reports sys F (fun _ => True) (d.res.get b)) (b : Body) :
    Reports sys F (fun resp => resp.1 = .ok ∧ Under P c.name resp.2) (AggregateResource.get children b) :=
  (reports_children hc homit hmem hn.1 (fun _ hd => hn.2 _ (List.mem_map_of_mem hd)) hch rfl).bind fun obj hobj =>
    .done ⟨rfl, obj, rfl, hobj⟩

end aggregates

section places

variable {P : Option Json → Prop}

def Endpoint.name : Endpoint → Bytes
  | .passthrough => bytes "passthrough"
  | .secure => bytes "secure"

inductive Place where
  | endpoint
  | configs
  | wifi
  | root

def Place.path (sys : System) (e : Endpoint) : Place → Bytes
  | endpoint => (e.resource sys).path
  | configs => URI_WIFI_CONFIG
  | wifi => URI_WIFI
  | root => URI_ROUTER_STATUS

-- The keys that lead to the endpoint's report.
def Place.keys (e : Endpoint) : Place → List Bytes
  | endpoint => []
  | configs => [Endpoint.name e]
  | wifi => [bytes "config", Endpoint.name e]
  | root => [bytes "wifi", bytes "config", Endpoint.name e]

def lookup : Option Json → List Bytes → Option Json
  | j, [] => j
  | none, _ :: _ => none
  | some j, k :: ks => lookup (Json.objectGet j k) ks

def Reported (sys : System) (F : Files) (e : Endpoint) (j : Option Json) : Prop :=
  (∃ t, t ≠ [] ∧ contentAt F (sys.chroot ++ e.file) = some t ∧ j = some (report sys t)) ∨ ∀ ms, j ≠ some (.object ms)

lemma Reports.mono {post post' : α → Prop} {p : Prog α} (hp : Reports sys F post p) (h : ∀ a, post a → post' a) :
    Reports sys F post' p :=
  fun t w hw => (hp t w hw).mono fun a _ _ ha => ⟨ha.1, h a ha.2⟩

lemma reports_read (file : Bytes) : Reports sys F
    (fun buf => ∀ t, buf = some t → t ≠ [] ∧ contentAt F (sys.chroot ++ file) = some t) (sys.read file) := by
  refine .call (keeps_reads trivial) fun buf ⟨o, w, v, hw, hbuf⟩ => .done fun t ht => ?_
  obtain ⟨rfl, hne⟩ := Option.filter_eq_some_iff.mp ht
  refine ⟨by simpa using hne, ?_⟩
  rcases (answer_readFile hbuf).2 with ⟨-, hnone⟩ | ⟨-, hsome⟩
  · cases hnone
  · rw [← hw]
    exact hsome.symm

lemma reports_endpoint (b : Body) : Reports sys F (fun resp => Reported sys F e resp.2 ∧ Reported sys F e (shown resp))
    ((e.resource sys).get b) := by
  have hget : (e.resource sys).get b = WifiConfig.get sys e.file b := by cases e <;> rfl
  rw [hget]
  refine (reports_read e.file).bind fun buf hbuf => ?_
  cases buf with
  | none => exact .done ⟨.inr nofun, .inr nofun⟩
  | some t =>
    obtain ⟨hne, hfile⟩ := hbuf t rfl
    exact .done ⟨.inl ⟨t, hne, hfile, rfl⟩, .inl ⟨t, hne, hfile, rfl⟩⟩

lemma registered_endpoint (e : Endpoint) : e.resource sys ∈ Main.registered sys := by
  cases e with
  | passthrough => exact List.mem_of_getElem? (i := 14) rfl
  | secure => exact List.mem_of_getElem? (i := 15) rfl

lemma reports_configs (b : Body) :
    Reports sys F (fun resp => resp.1 = .ok ∧ Under (Reported sys F e) (Endpoint.name e) resp.2)
      ((Main.wifiConfigs sys).get b) := by
  have hnames : Keys [bytes "passthrough", bytes "secure"] := by decide
  refine reports_aggregate (c := ⟨Endpoint.name e, e.resource sys, false⟩)
    (fun b => (reports_endpoint b).mono fun _ h => h.2) rfl ?_ ?_ (fun d hd => ?_) b
  · cases e with
    | passthrough => exact .head _
    | secure => exact .tail _ (.head _)
  · exact hnames
  · simp only [List.mem_cons, List.not_mem_nil, or_false] at hd
    rcases hd with rfl | rfl
    · exact Reports.get (registered_endpoint .passthrough)
    · exact Reports.get (registered_endpoint .secure)

lemma shown_of_ok {resp : Resp} (h : resp.1 = .ok ∧ P resp.2) : P (shown resp) := by
  rw [shown, if_pos h.1]
  exact h.2

lemma reports_wifi (b : Body) :
    Reports sys F (fun resp => resp.1 = .ok ∧ Under (Under (Reported sys F e) (Endpoint.name e)) (bytes "config") resp.2)
      ((Main.wifi sys).get b) := by
  have hnames : Keys [bytes "config", bytes "status"] := by decide
  refine reports_aggregate (c := ⟨bytes "config", Main.wifiConfigs sys, false⟩)
    (fun b => (reports_configs b).mono fun _ h => shown_of_ok h) rfl ?_ ?_ (fun d hd => ?_) b
  · exact .head _
  · exact hnames
  · simp only [List.mem_cons, List.not_mem_nil, or_false] at hd
    rcases hd with rfl | rfl
    · exact Reports.get (List.mem_of_getElem? (i := 16) rfl)
    · exact Reports.get (List.mem_of_getElem? (i := 17) rfl)

lemma reports_root (b : Body) :
    Reports sys F (fun resp => resp.1 = .ok ∧
      Under (Under (Under (Reported sys F e) (Endpoint.name e)) (bytes "config")) (bytes "wifi") resp.2)
      ((Main.root sys).get b) := by
  have hnames : Keys [bytes "serial_number", bytes "firmware_version", bytes "firmware", bytes "model", bytes "mac_address",
    bytes "control_address", bytes "data_address", bytes "mode", bytes "uptime", bytes "wifi"] := by decide
  refine reports_aggregate (c := ⟨bytes "wifi", Main.wifi sys, false⟩)
    (fun b => (reports_wifi b).mono fun _ h => shown_of_ok h) rfl ?_ ?_ (fun d hd => ?_) b
  · exact List.mem_of_getElem? (i := 9) rfl
  · exact hnames
  simp only [List.mem_cons, List.not_mem_nil, or_false] at hd
  rcases hd with rfl | rfl | rfl | rfl | rfl | rfl | rfl | rfl | rfl | rfl
  · exact Reports.get (List.mem_of_getElem? (i := 0) rfl)
  · exact Reports.get (List.mem_of_getElem? (i := 8) rfl)
  · exact Reports.get (List.mem_of_getElem? (i := 9) rfl)
  · exact Reports.get (List.mem_of_getElem? (i := 11) rfl)
  · exact Reports.get (List.mem_of_getElem? (i := 5) rfl)
  · exact Reports.get (List.mem_of_getElem? (i := 6) rfl)
  · exact Reports.get (List.mem_of_getElem? (i := 7) rfl)
  · exact Reports.get (List.mem_of_getElem? (i := 12) rfl)
  · exact Reports.get (List.mem_of_getElem? (i := 13) rfl)
  · exact Reports.get (List.mem_of_getElem? (i := 18) rfl)

lemma lookup_of_under {name : Bytes} {j : Option Json} {ks : List Bytes} {obj : Json} (h : Under P name j)
    (hl : lookup j (name :: ks) = some obj) : ∃ j', P j' ∧ lookup j' ks = some obj := by
  obtain ⟨_, rfl, ms, rfl, hP⟩ := h
  exact ⟨_, hP, hl⟩

def Placed (sys : System) (F : Files) (e : Endpoint) (p : Place) (resp : Resp) : Prop :=
  ∀ ms, lookup resp.2 (p.keys e) = some (.object ms) →
    ∃ t, t ≠ [] ∧ contentAt F (sys.chroot ++ e.file) = some t ∧ Json.object ms = report sys t

lemma placed_of_reported {j : Option Json} {ms : List (Bytes × Json)} (hj : Reported sys F e j) (h : j = some (.object ms)) :
    ∃ t, t ≠ [] ∧ contentAt F (sys.chroot ++ e.file) = some t ∧ Json.object ms = report sys t := by
  rcases hj with ⟨t, hne, hfile, hreport⟩ | hno
  · exact ⟨t, hne, hfile, Option.some.inj (h.symm.trans hreport)⟩
  · exact absurd h (hno ms)

lemma handler_place (p : Place) (b : Body) : ∃ r, handler sys (.http .get (p.path sys e) b) = some <$> r ∧
    Reports sys F (Placed sys F e p) r := by
  cases p with
  | endpoint =>
    refine ⟨(e.resource sys).get b, by cases e <;> rfl, (reports_endpoint b).mono fun resp h ms hl => ?_⟩
    exact placed_of_reported h.1 hl
  | configs =>
    refine ⟨(Main.wifiConfigs sys).get b, rfl, (reports_configs (e := e) b).mono fun resp h ms hl => ?_⟩
    obtain ⟨j, hj, hl⟩ := lookup_of_under h.2 hl
    exact placed_of_reported hj hl
  | wifi =>
    refine ⟨(Main.wifi sys).get b, rfl, (reports_wifi (e := e) b).mono fun resp h ms hl => ?_⟩
    obtain ⟨j, hj, hl⟩ := lookup_of_under h.2 hl
    obtain ⟨j, hj, hl⟩ := lookup_of_under hj hl
    exact placed_of_reported hj hl
  | root =>
    refine ⟨(Main.root sys).get b, rfl, (reports_root (e := e) b).mono fun resp h ms hl => ?_⟩
    obtain ⟨j, hj, hl⟩ := lookup_of_under h.2 hl
    obtain ⟨j, hj, hl⟩ := lookup_of_under hj hl
    obtain ⟨j, hj, hl⟩ := lookup_of_under hj hl
    exact placed_of_reported hj hl

/-- The report of the text: both keys, the contents to the byte, and the hash of these bytes. -/
structure Faithful (sys : System) (t : Bytes) (obj : Json) : Prop where
  contents : ∃ s : JsonText, Json.objectGet obj (bytes "contents") = some (.string s) ∧ s.val = t
  sha256 : ∃ h : JsonText, Json.objectGet obj (bytes "sha256") = some (.string h) ∧ h.val = sha256Hex sys t

-- A string that is no JSON text leaves its key out, or is cut at its first NUL.
lemma faithful_iff (t : Bytes) : Faithful sys t (report sys t) ↔ IsJsonText t := by
  constructor
  · rintro ⟨⟨s, -, rfl⟩, -⟩
    exact s.property
  · intro ht
    have hne : bytes "contents" ≠ bytes "sha256" := by decide
    have hcontents : Json.ofString t = some (.string ⟨t, ht⟩) := Json.ofString_text ⟨t, ht⟩
    have hhash : Json.ofString (sha256Hex sys t) = some (.string ⟨_, isJsonText_sha256Hex t⟩) := Json.ofString_text ⟨_, _⟩
    refine ⟨⟨⟨t, ht⟩, ?_, rfl⟩, ⟨⟨_, isJsonText_sha256Hex t⟩, ?_, rfl⟩⟩
    · rw [report, hcontents, hhash]
      exact (Json.objectGet_insert_of_ne hne _ _).trans (Json.objectGet_insert_self _ _ _)
    · rw [report, hcontents, hhash]
      exact Json.objectGet_insert_self _ _ _

theorem get_faithful_iff {p : Place} {body : Body} {w v : World} {moves : List (Move (host sys))} {tr : Trace calls}
    {resp : Resp} {ms : List (Bytes × Json)}
    (h : (⟨[], handler sys (.http .get (p.path sys e) body), w⟩ : Session (host sys) (Option Resp)).play moves =
      some ⟨tr, .done (some resp), v⟩) (hms : lookup resp.2 (p.keys e) = some (.object ms)) :
    ∃ t, w.content (sys.chroot ++ e.file) = some t ∧ t ≠ [] ∧ (Faithful sys t (.object ms) ↔ IsJsonText t) := by
  obtain ⟨r, hr, hreports⟩ := handler_place p body
  have hhandler : Reports sys w.files (fun a => ∃ resp, a = some resp ∧ Placed sys w.files e p resp)
      (handler sys (.http .get (p.path sys e) body)) := by
    rw [hr]
    exact fun t w hw => .map ((hreports t w hw).mono fun resp _ _ h => ⟨h.1, resp, rfl, h.2⟩)
  obtain ⟨-, resp', hresp, hplaced⟩ := play_result (hhandler [] w rfl) h
  obtain rfl := Option.some.inj hresp
  obtain ⟨t, hne, hfile, hobj⟩ := hplaced ms hms
  refine ⟨t, hfile, hne, ?_⟩
  rw [hobj]
  exact faithful_iff t

end places

section samples

def nulByte : Bytes := [97, 0, 98]

def cut : World := .initial ⟨none, none⟩ fun path =>
  if path = FILE_WIFI_CONFIG_PASSTHROUGH then some (.file nulByte) else none

def twice : List (Move (host hashing)) := [.answer .done, .answer .done]

theorem get_faithful_iff_configs : ∃ tr resp v ms,
    (⟨[], handler hashing (.http .get (Place.configs.path hashing .secure) none), configured⟩ :
      Session (host hashing) (Option Resp)).play twice = some ⟨tr, .done (some resp), v⟩ ∧
    lookup resp.2 (Place.configs.keys .secure) = some (.object ms) ∧
    ∃ t, configured.content (hashing.chroot ++ Endpoint.secure.file) = some t ∧ t ≠ [] ∧
      (Faithful hashing t (.object ms) ↔ IsJsonText t) := by
  have h : (⟨[], handler hashing (.http .get (Place.configs.path hashing .secure) none), configured⟩ :
    Session (host hashing) (Option Resp)).play twice = some ⟨_, .done (some _), _⟩ := rfl
  exact ⟨_, _, _, _, h, rfl, get_faithful_iff h rfl⟩

theorem nul_byte_reported_short : ∃ tr resp v ms,
    (⟨[], handler hashing (.http .get (Place.endpoint.path hashing .passthrough) none), cut⟩ :
      Session (host hashing) (Option Resp)).play [.answer .done] = some ⟨tr, .done (some resp), v⟩ ∧
    lookup resp.2 (Place.endpoint.keys .passthrough) = some (.object ms) ∧
    nodeAt hashing cut .passthrough = some (.file nulByte) ∧
    Json.objectGet (.object ms) (bytes "contents") = some (.string ⟨bytes "a", by decide⟩) ∧
    ¬ Faithful hashing nulByte (.object ms) := by
  refine ⟨_, _, _, _, rfl, rfl, rfl, rfl, fun h => ?_⟩
  exact absurd ((faithful_iff nulByte).mp h) (by decide)

end samples

end RouterCard.Captived.ReportedHash
