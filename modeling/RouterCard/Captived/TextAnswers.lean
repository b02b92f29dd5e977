import RouterCard.Captived.Alone
import RouterCard.Captived.Http

namespace RouterCard.Captived.TextAnswers

open Text Interaction AggregateResource

variable {sys : System} {o : Outcomes} {w : World} {G : Grammar} {J : Jansson G} {req : HttpRequest}

def firstLine (sys : System) (filename : Bytes) (w : World) : Option Bytes :=
  (w.content (sys.chroot ++ filename)).bind getline

inductive Expected where
  | text (line : Option Bytes)
  | object

def Returns (sys : System) (o : Outcomes) (I : World → Prop) (r : Resource) : Prop :=
  ∀ w b, I w → ∃ resp v, (r.get b).exec (respond sys o) w = some (resp, v) ∧ I v

inductive TextBased (sys : System) (o : Outcomes) (I : World → Prop) : Resource → (World → Expected) → Prop
  | line (path filename : Bytes) (writable : Bool) :
      TextBased sys o I (LineResource.resource sys filename writable path) fun w => .text (firstLine sys filename w)
  | artifact (path filename : Bytes) (pattern : Pattern) :
      TextBased sys o I (ArtifactInfo.resource sys filename pattern path) fun w =>
        .text ((firstLine sys filename w).bind (search pattern))
  | aggregate {r : Resource} {children : List Child} :
      r.get = AggregateResource.get children → (∀ c ∈ children, Returns sys o I c.res) →
        TextBased sys o I r fun _ => .object

def Meets : Expected → Resp → Prop
  | .text none, resp =>
    ∃ msg : JsonText, msg.val = bytes "Error: failed to read resource" ∧ resp = (.internalServerError, some (.string msg))
  | .text (some line), resp => ∃ s : JsonText, s.val = line ∧ resp = (.ok, some (.string s))
  | .object, resp => ∃ ms, resp = (.ok, some (.object ms))

def Answered (J : Jansson G) (o : Outcomes) (sys : System) (r : Resource) (req : HttpRequest) (w : World)
    (e : Expected) : Prop :=
  ∃ reply w', (callback J r req).exec (respond sys o) w = some ([reply], w') ∧
    ∀ v, loads J req.buffer = .ok v → ∃ resp, (r.get (some v)).exec (respond sys o) w = some (resp, w') ∧
      Meets e resp ∧ sendJsonResponse J resp = .done [reply]

def Expected.Encodable (e : Expected) : Prop := ∀ line, e = .text (some line) → IsJsonText line

section responses

def textResponse : Option Bytes → Resp
  | none => Resource.internalServerError (bytes "Error: failed to read resource")
  | some line => Resource.ok (Json.ofString line)

lemma meets_textResponse (t : Option Bytes) : Meets (.text t) (textResponse t) ↔ (Expected.text t).Encodable := by
  cases t with
  | none =>
    refine iff_of_true ⟨⟨bytes "Error: failed to read resource", by decide⟩, rfl, rfl⟩ fun line h => ?_
    cases h
  | some line =>
    constructor
    · rintro ⟨s, rfl, -⟩ t h
      cases h
      exact s.property
    · intro h
      have hs : IsJsonText line := h line rfl
      exact ⟨⟨line, hs⟩, rfl, congrArg (Prod.mk Status.ok) (Json.ofString_text ⟨line, hs⟩)⟩

lemma exec_readline (ho : ∀ p, o (.readFile p) = .done) (filename : Bytes) :
    (sys.readline filename).exec (respond sys o) w = some (firstLine sys filename w, w) := by
  have hread : respond sys o (.readFile (sys.chroot ++ filename)) w =
      some (w.content (sys.chroot ++ filename), w) := by
    rw [respond, ho]
    rfl
  rw [System.readline, ask_bind, Program.exec_call, hread]
  rfl

lemma exec_line (ho : ∀ p, o (.readFile p) = .done) (filename : Bytes) (b : Body) :
    (LineResource.get sys filename b).exec (respond sys o) w = some (textResponse (firstLine sys filename w), w) := by
  rw [LineResource.get, LineResource.line, Program.exec_bind, exec_readline ho]
  cases firstLine sys filename w <;> rfl

lemma exec_parse (ho : ∀ p, o (.readFile p) = .done) (filename : Bytes) (pattern : Pattern) :
    (ArtifactInfo.parse sys filename pattern).exec (respond sys o) w =
      some ((firstLine sys filename w).bind (search pattern), w) := by
  rw [ArtifactInfo.parse, Program.exec_bind, exec_readline ho]
  rfl

lemma exec_artifact (ho : ∀ p, o (.readFile p) = .done) (filename : Bytes) (pattern : Pattern) (b : Body) :
    (ArtifactInfo.get sys filename pattern b).exec (respond sys o) w =
      some (textResponse ((firstLine sys filename w).bind (search pattern)), w) := by
  rw [ArtifactInfo.get, Program.exec_bind, exec_parse ho]
  cases (firstLine sys filename w).bind (search pattern) <;> rfl

section children

variable {I : World → Prop}

lemma foldl_added (l : List (Child × Resp)) (ms : List (Bytes × Json)) :
    ∃ ms', l.foldl (fun obj a => added obj a.1 a.2) (.object ms) = .object ms' := by
  induction l generalizing ms with
  | nil => exact ⟨ms, rfl⟩
  | cons a l ih =>
    obtain ⟨ms', hadded⟩ := added_object ms a.1 a.2
    rw [List.foldl_cons, hadded]
    exact ih ms'

lemma exec_aggregate {r : Resource} {children : List Child} (hr : r.get = AggregateResource.get children)
    (h : ∀ c ∈ children, Returns sys o I c.res) (b : Body) (hw : I w) :
    ∃ ms v, (r.get b).exec (respond sys o) w = some ((.ok, some (.object ms)), v) ∧ I v := by
  obtain ⟨l, v, -, -, hv, hl⟩ := exec_addResources (f := respond sys o) (P := fun _ _ => True) (fun c hc w hw => by
    obtain ⟨resp, v, hresp, hv⟩ := h c hc w (some .null) hw
    exact ⟨resp, v, hresp, hv, trivial⟩) (.object []) hw
  obtain ⟨ms, hms⟩ := foldl_added l []
  refine ⟨ms, v, ?_, hv⟩
  rw [hr, AggregateResource.get, Program.exec_bind, hl, hms]
  rfl

end children

end responses

variable {r : Resource} {e : World → Expected} {I : World → Prop}

lemma TextBased.responds (hr : TextBased sys o I r e) (ho : ∀ p, o (.readFile p) = .done) (b : Body) (hw : I w) :
    ∃ resp v, (r.get b).exec (respond sys o) w = some (resp, v) ∧ I v ∧ (Meets (e w) resp ↔ (e w).Encodable) := by
  cases hr with
  | line path filename writable => exact ⟨_, w, exec_line ho filename b, hw, meets_textResponse _⟩
  | artifact path filename pattern => exact ⟨_, w, exec_artifact ho filename pattern b, hw, meets_textResponse _⟩
  | aggregate hget hch =>
    obtain ⟨ms, v, hms, hv⟩ := exec_aggregate hget hch b hw
    exact ⟨_, v, hms, hv, iff_of_true ⟨ms, rfl⟩ fun line h => by cases h⟩

lemma TextBased.returns (hr : TextBased sys o I r e) (ho : ∀ p, o (.readFile p) = .done) : Returns sys o I r := by
  intro w b hw
  obtain ⟨resp, v, hresp, hv, -⟩ := hr.responds ho b hw
  exact ⟨resp, v, hresp, hv⟩

lemma Meets.body {e : Expected} {resp : Resp} (h : Meets e resp) : ∃ status body, resp = (status, some body) := by
  cases e with
  | object =>
    obtain ⟨ms, rfl⟩ := h
    exact ⟨_, _, rfl⟩
  | text t =>
    cases t with
    | none =>
      obtain ⟨msg, -, rfl⟩ := h
      exact ⟨_, _, rfl⟩
    | some line =>
      obtain ⟨s, -, rfl⟩ := h
      exact ⟨_, _, rfl⟩

theorem text_answered_iff (J : Jansson G) (hr : TextBased sys o I r e) (ho : ∀ p, o (.readFile p) = .done)
    (hreq : req.command = .get) (hw : I w) :
    Answered J o sys r req w (e w) ↔ ((∃ v, loads J req.buffer = .ok v) → (e w).Encodable) := by
  constructor
  · rintro ⟨reply, w', -, hall⟩ ⟨v, hv⟩
    obtain ⟨resp, hresp, hm, -⟩ := hall v hv
    obtain ⟨resp', v', hresp', -, hiff⟩ := hr.responds ho (some v) hw
    obtain rfl : resp = resp' := (Prod.mk.inj (Option.some.inj (hresp.symm.trans hresp'))).1
    exact hiff.mp hm
  · intro h
    cases hl : loads J req.buffer with
    | error error =>
      have hd : dispatch J req = .error (respondBadRequest (parsingError error)) := by rw [dispatch, hl]
      exact ⟨_, w, by rw [callback_error hd]; rfl, fun v hv => by rw [hl] at hv; cases hv⟩
    | ok v =>
      have hd : dispatch J req = .ok (.get, v) := dispatch_iff.mpr ⟨hreq, hl, fun h => absurd rfl h⟩
      obtain ⟨resp, w', hresp, -, hiff⟩ := hr.responds ho (some v) hw
      have hm := hiff.mpr (h ⟨v, hl⟩)
      obtain ⟨status, body, rfl⟩ := hm.body
      refine ⟨.reply status.code (cString (J.dumps body)), w', ?_, fun u hu => ?_⟩
      · rw [callback_ok hd, Program.exec_bind]
        exact congrArg (fun x => Option.bind x _) hresp
      · obtain rfl := Except.ok.inj (hl.symm.trans hu)
        exact ⟨_, hresp, hm, rfl⟩

section registered

def textResources (sys : System) : List Resource :=
  [Main.serialNumber sys, Main.macAddr1 sys, Main.macAddr2 sys, Main.macAddr3 sys, Main.macAddr4 sys, Main.macAddrs sys,
    Main.controlAddr sys, Main.dataAddr sys, Main.firmwareImage sys, Main.modelNumber sys]

lemma textBased_line (uri file : Bytes) : ∃ e, TextBased sys o I (Main.line sys uri file) e := ⟨_, .line uri file false⟩

lemma textBased_macAddrs (ho : ∀ p, o (.readFile p) = .done) : TextBased sys o I (Main.macAddrs sys) fun _ => .object := by
  have hline : ∀ uri file, Returns sys o I (Main.line sys uri file) := fun uri file =>
    (TextBased.line uri file false).returns ho
  refine .aggregate rfl ?_
  simp only [List.forall_mem_cons, List.not_mem_nil, false_imp_iff, implies_true, and_true]
  exact ⟨hline _ _, hline _ _, hline _ _, hline _ _⟩

lemma textBased_of_mem (ho : ∀ p, o (.readFile p) = .done) : ∀ r ∈ textResources sys, ∃ e, TextBased sys o I r e := by
  simp only [textResources, List.forall_mem_cons, List.not_mem_nil, false_imp_iff, implies_true, and_true]
  exact ⟨textBased_line .., textBased_line .., textBased_line .., textBased_line .., textBased_line ..,
    ⟨_, textBased_macAddrs ho⟩, textBased_line .., textBased_line .., ⟨_, .artifact ..⟩, ⟨_, .artifact ..⟩⟩

lemma registered_of_mem : ∀ r ∈ textResources sys, r ∈ Main.registered sys := by
  simp [textResources, Main.registered]

end registered

section samples

open Sample

def reads : Outcomes := fun _ => .done

def serialFile (contents : Bytes) : World :=
  .initial committed fun path => if path = FILE_SERIAL_NUMBER then some (.file contents) else none

abbrev serialLine (contents : Bytes) : Expected := .text (firstLine bare FILE_SERIAL_NUMBER (serialFile contents))

theorem text_answered_serialNumber :
    Answered strict reads bare (Main.serialNumber bare) getEmpty (serialFile (bytes "XAP-1\n")) (serialLine (bytes "XAP-1\n")) ↔
      ((∃ v, loads strict getEmpty.buffer = .ok v) → (serialLine (bytes "XAP-1\n")).Encodable) :=
  text_answered_iff strict (I := fun _ => True) (.line _ _ _) (fun _ => rfl) rfl trivial

-- The byte 0xFF occurs in no UTF-8 text.
theorem serialNumber_unanswered :
    ¬ Answered strict reads bare (Main.serialNumber bare) getEmpty (serialFile [0xFF, 10]) (serialLine [0xFF, 10]) := by
  rintro ⟨reply, w, -, hall⟩
  obtain ⟨resp, -, ⟨s, hs, -⟩, -⟩ := hall .null rfl
  have hline : IsJsonText [0xFF] := by
    have hp := s.property
    rwa [hs] at hp
  exact absurd hline (by decide)

end samples

end RouterCard.Captived.TextAnswers
