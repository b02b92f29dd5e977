import Mathlib.Data.List.DropRight
import RouterCard.Captived.Http

namespace RouterCard.Captived.Admission

open Text Interaction

variable {G : Grammar} {J : Jansson G} {req : HttpRequest} {m : Method} {v : Json}

def Invokes (J : Jansson G) (req : HttpRequest) (m : Method) (v : Json) : Prop :=
  ∀ r : Resource, callback J r req = r.handle m (some v) >>= sendJsonResponse J

open Classical in
noncomputable def witnessHandle (m : Method) (v : Json) (n : Method) (b : Body) : Prog Resp :=
  if n = m ∧ b = some v then return (.ok, some .null) else abort .outOfRange

noncomputable def witnessResource (m : Method) (v : Json) : Resource where
  path := []
  get := witnessHandle m v .get
  put := witnessHandle m v .put
  post := witnessHandle m v .post

lemma witnessResource_handle (m n : Method) (v : Json) (b : Body) :
    (witnessResource m v).handle n b = witnessHandle m v n b := by
  cases n <;> rfl

theorem invokes_iff : Invokes J req m v ↔ dispatch J req = .ok (m, v) := by
  refine ⟨fun h => ?_, callback_ok⟩
  have hw := h (witnessResource m v)
  rw [witnessResource_handle, witnessHandle, if_pos ⟨rfl, rfl⟩] at hw
  cases hd : dispatch J req with
  | error reply =>
    -- A resource without methods would be answered all the same.
    have ha := h ⟨[], fun _ => abort .outOfRange, fun _ => abort .outOfRange, fun _ => abort .outOfRange⟩
    rw [callback_error hd] at ha
    cases m <;> simp [Resource.handle, abort] at ha
  | ok mv =>
    obtain ⟨n, u⟩ := mv
    rw [callback_ok hd, witnessResource_handle, witnessHandle] at hw
    by_cases hnu : n = m ∧ some u = some v
    · obtain ⟨rfl, hu⟩ := hnu
      rw [Option.some.inj hu]
    · simp [if_neg hnu, abort] at hw

section content

def isBlank (b : UInt8) : Bool := b == 32 || b == 9

def mediaType (content : Bytes) : Bytes := (content.takeWhile (· != 59)).rdropWhile isBlank

def Denotes (G : Grammar) (body : Bytes) (v : Json) : Prop := if body = [] then v = .null else G.value body = some v

structure Admissible (G : Grammar) (req : HttpRequest) (m : Method) (v : Json) : Prop where
  method : req.command = m.command
  body : Denotes G req.buffer v
  content : ∀ c, req.contentType = some c → mediaType c = CONTENT_TYPE_JSON

lemma mediaType_prefix (content : Bytes) : mediaType content <+: content :=
  (List.rdropWhile_prefix ..).trans (List.takeWhile_prefix _)

lemma refusedContent_eq_false {content : Option Bytes} :
    refusedContent content = false ↔ ∀ c, content = some c → CONTENT_TYPE_JSON <+: c := by
  cases content with
  | none => exact iff_of_true rfl fun c h => absurd h (Option.some_ne_none c).symm
  | some c =>
    have ht : CONTENT_TYPE_JSON <+: c ↔ c.take CONTENT_TYPE_JSON.length = CONTENT_TYPE_JSON := by
      rw [List.prefix_iff_eq_take, eq_comm]
    simp only [refusedContent, Option.any_some, decide_eq_false_iff_not, ne_eq, not_not, Option.some.injEq,
      forall_eq', ht]

lemma loads_of_noNul (h : (0 : UInt8) ∉ req.buffer) : loads J req.buffer = .ok v ↔ Denotes G req.buffer v := by
  rw [loads, Denotes]
  split_ifs with hb
  · simp [eq_comm]
  · rw [cString_of_not_mem h, J.loads_iff h]

lemma Denotes.noNul {body : Bytes} (h : Denotes G body v) : (0 : UInt8) ∉ body := by
  rw [Denotes] at h
  split_ifs at h with hb
  · simp [hb]
  · exact G.noNul h

end content

/-- A write whose header begins like the JSON media type, with a text before the first NUL
of its body if it has a body, where the header names another type or there is a NUL. -/
structure Overaccepted (G : Grammar) (req : HttpRequest) : Prop where
  writes : req.command = .put ∨ req.command = .post
  content : ∀ c, req.contentType = some c → CONTENT_TYPE_JSON <+: c
  body : req.buffer ≠ [] → ∃ v, G.value (cString req.buffer) = some v
  excess : (0 : UInt8) ∈ req.buffer ∨ ∃ c, req.contentType = some c ∧ mediaType c ≠ CONTENT_TYPE_JSON

def Exact (J : Jansson G) (req : HttpRequest) : Prop := ∀ m, m ≠ .get → ∀ v, Invokes J req m v ↔ Admissible G req m v

def AnsweredOnce (J : Jansson G) (req : HttpRequest) : Prop :=
  ∀ (W : Type) (f : (c : Call) → W → Option (c.Reply × W)) (r : Resource),
    (∀ m b w, ∃ status body w', (r.handle m b).exec f w = some ((status, some body), w')) →
      ∀ w, ∃ reply w', (callback J r req).exec f w = some ([reply], w')

lemma answeredOnce (J : Jansson G) (req : HttpRequest) : AnsweredOnce J req := by
  intro W f r hr w
  rw [callback_eq]
  cases dispatch J req with
  | error reply => exact ⟨reply, w, rfl⟩
  | ok mv =>
    obtain ⟨status, body, w', hw⟩ := hr mv.1 (some mv.2) w
    refine ⟨.reply status.code (cString (J.dumps body)), w', ?_⟩
    rw [Program.exec_bind, hw]
    rfl

lemma cString_noNul (s : Bytes) : (0 : UInt8) ∉ cString s := fun h => by simpa using List.mem_takeWhile_imp h

lemma dispatch_of_overaccepted (h : Overaccepted G req) : ∃ m v, m ≠ .get ∧ dispatch J req = .ok (m, v) := by
  have hv : ∃ v, loads J req.buffer = .ok v := by
    by_cases hb : req.buffer = []
    · exact ⟨.null, by rw [loads, if_pos hb]⟩
    · obtain ⟨v, hv⟩ := h.body hb
      exact ⟨v, by rw [loads, if_neg hb, J.loads_iff (cString_noNul _), hv]⟩
  obtain ⟨v, hv⟩ := hv
  have hc := refusedContent_eq_false.mpr h.content
  rcases h.writes with hm | hm
  · exact ⟨.put, v, by decide, dispatch_iff.mpr ⟨hm, hv, fun _ => hc⟩⟩
  · exact ⟨.post, v, by decide, dispatch_iff.mpr ⟨hm, hv, fun _ => hc⟩⟩

lemma overaccepted_of_dispatch (hm : m ≠ .get) (h : dispatch J req = .ok (m, v)) (he : (0 : UInt8) ∈ req.buffer ∨
    ∃ c, req.contentType = some c ∧ mediaType c ≠ CONTENT_TYPE_JSON) : Overaccepted G req := by
  obtain ⟨hc, hv, hr⟩ := dispatch_iff.mp h
  refine ⟨?_, refusedContent_eq_false.mp (hr hm), fun hb => ?_, he⟩
  · cases m with
    | get => exact absurd rfl hm
    | put => exact .inl hc
    | post => exact .inr hc
  · rw [loads, if_neg hb, J.loads_iff (cString_noNul _)] at hv
    exact ⟨v, hv⟩

lemma Admissible.dispatch (h : Admissible G req m v) : dispatch J req = .ok (m, v) := by
  refine dispatch_iff.mpr ⟨h.method, (loads_of_noNul h.body.noNul).mpr h.body, fun _ => ?_⟩
  refine refusedContent_eq_false.mpr fun c hc => ?_
  rw [← h.content c hc]
  exact mediaType_prefix c

lemma not_exact (h : Overaccepted G req) : ¬ Exact J req := by
  intro he
  obtain ⟨m, v, hm, hd⟩ := dispatch_of_overaccepted (J := J) h
  have ha := (he m hm v).mp (invokes_iff.mpr hd)
  rcases h.excess with hz | ⟨c, hc, ht⟩
  · exact ha.body.noNul hz
  · exact ht (ha.content c hc)

theorem admission_iff (J : Jansson G) (req : HttpRequest) :
    (Exact J req ∧ AnsweredOnce J req) ↔ ¬ Overaccepted G req := by
  constructor
  · exact fun h ho => not_exact ho h.1
  · intro ho
    refine ⟨fun m hm v => ⟨fun h => ?_, fun h => callback_ok h.dispatch⟩, answeredOnce J req⟩
    have hd := invokes_iff.mp h
    have hx := not_or.mp fun he => ho (overaccepted_of_dispatch hm hd he)
    obtain ⟨hc, hv, -⟩ := dispatch_iff.mp hd
    exact ⟨hc, (loads_of_noNul hx.1).mp hv, fun c h => not_not.mp fun ht => hx.2 ⟨c, h, ht⟩⟩

section samples

open Sample

def putJsonp : HttpRequest := ⟨.put, some (bytes "application/jsonp"), bytes "true"⟩

lemma overaccepted_putJsonp : Overaccepted literals putJsonp where
  writes := .inl rfl
  content := by
    intro c hc
    obtain rfl := Option.some.inj hc
    decide
  body _ := ⟨.boolean true, rfl⟩
  excess := .inr ⟨_, rfl, by decide⟩

theorem putJsonp_not_exact : ¬ (Exact strict putJsonp ∧ AnsweredOnce strict putJsonp) :=
  fun h => not_exact overaccepted_putJsonp h.1

end samples

end RouterCard.Captived.Admission
