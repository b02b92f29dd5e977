import RouterCard.Captived.Daemon

namespace RouterCard.Captived

open Text Interaction

/-- The JSON texts and their values. A control character, such as NUL, is in no JSON text. -/
structure Grammar where
  value : Bytes → Option Json
  noNul {s : Bytes} {v : Json} : value s = some v → (0 : UInt8) ∉ s

structure LoadError where
  line : ℤ
  text : Bytes

/-- `json_loads` of a C string with JSON_DECODE_ANY, and `json_dumps` of a value. -/
structure Jansson (G : Grammar) where
  loads : Bytes → Except LoadError Json
  dumps : Json → Bytes
  loads_iff {s : Bytes} {v : Json} : (0 : UInt8) ∉ s → (loads s = .ok v ↔ G.value s = some v)

inductive Command where
  | get
  | put
  | post
  | other
  deriving DecidableEq

def Method.command : Method → Command
  | .get => .get
  | .put => .put
  | .post => .post

structure HttpRequest where
  command : Command
  contentType : Option Bytes
  buffer : Bytes

inductive HttpReply where
  | reply (code : ℕ) (body : Bytes)
  | error (code : ℕ) (reason : Bytes)
  deriving DecidableEq

def CONTENT_TYPE_JSON : Bytes := bytes "application/json"

-- `evbuffer_remove` moves at most 128 bytes at a time.
def getPayload (buf payload : Bytes) : Bytes :=
  if _ : buf = [] then payload else getPayload (buf.drop 128) (payload ++ buf.take 128)
termination_by buf.length
decreasing_by
  have := List.length_pos_of_ne_nil ‹_›
  rw [List.length_drop]
  omega

lemma getPayload_eq (buf payload : Bytes) : getPayload buf payload = payload ++ buf := by
  induction buf, payload using getPayload.induct with
  | case1 payload => rw [getPayload, dif_pos rfl, List.append_nil]
  | case2 buf payload hb ih =>
    rw [getPayload, dif_neg hb, ih, List.append_assoc, List.take_append_drop]

variable {G : Grammar} (J : Jansson G)

def loads (str : Bytes) : Except LoadError Json := if str = [] then .ok .null else J.loads (cString str)

def dumps : Body → Prog Bytes
  | none => abort .nullString
  | some v => return J.dumps v

def sendJsonResponse (response : Resp) : Prog (List HttpReply) := do
  let encoded ← dumps J response.2
  return [.reply response.1.code (cString encoded)]

def respondBadRequest (err : Bytes) : HttpReply := .error 400 err
def respondNotAllowed (err : Bytes) : HttpReply := .error 405 err

def parsingError (error : LoadError) : Bytes :=
  bytes "JSON parsing error on line " ++ ofInt error.line ++ bytes ": " ++ error.text ++ [10]

-- The header is compared with strncmp, over the length of "application/json".
def refusedContent (content : Option Bytes) : Bool :=
  content.any fun c => c.take CONTENT_TYPE_JSON.length ≠ CONTENT_TYPE_JSON

def callback (resource : Resource) (req : HttpRequest) : Prog (List HttpReply) :=
  match loads J (getPayload req.buffer []) with
  | .error error => return [respondBadRequest (parsingError error)]
  | .ok body =>
    match req.command with
    | .get => do
      let resp ← resource.get (some body)
      sendJsonResponse J resp
    | .put =>
      if refusedContent req.contentType then
        return [respondBadRequest (bytes "Error - content type must be JSON.")]
      else do
        let resp ← resource.put (some body)
        sendJsonResponse J resp
    | .post =>
      if refusedContent req.contentType then
        return [respondBadRequest (bytes "Error - content type must be JSON.")]
      else do
        let resp ← resource.post (some body)
        sendJsonResponse J resp
    | .other => return [respondNotAllowed (bytes "Error - Request type not allowed.")]

/-- The method that the callback calls and the body it passes on, or the reply without a call. -/
def dispatch (req : HttpRequest) : Except HttpReply (Method × Json) :=
  match loads J req.buffer with
  | .error error => .error (respondBadRequest (parsingError error))
  | .ok body =>
    match req.command with
    | .get => .ok (.get, body)
    | .put =>
      if refusedContent req.contentType then .error (respondBadRequest (bytes "Error - content type must be JSON."))
      else .ok (.put, body)
    | .post =>
      if refusedContent req.contentType then .error (respondBadRequest (bytes "Error - content type must be JSON."))
      else .ok (.post, body)
    | .other => .error (respondNotAllowed (bytes "Error - Request type not allowed."))

variable {J} {req : HttpRequest} {m : Method} {v : Json}

lemma callback_eq (r : Resource) : callback J r req =
    match dispatch J req with
    | .error reply => .done [reply]
    | .ok (m, v) => r.handle m (some v) >>= sendJsonResponse J := by
  rw [callback, getPayload_eq, List.nil_append, dispatch]
  cases loads J req.buffer with
  | error error => rfl
  | ok body =>
    cases req.command with
    | get => rfl
    | other => rfl
    | put => cases refusedContent req.contentType <;> rfl
    | post => cases refusedContent req.contentType <;> rfl

lemma callback_error {reply : HttpReply} (h : dispatch J req = .error reply) (r : Resource) :
    callback J r req = .done [reply] := by
  rw [callback_eq, h]

lemma callback_ok (h : dispatch J req = .ok (m, v)) (r : Resource) :
    callback J r req = r.handle m (some v) >>= sendJsonResponse J := by
  rw [callback_eq, h]

lemma dispatch_iff : dispatch J req = .ok (m, v) ↔
    req.command = m.command ∧ loads J req.buffer = .ok v ∧ (m ≠ .get → refusedContent req.contentType = false) := by
  rw [dispatch]
  cases loads J req.buffer with
  | error error => simp
  | ok body =>
    cases hc : req.command <;> cases m <;> cases refusedContent req.contentType <;> simp [Method.command]

@[simp] lemma sendJsonResponse_null (status : Status) : sendJsonResponse J (status, none) = abort .nullString :=
  abort_bind _ _

@[simp] lemma sendJsonResponse_some (status : Status) (body : Json) :
    sendJsonResponse J (status, some body) = .done [.reply status.code (cString (J.dumps body))] := rfl

namespace Sample

def literals : Grammar where
  value s := if s = bytes "true" then some (.boolean true) else if s = bytes "false" then some (.boolean false) else none
  noNul := by
    intro s v h
    split_ifs at h with ht hf
    · rw [ht]
      decide
    · rw [hf]
      decide

def strict : Jansson literals where
  loads s := (literals.value s).elim (.error ⟨1, bytes "invalid token"⟩) .ok
  dumps
    | .boolean true => bytes "true"
    | .boolean false => bytes "false"
    -- none of the strings here has a character to escape
    | .string s => [34] ++ s.val ++ [34]
    | _ => bytes "null"
  loads_iff := by
    intro s v _
    cases literals.value s <;> simp

def getEmpty : HttpRequest := ⟨.get, none, []⟩

end Sample

end RouterCard.Captived
