import RouterCard.Captived.System

/-! The base class of the REST resources and the aggregate of named children. -/

namespace RouterCard.Captived

open Text Interaction

inductive Status where
  | ok
  | badRequest
  | notFound
  | methodNotAllowed
  | internalServerError
  deriving DecidableEq, Repr

def Status.code : Status → ℕ
  | .ok => 200
  | .badRequest => 400
  | .notFound => 404
  | .methodNotAllowed => 405
  | .internalServerError => 500

-- A body is a shared pointer to a jansson value, `none` when that is NULL.
abbrev Body := Option Json

abbrev Resp := Status × Body

structure Resource where
  path : Bytes
  get : Body → Prog Resp
  put : Body → Prog Resp
  post : Body → Prog Resp

namespace Resource

def ok (body : Body) : Resp := (.ok, body)
def badRequest (msg : String) : Resp := (.badRequest, Json.ofString (bytes msg))
def internalServerError (msg : Bytes) : Resp := (.internalServerError, Json.ofString msg)

def notAllowed (path : Bytes) (method : String) : Prog Resp :=
  return (.methodNotAllowed, Json.ofString (bytes method ++ bytes " method not allowed for " ++ path))

def base (path : Bytes) : Resource where
  path := path
  get _ := notAllowed path "GET"
  put _ := notAllowed path "PUT"
  post _ := notAllowed path "POST"

end Resource

structure Child where
  name : Bytes
  res : Resource
  omitNull : Bool

namespace AggregateResource

def addResource (obj : Json) (child : Child) : Prog Json := do
  let resp ← child.res.get (some .null)
  let val := if resp.1 = .ok then resp.2 else some .null
  if child.omitNull && Json.isNull val then
    return obj
  else
    return obj.objectSet child.name val

def addResources : Json → List Child → Prog Json
  | obj, [] => return obj
  | obj, child :: children => do
    let obj ← addResource obj child
    addResources obj children

def get (children : List Child) (_ : Body) : Prog Resp := do
  let root ← addResources (.object []) children
  return Resource.ok (some root)

def resource (path : Bytes) (children : List Child) : Resource :=
  { Resource.base path with get := get children }

def shown (resp : Resp) : Option Json := if resp.1 = .ok then resp.2 else some .null

def added (obj : Json) (child : Child) (resp : Resp) : Json :=
  if child.omitNull && Json.isNull (shown resp) then obj else obj.objectSet child.name (shown resp)

lemma addResource_eq (obj : Json) (child : Child) :
    addResource obj child = child.res.get (some .null) >>= fun resp => .done (added obj child resp) := by
  refine bind_congr fun resp => ?_
  dsimp only [added, shown]
  split_ifs <;> rfl

lemma added_object (ms : List (Bytes × Json)) (child : Child) (resp : Resp) :
    ∃ ms', added (.object ms) child resp = .object ms' := by
  rw [added]
  split_ifs
  · exact ⟨ms, rfl⟩
  · exact Json.objectSet_object ms child.name _

section runs

variable {W : Type} {f : (c : Call) → W → Option (c.Reply × W)} {I : W → Prop} {P : Child → Resp → Prop}

-- The children are asked one after the other, and the object built from their responses.
lemma exec_addResources {children : List Child} (h : ∀ c ∈ children, ∀ w, I w →
      ∃ resp v, (c.res.get (some .null)).exec f w = some (resp, v) ∧ I v ∧ P c resp) (obj : Json) {w : W} (hw : I w) :
    ∃ (l : List (Child × Resp)) (v : W), l.map Prod.fst = children ∧ (∀ a ∈ l, P a.1 a.2) ∧ I v ∧
      (addResources obj children).exec f w = some (l.foldl (fun obj a => added obj a.1 a.2) obj, v) := by
  induction children generalizing obj w with
  | nil => exact ⟨[], w, rfl, fun _ ha => absurd ha List.not_mem_nil, hw, rfl⟩
  | cons c children ih =>
    obtain ⟨resp, u, hresp, hu, hP⟩ := h c (.head _) w hw
    obtain ⟨l, v, rfl, hl, hv, hrest⟩ := ih (fun d hd => h d (.tail c hd)) (added obj c resp) hu
    refine ⟨(c, resp) :: l, v, rfl, List.forall_mem_cons.mpr ⟨hP, hl⟩, hv, ?_⟩
    rw [addResources, addResource_eq, Program.exec_bind, Program.exec_bind, hresp]
    exact hrest

end runs

end AggregateResource

end RouterCard.Captived
