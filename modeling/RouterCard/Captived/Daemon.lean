import RouterCard.Captived.Main
import RouterCard.Captived.World
import RouterCard.Interaction.Contract

namespace RouterCard.Captived

open Text Interaction

inductive Method where
  | get
  | put
  | post
  deriving DecidableEq

inductive Request where
  | http (m : Method) (path : Bytes) (body : Body)
  | sigchld

def Resource.handle (r : Resource) : Method → Body → Prog Resp
  | .get => r.get
  | .put => r.put
  | .post => r.post

variable (sys : System)

def notFound : Resp := (.notFound, none)

def serve (m : Method) (path : Bytes) (body : Body) : Prog Resp :=
  match (Main.registered sys).find? fun r => r.path = path with
  | some r => r.handle m body
  | none => return notFound

def handler : Request → Prog (Option Resp)
  | .http m path body => some <$> serve sys m path body
  | .sigchld => (fun _ => none) <$> FirmwareManager.onSigchld

def acceptRequest : Request → World → Option World
  | .http .., w => some w
  | .sigchld, w => if w.caught ∧ w.registered then some { w with caught := false } else none

abbrev daemon : Server calls (host sys) where
  Request := Request
  Response := Option Resp
  handler := handler sys
  accept := acceptRequest

def initial (env : Env) (files : Files) : (daemon sys).Config := .idle (World.initial env files)

def IsInitial (c : (daemon sys).Config) : Prop := ∃ env files, c = initial sys env files

variable {sys}

lemma answers_elim {L : (daemon sys).Limits} {always : World → Prop}
    {allowed : Request → Trace calls → Call → World → Prop} {r : Request} {t : Trace calls} {c : Call} {w v : World}
    {x : c.Reply} (h : (L.rules always allowed r).answers t c w x v) :
    ∃ o, L.answer r t c o w ∧ answer sys c o w = some (x, v) := h

namespace Sample

def bare : System := ⟨[], fun _ => ⟨[], by simp⟩⟩

def answered (o : Outcome) : (daemon bare).Label := .move (.answer o)

def acted (a : Act) : (daemon bare).Label := .move (.act a)

def done (n : ℕ) : List (daemon bare).Label := List.replicate n (answered .done)

def committed : Env := ⟨some (bytes "2"), some (bytes "0")⟩

def install : Body := some (.object [(bytes "update_URI", .string ⟨bytes "u", by decide⟩)])

-- PUT /firmware from a committed system, up to its answer; the installer is process 7.
def updating : List (daemon bare).Label :=
  .start (.http .put URI_FIRMWARE install) :: done 4 ++ [answered (.forked 7)] ++ done 10 ++ [.finish]

def first : (daemon bare).Config := initial bare committed fun _ => none

def updated : (daemon bare).Config := (first.run updating).getD first

set_option maxRecDepth 100000 in
lemma run_updating : first.run updating = some updated := by
  have h : (first.run updating).isSome = true := by decide
  exact (Option.getD_of_ne_none (Option.ne_none_iff_isSome.mpr h) first).symm

set_option maxRecDepth 100000 in
lemma updated_thread : updated.thread = none := by
  have h : updated.thread.isNone = true := by decide
  exact Option.isNone_iff_eq_none.mp h

lemma reachable_updated {ok : (daemon bare).Config → (daemon bare).Label → Prop} (hok : ∀ l ∈ updating, ∀ c, ok c l) :
    Server.Reachable (IsInitial bare) ok updated :=
  (Server.Reachable.init ⟨_, _, rfl⟩).run hok run_updating

lemma reachable_started {ok : (daemon bare).Config → (daemon bare).Label → Prop} (hok : ∀ l ∈ updating, ∀ c, ok c l)
    (m : Method) (path : Bytes) (body : Body) (hs : ok updated (.start (.http m path body))) :
    Server.Reachable (IsInitial bare) ok
      (updated.busy (.http m path body) ⟨[], handler bare (.http m path body), updated.world⟩) := by
  refine .step (reachable_updated hok) hs ?_
  rw [Server.Config.step, updated_thread]
  rfl

-- No other process acts, and no call fails.
def Plain : (daemon bare).Label → Prop
  | .start _ | .finish => True
  | .move (.answer o) => ∀ errno, o ≠ .failed errno
  | .move (.act _) => False

lemma plain_done (n : ℕ) : ∀ l ∈ done n, Plain l := by
  intro l hl
  obtain rfl := List.eq_of_mem_replicate hl
  exact fun _ => Outcome.noConfusion

lemma plain_updating : ∀ l ∈ updating, Plain l := by
  intro l hl
  simp only [updating, List.cons_append, List.mem_cons, List.mem_append, List.not_mem_nil, or_false] at hl
  rcases hl with rfl | ((hl | rfl) | hl) | rfl
  · trivial
  · exact plain_done 4 l hl
  · exact fun _ => Outcome.noConfusion
  · exact plain_done 10 l hl
  · trivial

lemma ok_of_plain {L : (daemon bare).Limits} {ls : List (daemon bare).Label} (hls : ∀ l ∈ ls, Plain l)
    (hL : ∀ r t c o w, (∀ errno, o ≠ .failed errno) → L.answer r t c o w) : ∀ l ∈ ls, ∀ c, L.ok c l := by
  intro l hl c
  have hp := hls l hl
  cases l with
  | start r => trivial
  | finish => trivial
  | move m =>
    cases m with
    | act a => exact hp.elim
    | answer o =>
      simp only [Server.Limits.ok]
      split
      · exact hL _ _ _ _ _ hp
      · trivial

end Sample

end RouterCard.Captived
