import RouterCard.Captived.Authority
import RouterCard.Captived.Conformance
import RouterCard.Captived.Http
import RouterCard.Interaction.Frontend

namespace RouterCard.Captived

open Text Interaction

inductive HttpEvent where
  | http (path : Bytes) (req : HttpRequest)
  | sigchld

section source

variable {G : Grammar} (J : Jansson G) (sys : System)

def notFoundCb : Prog (List HttpReply) := return [.error 404 (bytes "Not Found")]

def httpHandler : HttpEvent → Prog (List HttpReply)
  | .http path req =>
    match (Main.registered sys).find? fun r => r.path = path with
    | some r => callback J r req
    | none => notFoundCb
  | .sigchld => (fun _ => []) <$> FirmwareManager.onSigchld

def acceptEvent : HttpEvent → World → Option World
  | .http .., w => some w
  | .sigchld, w => acceptRequest .sigchld w

abbrev httpServer : Server calls (host sys) where
  Request := HttpEvent
  Response := List HttpReply
  handler := httpHandler J sys
  accept := acceptEvent

def httpInitial (env : Env) (files : Files) : (httpServer J sys).Config := .idle (World.initial env files)

end source

namespace HttpServer

open Authority Conformance

section table

variable {G : Grammar} (J : Jansson G) (sys : System)

def forward : HttpEvent → Except (List HttpReply) Request
  | .http path req =>
    match (Main.registered sys).find? fun r => r.path = path with
    | some _ =>
      match dispatch J req with
      | .ok (m, v) => .ok (.http m path (some v))
      | .error reply => .error [reply]
    | none => .error [.error 404 (bytes "Not Found")]
  | .sigchld => .ok .sigchld

def respond : HttpEvent → Option Resp → Prog (List HttpReply)
  | .http .., some resp => sendJsonResponse J resp
  | _, _ => return []

inductive Answers : HttpEvent → List HttpReply → Prop
  | reaped : Answers .sigchld []
  | notFound {path req} : (∀ r ∈ Main.registered sys, r.path ≠ path) →
      Answers (.http path req) [.error 404 (bytes "Not Found")]
  | malformed {r req e} : r ∈ Main.registered sys → loads J req.buffer = .error e →
      Answers (.http r.path req) [.error 400 (parsingError e)]
  | notAllowed {r req v} : r ∈ Main.registered sys → loads J req.buffer = .ok v → req.command = .other →
      Answers (.http r.path req) [.error 405 (bytes "Error - Request type not allowed.")]
  | mistyped {r req v} : r ∈ Main.registered sys → loads J req.buffer = .ok v → req.command = .put ∨ req.command = .post →
      refusedContent req.contentType = true →
      Answers (.http r.path req) [.error 400 (bytes "Error - content type must be JSON.")]
  | served {r req m v status body} : r ∈ Main.registered sys → dispatch J req = .ok (m, v) →
      (m ∈ methods r.path → Replies m r.path (status, some body)) →
      (m ∉ methods r.path → Refuses m r.path (status, some body)) →
      Answers (.http r.path req) [.reply status.code (cString (J.dumps body))]

def Harmless (q : Call) : Prop := Inspection sys q ∨ Reaping q ∨ q = .abort .nullString

end table

variable {G : Grammar} {J : Jansson G} {sys : System}

section front

lemma handler_reaped : httpHandler J sys .sigchld = handler sys .sigchld >>= respond J .sigchld := by
  rw [httpHandler, handler, bind_map_left, ← bind_pure_comp]
  rfl

lemma handler_served {path : Bytes} {req : HttpRequest} {r : Resource} {m : Method} {v : Json}
    (hf : ((Main.registered sys).find? fun r => r.path = path) = some r) (hd : dispatch J req = .ok (m, v)) :
    httpHandler J sys (.http path req) = handler sys (.http m path (some v)) >>= respond J (.http path req) := by
  have hserve : handler sys (.http m path (some v)) = some <$> r.handle m (some v) := by
    rw [handler, serve, hf]
  have hhttp : httpHandler J sys (.http path req) = callback J r req := by
    simp only [httpHandler, hf]
  rw [hhttp, hserve, callback_ok hd, bind_map_left]
  rfl

lemma handler_refused {event : HttpEvent} {replies : List HttpReply} (h : forward J sys event = .error replies) :
    httpHandler J sys event = .done replies ∧ ∀ w v, acceptEvent event w = some v → v = w := by
  cases event with
  | sigchld => cases h
  | http path req =>
    refine ⟨?_, fun w v hv => (Option.some.inj hv).symm⟩
    cases hf : (Main.registered sys).find? fun r => r.path = path with
    | none =>
      simp only [forward, hf, Except.error.injEq] at h
      subst h
      simp only [httpHandler, hf]
      rfl
    | some r =>
      simp only [httpHandler, hf]
      cases hd : dispatch J req with
      | error reply =>
        simp only [forward, hf, hd, Except.error.injEq] at h
        subst h
        exact callback_error hd r
      | ok mv => simp [forward, hf, hd] at h

lemma forward_ok {path : Bytes} {req : HttpRequest} {q : Request} (h : forward J sys (.http path req) = .ok q) :
    ∃ r m v, ((Main.registered sys).find? fun r => r.path = path) = some r ∧ dispatch J req = .ok (m, v) ∧
      q = .http m path (some v) := by
  cases hf : (Main.registered sys).find? fun r => r.path = path with
  | none => simp [forward, hf] at h
  | some r =>
    cases hd : dispatch J req with
    | error reply => simp [forward, hf, hd] at h
    | ok mv =>
      simp only [forward, hf, hd, Except.ok.injEq] at h
      exact ⟨r, mv.1, mv.2, rfl, rfl, h.symm⟩

lemma handler_handed {event : HttpEvent} {q : Request} (h : forward J sys event = .ok q) :
    httpHandler J sys event = handler sys q >>= respond J event ∧ acceptEvent event = acceptRequest q := by
  cases event with
  | sigchld =>
    obtain rfl := Except.ok.inj h
    exact ⟨handler_reaped, rfl⟩
  | http path req =>
    obtain ⟨r, m, v, hf, hd, rfl⟩ := forward_ok h
    exact ⟨handler_served hf hd, rfl⟩

lemma respond_halts (event : HttpEvent) (resp : Option Resp) :
    (respond J event resp).Calls fun q : Call => q = .abort .nullString := by
  cases event with
  | sigchld => trivial
  | http path req =>
    rcases resp with _ | ⟨status, _ | body⟩
    · trivial
    · exact ⟨rfl, fun x => x.elim⟩
    · trivial

variable (J sys) in
def front : Front (httpServer J sys) (daemon sys) where
  forward := forward J sys
  respond := respond J
  refused := handler_refused
  handed := handler_handed
  halts event resp := (respond_halts event resp).mono fun q hq o w => by
    subst hq
    rfl

end front

section replies

lemma refused_answers {event : HttpEvent} {replies : List HttpReply} (h : forward J sys event = .error replies) :
    Answers J sys event replies := by
  cases event with
  | sigchld => cases h
  | http path req =>
    cases hf : (Main.registered sys).find? fun r => r.path = path with
    | none =>
      have hnone : ∀ r ∈ Main.registered sys, r.path ≠ path := by simpa using hf
      simp only [forward, hf, Except.error.injEq] at h
      exact h ▸ .notFound hnone
    | some r =>
      have hr := List.mem_of_find?_eq_some hf
      obtain rfl : r.path = path := by simpa using List.find?_some hf
      simp only [forward, hf] at h
      cases hl : loads J req.buffer with
      | error e =>
        have hd : dispatch J req = .error (respondBadRequest (parsingError e)) := by rw [dispatch, hl]
        rw [hd] at h
        exact Except.error.inj h ▸ .malformed hr hl
      | ok v =>
        cases hc : req.command with
        | get => simp [dispatch, hl, hc] at h
        | other =>
          have hd : dispatch J req = .error (respondNotAllowed (bytes "Error - Request type not allowed.")) := by
            simp only [dispatch, hl, hc]
          rw [hd] at h
          exact Except.error.inj h ▸ .notAllowed hr hl hc
        | put | post =>
          cases ht : refusedContent req.contentType with
          | false => simp [dispatch, hl, hc, ht] at h
          | true =>
            have hd : dispatch J req = .error (respondBadRequest (bytes "Error - content type must be JSON.")) := by
              simp [dispatch, hl, hc, ht]
            rw [hd] at h
            exact Except.error.inj h ▸ .mistyped hr hl (by simp [hc]) ht

lemma handed_answers {event : HttpEvent} {q : Request} {resp : Option Resp} {replies : List HttpReply}
    (h : forward J sys event = .ok q) (hresp : Conforms sys q resp) (hdone : respond J event resp = .done replies) :
    Answers J sys event replies := by
  cases event with
  | sigchld =>
    obtain rfl := Program.done.inj hdone
    exact .reaped
  | http path req =>
    obtain ⟨r, m, v, hf, hd, rfl⟩ := forward_ok h
    have hr := List.mem_of_find?_eq_some hf
    obtain rfl : r.path = path := by simpa using List.find?_some hf
    generalize hq : Request.http m r.path (some v) = q at hresp
    have hbody : ∀ {status : Status} {b : Body}, respond J (.http r.path req) (some (status, b)) = .done replies →
        ∃ body, b = some body ∧ replies = [.reply status.code (cString (J.dumps body))] := by
      intro status b hb
      cases b with
      | none => simp [respond, abort] at hb
      | some body => exact ⟨body, rfl, (Program.done.inj hb).symm⟩
    cases hresp with
    | reaped => cases hq
    | unknown hnone =>
      obtain ⟨rfl, rfl, rfl⟩ := Request.http.inj hq
      exact absurd rfl (hnone r hr)
    | @lacking m' r' b resp hr' hm href =>
      obtain ⟨rfl, hp, rfl⟩ := Request.http.inj hq
      rw [← hp] at hm href
      obtain ⟨body, hb, rfl⟩ := hbody hdone
      have hresp : resp = (resp.1, some body) := by rw [← hb]
      exact .served hr hd (fun h => absurd h hm) fun _ => hresp ▸ href
    | @having m' r' b resp hr' hm hrep =>
      obtain ⟨rfl, hp, rfl⟩ := Request.http.inj hq
      rw [← hp] at hm hrep
      obtain ⟨body, hb, rfl⟩ := hbody hdone
      have hresp : resp = (resp.1, some body) := by rw [← hb]
      exact .served hr hd (fun _ => hresp ▸ hrep) fun h => absurd hm h

end replies

section harmless

lemma harmless_respond (event : HttpEvent) (resp : Option Resp) : (respond J event resp).Calls (Harmless sys) :=
  (respond_halts event resp).mono fun _ hq => .inr (.inr hq)

lemma harmless_handler {event : HttpEvent} (h : ∀ m path body, forward J sys event = .ok (.http m path body) → m = .get) :
    (httpHandler J sys event).Calls (Harmless sys) := by
  cases ha : forward J sys event with
  | error replies =>
    rw [(handler_refused ha).1]
    trivial
  | ok q =>
    rw [(handler_handed ha).1]
    refine Program.Calls.bind ((handler_allowed q).mono fun k hk => ?_) (harmless_respond event)
    cases hk with
    | inspect hc | inspectFirst _ hc => exact .inl hc
    | reap hc => exact .inr (.inl hc)
    | install | commit | configure | switch => cases h _ _ _ ha
    | reboot => cases h _ _ _ ha

structure Untouched (fs : Files) (w : World) : Prop where
  files : w.files = fs
  loaded : w.loaded = fs
  installers : w.installers = []
  downloading : w.memory.downloading = false

variable {fs : Files} {w v : World} {o : Outcome} {q : Call}

lemma harmless_cases (hq : Harmless sys q) (hne : q ≠ .abort .nullString) : Inspection sys q ∨ Reaping q := by
  rcases hq with hq | hq | hq
  · exact .inl hq
  · exact .inr hq
  · exact absurd hq hne

lemma harmless_alters {path : Bytes} (hq : Harmless sys q) (h : Alters w.files q path) : False := by
  rcases hq with hq | hq | rfl
  · exact inspection_alters hq h
  · cases q <;> first | exact hq | exact h
  · exact h

lemma harmless_shell {command : Bytes} : ¬ Harmless sys (.shell command) := by
  intro hq
  rcases harmless_cases hq nofun with hq | hq
  · exact hq
  · exact hq

lemma harmless_fork {command : Bytes} : ¬ Harmless sys (.fork command) := by
  intro hq
  rcases harmless_cases hq nofun with hq | hq
  · exact hq
  · exact hq

lemma harmless_store {flag : Bool} (hq : Harmless sys (.store .downloading flag)) : flag = false := by
  rcases harmless_cases hq nofun with hq | hq
  · exact hq
  · exact hq

lemma harmless_downloading {x : q.Reply} (hq : Harmless sys q) (h : answer sys q o w = some (x, v))
    (hw : w.memory.downloading = false) : v.memory.downloading = false := by
  by_cases hstore : ∀ f x, q ≠ .store f x
  · rw [answer_memory hstore h, hw]
  · push Not at hstore
    obtain ⟨f, flag, rfl⟩ := hstore
    rw [answer_store h]
    cases f with
    | downloading => exact harmless_store hq
    | _ => exact hw

lemma harmless_answer {x : q.Reply} (hq : Harmless sys q) (h : answer sys q o w = some (x, v)) (hw : Untouched fs w) :
    Untouched fs v := by
  have hdoes := answer_does h
  refine ⟨?_, ?_, ?_, harmless_downloading hq h hw.downloading⟩
  · rw [← hw.files]
    funext path
    by_contra hne
    exact harmless_alters hq (hdoes.files path hne)
  · rw [← hw.loaded]
    by_contra hne
    exact harmless_shell (hdoes.loaded hne ▸ hq)
  · refine List.eq_nil_iff_forall_not_mem.mpr fun p hp => ?_
    obtain ⟨command, rfl⟩ := hdoes.installers p hp (by rw [hw.installers]; exact List.not_mem_nil)
    exact harmless_fork hq

lemma harmless_env {x : q.Reply} (hq : Harmless sys q) (h : answer sys q o w = some (x, v)) : v.env = w.env := by
  refine answer_env (fun command hshell => ?_) h
  subst hshell
  exact harmless_shell hq

lemma act_untouched {a : Act} (h : act a w = some v) (hw : Untouched fs w) :
    Untouched fs v ∧ (a.setsEnv = false → v.env = w.env) := by
  have hfind (pid : ℤ) : w.find pid = none := by rw [World.find, hw.installers]; rfl
  cases a with
  | write pid => simp [act, hfind] at h
  | exit pid how => simp [act, hfind] at h
  | sigchld =>
    obtain rfl := Option.some.inj h
    exact ⟨⟨hw.files, hw.loaded, hw.installers, hw.downloading⟩, fun _ => rfl⟩
  | dropSigchld =>
    simp only [act] at h
    split_ifs at h
    obtain rfl := Option.some.inj h
    exact ⟨⟨hw.files, hw.loaded, hw.installers, hw.downloading⟩, fun _ => rfl⟩
  | setBootcount b | setEnv e =>
    obtain rfl := Option.some.inj h
    exact ⟨⟨hw.files, hw.loaded, hw.installers, hw.downloading⟩, fun hs => absurd hs Bool.true_eq_false.mp⟩

lemma accept_untouched {event : HttpEvent} (h : acceptEvent event w = some v) (hw : Untouched fs w) :
    Untouched fs v ∧ v.env = w.env := by
  cases event with
  | http path req => exact Option.some.inj h ▸ ⟨hw, rfl⟩
  | sigchld =>
    simp only [acceptEvent, acceptRequest] at h
    split_ifs at h
    obtain rfl := Option.some.inj h
    exact ⟨⟨hw.files, hw.loaded, hw.installers, hw.downloading⟩, rfl⟩

end harmless

section runs

variable {env : Env} {files : Files} {ls : List (httpServer J sys).Label} {c d : (httpServer J sys).Config}

theorem http_runs_refine (h : (httpInitial J sys env files).run ls = some c) :
    ∃ d, (initial sys env files).run ((httpInitial J sys env files).events (front J sys).labels ls) = some d ∧
      (front J sys).Stands c d :=
  Front.stands_run (Front.stands_idle _) h

theorem http_answers (h : (httpInitial J sys env files).run ls = some c) :
    ls.filterMap Server.Label.started = c.log.map Prod.fst ++ (c.thread.map Server.Thread.request).toList ∧
      ∀ x ∈ c.log, Answers J sys x.1 x.2 := by
  refine ⟨(Server.Config.taken_run h).symm, ?_⟩
  rintro ⟨event, replies⟩ hx
  obtain ⟨d, hd, hs⟩ := Front.stands_run (F := front J sys) (Front.stands_idle _) h
  rcases hs.log.mem hx with hrefused | ⟨q, resp, hq, hdone, hy⟩
  · exact refused_answers hrefused
  · have hc := Server.Config.Conforms.run handler_conforms (Server.conforms_idle _) hd
    exact handed_answers hq (hc.given _ hy) hdone

-- No PUT or POST is accepted.
def OnlyGets (J : Jansson G) (sys : System) (ls : List (httpServer J sys).Label) : Prop :=
  ∀ path req m v, .start (.http path req) ∈ ls → (∃ r ∈ Main.registered sys, r.path = path) →
    dispatch J req = .ok (m, v) → m = .get

lemma OnlyGets.harmless (hr : OnlyGets J sys ls) : ∀ event, .start event ∈ ls → (httpHandler J sys event).Calls (Harmless sys) := by
  intro event hevent
  refine harmless_handler fun m path body ha => ?_
  cases event with
  | sigchld => cases ha
  | http path req =>
    obtain ⟨r, n, v, hf, hd, hq⟩ := forward_ok ha
    obtain ⟨rfl, -, -⟩ := Request.http.inj hq
    exact hr path req m v hevent ⟨r, List.mem_of_find?_eq_some hf, by simpa using List.find?_some hf⟩ hd

lemma OnlyGets.run (hr : OnlyGets J sys ls) (h : (httpInitial J sys env files).run ls = some c) :
    (c.Confined fun _ => Harmless sys) ∧ Untouched files c.world := by
  have hidle : (httpInitial J sys env files).Confined fun _ => Harmless sys := Server.Config.confined_of_idle rfl
  refine ⟨hidle.run hr.harmless h, ?_⟩
  exact hidle.invariant hr.harmless (fun event w v hv hw => (accept_untouched hv hw).1)
    (fun a w v _ hv hw => (act_untouched hv hw).1) (fun event q o w x v hq hv hw => harmless_answer hq hv hw) h
    ⟨rfl, rfl, rfl, rfl⟩

lemma env_of_step {l : (httpServer J sys).Label} (hc : c.Confined fun _ => Harmless sys) (hw : Untouched files c.world)
    (h : c.step l = some d) (he : d.world.env ≠ c.world.env) : ∃ a, l = .move (.act a) ∧ a.setsEnv = true := by
  have hact : ∀ a v, act a c.world = some v → v.env ≠ c.world.env → a.setsEnv = true := by
    intro a v hv hne
    by_contra hquiet
    exact hne ((act_untouched hv hw).2 (Bool.eq_false_of_not_eq_true hquiet))
  rcases Server.Config.step_cases h with ⟨r, w, -, -, hv, rfl⟩ | ⟨r, k, a, -, -, rfl⟩ | ⟨⟨r, k, p⟩, m, s, rfl, ht, hm, rfl⟩ |
    ⟨a, w, rfl, -, hv, rfl⟩
  · exact absurd (accept_untouched hv hw).2 he
  · exact absurd rfl he
  · cases m with
    | act a =>
      obtain ⟨w, hv, rfl⟩ := Session.move_act hm
      exact ⟨a, rfl, hact a w hv he⟩
    | answer o =>
      obtain ⟨q, next, x, w, rfl, hv, rfl⟩ := Session.move_answer hm
      exact absurd (harmless_env (hc.pending ht) hv) he
  · exact ⟨a, rfl, hact a w hv he⟩

theorem nothing_written (hr : OnlyGets J sys ls) (h : (httpInitial J sys env files).run ls = some c) :
    (∀ (r : HttpEvent) (t : Trace calls) (q : Call) (next : q.Reply → Prog (List HttpReply)),
      c.thread = some ⟨r, t, .call q next⟩ → Harmless sys q) ∧
    Untouched files c.world ∧
    ∀ d l e, (httpInitial J sys env files).Takes ls d l → d.step l = some e → e.world.env ≠ d.world.env →
      ∃ a, l = .move (.act a) ∧ a.setsEnv = true := by
  obtain ⟨hconfined, hkept⟩ := hr.run h
  refine ⟨fun r t q next ht => hconfined.pending ht, hkept, ?_⟩
  rintro d l e ⟨pre, post, rfl, hpre⟩ hstep
  have hgets : OnlyGets J sys pre := fun path req m v hs => hr path req m v (List.mem_append_left _ hs)
  obtain ⟨hd, hw⟩ := hgets.run hpre
  exact env_of_step hd hw hstep

end runs

section samples

open Sample

def putBoolean : HttpEvent := .http URI_ROUTER_MODE ⟨.put, none, bytes "true"⟩

def putMalformed : HttpEvent := .http URI_ROUTER_MODE ⟨.put, none, bytes "on"⟩

def refusal : Bytes := bytes "\"Error: request body is not a JSON string.\""

def puts : List (httpServer strict bare).Label := [.start putBoolean, .finish, .start putMalformed, .finish]

def gets : List (httpServer strict bare).Label :=
  [.start (.http URI_SERIAL_NUMBER getEmpty), .move (.answer .done), .finish]

def serialHttp : (httpServer strict bare).Config :=
  httpInitial strict bare committed fun path => if path = FILE_SERIAL_NUMBER then some (.file (bytes "XAP-1\n")) else none

def firstHttp : (httpServer strict bare).Config := httpInitial strict bare committed fun _ => none

lemma handler_putBoolean : httpHandler strict bare putBoolean = .done [.reply 400 refusal] := by
  have ha : forward strict bare putBoolean = .ok (.http .put URI_ROUTER_MODE (some (.boolean true))) := rfl
  rw [(handler_handed ha).1]
  rfl

lemma handler_putMalformed :
    httpHandler strict bare putMalformed = .done [.error 400 (parsingError ⟨1, bytes "invalid token"⟩)] := by
  have ha : forward strict bare putMalformed = .error [.error 400 (parsingError ⟨1, bytes "invalid token"⟩)] := rfl
  exact (handler_refused ha).1

def putsReplies : List (HttpEvent × List HttpReply) :=
  [(putBoolean, [.reply 400 refusal]), (putMalformed, [.error 400 (parsingError ⟨1, bytes "invalid token"⟩)])]

lemma run_puts : firstHttp.run puts = some { firstHttp with log := putsReplies } := by
  have hstart : firstHttp.step (.start putBoolean) = some (firstHttp.busy putBoolean
      ⟨[], .done [.reply 400 refusal], firstHttp.world⟩) := by
    rw [← handler_putBoolean]
    rfl
  simp only [puts, Server.Config.run_cons, hstart, Option.bind_some]
  simp only [Server.Config.step, Server.Config.busy, Option.bind_some, firstHttp, httpInitial, Server.Config.idle,
    handler_putMalformed]
  rfl

theorem http_runs_refine_puts : ∃ c, firstHttp.run puts = some c ∧
    ∃ d, (initial bare committed fun _ => none).run (firstHttp.events (front strict bare).labels puts) = some d ∧
      (front strict bare).Stands c d :=
  ⟨_, run_puts, http_runs_refine run_puts⟩

theorem http_answers_puts : ∃ c, firstHttp.run puts = some c ∧ c.log = putsReplies ∧
    puts.filterMap Server.Label.started = c.log.map Prod.fst ++ (c.thread.map Server.Thread.request).toList ∧
    ∀ x ∈ c.log, Answers strict bare x.1 x.2 :=
  ⟨_, run_puts, rfl, http_answers run_puts⟩

lemma onlyGets_gets : OnlyGets strict bare gets := by
  intro path req m v hs _ hd
  simp only [gets, List.mem_cons, Server.Label.start.injEq, reduceCtorEq, List.not_mem_nil, or_false] at hs
  obtain ⟨-, rfl⟩ := HttpEvent.http.inj hs
  exact (Prod.mk.inj (Except.ok.inj hd)).1.symm

theorem nothing_written_get : ∃ c, serialHttp.run gets = some c ∧
    c.log.map Prod.snd = [[.reply 200 (bytes "\"XAP-1\"")]] ∧ Untouched serialHttp.world.files c.world := by
  have hrun : (serialHttp.run gets).map (fun c => c.log.map Prod.snd) = some [[.reply 200 (bytes "\"XAP-1\"")]] := by
    decide +kernel
  obtain ⟨c, hc, hlog⟩ := Option.map_eq_some_iff.mp hrun
  exact ⟨c, hc, hlog, (nothing_written onlyGets_gets hc).2.1⟩

end samples

end HttpServer

end RouterCard.Captived
