import RouterCard.Captived.Alone
import RouterCard.Captived.Main

/-! The configuration files as a store: runs of GET and PUT on the two endpoints, and
what each PUT leaves in its file for each outcome of its writing. -/

namespace RouterCard.Captived.WifiStore

open Text Interaction WifiConfig

inductive Endpoint where
  | passthrough
  | secure
  deriving DecidableEq

def Endpoint.file : Endpoint → Bytes
  | .passthrough => FILE_WIFI_CONFIG_PASSTHROUGH
  | .secure => FILE_WIFI_CONFIG_SECURE_HOST

def Endpoint.resource (sys : System) : Endpoint → Resource
  | .passthrough => Main.wifiConfigPassthrough sys
  | .secure => Main.wifiConfigSecure sys

inductive Effect where
  | whole
  | part (n : ℕ)
  | nothing
  deriving DecidableEq

def Effect.outcome : Effect → Outcome
  | .whole => .done
  | .part n => .partly n
  | .nothing => .failed 0

-- What becomes of the calls with which a PUT writes and has the file loaded, and what it finds
-- as the hash of an empty file; `none` if it does not survive that.
structure Attempt where
  create : Bool
  write : Effect
  close : Effect
  rename : Bool
  reload : ℤ
  stale : Option Bytes

def Attempt.outcomes (a : Attempt) : Outcomes
  | .createFile _ => if a.create then .done else .failed 0
  | .writeFile .. => a.write.outcome
  | .closeFile _ => a.close.outcome
  | .rename .. => if a.rename then .done else .failed 0
  | .shell _ => if a.reload = 0 then .done else .reply [] a.reload
  | .emptyOptional => (a.stale.map Outcome.garbage).getD .done
  | _ => .done

def Attempt.writes (a : Attempt) : Bool := a.create && a.write = .whole && a.close = .whole && a.rename

structure Upload where
  members : List (Bytes × Json)
  contents : JsonText
  contents_eq : Json.objectGet (.object members) (bytes "contents") = some (.string contents)

inductive Event where
  | get (e : Endpoint)
  | put (e : Endpoint) (u : Upload) (a : Attempt)

variable (sys : System)

def serve : Event → World → Option (Resp × World)
  | .get e, w => ((e.resource sys).get (some .null)).exec (respond sys fun _ => .done) w
  | .put e u a, w => ((e.resource sys).put (some (.object u.members))).exec (respond sys a.outcomes) w

def nodeAt (w : World) (e : Endpoint) : Option Node := w.files (sys.chroot ++ e.file)

def loadedAt (w : World) (e : Endpoint) : Option Node := w.loaded (sys.chroot ++ e.file)

-- Neither temporary name is a link, or anything else than a regular file.
def Unlinked (w : World) : Prop := ∀ e : Endpoint, Regular (w.files (sys.tempFile e.file))

variable {sys} {w v : World} {e : Endpoint} {a : Attempt}

section paths

lemma path_injective {e f : Endpoint} (h : sys.chroot ++ e.file = sys.chroot ++ f.file) : e = f := by
  have hf : e.file = f.file := List.append_cancel_left h
  cases e <;> cases f <;> first | rfl | exact absurd hf (by decide)

lemma path_ne_temp (e f : Endpoint) : sys.chroot ++ e.file ≠ sys.tempFile f.file := by
  intro h
  rw [System.tempFile, List.append_assoc] at h
  have hf : e.file = f.file ++ bytes "_XXXXXX" := List.append_cancel_left h
  cases e <;> cases f <;> exact absurd hf (by decide)

lemma temp_ne_path (e f : Endpoint) : sys.tempFile e.file ≠ sys.chroot ++ f.file := (path_ne_temp f e).symm

end paths

lemma Unlinked.set (hw : Unlinked sys w) (path : Bytes) {n : Option Node} (hn : Regular n) :
    Unlinked sys (w.setFile path n) := by
  intro e
  rw [World.setFile]
  dsimp only
  rw [Function.update_apply]
  split_ifs
  · exact hn
  · exact hw e

@[simp] lemma nodeAt_setFile_temp (w : World) (e f : Endpoint) (n : Option Node) :
    nodeAt sys (w.setFile (sys.tempFile f.file) n) e = nodeAt sys w e := Function.update_of_ne (path_ne_temp e f) _ _

lemma nodeAt_setFile_self (w : World) (e : Endpoint) (n : Option Node) :
    nodeAt sys (w.setFile (sys.chroot ++ e.file) n) e = n := Function.update_self ..

lemma nodeAt_setFile_other (w : World) {e f : Endpoint} (n : Option Node) (h : f ≠ e) :
    nodeAt sys (w.setFile (sys.chroot ++ e.file) n) f = nodeAt sys w f :=
  Function.update_of_ne (fun hp => h (path_injective hp)) _ _

structure Written (sys : System) (w : World) (e : Endpoint) (n : Option Node) (v : World) : Prop where
  node : nodeAt sys v e = n
  other : ∀ f, f ≠ e → nodeAt sys v f = nodeAt sys w f
  loaded : v.loaded = w.loaded
  unlinked : Unlinked sys v

lemma written_refl (hw : Unlinked sys w) : Written sys w e (nodeAt sys w e) w := ⟨rfl, fun _ _ => rfl, rfl, hw⟩

lemma Written.temp {n m : Option Node} (h : Written sys w e n v) (hm : Regular m) :
    Written sys w e n (v.setFile (sys.tempFile e.file) m) :=
  ⟨(nodeAt_setFile_temp v e e m).trans h.node, fun f hf => (nodeAt_setFile_temp v f e m).trans (h.other f hf), h.loaded,
    h.unlinked.set _ hm⟩

lemma Written.path {n m : Option Node} (h : Written sys w e n v) (hm : Regular m) :
    Written sys w e m (v.setFile (sys.chroot ++ e.file) m) :=
  ⟨nodeAt_setFile_self v e m, fun f hf => (nodeAt_setFile_other v m hf).trans (h.other f hf), h.loaded,
    h.unlinked.set _ hm⟩

-- While only the temporary file has been touched, and holds `c`.
structure Scratch (sys : System) (w : World) (e : Endpoint) (c : Bytes) (v : World) : Prop extends
    Written sys w e (nodeAt sys w e) v where
  temp : v.files (sys.tempFile e.file) = some (.file c)

lemma Scratch.set {c : Bytes} (h : Written sys w e (nodeAt sys w e) v) :
    Scratch sys w e c (v.setFile (sys.tempFile e.file) (some (.file c))) :=
  ⟨h.temp (.inr ⟨c, rfl⟩), Function.update_self ..⟩

lemma Scratch.write (h : Scratch sys w e [] v) (s : Bytes) (x : Effect) :
    ∃ u c, answer sys (.writeFile (sys.tempFile e.file) s) x.outcome v = some (decide (x = .whole), u) ∧
      Scratch sys w e c u ∧ (x = .whole → c = s) := by
  cases x with
  | whole =>
    refine ⟨_, _, rfl, ?_, fun _ => rfl⟩
    rw [amend_file h.temp, List.nil_append]
    exact .set h.toWritten
  | part n =>
    refine ⟨_, s.take n, rfl, ?_, Effect.noConfusion⟩
    rw [amend_file h.temp, List.nil_append]
    exact .set h.toWritten
  | nothing => exact ⟨v, [], rfl, h, Effect.noConfusion⟩

lemma Scratch.close {c : Bytes} (h : Scratch sys w e c v) (x : Effect) :
    ∃ u d, answer sys (.closeFile (sys.tempFile e.file)) x.outcome v = some (decide (x = .whole), u) ∧
      Scratch sys w e d u ∧ (x = .whole → d = c) := by
  cases x with
  | whole => exact ⟨v, c, rfl, h, fun _ => rfl⟩
  | part n =>
    refine ⟨_, c.take n, rfl, ?_, Effect.noConfusion⟩
    rw [amend_file h.temp]
    exact .set h.toWritten
  | nothing => exact ⟨v, c, rfl, h, Effect.noConfusion⟩

lemma Scratch.rename {c : Bytes} (h : Scratch sys w e c v) :
    ∃ u, answer sys (.rename (sys.tempFile e.file) (sys.chroot ++ e.file)) .done v = some (0, u) ∧
      Written sys w e (some (.file c)) u := by
  refine ⟨(v.setFile (sys.tempFile e.file) none).setFile (sys.chroot ++ e.file) (some (.file c)), ?_, ?_⟩
  · simp only [answer, h.temp, Option.map_some]
  · exact (h.toWritten.temp (.inl rfl)).path (.inr ⟨c, rfl⟩)

lemma exec_write (hw : Unlinked sys w) (e : Endpoint) (a : Attempt) (s : Bytes) :
    ∃ v, (sys.write e.file s).exec (respond sys a.outcomes) w = some (a.writes, v) ∧
      Written sys w e (if a.writes then some (.file s) else nodeAt sys w e) v := by
  have h₀ : Written sys w e (nodeAt sys w e) w := written_refl hw
  cases hcreate : a.create with
  | false =>
    refine ⟨w, ?_, by simpa [Attempt.writes, hcreate] using h₀⟩
    simp [System.write_eq, respond, Attempt.outcomes, Attempt.writes, hcreate, answer]
  | true =>
    have h₁ : Scratch sys w e [] (w.setFile (sys.tempFile e.file) (some (.file []))) := .set h₀
    obtain ⟨v₂, c₂, hwrite, h₂, hc₂⟩ := h₁.write s a.write
    obtain ⟨v₃, c₃, hclose, h₃, hc₃⟩ := h₂.close a.close
    have hcreated : respond sys a.outcomes (.createFile (sys.tempFile e.file)) w =
        some (true, w.setFile (sys.tempFile e.file) (some (.file []))) := by
      simp [respond, Attempt.outcomes, hcreate, answer, create_plain (hw e)]
    have hwritten : respond sys a.outcomes (.writeFile (sys.tempFile e.file) s) _ = _ := hwrite
    have hclosed : respond sys a.outcomes (.closeFile (sys.tempFile e.file)) _ = _ := hclose
    rw [System.write_eq, Program.exec_call, hcreated]
    simp only [Option.bind_some, if_true, Program.exec_call, hwritten, hclosed]
    by_cases hboth : a.write = .whole ∧ a.close = .whole
    · obtain rfl : c₃ = s := (hc₃ hboth.2).trans (hc₂ hboth.1)
      cases hrename : a.rename with
      | false =>
        refine ⟨v₃, ?_, by simpa [Attempt.writes, hrename] using h₃.toWritten⟩
        simp [hboth, respond, Attempt.outcomes, Attempt.writes, hrename, answer]
      | true =>
        obtain ⟨u, hu, hwu⟩ := h₃.rename
        have hrenamed : respond sys a.outcomes (.rename (sys.tempFile e.file) (sys.chroot ++ e.file)) v₃ = some (0, u) := by
          simpa [respond, Attempt.outcomes, hrename] using hu
        exact ⟨u, by simp [hboth, Attempt.writes, hcreate, hrename, hrenamed],
          by simpa [Attempt.writes, hcreate, hboth, hrename] using hwu⟩
    · have hnot : a.writes = false := by
        by_contra hw
        simp only [Bool.not_eq_false, Attempt.writes, Bool.and_eq_true, decide_eq_true_eq] at hw
        exact hboth ⟨hw.1.1.2, hw.1.2⟩
      have hflags : (decide (a.write = .whole) && decide (a.close = .whole)) = false := by
        simpa [Bool.and_eq_false_iff] using fun h₁ h₂ => hboth ⟨h₁, h₂⟩
      exact ⟨v₃, by simp [hflags, hnot], by simpa [hnot] using h₃.toWritten⟩

section serving

variable {f : (c : Call) → World → Option (c.Reply × World)}

def Readable (sys : System) (f : (c : Call) → World → Option (c.Reply × World)) : Prop :=
  ∀ p x, f (.readFile p) x = answer sys (.readFile p) .done x

lemma exec_read {c : Bytes} (hf : Readable sys f) (hn : nodeAt sys w e = some (.file c)) :
    (sys.read e.file).exec f w = some (if c = [] then none else some c, w) := by
  have hread : f (.readFile (sys.chroot ++ e.file)) w = some (some c, w) := by
    rw [hf, answer, content_file hn]
  rw [System.read, ask_bind, Program.exec_call, hread]
  by_cases hc : c = [] <;> simp [hc, Option.filter]

lemma exec_get {c : Bytes} (hf : Readable sys f) (hn : nodeAt sys w e = some (.file c)) (b : Body) :
    (WifiConfig.get sys e.file b).exec f w =
      some (if c = [] then Resource.internalServerError (bytes "Error: failed to read config")
        else Resource.ok (some (report sys c)), w) := by
  rw [WifiConfig.get, contents, Program.exec_bind, exec_read hf hn]
  by_cases hc : c = [] <;> simp [hc]

lemma exec_sha256 {c : Bytes} (hf : Readable sys f) (hn : nodeAt sys w e = some (.file c)) :
    (sha256 sys e.file).exec f w = some (if c = [] then none else some (sha256Hex sys c), w) := by
  rw [sha256, contents, Program.exec_bind, exec_read hf hn]
  by_cases hc : c = [] <;> simp [hc]

variable (sys) in
def storeUnless (same : Prop) [Decidable same] (file s : Bytes) : Prog Bool :=
  if same then return true else do
    let written ← sys.write file s
    if written then
      let _ ← sys.execute COMMAND_RELOAD_CONNMAN
      return true
    else
      return false

lemma setContents_eq (file s : Bytes) : setContents sys file s =
    sha256 sys file >>= fun hash => deref hash >>= fun t => storeUnless sys (sha256Hex sys s = t) file s := rfl

-- What a PUT compares the hash of its contents with, where the file holds `c`.
def compared (sys : System) (a : Attempt) (c : Bytes) : Option Bytes := if c = [] then a.stale else some (sha256Hex sys c)

lemma compared_of_ne {c : Bytes} (hc : c ≠ []) : compared sys a c = some (sha256Hex sys c) := if_neg hc

def Derefs (a : Attempt) (f : (c : Call) → World → Option (c.Reply × World)) : Prop :=
  ∀ x, f .emptyOptional x = a.stale.map fun s => (s, x)

lemma derefs_outcomes (sys : System) (a : Attempt) : Derefs a (respond sys a.outcomes) := by
  intro x
  rw [respond, Attempt.outcomes]
  cases a.stale <;> rfl

lemma exec_setContents {c : Bytes} (hf : Readable sys f) (hd : Derefs a f) (hn : nodeAt sys w e = some (.file c)) (s : Bytes) :
    (setContents sys e.file s).exec f w =
      (compared sys a c).bind fun t => (storeUnless sys (sha256Hex sys s = t) e.file s).exec f w := by
  rw [setContents_eq, Program.exec_bind, exec_sha256 hf hn, Option.bind_some, Program.exec_bind, compared]
  split_ifs
  · have hstale : (deref none).exec f w = a.stale.map fun s => (s, w) := by
      have hcall := hd w
      rw [deref, Captived.ask, Program.perform, Program.exec_call, hcall]
      cases a.stale <;> rfl
    rw [hstale]
    cases a.stale <;> rfl
  · rfl

def putContents (sys : System) (e : Endpoint) (s : Bytes) : Prog Resp := do
  let done ← setContents sys e.file s
  if !done then
    return Resource.internalServerError (bytes "Error: failed to update config")
  else
    WifiConfig.get sys e.file (some .null)

lemma put_eq (e : Endpoint) (u : Upload) :
    (e.resource sys).put (some (.object u.members)) = putContents sys e u.contents.val := by
  have hput : (e.resource sys).put = WifiConfig.put sys e.file := by cases e <;> rfl
  rw [hput, WifiConfig.put, putContents]
  simp only [u.contents_eq]

lemma exec_reload (sys : System) (a : Attempt) (w : World) :
    ∃ v, (sys.execute COMMAND_RELOAD_CONNMAN).exec (respond sys a.outcomes) w = some (a.reload, v) ∧
      v.files = w.files ∧ v.loaded = if a.reload = 0 then w.files else w.loaded := by
  have hne : sys.chroot ++ COMMAND_RELOAD_CONNMAN ≠ sys.chroot ++ COMMAND_MENDER_COMMIT := by
    rw [ne_eq, List.append_cancel_left_eq]
    decide
  by_cases h0 : a.reload = 0
  · refine ⟨{ w.raise with loaded := w.files }, ?_, rfl, by rw [if_pos h0]⟩
    simp [System.execute, Captived.ask, Program.perform, respond, Attempt.outcomes, answer, answerShell, h0, hne]
  · refine ⟨w.raise, ?_, rfl, by rw [if_neg h0]; rfl⟩
    simp [System.execute, Captived.ask, Program.perform, respond, Attempt.outcomes, answer, answerShell, h0]

def readBack (sys : System) (c : Bytes) : Resp :=
  if c = [] then Resource.internalServerError (bytes "Error: failed to read config")
  else Resource.ok (some (report sys c))

@[simp] lemma readBack_empty : readBack sys [] = Resource.internalServerError (bytes "Error: failed to read config") := rfl

lemma readBack_of_ne {c : Bytes} (hc : c ≠ []) : readBack sys c = Resource.ok (some (report sys c)) := if_neg hc

inductive Put (sys : System) (w : World) (e : Endpoint) (a : Attempt) (c t s : Bytes) : Resp → World → Prop
  | same : sha256Hex sys s = t → Put sys w e a c t s (readBack sys c) w
  | stored {x : World} : sha256Hex sys s ≠ t → a.writes = true → nodeAt sys x e = some (.file s) →
      (∀ f, f ≠ e → nodeAt sys x f = nodeAt sys w f) → x.loaded = (if a.reload = 0 then x.files else w.loaded) →
      Unlinked sys x → Put sys w e a c t s (readBack sys s) x
  | failed {x : World} : sha256Hex sys s ≠ t → a.writes = false → Written sys w e (nodeAt sys w e) x →
      Put sys w e a c t s (Resource.internalServerError (bytes "Error: failed to update config")) x

lemma serve_put {c t : Bytes} (u : Upload) (hw : Unlinked sys w) (hn : nodeAt sys w e = some (.file c))
    (ht : compared sys a c = some t) :
    ∃ resp v, serve sys (.put e u a) w = some (resp, v) ∧ Put sys w e a c t u.contents.val resp v := by
  have hf : Readable sys (respond sys a.outcomes) := fun _ _ => rfl
  rw [serve, put_eq, putContents, Program.exec_bind, exec_setContents hf (derefs_outcomes sys a) hn, ht, Option.bind_some]
  by_cases hsame : sha256Hex sys u.contents.val = t
  · refine ⟨_, w, ?_, .same hsame⟩
    simp [storeUnless, hsame, exec_get hf hn, readBack]
  · obtain ⟨v, hv, hwritten⟩ := exec_write hw e a u.contents.val
    cases hwrites : a.writes with
    | false =>
      refine ⟨_, v, ?_, .failed hsame hwrites (by simpa [hwrites] using hwritten)⟩
      simp [storeUnless, hsame, Program.exec_bind, hv, hwrites]
    | true =>
      obtain ⟨x, hx, hfiles, hloaded⟩ := exec_reload sys a v
      rw [hwrites, if_pos rfl] at hwritten
      have hnode : nodeAt sys x e = some (.file u.contents.val) := (congrFun hfiles _).trans hwritten.node
      refine ⟨_, x, ?_, .stored hsame hwrites hnode (fun f hf => (congrFun hfiles _).trans (hwritten.other f hf)) ?_ ?_⟩
      · simp [storeUnless, hsame, Program.exec_bind, hv, hwrites, hx, exec_get hf hnode, readBack]
      · rw [hloaded, hfiles, hwritten.loaded]
      · exact fun f => (congrFun hfiles _).symm ▸ hwritten.unlinked f

lemma serve_put_none {c : Bytes} (u : Upload) (hn : nodeAt sys w e = some (.file c)) (ht : compared sys a c = none) :
    serve sys (.put e u a) w = none := by
  rw [serve, put_eq, putContents, Program.exec_bind, exec_setContents (fun _ _ => rfl) (derefs_outcomes sys a) hn, ht]
  rfl

lemma serve_get {c : Bytes} (hn : nodeAt sys w e = some (.file c)) (hc : c ≠ []) :
    serve sys (.get e) w = some (Resource.ok (some (report sys c)), w) := by
  have hget : (e.resource sys).get = WifiConfig.get sys e.file := by cases e <;> rfl
  rw [serve, hget, exec_get (fun _ _ => rfl) hn, if_neg hc]

end serving

end RouterCard.Captived.WifiStore
