import RouterCard.Captived.Handlers
import RouterCard.Captived.WifiLaw

namespace RouterCard.Captived.MissingHash

open Text Interaction WifiConfig WifiStore

variable (sys : System)

def uri (e : Endpoint) : Bytes := (e.resource sys).path

abbrev Config (sys : System) := (daemon sys).Config

abbrev Label (sys : System) := (daemon sys).Label

def IsConfigRequest (sys : System) : Request → Prop
  | .http .get _ _ => True
  | .http .put path _ => ∃ e, path = uri sys e
  | _ => False

variable {sys} {c d : Config sys} {ls : List (Label sys)} {e : Endpoint}

-- `d` serves a PUT with a JSON string for the contents and is about to read the file for its hash.
def Hashes (d : Config sys) (e : Endpoint) : Prop :=
  ∃ u : Upload, ∃ rest, d.thread = some ⟨.http .put (uri sys e) (some (.object u.members)), [], rest⟩

def HashMissing (d : Config sys) : Prop := d.nextCall = some .emptyOptional

def Hashless (k : Call) : Prop := k ≠ .emptyOptional

lemma handler_put (e : Endpoint) (b : Body) :
    handler sys (.http .put (uri sys e) b) = some <$> WifiConfig.put sys e.file b := by
  cases e <;> rfl

lemma calls_write (file s : Bytes) : (sys.write file s).Calls Hashless := by
  rw [System.write_eq]
  refine ⟨nofun, fun opened : Bool => ?_⟩
  cases opened with
  | false => trivial
  | true =>
    refine ⟨nofun, fun written : Bool => ⟨nofun, fun closed : Bool => ?_⟩⟩
    dsimp only
    split_ifs
    · exact ⟨nofun, fun _ => trivial⟩
    · trivial

lemma calls_read (file : Bytes) : (sys.read file).Calls Hashless := ⟨nofun, fun _ => trivial⟩

lemma calls_get (file : Bytes) (b : Body) : (WifiConfig.get sys file b).Calls Hashless := by
  refine (calls_read file).bind fun buf : Option Bytes => ?_
  cases buf <;> trivial

lemma setContents_call (file s : Bytes) : setContents sys file s = .call (S := calls) (.readFile (sys.chroot ++ file))
    fun buf => match buf.filter (· ≠ []) with
      | none => .call (S := calls) .emptyOptional fun t => storeUnless sys (sha256Hex sys s = t) file s
      | some t => storeUnless sys (sha256Hex sys s = sha256Hex sys t) file s := by
  rw [setContents_eq]
  refine congrArg (Program.call (S := calls) (.readFile _)) (funext fun buf : Option Bytes => ?_)
  dsimp only [Program.pure_eq]
  change (Program.done ((buf.filter (· ≠ [])).map (sha256Hex sys)) >>= _) = _
  rw [Program.done_bind]
  cases buf.filter (· ≠ []) <;> rfl

lemma calls_storeUnless (same : Prop) [Decidable same] (file s : Bytes) : (storeUnless sys same file s).Calls Hashless := by
  unfold storeUnless
  split_ifs
  · trivial
  · refine (calls_write file s).bind fun written => ?_
    split_ifs
    · exact ⟨nofun, fun _ => trivial⟩
    · trivial

variable (sys) in
lemma handler_upload (e : Endpoint) (u : Upload) :
    ∃ next, handler sys (.http .put (uri sys e) (some (.object u.members))) =
      .call (S := calls) (.readFile (sys.chroot ++ e.file)) next ∧
      (∀ buf, buf = none ∨ buf = some [] → ∃ after, next buf = .call (S := calls) .emptyOptional after) ∧
      ∀ t, t ≠ [] → (next (some t)).Calls Hashless := by
  have hput : handler sys (.http .put (uri sys e) (some (.object u.members))) =
      putContents sys e u.contents.val >>= fun resp => .done (some resp) := by
    rw [handler_put, ← put_eq]
    cases e <;> rfl
  rw [putContents, setContents_call, Program.call_bind, Program.call_bind] at hput
  refine ⟨_, hput, ?_, fun t ht => ?_⟩
  · rintro buf (rfl | rfl) <;> exact ⟨_, rfl⟩
  · have hfilter : (some t).filter (· ≠ []) = some t := by simp [ht]
    simp only [hfilter]
    refine Program.Calls.bind ((calls_storeUnless _ _ _).bind fun ok => ?_) fun resp => trivial
    split_ifs
    · trivial
    · exact calls_get _ _

lemma calls_getRequest (path : Bytes) (b : Body) : (handler sys (.http .get path b)).Calls Hashless := by
  refine (built_reads.getRequest (fun _ h => h.reads) path b).all_calls (fun k hk => ?_) fun k hk => ?_
  · rintro rfl
    exact hk
  · rintro rfl
    exact hk

lemma handler_config {r : Request} (hr : IsConfigRequest sys r) : (handler sys r).Calls Hashless ∨
    ∃ e, ∃ u : Upload, r = .http .put (uri sys e) (some (.object u.members)) := by
  unfold IsConfigRequest at hr
  split at hr
  · exact .inl (calls_getRequest _ _)
  · next path b =>
    obtain ⟨e, rfl⟩ := hr
    rw [handler_put]
    unfold WifiConfig.put
    split
    · next ms =>
      cases hm : Json.objectGet (.object ms) (bytes "contents") with
      | none => exact .inl trivial
      | some j =>
        cases j with
        | string s => exact .inr ⟨e, ⟨ms, s, hm⟩, rfl⟩
        | _ => exact .inl trivial
    · exact .inl trivial
  · exact hr.elim

-- Either no missing hash can be met any more, or the PUT has yet to read the file.
def Unhashed (d : Config sys) : Prop :=
  ∀ th, d.thread = some th → th.rest.Calls Hashless ∨
    ∃ e, ∃ u : Upload, th.request = .http .put (uri sys e) (some (.object u.members)) ∧ th.trace = [] ∧
      th.rest = handler sys th.request

lemma Unhashed.not_missing (h : Unhashed d) : ¬ HashMissing d := by
  intro hmissing
  obtain ⟨r, t, next, hth⟩ := Server.Config.thread_of_nextCall hmissing
  rcases h _ hth with hcalls | ⟨e, u, hr, -, hrest⟩
  · exact hcalls.1 rfl
  · obtain ⟨after, hafter, -⟩ := handler_upload sys e u
    dsimp only at hr hrest
    rw [hr, hafter] at hrest
    cases hrest

def Readable (sys : System) (w : World) (o : Outcome) (e : Endpoint) : Prop :=
  o = .done ∧ ∃ t, t ≠ [] ∧ w.content (sys.chroot ++ e.file) = some t

lemma hashes_step {o : Outcome} (hc : Hashes c e)
    (hfresh : ∀ th, c.thread = some th → th.trace = [] → th.rest = handler sys th.request) (h : c.step (.move (.answer o)) = some d) :
    (Readable sys c.world o e ∧ ∀ th, d.thread = some th → th.rest.Calls Hashless) ∨
      (¬ Readable sys c.world o e ∧ HashMissing d) := by
  obtain ⟨u, rest, hth⟩ := hc
  obtain ⟨next, hnext, hnone, hsome⟩ := handler_upload sys e u
  obtain rfl : rest = .call (.readFile (sys.chroot ++ e.file)) next := (hfresh _ hth rfl).trans hnext
  obtain ⟨r, k, q, next', x, w, hth', ha, rfl⟩ := Server.Config.step_answer h
  rw [hth] at hth'
  cases hth'
  obtain ⟨-, hx⟩ := answer_readFile ha
  by_cases hmiss : x = none ∨ x = some []
  · refine .inr ⟨?_, ?_⟩
    · rintro ⟨rfl, t, ht, hn⟩
      obtain rfl : x = some t := by
        rcases hx with ⟨ho, -⟩ | ⟨-, rfl⟩
        · exact absurd rfl ho
        · exact hn
      simp [ht] at hmiss
    · obtain ⟨after, hafter⟩ := hnone x hmiss
      rw [HashMissing, Server.Config.nextCall]
      dsimp only
      rw [hafter]
  · rw [not_or] at hmiss
    rcases hx with ⟨-, rfl⟩ | ⟨rfl, hx⟩
    · exact absurd rfl hmiss.1
    · obtain ⟨t, rfl⟩ := Option.ne_none_iff_exists'.mp hmiss.1
      have ht : t ≠ [] := fun h => hmiss.2 (congrArg some h)
      refine .inl ⟨⟨rfl, t, ht, hx.symm⟩, fun th hd => ?_⟩
      obtain rfl := Option.some.inj hd
      exact hsome t ht

lemma Unhashed.step {l : Label sys} (hc : Unhashed c)
    (hfresh : ∀ th, c.thread = some th → th.trace = [] → th.rest = handler sys th.request)
    (hl : ∀ r, l = .start r → IsConfigRequest sys r)
    (hok : ∀ o e, l = .move (.answer o) → Hashes c e → Readable sys c.world o e) (h : c.step l = some d) : Unhashed d := by
  intro th hd
  cases l with
  | start r =>
    obtain ⟨-, w, -, rfl⟩ := Server.Config.step_start h
    obtain rfl := Option.some.inj hd
    rcases handler_config (hl r rfl) with hcalls | ⟨e, u, rfl⟩
    · exact .inl hcalls
    · exact .inr ⟨e, u, rfl, rfl, rfl⟩
  | finish =>
    obtain ⟨r, k, a, -, rfl⟩ := Server.Config.step_finish h
    cases hd
  | move m =>
    cases m with
    | act a =>
      obtain ⟨w, -, rfl⟩ := Server.Config.step_act h
      exact hc th hd
    | answer o =>
      obtain ⟨r, k, q, next, x, w, hth, -, hd'⟩ := Server.Config.step_answer h
      rcases hc _ hth with hcalls | ⟨e, u, hr, htrace, -⟩
      · rw [hd'] at hd
        obtain rfl := Option.some.inj hd
        exact .inl (hcalls.2 x)
      · dsimp only at hr htrace
        subst hr htrace
        have hhash : Hashes c e := ⟨u, _, hth⟩
        rcases hashes_step hhash hfresh h with ⟨-, hcalls⟩ | ⟨hnot, -⟩
        · exact .inl (hcalls th hd)
        · exact absurd (hok o e rfl hhash) hnot

theorem hash_present_iff (hc : c.thread = none) (hls : ∀ r, .start r ∈ ls → IsConfigRequest sys r) (hrun : c.run ls = some d) :
    (∀ f, c.Visits ls f → ¬ HashMissing f) ↔
      ∀ f o e, c.Takes ls f (.move (.answer o)) → Hashes f e → Readable sys f.world o e := by
  have hfresh : ∀ f, c.Visits ls f → ∀ th, f.thread = some th → th.trace = [] → th.rest = handler sys th.request :=
    fun f hf => hf.fresh hc
  have hvisit : ∀ f l, c.Takes ls f l → c.Visits ls f := fun f l ⟨pre, post, hsplit, hf⟩ => ⟨pre, l :: post, hsplit, hf⟩
  constructor
  · intro hnever f o e htake hhash
    obtain ⟨g, hg, hvg⟩ := htake.step hrun
    rcases hashes_step hhash (hfresh f (hvisit f _ htake)) hg with ⟨hread, -⟩ | ⟨-, hmissing⟩
    · exact hread
    · exact absurd hmissing (hnever g hvg)
  · intro hread f hf
    have hinit : Unhashed c := by
      intro th hth
      rw [hc] at hth
      cases hth
    refine Unhashed.not_missing (hf.invariant hinit fun f g l htake hu hstep => ?_)
    refine hu.step (hfresh f (hvisit f l htake)) ?_ ?_ hstep
    · rintro r rfl
      obtain ⟨pre, post, rfl, -⟩ := htake
      exact hls r (by simp)
    · rintro o e rfl hhash
      exact hread f o e htake hhash

section samples

def putting (s : JsonText) : Request := .http .put (uri hashing .passthrough) (some (.object (upload s).members))

lemma isConfigRequest_putting (s : JsonText) : IsConfigRequest hashing (putting s) := ⟨.passthrough, rfl⟩

def reading : List (Label hashing) :=
  [.start (.http .get (uri hashing .passthrough) none), .move (.answer .done), .finish,
    .start (putting ⟨bytes "a", by decide⟩), .move (.answer .done)]

def emptied : List (Label hashing) :=
  .start (putting ⟨bytes "", by decide⟩) :: List.replicate 7 (.move (.answer .done)) ++
    [.finish, .start (putting ⟨bytes "c", by decide⟩), .move (.answer .done)]

theorem hash_present_iff_same :
    (∀ f, (Server.Config.idle (V := daemon hashing) configured).Visits reading f → ¬ HashMissing f) ↔
      ∀ f o e, (Server.Config.idle (V := daemon hashing) configured).Takes reading f (.move (.answer o)) → Hashes f e →
        Readable hashing f.world o e := by
  refine hash_present_iff rfl (fun r hr => ?_) rfl
  simp only [reading, List.mem_cons, Server.Label.start.injEq, reduceCtorEq, List.not_mem_nil, or_false, false_or] at hr
  rcases hr with rfl | rfl
  · trivial
  · exact isConfigRequest_putting _

theorem hash_missing_after_empty_put :
    (∃ e, contentsOf (nodeAt hashing configured e) = some (bytes "a")) ∧
    (∀ r, .start r ∈ emptied → IsConfigRequest hashing r) ∧
    ∃ d, (Server.Config.idle (V := daemon hashing) configured).run emptied = some d ∧ HashMissing d := by
  refine ⟨⟨.passthrough, rfl⟩, fun r hr => ?_, _, rfl, rfl⟩
  simp only [emptied, List.mem_cons, List.cons_append, List.mem_append, List.mem_replicate, Server.Label.start.injEq, reduceCtorEq,
    List.not_mem_nil, or_false, false_or, and_false] at hr
  rcases hr with rfl | rfl
  · exact isConfigRequest_putting _
  · exact isConfigRequest_putting _

end samples

end RouterCard.Captived.MissingHash
