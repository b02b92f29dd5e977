import RouterCard.Captived.Answers
import RouterCard.Interaction.Crash

namespace RouterCard.Captived.AtomicWrite

open Text Interaction

variable (sys : System)

structure Write where
  filename : Bytes
  contents : Bytes

def Write.target (r : Write) : Bytes := sys.chroot ++ r.filename

def Write.temp (r : Write) : Bytes := sys.tempFile r.filename

abbrev writer : Server calls (host sys) where
  Request := Write
  Response := Bool
  handler r := sys.write r.filename r.contents
  accept _ w := some w

section points

inductive Point where
  | begun
  | opened
  | written
  | spoiled (x : Bytes)
  | closed
  | renamed
  | refused
  | broken (x : Bytes)
  deriving DecidableEq

namespace Point

variable (r : Write)

def files (F : Files) : Point → Files
  | begun | refused => F
  | opened => Function.update F (r.temp sys) (some (.file []))
  | written | closed => Function.update F (r.temp sys) (some (.file r.contents))
  | spoiled x | broken x => Function.update F (r.temp sys) (some (.file x))
  | renamed => Function.update (Function.update F (r.temp sys) none) (r.target sys) (some (.file r.contents))

def afterClose : Prog Bool := .call (S := calls) (.rename (r.temp sys) (r.target sys)) fun res => .done (decide (res = 0))

def afterWrite (written : Bool) : Prog Bool :=
  .call (S := calls) (.closeFile (r.temp sys)) fun closed =>
    if (written && closed) = true then afterClose sys r else .done false

def rest : Point → Prog Bool
  | begun => sys.write r.filename r.contents
  | opened => .call (S := calls) (.writeFile (r.temp sys) r.contents) (afterWrite sys r)
  | written => afterWrite sys r true
  | spoiled _ => afterWrite sys r false
  | closed => afterClose sys r
  | renamed => .done true
  | refused | broken _ => .done false

def verdict : Point → Option Bool
  | renamed => some true
  | refused | broken _ => some false
  | _ => none

def next : Point → Outcome → Option Point
  | begun, .done => some opened
  | begun, .failed _ => some refused
  | opened, .done => some written
  | opened, .partly n => some (spoiled (r.contents.take n))
  | opened, .failed _ => some (spoiled [])
  | written, .done => some closed
  | written, .partly n => some (broken (r.contents.take n))
  | written, .failed _ => some (broken r.contents)
  | spoiled x, .done | spoiled x, .failed _ => some (broken x)
  | spoiled x, .partly n => some (broken (x.take n))
  | closed, .done => some renamed
  | closed, .failed _ => some (broken r.contents)
  | _, _ => none

end Point

end points

variable {sys} {r : Write} {F : Files} {p q : Point} {o : Outcome} {w : World} {tr : Trace calls}

lemma rest_begun : Point.begun.rest sys r = .call (S := calls) (.createFile (r.temp sys)) fun opened =>
    if opened = true then Point.opened.rest sys r else .done false := System.write_eq sys r.filename r.contents

lemma move_none (hn : p.next r o = none) :
    (⟨tr, p.rest sys r, w⟩ : Session (host sys) Bool).move (.answer o) = none := by
  cases p with
  | begun =>
    rw [rest_begun]
    cases o <;> simp [Point.next] at hn <;> rfl
  | opened => cases o <;> simp [Point.next] at hn <;> rfl
  | written => cases o <;> simp [Point.next] at hn <;> rfl
  | spoiled x => cases o <;> simp [Point.next] at hn <;> rfl
  | closed => cases o <;> simp [Point.next] at hn <;> rfl
  | renamed | refused | broken => rfl

lemma moved {k : Call} {next : k.Reply → Prog Bool} {x : k.Reply} {v : World} (ha : answer sys k o w = some (x, v))
    (hrest : next x = q.rest sys r) (hv : v = { w with files := q.files sys r F }) :
    ∃ tr', (⟨tr, .call (S := calls) k next, w⟩ : Session (host sys) Bool).move (.answer o) =
      some ⟨tr', q.rest sys r, { w with files := q.files sys r F }⟩ :=
  ⟨_, by rw [Session.move_call ha, hrest, hv]⟩

lemma refiled {G : Files} (hw : w.files = G) (path : Bytes) (n : Option Node) :
    w.setFile path n = { w with files := Function.update G path n } := by
  rw [World.setFile, hw]

lemma rewritten {n : Option Node} (hw : w.files = Function.update F (r.temp sys) n) (m : Option Node) :
    w.setFile (r.temp sys) m = { w with files := Function.update F (r.temp sys) m } := by
  rw [refiled hw, Function.update_idem]

lemma file_temp {x : Bytes} (hw : w.files = Function.update F (r.temp sys) (some (.file x))) :
    w.files (r.temp sys) = some (.file x) := by
  rw [hw, Function.update_self]

lemma same_files {G : Files} (hw : w.files = G) : w = { w with files := G } := hw ▸ rfl

lemma amended {x : Bytes} (hw : w.files = Function.update F (r.temp sys) (some (.file x))) (f : Bytes → Bytes) :
    w.amend (r.temp sys) f = { w with files := Function.update F (r.temp sys) (some (.file (f x))) } := by
  rw [amend_file (file_temp hw), rewritten hw]

lemma move_some (hF : Regular (F (r.temp sys))) (hw : w.files = p.files sys r F) (hn : p.next r o = some q) :
    ∃ tr', (⟨tr, p.rest sys r, w⟩ : Session (host sys) Bool).move (.answer o) =
      some ⟨tr', q.rest sys r, { w with files := q.files sys r F }⟩ := by
  cases p with
  | begun =>
    rw [rest_begun]
    cases o with
    | done =>
      obtain rfl := Option.some.inj hn
      have hplain : Regular (w.files (r.temp sys)) := (congrFun hw _).symm ▸ hF
      exact moved (congrArg some (create_plain hplain)) rfl (refiled hw _ _)
    | failed e =>
      obtain rfl := Option.some.inj hn
      exact moved rfl rfl (same_files hw)
    | _ => simp [Point.next] at hn
  | opened =>
    cases o with
    | done =>
      obtain rfl := Option.some.inj hn
      exact moved rfl rfl (amended hw _)
    | partly n =>
      obtain rfl := Option.some.inj hn
      exact moved rfl rfl (amended hw _)
    | failed e =>
      obtain rfl := Option.some.inj hn
      exact moved rfl rfl (same_files hw)
    | _ => simp [Point.next] at hn
  | written =>
    cases o with
    | done =>
      obtain rfl := Option.some.inj hn
      exact moved rfl rfl (same_files hw)
    | partly n =>
      obtain rfl := Option.some.inj hn
      exact moved rfl rfl (amended hw _)
    | failed e =>
      obtain rfl := Option.some.inj hn
      exact moved rfl rfl (same_files hw)
    | _ => simp [Point.next] at hn
  | spoiled x =>
    cases o with
    | done =>
      obtain rfl := Option.some.inj hn
      exact moved rfl rfl (same_files hw)
    | partly n =>
      obtain rfl := Option.some.inj hn
      exact moved rfl rfl (amended hw _)
    | failed e =>
      obtain rfl := Option.some.inj hn
      exact moved rfl rfl (same_files hw)
    | _ => simp [Point.next] at hn
  | closed =>
    cases o with
    | done =>
      obtain rfl := Option.some.inj hn
      have htemp : w.files (r.temp sys) = some (.file r.contents) := file_temp hw
      have ha : answer sys (.rename (r.temp sys) (r.target sys)) .done w =
          some (0, (w.setFile (r.temp sys) none).setFile (r.target sys) (some (.file r.contents))) := by
        rw [answer, htemp, Option.map_some]
      exact moved ha rfl (by rw [rewritten hw]; exact refiled rfl _ _)
    | failed e =>
      obtain rfl := Option.some.inj hn
      exact moved rfl rfl (same_files hw)
    | _ => simp [Point.next] at hn
  | renamed | refused | broken => cases o <;> simp [Point.next] at hn

lemma files_agree {F' : Files} {path : Bytes} (h : F' path = F path) (p : Point) :
    p.files sys r F' path = p.files sys r F path := by
  have hupdate : ∀ G G' : Files, G' path = G path → ∀ name n, Function.update G' name n path = Function.update G name n path := by
    intro G G' hG name n
    simp only [Function.update_apply, hG]
  cases p with
  | begun | refused => exact h
  | opened | written | spoiled | closed | broken => exact hupdate _ _ h _ _
  | renamed => exact hupdate _ _ (hupdate _ _ h _ _) _ _

lemma files_other {path : Bytes} (htemp : r.temp sys ≠ path) (htarget : r.target sys ≠ path) (p : Point) :
    p.files sys r F path = F path := by
  cases p with
  | begun | refused => rfl
  | opened | written | spoiled | closed | broken => exact Function.update_of_ne htemp.symm _ _
  | renamed => exact (Function.update_of_ne htarget.symm _ _).trans (Function.update_of_ne htemp.symm _ _)

lemma update_plain {path name : Bytes} {n : Option Node} (h : Regular (F path)) (hn : Regular n) :
    Regular (Function.update F name n path) := by
  rw [Function.update_apply]
  split_ifs
  · exact hn
  · exact h

lemma files_plain {path : Bytes} (h : Regular (F path)) (p : Point) : Regular (p.files sys r F path) := by
  cases p with
  | begun | refused => exact h
  | opened | written | spoiled | closed | broken => exact update_plain h (.inr ⟨_, rfl⟩)
  | renamed => exact update_plain (update_plain h (.inl rfl)) (.inr ⟨_, rfl⟩)

lemma target_ne_temp : r.target sys ≠ r.temp sys := by
  intro h
  have hlen := congrArg List.length h
  simp [Write.target, Write.temp, System.tempFile, bytes] at hlen

lemma files_target (p : Point) :
    p.files sys r F (r.target sys) = if p = .renamed then some (.file r.contents) else F (r.target sys) := by
  cases p with
  | begun | refused => rfl
  | opened | written | spoiled | closed | broken => exact Function.update_of_ne target_ne_temp _ _
  | renamed => exact Function.update_self ..

lemma verdict_rest {b : Bool} (h : p.verdict = some b) : p.rest sys r = .done b := by
  cases p with
  | begun | opened | written | spoiled | closed => cases h
  | renamed | refused | broken =>
    obtain rfl := Option.some.inj h
    rfl

lemma rest_verdict {b : Bool} (h : p.rest sys r = .done b) : p.verdict = some b := by
  cases p with
  | begun =>
    rw [rest_begun] at h
    cases h
  | opened | written | spoiled | closed => cases h
  | renamed | refused | broken =>
    obtain rfl := Program.done.inj h
    rfl

lemma renamed_of_verdict {b : Bool} (h : p.verdict = some b) : b = true ↔ p = .renamed := by
  cases p with
  | begun | opened | written | spoiled | closed => cases h
  | renamed => exact iff_of_true (Option.some.inj h).symm rfl
  | refused | broken => exact iff_of_false (by rw [← Option.some.inj h]; exact Bool.false_ne_true) nofun

lemma act_refiled {a : Act} {v : World} (h : act a w = some v) (G : Files) :
    act a { w with files := G } = some { v with files := G } := by
  cases a with
  | write pid | exit pid how | dropSigchld =>
    simp only [act, Option.ite_none_right_eq_some] at h ⊢
    obtain ⟨hf, h⟩ := h
    obtain rfl := Option.some.inj h
    exact ⟨hf, rfl⟩
  | sigchld | setBootcount | setEnv =>
    obtain rfl := Option.some.inj h
    rfl

inductive Standing (sys : System) (w : World) : Option (Write × Point) → (writer sys).Config → Prop
  | idle {log} : Standing sys w none ⟨w, none, log⟩
  | busy {r : Write} {tr : Trace calls} {p : Point} {log} :
    Standing sys w (some (r, p)) ⟨{ w with files := p.files sys r w.files }, some ⟨r, tr, p.rest sys r⟩, log⟩

def settled (sys : System) (w : World) : Option (Write × Point) → World
  | none => w
  | some (r, p) => { w with files := p.files sys r w.files }

def advance (sys : System) (w : World) :
    Option (Write × Point) → Option (writer sys).Label → Option (World × Option (Write × Point) × List (Write × Bool))
  | x, none => some (settled sys w x, none, [])
  | x, some (.move (.act a)) => (act a w).map fun v => (v, x, [])
  | none, some (.start r) => some (w, some (r, .begun), [])
  | some (r, p), some (.move (.answer o)) => (p.next r o).map fun q => (w, some (r, q), [])
  | some (r, p), some .finish => p.verdict.map fun b => (settled sys w (some (r, p)), none, [(r, b)])
  | _, _ => none

variable {c d : (writer sys).Config} {x y : Option (Write × Point)} {v : World} {new : List (Write × Bool)}
  {l : Option (writer sys).Label}

lemma act_none {a : Act} (h : act a w = none) (G : Files) : act a { w with files := G } = none := by
  rcases hv : act a { w with files := G } with _ | v
  · rfl
  · have hback := act_refiled hv w.files
    change act a w = _ at hback
    rw [h] at hback
    cases hback

lemma advance_act (a : Act) : advance sys w x (some (.move (.act a))) = (act a w).map fun v => (v, x, []) := by
  cases x <;> rfl

-- No temporary name is a link, or anything else than a regular file.
def Unlinked (sys : System) (F : Files) : Prop := ∀ name, Regular (F (sys.tempFile name))

inductive Advanced (sys : System) (w : World) :
    Option (Write × Point) → Option (writer sys).Label → World → Option (Write × Point) → List (Write × Bool) → Prop
  | kill {x : Option (Write × Point)} : Advanced sys w x none (settled sys w x) none []
  | start {r : Write} : Advanced sys w none (some (.start r)) w (some (r, .begun)) []
  | act {x : Option (Write × Point)} {a : Act} {v : World} : act a w = some v →
    Advanced sys w x (some (.move (.act a))) v x []
  | answer {r : Write} {p q : Point} {o : Outcome} : p.next r o = some q →
    Advanced sys w (some (r, p)) (some (.move (.answer o))) w (some (r, q)) []
  | finish {r : Write} {p : Point} {b : Bool} : p.verdict = some b →
    Advanced sys w (some (r, p)) (some .finish) (settled sys w (some (r, p))) none [(r, b)]

lemma advance_some (ha : advance sys w x l = some (v, y, new)) : Advanced sys w x l v y new := by
  cases l with
  | none =>
    obtain ⟨rfl, rfl, rfl⟩ := by simpa [advance] using ha
    exact .kill
  | some l =>
    cases l with
    | start r =>
      cases x with
      | none =>
        obtain ⟨rfl, rfl, rfl⟩ := by simpa [advance] using ha
        exact .start
      | some rp => cases ha
    | finish =>
      cases x with
      | none => cases ha
      | some rp =>
        obtain ⟨b, hb, ha⟩ := Option.map_eq_some_iff.mp ha
        obtain ⟨rfl, rfl, rfl⟩ := by simpa using ha
        exact .finish hb
    | move m =>
      cases m with
      | act a =>
        rw [advance_act] at ha
        obtain ⟨u, hu, ha⟩ := Option.map_eq_some_iff.mp ha
        obtain ⟨rfl, rfl, rfl⟩ := by simpa using ha
        exact .act hu
      | answer o =>
        cases x with
        | none => cases ha
        | some rp =>
          obtain ⟨q, hq, ha⟩ := Option.map_eq_some_iff.mp ha
          obtain ⟨rfl, rfl, rfl⟩ := by simpa using ha
          exact .answer hq

lemma crashStep_advance (hw : Unlinked sys w.files) (hc : Standing sys w x c) (ha : advance sys w x l = some (v, y, new)) :
    ∃ d, c.crashStep l = some d ∧ Standing sys v y d ∧ d.log = c.log ++ new := by
  cases advance_some ha with
  | kill =>
    refine ⟨c.killed, rfl, ?_, (List.append_nil _).symm⟩
    cases hc with
    | idle => exact .idle
    | busy => exact .idle
  | start =>
    cases hc with
    | idle => exact ⟨_, rfl, .busy, (List.append_nil _).symm⟩
  | finish hb =>
    cases hc with
    | busy => exact ⟨_, Server.Config.finish_step (by rw [verdict_rest hb]), .idle, rfl⟩
  | act hu =>
    cases hc with
    | @idle log =>
      have hs := Server.Config.act_step (V := writer sys) (c := ⟨w, none, log⟩) hu
      exact ⟨_, hs, .idle, (List.append_nil _).symm⟩
    | @busy r tr p log =>
      have hs := Server.Config.act_step (V := writer sys)
        (c := ⟨{ w with files := p.files sys r w.files }, some ⟨r, tr, p.rest sys r⟩, log⟩)
        (act_refiled hu (p.files sys r w.files))
      refine ⟨_, hs, ?_, (List.append_nil _).symm⟩
      rw [← act_files hu]
      exact .busy
  | @answer r p q o hq =>
    cases hc with
    | @busy _ tr _ log =>
      obtain ⟨tr', hm⟩ : ∃ tr', (⟨tr, p.rest sys r, { w with files := p.files sys r w.files }⟩ :
          Session (host sys) Bool).move (.answer o) =
          some ⟨tr', q.rest sys r, { w with files := q.files sys r w.files }⟩ := move_some (hw r.filename) rfl hq
      refine ⟨⟨{ w with files := q.files sys r w.files }, some ⟨r, tr', q.rest sys r⟩, log⟩, ?_, .busy,
        (List.append_nil _).symm⟩
      exact congrArg (Option.map _) hm

lemma crashStep_stuck (hc : Standing sys w x c) (ha : advance sys w x l = none) : c.crashStep l = none := by
  cases l with
  | none => cases ha
  | some l =>
    cases l with
    | start r =>
      cases hc with
      | idle => cases ha
      | busy => rfl
    | finish =>
      cases hc with
      | idle => rfl
      | @busy r tr p log =>
        have hb : p.verdict = none := Option.map_eq_none_iff.mp ha
        rcases hstep : (⟨{ w with files := p.files sys r w.files }, some ⟨r, tr, p.rest sys r⟩, log⟩ :
          (writer sys).Config).crashStep (some .finish) with _ | d
        · rfl
        · obtain ⟨r', k, b, ht, -⟩ := Server.Config.step_finish hstep
          have hrest : p.rest sys r = .done b := (Server.Thread.mk.inj (Option.some.inj ht)).2.2
          rw [rest_verdict hrest] at hb
          cases hb
    | move m =>
      cases m with
      | act a =>
        rw [advance_act] at ha
        have hact : act a w = none := Option.map_eq_none_iff.mp ha
        cases hc with
        | idle => exact Option.map_eq_none_iff.mpr hact
        | busy => exact Option.map_eq_none_iff.mpr (Option.map_eq_none_iff.mpr (act_none hact _))
      | answer o =>
        cases hc with
        | idle => rfl
        | @busy r tr p log =>
          have hq : p.next r o = none := Option.map_eq_none_iff.mp ha
          exact Option.map_eq_none_iff.mpr (move_none hq)

lemma crashStep_inv (hw : Unlinked sys w.files) (hc : Standing sys w x c) (h : c.crashStep l = some d) :
    ∃ v y new, advance sys w x l = some (v, y, new) ∧ Standing sys v y d ∧ d.log = c.log ++ new := by
  rcases ha : advance sys w x l with _ | ⟨v, y, new⟩
  · rw [crashStep_stuck hc ha] at h
    cases h
  · obtain ⟨d', hd', hs, hlog⟩ := crashStep_advance hw hc ha
    obtain rfl := Option.some.inj (hd'.symm.trans h)
    exact ⟨v, y, new, rfl, hs, hlog⟩

lemma Standing.world_eq (hc : Standing sys w x c) : c.world = settled sys w x := by
  cases hc with
  | idle => rfl
  | busy => rfl

lemma standing_idle (hc : c.thread = none) : Standing sys c.world none c := by
  rcases c with ⟨w, thread, log⟩
  obtain rfl : thread = none := hc
  exact .idle

lemma advance_cases (ha : advance sys w x l = some (v, y, new)) :
    (v.files = w.files ∨ v = settled sys w x) ∧ ∀ r p, y = some (r, p) → l = some (.start r) ∨ ∃ q, x = some (r, q) := by
  cases advance_some ha with
  | kill | finish => exact ⟨.inr rfl, nofun⟩
  | act hu => exact ⟨.inl (act_files hu), fun r p hy => .inr ⟨p, hy⟩⟩
  | start =>
    refine ⟨.inl rfl, fun r p hy => ?_⟩
    obtain ⟨rfl, -⟩ := Prod.mk.inj (Option.some.inj hy)
    exact .inl rfl
  | answer =>
    refine ⟨.inl rfl, fun r p hy => ?_⟩
    obtain ⟨rfl, -⟩ := Prod.mk.inj (Option.some.inj hy)
    exact .inr ⟨_, rfl⟩

lemma unlinked_settled (hw : Unlinked sys w.files) (x : Option (Write × Point)) : Unlinked sys (settled sys w x).files := by
  cases x with
  | none => exact hw
  | some rp => exact fun name => files_plain (hw name) rp.2

lemma Unlinked.advance (hw : Unlinked sys w.files) (ha : advance sys w x l = some (v, y, new)) : Unlinked sys v.files := by
  rcases (advance_cases ha).1 with hv | rfl
  · rwa [hv]
  · exact unlinked_settled hw x

lemma settled_files (sys : System) (w : World) (x : Option (Write × Point)) (G : Files) :
    ∃ G', settled sys { w with files := G } x = { settled sys w x with files := G' } ∧
      ∀ path, G path = w.files path → G' path = (settled sys w x).files path := by
  cases x with
  | none => exact ⟨G, rfl, fun path h => h⟩
  | some rp => exact ⟨rp.2.files sys rp.1 G, rfl, fun path h => files_agree h rp.2⟩

lemma advance_files (ha : advance sys w x l = some (v, y, new)) (G : Files) :
    ∃ G', advance sys { w with files := G } x l = some ({ v with files := G' }, y, new) ∧
      ∀ path, G path = w.files path → G' path = v.files path := by
  cases advance_some ha with
  | kill =>
    obtain ⟨G', hG', hagree⟩ := settled_files sys w x G
    refine ⟨G', ?_, hagree⟩
    rw [← hG']
    rfl
  | start => exact ⟨G, rfl, fun path h => h⟩
  | act hu =>
    refine ⟨G, ?_, fun path h => h.trans (congrFun (act_files hu) path).symm⟩
    rw [advance_act, act_refiled hu]
    rfl
  | answer hq => exact ⟨G, Option.map_eq_some_iff.mpr ⟨_, hq, rfl⟩, fun path h => h⟩
  | finish hb =>
    obtain ⟨G', hG', hagree⟩ := settled_files sys w (some (_, _)) G
    refine ⟨G', ?_, hagree⟩
    rw [← hG']
    exact Option.map_eq_some_iff.mpr ⟨_, hb, rfl⟩

def Kept (sys : System) (F : Files) (rs : List Write) (G : Files) : Prop :=
  ∀ path, (∀ r ∈ rs, r.temp sys ≠ path) →
    G path = F path ∨ ∃ r ∈ rs, r.target sys = path ∧ G path = some (.file r.contents)

variable {rs : List Write}

lemma Kept.mono {ks : List Write} (h : Kept sys F rs w.files) (hsub : rs ⊆ ks) : Kept sys F ks w.files := by
  intro path hpath
  rcases h path fun r hr => hpath r (hsub hr) with heq | ⟨r, hr, htarget, heq⟩
  · exact .inl heq
  · exact .inr ⟨r, hsub hr, htarget, heq⟩

lemma Kept.settled (h : Kept sys F rs w.files) (hx : ∀ r p, x = some (r, p) → r ∈ rs) :
    Kept sys F rs (settled sys w x).files := by
  cases x with
  | none => exact h
  | some rp =>
    obtain ⟨r, p⟩ := rp
    have hr := hx r p rfl
    intro path hpath
    change p.files sys r w.files path = F path ∨ ∃ k ∈ rs, k.target sys = path ∧ p.files sys r w.files path = _
    by_cases htarget : r.target sys = path
    · subst htarget
      rw [files_target]
      split
      · exact .inr ⟨r, hr, rfl, rfl⟩
      · exact h _ hpath
    · rw [files_other (hpath r hr) htarget]
      exact h path hpath

variable {ls : List (Option (writer sys).Label)} {w₀ : World}

lemma crashRun_kept (hw₀ : Unlinked sys w₀.files) (h : (Server.Config.idle w₀).crashRun ls = some c) :
    Kept sys w₀.files (Server.started ls) c.world.files := by
  suffices hall : ∃ w x, Unlinked sys w.files ∧ Standing sys w x c ∧ Kept sys w₀.files (Server.started ls) w.files ∧
      ∀ r p, x = some (r, p) → r ∈ Server.started ls by
    obtain ⟨w, x, -, hs, hk, hx⟩ := hall
    rw [hs.world_eq]
    exact hk.settled hx
  refine Server.Config.crashRun_invariant (I := fun ls c => ∃ w x, Unlinked sys w.files ∧ Standing sys w x c ∧
    Kept sys w₀.files (Server.started ls) w.files ∧ ∀ r p, x = some (r, p) → r ∈ Server.started ls) ?_ ?_ h
  · exact ⟨w₀, none, hw₀, .idle, fun path _ => .inl rfl, nofun⟩
  · intro ks l c d ⟨w, x, hw, hs, hk, hx⟩ hstep
    obtain ⟨v, y, new, ha, hs', -⟩ := crashStep_inv hw hs hstep
    obtain ⟨hv, hy⟩ := advance_cases ha
    have hsub : Server.started ks ⊆ Server.started (ks ++ [l]) := by
      rw [Server.started, Server.started, List.filterMap_append]
      exact List.subset_append_left _ _
    refine ⟨v, y, hw.advance ha, hs', ?_, fun r p hyr => ?_⟩
    · rcases hv with hv | rfl
      · rw [hv]
        exact hk.mono hsub
      · exact (hk.settled hx).mono hsub
    · rcases hy r p hyr with rfl | ⟨q, hq⟩
      · simp [Server.started]
      · exact hsub (hx r q hq)

lemma run_answers {w : World} {r : Write} {ms : List (Move (host sys))} (hw : Unlinked sys w.files)
    (hc : Standing sys w (some (r, p)) c) (h : c.run (ms.map .move) = some d) :
    ∃ v q, Standing sys v (some (r, q)) d ∧ v.files = w.files ∧ d.log = c.log := by
  induction ms generalizing c w p with
  | nil =>
    obtain rfl := Option.some.inj h
    exact ⟨w, p, hc, rfl, rfl⟩
  | cons m ms ih =>
    obtain ⟨e, he, hd⟩ := Option.bind_eq_some_iff.mp h
    obtain ⟨v, y, new, ha, hs, hlog⟩ := crashStep_inv (l := some (.move m)) hw hc he
    cases advance_some ha with
    | act hu =>
      obtain ⟨v, q, hq, hfiles, hlog'⟩ := ih (hw.advance ha) hs hd
      exact ⟨v, q, hq, hfiles.trans (act_files hu), hlog'.trans (hlog.trans (List.append_nil _))⟩
    | answer =>
      obtain ⟨v, q, hq, hfiles, hlog'⟩ := ih (hw.advance ha) hs hd
      exact ⟨v, q, hq, hfiles, hlog'.trans (hlog.trans (List.append_nil _))⟩

lemma call_result {r : Write} {ms : List (Move (host sys))} (hw : Unlinked sys c.world.files) (hc : c.thread = none)
    (h : c.run (.start r :: (ms.map .move ++ [.finish])) = some d) : ∃ b, d.log = c.log ++ [(r, b)] ∧
      d.world.files (r.target sys) = if b = true then some (.file r.contents) else c.world.files (r.target sys) := by
  obtain ⟨e, he, hrun⟩ := Option.bind_eq_some_iff.mp h
  obtain ⟨v, y, new, ha, hs, hlog⟩ := crashStep_inv (l := some (.start r)) hw (standing_idle hc) he
  cases advance_some ha
  rw [Server.Config.run_append] at hrun
  obtain ⟨f, hf, hfin⟩ := Option.bind_eq_some_iff.mp hrun
  obtain ⟨v, q, hq, hfiles, hlog'⟩ := run_answers hw hs hf
  obtain ⟨g, hg, hd⟩ := Option.bind_eq_some_iff.mp hfin
  obtain rfl := Option.some.inj hd
  obtain ⟨u, y, new, ha, hsd, hlogd⟩ := crashStep_inv (l := some .finish) (hfiles ▸ hw) hq hg
  cases advance_some ha with
  | finish hb =>
    refine ⟨_, by rw [hlogd, hlog', hlog, List.append_nil], ?_⟩
    rw [hsd.world_eq]
    change q.files sys r v.files _ = _
    rw [files_target, hfiles]
    exact if_congr (renamed_of_verdict hb).symm rfl rfl

lemma leftover_ignored {ks : List (Option (writer sys).Label)} (hw : Unlinked sys c.world.files) (hc : c.thread = none)
    (h : c.crashRun ks = some d) {G : Files} (hG : Unlinked sys G) :
    ∃ d', ({ c with world := { c.world with files := G } } : (writer sys).Config).crashRun ks = some d' ∧
      d'.log = d.log ∧ ∀ path, G path = c.world.files path → d'.world.files path = d.world.files path := by
  let R (e e' : (writer sys).Config) : Prop := ∃ w H x, Unlinked sys w.files ∧ Unlinked sys H ∧
    Standing sys w x e ∧ Standing sys { w with files := H } x e' ∧
    e'.log = e.log ∧ ∀ path, G path = c.world.files path → H path = w.files path
  have hstep : ∀ l e e' f, R e e' → e.crashStep l = some f → ∃ f', e'.crashStep l = some f' ∧ R f f' := by
    intro l e e' f ⟨w, H, x, hw, hH, hs, hs', hlog, hagree⟩ hf
    obtain ⟨v, y, new, ha, hsf, hlogf⟩ := crashStep_inv hw hs hf
    obtain ⟨H', ha', hagree'⟩ := advance_files ha H
    have hH' : Unlinked sys ({ w with files := H } : World).files := hH
    obtain ⟨f', hf', hsf', hlogf'⟩ := crashStep_advance hH' hs' ha'
    refine ⟨f', hf', v, H', y, hw.advance ha, hH'.advance ha', hsf, hsf', ?_, fun path hpath => hagree' path (hagree path hpath)⟩
    rw [hlogf', hlog, hlogf]
  have hstart : R c { c with world := { c.world with files := G } } :=
    ⟨c.world, G, none, hw, hG, standing_idle hc, standing_idle (c := { c with world := { c.world with files := G } }) hc, rfl,
      fun path hpath => hpath⟩
  obtain ⟨d', hd', w, H, x, -, -, hs, hs', hlog, hagree⟩ :=
    Server.Config.crashRun_simulates hstep hstart h
  refine ⟨d', hd', hlog, fun path hpath => ?_⟩
  rw [hs.world_eq, hs'.world_eq]
  cases x with
  | none => exact hagree path hpath
  | some rp => exact files_agree (hagree path hpath) rp.2

lemma crashRun_unlinked (hw₀ : Unlinked sys w₀.files) (h : (Server.Config.idle w₀).crashRun ls = some c) :
    Unlinked sys c.world.files := by
  obtain ⟨w, x, hw, hs⟩ : ∃ w x, Unlinked sys w.files ∧ Standing sys w x c := by
    refine Server.Config.crashRun_invariant (I := fun _ c => ∃ w x, Unlinked sys w.files ∧ Standing sys w x c) ?_ ?_ h
    · exact ⟨w₀, none, hw₀, .idle⟩
    · intro ks l c d ⟨w, x, hw, hs⟩ hstep
      obtain ⟨v, y, new, ha, hs', -⟩ := crashStep_inv hw hs hstep
      exact ⟨v, y, hw.advance ha, hs'⟩
  rw [hs.world_eq]
  exact unlinked_settled hw x

theorem write_atomic (hw₀ : Unlinked sys w₀.files) (h : (Server.Config.idle w₀).crashRun ls = some c) :
    (∀ path, (∀ r ∈ Server.started ls, r.temp sys ≠ path) → c.world.files path = w₀.files path ∨
      ∃ r ∈ Server.started ls, r.target sys = path ∧ c.world.files path = some (.file r.contents)) ∧
    (c.thread = none → ∀ r (ms : List (Move (host sys))) d, c.run (.start r :: (ms.map .move ++ [.finish])) = some d →
      ∃ b, d.log = c.log ++ [(r, b)] ∧ d.world.files (r.target sys) =
        if b = true then some (.file r.contents) else c.world.files (r.target sys)) ∧
    (c.thread = none → ∀ G ks d, Unlinked sys G → c.crashRun ks = some d →
      ∃ d', ({ c with world := { c.world with files := G } } : (writer sys).Config).crashRun ks = some d' ∧
        d'.log = d.log ∧ ∀ path, G path = c.world.files path → d'.world.files path = d.world.files path) :=
  have hw := crashRun_unlinked hw₀ h
  ⟨crashRun_kept hw₀ h, fun hc _ _ _ hrun => call_result hw hc hrun,
    fun hc _ _ _ hG hrun => leftover_ignored hw hc hrun hG⟩

section sample

def rootless : System := ⟨[], fun _ => ⟨[], nofun⟩⟩

def cutShort : List (Option (writer rootless).Label) :=
  [some (.start ⟨bytes "f", bytes "old"⟩), some (.move (.answer .done)), some (.move (.answer (.partly 1))), none]

def retried : List (Move (host rootless)) :=
  [.answer .done, .answer .done, .answer .done, .answer .done]

theorem write_atomic_retried : ∃ c, (Server.Config.idle (World.initial .installed fun _ => none)).crashRun cutShort = some c ∧
    c.world.files (bytes "f_XXXXXX") = some (.file (bytes "o")) ∧
    (c.world.files (bytes "f") = none ∨ ∃ r ∈ Server.started cutShort, r.target rootless = bytes "f" ∧
      c.world.files (bytes "f") = some (.file r.contents)) ∧
    (∃ d, c.run (.start ⟨bytes "f", bytes "new"⟩ :: (retried.map .move ++ [.finish])) = some d ∧
      ∃ b, d.log = c.log ++ [(⟨bytes "f", bytes "new"⟩, b)] ∧ d.world.files (bytes "f") =
        if b = true then some (.file (bytes "new")) else c.world.files (bytes "f")) ∧
    ∃ d', ({ c with world := { c.world with files := fun _ => none } } : (writer rootless).Config).crashRun [none] = some d' ∧
      d'.log = c.log ∧ d'.world.files (bytes "f") = c.world.files (bytes "f") := by
  have hcut : (Server.Config.idle (World.initial .installed fun _ => none)).crashRun cutShort = some _ := rfl
  have hfree : Unlinked rootless fun _ => none := fun _ => .inl rfl
  have hrun := write_atomic hfree hcut
  refine ⟨_, rfl, rfl, hrun.1 (bytes "f") (by decide), ⟨_, rfl, hrun.2.1 rfl _ retried _ rfl⟩, ?_⟩
  obtain ⟨d', hd', hlog, hfiles⟩ := hrun.2.2 rfl (fun _ => none) [none] _ hfree rfl
  exact ⟨d', hd', hlog, hfiles (bytes "f") rfl⟩

end sample

end RouterCard.Captived.AtomicWrite
