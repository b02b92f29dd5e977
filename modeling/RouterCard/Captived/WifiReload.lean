import RouterCard.Captived.WifiLaw

namespace RouterCard.Captived.WifiStore

open Text Interaction WifiConfig

variable (sys : System) (e : Endpoint)

-- Answers what a PUT looks at only, so that a program which does anything else gets no answer.
def readOnly (a : Attempt) : (c : Call) → World → Option (c.Reply × World)
  | .readFile path, w => answer sys (.readFile path) .done w
  | .emptyOptional, w => a.stale.map fun s => (s, w)
  | _, _ => none

def Loaded (w : World) : Prop := loadedAt sys w e = nodeAt sys w e

def Silent (u : Upload) (a : Attempt) (w : World) (resp : Resp) : Prop :=
  ((e.resource sys).put (some (.object u.members))).exec (readOnly sys a) w = some (resp, w)

def InStep (w : World) (u : Upload) (a : Attempt) (resp : Resp) (v : World) : Prop :=
  (resp.1 = .ok → Loaded sys e v) ∧
    (nodeAt sys w e = some (.file u.contents.val) → Loaded sys e w → Silent sys e u a w resp)

def AlwaysLoaded (w : World) : List (Upload × Attempt) → Prop
  | [] => True
  | (u, a) :: puts => ∀ resp v, serve sys (.put e u a) w = some (resp, v) →
      InStep sys e w u a resp v ∧ AlwaysLoaded v puts

-- The PUT finds another hash than that of its contents.
def Differs (w : World) (u : Upload) (a : Attempt) : Prop :=
  ∃ c t, nodeAt sys w e = some (.file c) ∧ compared sys a c = some t ∧ sha256Hex sys u.contents.val ≠ t

def LosesReload (w : World) (u : Upload) (a : Attempt) : Prop :=
  Differs sys e w u a ∧ u.contents.val ≠ [] ∧ loadedAt sys w e ≠ some (.file u.contents.val) ∧ a.writes = true ∧ a.reload ≠ 0

def RewritesEmpty (w : World) (u : Upload) (a : Attempt) : Prop :=
  Differs sys e w u a ∧ u.contents.val = [] ∧ nodeAt sys w e = some (.file []) ∧ Loaded sys e w

def NeverOutOfStep (w : World) : List (Upload × Attempt) → Prop
  | [] => True
  | (u, a) :: puts => (¬ LosesReload sys e w u a ∧ ¬ RewritesEmpty sys e w u a) ∧
      ∀ resp v, serve sys (.put e u a) w = some (resp, v) → NeverOutOfStep v puts

variable {sys e} {w v : World} {u : Upload} {a : Attempt} {resp : Resp} {c t : Bytes}

lemma silent_iff (hn : nodeAt sys w e = some (.file c)) (ht : compared sys a c = some t) :
    Silent sys e u a w resp ↔ sha256Hex sys u.contents.val = t ∧ resp = readBack sys c := by
  have hf : Readable sys (readOnly sys a) := fun _ _ => rfl
  have hd : Derefs a (readOnly sys a) := fun _ => rfl
  rw [Silent, put_eq, putContents, Program.exec_bind, exec_setContents hf hd hn, ht, Option.bind_some]
  by_cases hs : sha256Hex sys u.contents.val = t
  · have hkeep : (storeUnless sys (sha256Hex sys u.contents.val = t) e.file u.contents.val).exec (readOnly sys a) w =
        some (true, w) := by
      rw [storeUnless, if_pos hs]
      rfl
    have hread : (WifiConfig.get sys e.file (some .null)).exec (readOnly sys a) w = some (readBack sys c, w) := exec_get hf hn _
    rw [hkeep, Option.bind_some]
    dsimp only
    rw [Bool.not_true, if_neg Bool.false_ne_true, hread, Option.some.injEq, Prod.mk.injEq]
    exact ⟨fun h => ⟨hs, h.1.symm⟩, fun h => ⟨h.2.symm, rfl⟩⟩
  · simp [storeUnless, hs, System.write_eq, readOnly]

lemma put_of_serve (hw : Unlinked sys w) (hn : nodeAt sys w e = some (.file c))
    (h : serve sys (.put e u a) w = some (resp, v)) :
    ∃ t, compared sys a c = some t ∧ Put sys w e a c t u.contents.val resp v := by
  cases ht : compared sys a c with
  | none =>
    rw [serve_put_none u hn ht] at h
    cases h
  | some t =>
    obtain ⟨resp', v', hserve, hput⟩ := serve_put u hw hn ht
    obtain ⟨rfl, rfl⟩ := Prod.mk.inj (Option.some.inj (h.symm.trans hserve))
    exact ⟨t, rfl, hput⟩

lemma file_unique {b : Bytes} (hn : nodeAt sys w e = some (.file c)) (h : nodeAt sys w e = some (.file b)) : b = c :=
  Node.file.inj (Option.some.inj (h.symm.trans hn))

lemma differs_iff (hn : nodeAt sys w e = some (.file c)) (ht : compared sys a c = some t) :
    Differs sys e w u a ↔ sha256Hex sys u.contents.val ≠ t := by
  constructor
  · rintro ⟨d, t', hd, ht', hne⟩
    obtain rfl := file_unique hn hd
    rwa [Option.some.inj (ht.symm.trans ht')]
  · exact fun h => ⟨c, t, hn, ht, h⟩

-- Carried along a run: unless the file is empty, it is loaded.
structure Tracks (sys : System) (e : Endpoint) (c : Bytes) (w : World) : Prop where
  node : nodeAt sys w e = some (.file c)
  loaded : c ≠ [] → Loaded sys e w
  unlinked : Unlinked sys w

lemma Tracks.same (hw : Tracks sys e c w) (ht : compared sys a c = some t) (heq : sha256Hex sys u.contents.val = t) :
    InStep sys e w u a (readBack sys c) w ∧ ¬ Differs sys e w u a := by
  refine ⟨⟨fun hr => ?_, fun _ _ => (silent_iff hw.node ht).mpr ⟨heq, rfl⟩⟩, fun h => (differs_iff hw.node ht).mp h heq⟩
  by_cases hc : c = []
  · subst hc
    cases hr
  · exact hw.loaded hc

lemma Tracks.silent_of_differs (hw : Tracks sys e c w) (ht : compared sys a c = some t)
    (hne : sha256Hex sys u.contents.val ≠ t) :
    (nodeAt sys w e = some (.file u.contents.val) → Loaded sys e w → Silent sys e u a w resp) ↔
      ¬ RewritesEmpty sys e w u a := by
  have hdiff : Differs sys e w u a := (differs_iff hw.node ht).mpr hne
  constructor
  · rintro h ⟨-, hempty, hn, hl⟩
    rw [← hempty] at hn
    exact hne ((silent_iff hw.node ht).mp (h hn hl)).1
  · intro h hn hl
    obtain rfl := file_unique hw.node hn
    by_cases hempty : u.contents.val = []
    · exact absurd ⟨hdiff, hempty, hempty ▸ hn, hl⟩ h
    · rw [compared_of_ne hempty] at ht
      exact absurd (Option.some.inj ht) hne

lemma Tracks.stored {x : World} (hw : Tracks sys e c w) (ht : compared sys a c = some t)
    (hne : sha256Hex sys u.contents.val ≠ t) (hwr : a.writes = true) (hnode : nodeAt sys x e = some (.file u.contents.val))
    (hload : x.loaded = if a.reload = 0 then x.files else w.loaded) :
    ((readBack sys u.contents.val).1 = .ok → Loaded sys e x) ↔ ¬ LosesReload sys e w u a := by
  have hdiff : Differs sys e w u a := (differs_iff hw.node ht).mpr hne
  by_cases hempty : u.contents.val = []
  · refine iff_of_true (fun hr => ?_) fun h => h.2.1 hempty
    rw [hempty] at hr
    cases hr
  · rw [readBack_of_ne hempty, Loaded, loadedAt, hload, hnode]
    by_cases hr : a.reload = 0
    · rw [if_pos hr]
      exact iff_of_true (fun _ => hnode) fun h => h.2.2.2.2 hr
    · rw [if_neg hr]
      constructor
      · exact fun h hlose => hlose.2.2.1 (h rfl)
      · exact fun h _ => not_not.mp fun hn => h ⟨hdiff, hempty, hn, hwr, hr⟩

lemma Tracks.put (hw : Tracks sys e c w) (h : serve sys (.put e u a) w = some (resp, v)) :
    (InStep sys e w u a resp v ↔ ¬ LosesReload sys e w u a ∧ ¬ RewritesEmpty sys e w u a) ∧
      (InStep sys e w u a resp v → ∃ d, Tracks sys e d v) := by
  obtain ⟨t, ht, hput⟩ := put_of_serve hw.unlinked hw.node h
  cases hput with
  | same heq =>
    obtain ⟨hstep, hsame⟩ := hw.same ht heq
    exact ⟨iff_of_true hstep ⟨fun hl => hsame hl.1, fun hr => hsame hr.1⟩, fun _ => ⟨c, hw⟩⟩
  | failed hne hwr hkept =>
    refine ⟨and_congr (iff_of_true (fun hr => Status.noConfusion hr) fun hl => ?_) (hw.silent_of_differs ht hne), fun _ => ?_⟩
    · rw [LosesReload, hwr] at hl
      exact Bool.noConfusion hl.2.2.2.1
    · refine ⟨c, hkept.node.trans hw.node, fun hc => ?_, hkept.unlinked⟩
      rw [Loaded, loadedAt, hkept.loaded, hkept.node]
      exact hw.loaded hc
  | stored hne hwr hnode hother hload hlinks =>
    refine ⟨and_congr (hw.stored ht hne hwr hnode hload) (hw.silent_of_differs ht hne), fun hstep => ?_⟩
    refine ⟨u.contents.val, hnode, fun hempty => hstep.1 ?_, hlinks⟩
    rw [readBack_of_ne hempty]
    rfl

lemma Tracks.answered (hw : Tracks sys e c w) (h : Differs sys e w u a) : ∃ resp v, serve sys (.put e u a) w = some (resp, v) := by
  obtain ⟨d, t, hn, ht, -⟩ := h
  obtain ⟨resp, v, hserve, -⟩ := serve_put u hw.unlinked hn ht
  exact ⟨resp, v, hserve⟩

lemma Tracks.run {puts : List (Upload × Attempt)} (hw : Tracks sys e c w) :
    AlwaysLoaded sys e w puts ↔ NeverOutOfStep sys e w puts := by
  induction puts generalizing w c with
  | nil => exact Iff.rfl
  | cons p puts ih =>
    obtain ⟨u, a⟩ := p
    constructor
    · intro hall
      have hstep : Differs sys e w u a → ¬ LosesReload sys e w u a ∧ ¬ RewritesEmpty sys e w u a := by
        intro hdiff
        obtain ⟨resp, v, h⟩ := hw.answered hdiff
        exact (hw.put h).1.mp (hall resp v h).1
      refine ⟨⟨fun hl => (hstep hl.1).1 hl, fun hr => (hstep hr.1).2 hr⟩, fun resp v h => ?_⟩
      obtain ⟨d, hd⟩ := (hw.put h).2 (hall resp v h).1
      exact (ih hd).mp (hall resp v h).2
    · rintro ⟨hnever, hrest⟩ resp v h
      obtain ⟨hiff, hnext⟩ := hw.put h
      obtain ⟨d, hd⟩ := hnext (hiff.mpr hnever)
      exact ⟨hiff.mpr hnever, (ih hd).mpr (hrest resp v h)⟩

theorem alwaysLoaded_iff {puts : List (Upload × Attempt)} (hn : nodeAt sys w e = some (.file c)) (hl : Loaded sys e w)
    (hlinks : Unlinked sys w) : AlwaysLoaded sys e w puts ↔ NeverOutOfStep sys e w puts :=
  Tracks.run ⟨hn, fun _ => hl, hlinks⟩

section samples

def unloaded : Attempt := ⟨true, .whole, .whole, true, 256, none⟩

def emptied : Attempt := ⟨true, .whole, .whole, true, 0, some (bytes "0")⟩

def reloading : List (Upload × Attempt) :=
  [(upload textB, successful), (upload textEmpty, emptied), (upload textB, emptied), (upload textB, unloaded)]

theorem alwaysLoaded_iff_changing : AlwaysLoaded hashing .passthrough configured reloading ↔
    NeverOutOfStep hashing .passthrough configured reloading :=
  alwaysLoaded_iff (c := bytes "a") rfl rfl unlinked_configured

theorem accepted_put_not_loaded : ∃ resp v resp' v',
    serve hashing (.put .passthrough (upload textB) unloaded) configured = some (resp, v) ∧
      serve hashing (.put .passthrough (upload textB) successful) v = some (resp', v') ∧ resp.1 = .ok ∧ resp'.1 = .ok ∧
      nodeAt hashing v' .passthrough = some (.file (bytes "b")) ∧
      loadedAt hashing v' .passthrough = some (.file (bytes "a")) :=
  ⟨_, _, _, _, rfl, rfl, rfl, rfl, rfl, rfl⟩

end samples

end RouterCard.Captived.WifiStore
