import RouterCard.Captived.WifiStore

namespace RouterCard.Captived.WifiStore

open Text Interaction WifiConfig

variable (sys : System)

def Reports (resp : Resp) (s : JsonText) : Prop :=
  resp.1 = .ok ∧ ∃ obj hash, resp.2 = some obj ∧ obj.objectGet (bytes "contents") = some (.string s) ∧
    obj.objectGet (bytes "sha256") = some (.string hash) ∧ hash.val = sha256Hex sys s.val

def Lawful (expected : Endpoint → Option JsonText) (w : World) (resp : Resp) (v : World) : Event → Prop
  | .get e => ∀ s, expected e = some s → Reports sys resp s
  | .put e u _ =>
    (resp.1 = .ok → nodeAt sys v e = some (.file u.contents.val) ∧ Reports sys resp u.contents) ∧
      (resp.1 ≠ .ok → nodeAt sys v e = nodeAt sys w e) ∧ ∀ f, f ≠ e → nodeAt sys v f = nodeAt sys w f

def Event.expected (expected : Endpoint → Option JsonText) (resp : Resp) : Event → Endpoint → Option JsonText
  | .get _ => expected
  | .put e u _ => if resp.1 = .ok then Function.update expected e (some u.contents) else expected

def Law (expected : Endpoint → Option JsonText) (w : World) : List Event → Prop
  | [] => True
  | ev :: evs => ∀ resp v, serve sys ev w = some (resp, v) →
      Lawful sys expected w resp v ev ∧ Law (ev.expected expected resp) v evs

def Event.Empties : Event → Prop
  | .get _ => False
  | .put _ u a => u.contents.val = [] ∧ a.writes = true

def occurring (w : World) (evs : List Event) : Set Bytes :=
  {s | (∃ e, nodeAt sys w e = some (.file s)) ∨ ∃ e u a, .put e u a ∈ evs ∧ u.contents.val = s}

variable {sys} {w v : World} {e : Endpoint} {a : Attempt}

lemma isJsonText_sha256Hex (s : Bytes) : IsJsonText (sha256Hex sys s) := by
  apply Json.isJsonText_ascii
  intro b hb
  have hd := (sys.hash256 s).property b hb
  simp only [isHexDigit, isDigit, Bool.or_eq_true, Bool.and_eq_true, decide_eq_true_eq, UInt8.le_iff_toNat_le] at hd
  have h48 : (48 : UInt8).toNat = 48 := rfl
  have h57 : (57 : UInt8).toNat = 57 := rfl
  have h97 : (97 : UInt8).toNat = 97 := rfl
  have h102 : (102 : UInt8).toNat = 102 := rfl
  omega

lemma reports_report (s : JsonText) : Reports sys (Resource.ok (some (report sys s.val))) s := by
  have hhash := Json.ofString_text ⟨sha256Hex sys s.val, isJsonText_sha256Hex s.val⟩
  refine ⟨rfl, report sys s.val, ⟨sha256Hex sys s.val, isJsonText_sha256Hex s.val⟩, rfl, ?_, ?_, rfl⟩
  · have hne : bytes "contents" ≠ bytes "sha256" := by decide
    rw [report, hhash, Json.ofString_text]
    exact Json.objectGet_insert_of_ne hne _ [(bytes "contents", .string s)]
  · rw [report, hhash, Json.ofString_text]
    exact Json.objectGet_insert_self (bytes "sha256") _ [(bytes "contents", .string s)]

-- Each file holds something, one of the strings, and what was stored last.
structure Holds (sys : System) (S : Set Bytes) (expected : Endpoint → Option JsonText) (w : World) : Prop where
  files : ∀ e, ∃ c, c ≠ [] ∧ c ∈ S ∧ nodeAt sys w e = some (.file c) ∧ ∀ s, expected e = some s → s.val = c
  unlinked : Unlinked sys w

def Event.strings : Event → Set Bytes
  | .get _ => ∅
  | .put _ u _ => {u.contents.val}

variable {S : Set Bytes} {expected : Endpoint → Option JsonText}

lemma sha256Hex_injOn (hS : Set.InjOn sys.hash256 S) {s c : Bytes} (hs : s ∈ S) (hc : c ∈ S) (h : sha256Hex sys s = sha256Hex sys c) :
    s = c := hS hs hc (Subtype.ext h)

lemma Holds.stored (hw : Holds sys S expected w) {s : JsonText} (hne : s.val ≠ []) (hs : s.val ∈ S)
    (hn : nodeAt sys v e = some (.file s.val)) (ho : ∀ f, f ≠ e → nodeAt sys v f = nodeAt sys w f) (hv : Unlinked sys v) :
    Holds sys S (Function.update expected e (some s)) v := by
  refine ⟨fun f => ?_, hv⟩
  by_cases hf : f = e
  · subst hf
    refine ⟨s.val, hne, hs, hn, fun t ht => ?_⟩
    rw [Function.update_self] at ht
    rw [Option.some.inj ht]
  · obtain ⟨c, hc, hcS, hcn, hlast⟩ := hw.files f
    exact ⟨c, hc, hcS, (ho f hf).trans hcn, fun t ht => hlast t (by rwa [Function.update_of_ne hf] at ht)⟩

lemma Holds.kept (hw : Holds sys S expected w) (hv : Written sys w e (nodeAt sys w e) v) : Holds sys S expected v := by
  refine ⟨fun f => ?_, hv.unlinked⟩
  obtain ⟨c, hc, hcS, hcn, hlast⟩ := hw.files f
  refine ⟨c, hc, hcS, ?_, hlast⟩
  by_cases hf : f = e
  · subst hf
    exact hv.node.trans hcn
  · exact (hv.other f hf).trans hcn

lemma serve_lawful {ev : Event} (hS : Set.InjOn sys.hash256 S) (hw : Holds sys S expected w) (hev : ev.strings ⊆ S)
    (hne : ¬ ev.Empties) : ∃ resp v, serve sys ev w = some (resp, v) ∧ Lawful sys expected w resp v ev ∧
      Holds sys S (ev.expected expected resp) v := by
  cases ev with
  | get e =>
    obtain ⟨c, hc, -, hn, hlast⟩ := hw.files e
    refine ⟨_, w, serve_get hn hc, fun s hs => ?_, hw⟩
    obtain rfl := hlast s hs
    exact reports_report s
  | put e u a =>
    obtain ⟨c, hc, hcS, hn, -⟩ := hw.files e
    obtain ⟨resp, v, hserve, hput⟩ := serve_put (a := a) u hw.unlinked hn (compared_of_ne hc)
    have hs : u.contents.val ∈ S := hev rfl
    refine ⟨resp, v, hserve, ?_⟩
    cases hput with
    | same heq =>
      obtain rfl := sha256Hex_injOn hS hs hcS heq
      rw [readBack_of_ne hc]
      exact ⟨⟨fun _ => ⟨hn, reports_report u.contents⟩, fun hr => absurd rfl hr, fun _ _ => rfl⟩,
        hw.stored hc hs hn (fun _ _ => rfl) hw.unlinked⟩
    | stored hdiff hwr hnode hother hload hlinks =>
      have hempty : u.contents.val ≠ [] := fun h => hne ⟨h, hwr⟩
      rw [readBack_of_ne hempty]
      exact ⟨⟨fun _ => ⟨hnode, reports_report u.contents⟩, fun hr => absurd rfl hr, hother⟩,
        hw.stored hempty hs hnode hother hlinks⟩
    | failed hdiff hwr hkept =>
      exact ⟨⟨fun hr => Status.noConfusion hr, fun _ => hkept.node, hkept.other⟩, hw.kept hkept⟩

lemma serve_empties {ev : Event} (hS : Set.InjOn sys.hash256 S) (hw : Holds sys S expected w) (hev : ev.strings ⊆ S)
    (he : ev.Empties) : ∃ resp v, serve sys ev w = some (resp, v) ∧ ¬ Lawful sys expected w resp v ev := by
  cases ev with
  | get e => exact he.elim
  | put e u a =>
    obtain ⟨hempty, hwr⟩ := he
    obtain ⟨c, hc, hcS, hn, -⟩ := hw.files e
    obtain ⟨resp, v, hserve, hput⟩ := serve_put (a := a) u hw.unlinked hn (compared_of_ne hc)
    refine ⟨resp, v, hserve, ?_⟩
    cases hput with
    | same heq => exact absurd (hempty.symm.trans (sha256Hex_injOn hS (hev rfl) hcS heq)) hc.symm
    | failed _ hfail _ => simp [hwr] at hfail
    | stored hdiff _ hnode _ _ _ =>
      rw [hempty, readBack_empty]
      rintro ⟨-, hkeep, -⟩
      have hsame := hkeep Status.noConfusion
      rw [hnode, hn, hempty] at hsame
      exact hc (Node.file.inj (Option.some.inj hsame)).symm

lemma law_iff_of_holds (hS : Set.InjOn sys.hash256 S) {evs : List Event} (hw : Holds sys S expected w)
    (hev : ∀ ev ∈ evs, ev.strings ⊆ S) : Law sys expected w evs ↔ ∀ ev ∈ evs, ¬ ev.Empties := by
  induction evs generalizing expected w with
  | nil => simp [Law]
  | cons ev evs ih =>
    by_cases he : ev.Empties
    · obtain ⟨resp, v, hserve, hlaw⟩ := serve_empties hS hw (hev ev (.head evs)) he
      exact iff_of_false (fun h => hlaw (h resp v hserve).1) fun h => h ev (.head evs) he
    · obtain ⟨resp, v, hserve, hlaw, hv⟩ := serve_lawful hS hw (hev ev (.head evs)) he
      have hih := ih hv fun d hd => hev d (.tail ev hd)
      simp only [List.forall_mem_cons, ← hih, he, not_false_eq_true, true_and]
      constructor
      · exact fun h => (h resp v hserve).2
      · intro h resp' v' hserve'
        obtain ⟨rfl, rfl⟩ := Prod.mk.inj (Option.some.inj (hserve.symm.trans hserve'))
        exact ⟨hlaw, h⟩

theorem law_iff {evs : List Event} (hfiles : ∀ e, ∃ c, c ≠ [] ∧ nodeAt sys w e = some (.file c)) (hlinks : Unlinked sys w)
    (hinj : Set.InjOn sys.hash256 (occurring sys w evs)) :
    Law sys (fun _ => none) w evs ↔ ∀ ev ∈ evs, ¬ ev.Empties := by
  refine law_iff_of_holds hinj ⟨fun e => ?_, hlinks⟩ fun ev hev s hs => ?_
  · obtain ⟨c, hc, hn⟩ := hfiles e
    exact ⟨c, hc, .inl ⟨e, hn⟩, hn, fun _ h => by simp at h⟩
  · cases ev with
    | get e => exact hs.elim
    | put e u a => exact .inr ⟨e, u, a, hev, hs.symm⟩

section samples

def hexText (s : String) (h : (bytes s).all isHexDigit = true) : HexText := ⟨bytes s, List.all_eq_true.mp h⟩

def digest (s : Bytes) : HexText :=
  if s = bytes "a" then hexText "ca978112ca1bbdcafac231b39a23dc4da786eff8147c4e72b9807785afee48bb" rfl
  else if s = bytes "b" then hexText "3e23e8160039594a33894f6564e1b1348bbd7a0088d42c4acb73eeaed59c009d" rfl
  else hexText "e3b0c44298fc1c149afbf4c8996fb92427ae41e4649b934ca495991b7852b855" rfl

def hashing : System := ⟨[], digest⟩

def configured : World := .initial ⟨none, none⟩ fun path =>
  if path = FILE_WIFI_CONFIG_PASSTHROUGH then some (.file (bytes "a"))
  else if path = FILE_WIFI_CONFIG_SECURE_HOST then some (.file (bytes "a")) else none

def upload (s : JsonText) : Upload := ⟨[(bytes "contents", .string s)], s, rfl⟩

def successful : Attempt := ⟨true, .whole, .whole, true, 0, none⟩

lemma isJsonText_b : IsJsonText (bytes "b") := by decide

lemma isJsonText_nil : IsJsonText [] := by decide

def textB : JsonText := ⟨bytes "b", isJsonText_b⟩

def textEmpty : JsonText := ⟨[], isJsonText_nil⟩

def changing : List Event := [.put .passthrough (upload textB) successful, .get .passthrough]

def emptying : List Event := [.put .passthrough (upload textEmpty) successful]

lemma configured_files (e : Endpoint) : ∃ c, c ≠ [] ∧ nodeAt hashing configured e = some (.file c) := by
  cases e <;> exact ⟨bytes "a", by decide, rfl⟩

lemma unlinked_configured : Unlinked hashing configured := fun e => by cases e <;> exact .inl rfl

lemma digest_a : digest (bytes "a") ≠ digest (bytes "b") := by
  intro h
  have hval := congrArg Subtype.val h
  exact absurd hval (by decide)

lemma digest_injOn : Set.InjOn hashing.hash256 {bytes "a", bytes "b"} := by
  rintro s (rfl | rfl) t (rfl | rfl) h
  · rfl
  · exact absurd h digest_a
  · exact absurd h.symm digest_a
  · rfl

lemma occurring_changing : occurring hashing configured changing ⊆ {bytes "a", bytes "b"} := by
  rintro s (⟨e, he⟩ | ⟨e, u, a, hu, rfl⟩)
  · cases e <;> exact .inl (Node.file.inj (Option.some.inj he)).symm
  · simp only [changing, List.mem_cons, List.not_mem_nil, or_false, reduceCtorEq, Event.put.injEq] at hu
    obtain ⟨-, rfl, -⟩ := hu
    exact .inr rfl

theorem law_iff_changing :
    Law hashing (fun _ => none) configured changing ↔ ∀ ev ∈ changing, ¬ ev.Empties :=
  law_iff configured_files unlinked_configured (digest_injOn.mono occurring_changing)

theorem law_broken_by_empty_put : ¬ Law hashing (fun _ => none) configured emptying ∧
    ∃ resp v, serve hashing (.put .passthrough (upload ⟨[], by decide⟩) successful) configured = some (resp, v) ∧
      resp.1 = .internalServerError ∧ nodeAt hashing configured .passthrough = some (.file (bytes "a")) ∧
      nodeAt hashing v .passthrough = some (.file []) := by
  refine ⟨fun h => ?_, _, _, rfl, rfl, rfl, rfl⟩
  obtain ⟨⟨-, hkeep, -⟩, -⟩ := h _ _ rfl
  have hsame := hkeep Status.noConfusion
  exact absurd hsame (by decide)

end samples

end RouterCard.Captived.WifiStore
