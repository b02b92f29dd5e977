import RouterCard.Captived.WifiReload
import RouterCard.Picosha2.HexString

namespace RouterCard.Captived.ConfigHash

open Text Hashing Interaction WifiConfig WifiStore

section source

variable (w : Picosha2.LongWidth)

lemma isHexDigit_hash256HexString {s : Bytes} : ∀ b ∈ (Picosha2.hash256HexString w s).getD [], isHexDigit b = true := by
  intro b hb
  rw [Picosha2.hash256HexString] at hb
  cases hhash : Picosha2.hash256 w s Picosha2.kDigestSize with
  | none =>
    rw [hhash] at hb
    exact absurd hb List.not_mem_nil
  | some hashed =>
    rw [hhash] at hb
    have hmem : b ∈ Picosha2.outputHex hashed := hb
    rw [Picosha2.outputHex_eq] at hmem
    exact isLowerHex_hexText hmem

def deployed (chroot : Bytes) : System := ⟨chroot, fun s => ⟨_, isHexDigit_hash256HexString w (s := s)⟩⟩

end source

section law

variable (sys : System)

def ReportsDigest (resp : Resp) (d : Bytes) : Prop :=
  resp.1 = .ok ∧ ∃ obj hash, resp.2 = some obj ∧ obj.objectGet (bytes "sha256") = some (.string hash) ∧ hexBytes hash.val = d

def DigestLawful (expected : Endpoint → Option Bytes) (w : World) (resp : Resp) (v : World) : Event → Prop
  | .get e => ∀ d, expected e = some d → ReportsDigest resp d
  | .put e u a =>
    (∀ c, nodeAt sys w e = some (.file c) →
      (Silent sys e u a w resp ↔ Sha256.sha256 c = Sha256.sha256 u.contents.val)) ∧
    (resp.1 = .ok → ReportsDigest resp (Sha256.sha256 u.contents.val) ∧
      ∃ c, nodeAt sys v e = some (.file c) ∧ Sha256.sha256 c = Sha256.sha256 u.contents.val) ∧
    (resp.1 ≠ .ok → nodeAt sys v e = nodeAt sys w e) ∧ ∀ f, f ≠ e → nodeAt sys v f = nodeAt sys w f

noncomputable def nextDigests (expected : Endpoint → Option Bytes) (resp : Resp) : Event → Endpoint → Option Bytes
  | .get _ => expected
  | .put e u _ => if resp.1 = .ok then Function.update expected e (some (Sha256.sha256 u.contents.val)) else expected

def DigestLaw (expected : Endpoint → Option Bytes) (w : World) : List Event → Prop
  | [] => True
  | ev :: evs => ∃ resp v, WifiStore.serve sys ev w = some (resp, v) ∧ DigestLawful sys expected w resp v ev ∧
      DigestLaw (nextDigests expected resp ev) v evs

end law

variable {l : Picosha2.LongWidth} {chroot s c : Bytes} {w v : World} {e : Endpoint} {u : Upload}
  {expected : Endpoint → Option Bytes}

section digests

lemma sha256Hex_deployed (hs : s.length < 2 ^ (l.val - 1)) : sha256Hex (deployed l chroot) s = hexText (Sha256.sha256 s) := by
  have hhash : sha256Hex (deployed l chroot) s = (Picosha2.hash256HexString l s).getD [] := rfl
  rw [hhash, Picosha2.hash256HexString_eq l hs, Option.getD_some]

lemma sha256Hex_eq_iff (hs : s.length < 2 ^ (l.val - 1)) (hc : c.length < 2 ^ (l.val - 1)) :
    sha256Hex (deployed l chroot) s = sha256Hex (deployed l chroot) c ↔ Sha256.sha256 c = Sha256.sha256 s := by
  rw [sha256Hex_deployed hs, sha256Hex_deployed hc]
  constructor
  · intro h
    rw [← hexBytes_hexText (Sha256.sha256 c), ← h, hexBytes_hexText]
  · exact fun h => h ▸ rfl

-- The contents may be no JSON text, and then their key is missing.
lemma reportsDigest_report (hc : c.length < 2 ^ (l.val - 1)) :
    ReportsDigest (Resource.ok (some (report (deployed l chroot) c))) (Sha256.sha256 c) := by
  have hne : bytes "sha256" ≠ cString (bytes "contents") := by decide
  have htext : IsJsonText (sha256Hex (deployed l chroot) c) := isJsonText_sha256Hex c
  have hhash := Json.ofString_text ⟨_, htext⟩
  have hkey : IsJsonText (bytes "sha256") := by decide
  refine ⟨rfl, _, ⟨_, htext⟩, rfl, ?_, ?_⟩
  · rw [report, hhash]
    cases Json.ofString c with
    | none => exact Json.objectGet_set_self hkey rfl _
    | some j =>
      have hmissing : Json.objectGet ((Json.object []).objectSet (bytes "contents") (some j)) (bytes "sha256") = none :=
        Json.objectGet_set_of_ne hne (.object []) (some j)
      exact Json.objectGet_set_self hkey hmissing _
  · dsimp only
    rw [sha256Hex_deployed hc, hexBytes_hexText]

end digests

section runs

structure Digests (l : Picosha2.LongWidth) (chroot : Bytes) (expected : Endpoint → Option Bytes) (w : World) : Prop where
  files : ∀ e, ∃ c, c ≠ [] ∧ c.length < 2 ^ (l.val - 1) ∧ nodeAt (deployed l chroot) w e = some (.file c) ∧
    ∀ d, expected e = some d → Sha256.sha256 c = d
  unlinked : Unlinked (deployed l chroot) w

lemma Digests.update (hw : Digests l chroot expected w) (hne : c ≠ []) (hc : c.length < 2 ^ (l.val - 1))
    (hn : nodeAt (deployed l chroot) v e = some (.file c))
    (ho : ∀ f, f ≠ e → nodeAt (deployed l chroot) v f = nodeAt (deployed l chroot) w f)
    (hv : Unlinked (deployed l chroot) v) :
    Digests l chroot (Function.update expected e (some (Sha256.sha256 c))) v := by
  refine ⟨fun f => ?_, hv⟩
  by_cases hf : f = e
  · subst hf
    refine ⟨c, hne, hc, hn, fun d hd => ?_⟩
    rw [Function.update_self] at hd
    exact Option.some.inj hd
  · obtain ⟨b, hb, hlen, hbn, hd⟩ := hw.files f
    exact ⟨b, hb, hlen, (ho f hf).trans hbn, fun d h => hd d (by rwa [Function.update_of_ne hf] at h)⟩

lemma Digests.kept (hw : Digests l chroot expected w)
    (hv : Written (deployed l chroot) w e (nodeAt (deployed l chroot) w e) v) : Digests l chroot expected v := by
  refine ⟨fun f => ?_, hv.unlinked⟩
  obtain ⟨c, hc, hlen, hcn, hd⟩ := hw.files f
  refine ⟨c, hc, hlen, ?_, hd⟩
  by_cases hf : f = e
  · subst hf
    exact hv.node.trans hcn
  · exact (hv.other f hf).trans hcn

def Fits (l : Picosha2.LongWidth) (ev : Event) : Prop := ¬ ev.Empties ∧ ∀ s ∈ ev.strings, s.length < 2 ^ (l.val - 1)

lemma serve_digest {ev : Event} (hw : Digests l chroot expected w) (hev : Fits l ev) :
    ∃ resp v, WifiStore.serve (deployed l chroot) ev w = some (resp, v) ∧ DigestLawful (deployed l chroot) expected w resp v ev ∧
      Digests l chroot (nextDigests expected resp ev) v := by
  cases ev with
  | get e =>
    obtain ⟨c, hc, hlen, hn, hd⟩ := hw.files e
    refine ⟨_, w, serve_get hn hc, fun d h => ?_, hw⟩
    rw [← hd d h]
    exact reportsDigest_report hlen
  | put e u a =>
    obtain ⟨c, hc, hlen, hn, -⟩ := hw.files e
    have ht : compared (deployed l chroot) a c = some (sha256Hex (deployed l chroot) c) := compared_of_ne hc
    obtain ⟨resp, v, hserve, hput⟩ := serve_put u hw.unlinked hn ht
    have hs : u.contents.val.length < 2 ^ (l.val - 1) := hev.2 _ rfl
    refine ⟨resp, v, hserve, ?_⟩
    cases hput with
    | same heq =>
      have hdigest := (sha256Hex_eq_iff hs hlen).mp heq
      have hupdate : nextDigests expected (readBack (deployed l chroot) c) (.put e u a) =
          Function.update expected e (some (Sha256.sha256 c)) := by
        rw [hdigest, readBack_of_ne hc]
        rfl
      refine ⟨⟨fun d hd => ?_, fun _ => ⟨?_, c, hn, hdigest⟩, fun _ => rfl, fun _ _ => rfl⟩, ?_⟩
      · obtain rfl := file_unique hn hd
        exact iff_of_true ((silent_iff hn ht).mpr ⟨heq, rfl⟩) hdigest
      · rw [← hdigest, readBack_of_ne hc]
        exact reportsDigest_report hlen
      · rw [hupdate]
        exact hw.update hc hlen hn (fun _ _ => rfl) hw.unlinked
    | stored hdiff hwr hnode hother _ hlinks =>
      have hempty : u.contents.val ≠ [] := fun h => hev.1 ⟨h, hwr⟩
      rw [readBack_of_ne hempty]
      refine ⟨⟨fun d hd => ?_, fun _ => ⟨reportsDigest_report hs, _, hnode, rfl⟩, fun hr => absurd rfl hr, hother⟩, ?_⟩
      · obtain rfl := file_unique hn hd
        exact iff_of_false (fun h => hdiff ((silent_iff hn ht).mp h).1) fun h => hdiff ((sha256Hex_eq_iff hs hlen).mpr h)
      · exact hw.update hempty hs hnode hother hlinks
    | failed hdiff hwr hkept =>
      refine ⟨⟨fun d hd => ?_, fun hr => Status.noConfusion hr, fun _ => hkept.node, hkept.other⟩, hw.kept hkept⟩
      obtain rfl := file_unique hn hd
      exact iff_of_false (fun h => hdiff ((silent_iff hn ht).mp h).1) fun h => hdiff ((sha256Hex_eq_iff hs hlen).mpr h)

lemma digestLaw_of_digests {evs : List Event} (hw : Digests l chroot expected w) (hev : ∀ ev ∈ evs, Fits l ev) :
    DigestLaw (deployed l chroot) expected w evs := by
  induction evs generalizing expected w with
  | nil => trivial
  | cons ev evs ih =>
    obtain ⟨resp, v, hserve, hlaw, hv⟩ := serve_digest hw (hev ev (.head evs))
    exact ⟨resp, v, hserve, hlaw, ih hv fun d hd => hev d (.tail ev hd)⟩

theorem digest_law {evs : List Event} (hev : ∀ ev ∈ evs, Fits l ev) (hfiles : ∀ e, ∃ c, c ≠ [] ∧
    c.length < 2 ^ (l.val - 1) ∧ nodeAt (deployed l chroot) w e = some (.file c)) (hlinks : Unlinked (deployed l chroot) w) :
    DigestLaw (deployed l chroot) (fun _ => none) w evs := by
  refine digestLaw_of_digests ⟨fun e => ?_, hlinks⟩ hev
  obtain ⟨c, hc, hlen, hn⟩ := hfiles e
  exact ⟨c, hc, hlen, hn, fun _ h => by simp at h⟩

end runs

section samples

lemma fits_changing : ∀ ev ∈ changing, Fits ⟨32, le_rfl⟩ ev := by
  simp only [changing, List.forall_mem_cons]
  refine ⟨⟨fun h => absurd h.1 (by decide), ?_⟩, ⟨id, fun s hs => hs.elim⟩, by simp⟩
  rintro s rfl
  decide

theorem digest_law_changing : DigestLaw (deployed ⟨32, le_rfl⟩ []) (fun _ => none) configured changing := by
  refine digest_law fits_changing (fun e => ?_) fun e => ?_
  · cases e <;> exact ⟨bytes "a", by decide, by decide, rfl⟩
  · cases e <;> exact .inl rfl

end samples

end RouterCard.Captived.ConfigHash
