import RouterCard.Captived.ModeChange
import RouterCard.Text.Separators

/-! The name of a mode on its way into the text of the link and back: `substr` between the
last slash and the last period, with positions that wrap around where one is missing. -/

namespace RouterCard.Captived.ModeNames

open Text Interaction Mode ModeChange

section positions

variable {s front rest comp stem : Bytes} {c : UInt8}

lemma findLastOf_none (h : c ∉ s) : findLastOf s c = none := by
  have hnone : s.reverse.findIdx? (· == c) = none := by
    rw [List.findIdx?_eq_none_iff]
    intro b hb
    have hne : b ≠ c := fun he => h (he ▸ List.mem_reverse.mp hb)
    simpa using hne
  rw [findLastOf, hnone, Option.map_none]

lemma findLastOf_append (h : c ∉ rest) : findLastOf (front ++ c :: rest) c = some front.length := by
  have hsome : (front ++ c :: rest).reverse.findIdx? (· == c) = some rest.length := by
    have hrest : rest.reverse.findIdx? (· == c) = none := by
      rw [List.findIdx?_eq_none_iff]
      intro b hb
      have hne : b ≠ c := fun he => h (he ▸ List.mem_reverse.mp hb)
      simpa using hne
    simp [List.findIdx?_append, hrest, List.findIdx?_cons]
  rw [findLastOf, hsome, Option.map_some, List.length_append, List.length_cons]
  congr 1
  omega

lemma substr_eq {pos count : ℕ} (h : pos ≤ s.length) : substr s pos count = some ((s.drop pos).take count) := if_pos h

lemma period_count (h : BeforeLast 46 comp stem) (hlen : (front ++ 47 :: comp).length < 2 ^ 63) :
    comp.take (sizeT (position (findLastOf (front ++ 47 :: comp) 46) - front.length - 1)) = stem := by
  have hlength : (front ++ 47 :: comp).length = front.length + (comp.length + 1) := by simp
  rcases h with ⟨hno, rfl⟩ | ⟨ext, hext, rfl⟩
  · apply List.take_of_length_le
    by_cases hf : (46 : UInt8) ∈ front
    · obtain ⟨a, b, rfl, hb⟩ := exists_last hf
      have htail : (46 : UInt8) ∉ b ++ 47 :: comp := by
        simp only [List.mem_append, List.mem_cons, not_or]
        exact ⟨hb, by decide, hno⟩
      rw [List.append_assoc, List.cons_append, findLastOf_append htail]
      simp only [position, Option.getD_some, sizeT, List.length_append, List.length_cons] at hlength hlen ⊢
      omega
    · have hnone : (46 : UInt8) ∉ front ++ 47 :: comp := by
        simp only [List.mem_append, List.mem_cons, not_or]
        exact ⟨hf, by decide, hno⟩
      rw [findLastOf_none hnone]
      simp only [position, Option.getD_none, sizeT]
      omega
  · have hsplit : front ++ 47 :: (stem ++ 46 :: ext) = (front ++ 47 :: stem) ++ 46 :: ext := by simp
    have hcount : sizeT (position (findLastOf (front ++ 47 :: (stem ++ 46 :: ext)) 46) - front.length - 1) = stem.length := by
      rw [hsplit, findLastOf_append hext]
      simp only [position, Option.getD_some, sizeT, List.length_append, List.length_cons] at hlen ⊢
      omega
    rw [hcount, List.take_left]

-- Without a slash its position is npos, and both sums wrap around.
lemma period_count_flat (h : BeforeLast 46 comp stem) (hlen : comp.length < 2 ^ 63) :
    comp.take (sizeT (position (findLastOf comp 46) - (2 ^ 64 - 1 : ℕ) - 1)) = stem := by
  rcases h with ⟨hno, rfl⟩ | ⟨ext, hext, rfl⟩
  · apply List.take_of_length_le
    rw [findLastOf_none hno]
    simp only [position, Option.getD_none, sizeT]
    omega
  · have hcount : sizeT (position (findLastOf (stem ++ 46 :: ext) 46) - (2 ^ 64 - 1 : ℕ) - 1) = stem.length := by
      rw [findLastOf_append hext]
      simp only [position, Option.getD_some, sizeT, List.length_append] at hlen ⊢
      omega
    rw [hcount, List.take_left]

lemma modeOfLink_eq {t : Bytes} (hlen : t.length < 2 ^ 63) (hc : AfterLast 47 t comp) (hs : BeforeLast 46 comp stem) :
    modeOfLink t = some stem := by
  obtain ⟨hno, rfl | ⟨front, rfl⟩⟩ := hc
  · have hslash : position (findLastOf t 47) = 2 ^ 64 - 1 := by
      rw [findLastOf_none hno]
      rfl
    rw [modeOfLink, hslash, substr_eq (by simp [sizeT])]
    exact congrArg some (period_count_flat hs hlen)
  · have hslash : position (findLastOf (front ++ 47 :: comp) 47) = front.length := by
      rw [findLastOf_append hno]
      rfl
    have hpos : sizeT ((front.length : ℕ) + 1) = front.length + 1 := by
      simp only [List.length_append, sizeT] at hlen ⊢
      omega
    have hdrop : (front ++ 47 :: comp).drop (front.length + 1) = comp := by
      rw [← List.drop_drop, List.drop_left]
      rfl
    rw [modeOfLink, hslash, hpos, substr_eq (by simp), hdrop]
    exact congrArg some (period_count hs hlen)

end positions

section paths

structure Paths where
  targetPath : Bytes
  modeSymlink : Bytes

namespace Paths

variable (sys : System) (paths : Paths)

def routerModeConfig : Prog (Option Bytes) := do
  let fqLink ← sys.symlinkTarget paths.modeSymlink
  match fqLink with
  | none => return none
  | some fqLink =>
    match modeOfLink fqLink with
    | some mode => return some mode
    | none => abort .outOfRange

def targetName (newMode : Bytes) : Bytes := paths.targetPath ++ bytes "/" ++ newMode ++ bytes ".target"

def setRouterModeConfig (newMode : Bytes) : Prog Bool :=
  if !isValidMode newMode then return false
  else sys.setSymlinkTarget (paths.targetName newMode) paths.modeSymlink

def main : Paths := ⟨PATH_MODE_TARGET, LINK_MODE⟩

end Paths

variable {sys : System} {paths : Paths} {o : Outcomes} {w v : World} {t mode : Bytes}

def Readable (sys : System) (paths : Paths) (o : Outcomes) : Prop :=
  o (.readlink (sys.chroot ++ paths.modeSymlink) ROUTER_CARD_PATH_MAX) = .done

lemma exec_symlinkTarget_link (hw : w.files (sys.chroot ++ paths.modeSymlink) = some (.link t))
    (hlen : t.length < ROUTER_CARD_PATH_MAX) (ho : Readable sys paths o) :
    (sys.symlinkTarget paths.modeSymlink).exec (respond sys o) w = some (some t, w) := by
  have hread : respond sys o (.readlink (sys.chroot ++ paths.modeSymlink) ROUTER_CARD_PATH_MAX) w = some (some t, w) := by
    rw [respond, ho, answer, hw, targetOf, Option.map_some, List.take_of_length_le hlen.le]
  change (respond sys o (.readlink (sys.chroot ++ paths.modeSymlink) ROUTER_CARD_PATH_MAX) w).bind _ = _
  rw [hread, Option.bind_some]
  change some (Option.filter (fun target => decide (target.length < ROUTER_CARD_PATH_MAX)) (some t), w) = _
  rw [Option.filter_some, if_pos (decide_eq_true hlen)]

lemma exec_routerModeConfig_link {comp stem : Bytes} (hw : w.files (sys.chroot ++ paths.modeSymlink) = some (.link t))
    (hlen : t.length < ROUTER_CARD_PATH_MAX) (hc : AfterLast 47 t comp) (hs : BeforeLast 46 comp stem)
    (ho : Readable sys paths o) : (paths.routerModeConfig sys).exec (respond sys o) w = some (some stem, w) := by
  have hmode : modeOfLink t = some stem := modeOfLink_eq (hlen.trans (by decide)) hc hs
  rw [Paths.routerModeConfig, Program.exec_bind, exec_symlinkTarget_link hw hlen ho, Option.bind_some]
  simp only [hmode]
  rfl

lemma target_afterLast (front mode : Bytes) (hm : isValidMode mode = true) :
    AfterLast 47 (front ++ bytes "/" ++ mode ++ bytes ".target") (mode ++ bytes ".target") ∧
      BeforeLast 46 (mode ++ bytes ".target") mode := by
  have hmode : mode = MODE_SECURE_HOST ∨ mode = MODE_PASSTHROUGH := by simpa [isValidMode] using hm
  have hslash : (47 : UInt8) ∉ mode ++ bytes ".target" := by
    rcases hmode with rfl | rfl <;> decide
  refine ⟨⟨hslash, .inr ⟨front, ?_⟩⟩, .inr ⟨bytes "target", by decide, rfl⟩⟩
  rw [List.append_assoc, List.append_assoc]
  rfl

theorem mode_names_survive (sys : System) (paths : Paths) :
    (∀ t, t.length < ROUTER_CARD_PATH_MAX → ∃ comp stem, AfterLast 47 t comp ∧ BeforeLast 46 comp stem ∧
      modeOfLink t = some stem ∧ ∀ o w, w.files (sys.chroot ++ paths.modeSymlink) = some (.link t) →
        Readable sys paths o → (paths.routerModeConfig sys).exec (respond sys o) w = some (some stem, w)) ∧
    ∀ mode, isValidMode mode = true → (sys.chroot ++ paths.targetName mode).length < ROUTER_CARD_PATH_MAX →
      ∀ o w v, (paths.setRouterModeConfig sys mode).exec (respond sys o) w = some (true, v) →
        ∀ o', Readable sys paths o' → (paths.routerModeConfig sys).exec (respond sys o') v = some (some mode, v) := by
  constructor
  · intro t hlen
    obtain ⟨comp, hc⟩ := exists_afterLast 47 t
    obtain ⟨stem, hs⟩ := exists_beforeLast 46 comp
    refine ⟨comp, stem, hc, hs, modeOfLink_eq (hlen.trans (by decide)) hc hs, fun o w hw ho => ?_⟩
    exact exec_routerModeConfig_link hw hlen hc hs ho
  · intro mode hm hlen o w v hset o' ho
    rw [Paths.setRouterModeConfig, hm] at hset
    have hlink := (exec_setSymlinkTarget hset).of_true.2
    obtain ⟨hc, hs⟩ := target_afterLast (sys.chroot ++ paths.targetPath) mode hm
    have htext : sys.chroot ++ paths.targetName mode = sys.chroot ++ paths.targetPath ++ bytes "/" ++ mode ++ bytes ".target" := by
      simp only [Paths.targetName, List.append_assoc]
    rw [htext] at hlink hlen
    exact exec_routerModeConfig_link hlink hlen hc hs ho

end paths

section samples

def dotted : Bytes := bytes "/etc/systemd.d/rescue"

theorem mode_names_survive_dotted : (∃ comp stem, AfterLast 47 dotted comp ∧ BeforeLast 46 comp stem ∧
      modeOfLink dotted = some stem ∧ ∀ o w, w.files (Sample.bare.chroot ++ Paths.main.modeSymlink) = some (.link dotted) →
        Readable Sample.bare .main o → (Paths.main.routerModeConfig Sample.bare).exec (respond Sample.bare o) w =
          some (some stem, w)) ∧
    ∃ v, (Paths.main.setRouterModeConfig Sample.bare MODE_SECURE_HOST).exec (respond Sample.bare fun _ => .done) passthrough =
        some (true, v) ∧
      (Paths.main.routerModeConfig Sample.bare).exec (respond Sample.bare fun _ => .done) v = some (some MODE_SECURE_HOST, v) := by
  obtain ⟨hread, hback⟩ := mode_names_survive Sample.bare .main
  refine ⟨hread dotted (by decide), _, rfl, ?_⟩
  exact hback MODE_SECURE_HOST (by decide) (by decide) (fun _ => .done) passthrough _ rfl (fun _ => .done) rfl

example : modeOfLink dotted = some (bytes "rescue") := by decide

end samples

end RouterCard.Captived.ModeNames
