import RouterCard.Captived.Daemon
import RouterCard.Text.Matching

namespace RouterCard.Captived.ArtifactName

open Text Interaction

section grammar

def models : Language UInt8 := repeated 1 isWordOrDash
def numbers : Language UInt8 := repeated 1 isDigit
def hashes : Language UInt8 := repeated 1 isHashChar

def releases : Language UInt8 := numbers * word (bytes ".") * numbers * word (bytes ".") * numbers

-- N.N.N-N
def versions : Language UInt8 := releases * word (bytes "-") * numbers

def marker : Bytes := bytes "artifact_name="

def image (model version hash : Bytes) : Bytes := model ++ bytes "-v" ++ version ++ bytes "-g" ++ hash

structure Parses (line m v h : Bytes) : Prop where
  model : m ∈ models
  version : v ∈ versions
  hash : h ∈ hashes
  ends : marker ++ image m v h <:+ line

variable {line m v h m' v' h' s a : Bytes} {c : Capture}

lemma reads_version : Reads versionPattern versions :=
  ((((((reads_many 1 isDigit).append (reads_literal _)).append (reads_many 1 isDigit)).append (reads_literal _)).append
    (reads_many 1 isDigit)).append (reads_literal _)).append (reads_many 1 isDigit)

lemma matches_hash : Matches [.literal (bytes "-g"), .many 1 isHashChar, .lineEnd] s c a ↔
    ∃ h ∈ hashes, s = bytes "-g" ++ h ∧ c.text = a := by
  constructor
  · rintro ⟨_, rfl, h, t, rfl, hn, hh, rfl, htext⟩
    exact ⟨h, ⟨hn, hh⟩, by rw [List.append_nil], htext⟩
  · rintro ⟨h, ⟨hn, hh⟩, rfl, htext⟩
    exact ⟨h, rfl, h, [], (List.append_nil h).symm, hn, hh, rfl, htext⟩

lemma matches_model : Matches Model.pattern s .empty a ↔
    a ∈ models ∧ ∃ v ∈ versions, ∃ h ∈ hashes, s = marker ++ image a v h := by
  have hmarker := reads_literal marker
  have hversion := (reads_literal (bytes "-v")).append reads_version
  have hpattern : Model.pattern = [.literal marker] ++ (group [.many 1 isWordOrDash] ++
    ([.literal (bytes "-v")] ++ versionPattern ++ [.literal (bytes "-g"), .many 1 isHashChar, .lineEnd])) := rfl
  rw [hpattern, hmarker]
  constructor
  · rintro ⟨_, rfl, _, rfl, hmodel⟩
    obtain ⟨m, hm, _, rfl, hrest⟩ := (reads_many 1 isWordOrDash).group.mp hmodel
    obtain ⟨u, hu, _, rfl, hhash⟩ := (hversion ..).mp hrest
    obtain ⟨_, rfl, v, hv, rfl⟩ := Language.mem_mul.mp hu
    obtain ⟨h, hh, rfl, rfl⟩ := matches_hash.mp hhash
    exact ⟨hm, v, hv, h, hh, by simp [image]⟩
  · rintro ⟨hm, v, hv, h, hh, rfl⟩
    refine ⟨marker, rfl, image a v h, rfl, (reads_many 1 isWordOrDash).group.mpr ⟨a, hm, _, ?_, (hversion ..).mpr
      ⟨bytes "-v" ++ v, Language.append_mem_mul rfl hv, _, rfl, matches_hash.mpr ⟨h, hh, rfl, rfl⟩⟩⟩⟩
    simp [image]

lemma matches_version : Matches FirmwareVersion.pattern s .empty a ↔
    a ∈ versions ∧ ∃ m ∈ models, ∃ h ∈ hashes, s = marker ++ image m a h := by
  have hmodel := ((reads_literal marker).append (reads_many 1 isWordOrDash)).append (reads_literal (bytes "-v"))
  have hpattern : FirmwareVersion.pattern = [.literal marker] ++ [.many 1 isWordOrDash] ++ [.literal (bytes "-v")] ++
    (group versionPattern ++ [.literal (bytes "-g"), .many 1 isHashChar, .lineEnd]) := rfl
  rw [hpattern, hmodel]
  constructor
  · rintro ⟨u, hu, _, rfl, hversion⟩
    obtain ⟨x, hx, _, rfl, rfl⟩ := Language.mem_mul.mp hu
    obtain ⟨_, rfl, m, hm, rfl⟩ := Language.mem_mul.mp hx
    obtain ⟨v, hv, _, rfl, hhash⟩ := reads_version.group.mp hversion
    obtain ⟨h, hh, rfl, rfl⟩ := matches_hash.mp hhash
    exact ⟨hv, m, hm, h, hh, by simp [image]⟩
  · rintro ⟨hv, m, hm, h, hh, rfl⟩
    refine ⟨marker ++ m ++ bytes "-v", Language.append_mem_mul (Language.append_mem_mul rfl hm) rfl, _, ?_,
      reads_version.group.mpr ⟨a, hv, _, rfl, matches_hash.mpr ⟨h, hh, rfl, rfl⟩⟩⟩
    simp [image]

lemma finds_model : Finds Model.pattern line m ↔ ∃ v h, Parses line m v h := by
  constructor
  · rintro ⟨t, ht, hmatch⟩
    obtain ⟨hm, v, hv, h, hh, rfl⟩ := matches_model.mp hmatch
    exact ⟨v, h, hm, hv, hh, ht⟩
  · rintro ⟨v, h, hp⟩
    exact ⟨_, hp.ends, matches_model.mpr ⟨hp.model, v, hp.version, h, hp.hash, rfl⟩⟩

lemma finds_version : Finds FirmwareVersion.pattern line v ↔ ∃ m h, Parses line m v h := by
  constructor
  · rintro ⟨t, ht, hmatch⟩
    obtain ⟨hv, m, hm, h, hh, rfl⟩ := matches_version.mp hmatch
    exact ⟨m, h, hm, hv, hh, ht⟩
  · rintro ⟨m, h, hp⟩
    exact ⟨_, hp.ends, matches_version.mpr ⟨hp.version, m, hp.model, h, hp.hash, rfl⟩⟩

end grammar

section uniqueness

variable {line m v h m' v' h' y : Bytes} {b : UInt8}

lemma notMem_releases (hy : y ∈ releases) (hdigit : isDigit b = false) (hdot : b ≠ 46) : b ∉ y := by
  obtain ⟨w, hw, k, hk, rfl⟩ := Language.mem_mul.mp hy
  obtain ⟨x, hx, _, rfl, rfl⟩ := Language.mem_mul.mp hw
  obtain ⟨z, hz, j, hj, rfl⟩ := Language.mem_mul.mp hx
  obtain ⟨i, hi, _, rfl, rfl⟩ := Language.mem_mul.mp hz
  have hpoint : b ∉ bytes "." := by simpa [show bytes "." = [46] from rfl] using hdot
  simp only [List.mem_append, not_or]
  exact ⟨⟨⟨⟨notMem_repeated hi hdigit, hpoint⟩, notMem_repeated hj hdigit⟩, hpoint⟩, notMem_repeated hk hdigit⟩

lemma Parses.marked (hp : Parses line m v h) : ∃ pre y d, v = y ++ 45 :: d ∧ 118 ∉ y ∧ 45 ∉ d ∧
    line = (((pre ++ 61 :: (m ++ [45])) ++ 118 :: y) ++ 45 :: d) ++ 45 :: 103 :: h := by
  obtain ⟨x, hx, d, hd, rfl⟩ := Language.mem_mul.mp hp.version
  obtain ⟨y, hy, _, rfl, rfl⟩ := Language.mem_mul.mp hx
  obtain ⟨pre, rfl⟩ := hp.ends
  refine ⟨pre ++ bytes "artifact_name", y, d, ?_, notMem_releases hy rfl (by decide), notMem_repeated hd rfl, ?_⟩
  · exact List.append_assoc ..
  · have hmarker : marker = bytes "artifact_name" ++ [61] := rfl
    have hv : bytes "-v" = [45, 118] := rfl
    have hg : bytes "-g" = [45, 103] := rfl
    have hdash : bytes "-" = [45] := rfl
    simp [hmarker, image, hv, hg, hdash]

lemma Parses.unique (hp : Parses line m v h) (hp' : Parses line m' v' h') : m = m' ∧ v = v' ∧ h = h' := by
  obtain ⟨pre, y, d, rfl, hy, hd, hline⟩ := hp.marked
  obtain ⟨pre', y', d', rfl, hy', hd', hline'⟩ := hp'.marked
  have hhash : ∀ {m v h}, Parses line m v h → 45 ∉ 103 :: h := fun hp => by
    simpa using notMem_repeated (b := 45) hp.hash rfl
  have hmodel : ∀ {m v h}, Parses line m v h → 61 ∉ m ++ [45] := fun hp => by
    simpa using notMem_repeated (b := 61) hp.model rfl
  obtain ⟨hdash, hh⟩ := append_cons_inj (hhash hp) (hhash hp') (hline.symm.trans hline')
  obtain ⟨hversion, rfl⟩ := append_cons_inj hd hd' hdash
  obtain ⟨hequals, rfl⟩ := append_cons_inj hy hy' hversion
  obtain ⟨-, hm⟩ := append_cons_inj (hmodel hp) (hmodel hp') hequals
  exact ⟨List.append_cancel_right hm, rfl, (List.cons.inj hh).2⟩

lemma search_model : search Model.pattern line = some m ↔ ∃ v h, Parses line m v h := by
  rw [search_iff, finds_model]
  intro a b ha hb
  obtain ⟨v, h, ha⟩ := finds_model.mp ha
  obtain ⟨v', h', hb⟩ := finds_model.mp hb
  exact (ha.unique hb).1

lemma search_version : search FirmwareVersion.pattern line = some v ↔ ∃ m h, Parses line m v h := by
  rw [search_iff, finds_version]
  intro a b ha hb
  obtain ⟨m, h, ha⟩ := finds_version.mp ha
  obtain ⟨m', h', hb⟩ := finds_version.mp hb
  exact (ha.unique hb).2.1

lemma Parses.notMem (hp : Parses line m v h) (hword : isWordOrDash b = false) (hdigit : isDigit b = false)
    (hhash : isHashChar b = false) (hpoint : b ∉ bytes ".-vg") : b ∉ image m v h := by
  obtain ⟨x, hx, d, hd, rfl⟩ := Language.mem_mul.mp hp.version
  obtain ⟨y, hy, _, rfl, rfl⟩ := Language.mem_mul.mp hx
  have hpoints : bytes ".-vg" = [46, 45, 118, 103] := rfl
  have hv : bytes "-v" = [45, 118] := rfl
  have hg : bytes "-g" = [45, 103] := rfl
  have hdash : bytes "-" = [45] := rfl
  simp only [hpoints, List.mem_cons, List.not_mem_nil, or_false, not_or] at hpoint
  simp [image, hv, hg, hdash, hpoint, notMem_repeated hp.model hword, notMem_repeated hp.hash hhash,
    notMem_repeated hd hdigit, notMem_releases hy hdigit hpoint.1]

lemma Parses.search_image (hp : Parses line m v h) (honce : OccursOnce marker line) :
    search FirmwareImage.pattern line = some (image m v h) := by
  have hdot : (image m v h).takeWhile dot = image m v h := by
    refine List.takeWhile_eq_self_iff.mpr fun b hb => ?_
    have h10 : b ≠ 10 := fun he => hp.notMem rfl rfl rfl (by decide) (he ▸ hb)
    have h13 : b ≠ 13 := fun he => hp.notMem rfl rfl rfl (by decide) (he ▸ hb)
    simp [dot, h10, h13]
  have hmarker : search FirmwareImage.pattern line = (afterFirst marker line).map (List.takeWhile dot) := search_marker
  rw [hmarker, honce.afterFirst hp.ends, Option.map_some, hdot]

end uniqueness

section programs

def reading (contents : Bytes) : (c : Call) → Unit → Option (c.Reply × Unit)
  | .readFile _, _ => some (some contents, ())
  | _, _ => none

def value (contents : Bytes) (p : Prog (Option Bytes)) : Option Bytes := (p.exec (reading contents) ()).bind Prod.fst

structure OneParse (line : Bytes) (model version imageName : Option Bytes) : Prop where
  together : model.isSome = true ↔ version.isSome = true
  parsed : ∀ m v, model = some m → version = some v → ∃ h, Parses line m v h ∧
    (∀ m' v' h', Parses line m' v' h' → m' = m ∧ v' = v ∧ h' = h) ∧ (OccursOnce marker line → imageName = some (image m v h))
  back : ∀ m v h, Parses line m v h → model = some m ∧ version = some v

variable {contents line : Bytes}

lemma value_parse (sys : System) (filename : Bytes) (pattern : Pattern) (h : getline contents = some line) :
    value contents (ArtifactInfo.parse sys filename pattern) = search pattern line := by
  have hparse : value contents (ArtifactInfo.parse sys filename pattern) = (getline contents).bind (search pattern) := rfl
  rw [hparse, h, Option.bind_some]

theorem one_parse (sys : System) (filename : Bytes) (h : getline contents = some line) :
    OneParse line (value contents (Model.modelNumber sys filename)) (value contents (FirmwareVersion.version sys filename))
      (value contents (FirmwareImage.imageName sys filename)) := by
  rw [Model.modelNumber, FirmwareVersion.version, FirmwareImage.imageName, value_parse sys filename _ h,
    value_parse sys filename _ h, value_parse sys filename _ h]
  refine ⟨?_, fun m v hm hv => ?_, fun m v h hp => ⟨search_model.mpr ⟨v, h, hp⟩, search_version.mpr ⟨m, h, hp⟩⟩⟩
  · simp only [Option.isSome_iff_exists, search_model, search_version]
    constructor
    · rintro ⟨m, v, h, hp⟩
      exact ⟨v, m, h, hp⟩
    · rintro ⟨v, m, h, hp⟩
      exact ⟨m, v, h, hp⟩
  · obtain ⟨v', h, hp⟩ := search_model.mp hm
    obtain ⟨m', h', hp'⟩ := search_version.mp hv
    obtain ⟨rfl, rfl, rfl⟩ := hp.unique hp'
    exact ⟨h, hp, fun m' v' h' hq => hq.unique hp, hp.search_image⟩

def released : Bytes := bytes "artifact_name=xaprw001-v2-v1.0.13-16-g28c001d"

theorem one_parse_released : OneParse released
    (value (released ++ [10]) (Model.modelNumber Sample.bare FILE_FIRMWARE_VERSION))
    (value (released ++ [10]) (FirmwareVersion.version Sample.bare FILE_FIRMWARE_VERSION))
    (value (released ++ [10]) (FirmwareImage.imageName Sample.bare FILE_FIRMWARE_VERSION)) :=
  one_parse Sample.bare FILE_FIRMWARE_VERSION (by decide)

end programs

end RouterCard.Captived.ArtifactName
