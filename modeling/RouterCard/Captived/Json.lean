import RouterCard.Text.Bytes

/-! JSON values, and the jansson calls that the daemon wraps in `json.hpp`. A string
of a JSON value is UTF-8 without NUL, which is what jansson decodes and accepts. -/

namespace RouterCard.Captived

open Text

def IsJsonText (s : Bytes) : Prop := validUtf8 s = true ∧ (0 : UInt8) ∉ s

instance (s : Bytes) : Decidable (IsJsonText s) := inferInstanceAs (Decidable (_ ∧ _))

abbrev JsonText := {s : Bytes // IsJsonText s}

inductive Json where
  | null
  | boolean (b : Bool)
  | integer (n : ℤ)
  | real (text : Bytes)
  | string (s : JsonText)
  | array (items : List Json)
  | object (members : List (Bytes × Json))

namespace Json

-- `none` stands for the NULL that jansson returns where it cannot build a value.
def ofString (s : Bytes) : Option Json :=
  if h : IsJsonText (cString s) then some (.string ⟨cString s, h⟩) else none

def isNull : Option Json → Bool
  | some .null => true
  | _ => false

def insert (key : Bytes) (v : Json) : List (Bytes × Json) → List (Bytes × Json)
  | [] => [(key, v)]
  | (k, u) :: rest => if k = key then (k, v) :: rest else (k, u) :: insert key v rest

-- json_object_set gets `key.c_str()` and refuses a key that is not UTF-8; its result is ignored.
def objectSet (obj : Json) (key : Bytes) (v : Option Json) : Json :=
  match obj, v with
  | .object ms, some v => if IsJsonText (cString key) then .object (insert (cString key) v ms) else .object ms
  | obj, _ => obj

def arrayAppend (arr : Json) (v : Option Json) : Json :=
  match arr, v with
  | .array vs, some v => .array (vs ++ [v])
  | arr, _ => arr

def objectGet (obj : Json) (key : Bytes) : Option Json :=
  match obj with
  | .object ms => (ms.find? fun m => m.1 = key).map Prod.snd
  | _ => none

lemma objectGet_insert_self (key : Bytes) (v : Json) (ms : List (Bytes × Json)) :
    objectGet (.object (insert key v ms)) key = some v := by
  induction ms with
  | nil => simp [objectGet, insert]
  | cons m ms ih =>
    by_cases h : m.1 = key
    · simp [objectGet, insert, h]
    · simpa [objectGet, insert, h] using ih

lemma objectGet_insert_of_ne {key k : Bytes} (h : k ≠ key) (v : Json) (ms : List (Bytes × Json)) :
    objectGet (.object (insert key v ms)) k = objectGet (.object ms) k := by
  induction ms with
  | nil => simp [objectGet, insert, h.symm]
  | cons m ms ih =>
    by_cases hk : m.1 = key
    · simp [objectGet, insert, hk, h.symm]
    · by_cases hm : m.1 = k
      · simp [objectGet, insert, hm, h]
      · simpa [objectGet, insert, hk, hm] using ih

lemma objectSet_text {key : Bytes} (hk : IsJsonText key) (ms : List (Bytes × Json)) (v : Json) :
    objectSet (.object ms) key (some v) = .object (insert key v ms) := by
  have hc : cString key = key := cString_of_not_mem hk.2
  simp only [objectSet, hc, hk, if_true]

lemma objectSet_object (ms : List (Bytes × Json)) (key : Bytes) (v : Option Json) :
    ∃ ms', objectSet (.object ms) key v = .object ms' := by
  cases v with
  | none => exact ⟨ms, rfl⟩
  | some v =>
    simp only [objectSet]
    split_ifs
    · exact ⟨_, rfl⟩
    · exact ⟨ms, rfl⟩

lemma objectGet_set_of_ne {name key : Bytes} (h : name ≠ cString key) (obj : Json) (v : Option Json) :
    objectGet (objectSet obj key v) name = objectGet obj name := by
  cases obj with
  | object ms =>
    cases v with
    | none => rfl
    | some v =>
      simp only [objectSet]
      split_ifs
      · exact objectGet_insert_of_ne h v ms
      · rfl
  | _ => cases v <;> rfl

lemma objectGet_set_self {key : Bytes} (hk : IsJsonText key) {ms : List (Bytes × Json)}
    (h : objectGet (.object ms) key = none) (v : Option Json) : objectGet (objectSet (.object ms) key v) key = v := by
  cases v with
  | none => exact h
  | some v =>
    rw [objectSet_text hk]
    exact objectGet_insert_self key v ms

lemma ofString_text (s : JsonText) : ofString s.val = some (.string s) := by
  have hs := cString_of_not_mem s.property.2
  have ht : IsJsonText (cString s.val) := hs.symm ▸ s.property
  rw [ofString, dif_pos ht]
  exact congrArg (fun t => some (Json.string t)) (Subtype.ext hs)

lemma isJsonText_ascii {s : Bytes} (h : ∀ b ∈ s, 0 < b.toNat ∧ b.toNat < 0x80) : IsJsonText s := by
  refine ⟨validUtf8_ascii fun b hb => (h b hb).2, fun hz => ?_⟩
  exact absurd (h 0 hz).1 (by decide)

end Json

end RouterCard.Captived
