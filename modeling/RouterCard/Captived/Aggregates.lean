import RouterCard.Captived.Alone
import RouterCard.Captived.Daemon

namespace RouterCard.Captived.Aggregates

open Text Interaction AggregateResource

instance : Nonempty (Status × Json) := ⟨(.ok, .null)⟩

abbrev Answering := (c : Call) → World → Option (c.Reply × World)

def Gets (f : Answering) (I : World → Prop) (r : Resource) (resp : Resp) : Prop :=
  ∀ b w, I w → ∃ v, (r.get b).exec f w = some (resp, v) ∧ I v

-- The finite trees of aggregates whose leaves get a fixed body, not NULL, with distinct names
-- at each node that can be keys of a JSON object.
inductive IsTree (f : Answering) (I : World → Prop) : Resource → Prop
  | leaf {r : Resource} {status : Status} {body : Json} : Gets f I r (status, some body) → IsTree f I r
  | aggregate {r : Resource} {children : List Child} : r.get = AggregateResource.get children →
      (children.map Child.name).Nodup → (∀ c ∈ children, IsJsonText c.name) → (∀ c ∈ children, IsTree f I c.res) →
      IsTree f I r

-- A response with a body.
def full (a : Status × Json) : Resp := (a.1, some a.2)

def Omitted (c : Child) (a : Status × Json) : Prop := c.omitNull = true ∧ (a.1 ≠ .ok ∨ a.2 = .null)

variable {f : Answering} {I : World → Prop} {w v : World}

section members

variable (value : Child → Status × Json)

def member (c : Child) : Json := (shown (full (value c))).getD .null

lemma shown_full (c : Child) : shown (full (value c)) = some (member value c) := by
  rw [member, shown]
  split_ifs <;> rfl

def skips (c : Child) : Bool := c.omitNull && Json.isNull (shown (full (value c)))

lemma skips_iff (c : Child) : skips value c = true ↔ Omitted c (value c) := by
  have hnull : ∀ j : Json, Json.isNull (some j) = true ↔ j = .null := by
    intro j
    cases j <;> simp [Json.isNull]
  rw [skips, Bool.and_eq_true, shown, full, Omitted]
  refine and_congr_right fun _ => ?_
  by_cases h : (value c).1 = .ok <;> simp [h, hnull]

def members (children : List Child) : List (Bytes × Json) :=
  (children.filter fun c => !skips value c).map fun c => (c.name, member value c)

lemma mem_keys {children : List Child} {key : Bytes} :
    key ∈ (members value children).map Prod.fst ↔ ∃ c ∈ children, c.name = key ∧ ¬ Omitted c (value c) := by
  simp only [members, List.map_map, List.mem_map, List.mem_filter, Function.comp_apply, Bool.not_eq_true',
    Bool.eq_false_iff, ne_eq, skips_iff]
  constructor
  · rintro ⟨c, ⟨hc, ho⟩, rfl⟩
    exact ⟨c, hc, rfl, ho⟩
  · rintro ⟨c, hc, rfl, ho⟩
    exact ⟨c, ⟨hc, ho⟩, rfl⟩

lemma nodup_keys {children : List Child} (h : (children.map Child.name).Nodup) :
    ((members value children).map Prod.fst).Nodup := by
  rw [members, List.map_map]
  apply List.Nodup.sublist _ h
  exact List.filter_sublist.map _

lemma objectGet_of_mem {ms : List (Bytes × Json)} {key : Bytes} {j : Json} (hn : (ms.map Prod.fst).Nodup)
    (h : (key, j) ∈ ms) : Json.objectGet (.object ms) key = some j := by
  induction ms with
  | nil => simp at h
  | cons m ms ih =>
    obtain ⟨hm, hn⟩ := List.nodup_cons.mp hn
    rcases List.mem_cons.mp h with rfl | h
    · simp [Json.objectGet]
    · have hne : m.1 ≠ key := fun he => hm (he ▸ List.mem_map_of_mem (f := Prod.fst) h)
      have hih := ih hn h
      simpa [Json.objectGet, hne] using hih

lemma insert_of_not_mem {ms : List (Bytes × Json)} {key : Bytes} (j : Json) (h : key ∉ ms.map Prod.fst) :
    Json.insert key j ms = ms ++ [(key, j)] := by
  induction ms with
  | nil => rfl
  | cons m ms ih =>
    rw [List.map_cons, List.mem_cons, not_or] at h
    simp [Json.insert, Ne.symm h.1, ih h.2]

lemma added_full (c : Child) (ms : List (Bytes × Json)) : added (.object ms) c (full (value c)) =
    if skips value c then .object ms else Json.objectSet (.object ms) c.name (some (member value c)) := by
  rw [← shown_full]
  rfl

lemma foldl_added {l : List (Child × Resp)} (hl : ∀ a ∈ l, a.2 = full (value a.1))
    (hn : ((l.map Prod.fst).map Child.name).Nodup) (ht : ∀ c ∈ l.map Prod.fst, IsJsonText c.name) {ms : List (Bytes × Json)}
    (hms : ∀ c ∈ l.map Prod.fst, c.name ∉ ms.map Prod.fst) :
    l.foldl (fun obj a => added obj a.1 a.2) (.object ms) = .object (ms ++ members value (l.map Prod.fst)) := by
  induction l generalizing ms with
  | nil => simp [members]
  | cons a l ih =>
    obtain ⟨c, resp⟩ := a
    obtain rfl : resp = full (value c) := hl _ (.head _)
    rw [List.map_cons, List.map_cons] at hn
    obtain ⟨hc, hn⟩ := List.nodup_cons.mp hn
    have hrest : ∀ a ∈ l, a.2 = full (value a.1) := fun a ha => hl a (.tail _ ha)
    have hkeys : ∀ d ∈ l.map Prod.fst, IsJsonText d.name := fun d hd => ht d (.tail c hd)
    rw [List.foldl_cons, added_full]
    by_cases hs : skips value c = true
    · rw [if_pos hs, ih hrest hn hkeys fun d hd => hms d (.tail c hd)]
      simp [members, hs]
    · have hfresh : ∀ d ∈ l.map Prod.fst, d.name ∉ (ms ++ [(c.name, member value c)]).map Prod.fst := by
        intro d hd
        simp only [List.map_append, List.map_cons, List.map_nil, List.mem_append, List.mem_singleton, not_or]
        exact ⟨hms d (.tail c hd), fun he => hc (he ▸ List.mem_map_of_mem hd)⟩
      rw [if_neg hs, Json.objectSet_text (ht c (.head _)), insert_of_not_mem _ (hms c (.head _)), ih hrest hn hkeys hfresh]
      simp [members, hs]

end members

lemma exec_get {value : Child → Status × Json} {children : List Child} (hch : ∀ c ∈ children, Gets f I c.res (full (value c)))
    (hn : (children.map Child.name).Nodup) (ht : ∀ c ∈ children, IsJsonText c.name) {r : Resource}
    (hr : r.get = AggregateResource.get children) : Gets f I r (.ok, some (.object (members value children))) := by
  intro b w hw
  obtain ⟨l, v, rfl, hl, hI, hv⟩ := exec_addResources (f := f) (P := fun c resp => resp = full (value c)) (fun c hc w hw => by
    obtain ⟨v, hv, hI⟩ := hch c hc (some .null) w hw
    exact ⟨_, v, hv, hI, rfl⟩) (.object []) hw
  refine ⟨v, ?_, hI⟩
  rw [hr, AggregateResource.get, Program.exec_bind, hv, foldl_added value hl hn ht fun _ _ => List.not_mem_nil]
  rfl

lemma IsTree.gets {r : Resource} (h : IsTree f I r) : ∃ a : Status × Json, Gets f I r (full a) := by
  induction h with
  | leaf h => exact ⟨(_, _), h⟩
  | aggregate hr hn ht _ ih =>
    choose! value hvalue using ih
    exact ⟨(.ok, .object _), exec_get hvalue hn ht hr⟩

theorem aggregate_agrees {r : Resource} {children : List Child} (hr : r.get = AggregateResource.get children)
    (hn : (children.map Child.name).Nodup) (ht : ∀ c ∈ children, IsJsonText c.name)
    (hch : ∀ c ∈ children, IsTree f I c.res) :
    ∃ (value : Child → Status × Json) (ms : List (Bytes × Json)),
      (∀ c ∈ children, Gets f I c.res (full (value c))) ∧
      Gets f I r (.ok, some (.object ms)) ∧ (ms.map Prod.fst).Nodup ∧
      (∀ key, key ∈ ms.map Prod.fst ↔ ∃ c ∈ children, c.name = key ∧ ¬ Omitted c (value c)) ∧
      ∀ c ∈ children, ¬ Omitted c (value c) → Json.objectGet (.object ms) c.name = shown (full (value c)) := by
  choose! value hvalue using fun c hc => (hch c hc).gets
  refine ⟨value, members value children, hvalue, exec_get hvalue hn ht hr, nodup_keys value hn,
    fun key => mem_keys value, fun c hc ho => ?_⟩
  rw [shown_full]
  refine objectGet_of_mem (nodup_keys value hn) (List.mem_map.mpr ⟨c, List.mem_filter.mpr ⟨hc, ?_⟩, rfl⟩)
  rw [Bool.not_eq_true', Bool.eq_false_iff, ne_eq, skips_iff]
  exact ho

section samples

open Sample

def files : Files := fun path => if path = FILE_WIFI_MAC_ADDRESS_1 then some (.file (bytes "aa\n")) else none

def pair : List Child := [⟨bytes "1", Main.macAddr1 bare, false⟩, ⟨bytes "2", Main.macAddr2 bare, true⟩]

def reads : Answering := respond bare fun _ => .done

lemma gets_macAddr1 : Gets reads (fun w => w.files = files) (Main.macAddr1 bare)
    (.ok, some (.string ⟨bytes "aa", by decide⟩)) := by
  rintro b ⟨m, env, l, reg, caught, fs, loaded⟩ (rfl : fs = files)
  exact ⟨_, rfl, rfl⟩

lemma gets_macAddr2 : ∃ body, Gets reads (fun w => w.files = files) (Main.macAddr2 bare) (.internalServerError, some body) := by
  refine ⟨.string ⟨bytes "Error: failed to read resource", by decide⟩, ?_⟩
  rintro b ⟨m, env, l, reg, caught, fs, loaded⟩ (rfl : fs = files)
  exact ⟨_, rfl, rfl⟩

lemma isTree_pair : ∀ c ∈ pair, IsTree reads (fun w => w.files = files) c.res := by
  intro c hc
  simp only [pair, List.mem_cons, List.not_mem_nil, or_false] at hc
  rcases hc with rfl | rfl
  · exact .leaf gets_macAddr1
  · obtain ⟨body, hbody⟩ := gets_macAddr2
    exact .leaf hbody

theorem aggregate_agrees_pair : ∃ (value : Child → Status × Json) (ms : List (Bytes × Json)),
    (∀ c ∈ pair, Gets reads (fun w => w.files = files) c.res (full (value c))) ∧
    Gets reads (fun w => w.files = files) (AggregateResource.resource (bytes "/pair") pair) (.ok, some (.object ms)) ∧
    (ms.map Prod.fst).Nodup ∧
    (∀ key, key ∈ ms.map Prod.fst ↔ ∃ c ∈ pair, c.name = key ∧ ¬ Omitted c (value c)) ∧
    ∀ c ∈ pair, ¬ Omitted c (value c) → Json.objectGet (.object ms) c.name = shown (full (value c)) :=
  aggregate_agrees rfl (by decide) (by decide) isTree_pair

end samples

end RouterCard.Captived.Aggregates
