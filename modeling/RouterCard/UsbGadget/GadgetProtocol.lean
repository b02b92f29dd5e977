import RouterCard.Interaction.Protocol
import RouterCard.UsbGadget.Gadget

/-! Which pointers libusbg takes when, and that the program keeps to it: what it builds, and
how it ends where a call fails. -/

namespace RouterCard.UsbGadget

open Text Interaction

section protocol

structure Function where
  handle : ℕ
  gadget : ℕ
  type : FunctionType
  inst : Bytes

structure Config where
  handle : ℕ
  gadget : ℕ
  id : ℕ

structure Use where
  state : Pointer
  gadgets : List ℕ
  functions : List Function
  configs : List Config
  -- the configuration and the function added to it under the name
  added : List (ℕ × ℕ × Bytes)
  enabled : List ℕ
  failed : List (Call × ℤ)
  errors : List (Bytes × ℤ)

def Use.start : Use := ⟨none, [], [], [], [], [], [], []⟩

def FunctionType.name : FunctionType → Bytes
  | .acm => bytes "acm"
  | .ecm => bytes "ecm"
  | .hss => bytes "hss"

def Function.name (f : Function) : Bytes := f.type.name ++ bytes "." ++ f.inst

def Call.code : (c : Call) → c.Reply → ℤ
  | .init _, r | .createGadget .., r | .createFunction .., r | .createConfig .., r => r.ret
  | .addConfigFunction .., r | .enableGadget _, r | .disableGadget _, r | .rmGadget _, r => r
  | .getGadget .., _ | .cleanup _, _ | .printError .., _ | .printUsage _, _ => USBG_SUCCESS

def Call.message : Call → Bytes
  | .init _ => bytes "Error on USB gadget init"
  | .createGadget .. => bytes "Error on create gadget"
  | .createFunction _ .acm _ _ => bytes "Error creating acm0 function"
  | .createFunction _ .ecm _ _ => bytes "Error creating ecm function"
  | .createFunction _ .hss _ _ => bytes "Error creating hss function"
  | .createConfig .. => bytes "Error creating config"
  | .addConfigFunction _ name _ => bytes "Error adding " ++ name
  | .enableGadget _ => bytes "Error enabling gadget"
  | .disableGadget _ => bytes "Error disabling gadget"
  | .rmGadget _ => bytes "Error freeing gadget"
  | .getGadget .. | .cleanup _ | .printError .. | .printUsage _ => []

-- The calls that build the gadget.
def Call.builds : Call → Bool
  | .createGadget .. | .createFunction .. | .createConfig .. | .addConfigFunction .. | .enableGadget _ => true
  | _ => false

namespace Use

variable (s : Use)

def Open (p : Pointer) : Prop := p ≠ none ∧ p = s.state

def Gadget (p : Pointer) (g : ℕ) : Prop := s.state ≠ none ∧ p = some g ∧ g ∈ s.gadgets

def holds : Call → Prop
  | .init _ => s.state = none
  | .createGadget p .. | .cleanup p | .getGadget p _ => s.Open p
  | .createFunction p type inst _ => ∃ g, s.Gadget p g ∧ ∀ f ∈ s.functions, f.gadget = g → f.type = type → f.inst ≠ inst
  | .createConfig p id .. => ∃ g, s.Gadget p g ∧ ∀ c ∈ s.configs, c.gadget = g → c.id ≠ id
  | .addConfigFunction p _ q => s.state ≠ none ∧ ∃ c ∈ s.configs, ∃ f ∈ s.functions, p = some c.handle ∧ q = some f.handle ∧
      f.gadget = c.gadget ∧ ∀ x ∈ s.added, x.1 = c.handle → x.2.1 ≠ f.handle
  | .enableGadget p => ∃ g, s.Gadget p g ∧ g ∉ s.enabled ∧ (∃ c ∈ s.configs, c.gadget = g) ∧
      ∀ c ∈ s.configs, c.gadget = g → ∃ x ∈ s.added, x.1 = c.handle
  | .disableGadget p | .rmGadget p => ∃ g, s.Gadget p g
  | .printError .. | .printUsage _ => True

-- No pointer is used that is not held, and nothing more is built once a call has failed.
def allows (c : Call) : Prop := s.holds c ∧ (c.builds = true → s.failed = [])

/-- A call that succeeds sets the variable, and never to something that is in use. -/
def promises : (c : Call) → c.Reply → Prop
  | .init _, r | .createGadget .., r => r.ret = USBG_SUCCESS → ∃ h, r.out = some h ∧ h ∉ s.gadgets
  | .createFunction .., r => r.ret = USBG_SUCCESS → ∃ h, r.out = some h ∧ ∀ f ∈ s.functions, f.handle ≠ h
  | .createConfig .., r => r.ret = USBG_SUCCESS → ∃ h, r.out = some h ∧ ∀ c ∈ s.configs, c.handle ≠ h
  | _, _ => True

def done : (c : Call) → c.Reply → Use
  | .init _, r => { s with state := r.out }
  | .createGadget .., r => { s with gadgets := s.gadgets ++ r.out.toList }
  | .createFunction p type inst _, r =>
    { s with functions := s.functions ++ (r.out.toList.flatMap fun h => p.toList.map fun g => ⟨h, g, type, inst⟩) }
  | .createConfig p id .., r =>
    { s with configs := s.configs ++ (r.out.toList.flatMap fun h => p.toList.map fun g => ⟨h, g, id⟩) }
  | .addConfigFunction p name q, _ =>
    { s with added := s.added ++ (p.toList.flatMap fun c => q.toList.map fun f => (c, f, name)) }
  | .enableGadget p, _ => { s with enabled := s.enabled ++ p.toList }
  | .cleanup _, _ => { s with state := none }
  | .getGadget .., p => { s with gadgets := s.gadgets ++ p.toList }
  | .disableGadget p, _ => { s with enabled := s.enabled.filter fun g => some g ≠ p }
  | .rmGadget p, _ => { s with gadgets := s.gadgets.filter fun g => some g ≠ p }
  | .printError message code, _ => { s with errors := s.errors ++ [(message, code)] }
  | .printUsage _, _ => s

def next (c : Call) (r : c.Reply) : Use :=
  if c.code r ≠ USBG_SUCCESS then { s with failed := s.failed ++ [(c, c.code r)] } else s.done c r

end Use

abbrev usage : Protocol libusbg := ⟨Use, Use.allows, Use.promises, Use.next⟩

def functionsOf (b : Build) : List (FunctionType × Bytes) :=
  (if b.XAP_SERIAL then [(.acm, bytes "GS0")] else []) ++ [(.ecm, bytes "usb0")] ++
    if b.XAP_HSS then [(.hss, bytes "hss0")] else []

-- All of them in the configuration, each under its own name.
def entries (c : ℕ) (fs : List Function) : List (ℕ × ℕ × Bytes) := fs.map fun f => (c, f.handle, f.name)

def Complete (b : Build) (s : Use) : Prop :=
  ∃ g c, s.gadgets = [g] ∧ s.configs = [⟨c, g, 1⟩] ∧ s.enabled = [g] ∧ (∀ f ∈ s.functions, f.gadget = g) ∧
    s.functions.map (fun f => (f.type, f.inst)) = functionsOf b ∧ s.added = entries c s.functions

def Outcome (b : Build) (s : Use) : Prop :=
  (s.failed = [] ∧ s.errors = [] ∧ Complete b s) ∨
    ∃ c code, s.failed = [(c, code)] ∧ s.errors = [(c.message, code)] ∧ s.enabled = []

end protocol

variable {b : Build} {s : Use} {α : Type} {post : Unit → Use → Prop}

section steps

lemma next_ok {c : Call} {r : c.Reply} (h : c.code r = USBG_SUCCESS) : s.next c r = s.done c r := by
  rw [Use.next, if_neg (not_not.mpr h)]

lemma next_failed {c : Call} {r : c.Reply} (h : c.code r ≠ USBG_SUCCESS) :
    s.next c r = { s with failed := s.failed ++ [(c, c.code r)] } := by
  rw [Use.next, if_pos h]

lemma obeys_ask {c : Call} {k : c.Reply → Prog α} {post : α → Use → Prop} (ha : s.allows c)
    (hk : ∀ r, s.promises c r → (k r).Obeys usage post (s.next c r)) : (ask c >>= k).Obeys usage post s :=
  ⟨ha, hk⟩

lemma obeys_printError {message : Bytes} {code : ℤ} {post : Unit → Use → Prop}
    (h : post () { s with errors := s.errors ++ [(message, code)] }) :
    (ask (.printError message code)).Obeys usage post s := by
  refine ⟨⟨trivial, Bool.noConfusion⟩, fun r _ => ?_⟩
  change post () (s.next (.printError message code) r)
  rw [next_ok rfl]
  exact h

structure Clean (st : ℕ) (s : Use) : Prop where
  state : s.state = some st
  failed : s.failed = []
  errors : s.errors = []
  enabled : s.enabled = []

def Closing (b : Build) (st : ℕ) (_ : Unit) (s : Use) : Prop := s.state = some st ∧ Outcome b s

lemma obeys_orExit {c : Call} {code : c.Reply → ℤ} {k : c.Reply → Prog Unit} {message : Bytes} {st : ℕ} (hs : Clean st s)
    (hc : code = c.code) (hm : message = c.message) (ha : s.holds c)
    (hk : ∀ r, s.promises c r → c.code r = USBG_SUCCESS → (k r).Obeys usage (Closing b st) (s.done c r)) :
    (ask c >>= fun r => orExit message (code r) (k r)).Obeys usage (Closing b st) s := by
  subst hc hm
  refine obeys_ask ⟨ha, fun _ => hs.failed⟩ fun r hr => ?_
  unfold orExit
  split_ifs with h
  · apply obeys_printError
    rw [next_failed h]
    exact ⟨hs.state, .inr ⟨c, c.code r, by simp [hs.failed], by simp [hs.errors], hs.enabled⟩⟩
  · rw [next_ok (not_not.mp h)]
    exact hk r hr (not_not.mp h)

end steps

section building

variable {st g c : ℕ} {fs more before : List Function} {cs : List Config} {added : List (ℕ × ℕ × Bytes)} {v : Pointer}
  {type : FunctionType} {inst : Bytes} {next : Prog Unit}

def stage (st g : ℕ) (fs : List Function) (cs : List Config) (added : List (ℕ × ℕ × Bytes)) : Use :=
  ⟨some st, [g], fs, cs, added, [], [], []⟩

lemma clean_stage : Clean st (stage st g fs cs added) := ⟨rfl, rfl, rfl, rfl⟩

lemma gadget_stage : (stage st g fs cs added).Gadget (some g) g := ⟨Option.some_ne_none st, rfl, .head []⟩

def Present (present : Bool) (g : ℕ) (type : FunctionType) (inst : Bytes) (v : Pointer) (more : List Function) : Prop :=
  (present = true ∧ ∃ h, v = some h ∧ more = [⟨h, g, type, inst⟩]) ∨ (present = false ∧ more = [])

def handles (fs : List Function) : List ℕ := fs.map Function.handle

lemma obeys_createFunction {attrs : Option NetAttrs} {message : Bytes} {next : Pointer → Prog Unit} (hd : (handles fs).Nodup)
    (hnew : ∀ f ∈ fs, f.type ≠ type) (hm : message = (Call.createFunction (some g) type inst attrs).message)
    (hnext : ∀ v more, Present true g type inst v more → (handles (fs ++ more)).Nodup →
      (next v).Obeys usage (Closing b st) (stage st g (fs ++ more) [] [])) :
    (createFunction (some g) type inst attrs message next).Obeys usage (Closing b st) (stage st g fs [] []) := by
  refine obeys_orExit clean_stage rfl hm ⟨g, gadget_stage, fun f hf _ ht => absurd ht (hnew f hf)⟩ fun r hr hok => ?_
  obtain ⟨h, hout, hfresh⟩ := hr hok
  have hdone : (stage st g fs [] []).done (.createFunction (some g) type inst attrs) r =
      stage st g (fs ++ [⟨h, g, type, inst⟩]) [] [] := by
    simp [Use.done, stage, hout]
  rw [hdone]
  refine hnext r.out _ (.inl ⟨rfl, h, hout, rfl⟩) ?_
  rw [handles, List.map_append, List.nodup_append]
  refine ⟨hd, List.nodup_singleton h, fun x hx y hy => ?_⟩
  obtain ⟨f, hf, rfl⟩ := List.mem_map.mp hx
  rw [List.mem_singleton.mp hy]
  exact hfresh f hf

lemma obeys_addConfigFunction {message name : Bytes} (hv : Present true g type inst v more) (hsub : more ⊆ fs)
    (hd : (handles (before ++ more)).Nodup) (hname : name = type.name ++ bytes "." ++ inst)
    (hm : message = bytes "Error adding " ++ name)
    (hnext : next.Obeys usage (Closing b st) (stage st g fs [⟨c, g, 1⟩] (entries c (before ++ more)))) :
    (addConfigFunction (some c) name v message next).Obeys usage (Closing b st)
      (stage st g fs [⟨c, g, 1⟩] (entries c before)) := by
  obtain ⟨-, h, rfl, rfl⟩ | ⟨hfalse, -⟩ := hv
  swap
  · cases hfalse
  refine obeys_orExit clean_stage rfl hm ?_ fun r _ _ => ?_
  · refine ⟨Option.some_ne_none st, ⟨c, g, 1⟩, .head [], _, hsub (.head []), rfl, rfl, rfl, fun x hx _ => ?_⟩
    obtain ⟨f, hf, rfl⟩ := List.mem_map.mp hx
    rw [handles, List.map_append, List.nodup_append] at hd
    exact hd.2.2 _ (List.mem_map_of_mem hf) h (.head [])
  · have hdone : (stage st g fs [⟨c, g, 1⟩] (entries c before)).done
        (.addConfigFunction (some c) name (some h)) r =
        stage st g fs [⟨c, g, 1⟩] (entries c (before ++ [⟨h, g, type, inst⟩])) := by
      simp [Use.done, stage, entries, hname, Function.name]
    rw [hdone]
    exact hnext

lemma obeys_createIf {present : Bool} {attrs : Option NetAttrs} {message : Bytes} {next : Pointer → Prog Unit}
    (hd : (handles fs).Nodup) (hnew : ∀ f ∈ fs, f.type ≠ type)
    (hm : message = (Call.createFunction (some g) type inst attrs).message)
    (hnext : ∀ v more, Present present g type inst v more → (handles (fs ++ more)).Nodup →
      (next v).Obeys usage (Closing b st) (stage st g (fs ++ more) [] [])) :
    (if present then createFunction (some g) type inst attrs message next else next none).Obeys usage (Closing b st)
      (stage st g fs [] []) := by
  cases present with
  | true => exact obeys_createFunction hd hnew hm hnext
  | false =>
    have h := hnext none [] (.inr ⟨rfl, rfl⟩)
    rw [List.append_nil] at h
    exact h hd

lemma obeys_addIf {present : Bool} {message name : Bytes} (hv : Present present g type inst v more) (hsub : more ⊆ fs)
    (hd : (handles (before ++ more)).Nodup) (hname : name = type.name ++ bytes "." ++ inst)
    (hm : message = bytes "Error adding " ++ name)
    (hnext : next.Obeys usage (Closing b st) (stage st g fs [⟨c, g, 1⟩] (entries c (before ++ more)))) :
    (if present then addConfigFunction (some c) name v message next else next).Obeys usage (Closing b st)
      (stage st g fs [⟨c, g, 1⟩] (entries c before)) := by
  cases present with
  | true => exact obeys_addConfigFunction hv hsub hd hname hm hnext
  | false =>
    obtain ⟨htrue, -⟩ | ⟨-, rfl⟩ := hv
    · cases htrue
    · rwa [List.append_nil] at hnext

lemma Present.type_eq {present : Bool} (h : Present present g type inst v more) :
    ∀ f ∈ more, f.type = type ∧ f.gadget = g := by
  obtain ⟨-, h, rfl, rfl⟩ | ⟨-, rfl⟩ := h
  · simp
  · simp

lemma Present.map {present : Bool} (h : Present present g type inst v more) :
    more.map (fun f => (f.type, f.inst)) = if present then [(type, inst)] else [] := by
  obtain ⟨rfl, h, rfl, rfl⟩ | ⟨rfl, rfl⟩ := h <;> rfl

lemma obeys_enable {f_acm0 f_ecm f_hss : Pointer} {acm ecm hss : List Function}
    (ha : Present b.XAP_SERIAL g .acm (bytes "GS0") f_acm0 acm) (he : Present true g .ecm (bytes "usb0") f_ecm ecm)
    (hh : Present b.XAP_HSS g .hss (bytes "hss0") f_hss hss) (hd : (handles (acm ++ ecm ++ hss)).Nodup) :
    (addFunctions b (some g) (some c) f_acm0 f_ecm f_hss).Obeys usage (Closing b st)
      (stage st g (acm ++ ecm ++ hss) [⟨c, g, 1⟩] []) := by
  have hd' : (handles (acm ++ ecm)).Nodup := by
    rw [handles, List.map_append] at hd
    exact (List.nodup_append.mp hd).1
  have hd'' : (handles acm).Nodup := by
    rw [handles, List.map_append] at hd'
    exact (List.nodup_append.mp hd').1
  have hnone : stage st g (acm ++ ecm ++ hss) [⟨c, g, 1⟩] [] =
      stage st g (acm ++ ecm ++ hss) [⟨c, g, 1⟩] (entries c []) := rfl
  rw [hnone]
  refine obeys_addIf ha (fun f hf => by simp [hf]) hd'' rfl rfl ?_
  refine obeys_addConfigFunction he (fun f hf => by simp [hf]) hd' rfl rfl ?_
  refine obeys_addIf hh (fun f hf => by simp [hf]) hd rfl rfl ?_
  refine obeys_orExit clean_stage rfl rfl ?_ fun r _ _ => ?_
  · refine ⟨g, gadget_stage, List.not_mem_nil, ⟨_, .head [], rfl⟩, fun cfg hcfg _ => ?_⟩
    obtain rfl := List.mem_singleton.mp hcfg
    obtain ⟨-, h, rfl, rfl⟩ | ⟨hfalse, -⟩ := he
    · refine ⟨(c, h, Function.name ⟨h, g, .ecm, bytes "usb0"⟩), ?_, rfl⟩
      exact List.mem_map.mpr ⟨⟨h, g, .ecm, bytes "usb0"⟩, by simp, rfl⟩
    · cases hfalse
  · refine ⟨rfl, .inl ⟨rfl, rfl, g, c, rfl, rfl, rfl, fun f hf => ?_, ?_, rfl⟩⟩
    · rcases List.mem_append.mp hf with hf | hf
      · rcases List.mem_append.mp hf with hf | hf
        · exact (ha.type_eq f hf).2
        · exact (he.type_eq f hf).2
      · exact (hh.type_eq f hf).2
    · simp [Use.done, stage, ha.map, he.map, hh.map, functionsOf]

lemma obeys_createConfig {f_acm0 f_ecm f_hss : Pointer} {acm ecm hss : List Function}
    (ha : Present b.XAP_SERIAL g .acm (bytes "GS0") f_acm0 acm) (he : Present true g .ecm (bytes "usb0") f_ecm ecm)
    (hh : Present b.XAP_HSS g .hss (bytes "hss0") f_hss hss) (hd : (handles (acm ++ ecm ++ hss)).Nodup) :
    (createConfig b (some g) f_acm0 f_ecm f_hss).Obeys usage (Closing b st) (stage st g (acm ++ ecm ++ hss) [] []) := by
  refine obeys_orExit clean_stage rfl rfl ⟨g, gadget_stage, by simp [stage]⟩ fun r hr hok => ?_
  obtain ⟨c, hout, -⟩ := hr hok
  have hdone : (stage st g (acm ++ ecm ++ hss) [] []).done (.createConfig (some g) 1 (bytes "The only one") []) r =
      stage st g (acm ++ ecm ++ hss) [⟨c, g, 1⟩] [] := by
    simp [Use.done, stage, hout]
  rw [hdone, hout]
  exact obeys_enable ha he hh hd

lemma obeys_createGadget (a : Attributes) :
    (createGadget b a (some st)).Obeys usage (Closing b st) { Use.start with state := some st } := by
  refine obeys_orExit ⟨rfl, rfl, rfl, rfl⟩ rfl rfl ⟨Option.some_ne_none st, rfl⟩ fun r hr hok => ?_
  obtain ⟨g, hout, -⟩ := hr hok
  have hdone : ({ Use.start with state := some st } : Use).done
      (.createGadget (some st) XAP_USBG_STR (gadgetAttrs b) (gadgetStrs b a)) r = stage st g [] [] [] := by
    simp [Use.done, Use.start, stage, hout]
  rw [hdone, hout]
  refine obeys_createIf List.nodup_nil (by simp) rfl fun f_acm0 acm ha hda => ?_
  refine obeys_createFunction hda (fun f hf => ?_) rfl fun f_ecm ecm he hde => ?_
  · rw [(ha.type_eq f hf).1]
    exact FunctionType.noConfusion
  refine obeys_createIf hde (fun f hf => ?_) rfl fun f_hss hss hh hdh => obeys_createConfig ha he hh hdh
  rcases List.mem_append.mp hf with hf | hf
  · rw [(ha.type_eq f hf).1]
    exact FunctionType.noConfusion
  · rw [(he.type_eq f hf).1]
    exact FunctionType.noConfusion

lemma obeys_create (a : Attributes) :
    (create b a (some st)).Obeys usage (fun _ s => s.state = none ∧ Outcome b s) { Use.start with state := some st } := by
  refine Program.Obeys.bind ((obeys_createGadget a).mono fun _ s hs => ?_)
  refine ⟨⟨⟨Option.some_ne_none st, hs.1.symm⟩, Bool.noConfusion⟩, fun r _ => ?_⟩
  change (s.next (.cleanup (some st)) r).state = none ∧ Outcome b (s.next (.cleanup (some st)) r)
  rw [next_ok rfl]
  exact ⟨rfl, hs.2⟩

end building

section runs

def Reported (s : Use) : Prop := s.errors = s.failed.map fun x => (x.1.message, x.2)

def Created (b : Build) (ret : ℤ) (s : Use) : Prop := ret = 0 ∧ s.state = none ∧ Outcome b s

lemma destroy_ne_create : bytes "destroy" ≠ bytes "create" := by decide

lemma main_create (a : Attributes) (program : Bytes) : main b a [program, bytes "create"] = (do
    let made ← ask (.init (bytes "/sys/kernel/config"))
    if made.ret ≠ USBG_SUCCESS then
      ask (.printError (bytes "Error on USB gadget init") made.ret)
      return 0
    else
      create b a made.out
      return 0) := by
  simp [main, destroy_ne_create.symm]

lemma obeys_main_create (a : Attributes) (program : Bytes) :
    (main b a [program, bytes "create"]).Obeys usage (Created b) Use.start := by
  rw [main_create]
  refine obeys_ask ⟨rfl, Bool.noConfusion⟩ fun r hr => ?_
  by_cases hcode : (Call.init (bytes "/sys/kernel/config")).code r = USBG_SUCCESS
  · obtain ⟨st, hout, -⟩ := hr hcode
    have hret : r.ret = USBG_SUCCESS := hcode
    rw [next_ok hcode, if_neg (not_not.mpr hret), Use.done, hout]
    exact Program.Obeys.bind ((obeys_create a).mono fun _ s hs => ⟨rfl, hs⟩)
  · have hret : r.ret ≠ USBG_SUCCESS := hcode
    rw [next_failed hcode, if_pos hret]
    exact Program.Obeys.bind (obeys_printError ⟨rfl, rfl, .inr ⟨_, _, rfl, rfl, rfl⟩⟩)

variable {W : Type} {answer : (c : Call) → W → Option (c.Reply × W)} {w : W}

theorem create_outcome {a : Attributes} {program : Bytes}
    (hk : usage.Kept .start ((main b a [program, bytes "create"]).observe answer w).1) :
    usage.Legal .start ((main b a [program, bytes "create"]).observe answer w).1 ∧
      ∀ ret v, ((main b a [program, bytes "create"]).observe answer w).2 = some (ret, v) →
        Created b ret (usage.after .start ((main b a [program, bytes "create"]).observe answer w).1) :=
  (obeys_main_create a program).observed hk

lemma main_destroy (a : Attributes) (program : Bytes) : main b a [program, bytes "destroy"] = (do
    let made ← ask (.init (bytes "/sys/kernel/config"))
    if made.ret ≠ USBG_SUCCESS then
      ask (.printError (bytes "Error on USB gadget init") made.ret)
      return 0
    else
      destroyUsbGadget made.out
      return 0) := by
  simp [main, destroy_ne_create]

def Finds : (c : Call) → c.Reply → Prop
  | .getGadget .., p => p ≠ none
  | _, _ => True

def Destroyed (ret : ℤ) (s : Use) : Prop :=
  ret = 0 ∧ Reported s ∧ (s.state = none → ∃ code, s.failed = [(.init (bytes "/sys/kernel/config"), code)])

variable {st g : ℕ}

lemma obeys_report {c : Call} {code : c.Reply → ℤ} {message : Bytes} (hs : Reported s) (hc : code = c.code)
    (hm : message = c.message) (ha : s.allows c)
    (hdone : ∀ r, (s.done c r).errors = s.errors ∧ (s.done c r).failed = s.failed) {K : Use → Prop}
    (hkeep : ∀ r, K (s.done c r)) (hkept : ∀ failed errors, K { s with failed := failed, errors := errors }) :
    (ask c >>= fun r => report message (code r)).Obeys usage (fun _ s => Reported s ∧ K s) s := by
  subst hc hm
  refine obeys_ask ha fun r hr => ?_
  unfold report
  split_ifs with h
  · apply obeys_printError
    rw [next_failed h]
    refine ⟨?_, hkept _ _⟩
    have hall : s.errors = s.failed.map fun x => (x.1.message, x.2) := hs
    simp [Reported, hall]
  · rw [next_ok (not_not.mp h)]
    obtain ⟨he, hf⟩ := hdone r
    exact ⟨by rw [Reported, he, hf]; exact hs, hkeep r⟩

-- What is done with the gadget that was found.
def release (gadget : Pointer) : Prog Unit := do
  let ret ← ask (.disableGadget gadget)
  report (bytes "Error disabling gadget") ret
  let ret ← ask (.rmGadget gadget)
  report (bytes "Error freeing gadget") ret

lemma obeys_release (hs : Reported s) (hg : s.Gadget (some g) g) :
    (release (some g)).Obeys usage (fun _ s' => Reported s' ∧ s'.state = s.state) s := by
  have hrelease : release (some g) =
      (ask (.disableGadget (some g)) >>= fun ret => report (bytes "Error disabling gadget") ret) >>= fun _ =>
      ask (.rmGadget (some g)) >>= fun ret => report (bytes "Error freeing gadget") ret := by
    rw [Program.bind_assoc]
    rfl
  rw [hrelease]
  have hdisable := obeys_report (c := .disableGadget (some g))
    (K := fun s' : Use => s'.state = s.state ∧ s'.gadgets = s.gadgets) hs rfl rfl ⟨⟨g, hg⟩, Bool.noConfusion⟩
    (fun _ => ⟨rfl, rfl⟩) (fun _ => ⟨rfl, rfl⟩) fun _ _ => ⟨rfl, rfl⟩
  refine Program.Obeys.bind (hdisable.mono fun _ s' hs' => ?_)
  obtain ⟨hreported, hstate, hgadgets⟩ := hs'
  have hg' : Use.Gadget s' (some g) g := ⟨hstate ▸ hg.1, rfl, hgadgets ▸ hg.2.2⟩
  exact obeys_report (c := .rmGadget (some g)) (K := fun s' : Use => s'.state = s.state) hreported rfl rfl
    ⟨⟨g, hg'⟩, Bool.noConfusion⟩ (fun _ => ⟨rfl, rfl⟩) (fun _ => hstate) fun _ _ => hstate

lemma calls_report {message : Bytes} {ret : ℤ} : (report message ret).Calls fun c => ∀ r, Finds c r := by
  unfold report
  split_ifs
  · exact ⟨fun _ => trivial, fun _ => trivial⟩
  · trivial

lemma calls_release {p : Pointer} : (release p).Calls fun c => ∀ r, Finds c r :=
  ⟨fun _ => trivial, fun _ => calls_report.bind fun _ => ⟨fun _ => trivial, fun _ => calls_report⟩⟩

lemma destroy_obeysIf : (destroyUsbGadget (some st) >>= fun _ => (return 0 : Prog ℤ)).ObeysIf usage Finds Destroyed
    { Use.start with state := some st } := by
  refine ⟨⟨⟨Option.some_ne_none st, rfl⟩, Bool.noConfusion⟩, fun p _ => ⟨fun hp => ?_, fun hp => ?_⟩⟩
  · obtain ⟨g, rfl⟩ := Option.ne_none_iff_exists'.mp hp
    have hg : Use.Gadget { Use.start with state := some st, gadgets := [g] } (some g) g :=
      ⟨Option.some_ne_none st, rfl, .head []⟩
    have hs : Reported { Use.start with state := some st, gadgets := [g] } := rfl
    refine Program.Obeys.obeysIf (Program.Obeys.bind ((obeys_release hs hg).mono fun _ s hs => ?_))
      (calls_release.bind fun _ => trivial)
    exact ⟨rfl, hs.1, fun hn => absurd (hs.2.symm.trans hn) (Option.some_ne_none st)⟩
  · obtain rfl : p = none := not_not.mp hp
    exact .inl fun ⟨⟨g, hg⟩, _⟩ => absurd hg.2.1.symm (Option.some_ne_none g)

lemma obeysIf_ask {c : Call} {k : c.Reply → Prog α} {Q : (c : Call) → c.Reply → Prop} {post : α → Use → Prop}
    (ha : s.allows c) (hq : ∀ r, Q c r) (hk : ∀ r, s.promises c r → (k r).ObeysIf usage Q post (s.next c r)) :
    (ask c >>= k).ObeysIf usage Q post s :=
  ⟨ha, fun r hr => ⟨fun _ => hk r hr, fun h => absurd (hq r) h⟩⟩

lemma main_obeysIf (a : Attributes) (program : Bytes) :
    (main b a [program, bytes "destroy"]).ObeysIf usage Finds Destroyed Use.start := by
  rw [main_destroy]
  refine obeysIf_ask ⟨rfl, Bool.noConfusion⟩ (fun _ => trivial) fun r hr => ?_
  by_cases hcode : (Call.init (bytes "/sys/kernel/config")).code r = USBG_SUCCESS
  · obtain ⟨st, hout, -⟩ := hr hcode
    have hret : r.ret = USBG_SUCCESS := hcode
    rw [next_ok hcode, if_neg (not_not.mpr hret), Use.done, hout]
    exact destroy_obeysIf
  · have hret : r.ret ≠ USBG_SUCCESS := hcode
    rw [next_failed hcode, if_pos hret]
    refine Program.Obeys.obeysIf (Program.Obeys.bind (obeys_printError ?_))
      (Program.Calls.bind ⟨fun _ => trivial, fun _ => trivial⟩ fun _ => trivial)
    exact ⟨rfl, rfl, fun _ => ⟨_, rfl⟩⟩

theorem destroy_legal_iff {a : Attributes} {program : Bytes} {ret : ℤ} {v : W}
    (hk : usage.Kept .start ((main b a [program, bytes "destroy"]).observe answer w).1)
    (hfin : ((main b a [program, bytes "destroy"]).observe answer w).2 = some (ret, v)) :
    (usage.Legal .start ((main b a [program, bytes "destroy"]).observe answer w).1 ↔
      ∀ x ∈ ((main b a [program, bytes "destroy"]).observe answer w).1, Finds x.1 x.2) ∧
    (usage.Legal .start ((main b a [program, bytes "destroy"]).observe answer w).1 →
      Destroyed ret (usage.after .start ((main b a [program, bytes "destroy"]).observe answer w).1)) :=
  (main_obeysIf a program).observed hk hfin

end runs

section samples

-- A library in which every call succeeds, and each pointer is a new one.
def works : (c : Call) → ℕ → Option (c.Reply × ℕ)
  | .init _, n | .createGadget .., n | .createFunction .., n | .createConfig .., n => some (⟨0, some n⟩, n + 1)
  | .addConfigFunction .., n | .enableGadget _, n | .disableGadget _, n | .rmGadget _, n => some (0, n)
  | .getGadget .., n => some (some n, n + 1)
  | .cleanup _, n | .printError .., n | .printUsage _, n => some ((), n)

def plain : Build := ⟨false, false, 0xf002, bytes "USB"⟩

def blank : Attributes := ⟨fun _ => 0, fun _ => 0, none⟩

def created : List Bytes := [bytes "xap-usb-gadget", bytes "create"]

def destroyed : List Bytes := [bytes "xap-usb-gadget", bytes "destroy"]

theorem create_outcome_works : ∃ ret v, ((main plain blank created).observe works 0).2 = some (ret, v) ∧
    usage.Legal .start ((main plain blank created).observe works 0).1 ∧
    Created plain ret (usage.after .start ((main plain blank created).observe works 0).1) := by
  have hk : usage.Kept .start ((main plain blank created).observe works 0).1 := by
    rw [created, main_create]
    refine ⟨fun _ => ⟨0, rfl, List.not_mem_nil⟩, fun _ => ⟨1, rfl, List.not_mem_nil⟩, fun _ => ⟨2, rfl, fun f hf => ?_⟩,
      fun _ => ⟨3, rfl, fun c hc => ?_⟩, trivial, trivial, trivial, trivial⟩
    · exact absurd hf List.not_mem_nil
    · exact absurd hc List.not_mem_nil
  have hrun : ((main plain blank created).observe works 0).2 = some (0, 4) := by
    rw [created, main_create]
    rfl
  obtain ⟨hlegal, hmade⟩ := create_outcome hk
  exact ⟨0, 4, hrun, hlegal, hmade 0 4 hrun⟩

theorem destroy_legal_iff_works : usage.Legal .start ((main plain blank destroyed).observe works 0).1 ↔
    ∀ x ∈ ((main plain blank destroyed).observe works 0).1, Finds x.1 x.2 := by
  have hk : usage.Kept .start ((main plain blank destroyed).observe works 0).1 := by
    rw [destroyed, main_destroy]
    exact ⟨fun _ => ⟨0, rfl, List.not_mem_nil⟩, trivial, trivial, trivial, trivial⟩
  have hfin : ((main plain blank destroyed).observe works 0).2 = some (0, 2) := by
    rw [destroyed, main_destroy]
    rfl
  exact (destroy_legal_iff hk hfin).1

end samples

end RouterCard.UsbGadget
