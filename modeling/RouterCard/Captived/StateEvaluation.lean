import RouterCard.Captived.UpdateState
import RouterCard.Captived.Handlers
import RouterCard.Text.Numerals

namespace RouterCard.Captived.StateEvaluation

open Text Interaction FirmwareManager

variable {sys : System} {α β : Type}

section evaluation

variable (sys) (r₁ r₂ : PopenReply) (downloading : Bool)

-- The two replies are given; downloading_ is the state.
def printed : (c : Call) → Bool → Option (c.Reply × Bool)
  | .popen command, d =>
    if command = sys.chroot ++ printenvCommand FIRMWARE_ENV_BOOT_COUNT then some (r₁, d)
    else if command = sys.chroot ++ printenvCommand FIRMWARE_ENV_UPGRADE_AVAIL then some (r₂, d)
    else none
  | .load .downloading, d => some (d, d)
  | .store .downloading v, _ => some ((), v)
  | _, _ => none

/-- The result of one evaluation, `none` where an exception leaves it. -/
def evaluation : Option (Option Bytes) :=
  ((firmwareState sys).exec (printed sys r₁ r₂) downloading).map Prod.fst

def documentedStates : List Bytes :=
  [FIRMWARE_STATE_NORMAL, FIRMWARE_STATE_DOWNLOADING, FIRMWARE_STATE_DOWNLOADED, FIRMWARE_STATE_UNCOMMITTED]

structure PrintsNumber (name : Bytes) (r : PopenReply) (sign digits : Bytes) : Prop where
  opened : r.opened = true
  returnCode : r.returnCode = 0
  numeral : IsNumeral sign digits
  output : r.output = name ++ bytes "=" ++ (sign ++ digits ++ [10])

def Documented : Prop :=
  ∃ result, evaluation sys r₁ r₂ downloading = some result ∧ (∀ s, result = some s → s ∈ documentedStates) ∧
    ∀ sign₁ digits₁ sign₂ digits₂, PrintsNumber FIRMWARE_ENV_BOOT_COUNT r₁ sign₁ digits₁ →
      PrintsNumber FIRMWARE_ENV_UPGRADE_AVAIL r₂ sign₂ digits₂ →
      result = some (stateText (numeralValue sign₁ digits₁) (sign₂ ++ digits₂) downloading)

/-- Both variables have a value, and the boot count's does not begin with a number that an `int` can hold. -/
def Malformed : Prop :=
  ∃ b u, envValue FIRMWARE_ENV_BOOT_COUNT r₁.result = some b ∧ envValue FIRMWARE_ENV_UPGRADE_AVAIL r₂.result = some u ∧
    ∀ n, ¬ StartsWithInt b n

end evaluation

section alone

variable {r₁ r₂ : PopenReply} {d : Bool}

lemma printed_bootcount : printed sys r₁ r₂ (.popen (sys.chroot ++ printenvCommand FIRMWARE_ENV_BOOT_COUNT)) d =
    some (r₁, d) := if_pos rfl

lemma printed_upgrade : printed sys r₁ r₂ (.popen (sys.chroot ++ printenvCommand FIRMWARE_ENV_UPGRADE_AVAIL)) d =
    some (r₂, d) := by
  have hne : sys.chroot ++ printenvCommand FIRMWARE_ENV_UPGRADE_AVAIL ≠
      sys.chroot ++ printenvCommand FIRMWARE_ENV_BOOT_COUNT := by
    rw [ne_eq, List.append_cancel_left_eq]
    decide
  rw [printed, if_neg hne, if_pos rfl]

lemma evaluation_eq : evaluation sys r₁ r₂ d =
    ((stateFrom (envValue FIRMWARE_ENV_BOOT_COUNT r₁.result) (envValue FIRMWARE_ENV_UPGRADE_AVAIL r₂.result)).exec
      (printed sys r₁ r₂) d).map Prod.fst := by
  rw [evaluation, firmwareState_eq, Program.exec_call, printed_bootcount, Option.bind_some, Program.exec_call,
    printed_upgrade, Option.bind_some]

lemma evaluation_unread (h : envValue FIRMWARE_ENV_BOOT_COUNT r₁.result = none ∨
    envValue FIRMWARE_ENV_UPGRADE_AVAIL r₂.result = none) : evaluation sys r₁ r₂ d = some none := by
  rw [evaluation_eq]
  rcases h with h | h
  · rw [h]
    rfl
  · rw [h]
    cases envValue FIRMWARE_ENV_BOOT_COUNT r₁.result <;> rfl

variable {b u : Bytes}

lemma evaluation_error {e : StoiError} (hb : envValue FIRMWARE_ENV_BOOT_COUNT r₁.result = some b)
    (hu : envValue FIRMWARE_ENV_UPGRADE_AVAIL r₂.result = some u) (he : Text.stoi b = .error e) :
    evaluation sys r₁ r₂ d = none := by
  rw [evaluation_eq, hb, hu, stateFrom_error he]
  rfl

lemma evaluation_ok {n : ℤ} (hb : envValue FIRMWARE_ENV_BOOT_COUNT r₁.result = some b)
    (hu : envValue FIRMWARE_ENV_UPGRADE_AVAIL r₂.result = some u) (hn : Text.stoi b = .ok n) :
    evaluation sys r₁ r₂ d = some (some (stateText n u d)) := by
  rw [evaluation_eq, hb, hu, stateFrom_ok hn]
  by_cases h1 : u = bytes "1"
  · rw [if_pos h1, stateText, stateText, if_pos h1, if_pos h1]
    rfl
  · rw [if_neg h1]
    rfl

lemma stateText_documented (n : ℤ) (u : Bytes) (d : Bool) : stateText n u d ∈ documentedStates := by
  rw [stateText, documentedStates]
  split_ifs <;> simp

lemma not_malformed_of_ok {n : ℤ} (hb : envValue FIRMWARE_ENV_BOOT_COUNT r₁.result = some b) (hn : Text.stoi b = .ok n) :
    ¬ Malformed r₁ r₂ := by
  rintro ⟨b', -, hb', -, hnone⟩
  obtain rfl : b = b' := Option.some.inj (hb.symm.trans hb')
  exact hnone n (stoi_ok_iff.mp hn)

lemma malformed_of_error {e : StoiError} (hb : envValue FIRMWARE_ENV_BOOT_COUNT r₁.result = some b)
    (hu : envValue FIRMWARE_ENV_UPGRADE_AVAIL r₂.result = some u) (he : Text.stoi b = .error e) : Malformed r₁ r₂ := by
  refine ⟨b, u, hb, hu, fun n hn => ?_⟩
  have hok := stoi_ok_iff.mpr hn
  rw [he] at hok
  cases hok

lemma not_malformed_of_unread (h : envValue FIRMWARE_ENV_BOOT_COUNT r₁.result = none ∨
    envValue FIRMWARE_ENV_UPGRADE_AVAIL r₂.result = none) : ¬ Malformed r₁ r₂ := by
  rintro ⟨b, u, hb, hu, -⟩
  rcases h with h | h
  · exact Option.some_ne_none b (hb.symm.trans h)
  · exact Option.some_ne_none u (hu.symm.trans h)

lemma dot_of_isDigit {c : UInt8} (h : isDigit c = true) : dot c = true := by
  have hspace := isSpace_of_isDigit h
  have h10 : c ≠ 10 := by rintro rfl; exact absurd hspace (by decide)
  have h13 : c ≠ 13 := by rintro rfl; exact absurd hspace (by decide)
  simp [dot, h10, h13]

lemma PrintsNumber.envValue {name sign digits : Bytes} {r : PopenReply} (h : PrintsNumber name r sign digits) :
    envValue name r.result = some (sign ++ digits) := by
  have hne : sign ++ digits ≠ [] := fun hnil => h.numeral.nonempty (List.append_eq_nil_iff.mp hnil).2
  have hdot : ∀ c ∈ sign ++ digits, dot c = true := by
    intro c hc
    rcases List.mem_append.mp hc with hs | hd
    · rcases h.numeral.isSign with rfl | rfl | rfl
      · exact absurd hs List.not_mem_nil
      · rw [List.mem_singleton.mp hs]
        rfl
      · rw [List.mem_singleton.mp hs]
        rfl
    · exact dot_of_isDigit (h.numeral.areDigits c hd)
  have hresult : r.result = (0, r.output) := by
    rw [PopenReply.result, h.opened, h.returnCode]
    rfl
  rw [hresult, FirmwareManager.envValue, if_neg (by simp), h.output, envPattern]
  exact search_line (name ++ bytes "=") hne hdot (by simp [dot])

theorem documented_iff (sys : System) (r₁ r₂ : PopenReply) (d : Bool) : Documented sys r₁ r₂ d ↔ ¬ Malformed r₁ r₂ := by
  cases hb : envValue FIRMWARE_ENV_BOOT_COUNT r₁.result with
  | none =>
    refine iff_of_true ⟨none, evaluation_unread (.inl hb), by simp, fun _ _ _ _ h₁ _ => ?_⟩ (not_malformed_of_unread (.inl hb))
    exact absurd (hb.symm.trans h₁.envValue) (by simp)
  | some b =>
    cases hu : envValue FIRMWARE_ENV_UPGRADE_AVAIL r₂.result with
    | none =>
      refine iff_of_true ⟨none, evaluation_unread (.inr hu), by simp, fun _ _ _ _ _ h₂ => ?_⟩ (not_malformed_of_unread (.inr hu))
      exact absurd (hu.symm.trans h₂.envValue) (by simp)
    | some u =>
      cases hn : Text.stoi b with
      | error e =>
        refine iff_of_false ?_ (not_not.mpr (malformed_of_error hb hu hn))
        rintro ⟨result, heval, -⟩
        exact Option.some_ne_none result (heval.symm.trans (evaluation_error hb hu hn))
      | ok n =>
        refine iff_of_true ⟨some (stateText n u d), evaluation_ok hb hu hn, ?_, ?_⟩ (not_malformed_of_ok hb hn)
        · intro s hs
          obtain rfl := Option.some.inj hs
          exact stateText_documented n u d
        · intro sign₁ digits₁ sign₂ digits₂ h₁ h₂
          obtain rfl := Option.some.inj (hb.symm.trans h₁.envValue)
          obtain rfl := Option.some.inj (hu.symm.trans h₂.envValue)
          have hvalue := stoi_whole h₁.numeral
          rw [hn] at hvalue
          split_ifs at hvalue
          rw [Except.ok.inj hvalue]

end alone

section requests

/-- Anything that answers every call; an exception is the only call without an answer. -/
structure Surroundings where
  State : Type
  answer : (c : Call) → State → Option (c.Reply × State)
  answered : ∀ c s, answer c s = none → ∃ a, c = .abort a

variable (sys)

def WellRead (t : Trace calls) : Prop :=
  ∀ r₁ r₂, [⟨.popen (sys.chroot ++ printenvCommand FIRMWARE_ENV_BOOT_COUNT), r₁⟩,
    ⟨.popen (sys.chroot ++ printenvCommand FIRMWARE_ENV_UPGRADE_AVAIL), r₂⟩] <:+: t → ¬ Malformed r₁ r₂

inductive Evaluating : Request → Prop
  | getFirmware (body : Body) : Evaluating (.http .get URI_FIRMWARE body)
  | getRoot (body : Body) : Evaluating (.http .get URI_ROUTER_STATUS body)
  | putFirmware (body : Body) : Evaluating (.http .put URI_FIRMWARE body)
  | putCommit (body : Body) : Evaluating (.http .put URI_FIRMWARE_COMMIT body)

def Replies (S : Surroundings) (r : Request) (s : S.State) : Prop :=
  ∃ resp s', ((handler sys r).observe S.answer s).2 = some (some resp, s')

-- The last reply is not the first of an evaluation.
def Settled (t : Trace calls) : Prop :=
  ∀ r u, t ≠ u ++ [⟨.popen (sys.chroot ++ printenvCommand FIRMWARE_ENV_BOOT_COUNT), r⟩]

structure Guarded {W : Type} (x : Trace calls × Option (α × W)) : Prop where
  returns : x.2.isSome = true ↔ WellRead sys x.1
  settled : Settled sys x.1

def Guards (α : Type) (p : Prog α) : Prop := ∀ (S : Surroundings) (s : S.State), Guarded sys (p.observe S.answer s)

end requests

section wellRead

variable {x y : Sigma calls.Reply} {t u : Trace calls} {r₁ r₂ : PopenReply}

lemma wellRead_nil : WellRead sys [] := fun _ _ h => absurd (List.eq_nil_of_infix_nil h) (by simp)

lemma wellRead_cons (hx : ∀ r, x ≠ ⟨.popen (sys.chroot ++ printenvCommand FIRMWARE_ENV_BOOT_COUNT), r⟩) :
    WellRead sys (x :: t) ↔ WellRead sys t := by
  constructor
  · exact fun h r₁ r₂ hi => h r₁ r₂ (hi.trans (List.infix_cons (List.infix_refl t)))
  · intro h r₁ r₂ hi
    rcases List.infix_cons_iff.mp hi with hp | hi
    · exact absurd (List.cons_prefix_cons.mp hp).1.symm (hx r₁)
    · exact h r₁ r₂ hi

lemma upgrade_ne_bootcount (r₂ r : PopenReply) :
    (⟨.popen (sys.chroot ++ printenvCommand FIRMWARE_ENV_UPGRADE_AVAIL), r₂⟩ : Sigma calls.Reply) ≠
      ⟨.popen (sys.chroot ++ printenvCommand FIRMWARE_ENV_BOOT_COUNT), r⟩ := by
  intro he
  have hc := Call.popen.inj (congrArg Sigma.fst he)
  rw [List.append_cancel_left_eq] at hc
  exact absurd hc (by decide)

lemma wellRead_evaluation : WellRead sys (⟨.popen (sys.chroot ++ printenvCommand FIRMWARE_ENV_BOOT_COUNT), r₁⟩ ::
    ⟨.popen (sys.chroot ++ printenvCommand FIRMWARE_ENV_UPGRADE_AVAIL), r₂⟩ :: t) ↔
      ¬ Malformed r₁ r₂ ∧ WellRead sys t := by
  constructor
  · intro h
    refine ⟨h r₁ r₂ (List.prefix_append [_, _] t).isInfix, ?_⟩
    exact fun q₁ q₂ hi => h q₁ q₂ (hi.trans (List.suffix_append [_, _] t).isInfix)
  · rintro ⟨hm, ht⟩ q₁ q₂ hi
    rcases List.infix_cons_iff.mp hi with hp | hi
    · obtain ⟨hb, hrest⟩ := List.cons_prefix_cons.mp hp
      have hu := (List.cons_prefix_cons.mp hrest).1
      obtain rfl : q₁ = r₁ := by simpa using hb
      obtain rfl : q₂ = r₂ := by simpa using hu
      exact hm
    · exact (wellRead_cons (upgrade_ne_bootcount r₂)).mpr ht q₁ q₂ hi

lemma settled_concat (t : Trace calls) (hx : ∀ r, x ≠ ⟨.popen (sys.chroot ++ printenvCommand FIRMWARE_ENV_BOOT_COUNT), r⟩) :
    Settled sys (t ++ [x]) :=
  fun r _ he => hx r (List.append_singleton_inj.mp he).2

lemma Settled.append (ht : Settled sys t) (hu : Settled sys u) : Settled sys (t ++ u) := by
  intro r v he
  rcases List.append_eq_append_iff.mp he with ⟨mid, -, hlast⟩ | ⟨mid, hv, hlast⟩
  · exact hu r mid hlast
  · rcases mid with _ | ⟨x, mid⟩
    · exact hu r [] hlast.symm
    · obtain ⟨rfl, hnil⟩ := List.cons.inj hlast
      obtain ⟨rfl, -⟩ := List.append_eq_nil_iff.mp hnil.symm
      exact ht r v hv

lemma wellRead_append (ht : Settled sys t) : WellRead sys (t ++ u) ↔ WellRead sys t ∧ WellRead sys u := by
  constructor
  · intro h
    refine ⟨fun r₁ r₂ hi => h r₁ r₂ (hi.trans (List.prefix_append t u).isInfix), ?_⟩
    exact fun r₁ r₂ hi => h r₁ r₂ (hi.trans (List.suffix_append t u).isInfix)
  · rintro ⟨hwt, hwu⟩ r₁ r₂ ⟨pre, post, he⟩
    rw [List.append_assoc] at he
    rcases List.append_eq_append_iff.mp he with ⟨mid, hpre, hrest⟩ | ⟨mid, hpre, hrest⟩
    · rcases mid with _ | ⟨x, _ | ⟨y, mid⟩⟩
      · exact hwu r₁ r₂ ⟨[], post, hrest⟩
      · obtain ⟨rfl, -⟩ := List.cons.inj hrest
        exact absurd hpre (ht r₁ pre)
      · obtain ⟨rfl, htail⟩ := List.cons.inj hrest
        obtain ⟨rfl, -⟩ := List.cons.inj htail
        exact hwt r₁ r₂ ⟨pre, mid, by rw [hpre, List.append_assoc]; rfl⟩
    · exact hwu r₁ r₂ ⟨mid, post, by rw [List.append_assoc]; exact hrest.symm⟩

end wellRead

section guards

lemma guarded_done {W : Type} (a : α) (w : W) : Guarded sys (([], some (a, w)) : Trace calls × Option (α × W)) where
  returns := iff_of_true rfl wellRead_nil
  settled r t := by simp

lemma Surroundings.answers (S : Surroundings) {c : Call} (hc : ∀ a, c ≠ .abort a) (s : S.State) :
    ∃ r v, S.answer c s = some (r, v) := by
  cases ha : S.answer c s with
  | none =>
    obtain ⟨a, rfl⟩ := S.answered c s ha
    exact absurd rfl (hc a)
  | some rv => exact ⟨rv.1, rv.2, rfl⟩

lemma guards_done (a : α) : Guards sys α (.done a) := fun _ s => guarded_done a s

lemma guards_bind {p : Prog α} {f : α → Prog β} (hp : Guards sys α p) (hf : ∀ a, Guards sys β (f a)) :
    Guards sys β (p >>= f) := by
  intro S s
  have hpg := hp S s
  rcases hx : p.observe S.answer s with ⟨t, _ | ⟨a, v⟩⟩
  · rw [hx] at hpg
    rw [Program.observe_bind_none f hx]
    exact ⟨hpg.returns, hpg.settled⟩
  · rw [hx] at hpg
    rw [Program.observe_bind_some f hx]
    have hfg := hf a S v
    refine ⟨?_, hpg.settled.append hfg.settled⟩
    rw [wellRead_append hpg.settled, hfg.returns, and_iff_right (hpg.returns.mp rfl)]

def Plain (sys : System) (c : Call) : Prop := ¬ c.PrintsEnv sys ∧ ∀ a, c ≠ .abort a

lemma guards_ask (c : Call) (hc : Plain sys c) : Guards sys c.Reply (ask c) := by
  intro S s
  obtain ⟨r, v, ha⟩ := S.answers hc.2 s
  have hobs : (ask c).observe S.answer s = ([⟨c, r⟩], some (r, v)) := Program.observe_call_some ha
  have hne : ∀ q : PopenReply, (⟨c, r⟩ : Sigma calls.Reply) ≠
      ⟨.popen (sys.chroot ++ printenvCommand FIRMWARE_ENV_BOOT_COUNT), q⟩ := by
    intro q he
    have hcall : c = .popen _ := congrArg Sigma.fst he
    exact hc.1 (hcall ▸ .inl rfl)
  rw [hobs]
  exact ⟨iff_of_true rfl ((wellRead_cons hne).mpr wellRead_nil), settled_concat [] hne⟩

lemma guards_call {c : Call} (hc : Plain sys c) {next : c.Reply → Prog α} (hn : ∀ r, Guards sys α (next r)) :
    Guards sys α (.call (S := calls) c next) := guards_bind (guards_ask c hc) hn

variable (sys) in
lemma guards_stateFrom {b : Bytes} (u : Bytes) {n : ℤ} (hn : Text.stoi b = .ok n) :
    Guards sys (Option Bytes) (stateFrom (some b) (some u)) := by
  rw [stateFrom_ok hn]
  split_ifs
  · exact guards_call ⟨id, by simp⟩ fun _ => guards_done _
  · exact guards_call ⟨id, by simp⟩ fun _ => guards_done _

lemma guards_state : Guards sys (Option Bytes) (firmwareState sys) := by
  intro S s
  obtain ⟨r₁, s₁, h₁⟩ := S.answers (c := .popen (sys.chroot ++ printenvCommand FIRMWARE_ENV_BOOT_COUNT)) (by simp) s
  obtain ⟨r₂, s₂, h₂⟩ := S.answers (c := .popen (sys.chroot ++ printenvCommand FIRMWARE_ENV_UPGRADE_AVAIL)) (by simp) s₁
  have hread : Settled sys [⟨.popen (sys.chroot ++ printenvCommand FIRMWARE_ENV_BOOT_COUNT), r₁⟩,
      ⟨.popen (sys.chroot ++ printenvCommand FIRMWARE_ENV_UPGRADE_AVAIL), r₂⟩] :=
    settled_concat [_] (upgrade_ne_bootcount r₂)
  rw [firmwareState_eq, Program.observe_call_some h₁, Program.observe_call_some h₂]
  cases hb : envValue FIRMWARE_ENV_BOOT_COUNT r₁.result with
  | none => exact ⟨iff_of_true rfl (wellRead_evaluation.mpr ⟨not_malformed_of_unread (.inl hb), wellRead_nil⟩), hread⟩
  | some b =>
    cases hu : envValue FIRMWARE_ENV_UPGRADE_AVAIL r₂.result with
    | none => exact ⟨iff_of_true rfl (wellRead_evaluation.mpr ⟨not_malformed_of_unread (.inr hu), wellRead_nil⟩), hread⟩
    | some u =>
      cases hn : Text.stoi b with
      | error e =>
        have hraise : (abort (.stoi e) : Prog (Option Bytes)).observe S.answer s₂ = ([], none) := by
          refine Program.observe_call_none ?_
          cases ha : S.answer (.abort (.stoi e)) s₂ with
          | none => rfl
          | some rv => exact rv.1.elim
        rw [stateFrom_error hn, hraise]
        refine ⟨iff_of_false (by simp) fun h => ?_, hread⟩
        exact (wellRead_evaluation.mp h).1 (malformed_of_error hb hu hn)
      | ok n =>
        have hrest := guards_stateFrom sys u hn S s₂
        refine ⟨?_, hread.append hrest.settled⟩
        rw [wellRead_evaluation, and_iff_right (not_malformed_of_ok hb hn)]
        exact hrest.returns

lemma guards_status (b : Body) : Guards sys Resp (WifiStatus.get sys b) := by
  have hask : ∀ c, Plain sys c → Guards sys c.Reply (ask c) := guards_ask
  have hconnection : Guards sys Unit WifiStatus.refreshConnectionStatus := by
    refine guards_bind (hask (.load .wifi) ⟨id, by simp⟩) fun _ => ?_
    refine guards_bind (hask (.store .wifi _) ⟨id, by simp⟩) fun _ => ?_
    refine guards_bind (hask .getifaddrs ⟨id, by simp⟩) fun _ => ?_
    exact guards_bind (hask (.load .wifi) ⟨id, by simp⟩) fun _ => hask (.store .wifi _) ⟨id, by simp⟩
  have hssid : Guards sys Unit (WifiStatus.refreshSsid sys) := by
    refine guards_bind (guards_bind (hask (.popen _) ?_) fun _ => guards_done _) fun _ => ?_
    · exact ⟨(inspects_popen (by decide) (by decide)).2, by simp⟩
    · exact guards_bind (hask (.load .wifi) ⟨id, by simp⟩) fun _ => hask (.store .wifi _) ⟨id, by simp⟩
  refine guards_bind hconnection fun _ => guards_bind hssid fun _ => ?_
  exact guards_bind (hask (.load .wifi) ⟨id, by simp⟩) fun _ => guards_done _

lemma closed_guards : Closed sys (Plain sys) (Guards sys) where
  done a := guards_done a
  bind := guards_bind
  ask := guards_ask
  state := guards_state
  status := guards_status

lemma plain_of_inspects (c : Call) (h : c.Inspects sys) : Plain sys c := by
  refine ⟨h.2, ?_⟩
  rintro a rfl
  exact h.1

end guards

section replies

lemma guards_put (b : Body) : Guards sys Resp (Firmware.put sys b) := by
  have K : Closed sys (Plain sys) (Guards sys) := closed_guards
  refine guards_bind guards_state fun state => ?_
  cases state with
  | none => exact guards_done _
  | some state =>
    dsimp only
    split_ifs
    · exact guards_done _
    · unfold Firmware.accept
      split
      · split
        · exact guards_done _
        · rw [Firmware.start_eq, FirmwareManager.download_eq]
          refine guards_call ⟨id, by simp⟩ fun _ => guards_bind (guards_call ⟨id, by simp⟩ fun child => ?_) fun pid => ?_
          · split_ifs
            · exact guards_done _
            · refine guards_call ⟨id, by simp⟩ fun _ => guards_call ⟨id, by simp⟩ fun _ => ?_
              exact guards_call ⟨id, by simp⟩ fun _ => guards_call ⟨id, by simp⟩ fun _ => guards_done _
          · unfold Firmware.started
            split_ifs
            · exact guards_done _
            · exact K.firmwareGet plain_of_inspects _
        · exact guards_done _
      · exact guards_done _

lemma guards_commit (b : Body) : Guards sys Resp (FirmwareCommit.put sys b) := by
  have K : Closed sys (Plain sys) (Guards sys) := closed_guards
  refine guards_bind guards_state fun state => ?_
  cases state with
  | none => exact guards_done _
  | some state =>
    dsimp only
    split_ifs
    · exact guards_done _
    · refine guards_bind (guards_ask (.shell _) ⟨id, by simp⟩) fun result => ?_
      split_ifs
      · exact K.firmwareGet plain_of_inspects _
      · exact guards_done _

lemma guards_request {r : Request} (hr : Evaluating r) : Guards sys (Option Resp) (handler sys r) := by
  have K : Closed sys (Plain sys) (Guards sys) := closed_guards
  cases hr with
  | getFirmware body => exact K.getRequest plain_of_inspects URI_FIRMWARE body
  | getRoot body => exact K.getRequest plain_of_inspects URI_ROUTER_STATUS body
  | putFirmware body => exact K.map (guards_put body) some
  | putCommit body => exact K.map (guards_commit body) some

lemma replies_of_isSome {S : Surroundings} {s : S.State} (m : Method) (path : Bytes) (body : Body)
    (h : ((handler sys (.http m path body)).observe S.answer s).2.isSome = true) :
    Replies sys S (.http m path body) s := by
  have hh : handler sys (.http m path body) = serve sys m path body >>= fun resp => .done (some resp) := rfl
  rcases hx : (serve sys m path body).observe S.answer s with ⟨t, _ | ⟨resp, v⟩⟩
  · rw [hh, Program.observe_bind_none _ hx] at h
    cases h
  · refine ⟨resp, v, ?_⟩
    rw [hh, Program.observe_bind_some _ hx]
    rfl

lemma replies_iff_isSome {S : Surroundings} {s : S.State} {r : Request} (hr : Evaluating r) :
    Replies sys S r s ↔ ((handler sys r).observe S.answer s).2.isSome = true := by
  constructor
  · rintro ⟨resp, v, h⟩
    rw [h]
    rfl
  · cases hr <;> exact replies_of_isSome _ _ _

theorem evaluated_iff {S : Surroundings} {r : Request} (hr : Evaluating r) (s : S.State) :
    (∀ r₁ r₂ d, Documented sys r₁ r₂ d ↔ ¬ Malformed r₁ r₂) ∧
      (Replies sys S r s ↔ WellRead sys ((handler sys r).observe S.answer s).1) := by
  refine ⟨fun r₁ r₂ d => ?_, ?_⟩
  · exact documented_iff sys r₁ r₂ d
  · rw [replies_iff_isSome hr]
    exact (guards_request hr S s).returns

end replies

section samples

-- The slot is uncommitted; everything but the two variables fails.
def uncommitted : (c : Call) → Unit → Option (c.Reply × Unit)
  | .popen command, _ =>
    if command = printenvCommand FIRMWARE_ENV_BOOT_COUNT then
      some (printVariable FIRMWARE_ENV_BOOT_COUNT (some (bytes "1")), ())
    else if command = printenvCommand FIRMWARE_ENV_UPGRADE_AVAIL then
      some (printVariable FIRMWARE_ENV_UPGRADE_AVAIL (some (bytes "1")), ())
    else some (spawned [] 256, ())
  | .shell _, _ | .fork _, _ | .addSignalEvent, _ | .rename .., _ | .remove _, _ | .symlink .., _ => some (-1, ())
  | .waitid _, _ => some (.failed ECHILD, ())
  | .replaceSignalEvent, _ | .deleteSignalEvent, _ | .store .., _ => some ((), ())
  | .readFile _, _ | .readlink .., _ | .lstat _, _ => some (none, ())
  | .createFile _, _ | .writeFile .., _ | .closeFile _, _ => some (false, ())
  | .getifaddrs, _ => some ([], ())
  | .load f, _ => some (Memory.initial.get f, ())
  | .emptyOptional, _ => some ([], ())
  | .abort _, _ => none

def readable : Surroundings where
  State := Unit
  answer := uncommitted
  answered c s h := by
    cases c with
    | abort a => exact ⟨a, rfl⟩
    | popen command =>
      rw [uncommitted] at h
      split_ifs at h
    | _ => exact absurd h (by simp [uncommitted])

theorem evaluated_read : (∀ r₁ r₂ d, Documented Sample.bare r₁ r₂ d ↔ ¬ Malformed r₁ r₂) ∧
    (Replies Sample.bare readable (.http .put URI_FIRMWARE_COMMIT none) () ↔
      WellRead Sample.bare ((handler Sample.bare (.http .put URI_FIRMWARE_COMMIT none)).observe readable.answer ()).1) ∧
    ((handler Sample.bare (.http .put URI_FIRMWARE_COMMIT none)).exec uncommitted ()).map Prod.fst =
      some (some (Resource.internalServerError (bytes "Failed to firmware_commit with error code: -1"))) :=
  and_assoc.mp ⟨evaluated_iff (S := readable) (.putCommit none) (), rfl⟩

set_option maxRecDepth 100000 in
theorem named_bootcount_throws : ¬ Documented Sample.bare (printVariable FIRMWARE_ENV_BOOT_COUNT (some (bytes "abc")))
    (printVariable FIRMWARE_ENV_UPGRADE_AVAIL (some (bytes "0"))) false := by
  rintro ⟨result, heval, -⟩
  have hnone : evaluation Sample.bare (printVariable FIRMWARE_ENV_BOOT_COUNT (some (bytes "abc")))
    (printVariable FIRMWARE_ENV_UPGRADE_AVAIL (some (bytes "0"))) false = none := by decide
  exact Option.some_ne_none result (heval.symm.trans hnone)

end samples

end RouterCard.Captived.StateEvaluation
