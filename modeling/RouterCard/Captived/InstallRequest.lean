import RouterCard.Captived.Handlers
import RouterCard.Captived.UpdateState

namespace RouterCard.Captived.InstallRequest

open Text Interaction FirmwareManager

variable (sys : System)

abbrev rules : Rules calls World where
  rely _ w v := ∃ a, act a w = some v
  answers _ c w r v := ∃ o, answer sys c o w = some (r, v)
  always _ := True
  allowed _ _ _ := True

def Installs : Call → Prop
  | .fork _ | .addSignalEvent => True
  | _ => False

def Forked (t : Trace calls) (r : ℤ) : Prop := ∃ c, (⟨.fork c, r⟩ : Sigma Call.Reply) ∈ t

def Added (t : Trace calls) (r : ℤ) : Prop := (⟨.addSignalEvent, r⟩ : Sigma Call.Reply) ∈ t

def UpgradeSeen (t : Trace calls) : Prop :=
  ∃ r : PopenReply, (⟨.popen (sys.chroot ++ printenvCommand FIRMWARE_ENV_UPGRADE_AVAIL), r⟩ : Sigma Call.Reply) ∈ t ∧
    envValue FIRMWARE_ENV_UPGRADE_AVAIL r.result = some (bytes "1")

-- The members of firmware_manager, but for the flag that reading the state may clear.
structure Kept (w : World) (t : Trace calls) (v : World) : Prop where
  childPid : v.memory.childPid = w.memory.childPid
  registered : v.registered = w.registered
  downloading : v.memory.downloading = w.memory.downloading ∨ v.memory.downloading = false ∧ UpgradeSeen sys t

structure Untouched (w : World) (t : Trace calls) (v : World) : Prop extends Kept sys w t v where
  unforked : ∀ r, Forked t r → r < 0
  uri : v.memory.uri = w.memory.uri

def requestedUri : Body → Option Bytes
  | some (.object members) =>
    match Json.objectGet (.object members) (bytes "update_URI") with
    | some (.string uri) => some uri.val
    | _ => none
  | _ => none

def Spoiled (w : World) (body : Body) (t : Trace calls) : Prop :=
  ∃ uri, requestedUri body = some uri ∧
    ((∃ r, Forked t r ∧ r < 0) ∧ uri ≠ w.memory.uri ∨ ∃ r, Added t r ∧ r ≠ 0)

variable {sys} {w v : World} {t : Trace calls}

section trace

variable {c : Call} {x : c.Reply}

lemma mem_of_snoc {k : Call} {y : k.Reply} (hne : k ≠ c) (h : (⟨k, y⟩ : Sigma Call.Reply) ∈ t ++ [⟨c, x⟩]) :
    (⟨k, y⟩ : Sigma Call.Reply) ∈ t := by
  rcases List.mem_append.mp h with h | h
  · exact h
  · exact absurd (congrArg Sigma.fst (List.mem_singleton.mp h)) hne

lemma forked_snoc (hc : ¬ Installs c) {r : ℤ} (h : Forked (t ++ [⟨c, x⟩]) r) : Forked t r := by
  obtain ⟨command, h⟩ := h
  exact ⟨command, mem_of_snoc (by rintro rfl; exact hc trivial) h⟩

lemma added_snoc (hc : ¬ Installs c) {r : ℤ} (h : Added (t ++ [⟨c, x⟩]) r) : Added t r :=
  mem_of_snoc (by rintro rfl; exact hc trivial) h

lemma upgradeSeen_snoc (h : UpgradeSeen sys t) : UpgradeSeen sys (t ++ [⟨c, x⟩]) := by
  obtain ⟨r, hr, hv⟩ := h
  exact ⟨r, List.mem_append_left _ hr, hv⟩

end trace

structure Before (sys : System) (w : World) (t : Trace calls) (v : World) : Prop extends Kept sys w t v where
  uri : v.memory.uri = w.memory.uri
  unforked : ∀ r, ¬ Forked t r
  unadded : ∀ r, ¬ Added t r

lemma before_nil (w : World) : Before sys w [] w :=
  ⟨⟨rfl, rfl, .inl rfl⟩, rfl, fun _ ⟨_, h⟩ => List.not_mem_nil h, fun _ => List.not_mem_nil⟩

lemma stable {P : World → Prop} (h : ∀ w v, v.memory = w.memory → v.registered = w.registered → P w → P v)
    (t : Trace calls) : (rules sys).Stable t P := by
  rintro w v hw ⟨a, ha⟩
  exact h w v (act_memory ha) (act_registered ha) hw

lemma Before.of_eq {u : World} (h : Before sys w t v) (hm : u.memory = v.memory) (hr : u.registered = v.registered) :
    Before sys w t u :=
  ⟨⟨hm ▸ h.childPid, hr.trans h.registered, hm ▸ h.downloading⟩, hm ▸ h.uri, h.unforked, h.unadded⟩

lemma Before.stable (w : World) (t : Trace calls) : (rules sys).Stable t (Before sys w t) :=
  InstallRequest.stable (fun _ _ hm hr h => h.of_eq hm hr) t

lemma Before.call {u : World} {c : Call} {x : c.Reply} (hc : ¬ Installs c) (h : Before sys w t v)
    (hm : u.memory = v.memory) (hr : u.registered = v.registered) : Before sys w (t ++ [⟨c, x⟩]) u :=
  ⟨⟨hm ▸ h.childPid, hr.trans h.registered, hm ▸ h.downloading.imp_right fun hd => ⟨hd.1, upgradeSeen_snoc hd.2⟩⟩,
    hm ▸ h.uri, fun r hf => h.unforked r (forked_snoc hc hf), fun r hf => h.unadded r (added_snoc hc hf)⟩

lemma Before.clear (h : Before sys w t v) (hu : UpgradeSeen sys t) :
    Before sys w (t ++ [⟨.store .downloading false, ()⟩]) (v.store .downloading false) :=
  ⟨⟨h.childPid, h.registered, .inr ⟨rfl, upgradeSeen_snoc hu⟩⟩, h.uri,
    fun r hf => h.unforked r (forked_snoc (c := .store .downloading false) not_false hf),
    fun r hf => h.unadded r (added_snoc (c := .store .downloading false) not_false hf)⟩

def Result (sys : System) (w : World) (body : Body) (resp : Resp) (t : Trace calls) (v : World) : Prop :=
  (resp.1 ≠ .ok → Untouched sys w t v) ↔ ¬ Spoiled w body t

lemma Before.result (h : Before sys w t v) (body : Body) (resp : Resp) : Result sys w body resp t v := by
  refine iff_of_true (fun _ => ⟨h.toKept, fun r hr => absurd hr (h.unforked r), h.uri⟩) ?_
  rintro ⟨uri, -, ⟨⟨r, hr, -⟩, -⟩ | ⟨r, hr, -⟩⟩
  · exact h.unforked r hr
  · exact h.unadded r hr

lemma done_before {α : Type} (a : α) (h : Before sys w t v) :
    (Program.done a : Prog α).Safe (rules sys) (fun _ t v => Before sys w t v) t v :=
  .of_done (Before.stable w t) h fun _ hu => ⟨trivial, hu⟩

lemma popen_before {α : Type} {command : Bytes} {next : PopenReply → Prog α} {post : α → Trace calls → World → Prop}
    (h : Before sys w t v)
    (hn : ∀ (r : PopenReply) u, Before sys w (t ++ [⟨.popen command, r⟩]) u →
      (next r).Safe (rules sys) post (t ++ [⟨.popen command, r⟩]) u) :
    Program.Safe (rules sys) post (.call (S := calls) (.popen command) next) t v := by
  refine .of_call (Before.stable w t) h (fun _ _ => ⟨trivial, trivial⟩) fun u r x hu ⟨o, hx⟩ => hn r x ?_
  rcases answer_popen hx with ⟨-, rfl⟩ | ⟨-, rfl⟩
  · exact hu.call not_false rfl rfl
  · exact hu.call not_false rfl rfl

lemma stateFrom_before (b u : Option Bytes) (h : Before sys w t v) (hu : u = some (bytes "1") → UpgradeSeen sys t) :
    (stateFrom b u).Safe (rules sys) (fun _ t v => Before sys w t v) t v := by
  have hc := stateFrom_cases b u
  generalize stateFrom b u = p at hc ⊢
  cases hc with
  | unread => exact done_before none h
  | thrown => exact .of_call (Before.stable w t) h (fun _ _ => ⟨trivial, trivial⟩) fun _ r => r.elim
  | upgraded _ _ h1 =>
    refine .of_call (Before.stable w t) h (fun _ _ => ⟨trivial, trivial⟩) fun x r y hx ⟨o, hy⟩ => ?_
    rw [answer_store hy]
    exact done_before _ (hx.clear (hu h1))
  | flagged =>
    refine .of_call (Before.stable w t) h (fun _ _ => ⟨trivial, trivial⟩) fun x r y hx ⟨o, hy⟩ => ?_
    obtain ⟨-, rfl⟩ := answer_load hy
    exact done_before _ (hx.call not_false rfl rfl)

lemma firmwareState_before (h : Before sys w t v) :
    (firmwareState sys).Safe (rules sys) (fun _ t v => Before sys w t v) t v := by
  rw [firmwareState_eq]
  refine popen_before h fun r₁ x hx => popen_before hx fun r₂ y hy => stateFrom_before _ _ hy fun hu => ?_
  exact ⟨r₂, by simp, hu⟩

structure Started (t : Trace calls) : Prop where
  forked : ∀ r, Forked t r → 0 < r
  added : ∀ r, Added t r → r = 0

lemma Started.call {c : Call} {x : c.Reply} (hc : ¬ Installs c) (h : Started t) : Started (t ++ [⟨c, x⟩]) :=
  ⟨fun r hr => h.forked r (forked_snoc hc hr), fun r hr => h.added r (added_snoc hc hr)⟩

lemma Started.add (h : Started t) : Started (t ++ [⟨.addSignalEvent, (0 : ℤ)⟩]) := by
  refine ⟨fun r ⟨command, hr⟩ => h.forked r ⟨command, mem_of_snoc Call.noConfusion hr⟩, fun r hr => ?_⟩
  rcases List.mem_append.mp hr with hr | hr
  · exact h.added r hr
  · cases List.mem_singleton.mp hr
    rfl

lemma started_of_fork {command : Bytes} {r : ℤ} (hf : ∀ r, ¬ Forked t r) (ha : ∀ r, ¬ Added t r) (hr : 0 < r) :
    Started (t ++ [⟨.fork command, r⟩]) := by
  refine ⟨fun x ⟨c, hx⟩ => ?_, fun x hx => absurd (mem_of_snoc Call.noConfusion hx) (ha x)⟩
  rcases List.mem_append.mp hx with hx | hx
  · exact absurd ⟨c, hx⟩ (hf x)
  · cases List.mem_singleton.mp hx
    exact hr

lemma Started.result {resp : Resp} (h : Started t) (hok : resp.1 = .ok) (body : Body) : Result sys w body resp t v := by
  refine iff_of_true (fun hne => absurd hok hne) ?_
  rintro ⟨uri, -, ⟨⟨r, hr, hneg⟩, -⟩ | ⟨r, hr, hne⟩⟩
  · have hpos := h.forked r hr
    omega
  · exact hne (h.added r hr)

lemma calls_of_built {C D : Call → Prop} {α : Type} {p : Prog α} (hp : Built sys C p) (h : ∀ c, C c → D c)
    (hstate : (firmwareState sys).Calls D) : p.Calls D := by
  induction hp with
  | done a => trivial
  | call hc _ ih => exact ⟨h _ hc, ih⟩
  | state _ ih => exact hstate.bind ih

lemma firmwareState_uninstalling : (firmwareState sys).Calls fun c => ¬ Installs c := by
  rw [firmwareState_eq]
  exact ⟨not_false, fun _ => ⟨not_false, fun _ => stateFrom_calls not_false not_false (fun _ => not_false) _ _⟩⟩

lemma Call.Reads.uninstalling {c : Call} (h : c.Reads) : ¬ Installs c := by
  cases c with
  | fork | addSignalEvent => exact h.elim
  | _ => exact not_false

lemma get_result (h : Started t) (body b : Body) : (Firmware.get sys b).Safe (rules sys) (Result sys w body) t v := by
  have hcalls : (AggregateResource.addResources (.object []) (Firmware.children sys)).Calls fun c => ¬ Installs c := by
    have hbuilt : Built sys Call.Reads (AggregateResource.addResources (.object []) (Firmware.children sys)) :=
      built_reads.addResources (built_reads.firmwareChildren fun _ h => h.reads) _
    exact calls_of_built hbuilt (fun _ => Call.Reads.uninstalling) firmwareState_uninstalling
  have htrue : ∀ t : Trace calls, (rules sys).Stable t fun _ => Started t := fun t _ _ hw _ => hw
  refine .bind (.mono (.of_calls (P := fun t _ => Started t) hcalls htrue (fun _ _ _ _ _ => ⟨trivial, trivial⟩)
    (fun _ _ _ => trivial) (fun _ _ _ _ _ hc ht _ => ht.call hc) h) fun root t' v' ht => ?_)
  exact .of_done (htrue t') ht fun u hu => ⟨trivial, hu.result rfl body⟩

lemma forked_last {command : Bytes} {r : ℤ} : Forked (t ++ [⟨.fork command, r⟩]) r := ⟨command, by simp⟩

lemma Forked.call {c : Call} {x : c.Reply} {r : ℤ} (h : Forked t r) : Forked (t ++ [⟨c, x⟩]) r := by
  obtain ⟨command, h⟩ := h
  exact ⟨command, List.mem_append_left _ h⟩

lemma any_call {α : Type} {c : Call} {next : c.Reply → Prog α} {post : α → Trace calls → World → Prop}
    (hn : ∀ r v u, (rules sys).answers t c v r u → (next r).Safe (rules sys) post (t ++ [⟨c, r⟩]) u) :
    Program.Safe (rules sys) post (.call (S := calls) c next) t v :=
  .of_call (P := fun _ => True) (fun _ _ _ _ => trivial) trivial (fun _ _ => ⟨trivial, trivial⟩)
    fun v r u _ hr => hn r v u hr

lemma any_done {α : Type} {a : α} {post : α → Trace calls → World → Prop} (h : ∀ u, post a t u) :
    (Program.done a : Prog α).Safe (rules sys) post t v :=
  .of_done (P := fun _ => True) (fun _ _ _ _ => trivial) trivial fun u _ => ⟨trivial, h u⟩

lemma play_result {α : Type} {p : Prog α} {a : α} {post : α → Trace calls → World → Prop} {ms : List (Move (host sys))}
    (hp : p.Safe (rules sys) post [] w) (h : (⟨[], p, w⟩ : Session (host sys) α).play ms = some ⟨t, .done a, v⟩) : post a t v :=
  (Program.Safe.play (H := host sys) (R := rules sys) (fun _ => True) (fun _ a _ _ _ ha => ⟨a, ha⟩)
    (fun _ _ o _ _ _ ha => ⟨o, ha⟩) (fun _ _ => trivial) hp h).result

lemma registering_result {body : Body} {uri : Bytes} {r : ℤ} (hb : requestedUri body = some uri) (hr : 0 < r)
    (hf : Forked t r) (h : Started t) :
    Program.Safe (rules sys) (Result sys w body)
      (.call (S := calls) (.store .downloading true) fun _ => .call (S := calls) (.store .childPid r) fun _ =>
        .call (S := calls) .replaceSignalEvent fun _ => .call (S := calls) .addSignalEvent fun added =>
          Firmware.started sys (if added ≠ 0 then -1 else r)) t v := by
  refine any_call fun _ _ _ _ => any_call fun _ _ _ _ => any_call fun _ _ _ _ => any_call fun a x y ⟨o, ha⟩ => ?_
  have h₃ := ((h.call (c := .store .downloading true) (x := ()) not_false).call (c := .store .childPid r) (x := ())
    not_false).call (c := .replaceSignalEvent) (x := ()) not_false
  rcases answer_addSignalEvent ha with ⟨-, rfl, -⟩ | ⟨-, -, rfl, -⟩
  · have hpos : ¬ r ≤ 0 := by omega
    simp only [ne_eq, not_true_eq_false, if_false, Firmware.started, hpos]
    exact get_result h₃.add body _
  · have hs : Firmware.started sys (if (-1 : ℤ) ≠ 0 then -1 else r) = .done _ := rfl
    rw [hs]
    refine any_done fun u => ?_
    refine iff_of_false (fun hu => ?_) (not_not.mpr ⟨uri, hb, .inr ⟨-1, by simp [Added], by decide⟩⟩)
    have hneg := (hu Status.noConfusion).unforked r hf.call.call.call.call
    omega

structure Stored (sys : System) (w : World) (uri : Bytes) (t : Trace calls) (v : World) : Prop extends Kept sys w t v where
  uri : v.memory.uri = uri

lemma Stored.stable (w : World) (uri : Bytes) (t : Trace calls) : (rules sys).Stable t (Stored sys w uri t) :=
  InstallRequest.stable (fun _ _ hm hr h =>
    ⟨⟨hm ▸ h.childPid, hr.trans h.registered, hm ▸ h.downloading⟩, hm ▸ h.uri⟩) t

lemma Stored.call {uri : Bytes} {c : Call} {x : c.Reply} (h : Stored sys w uri t v) : Stored sys w uri (t ++ [⟨c, x⟩]) v :=
  ⟨⟨h.childPid, h.registered, h.downloading.imp_right fun hd => ⟨hd.1, upgradeSeen_snoc hd.2⟩⟩, h.uri⟩

lemma refused_result {body : Body} {uri command : Bytes} {r : ℤ} (hb : requestedUri body = some uri) (hr : r < 0)
    (hu : ∀ r, ¬ Forked t r) (ha : ∀ r, ¬ Added t r) (h : Stored sys w uri (t ++ [⟨.fork command, r⟩]) v) :
    (Firmware.started sys r).Safe (rules sys) (Result sys w body) (t ++ [⟨.fork command, r⟩]) v := by
  have hs : Firmware.started sys r = .done _ := if_pos hr.le
  rw [hs]
  refine .of_done (Stored.stable w uri _) h fun z hz => ⟨trivial, ?_⟩
  have hforked : ∀ x, Forked (t ++ [⟨.fork command, r⟩]) x → x < 0 := by
    rintro x ⟨c, hx⟩
    rcases List.mem_append.mp hx with hx | hx
    · exact absurd ⟨c, hx⟩ (hu x)
    · cases List.mem_singleton.mp hx
      exact hr
  have hadded : ∀ x, ¬ Added (t ++ [⟨.fork command, r⟩]) x := by
    intro x hx
    rcases List.mem_append.mp hx with hx | hx
    · exact ha x hx
    · cases List.mem_singleton.mp hx
  constructor
  · rintro hunt ⟨uri', hb', ⟨-, hne⟩ | ⟨x, hx, -⟩⟩
    · obtain rfl : uri = uri' := Option.some.inj (hb.symm.trans hb')
      exact hne (hz.uri ▸ (hunt Status.noConfusion).uri)
    · exact hadded x hx
  · intro hsp _
    refine ⟨hz.toKept, hforked, by_contra fun hne => hsp ⟨uri, hb, .inl ⟨⟨r, forked_last, hr⟩, ?_⟩⟩⟩
    exact hz.uri ▸ hne

lemma start_result {body : Body} {uri : Bytes} (hb : requestedUri body = some uri) (h : Before sys w t v) :
    (Firmware.start sys uri).Safe (rules sys) (Result sys w body) t v := by
  rw [Firmware.start_eq, download_eq]
  refine .of_call (Before.stable w t) h (fun _ _ => ⟨trivial, trivial⟩) fun x () y hx ⟨o, hy⟩ => ?_
  obtain rfl := answer_store hy
  have hk : Stored sys w uri (t ++ [⟨.store .uri uri, ()⟩]) (x.store .uri uri) :=
    ⟨⟨hx.childPid, hx.registered, hx.downloading.imp_right fun hd => ⟨hd.1, upgradeSeen_snoc hd.2⟩⟩, rfl⟩
  have hu : ∀ r, ¬ Forked (t ++ [⟨.store .uri uri, ()⟩]) r := fun r hr =>
    hx.unforked r (forked_snoc (c := .store .uri uri) not_false hr)
  have ha : ∀ r, ¬ Added (t ++ [⟨.store .uri uri, ()⟩]) r := fun r hr =>
    hx.unadded r (added_snoc (c := .store .uri uri) not_false hr)
  refine .of_call (Stored.stable w uri _) hk (fun _ _ => ⟨trivial, trivial⟩) fun z r z' hz ⟨o', hr⟩ => ?_
  rcases answer_fork hr with ⟨hneg, rfl⟩ | ⟨hpos, -, -⟩
  · simp only [hneg, if_true]
    exact refused_result hb hneg hu ha hz.call
  · have hnot : ¬ (r : ℤ) < 0 := not_lt.mpr hpos.le
    simp only [hnot, if_false]
    exact registering_result hb hpos forked_last (started_of_fork hu ha hpos)

lemma done_result (body : Body) (resp : Resp) (h : Before sys w t v) :
    (Program.done resp : Prog Resp).Safe (rules sys) (Result sys w body) t v :=
  .of_done (Before.stable w t) h fun _ hu => ⟨trivial, hu.result body resp⟩

lemma accept_result (body : Body) (h : Before sys w t v) :
    (Firmware.accept sys body).Safe (rules sys) (Result sys w body) t v := by
  unfold Firmware.accept
  split
  · next members =>
    split
    · exact done_result _ _ h
    · next uri huri => exact start_result (by simp only [requestedUri, huri]) h
    · exact done_result _ _ h
  · exact done_result _ _ h

lemma put_result (body : Body) (w : World) : (Firmware.put sys body).Safe (rules sys) (Result sys w body) [] w := by
  refine .bind ((firmwareState_before (before_nil w)).mono fun s t v h => ?_)
  cases s with
  | none => exact done_result _ _ h
  | some s =>
    dsimp only
    split_ifs
    · exact done_result _ _ h
    · exact accept_result body h

theorem put_untouched_iff {body : Body} {ms : List (Move (host sys))} {resp : Resp}
    (h : (⟨[], Firmware.put sys body, w⟩ : Session (host sys) Resp).play ms = some ⟨t, .done resp, v⟩) :
    (resp.1 ≠ .ok → Untouched sys w t v) ↔ ¬ Spoiled w body t :=
  play_result (put_result body w) h

section samples

open Sample

def refusedFork : List (Move (host bare)) := List.replicate 4 (.answer .done) ++ [.answer (.failed 11)]

def refusedEvent : List (Move (host bare)) :=
  List.replicate 4 (.answer .done) ++ .answer (.forked 7) :: List.replicate 3 (.answer .done) ++ [.answer (.failed 12)]

def request : Session (host bare) Resp := ⟨[], Firmware.put bare install, first.world⟩

lemma play_request (ms : List (Move (host bare))) (f : Session (host bare) Resp → Bool)
    (h : ((request.play ms).any fun s => s.result.any (fun resp => resp.1 = .internalServerError) && f s) = true) :
    ∃ t resp v, request.play ms = some ⟨t, .done resp, v⟩ ∧ resp.1 = .internalServerError ∧ f ⟨t, .done resp, v⟩ = true := by
  obtain ⟨⟨t, rest, v⟩, hs, hf⟩ := (Option.any_eq_true _ _).mp h
  rw [Bool.and_eq_true] at hf
  obtain ⟨resp, hr, hst⟩ := (Option.any_eq_true _ _).mp hf.1
  obtain rfl := Session.result_eq hr
  exact ⟨t, resp, v, hs, by simpa using hst, hf.2⟩

set_option maxRecDepth 100000 in
theorem put_untouched_iff_refused : ∃ t resp v, request.play refusedFork = some ⟨t, .done resp, v⟩ ∧
    resp.1 = .internalServerError ∧ ((resp.1 ≠ .ok → Untouched bare first.world t v) ↔ ¬ Spoiled first.world install t) := by
  obtain ⟨t, resp, v, hs, hr, -⟩ := play_request refusedFork (fun _ => true) (by decide)
  exact ⟨t, resp, v, hs, hr, put_untouched_iff hs⟩

set_option maxRecDepth 100000 in
theorem failed_put_leaves_installer : ∃ t resp v, request.play refusedEvent = some ⟨t, .done resp, v⟩ ∧
    resp.1 = .internalServerError ∧ v.find 7 = some ⟨7, .running false⟩ ∧ ¬ Untouched bare first.world t v := by
  obtain ⟨t, resp, v, hs, hr, hf⟩ := play_request refusedEvent
    (fun s => s.world.find 7 = some ⟨7, .running false⟩ && s.world.memory.downloading) (by decide)
  simp only [Bool.and_eq_true, decide_eq_true_eq] at hf
  have hfirst : first.world.memory.downloading = false := rfl
  refine ⟨t, resp, v, hs, hr, hf.1, fun hu => ?_⟩
  have hd := hu.downloading
  simp [hf.2, hfirst] at hd

end samples

end RouterCard.Captived.InstallRequest
