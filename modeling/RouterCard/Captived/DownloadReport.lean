import RouterCard.Captived.UpdateLock

namespace RouterCard.Captived.DownloadReport

open Text Interaction FirmwareManager UpdateLock

variable {sys : System} {w : World}

lemma call_reported {r : Request} (hr : r ≠ .sigchld) {ms : List (Move (host sys))}
    {x : Session (host sys) (Option Bytes)} {s : Option Bytes} (hw : Locked False w)
    (hms : ∀ a, .act a ∈ ms → KeepsUpgrade a) (h : (stateCall sys w).play ms = some x) (hx : x.result = some s) :
    Reported False (r, []) s x.world := by
  have hs := Program.Safe.play (H := host sys) (R := rules sys False r) KeepsUpgrade
    (fun _ a _ _ ha hv => ⟨a, ⟨⟨ha, False.elim⟩, False.elim⟩, hv⟩) (fun _ _ o _ _ _ ha => ⟨o, trivial, ha⟩) hms
    (firmwareState_safe hr hw) h
  rw [Session.result_eq hx] at hs
  exact hs.result

theorem running_download_reported {c : (daemon sys).Config}
    (hc : Server.Reachable (IsInitial sys) (limits sys False).ok c) :
    (∀ t k ms x s pid, c.thread = some t → t.rest = firmwareState sys >>= k →
      (∀ a, .act a ∈ ms → KeepsUpgrade a) → (stateCall sys c.world).play ms = some x → x.result = some s →
      x.world.Unwritten pid → pid = x.world.memory.childPid ∧
        (s = some FIRMWARE_STATE_DOWNLOADING ∨ s = none ∧ Unreadable sys x.trace)) ∧
    (∀ uri, c.nextCall = some (.fork (installCommand sys uri)) → ∀ pid, ¬ c.world.Unwritten pid) ∧
    (c.nextCall = some (.shell (sys.chroot ++ COMMAND_MENDER_COMMIT)) → ∀ pid, ¬ c.world.Unwritten pid) ∧
    (∀ t, c.thread = some t → t.request = .sigchld →
      c.nextCall = some (.store .downloading false) ∨ c.nextCall = some .deleteSignalEvent →
      (∃ how, ⟨.waitid c.world.memory.childPid, .ended how⟩ ∈ t.trace) ∧
        c.world.find c.world.memory.childPid = none) := by
  refine ⟨?_, ?_, ?_, ?_⟩
  · rintro ⟨r, t, rest⟩ k ms x s pid ht hrest hms hx hs hp
    obtain rfl : rest = _ := hrest
    have hl : Locked False c.world := guard hc ht
    have hr := call_reported (r := .http .get [] none) Request.noConfusion hl hms hx hs
    refine ⟨(hr.locked.sole.unwritten pid hp).1, ?_⟩
    cases s with
    | none => exact .inr ⟨rfl, unreadable_of_none hx hs⟩
    | some s =>
      refine .inl ?_
      by_contra hne
      exact hr.unwritten s rfl (fun he => hne (congrArg some he)) pid hp
  · intro uri hn
    obtain ⟨t, -, hi⟩ := guard_next hc hn
    exact Idle.unwritten hi
  · intro hn
    obtain ⟨t, -, hi⟩ := guard_next hc hn
    exact Idle.unwritten (hi rfl)
  · rintro t ht hr (hn | hn)
    · obtain ⟨u, hu, hg⟩ := guard_next hc hn
      obtain rfl := Option.some.inj (ht.symm.trans hu)
      exact hg hr
    · obtain ⟨u, hu, hg⟩ := guard_next hc hn
      obtain rfl := Option.some.inj (ht.symm.trans hu)
      exact hg hr

set_option maxRecDepth 100000 in
theorem running_download_reported_updated : ∃ x, (stateCall Sample.bare Sample.updated.world).play
    [.answer .done, .answer .done, .answer .done] = some x ∧ x.world.Unwritten 7 ∧ 7 = x.world.memory.childPid ∧
    x.result = some (some FIRMWARE_STATE_DOWNLOADING) := by
  have hp : ((stateCall Sample.bare Sample.updated.world).play [.answer .done, .answer .done, .answer .done]).map
      (fun x => (x.result, x.world.installers)) =
      some (some (some FIRMWARE_STATE_DOWNLOADING), [⟨7, .running false⟩]) := by decide
  obtain ⟨x, hx, he⟩ := Option.map_eq_some_iff.mp hp
  obtain ⟨hr, hi⟩ := Prod.mk.inj he
  have hu : x.world.Unwritten 7 := by
    rw [World.Unwritten, hi]
    exact .head _
  have hc := Sample.reachable_started
    (Sample.ok_of_plain (L := limits Sample.bare False) Sample.plain_updating fun _ _ _ _ _ _ => trivial) .put
    URI_FIRMWARE_COMMIT none trivial
  have hk : ∃ k, handler Sample.bare (.http .put URI_FIRMWARE_COMMIT none) = firmwareState Sample.bare >>= k :=
    ⟨_, map_bind (m := Program calls) _ _ _⟩
  obtain ⟨k, hk⟩ := hk
  exact ⟨x, hx, hu, ((running_download_reported hc).1 _ k _ x _ 7 rfl hk (by simp) hx hr hu).1, hr⟩

end RouterCard.Captived.DownloadReport
