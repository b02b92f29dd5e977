import RouterCard.Captived.UpdateLock

/-! At most one installer is alive, and no commit is started while one is, as long as no
installer writes the environment between the two reads of a commit. -/

namespace RouterCard.Captived.Exclusion

open Text Interaction FirmwareManager UpdateLock

variable {sys : System}

theorem firmware_operations_exclusive {c : (daemon sys).Config}
    (hc : Server.Reachable (IsInitial sys) (limits sys True).ok c) :
    (∀ p q, c.world.Alive p → c.world.Alive q → p = q) ∧
    (c.nextCall = some (.shell (sys.chroot ++ COMMAND_MENDER_COMMIT)) → ∀ pid, ¬ c.world.Alive pid) := by
  refine ⟨(contract sys True).invariant (fun _ => idle_of_initial) hc trivial, fun hn pid hp => ?_⟩
  obtain ⟨t, -, hg⟩ := guard_next hc hn
  have hi : Idle True c.world := hg rfl
  exact hp.elim (hi.unwritten pid) (hi.written trivial pid)

namespace Sample

open Captived.Sample

def shellCommand : Call → Option Bytes
  | .shell command => some command
  | _ => none

lemma shellCommand_eq {k : Option Call} {command : Bytes} (h : k.bind shellCommand = some command) :
    k = some (.shell command) := by
  obtain ⟨k, rfl, hk⟩ := Option.bind_eq_some_iff.mp h
  cases k with
  | shell c => exact congrArg (fun c => some (Call.shell c)) (Option.some.inj hk)
  | _ => simp [shellCommand] at hk

def committing : List (daemon bare).Label := .start (.http .put URI_FIRMWARE_COMMIT none) :: done 3

def committingTorn : List (daemon bare).Label :=
  [.start (.http .put URI_FIRMWARE_COMMIT none), answered .done, acted (.write 7)] ++ done 2

def again : List (daemon bare).Label :=
  done 7 ++ [.finish, .start (.http .put URI_FIRMWARE install)] ++ done 4 ++ [answered (.forked 8)]

lemma plain_committing : ∀ l ∈ committing, Plain l := by
  intro l hl
  rcases List.mem_cons.mp hl with rfl | hl
  · trivial
  · exact plain_done 3 l hl

end Sample

set_option maxRecDepth 100000 in
theorem firmware_operations_exclusive_committing : ∃ c, Captived.Sample.first.run Sample.committing = some c ∧
    c.nextCall = some (.shell (Captived.Sample.bare.chroot ++ COMMAND_MENDER_COMMIT)) ∧
    (∀ p q, c.world.Alive p → c.world.Alive q → p = q) ∧ ¬ c.world.Alive 7 := by
  have h : ((Captived.Sample.first.run Sample.committing).map fun c => c.nextCall.bind Sample.shellCommand) =
      some (some (Captived.Sample.bare.chroot ++ COMMAND_MENDER_COMMIT)) := by decide
  obtain ⟨c, hc, hn⟩ := Option.map_eq_some_iff.mp h
  have hr : Server.Reachable (IsInitial _) (limits Captived.Sample.bare True).ok c :=
    (Server.Reachable.init ⟨_, _, rfl⟩).run
      (Captived.Sample.ok_of_plain Sample.plain_committing fun _ _ _ _ _ _ => trivial) hc
  have hn := Sample.shellCommand_eq hn
  have he := firmware_operations_exclusive hr
  exact ⟨c, hc, hn, he.1, he.2 hn 7⟩

set_option maxRecDepth 100000 in
theorem commit_started_beside_installer :
    (∃ c, Captived.Sample.first.run (Captived.Sample.updating ++ Sample.committingTorn) = some c ∧
      c.nextCall = some (.shell (Captived.Sample.bare.chroot ++ COMMAND_MENDER_COMMIT)) ∧ c.world.Alive 7) ∧
    ∃ c, Captived.Sample.first.run (Captived.Sample.updating ++ Sample.committingTorn ++ Sample.again) = some c ∧
      c.world.Alive 7 ∧ c.world.Alive 8 := by
  constructor
  · have h : ((Captived.Sample.first.run (Captived.Sample.updating ++ Sample.committingTorn)).map fun c =>
        (c.nextCall.bind Sample.shellCommand, c.world.installers)) =
        some (some (Captived.Sample.bare.chroot ++ COMMAND_MENDER_COMMIT), [⟨7, .running true⟩]) := by decide
    obtain ⟨c, hc, he⟩ := Option.map_eq_some_iff.mp h
    obtain ⟨hn, hi⟩ := Prod.mk.inj he
    refine ⟨c, hc, Sample.shellCommand_eq hn, .inr ?_⟩
    rw [World.Written, hi]
    exact .head _
  · have h : ((Captived.Sample.first.run (Captived.Sample.updating ++ Sample.committingTorn ++ Sample.again)).map fun c =>
        c.world.installers) = some [⟨7, .running true⟩, ⟨8, .running false⟩] := by decide
    obtain ⟨c, hc, hi⟩ := Option.map_eq_some_iff.mp h
    refine ⟨c, hc, .inr ?_, .inl ?_⟩
    · rw [World.Written, hi]
      exact .head _
    · rw [World.Unwritten, hi]
      exact .tail _ (.head _)

end RouterCard.Captived.Exclusion
