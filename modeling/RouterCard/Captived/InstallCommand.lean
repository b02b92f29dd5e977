import RouterCard.Captived.Daemon
import RouterCard.Shell.SimpleCommand

namespace RouterCard.Captived.InstallCommand

open Text Interaction FirmwareManager Shell

variable (sys : System)

def menderPath : Bytes := sys.chroot ++ bytes "/bin/mender"

def arguments (uri : Bytes) : List Bytes := [menderPath sys, bytes "-install", uri]

lemma installCommand_eq (uri : Bytes) :
    installCommand sys uri = joinBlank (menderPath sys) [bytes "-install", uri] := by
  have hc : COMMAND_MENDER_INSTALL = bytes "/bin/mender" ++ 32 :: bytes "-install" := by decide
  have hb : bytes " " = [32] := by decide
  simp only [installCommand, joinBlank, menderPath, hc, hb, List.append_assoc, List.cons_append, List.nil_append]

lemma put_eq (body : Body) : ∃ k, Firmware.put sys body = firmwareState sys >>= k ∧
    k (some FIRMWARE_STATE_NORMAL) = Firmware.accept sys body :=
  ⟨_, rfl, if_neg fun h => h rfl⟩

lemma accept_eq {members : List (Bytes × Json)} {u : JsonText}
    (hu : Json.objectGet (.object members) (bytes "update_URI") = some (.string u)) :
    ∃ next, Firmware.accept sys (some (.object members)) =
      .call (S := calls) (.store .uri u.val) fun _ => .call (S := calls) (.fork (installCommand sys u.val)) next := by
  have h : Firmware.accept sys (some (.object members)) = Firmware.start sys u.val := by simp only [Firmware.accept, hu]
  rw [h, Firmware.start_eq, download_eq]
  exact ⟨_, rfl⟩

-- What PUT /firmware goes on with once it has found the state to be normal.
def ForksInState (body : Body) (uri command : Bytes) : Prop :=
  ∃ k next, Firmware.put sys body = firmwareState sys >>= k ∧
    k (some FIRMWARE_STATE_NORMAL) =
      .call (S := calls) (.store .uri uri) fun _ => .call (S := calls) (.fork command) next

lemma forksInState {members : List (Bytes × Json)} {u : JsonText}
    (hu : Json.objectGet (.object members) (bytes "update_URI") = some (.string u)) :
    ForksInState sys (some (.object members)) u.val (installCommand sys u.val) := by
  obtain ⟨k, hput, hk⟩ := put_eq sys (some (.object members))
  obtain ⟨next, hacc⟩ := accept_eq sys hu
  exact ⟨k, next, hput, hk.trans hacc⟩

theorem installCommand_simple_iff (members : List (Bytes × Json)) (u : JsonText)
    (hu : Json.objectGet (.object members) (bytes "update_URI") = some (.string u)) :
    ∃ command, ForksInState sys (some (.object members)) u.val command ∧
      ((∀ env, simpleCommand env command = some (arguments sys u.val)) ↔
        (Literal (menderPath sys) ∧ IsCommandName (menderPath sys)) ∧ Literal u.val) := by
  refine ⟨installCommand sys u.val, forksInState sys hu, ?_⟩
  have hclean : Clean (bytes "-install") := (isClean_iff _).mp rfl
  have hinstall : Literal (bytes "-install") := ⟨hclean, by decide⟩
  rw [installCommand_eq, arguments, simpleCommand_joinBlank_iff]
  simp only [List.forall_mem_cons, List.not_mem_nil, false_implies, implies_true, and_true]
  constructor
  · rintro ⟨⟨hmender, -, huri⟩, hname⟩
    exact ⟨⟨hmender, hname⟩, huri⟩
  · rintro ⟨⟨hmender, hname⟩, huri⟩
    exact ⟨⟨hmender, hinstall, huri⟩, hname⟩

section samples

def plainUri : JsonText := ⟨bytes "http://10.0.0.1/xaprc.mender", by decide⟩

def request (u : JsonText) : List (Bytes × Json) := [(bytes "update_URI", .string u)]

theorem installCommand_simple_iff_plain : ∃ command,
    ForksInState Sample.bare (some (.object (request plainUri))) plainUri.val command ∧
      ((∀ env, simpleCommand env command = some (arguments Sample.bare plainUri.val)) ↔
        (Literal (menderPath Sample.bare) ∧ IsCommandName (menderPath Sample.bare)) ∧ Literal plainUri.val) :=
  installCommand_simple_iff Sample.bare (request plainUri) plainUri rfl

def injectingUri : JsonText := ⟨bytes "x;reboot", by decide⟩

def injectedTokens : List Token :=
  [.word (plain (bytes "/bin/mender")), .word (plain (bytes "-install")), .word (plain (bytes "x")), .operator 59,
    .word (plain (bytes "reboot"))]

theorem injecting_uri_not_one_command : ∃ command,
    ForksInState Sample.bare (some (.object (request injectingUri))) injectingUri.val command ∧
      ∀ env, simpleCommand env command ≠ some (arguments Sample.bare injectingUri.val) := by
  refine ⟨installCommand Sample.bare injectingUri.val, forksInState Sample.bare rfl, fun env h => ?_⟩
  have ht : tokens (installCommand Sample.bare injectingUri.val) = some injectedTokens := rfl
  have htrim : trim injectedTokens = injectedTokens := rfl
  simp only [simpleCommand, ht, Option.bind_eq_bind, Option.bind_some, htrim] at h
  simp [injectedTokens, Token.fields] at h

end samples

end RouterCard.Captived.InstallCommand
