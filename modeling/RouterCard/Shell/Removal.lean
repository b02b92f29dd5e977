import RouterCard.Shell.SimpleCommand

namespace RouterCard.Shell

open Text

def isOption (a : Bytes) : Bool := a.head? = some 45 && a ≠ bytes "-"

-- The operands of rm; `none` with an option that changes what it removes, that not every rm has, or
-- that stands after an operand.
def rmOperands : List Bytes → Option (List Bytes)
  | [] => some []
  | a :: args =>
    if a = bytes "--" then some args
    else if isOption a then
      if a.tail.all (bytes "dfRrv").contains then rmOperands args else none
    else if args.any isOption then none
    else some (a :: args)

/-- What the shell gives to `rm -rf`, if that is how it reads the line. -/
def removal (env : Environment) (line : Bytes) : Option (List Bytes) :=
  match simpleCommand env line with
  | some (command :: option :: args) => if command = bytes "rm" ∧ option = bytes "-rf" then some args else none
  | _ => none

-- A quotation without an end makes the shell give up the line, but not lines before it.
def unterminated (line : Bytes) : Bool := (tokens line).isNone && !line.contains 10

def withoutSlashes (path : Bytes) : Bytes := path.rdropWhile (· == 47)

def lastComponent (path : Bytes) : Bytes := (path.reverse.takeWhile (· != 47)).reverse

def isRefused (path : Bytes) : Bool :=
  withoutSlashes path = [] || [bytes ".", bytes ".."].contains (lastComponent (withoutSlashes path))

-- With -f an empty operand is no error.
def accepts (operands : List Bytes) : Bool := operands.all fun path => path = [] || !isRefused path

def Within (top path : Bytes) : Prop := path = top ∨ top ++ [47] <+: path

instance (top path : Bytes) : Decidable (Within top path) := inferInstanceAs (Decidable (_ ∨ _))

def covers (operands : List Bytes) (path : Bytes) : Bool :=
  operands.any fun top => !isRefused top && decide (Within (withoutSlashes top) path)

variable {N : Type}

/-- The files once the operands and all below them are gone, but for those that `kept` names. -/
def remove (operands : List Bytes) (kept : Bytes → Bool) (files : Bytes → Option N) : Bytes → Option N :=
  fun path => if covers operands path && !kept path then none else files path

variable {operands : List Bytes} {path : Bytes} {kept : Bytes → Bool} {files : Bytes → Option N}

lemma remove_of_not_covers (h : covers operands path = false) : remove operands kept files path = files path := by
  rw [remove, h]
  rfl

lemma remove_of_covers (h : covers operands path = true) : remove operands (fun _ => false) files path = none := by
  rw [remove, h]
  rfl

lemma remove_of_absent (h : files path = none) : remove operands kept files path = none := by
  rw [remove, h, ite_self]

lemma removal_unterminated {line : Bytes} (h : unterminated line = true) (env : Environment) : removal env line = none := by
  have htokens : tokens line = none := by
    simp only [unterminated, Bool.and_eq_true, Option.isNone_iff_eq_none] at h
    exact h.1
  have hcommand : simpleCommand env line = none := by
    rw [simpleCommand, htokens]
    rfl
  rw [removal, hcommand]

lemma joinBlank_rm (path : Bytes) : bytes "rm -rf " ++ path = joinBlank (bytes "rm") [bytes "-rf", path] := rfl

lemma removal_literal (h : Literal path) (env : Environment) : removal env (bytes "rm -rf " ++ path) = some [path] := by
  have hwords : ∀ b ∈ [bytes "rm", bytes "-rf", path], Literal b := by
    intro b hb
    simp only [List.mem_cons, List.not_mem_nil, or_false] at hb
    rcases hb with rfl | rfl | rfl
    · decide
    · decide
    · exact h
  have hcommand := (simpleCommand_joinBlank_iff (bytes "rm") [bytes "-rf", path]).mpr ⟨hwords, by decide⟩ env
  rw [removal, joinBlank_rm, hcommand]
  rfl

lemma rmOperands_single (h : path.head? ≠ some 45) : rmOperands [path] = some [path] := by
  have hdashes : path ≠ bytes "--" := fun hp => h (hp ▸ rfl)
  have hoption : isOption path = false := by simp [isOption, h]
  simp [rmOperands, hdashes, hoption]

lemma within_of_covers (hslash : withoutSlashes path = path) {q : Bytes} (h : covers [path] q = true) : Within path q := by
  obtain ⟨o, ho, hcov⟩ := List.any_eq_true.mp h
  obtain rfl := List.mem_singleton.mp ho
  simp only [Bool.and_eq_true, decide_eq_true_eq, hslash] at hcov
  exact hcov.2

end RouterCard.Shell
