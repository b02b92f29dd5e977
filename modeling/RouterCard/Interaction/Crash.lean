import RouterCard.Interaction.Server

namespace RouterCard.Interaction.Server

variable {S : Signature} {H : Host S} {V : Server S H}

def Config.killed (c : V.Config) : V.Config := { c with thread := none }

-- `none` is the kill.
def Config.crashStep (c : V.Config) : Option V.Label → Option V.Config
  | none => some c.killed
  | some l => c.step l

def Config.crashRun : V.Config → List (Option V.Label) → Option V.Config
  | c, [] => some c
  | c, l :: ls => (c.crashStep l).bind fun d => d.crashRun ls

def started (ls : List (Option V.Label)) : List V.Request :=
  ls.filterMap fun
    | some (.start r) => some r
    | _ => none

lemma Config.crashRun_invariant {I : List (Option V.Label) → V.Config → Prop} {c d : V.Config}
    {ls : List (Option V.Label)} (hc : I [] c)
    (hs : ∀ ks l c d, I ks c → c.crashStep l = some d → I (ks ++ [l]) d) (h : c.crashRun ls = some d) : I ls d := by
  suffices hall : ∀ ks, I ks c → I (ks ++ ls) d from hall [] hc
  clear hc
  induction ls generalizing c with
  | nil =>
    intro ks hk
    rw [List.append_nil, ← Option.some.inj h]
    exact hk
  | cons l ls ih =>
    intro ks hk
    obtain ⟨e, he, hd⟩ := Option.bind_eq_some_iff.mp h
    have hnext := ih hd (ks ++ [l]) (hs ks l c e hk he)
    rwa [List.append_assoc] at hnext

lemma Config.crashRun_simulates {R : V.Config → V.Config → Prop}
    (hs : ∀ l c c' d, R c c' → c.crashStep l = some d → ∃ d', c'.crashStep l = some d' ∧ R d d') {c c' d : V.Config}
    {ls : List (Option V.Label)} (hc : R c c') (h : c.crashRun ls = some d) : ∃ d', c'.crashRun ls = some d' ∧ R d d' := by
  induction ls generalizing c c' with
  | nil =>
    obtain rfl := Option.some.inj h
    exact ⟨c', rfl, hc⟩
  | cons l ls ih =>
    obtain ⟨e, he, hd⟩ := Option.bind_eq_some_iff.mp h
    obtain ⟨e', he', hR⟩ := hs l c c' e hc he
    obtain ⟨d', hd', hRd⟩ := ih hR hd
    refine ⟨d', ?_, hRd⟩
    rw [crashRun, he']
    exact hd'

end RouterCard.Interaction.Server
