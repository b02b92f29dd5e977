import RouterCard.Xbridge.Callback
import RouterCard.Xbridge.Recognition

/-! Where the bridge leaves its buffers in secure mode: behind the end of a host frame that
is shorter than an Ethernet header, and behind the end of the static buffer for a packet
from the network that does not fit behind the header. -/

namespace RouterCard.Xbridge

open Text OnesComplement

variable {cfg : Settings} {c : Capture} {s : Bridge} {es : List Event}

section frames

def HandledInBounds (cfg : Settings) (c : Capture) (s : Bridge) : Prop :=
  ∃ s' sent, callback cfg .net c s = .ok (s', sent) ∧
    ∀ x ∈ sent, 0 ≤ x.injection.size ∧ x.injection.size ≤ x.injection.data.length ∧ x.injection.size ≤ c.data.length

lemma forwarded_in_bounds (hc : cfg.secure = true) (h : c.complete = true) (hb : 14 ≤ c.data.length)
    (hi : isNeighborSolicitation (c.data.drop 14) (c.data.drop 14).length = .ok false) (s : Bridge) :
    HandledInBounds cfg c s := by
  refine ⟨_, _, callback_forwarded hc h hb hi s, ?_⟩
  cases isIPv6Frame c.data with
  | false => simp
  | true =>
    have hlen := List.length_drop (l := c.data) (i := 14)
    simp only [if_true, List.mem_singleton, forall_eq, Sent.injection]
    omega

-- An advertisement has 86 bytes, however long the solicitation is.
lemma intercepted_in_bounds_iff (hc : cfg.secure = true) (h : c.complete = true) (hb : 14 ≤ c.data.length)
    (hi : isNeighborSolicitation (c.data.drop 14) (c.data.drop 14).length = .ok true) (s : Bridge) :
    HandledInBounds cfg c s ↔ 86 ≤ c.data.length := by
  obtain ⟨u, i, src, hcall, -, hsize, hdata, -⟩ := callback_intercepted hc h hb hi s
  constructor
  · rintro ⟨s', sent, hcall', hsent⟩
    obtain ⟨rfl, rfl⟩ := Prod.mk.inj (Except.ok.inj (hcall.symm.trans hcall'))
    have hle := (hsent _ (.head _)).2.2
    rw [Sent.injection, hsize] at hle
    omega
  · intro h86
    refine ⟨u, _, hcall, ?_⟩
    simp only [List.mem_singleton, forall_eq, Sent.injection, hsize, hdata]
    exact ⟨by decide, by decide, by omega⟩

theorem host_frame_in_bounds_iff (hc : cfg.secure = true) (h : c.complete = true) (s : Bridge) :
    HandledInBounds cfg c s ↔ 14 ≤ c.data.length ∧ (Shaped (c.data.drop 14) → 86 ≤ c.data.length) := by
  rw [shaped_iff (payload_lt c)]
  by_cases hb : 14 ≤ c.data.length
  · obtain ⟨b, -, hi⟩ := intercepts_ok hc h hb
    cases b with
    | false => exact iff_of_true (forwarded_in_bounds hc h hb hi s) ⟨hb, fun ha => by cases hi.symm.trans ha⟩
    | true =>
      rw [intercepted_in_bounds_iff hc h hb hi s]
      exact ⟨fun h86 => ⟨hb, fun _ => h86⟩, fun h86 => h86.2 hi⟩
  · refine iff_of_false ?_ fun hboth => hb hboth.1
    rintro ⟨s', sent, hcall, -⟩
    rw [callback_short hc h (by omega)] at hcall
    cases hcall

end frames

section runs

lemma step_host_ne_write (hc : cfg.secure = true) (c : Capture) (s : Bridge) :
    step cfg (.captured .host c) s ≠ .error .write := by
  change callback cfg .net c s ≠ _
  cases h : c.complete with
  | false =>
    rw [callback_truncated h]
    exact fun h => by cases h
  | true =>
    by_cases hb : 14 ≤ c.data.length
    · obtain ⟨b, -, hi⟩ := intercepts_ok hc h hb
      cases b with
      | false =>
        rw [callback_forwarded hc h hb hi]
        exact fun h => by cases h
      | true =>
        obtain ⟨s', i, src, hcall, -⟩ := callback_intercepted hc h hb hi s
        rw [hcall]
        exact fun h => by cases h
    · rw [callback_short hc h (by omega)]
      exact fun h => by cases h

def Event.Oversized : Event → Prop
  | .captured .net c => c.complete = true ∧ 8178 < c.data.length
  | _ => False

lemma Event.Oversized.elim {e : Event} (h : e.Oversized) : ∃ c, e = .captured .net c ∧ 8178 < c.data.length := by
  match e with
  | .captured .net c => exact ⟨c, rfl, h.2⟩
  | .captured .host c => exact False.elim h
  | .advertise => exact False.elim h

lemma step_write_iff (hc : cfg.secure = true) (e : Event) (s : Bridge) : step cfg e s = .error .write ↔ e.Oversized := by
  cases e with
  | advertise =>
    obtain ⟨s', i, hadv, -⟩ := step_advertise hc s
    exact iff_of_false (by rw [hadv]; exact fun h => by cases h) id
  | captured iface c =>
    cases iface with
    | host => exact iff_of_false (step_host_ne_write hc c s) id
    | net =>
      change callback cfg .host c s = _ ↔ c.complete = true ∧ 8178 < c.data.length
      cases h : c.complete with
      | false => exact iff_of_false (by rw [callback_truncated h]; exact fun h => by cases h) (by simp)
      | true =>
        by_cases hb : c.data.length ≤ 8178
        · obtain ⟨s', i, hcall, -⟩ := callback_net hc h hb s
          exact iff_of_false (by rw [hcall]; exact fun h => by cases h) (by simp [hb])
        · exact iff_of_true (callback_overflow hc h (by omega) s) ⟨rfl, by omega⟩

lemma run_write_iff (hc : cfg.secure = true) (es : List Event) (s : Bridge) : run cfg es s = .error .write ↔
    ∃ pre e post, es = pre ++ e :: post ∧ (∃ x, run cfg pre s = .ok x) ∧ e.Oversized := by
  induction es generalizing s with
  | nil =>
    refine iff_of_false (fun h => by cases h) ?_
    rintro ⟨pre, e, post, h, -⟩
    simp at h
  | cons e es ih =>
    cases he : step cfg e s with
    | error f =>
      rw [run_cons_error he]
      constructor
      · rintro ⟨⟩
        exact ⟨[], e, es, rfl, ⟨_, rfl⟩, (step_write_iff hc e s).mp he⟩
      · rintro ⟨pre, d, post, h, ⟨x, hx⟩, hd⟩
        cases pre with
        | nil =>
          obtain ⟨rfl, rfl⟩ := List.cons.inj h
          rw [← he, (step_write_iff hc e s).mpr hd]
        | cons b pre =>
          obtain ⟨rfl, rfl⟩ := List.cons.inj h
          rw [run_cons_error he] at hx
          cases hx
    | ok x =>
      have hrun : run cfg (e :: es) s = .error .write ↔ run cfg es x.1 = .error .write := by
        rw [run_cons_ok he]
        cases run cfg es x.1 with
        | error f => exact Iff.rfl
        | ok y => exact iff_of_false (fun h => by cases h) fun h => by cases h
      rw [hrun, ih]
      constructor
      · rintro ⟨pre, d, post, rfl, ⟨y, hy⟩, hd⟩
        refine ⟨e :: pre, d, post, rfl, ⟨(y.1, x.2 ++ y.2), ?_⟩, hd⟩
        rw [run_cons_ok he, hy]
        rfl
      · rintro ⟨pre, d, post, h, ⟨⟨u, out⟩, hx⟩, hd⟩
        cases pre with
        | nil =>
          obtain ⟨rfl, rfl⟩ := List.cons.inj h
          rw [(step_write_iff hc e s).mpr hd] at he
          cases he
        | cons b pre =>
          obtain ⟨rfl, rfl⟩ := List.cons.inj h
          obtain ⟨v, first, rest, hv, hrest, -⟩ := run_cons_elim hx
          obtain rfl := Except.ok.inj (he.symm.trans hv)
          exact ⟨pre, d, post, rfl, ⟨_, hrest⟩, hd⟩

def Deliverable (cfg : Settings) (es : List Event) : Prop :=
  ∀ iface c, .captured iface c ∈ es → (c.data.length : ℤ) ≤ cfg.snaplen

def StaysInside (cfg : Settings) (es : List Event) : Prop := run cfg es .initial ≠ .error .write

lemma staysInside_iff (hc : cfg.secure = true) (es : List Event) : StaysInside cfg es ↔
    ∀ pre e post, es = pre ++ e :: post → (∃ x, run cfg pre .initial = .ok x) → ¬ e.Oversized := by
  rw [StaysInside, ne_eq, run_write_iff hc]
  constructor
  · exact fun h pre e post hes hpre he => h ⟨pre, e, post, hes, hpre, he⟩
  · rintro h ⟨pre, e, post, hes, hpre, he⟩
    exact h pre e post hes hpre he

def zeros (n : ℕ) (h : n < 2 ^ 31) : Capture := ⟨List.replicate n 0, n, by rwa [List.length_replicate]⟩

lemma overflows_zeros (hc : cfg.secure = true) : ¬ StaysInside cfg [.captured .net (zeros 8179 (by decide))] := by
  rw [staysInside_iff hc]
  intro h
  refine h [] _ [] rfl ⟨_, rfl⟩ ⟨?_, ?_⟩
  · rw [Capture.complete_iff, zeros, List.length_replicate]
  · rw [zeros, List.length_replicate]
    decide

theorem staysInside_all_iff (hc : cfg.secure = true) :
    ((∀ es, Deliverable cfg es → StaysInside cfg es) ↔ cfg.snaplen ≤ 8178) ∧
      ∀ es, StaysInside cfg es ↔
        ∀ pre e post, es = pre ++ e :: post → (∃ x, run cfg pre .initial = .ok x) → ¬ e.Oversized := by
  refine ⟨⟨fun h => ?_, fun h es hes => ?_⟩, staysInside_iff hc⟩
  · by_contra hlt
    refine overflows_zeros hc (h _ ?_)
    intro iface c hmem
    obtain ⟨-, rfl⟩ := Event.captured.inj (List.mem_singleton.mp hmem)
    rw [zeros, List.length_replicate]
    omega
  · rw [staysInside_iff hc]
    rintro pre e post rfl - he
    obtain ⟨c, rfl, hb⟩ := he.elim
    have hle := hes .net c (List.mem_append_right _ (List.mem_cons_self ..))
    omega

end runs

section samples

theorem staysInside_layer2 :
    ((∀ es, Deliverable layer2 es → StaysInside layer2 es) ↔ layer2.snaplen ≤ 8178) ∧
      ∀ es, StaysInside layer2 es ↔
        ∀ pre e post, es = pre ++ e :: post → (∃ x, run layer2 pre .initial = .ok x) → ¬ e.Oversized :=
  staysInside_all_iff rfl

theorem layer2_overflows : ¬ ∀ es, Deliverable layer2 es → StaysInside layer2 es := by
  intro h
  refine overflows_zeros rfl (h _ ?_)
  intro iface c hmem
  obtain ⟨-, rfl⟩ := Event.captured.inj (List.mem_singleton.mp hmem)
  rw [zeros, List.length_replicate]
  decide

def runt : Capture := ⟨[0xff, 0xff], 2, by decide⟩

theorem host_frame_in_bounds_runt : HandledInBounds layer2 runt .initial ↔
    14 ≤ runt.data.length ∧ (Shaped (runt.data.drop 14) → 86 ≤ runt.data.length) :=
  host_frame_in_bounds_iff rfl rfl .initial

theorem runt_out_of_bounds : ¬ HandledInBounds layer2 runt .initial := by
  rintro ⟨s', sent, hcall, -⟩
  rw [callback_short rfl rfl (by decide)] at hcall
  cases hcall

end samples

end RouterCard.Xbridge
