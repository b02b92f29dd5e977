import RouterCard.Captived.System
import RouterCard.Text.Stdio

namespace RouterCard.Captived.CommandOutput

open Text

abbrev bufferSize : ℕ := 128

-- `none` where the fuel does not reach to the end of the stream.
def fgetsLoop : ℕ → CharArray bufferSize → Bytes → Bytes → Option Bytes
  | 0, _, _, _ => none
  | fuel + 1, buffer, stream, result =>
    match fgets buffer stream with
    | none => some result
    | some (buffer, stream) => fgetsLoop fuel buffer stream (result ++ cString buffer.val)

def clear (_ : Bytes) : Bytes := []

-- The array is not initialised, and `result` is what the caller left in it.
def execute (fuel : ℕ) (buffer : CharArray bufferSize) (pipe : PopenReply) (result : Bytes) : Option (ℤ × Bytes) := do
  let result := clear result
  if !pipe.opened then
    return (pipe.errno, result)
  let result ← fgetsLoop fuel buffer pipe.output result
  if pipe.returnCode = -1 then
    return (pipe.errno, result)
  return (pipe.returnCode, result)

variable {fuel : ℕ} {buffer : CharArray bufferSize} {stream result : Bytes} {pipe : PopenReply}

lemma fgetsLoop_eq (hz : (0 : UInt8) ∉ stream) (hfuel : stream.length < fuel) :
    fgetsLoop fuel buffer stream result = some (result ++ stream) := by
  induction fuel generalizing buffer stream result with
  | zero => exact absurd hfuel (Nat.not_lt_zero _)
  | succ fuel ih =>
    by_cases hs : stream = []
    · subst hs
      rw [fgetsLoop, fgets_nil (n := 127), List.append_nil]
    · obtain ⟨filled, hfgets, rest, hfilled⟩ := fgets_ne_nil (n := 127) buffer hs
      have hsplit := lineChunk_append_drop 127 stream
      have hchunk : (0 : UInt8) ∉ lineChunk 127 stream := fun h => hz (hsplit ▸ List.mem_append_left _ h)
      have hrest : (0 : UInt8) ∉ stream.drop (lineChunk 127 stream).length := fun h => hz (List.mem_of_mem_drop h)
      have hlen : (stream.drop (lineChunk 127 stream).length).length < stream.length := length_drop_lineChunk hs
      rw [fgetsLoop, hfgets]
      change fgetsLoop fuel filled _ (result ++ cString filled.val) = _
      rw [ih hrest (by omega), hfilled, cString_append_nul hchunk, List.append_assoc, hsplit]

theorem output_captured (hz : (0 : UInt8) ∉ pipe.output) (hfuel : pipe.output.length < fuel)
    (buffer : CharArray bufferSize) (result : Bytes) :
    fgetsLoop fuel buffer pipe.output (clear result) = some pipe.output ∧
      execute fuel buffer pipe result = some pipe.result := by
  have hloop : fgetsLoop fuel buffer pipe.output (clear result) = some pipe.output := fgetsLoop_eq hz hfuel
  refine ⟨hloop, ?_⟩
  rw [execute, hloop, PopenReply.result]
  split_ifs
  · rfl
  · rfl
  · rfl

theorem output_captured_unterminated :
    fgetsLoop 5 ⟨List.replicate bufferSize 65, List.length_replicate⟩ (bytes "a\nb") (clear (bytes "old")) = some (bytes "a\nb") ∧
      execute 5 ⟨List.replicate bufferSize 65, List.length_replicate⟩ ⟨true, bytes "a\nb", 0, 0⟩ (bytes "old") =
        some (PopenReply.result ⟨true, bytes "a\nb", 0, 0⟩) :=
  output_captured (by decide : (0 : UInt8) ∉ (⟨true, bytes "a\nb", 0, 0⟩ : PopenReply).output) (by decide) _ _

end RouterCard.Captived.CommandOutput
