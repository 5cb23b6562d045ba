/-! Texts as their bytes, and how a C string is read from a buffer. -/
namespace NodeNet

abbrev Text := List UInt8

def ascii (s : String) : Text := s.toList.map (·.toNat.toUInt8)

/-- The bytes of a buffer up to the terminating zero. -/
def cString (memory : List UInt8) : Text := memory.takeWhile (· != 0)

theorem cString_append_zero {text : Text} (h : ∀ c ∈ text, c ≠ 0) :
    cString (text ++ [0]) = text := by
  unfold cString
  rw [List.takeWhile_append_of_pos]
  · simp
  · intro c hc
    simpa using h c hc

end NodeNet
