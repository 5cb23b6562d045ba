import NodeNet.Upload.Service

/-! The Base64 codec of the firmware, with the buffers it writes: what it accepts and that it
reads back what it wrote. -/
namespace NodeNet.Upload
open NodeNet.Points

def kBase64Alphabet : Text :=
  ascii "ABCDEFGHIJKLMNOPQRSTUVWXYZabcdefghijklmnopqrstuvwxyz0123456789+/"

/-- The four characters of up to three bytes; a byte that is missing is zero. -/
def encodeGroup (a b c : UInt8) (hasB hasC : Bool) : Text :=
  let triple := (a.toNat <<< 16) ||| (b.toNat <<< 8) ||| c.toNat
  [kBase64Alphabet.getD ((triple >>> 18) &&& 0x3F) 0,
    kBase64Alphabet.getD ((triple >>> 12) &&& 0x3F) 0,
    if hasB then kBase64Alphabet.getD ((triple >>> 6) &&& 0x3F) 0 else padding,
    if hasC then kBase64Alphabet.getD (triple &&& 0x3F) 0 else padding]

/-- The loop over the data that is left. -/
def encodeGroups : List UInt8 → Text
  | [] => []
  | [a] => encodeGroup a 0 0 false false
  | [a, b] => encodeGroup a b 0 true false
  | a :: b :: c :: data => encodeGroup a b c true true ++ encodeGroups data

/-- What is written to `out`, the closing zero included; `none` when the call fails. -/
def encodeBase64Bytes (data : List UInt8) (outCapacity : UInt32) : Option (List UInt8) :=
  if outCapacity = 0 then none
  else if data = [] then some [0]
  else
    let encodedSize := ((UInt32.ofNat data.length + 2) / 3) * 4
    if outCapacity < encodedSize + 1 then none else some (encodeGroups data ++ [0])

/-- A call of the decoder: whether it succeeds, and the bytes it wrote from the start of `out`.
`write_index` is the number of these. -/
structure Decoding where
  ok : Bool
  written : List UInt8
deriving DecidableEq, Repr

/-- The loop over the text that is left. -/
def decodeLoop (outCapacity : Nat) : Text → List UInt8 → Decoding
  | c0 :: c1 :: c2 :: c3 :: text, written =>
    let a := base64Value c0
    let b := base64Value c1
    let c := base64Value c2
    let d := base64Value c3
    if a < 0 ∨ b < 0 ∨ c = -1 ∨ d = -1 then ⟨false, written⟩
    else
      let bits := quartet a b c d
      if outCapacity ≤ written.length then ⟨false, written⟩
      else
        let one := written ++ [quartetByte bits 16]
        if c = -2 then
          if d ≠ -2 ∨ text ≠ [] then ⟨false, one⟩ else ⟨true, one⟩
        else if outCapacity ≤ one.length then ⟨false, one⟩
        else
          let two := one ++ [quartetByte bits 8]
          if d = -2 then
            if text ≠ [] then ⟨false, two⟩ else ⟨true, two⟩
          else if outCapacity ≤ two.length then ⟨false, two⟩
          else decodeLoop outCapacity text (two ++ [quartetByte bits 0])
  | _, written => ⟨written ≠ [], written⟩

/-- `decode_base64_bytes`; on success `out_size` is the number of bytes written. -/
def decodeBase64 (text : Text) (outCapacity : Nat) : Decoding :=
  if text.length = 0 ∨ text.length % 4 ≠ 0 then ⟨false, []⟩ else decodeLoop outCapacity text []

theorem decodeLoop_written (outCapacity : Nat) (text : Text) (written : List UInt8)
    (h : written.length ≤ outCapacity) :
    (decodeLoop outCapacity text written).written.length ≤ outCapacity := by
  fun_induction decodeLoop outCapacity text written with
  | case9 c0 c1 c2 c3 text written a b c d hvalid bits hroom one hc hroom' two hd hroom'' ih =>
    apply ih
    simp only [List.length_append, List.length_cons, List.length_nil]
    omega
  | _ =>
    simp +zetaDelta only [List.length_append, List.length_cons, List.length_nil] at *
    omega

/-! Which texts are accepted. -/

theorem byte_all {t : UInt8 → Bool}
    (h : ((List.range 256).all fun n => t (UInt8.ofNat n)) = true) (c : UInt8) :
    t c = true := by
  have hc := List.all_eq_true.mp h c.toNat (List.mem_range.mpr c.toNat_lt)
  rwa [UInt8.ofNat_toNat] at hc

theorem kBase64Alphabet_eq : kBase64Alphabet = (List.range 64).map base64Char := by
  decide +kernel

theorem base64Char_value {c : UInt8} (h : 0 ≤ base64Value c) :
    (base64Value c).toNat < 64 ∧ base64Char (base64Value c).toNat = c := by
  have hc := byte_all (t := fun c => decide (0 ≤ base64Value c →
    (base64Value c).toNat < 64 ∧ base64Char (base64Value c).toNat = c)) (by decide +kernel) c
  exact of_decide_eq_true hc h

theorem mem_alphabet (c : UInt8) : c ∈ kBase64Alphabet ↔ 0 ≤ base64Value c := by
  rw [kBase64Alphabet_eq, List.mem_map]
  constructor
  · intro h
    obtain ⟨n, hn, hc⟩ := h
    rw [← hc, base64Value_char (List.mem_range.mp hn)]
    omega
  · intro h
    obtain ⟨hlt, hchar⟩ := base64Char_value h
    exact ⟨_, List.mem_range.mpr hlt, hchar⟩

theorem base64Value_eq (c : UInt8) : base64Value c =
    if 0x41 ≤ c.toNat ∧ c.toNat ≤ 0x5A then (c.toNat - 0x41 : Int)
    else if 0x61 ≤ c.toNat ∧ c.toNat ≤ 0x7A then 26 + (c.toNat - 0x61 : Int)
    else if 0x30 ≤ c.toNat ∧ c.toNat ≤ 0x39 then 52 + (c.toNat - 0x30 : Int)
    else if c.toNat = 0x2B then 62
    else if c.toNat = 0x2F then 63
    else if c.toNat = 0x3D then -2
    else -1 := by
  simp only [base64Value, UInt8.le_iff_toNat_le, ← UInt8.toNat_inj]
  rfl

theorem eq_padding (c : UInt8) : c = padding ↔ base64Value c = -2 := by
  rw [base64Value_eq, ← UInt8.toNat_inj, show padding.toNat = 0x3D from rfl]
  repeat' split
  all_goals omega

theorem base64Value_cases (c : UInt8) :
    0 ≤ base64Value c ∨ base64Value c = -2 ∨ base64Value c = -1 := by
  rw [base64Value_eq]
  repeat' split
  all_goals omega

def Padded (text : Text) (pads : Nat) : Prop :=
  ∃ body, text = body ++ List.replicate pads padding ∧ ∀ c ∈ body, c ∈ kBase64Alphabet

variable {text : Text}

theorem padded_cons {c : UInt8} {pads : Nat} (h : pads ≤ text.length) :
    Padded (c :: text) pads ↔ 0 ≤ base64Value c ∧ Padded text pads := by
  rw [← mem_alphabet]
  constructor
  · intro hpadded
    obtain ⟨body, htext, hbody⟩ := hpadded
    cases body with
    | nil =>
      have hlength := congrArg List.length htext
      simp only [List.nil_append, List.length_cons, List.length_replicate] at hlength
      omega
    | cons first body =>
      rw [List.cons_append, List.cons.injEq] at htext
      refine ⟨?_, body, htext.2, fun x hx => hbody x (List.mem_cons_of_mem _ hx)⟩
      rw [htext.1]
      exact hbody first List.mem_cons_self
  · intro h
    obtain ⟨hc, body, htext, hbody⟩ := h
    refine ⟨c :: body, by rw [htext, List.cons_append], ?_⟩
    intro x hx
    cases List.mem_cons.mp hx with
    | inl heq => rw [heq]; exact hc
    | inr hmem => exact hbody x hmem

theorem padded_zero_nil : Padded [] 0 := ⟨[], rfl, by simp⟩

theorem padded_all (pads : Nat) (h : pads = text.length) :
    Padded text pads ↔ ∀ c ∈ text, base64Value c = -2 := by
  constructor
  · intro hpadded c hc
    obtain ⟨body, htext, -⟩ := hpadded
    have hbody : body = [] := by
      have hlength := congrArg List.length htext
      rw [List.length_append, List.length_replicate] at hlength
      apply List.eq_nil_of_length_eq_zero
      omega
    rw [hbody, List.nil_append] at htext
    rw [htext] at hc
    rw [← eq_padding]
    exact (List.mem_replicate.mp hc).2
  · intro hall
    refine ⟨[], ?_, by simp⟩
    rw [List.nil_append, h]
    apply List.eq_replicate_of_mem
    intro c hc
    rw [eq_padding]
    exact hall c hc

/-- At most two characters of padding, and the decoded bytes fit the room. -/
def Accepts (text : Text) (room : Nat) : Prop :=
  ∃ pads, pads ≤ 2 ∧ Padded text pads ∧ text.length / 4 * 3 - pads ≤ room

theorem accepts_nil (room : Nat) : Accepts [] room :=
  ⟨0, by omega, padded_zero_nil, by simp⟩

/-- The last group has one of three tails. -/
theorem accepts_last (c0 c1 c2 c3 : UInt8) (room : Nat) :
    Accepts [c0, c1, c2, c3] room ↔ 0 ≤ base64Value c0 ∧ 0 ≤ base64Value c1 ∧
      ((base64Value c2 = -2 ∧ base64Value c3 = -2 ∧ 1 ≤ room) ∨
        (0 ≤ base64Value c2 ∧ base64Value c3 = -2 ∧ 2 ≤ room) ∨
        (0 ≤ base64Value c2 ∧ 0 ≤ base64Value c3 ∧ 3 ≤ room)) := by
  have htwo : Padded [c2, c3] 2 ↔ base64Value c2 = -2 ∧ base64Value c3 = -2 := by
    rw [padded_all 2 rfl]
    simp
  have hone : Padded [c2, c3] 1 ↔ 0 ≤ base64Value c2 ∧ base64Value c3 = -2 := by
    rw [padded_cons (by simp), padded_all 1 rfl]
    simp
  have hzero : Padded [c2, c3] 0 ↔ 0 ≤ base64Value c2 ∧ 0 ≤ base64Value c3 := by
    rw [padded_cons (by simp), padded_cons (by simp)]
    simp [padded_zero_nil]
  have hfirst {pads : Nat} (h : pads ≤ 2) : Padded [c0, c1, c2, c3] pads ↔
      0 ≤ base64Value c0 ∧ 0 ≤ base64Value c1 ∧ Padded [c2, c3] pads := by
    rw [padded_cons (by simp; omega), padded_cons (by simpa using h)]
  constructor
  · intro h
    obtain ⟨pads, hpads, hpadded, hroom⟩ := h
    rw [hfirst hpads] at hpadded
    obtain ⟨h0, h1, hpadded⟩ := hpadded
    simp only [List.length_cons, List.length_nil] at hroom
    have hcases : pads = 0 ∨ pads = 1 ∨ pads = 2 := by omega
    rcases hcases with heq | heq | heq
    · rw [heq, hzero] at hpadded
      omega
    · rw [heq, hone] at hpadded
      omega
    · rw [heq, htwo] at hpadded
      omega
  · intro h
    obtain ⟨h0, h1, htail⟩ := h
    rcases htail with ⟨h2, h3, hroom⟩ | ⟨h2, h3, hroom⟩ | ⟨h2, h3, hroom⟩
    · exact ⟨2, by omega, (hfirst (by omega)).mpr ⟨h0, h1, htwo.mpr ⟨h2, h3⟩⟩,
        by simpa using hroom⟩
    · exact ⟨1, by omega, (hfirst (by omega)).mpr ⟨h0, h1, hone.mpr ⟨h2, h3⟩⟩,
        by simpa using hroom⟩
    · exact ⟨0, by omega, (hfirst (by omega)).mpr ⟨h0, h1, hzero.mpr ⟨h2, h3⟩⟩,
        by simpa using hroom⟩

theorem accepts_more (c0 c1 c2 c3 : UInt8) {room : Nat} (htext : 4 ≤ text.length) :
    Accepts (c0 :: c1 :: c2 :: c3 :: text) room ↔ 0 ≤ base64Value c0 ∧ 0 ≤ base64Value c1 ∧
      0 ≤ base64Value c2 ∧ 0 ≤ base64Value c3 ∧ 3 ≤ room ∧ Accepts text (room - 3) := by
  have hpadded {pads : Nat} (h : pads ≤ 2) : Padded (c0 :: c1 :: c2 :: c3 :: text) pads ↔
      0 ≤ base64Value c0 ∧ 0 ≤ base64Value c1 ∧ 0 ≤ base64Value c2 ∧ 0 ≤ base64Value c3 ∧
        Padded text pads := by
    rw [padded_cons (by simp only [List.length_cons]; omega),
      padded_cons (by simp only [List.length_cons]; omega),
      padded_cons (by simp only [List.length_cons]; omega), padded_cons (by omega)]
  constructor
  · intro h
    obtain ⟨pads, hpads, htail, hroom⟩ := h
    obtain ⟨h0, h1, h2, h3, htail⟩ := (hpadded hpads).mp htail
    simp only [List.length_cons] at hroom
    exact ⟨h0, h1, h2, h3, by omega, pads, hpads, htail, by omega⟩
  · intro h
    obtain ⟨h0, h1, h2, h3, hthree, pads, hpads, htail, hroom⟩ := h
    refine ⟨pads, hpads, (hpadded hpads).mpr ⟨h0, h1, h2, h3, htail⟩, ?_⟩
    simp only [List.length_cons]
    omega

theorem accepts_group {c0 c1 c2 c3 : UInt8} {room : Nat} (htext : text.length % 4 = 0) :
    Accepts (c0 :: c1 :: c2 :: c3 :: text) room ↔ 0 ≤ base64Value c0 ∧ 0 ≤ base64Value c1 ∧
      ((base64Value c2 = -2 ∧ base64Value c3 = -2 ∧ text = [] ∧ 1 ≤ room) ∨
        (0 ≤ base64Value c2 ∧ base64Value c3 = -2 ∧ text = [] ∧ 2 ≤ room) ∨
        (0 ≤ base64Value c2 ∧ 0 ≤ base64Value c3 ∧ 3 ≤ room ∧ Accepts text (room - 3))) := by
  cases text with
  | nil =>
    rw [accepts_last]
    simp [accepts_nil]
  | cons c text =>
    rw [accepts_more _ _ _ _ (by simp only [List.length_cons] at *; omega)]
    simp

theorem decodeLoop_ok {outCapacity : Nat} {written : List UInt8} (htext : text.length % 4 = 0)
    (hsome : text ≠ [] ∨ written ≠ []) (hroom : written.length ≤ outCapacity) :
    (decodeLoop outCapacity text written).ok = true ↔
      Accepts text (outCapacity - written.length) := by
  fun_induction decodeLoop outCapacity text written with
  | case9 c0 c1 c2 c3 text written a b c d hvalid bits hroom one hc hroom' two hd hroom'' ih =>
    have hrest : text.length % 4 = 0 := by
      simp only [List.length_cons] at htext
      omega
    have hlength : (two ++ [quartetByte bits 0]).length = written.length + 3 := by
      simp [two, one]
    simp +zetaDelta only [List.length_append, List.length_cons, List.length_nil] at *
    rw [ih hrest (by simp) (by omega), accepts_group hrest]
    have h2 := base64Value_cases c2
    have h3 := base64Value_cases c3
    have hsub : outCapacity - (written.length + 3) = outCapacity - written.length - 3 := by omega
    grind
  | case10 text written hshort =>
    have hnil : text = [] := by
      cases text with
      | nil => rfl
      | cons c0 text =>
        exfalso
        rcases text with _ | ⟨c1, _ | ⟨c2, _ | ⟨c3, text⟩⟩⟩
        · simp at htext
        · simp at htext
        · simp at htext
        · exact hshort _ _ _ _ _ rfl
    have hwritten : written ≠ [] := hsome.resolve_left fun h => h hnil
    simp [hnil, hwritten, accepts_nil]
  | _ c0 c1 c2 c3 text written =>
    have hrest : text.length % 4 = 0 := by
      simp only [List.length_cons] at htext
      omega
    have h2 := base64Value_cases c2
    have h3 := base64Value_cases c3
    simp +zetaDelta only [List.length_append, List.length_cons, List.length_nil] at *
    rw [accepts_group hrest]
    grind

/-- The decoder accepts exactly the padded texts of whole groups whose bytes fit, and never
writes at or beyond the capacity. -/
theorem decodeBase64_ok (text : Text) (outCapacity : Nat) :
    ((decodeBase64 text outCapacity).ok = true ↔
      0 < text.length ∧ text.length % 4 = 0 ∧ Accepts text outCapacity) ∧
    (decodeBase64 text outCapacity).written.length ≤ outCapacity := by
  unfold decodeBase64
  by_cases hshape : text.length = 0 ∨ text.length % 4 ≠ 0
  · rw [if_pos hshape]
    constructor
    · constructor
      · intro h
        cases h
      · intro h
        omega
    · exact Nat.zero_le _
  · rw [if_neg hshape]
    constructor
    · have htext : text ≠ [] := fun h => hshape (.inl (by rw [h]; rfl))
      rw [decodeLoop_ok (by omega) (.inl htext) (Nat.zero_le _)]
      constructor
      · intro h
        exact ⟨by omega, by omega, h⟩
      · intro h
        exact h.2.2
    · exact decodeLoop_written _ _ _ (Nat.zero_le _)

/-! The bytes that are read back. -/

theorem decodeLoop_quartets (outCapacity : Nat) (text : Text) (written : List UInt8)
    (hroom : written.length ≤ outCapacity) : ∀ bytes,
    decodeQuartets text (outCapacity - written.length) = some bytes →
    bytes ≠ [] ∨ written ≠ [] →
    decodeLoop outCapacity text written = ⟨true, written ++ bytes⟩ := by
  fun_induction decodeLoop outCapacity text written with
  | case9 c0 c1 c2 c3 text written a b c d hvalid bits hroom one hc hroom' two hd hroom'' ih =>
    intro bytes h hsome
    have hlength : outCapacity - (two ++ [quartetByte bits 0]).length =
        outCapacity - written.length - 3 := by
      simp [two, one]
      omega
    rw [hlength] at ih
    rw [decodeQuartets] at h
    simp +zetaDelta only [List.length_append, List.length_cons, List.length_nil] at *
    rw [if_neg hvalid, if_neg (by omega), if_neg hc, if_neg (by omega), if_neg hd,
      if_neg (by omega), Option.map_eq_some_iff] at h
    obtain ⟨rest, hrest, hbytes⟩ := h
    rw [ih (by omega) rest hrest (by simp), ← hbytes]
    simp
  | case10 text written hshort =>
    intro bytes h hsome
    have hbytes : bytes = [] := by
      rw [decodeQuartets] at h
      · exact (Option.some.inj h).symm
      · exact hshort
    rw [hbytes] at hsome
    have hwritten : written ≠ [] := hsome.resolve_left fun h => h rfl
    simp [hbytes, hwritten]
  | _ c0 c1 c2 c3 text written =>
    intro bytes h hsome
    simp +zetaDelta only [List.length_append, List.length_cons, List.length_nil] at *
    rw [decodeQuartets] at h
    grind

theorem alphabet_eq {n : Nat} (h : n < 64) : kBase64Alphabet.getD n 0 = base64Char n := by
  simp [kBase64Alphabet_eq, h]

theorem encodeGroup_eq (a b c : UInt8) (hasB hasC : Bool) :
    encodeGroup a b c hasB hasC = [base64Char (a.toNat / 4),
      base64Char (a.toNat % 4 * 16 + b.toNat / 16),
      if hasB then base64Char (b.toNat % 16 * 4 + c.toNat / 64) else padding,
      if hasC then base64Char (c.toNat % 64) else padding] := by
  have ha := a.toNat_lt
  have hb := b.toNat_lt
  have hc := c.toNat_lt
  have htriple : a.toNat <<< 16 ||| b.toNat <<< 8 ||| c.toNat =
      (a.toNat * 256 + b.toNat) * 256 + c.toNat := by
    have h1 : a.toNat <<< 16 ||| b.toNat <<< 8 = (a.toNat * 256 + b.toNat) <<< 8 := by
      rw [← Nat.shiftLeft_add_eq_or_of_lt (by rw [Nat.shiftLeft_eq]; omega)]
      simp only [Nat.shiftLeft_eq]
      omega
    rw [h1, ← Nat.shiftLeft_add_eq_or_of_lt (by omega), Nat.shiftLeft_eq]
  have hsextet (shift : Nat) (n : Nat) : (n >>> shift) &&& 0x3F = n / 2 ^ shift % 64 := by
    have h64 : (0x3F : Nat) = 2 ^ 6 - 1 := rfl
    rw [h64, Nat.and_two_pow_sub_one_eq_mod, Nat.shiftRight_eq_div_pow]
  have hlast := hsextet 0
  simp only [Nat.shiftRight_zero] at hlast
  unfold encodeGroup
  simp only [htriple, hsextet, hlast]
  rw [alphabet_eq (by omega), alphabet_eq (by omega), alphabet_eq (by omega),
    alphabet_eq (by omega)]
  have e1 : ((a.toNat * 256 + b.toNat) * 256 + c.toNat) / 2 ^ 18 % 64 = a.toNat / 4 := by omega
  have e2 : ((a.toNat * 256 + b.toNat) * 256 + c.toNat) / 2 ^ 12 % 64 =
      a.toNat % 4 * 16 + b.toNat / 16 := by omega
  have e3 : ((a.toNat * 256 + b.toNat) * 256 + c.toNat) / 2 ^ 6 % 64 =
      b.toNat % 16 * 4 + c.toNat / 64 := by omega
  have e4 : ((a.toNat * 256 + b.toNat) * 256 + c.toNat) / 2 ^ 0 % 64 = c.toNat % 64 := by omega
  rw [e1, e2, e3, e4]

theorem encodeGroups_eq (data : List UInt8) : encodeGroups data = toBase64String data := by
  induction data using encodeGroups.induct with
  | case1 => rfl
  | case2 a => simp [encodeGroups, encodeGroup_eq, toBase64String]
  | case3 a b => simp [encodeGroups, encodeGroup_eq, toBase64String]
  | case4 a b c data ih => simp [encodeGroups, encodeGroup_eq, toBase64String, ih]

theorem toBase64String_length (bytes : List UInt8) :
    (toBase64String bytes).length = (bytes.length + 2) / 3 * 4 := by
  induction bytes using toBase64String.induct with
  | case1 => rfl
  | case2 x => simp [toBase64String]
  | case3 x y => simp [toBase64String]
  | case4 x y z rest ih =>
    simp only [toBase64String, List.length_cons]
    omega

theorem base64Char_ne_zero {n : Nat} (h : n < 64) : base64Char n ≠ 0 := by
  intro heq
  have hvalue := base64Value_char h
  rw [heq] at hvalue
  have hzero : base64Value 0 = -1 := rfl
  omega

theorem toBase64String_ne_zero (bytes : List UInt8) : ∀ c ∈ toBase64String bytes, c ≠ 0 := by
  induction bytes using toBase64String.induct with
  | case1 => simp [toBase64String]
  | case2 x =>
    have hx := x.toNat_lt
    have hpad : padding ≠ 0 := by decide
    have h0 := base64Char_ne_zero (n := x.toNat / 4) (by omega)
    have h1 := base64Char_ne_zero (n := x.toNat % 4 * 16) (by omega)
    simp [toBase64String, hpad, h0, h1]
  | case3 x y =>
    have hx := x.toNat_lt
    have hy := y.toNat_lt
    have hpad : padding ≠ 0 := by decide
    have h0 := base64Char_ne_zero (n := x.toNat / 4) (by omega)
    have h1 := base64Char_ne_zero (n := x.toNat % 4 * 16 + y.toNat / 16) (by omega)
    have h2 := base64Char_ne_zero (n := y.toNat % 16 * 4) (by omega)
    simp [toBase64String, hpad, h0, h1, h2]
  | case4 x y z rest ih =>
    have hx := x.toNat_lt
    have hy := y.toNat_lt
    have hz := z.toNat_lt
    have h0 := base64Char_ne_zero (n := x.toNat / 4) (by omega)
    have h1 := base64Char_ne_zero (n := x.toNat % 4 * 16 + y.toNat / 16) (by omega)
    have h2 := base64Char_ne_zero (n := y.toNat % 16 * 4 + z.toNat / 64) (by omega)
    have h3 := base64Char_ne_zero (n := z.toNat % 64) (by omega)
    simp [toBase64String, h0, h1, h2, h3]
    exact ih

theorem encodeBase64Bytes_fits {data : List UInt8} {outCapacity : UInt32} (hne : data ≠ [])
    (hfits : (data.length + 2) / 3 * 4 + 1 ≤ outCapacity.toNat) :
    encodeBase64Bytes data outCapacity = some (encodeGroups data ++ [0]) := by
  have hlt := outCapacity.toNat_lt
  have hcapacity : outCapacity ≠ 0 := by
    intro h
    rw [h] at hfits
    simp at hfits
  have hsize : ((UInt32.ofNat data.length + 2) / 3 * 4 + 1).toNat =
      (data.length + 2) / 3 * 4 + 1 := by
    rw [UInt32.toNat_add, UInt32.toNat_mul, UInt32.toNat_div, UInt32.toNat_add,
      UInt32.toNat_ofNat']
    change (((data.length % 2 ^ 32 + 2) % 2 ^ 32 / 3 * 4) % 2 ^ 32 + 1) % 2 ^ 32 = _
    rw [Nat.mod_eq_of_lt (a := data.length) (by omega), Nat.mod_eq_of_lt (by omega),
      Nat.mod_eq_of_lt (by omega), Nat.mod_eq_of_lt (by omega)]
  rw [encodeBase64Bytes, if_neg hcapacity, if_neg hne]
  change (if outCapacity < (UInt32.ofNat data.length + 2) / 3 * 4 + 1 then none else _) = _
  rw [if_neg]
  rw [UInt32.lt_iff_toNat_lt, hsize]
  omega

theorem decodeBase64_encodeGroups {data : List UInt8} {outCapacity : Nat} (hne : data ≠ [])
    (hfits : data.length ≤ outCapacity) :
    decodeBase64 (encodeGroups data) outCapacity = ⟨true, data⟩ := by
  have hlength : (toBase64String data).length ≠ 0 := by simpa using toBase64String_ne_nil hne
  have hquartets := decodeQuartets_toBase64String data hfits
  rw [encodeGroups_eq, decodeBase64, if_neg (by simp [hlength, toBase64String_length_mod]),
    decodeLoop_quartets _ _ [] (Nat.zero_le _) data hquartets (.inl hne)]
  rfl

/-- What the encoder writes fits and is read back; the decoder accepts exactly the whole groups
with at most two characters of padding at the end whose bytes fit, and no byte is ever written
at or beyond its capacity. -/
theorem base64_codec :
    (∀ (data : List UInt8) (outCapacity : UInt32) (decodeCapacity : Nat), data ≠ [] →
      (data.length + 2) / 3 * 4 + 1 ≤ outCapacity.toNat → data.length ≤ decodeCapacity →
      ∃ memory, encodeBase64Bytes data outCapacity = some memory ∧
        memory.length ≤ outCapacity.toNat ∧
        decodeBase64 (cString memory) decodeCapacity = ⟨true, data⟩) ∧
    (∀ text outCapacity, (decodeBase64 text outCapacity).ok = true ↔
      0 < text.length ∧ text.length % 4 = 0 ∧ Accepts text outCapacity) ∧
    (∀ text outCapacity, (decodeBase64 text outCapacity).written.length ≤ outCapacity) := by
  refine ⟨?_, fun text outCapacity => (decodeBase64_ok text outCapacity).1,
    fun text outCapacity => (decodeBase64_ok text outCapacity).2⟩
  intro data outCapacity decodeCapacity hne hfits hdecode
  refine ⟨_, encodeBase64Bytes_fits hne hfits, ?_, ?_⟩
  · rw [List.length_append, encodeGroups_eq, toBase64String_length]
    exact hfits
  · rw [cString_append_zero, decodeBase64_encodeGroups hne hdecode]
    rw [encodeGroups_eq]
    exact toBase64String_ne_zero data

/-- Two bytes, with one character of padding. -/
theorem base64_codec_two : encodeBase64Bytes [0x66, 0x6F] 5 = some [0x5A, 0x6D, 0x38, 0x3D, 0] ∧
    ∃ memory, encodeBase64Bytes [0x66, 0x6F] 5 = some memory ∧ memory.length ≤ 5 ∧
      decodeBase64 (cString memory) 2 = ⟨true, [0x66, 0x6F]⟩ :=
  ⟨by decide +kernel,
    base64_codec.1 [0x66, 0x6F] 5 2 (by decide) (by decide) (by decide)⟩

end NodeNet.Upload
