import NodeNet.Lib.Chars
import NodeNet.Lib.JsonText

/-! How the desktop program cuts the bytes it receives into JSON objects. -/
namespace NodeNet.Desktop
open NodeNet.Chars NodeNet.JsonText

structure JsonObjectFrameReader where
  builder : CodeUnits
  inString : Bool
  escape : Bool
  -- The builder holds no more characters than an int counts, so the depth does not overflow.
  depth : Int
  started : Bool
  deriving DecidableEq

namespace JsonObjectFrameReader

def initial : JsonObjectFrameReader := ⟨[], false, false, 0, false⟩

/-- The frame, where the source returns true, and the reader after the byte. -/
def tryAppend (r : JsonObjectFrameReader) (value : UInt8) :
    Option CodeUnits × JsonObjectFrameReader :=
  let character := value.toUInt16
  if !r.started then
    if character ≠ ch '\x7b' then (none, r)
    else (none, { r with started := true, depth := 1, builder := [character] })
  else
    let r := { r with builder := r.builder ++ [character] }
    if r.escape then (none, { r with escape := false })
    else if character = ch '\\' then
      (none, if r.inString then { r with escape := true } else r)
    else if character = ch '"' then (none, { r with inString := !r.inString })
    else if r.inString then (none, r)
    else if character = ch '\x7b' then (none, { r with depth := r.depth + 1 })
    else if character = ch '\x7d' then
      let r := { r with depth := r.depth - 1 }
      if r.depth = 0 then (some r.builder, initial) else (none, r)
    else (none, r)

/-- The results of the calls, byte by byte, and the reader after them. -/
def feed (r : JsonObjectFrameReader) : List UInt8 → List (Option CodeUnits) × JsonObjectFrameReader
  | [] => ([], r)
  | value :: rest =>
    let (frame, next) := r.tryAppend value
    (frame :: (next.feed rest).1, (next.feed rest).2)

/-- Inside an object; the depth counts the objects around. -/
def within (builder : CodeUnits) (inString : Bool) (depth : Int) : JsonObjectFrameReader :=
  ⟨builder, inString, false, depth, true⟩

def characters (t : Text) : CodeUnits := t.map (·.toUInt16)

theorem feed_append (r : JsonObjectFrameReader) (s t : Text) :
    r.feed (s ++ t) = ((r.feed s).1 ++ ((r.feed s).2.feed t).1, ((r.feed s).2.feed t).2) := by
  induction s generalizing r with
  | nil => rfl
  | cons c s ih =>
    have hrest := ih (r.tryAppend c).2
    rw [List.cons_append, feed, feed]
    simp only [hrest, List.cons_append]

/-- The bytes are taken in without ending a frame, and the reader is where it was before them. -/
def Passes (inString : Bool) (t : Text) : Prop :=
  ∀ builder depth, 0 < depth → (within builder inString depth).feed t =
    (List.replicate t.length none, within (builder ++ characters t) inString depth)

theorem passes_nil (inString : Bool) : Passes inString [] := by
  intro builder depth _
  simp [feed, characters]

variable {t : Text}

theorem Passes.append {inString : Bool} {s : Text} (hs : Passes inString s)
    (ht : Passes inString t) : Passes inString (s ++ t) := by
  intro builder depth hdepth
  rw [feed_append, hs builder depth hdepth]
  dsimp only
  rw [ht (builder ++ characters s) depth hdepth]
  simp [characters]

theorem toUInt16_eq_iff {a b : UInt8} : a.toUInt16 = b.toUInt16 ↔ a = b := by
  constructor
  · intro h
    have hbyte := congrArg UInt16.toUInt8 h
    simpa using hbyte
  · intro h
    rw [h]

theorem character_eq_iff (c : UInt8) :
    (c.toUInt16 = ch '\x7b' ↔ c = 0x7B) ∧ (c.toUInt16 = ch '\x7d' ↔ c = 0x7D) ∧
      (c.toUInt16 = ch '\\' ↔ c = 0x5C) ∧ (c.toUInt16 = ch '"' ↔ c = 0x22) :=
  ⟨toUInt16_eq_iff (b := 0x7B), toUInt16_eq_iff (b := 0x7D), toUInt16_eq_iff (b := 0x5C),
    toUInt16_eq_iff (b := 0x22)⟩

/-- A byte that means nothing to the reader outside a string. -/
def isOrdinary (c : UInt8) : Bool := c ≠ 0x22 && c ≠ 0x5C && c ≠ 0x7B && c ≠ 0x7D

theorem passes_ordinary {c : UInt8} (hc : isOrdinary c = true) : Passes false [c] := by
  intro builder depth _
  obtain ⟨hopen, hclose, hescape, hquote⟩ := character_eq_iff c
  simp only [isOrdinary, Bool.and_eq_true, decide_eq_true_eq] at hc
  simp [feed, tryAppend, within, characters, hopen, hclose, hescape, hquote, hc]

theorem passes_of_all (h : ∀ c ∈ t, isOrdinary c = true) : Passes false t := by
  induction t with
  | nil => exact passes_nil false
  | cons c t ih =>
    have hrest := ih fun c' hc' => h c' (.tail _ hc')
    exact (passes_ordinary (h c (.head _))).append hrest

theorem passes_inString {c : UInt8} (hquote : c ≠ 0x22) (hescape : c ≠ 0x5C) :
    Passes true [c] := by
  intro builder depth _
  obtain ⟨-, -, hescape', hquote'⟩ := character_eq_iff c
  simp [feed, tryAppend, within, characters, hescape', hquote', hescape, hquote]

theorem passes_escape (c : UInt8) : Passes true [0x5C, c] := by
  intro builder depth _
  have hescape : (within builder true depth).tryAppend 0x5C =
      (none, { within (builder ++ [0x5C]) true depth with escape := true }) := rfl
  have hpassed : ∀ b, { within b true depth with escape := true }.tryAppend c =
      (none, within (b ++ [c.toUInt16]) true depth) := by
    intro b
    rfl
  rw [feed, hescape]
  dsimp only
  rw [feed, hpassed]
  simp [feed, characters]

theorem stringBody_passes (h : StringBody t) : Passes true t := by
  induction h with
  | nil => exact passes_nil true
  | plain _ hquote hescape _ ih => exact (passes_inString hquote hescape).append ih
  | @escape c t _ _ ih => exact (passes_escape c).append ih
  | @unicode digits t _ hdigits _ ih =>
    have hpassed : ∀ s : Text, (∀ c ∈ s, isHexDigit c = true) → Passes true s := by
      intro s hs
      induction s with
      | nil => exact passes_nil true
      | cons c s ihs =>
        have hc := hs c (.head _)
        have hquote : c ≠ 0x22 := by
          intro heq
          rw [heq] at hc
          cases hc
        have hescape : c ≠ 0x5C := by
          intro heq
          rw [heq] at hc
          cases hc
        exact (passes_inString hquote hescape).append (ihs fun c' hc' => hs c' (.tail _ hc'))
    exact (passes_escape 0x75).append ((hpassed digits hdigits).append ih)

theorem replicate_around (n : Nat) (a : Option CodeUnits) :
    a :: (List.replicate n a ++ [a]) = List.replicate (n + 2) a := by
  rw [← List.replicate_succ', ← List.replicate_succ]

theorem quoted_passes (h : StringBody t) : Passes false (quoted t) := by
  intro builder depth hdepth
  have hopened : (within builder false depth).tryAppend 0x22 =
      (none, within (builder ++ [0x22]) true depth) := rfl
  have hclosed : ∀ b, (within b true depth).tryAppend 0x22 =
      (none, within (b ++ [0x22]) false depth) := by
    intro b
    rfl
  rw [quoted, feed, hopened]
  dsimp only
  rw [feed_append, stringBody_passes h _ depth hdepth]
  dsimp only
  rw [feed, hclosed]
  simp [feed, characters, replicate_around]

theorem spaces_passes {s : Text} (hs : Spaces s) : Passes false s :=
  passes_of_all fun c hc => by
    have hspace := hs c hc
    simp only [isSpace, Bool.or_eq_true, decide_eq_true_eq] at hspace
    obtain ((rfl | rfl) | rfl) | rfl := hspace <;> rfl

theorem digits_ordinary (h : Digits t) : ∀ c ∈ t, isOrdinary c = true := by
  intro c hc
  have hdigit := h.2 c hc
  have hne : ∀ b : UInt8, isDigit b = false → c ≠ b := by
    intro b hb heq
    rw [heq, hb] at hdigit
    cases hdigit
  simp [isOrdinary, hne 0x22 rfl, hne 0x5C rfl, hne 0x7B rfl, hne 0x7D rfl]

theorem number_passes (h : Number t) : Passes false t := by
  cases h with
  | @mk sign whole fraction exponent hsign hwhole _ hfraction hexponent =>
    have hsigned : Passes false sign := by
      simp only [List.mem_cons, List.not_mem_nil, or_false] at hsign
      obtain rfl | rfl := hsign
      · exact passes_nil false
      · exact passes_ordinary rfl
    have hwhole' : Passes false whole := passes_of_all (digits_ordinary hwhole)
    have hfraction' : Passes false fraction := by
      obtain rfl | ⟨digits, hdigits, rfl⟩ := hfraction
      · exact passes_nil false
      · exact (passes_ordinary (c := 0x2E) rfl).append (passes_of_all (digits_ordinary hdigits))
    have hexponent' : Passes false exponent := by
      obtain rfl | ⟨e, s, digits, he, hs, hdigits, rfl⟩ := hexponent
      · exact passes_nil false
      · have hordinary : isOrdinary e = true := by
          simp only [List.mem_cons, List.not_mem_nil, or_false] at he
          obtain rfl | rfl := he <;> rfl
        have hsign' : Passes false s := by
          simp only [List.mem_cons, List.not_mem_nil, or_false] at hs
          obtain rfl | rfl | rfl := hs
          · exact passes_nil false
          · exact passes_ordinary rfl
          · exact passes_ordinary rfl
        exact (passes_ordinary hordinary).append
          (hsign'.append (passes_of_all (digits_ordinary hdigits)))
    exact ((hsigned.append hwhole').append hfraction').append hexponent'

theorem literal_passes (h : t ∈ literals) : Passes false t := by
  have hall : literals.all (fun t => t.all isOrdinary) = true := rfl
  exact passes_of_all (List.all_eq_true.mp (List.all_eq_true.mp hall t h))

theorem braces_pass (h : Passes false t) : Passes false (0x7B :: (t ++ [0x7D])) := by
  intro builder depth hdepth
  have hopened : (within builder false depth).tryAppend 0x7B =
      (none, within (builder ++ [0x7B]) false (depth + 1)) := rfl
  rw [feed, hopened]
  dsimp only
  rw [feed_append, h _ (depth + 1) (by omega)]
  dsimp only
  have hback : depth + 1 - 1 = depth := by omega
  have hne : depth ≠ 0 := by omega
  have hclosed : ∀ b, (within b false (depth + 1)).tryAppend 0x7D =
      (none, within (b ++ [0x7D]) false depth) := by
    intro b
    change (if depth + 1 - 1 = 0 then (some (b ++ [0x7D]), initial)
      else (none, within (b ++ [0x7D]) false (depth + 1 - 1))) = _
    rw [hback, if_neg hne]
  rw [feed, hclosed]
  simp [feed, characters, replicate_around]

theorem derives_passes {p : Part} (h : Derives p t) : Passes false t := by
  induction h with
  | literal h => exact literal_passes h
  | number h => exact number_passes h
  | string h => exact quoted_passes h
  | ofObject _ ih => exact ih
  | emptyArray hs =>
    exact (passes_ordinary (c := 0x5B) rfl).append ((spaces_passes hs).append (passes_ordinary rfl))
  | array _ ih =>
    exact (passes_ordinary (c := 0x5B) rfl).append (ih.append (passes_ordinary rfl))
  | emptyObject hs => exact braces_pass (spaces_passes hs)
  | object _ ih => exact braces_pass ih
  | element hs _ hs' ih => exact ((spaces_passes hs).append ih).append (spaces_passes hs')
  | ofElement _ ih => exact ih
  | elements _ _ ih ihrest => exact ih.append ((passes_ordinary (c := 0x2C) rfl).append ihrest)
  | member hs hkey hs' _ ih =>
    exact (((spaces_passes hs).append (quoted_passes hkey)).append (spaces_passes hs')).append
      ((passes_ordinary (c := 0x3A) rfl).append ih)
  | members _ _ ih ihrest => exact ih.append ((passes_ordinary (c := 0x2C) rfl).append ihrest)

theorem object_braces (h : IsObject t) : ∃ s, t = 0x7B :: (s ++ [0x7D]) ∧ Passes false s := by
  cases h with
  | emptyObject hs => exact ⟨_, rfl, spaces_passes hs⟩
  | object h => exact ⟨_, rfl, derives_passes h⟩

theorem feed_object (h : IsObject t) :
    initial.feed t = (List.replicate (t.length - 1) none ++ [some (characters t)], initial) := by
  obtain ⟨s, rfl, hpasses⟩ := object_braces h
  have hopened : initial.tryAppend 0x7B = (none, within [0x7B] false 1) := rfl
  rw [feed, hopened]
  dsimp only
  rw [feed_append, hpasses _ 1 (by decide)]
  dsimp only
  have hclosed : ∀ b, (within b false 1).tryAppend 0x7D = (some (b ++ [0x7D]), initial) := by
    intro b
    rfl
  rw [feed, hclosed]
  simp [feed, characters, List.replicate_succ]

theorem feed_separator (h : 0x7B ∉ t) :
    initial.feed t = (List.replicate t.length none, initial) := by
  induction t with
  | nil => rfl
  | cons c t ih =>
    rw [List.mem_cons, not_or] at h
    have hskipped : initial.tryAppend c = (none, initial) := by
      have hne : c.toUInt16 ≠ ch '\x7b' := by
        rw [ne_eq, (character_eq_iff c).1]
        exact fun heq => h.1 heq.symm
      rw [tryAppend]
      exact if_pos hne
    rw [feed, hskipped]
    dsimp only
    rw [ih h.2]
    rfl

/-- Objects with what stands before each of them. -/
def stream (pieces : List (Text × Text)) : Text := pieces.flatMap fun p => p.1 ++ p.2

/-- One frame for each object, at its last byte. -/
def framesOf (pieces : List (Text × Text)) : List (Option CodeUnits) :=
  pieces.flatMap fun p =>
    List.replicate (p.1.length + (p.2.length - 1)) none ++ [some (characters p.2)]

/-- The frames are the objects, each complete at its last byte, and after each of them the reader
is as at the start. -/
theorem frames_are_objects (pieces : List (Text × Text))
    (h : ∀ p ∈ pieces, 0x7B ∉ p.1 ∧ IsObject p.2) (tail : Text) (htail : 0x7B ∉ tail) :
    initial.feed (stream pieces ++ tail) =
        (framesOf pieces ++ List.replicate tail.length none, initial) ∧
      initial.feed (stream pieces) = (framesOf pieces, initial) := by
  have hpieces : initial.feed (stream pieces) = (framesOf pieces, initial) := by
    induction pieces with
    | nil => rfl
    | cons p pieces ih =>
      obtain ⟨hseparator, hobject⟩ := h p (.head _)
      have hrest := ih fun p' hp' => h p' (.tail _ hp')
      have hstream : stream (p :: pieces) = p.1 ++ (p.2 ++ stream pieces) := by
        simp [stream]
      rw [hstream, feed_append, feed_separator hseparator]
      dsimp only
      rw [feed_append, feed_object hobject]
      dsimp only
      rw [hrest]
      simp [framesOf, ← List.replicate_append_replicate]
  refine ⟨?_, hpieces⟩
  rw [feed_append, hpieces]
  dsimp only
  rw [feed_separator htail]

def bracesInString : Text :=
  [0x7B, 0x22, 0x6B, 0x22, 0x3A, 0x22, 0x7D, 0x5C, 0x22, 0x7B, 0x22, 0x7D]

theorem bracesInString_isObject : IsObject bracesInString := by
  have hkey : StringBody [0x6B] := .plain (by decide) (by decide) (by decide) .nil
  have hbody : StringBody [0x7D, 0x5C, 0x22, 0x7B] :=
    .plain (by decide) (by decide) (by decide)
      (.escape (by decide) (.plain (by decide) (by decide) (by decide) .nil))
  have hspaces : Spaces [] := fun c hc => by cases hc
  exact .object (.member hspaces hkey hspaces (.element hspaces (.string hbody) hspaces))

theorem bracesInString_frame :
    initial.feed (stream [([0x7D, 0x2C], bracesInString)] ++ [0x5C]) =
        ([none, none] ++ (List.replicate 11 none ++ [some (characters bracesInString)]) ++ [none],
          initial) ∧
      initial.feed (stream [([0x7D, 0x2C], bracesInString)]) =
        ([none, none] ++ (List.replicate 11 none ++ [some (characters bracesInString)]),
          initial) := by
  refine frames_are_objects [([0x7D, 0x2C], bracesInString)] (fun p hp => ?_) [0x5C] (by decide)
  rw [List.mem_singleton] at hp
  rw [hp]
  exact ⟨by decide, bracesInString_isObject⟩

end JsonObjectFrameReader

end NodeNet.Desktop
