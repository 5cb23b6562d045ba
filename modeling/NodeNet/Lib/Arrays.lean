/-! Arrays as C programs edit them: stores, block moves, compaction in place, bits and rings. -/
namespace NodeNet.Arrays
variable {α β : Type}

/-- The array after `a[i] = x`. -/
def store (a : Nat → α) (i : Nat) (x : α) : Nat → α := fun j => if j = i then x else a j

/-- The array after `memmove(&a[target], &a[source], count)`. -/
def memmove (a : Nat → α) (target source count : Nat) : Nat → α :=
  fun j => if target ≤ j ∧ j < target + count then a (source + (j - target)) else a j

/-- The stores of a list from a place on. -/
def fill (a : Nat → α) (start : Nat) : List α → Nat → α
  | [] => a
  | x :: xs => fill (store a start x) (start + 1) xs

/-- The first elements. -/
def taken (a : Nat → α) (n : Nat) : List α := (List.range n).map a

@[simp] theorem taken_length (a : Nat → α) (n : Nat) : (taken a n).length = n := by simp [taken]

theorem taken_getElem? (a : Nat → α) {n i : Nat} (h : i < n) : (taken a n)[i]? = some (a i) := by
  simp [taken, h]

theorem taken_succ (a : Nat → α) (n : Nat) : taken a (n + 1) = taken a n ++ [a n] := by
  simp [taken, List.range_succ]

theorem taken_map (f : α → β) (a : Nat → α) (n : Nat) :
    taken (fun i => f (a i)) n = (taken a n).map f := by
  simp [taken, Function.comp_def]

theorem taken_congr {a b : Nat → α} {n : Nat} (h : ∀ i < n, a i = b i) : taken a n = taken b n :=
  List.map_congr_left fun i hi => h i (List.mem_range.mp hi)

theorem taken_eq {a : Nat → α} {n : Nat} {l : List α} (hlength : l.length = n)
    (h : ∀ i < n, l[i]? = some (a i)) : taken a n = l := by
  refine List.ext_getElem? fun i => ?_
  by_cases hi : i < n
  · rw [taken_getElem? a hi, h i hi]
  · rw [List.getElem?_eq_none (by simpa using hi), List.getElem?_eq_none (by omega)]

theorem taken_store (a : Nat → α) (i n : Nat) (x : α) :
    taken (store a i x) n = (taken a n).set i x := by
  refine taken_eq (by simp) fun j hj => ?_
  rw [List.getElem?_set, taken_length, taken_getElem? a hj, store]
  by_cases hji : i = j
  · subst hji
    simp [hj]
  · rw [if_neg hji, if_neg (Ne.symm hji)]

theorem taken_store_ge (a : Nat → α) {i n : Nat} (h : n ≤ i) (x : α) :
    taken (store a i x) n = taken a n :=
  taken_congr fun j hj => if_neg (by omega)

theorem taken_erase (a : Nat → α) {i n : Nat} (h : i < n) :
    taken (memmove a i (i + 1) (n - i - 1)) (n - 1) = (taken a n).eraseIdx i := by
  refine taken_eq (by simp [List.length_eraseIdx, h]) fun j hj => ?_
  rw [List.getElem?_eraseIdx, memmove]
  by_cases hji : j < i
  · rw [if_pos hji, if_neg (by omega), taken_getElem? a (by omega)]
  · rw [if_neg hji, if_pos (by omega), taken_getElem? a (by omega)]
    congr 2
    omega

theorem fill_eq (a : Nat → α) (start : Nat) (xs : List α) (j : Nat) :
    fill a start xs j = if start ≤ j then (xs[j - start]?).getD (a j) else a j := by
  induction xs generalizing a start with
  | nil => simp [fill]
  | cons x xs ih =>
    rw [fill, ih, store]
    by_cases hbefore : j < start
    · rw [if_neg (by omega), if_neg (by omega), if_neg (by omega)]
    · by_cases hsame : j = start
      · subst hsame
        rw [if_neg (by omega), if_pos rfl, if_pos (Nat.le_refl _), Nat.sub_self]
        rfl
      · have hj : j - start = j - (start + 1) + 1 := by omega
        rw [if_pos (by omega), if_neg hsame, if_pos (by omega), hj, List.getElem?_cons_succ]

theorem taken_inserted (a : Nat → α) {position n : Nat} (h : position ≤ n) (xs : List α) :
    taken (fill (memmove a (position + xs.length) position (n - position)) position xs)
        (n + xs.length) = (taken a n).take position ++ xs ++ (taken a n).drop position := by
  refine taken_eq ?_ fun j hj => ?_
  · simp
    omega
  · have hfront : ((taken a n).take position).length = position := by
      rw [List.length_take, taken_length]
      omega
    rw [fill_eq, memmove, List.append_assoc]
    by_cases hbefore : j < position
    · rw [if_neg (by omega), if_neg (by omega), List.getElem?_append_left (by omega),
        List.getElem?_take_of_lt hbefore, taken_getElem? a (by omega)]
    · rw [if_pos (by omega), List.getElem?_append_right (by omega), hfront]
      by_cases hnew : j - position < xs.length
      · rw [List.getElem?_append_left hnew, List.getElem?_eq_getElem hnew, Option.getD_some]
      · have hnone : xs[j - position]? = none := List.getElem?_eq_none (by omega)
        have hplace : position + (j - position - xs.length) =
            position + (j - (position + xs.length)) := by omega
        rw [List.getElem?_append_right (by omega), hnone, Option.getD_none, if_pos (by omega),
          List.getElem?_drop, hplace, taken_getElem? a (by omega)]

theorem taken_appended (a : Nat → α) (n : Nat) (xs : List α) :
    taken (fill a n xs) (n + xs.length) = taken a n ++ xs := by
  refine taken_eq (by simp) fun j hj => ?_
  rw [fill_eq]
  by_cases hbefore : j < n
  · rw [if_neg (by omega), List.getElem?_append_left (by simpa using hbefore),
      taken_getElem? a hbefore]
  · have hnew : j - n < xs.length := by omega
    rw [if_pos (by omega), List.getElem?_append_right (by simpa using hbefore), taken_length,
      List.getElem?_eq_getElem hnew, Option.getD_some]

/-! Compaction: what is to stay is copied to the front, in its order. -/

/-- One turn of the loop; the second component is the number of elements kept so far. -/
def compactStep (drops : α → Bool) (p : (Nat → α) × Nat) (index : Nat) : (Nat → α) × Nat :=
  if drops (p.1 index) then p
  else (if p.2 ≠ index then store p.1 p.2 (p.1 index) else p.1, p.2 + 1)

def compact (drops : α → Bool) (a : Nat → α) (n : Nat) : (Nat → α) × Nat :=
  (List.range n).foldl (compactStep drops) (a, 0)

/-- What the loop has done before an index. -/
structure Compacted (drops : α → Bool) (a : Nat → α) (index : Nat) (p : (Nat → α) × Nat) :
    Prop where
  le : p.2 ≤ index
  kept : taken p.1 p.2 = (taken a index).filter fun x => !drops x
  ahead : ∀ j, index ≤ j → p.1 j = a j

theorem Compacted.step {drops : α → Bool} {a : Nat → α} {index : Nat} {p : (Nat → α) × Nat}
    (h : Compacted drops a index p) :
    Compacted drops a (index + 1) (compactStep drops p index) := by
  have hat := h.ahead index (Nat.le_refl _)
  have hle := h.le
  rw [compactStep, hat]
  by_cases hdrops : drops (a index) = true
  · rw [if_pos hdrops]
    refine ⟨by omega, ?_, fun j hj => h.ahead j (by omega)⟩
    rw [h.kept, taken_succ, List.filter_append]
    simp [hdrops]
  · rw [if_neg hdrops]
    have hfilter : (taken a (index + 1)).filter (fun x => !drops x) =
        taken p.1 p.2 ++ [a index] := by
      rw [h.kept, taken_succ, List.filter_append]
      simp [hdrops]
    by_cases hmoved : p.2 ≠ index
    · rw [if_pos hmoved]
      refine ⟨by simp; omega, ?_, fun j hj => ?_⟩
      · have hstored : store p.1 p.2 (a index) p.2 = a index := if_pos rfl
        dsimp only
        rw [hfilter, taken_succ, taken_store_ge p.1 (Nat.le_refl _), hstored]
      · have hother : store p.1 p.2 (a index) j = p.1 j := if_neg (by omega)
        dsimp only
        rw [hother, h.ahead j (by omega)]
    · rw [if_neg hmoved]
      have hsame : p.2 = index := Decidable.not_not.mp hmoved
      refine ⟨by simp; omega, ?_, fun j hj => h.ahead j (by omega)⟩
      rw [hfilter, taken_succ, hsame, hat]

theorem compacted (drops : α → Bool) (a : Nat → α) (n : Nat) :
    Compacted drops a n (compact drops a n) := by
  induction n with
  | zero => exact ⟨Nat.le_refl _, rfl, fun _ _ => rfl⟩
  | succ n ih =>
    rw [compact, List.range_succ, List.foldl_append]
    exact ih.step

/-! The first element that has a property. -/

/-- The number of elements where none has it. -/
def firstWhere (p : α → Bool) (a : Nat → α) (n : Nat) : Nat :=
  ((List.range n).find? fun i => p (a i)).getD n

theorem firstWhere_eq (p : α → Bool) (a : Nat → α) (n : Nat) :
    firstWhere p a n = (taken a n).findIdx p := by
  rw [firstWhere]
  cases hfind : (List.range n).find? fun i => p (a i) with
  | none =>
    rw [List.find?_eq_none] at hfind
    rw [Option.getD_none, List.findIdx_eq_length_of_false, taken_length]
    intro x hx
    obtain ⟨i, hi, rfl⟩ := List.mem_map.mp hx
    simpa using hfind i hi
  | some i =>
    rw [List.find?_range_eq_some] at hfind
    obtain ⟨hp, hi, hbefore⟩ := hfind
    rw [List.mem_range] at hi
    rw [Option.getD_some]
    refine ((List.findIdx_eq (by simpa using hi)).mpr ⟨?_, fun j hj => ?_⟩).symm
    · simpa [taken] using hp
    · simpa [taken] using hbefore j hj

/-! A bit for each index, eight of them to a byte. -/

def bitMask (i : Nat) : UInt8 := UInt8.ofNat (1 <<< (i % 8))

def testBit (bytes : Nat → UInt8) (i : Nat) : Bool := bytes (i / 8) &&& bitMask i ≠ 0

def setBit (bytes : Nat → UInt8) (i : Nat) (on : Bool) : Nat → UInt8 :=
  store bytes (i / 8)
    (if on then bytes (i / 8) ||| bitMask i else bytes (i / 8) &&& ~~~bitMask i)

theorem getLsbD_bitMask (i k : Nat) (hk : k < 8) :
    (bitMask i).toBitVec.getLsbD k = decide (k = i % 8) := by
  have hmask : (bitMask i).toBitVec = BitVec.ofNat 8 (2 ^ (i % 8)) := by
    rw [bitMask, Nat.one_shiftLeft]
    rfl
  rw [hmask, BitVec.getLsbD_ofNat, Nat.testBit_two_pow]
  simp [hk, eq_comm]

theorem testBit_eq (bytes : Nat → UInt8) (i : Nat) :
    testBit bytes i = (bytes (i / 8)).toBitVec.getLsbD (i % 8) := by
  have hi : i % 8 < 8 := Nat.mod_lt _ (by decide)
  have hzero : bytes (i / 8) &&& bitMask i = 0 ↔
      (bytes (i / 8)).toBitVec.getLsbD (i % 8) = false := by
    rw [← UInt8.toBitVec_inj]
    constructor
    · intro h
      have hbit := congrArg (fun v : BitVec 8 => v.getLsbD (i % 8)) h
      rw [UInt8.toBitVec_and, BitVec.getLsbD_and, getLsbD_bitMask i _ hi, decide_eq_true rfl,
        Bool.and_true] at hbit
      rw [hbit]
      exact BitVec.getLsbD_zero
    · intro h
      apply BitVec.eq_of_getLsbD_eq
      intro k hk
      rw [UInt8.toBitVec_and, BitVec.getLsbD_and, getLsbD_bitMask i k hk]
      by_cases hsame : k = i % 8
      · simp [hsame, h]
      · simp [hsame]
  rw [testBit]
  cases hbit : (bytes (i / 8)).toBitVec.getLsbD (i % 8) with
  | false => simp [hzero.mpr hbit]
  | true =>
    have hne : ¬ bytes (i / 8) &&& bitMask i = 0 := by
      rw [hzero, hbit]
      decide
    simp [hne]

theorem testBit_setBit (bytes : Nat → UInt8) (i : Nat) (on : Bool) (j : Nat) :
    testBit (setBit bytes i on) j = if j = i then on else testBit bytes j := by
  have hj : j % 8 < 8 := Nat.mod_lt _ (by decide)
  rw [testBit_eq, testBit_eq, setBit, store]
  by_cases hbyte : j / 8 = i / 8
  · rw [if_pos hbyte, hbyte]
    have hsame : j % 8 = i % 8 ↔ j = i := by omega
    cases on with
    | true =>
      rw [if_pos rfl, UInt8.toBitVec_or, BitVec.getLsbD_or, getLsbD_bitMask i _ hj]
      by_cases h : j = i <;> simp [hsame, h]
    | false =>
      rw [if_neg Bool.false_ne_true, UInt8.toBitVec_and, BitVec.getLsbD_and, UInt8.toBitVec_not,
        BitVec.getLsbD_not, getLsbD_bitMask i _ hj]
      by_cases h : j = i <;> simp [hsame, h, hj]
  · have hne : j ≠ i := fun h => hbyte (by rw [h])
    rw [if_neg hbyte, if_neg hne]

/-! A ring: the elements stand from the head on and go around. -/

def ringContents (cells : Nat → α) (capacity head count : Nat) : List α :=
  taken (fun k => cells ((head + k) % capacity)) count

theorem ringContents_push (cells : Nat → α) {capacity count : Nat} (head : Nat)
    (h : count < capacity) (x : α) :
    ringContents (store cells ((head + count) % capacity) x) capacity head (count + 1) =
      ringContents cells capacity head count ++ [x] := by
  rw [ringContents, taken_succ]
  have hold : taken (fun k => store cells ((head + count) % capacity) x ((head + k) % capacity))
      count = ringContents cells capacity head count := by
    refine taken_congr fun k hk => if_neg fun hsame => ?_
    have hmod : (head + k) % capacity = (head + count) % capacity := hsame
    have hdiv := Nat.sub_mod_eq_zero_of_mod_eq hmod.symm
    have hdiff : head + count - (head + k) = count - k := by omega
    rw [hdiff, Nat.mod_eq_of_lt (by omega)] at hdiv
    omega
  have hnew : store cells ((head + count) % capacity) x ((head + count) % capacity) = x :=
    if_pos rfl
  rw [hold, hnew]

theorem ringContents_pop (cells : Nat → α) {capacity head : Nat} (hhead : head < capacity)
    (count : Nat) :
    ringContents cells capacity head (count + 1) =
      cells head :: ringContents cells capacity ((head + 1) % capacity) count := by
  refine taken_eq (by simp [ringContents]) fun k hk => ?_
  cases k with
  | zero =>
    rw [List.getElem?_cons_zero, Nat.add_zero, Nat.mod_eq_of_lt hhead]
  | succ k =>
    have hplace : ((head + 1) % capacity + k) % capacity = (head + (k + 1)) % capacity := by
      rw [Nat.mod_add_mod]
      congr 1
      omega
    rw [List.getElem?_cons_succ, ringContents, taken_getElem? _ (by omega), hplace]

end NodeNet.Arrays
