/-! A ring of cells with a read and a write place; one cell always stays free. -/
namespace NodeNet.Ring
variable {α : Type _}

/-- The items are in the cells from the read place on, and the write place is behind them. -/
structure Holds (size : Nat) (cells : Nat → α) (rd wr : Nat) (items : List α) : Prop where
  rd_lt : rd < size
  room : items.length < size
  place : wr = (rd + items.length) % size
  cell : ∀ i (h : i < items.length), cells ((rd + i) % size) = items[i]

variable {size rd wr : Nat} {cells : Nat → α} {items : List α}

theorem Holds.wr_lt (h : Holds size cells rd wr items) : wr < size := by
  rw [h.place]
  exact Nat.mod_lt _ (Nat.lt_of_le_of_lt (Nat.zero_le rd) h.rd_lt)

theorem add_mod_cases {a b : Nat} (ha : a < size) (hb : b ≤ size) :
    (a + b < size ∧ (a + b) % size = a + b) ∨ (size ≤ a + b ∧ (a + b) % size = a + b - size) := by
  by_cases hlt : a + b < size
  · exact .inl ⟨hlt, Nat.mod_eq_of_lt hlt⟩
  · refine .inr ⟨by omega, ?_⟩
    rw [Nat.mod_eq_sub_mod (by omega), Nat.mod_eq_of_lt (by omega)]

theorem Holds.empty_iff (h : Holds size cells rd wr items) : wr = rd ↔ items = [] := by
  have hrd := h.rd_lt
  have hroom := h.room
  have hsum := add_mod_cases hrd (Nat.le_of_lt hroom)
  rw [h.place, ← List.length_eq_zero_iff]
  omega

theorem Holds.full_iff (h : Holds size cells rd wr items) :
    (wr + 1) % size = rd ↔ items.length + 1 = size := by
  have hrd := h.rd_lt
  have hroom := h.room
  have hsum := add_mod_cases hrd (b := items.length + 1) (by omega)
  have hplace : (wr + 1) % size = (rd + (items.length + 1)) % size := by
    rw [h.place, Nat.mod_add_mod, Nat.add_assoc]
  rw [hplace]
  omega

theorem Holds.length_eq (h : Holds size cells rd wr items) :
    items.length = (wr + (size - rd)) % size := by
  have hrd := h.rd_lt
  have hroom := h.room
  have hwr := h.wr_lt
  have hsum := add_mod_cases hrd (Nat.le_of_lt hroom)
  have hback := add_mod_cases hwr (b := size - rd) (by omega)
  have hplace := h.place
  omega

theorem Holds.push (h : Holds size cells rd wr items) (hroom : items.length + 1 < size) (x : α) :
    Holds size (fun k => if k = wr then x else cells k) rd ((wr + 1) % size) (items ++ [x]) where
  rd_lt := h.rd_lt
  room := by
    rw [List.length_append, List.length_singleton]
    exact hroom
  place := by
    rw [h.place, Nat.mod_add_mod, List.length_append, List.length_singleton, Nat.add_assoc]
  cell := by
    intro i hi
    rw [List.length_append, List.length_singleton] at hi
    have hrd := h.rd_lt
    by_cases hlast : i = items.length
    · have hplace : (rd + i) % size = wr := by rw [h.place, hlast]
      rw [if_pos hplace]
      simp [hlast]
    · have hlt : i < items.length := by omega
      have hplace : (rd + i) % size ≠ wr := by
        have hi' := add_mod_cases hrd (b := i) (by omega)
        have hend := add_mod_cases hrd (b := items.length) (by omega)
        rw [h.place]
        omega
      rw [if_neg hplace, h.cell i hlt, List.getElem_append_left hlt]

theorem Holds.head {x : α} (h : Holds size cells rd wr (x :: items)) : cells rd = x := by
  have hfirst := h.cell 0 (by simp)
  rw [Nat.add_zero, Nat.mod_eq_of_lt h.rd_lt] at hfirst
  exact hfirst

theorem Holds.pop {x : α} (h : Holds size cells rd wr (x :: items)) :
    Holds size cells ((rd + 1) % size) wr items where
  rd_lt := Nat.mod_lt _ (Nat.lt_of_le_of_lt (Nat.zero_le rd) h.rd_lt)
  room := by
    have hroom := h.room
    rw [List.length_cons] at hroom
    omega
  place := by
    rw [h.place, Nat.mod_add_mod, List.length_cons, Nat.add_assoc, Nat.add_comm 1]
  cell := by
    intro i hi
    have hcell := h.cell (i + 1) (by rw [List.length_cons]; omega)
    rw [Nat.mod_add_mod, Nat.add_assoc, Nat.add_comm 1]
    exact hcell

end NodeNet.Ring
