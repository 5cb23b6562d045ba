/-! Reading a list out page by page, until a page says that it is the last. -/
namespace NodeNet.Paging
variable {Item Client : Type}

/-- What one request brings: items, whether more follow, and the client after them. -/
structure Page (Item Client : Type) where
  items : List Item
  more : Bool
  client : Client

/-- The items of the pages from a client's place on, and the client after the last of them. -/
def readOut (request : Nat → Client → Option (Page Item Client)) :
    (fuel step : Nat) → Client → Option (List (List Item) × Client)
  | 0, _, _ => none
  | fuel + 1, step, client =>
    match request step client with
    | none => none
    | some page =>
      if page.more then
        (readOut request fuel (step + 1) page.client).map fun rest =>
          (page.items :: rest.1, rest.2)
      else some ([page.items], page.client)

/-- The page has the items from the given one on. At says where a client is, and Done what holds
of it after the last page. -/
structure PageOf (all : List Item) (At : Nat → Client → Prop) (Done : Client → Prop) (first : Nat)
    (page : Page Item Client) : Prop where
  items : page.items = (all.drop first).take page.items.length
  bound : first + page.items.length ≤ all.length
  more : page.more = decide (first + page.items.length < all.length)
  place : page.more = true → At (first + page.items.length) page.client
  done : page.more = false → Done page.client

variable {all : List Item} {At : Nat → Client → Prop} {Done : Client → Prop}
  {request : Nat → Client → Option (Page Item Client)}

theorem PageOf.all_of_last {first : Nat} {page : Page Item Client}
    (h : PageOf all At Done first page) (hlast : page.more = false) :
    page.items = all.drop first := by
  have hmore := h.more
  rw [hlast] at hmore
  have hend := of_decide_eq_false hmore.symm
  have hbound := h.bound
  have hlength : (all.drop first).length = page.items.length := by
    rw [List.length_drop]
    omega
  have hitems := h.items
  rw [← hlength, List.take_length] at hitems
  exact hitems

theorem PageOf.take_append_drop {first : Nat} {page : Page Item Client}
    (h : PageOf all At Done first page) :
    page.items ++ all.drop (first + page.items.length) = all.drop first := by
  calc page.items ++ all.drop (first + page.items.length)
      = (all.drop first).take page.items.length ++ (all.drop first).drop page.items.length := by
        rw [← h.items, List.drop_drop]
    _ = all.drop first := List.take_append_drop _ _

theorem readOut_complete
    (hpage : ∀ step first client, first ≤ all.length → At first client →
      ∃ page, request step client = some page ∧ PageOf all At Done first page ∧
        (page.more = true → page.items ≠ []))
    {fuel step first : Nat} {client : Client} (hfirst : first ≤ all.length) (hat : At first client)
    (hfuel : all.length - first < fuel) :
    ∃ pages client', readOut request fuel step client = some (pages, client') ∧
      pages.flatten = all.drop first ∧ Done client' := by
  induction fuel generalizing step first client with
  | zero => omega
  | succ fuel ih =>
    obtain ⟨page, hrequest, hof, hprogress⟩ := hpage step first client hfirst hat
    rw [readOut, hrequest]
    cases hmore : page.more with
    | true =>
      have hsome : 0 < page.items.length := List.length_pos_iff.mpr (hprogress hmore)
      have hbound := hof.bound
      obtain ⟨pages, client', hrest, hitems, hdone⟩ := @ih (step + 1) _ _ hbound
        (hof.place hmore) (by omega)
      refine ⟨page.items :: pages, client', ?_, ?_, hdone⟩
      · simp [hmore, hrest]
      · rw [List.flatten_cons, hitems]
        exact hof.take_append_drop
    | false =>
      refine ⟨[page.items], page.client, ?_, ?_, hof.done hmore⟩
      · simp [hmore]
      · simp [hof.all_of_last hmore]

theorem readOut_items
    (hpage : ∀ step first client page, first ≤ all.length → At first client →
      request step client = some page → PageOf all At Done first page)
    {fuel step first : Nat} {client client' : Client} {pages : List (List Item)}
    (hfirst : first ≤ all.length) (hat : At first client)
    (hread : readOut request fuel step client = some (pages, client')) :
    pages.flatten = all.drop first := by
  induction fuel generalizing step first client pages with
  | zero => cases hread
  | succ fuel ih =>
    rw [readOut] at hread
    cases hrequest : request step client with
    | none =>
      rw [hrequest] at hread
      cases hread
    | some page =>
      rw [hrequest] at hread
      have hof := hpage step first client page hfirst hat hrequest
      cases hmore : page.more with
      | true =>
        simp only [hmore, if_true, Option.map_eq_some_iff, Prod.mk.injEq] at hread
        obtain ⟨⟨rest, last⟩, hrest, rfl, rfl⟩ := hread
        rw [List.flatten_cons, ih hof.bound (hof.place hmore) hrest]
        exact hof.take_append_drop
      | false =>
        simp only [hmore, Bool.false_eq_true, if_false, Option.some.injEq, Prod.mk.injEq] at hread
        rw [← hread.1, List.flatten_cons, hof.all_of_last hmore]
        simp

theorem readOut_induction {Inv Post : Client → Prop}
    (hkept : ∀ step client page, Inv client → request step client = some page →
      page.more = true → Inv page.client)
    (hlast : ∀ step client page, Inv client → request step client = some page →
      page.more = false → Post page.client)
    {fuel step : Nat} {client client' : Client} {pages : List (List Item)} (h : Inv client)
    (hread : readOut request fuel step client = some (pages, client')) : Post client' := by
  induction fuel generalizing step client pages with
  | zero => cases hread
  | succ fuel ih =>
    rw [readOut] at hread
    cases hrequest : request step client with
    | none =>
      rw [hrequest] at hread
      cases hread
    | some page =>
      rw [hrequest] at hread
      cases hmore : page.more with
      | true =>
        simp only [hmore, if_true, Option.map_eq_some_iff, Prod.mk.injEq] at hread
        obtain ⟨⟨rest, last⟩, hrest, -, rfl⟩ := hread
        exact ih (hkept step client page h hrequest hmore) hrest
      | false =>
        simp only [hmore, Bool.false_eq_true, if_false, Option.some.injEq, Prod.mk.injEq] at hread
        rw [← hread.2]
        exact hlast step client page h hrequest hmore

section
variable {α : Type} (limit room : Nat) (cost : Nat → α → Nat)

/-- Fill a page with the items of a list, as long as they are not too many and there is room. The
cost of an item depends on how many there are before it. -/
def fill : (emitted used : Nat) → List α → List α
  | _, _, [] => []
  | emitted, used, a :: rest =>
    if limit ≤ emitted then []
    else if room < used + cost emitted a then []
    else a :: fill (emitted + 1) (used + cost emitted a) rest

def costFrom : (emitted : Nat) → List α → Nat
  | _, [] => 0
  | emitted, a :: rest => cost emitted a + costFrom (emitted + 1) rest

variable {limit room cost}

theorem fill_full {emitted : Nat} (h : limit ≤ emitted) (used : Nat) (l : List α) :
    fill limit room cost emitted used l = [] := by
  cases l with
  | nil => rfl
  | cons a l => rw [fill, if_pos h]

theorem fill_eq_take (emitted used : Nat) (l : List α) :
    fill limit room cost emitted used l = l.take (fill limit room cost emitted used l).length := by
  induction l generalizing emitted used with
  | nil => rfl
  | cons a l ih =>
    rw [fill]
    split
    · rfl
    · split
      · rfl
      · rw [List.length_cons, List.take_succ_cons, ← ih]

theorem mem_of_mem_fill {emitted used : Nat} {l : List α} {a : α}
    (h : a ∈ fill limit room cost emitted used l) : a ∈ l := by
  rw [fill_eq_take] at h
  exact List.mem_of_mem_take h

theorem fill_length_le (emitted used : Nat) (l : List α) :
    (fill limit room cost emitted used l).length ≤ l.length := by
  rw [fill_eq_take]
  exact List.length_take_le' _ _

theorem fill_cost {emitted used : Nat} (l : List α) (h : used ≤ room) :
    used + costFrom cost emitted (fill limit room cost emitted used l) ≤ room := by
  induction l generalizing emitted used with
  | nil => exact h
  | cons a l ih =>
    rw [fill]
    split
    · exact h
    · split
      · exact h
      · rename_i hroom
        have hrest := @ih (emitted + 1) (used + cost emitted a) (Nat.not_lt.mp hroom)
        rw [costFrom]
        omega

theorem fill_ne_nil {used : Nat} {a : α} {l : List α} (hlimit : 0 < limit)
    (hroom : used + cost 0 a ≤ room) : fill limit room cost 0 used (a :: l) ≠ [] := by
  rw [fill, if_neg (by omega), if_neg (by omega)]
  exact List.cons_ne_nil _ _

theorem fill_reached {emitted used i : Nat} {l : List α} {a : α} (ha : l[i]? = some a)
    (hreached : i < (fill limit room cost emitted used l).length) :
    used + costFrom cost emitted (l.take i) + cost (emitted + i) a ≤ room := by
  induction l generalizing emitted used i with
  | nil => cases ha
  | cons first l ih =>
    rw [fill] at hreached
    split at hreached
    · exact absurd hreached (Nat.not_lt_zero _)
    · split at hreached
      · exact absurd hreached (Nat.not_lt_zero _)
      · rename_i hroom
        cases i with
        | zero =>
          cases ha
          simpa [costFrom] using hroom
        | succ i =>
          have hrest := @ih (emitted + 1) (used + cost emitted first) i ha
            (Nat.lt_of_succ_lt_succ hreached)
          rw [List.take_succ_cons, costFrom]
          have hsame : emitted + (i + 1) = emitted + 1 + i := by omega
          rw [hsame]
          omega

end

end NodeNet.Paging
