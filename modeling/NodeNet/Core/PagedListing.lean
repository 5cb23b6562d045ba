import NodeNet.Core.PagedPages

/-! A client that reads page after page, and when it comes to an end. -/
namespace NodeNet.Core
open NodeNet.Points NodeNet.Catalog NodeNet.Json NodeNet.Paging NodeNet.FirstSeen

section
/-- The offset that is asked for next, and whether all responses were small enough to be sent. -/
structure PageClient where
  offset : UInt32
  fits : Bool

/-- The response to a request at some time and offset. -/
abbrev Responder := UInt32 → UInt32 → PointsResponse

/-- The offset grows by the number of items that were returned. -/
def pagedRequest (w : Writer) (respond : Responder) (times : Nat → UInt32) (step : Nat)
    (client : PageClient) : Option (Page ReadItem PageClient) :=
  let response := respond (times step) client.offset
  some
    { items := response.items
      more := response.hasMore
      client :=
        { offset := client.offset + .ofNat response.items.length
          fits := client.fits && measureJson w response.doc ≤ kMaxPayloadSize } }

/-- At whatever times the client asks, it comes to an end with the items, each once and in their
order, and no response was too large. -/
def ReadsOut (w : Writer) (respond : Responder) (items : List ReadItem) : Prop :=
  ∀ times, ∃ fuel pages client, readOut (pagedRequest w respond times) fuel 0 ⟨0, true⟩ =
    some (pages, client) ∧ pages.flatten = items ∧ client.fits = true

variable {α : Type} {w : Writer}

/-- A responder that fills its pages from a list. -/
structure FillsFrom (w : Writer) (respond : Responder) (all : List α) (item : α → ReadItem)
    (limit : Nat) (base : UInt32 → UInt32 → Nat) (cost : UInt32 → Nat → α → Nat) : Prop where
  few : all.length ≤ kMaxPoints
  items : ∀ now offset, (respond now offset).items =
    (fill limit pageRoom (cost now) 0 (base now offset) (all.drop offset.toNat)).map item
  more : ∀ now offset, (respond now offset).hasMore =
    moreAfter offset (respond now offset).items.length all.length
  empty : all = [] → ∀ now, measureJson w (respond now 0).doc = base now 0

variable {respond : Responder} {all : List α} {item : α → ReadItem} {limit : Nat}
  {base : UInt32 → UInt32 → Nat} {cost : UInt32 → Nat → α → Nat}

theorem moreAfter_eq {offset : UInt32} {count total : Nat} (htotal : total ≤ kMaxPoints)
    (hsum : offset.toNat + count ≤ total) :
    (offset + .ofNat count).toNat = offset.toNat + count ∧
      moreAfter offset count total = decide (offset.toNat + count < total) := by
  have hmax : kMaxPoints = 1024 := rfl
  have hnext : (offset + UInt32.ofNat count).toNat = offset.toNat + count := by
    rw [UInt32.toNat_add, UInt32.toNat_ofNat_of_lt' (by rw [UInt32.size]; omega)]
    exact Nat.mod_eq_of_lt (by omega)
  rw [moreAfter, hnext]
  exact ⟨rfl, rfl⟩

theorem FillsFrom.next (h : FillsFrom w respond all item limit base cost) (now : UInt32)
    {offset : UInt32} (hoffset : offset.toNat ≤ all.length) :
    (respond now offset).items =
        ((all.map item).drop offset.toNat).take (respond now offset).items.length ∧
      offset.toNat + (respond now offset).items.length ≤ all.length := by
  have hitems := h.items now offset
  have hprefix := @fill_eq_take _ limit pageRoom (cost now) 0 (base now offset)
    (all.drop offset.toNat)
  generalize fill limit pageRoom (cost now) 0 (base now offset) (all.drop offset.toNat) = page
    at hitems hprefix
  have hlength : page.length ≤ all.length - offset.toNat := by
    have hle := congrArg List.length hprefix
    rw [List.length_take, List.length_drop] at hle
    omega
  rw [hitems, List.length_map]
  refine ⟨?_, by omega⟩
  rw [← List.map_drop, ← List.map_take, ← hprefix]

theorem FillsFrom.pageOf (h : FillsFrom w respond all item limit base cost)
    {times : Nat → UInt32} {step first : Nat} {client : PageClient} {page : Page ReadItem PageClient}
    (hfirst : first ≤ (all.map item).length) (hat : client.offset.toNat = first)
    (hpage : pagedRequest w respond times step client = some page) :
    PageOf (all.map item) (fun first client => client.offset.toNat = first) (fun _ => True) first
      page := by
  subst hat
  cases hpage
  rw [List.length_map] at hfirst
  obtain ⟨hitems, hbound⟩ := h.next (times step) hfirst
  obtain ⟨hplace, hmore⟩ := moreAfter_eq h.few hbound
  rw [← h.more (times step) client.offset] at hmore
  exact
    { items := hitems
      bound := by rw [List.length_map]; exact hbound
      more := by rw [List.length_map]; exact hmore
      place := fun _ => hplace
      done := fun _ => trivial }

/-- The client comes to an end if every item fits a page that begins with it. -/
theorem FillsFrom.readsOut (h : FillsFrom w respond all item limit base cost)
    (hlimit : all ≠ [] → 0 < limit)
    (hempty : all = [] → ∀ now, base now 0 ≤ kMaxPayloadSize)
    (hfits : ∀ (now offset : UInt32) a, all[offset.toNat]? = some a →
      base now offset + cost now 0 a ≤ pageRoom)
    (hdoc : ∀ now offset, base now offset ≤ pageRoom → measureJson w (respond now offset).doc ≤
      kMaxPayloadSize) :
    ReadsOut w respond (all.map item) := by
  intro times
  have hpage : ∀ step first client, first ≤ (all.map item).length →
      (client.offset.toNat = first ∧ client.fits = true ∧ (first < all.length ∨ all = [])) →
      ∃ page, pagedRequest w respond times step client = some page ∧
        PageOf (all.map item) (fun first (client : PageClient) =>
          client.offset.toNat = first ∧ client.fits = true ∧ (first < all.length ∨ all = []))
          (fun client => client.fits = true) first page ∧
        (page.more = true → page.items ≠ []) := by
    rintro step first client hfirst ⟨hoffset, hfits', hnext⟩
    have hof := @FillsFrom.pageOf _ _ _ _ _ _ _ _ h times step _ client _ hfirst hoffset rfl
    subst hoffset
    rw [List.length_map] at hfirst
    have hsmall : measureJson w (respond (times step) client.offset).doc ≤ kMaxPayloadSize := by
      obtain hlt | hnone := hnext
      · have hroom := hfits (times step) client.offset _ (List.getElem?_eq_getElem hlt)
        exact hdoc _ _ (by omega)
      · subst hnone
        have hzero : client.offset = 0 := by
          rw [← UInt32.toNat_inj]
          exact Nat.le_zero.mp hfirst
        rw [hzero, h.empty rfl]
        exact hempty rfl _
    have hsent : (client.fits && measureJson w (respond (times step) client.offset).doc ≤
        kMaxPayloadSize) = true := by
      rw [hfits', Bool.true_and]
      exact decide_eq_true hsmall
    have hlt : (respond (times step) client.offset).hasMore = true → client.offset.toNat +
        (respond (times step) client.offset).items.length < all.length := by
      intro hmore
      have hdecide := hof.more.symm.trans hmore
      rw [decide_eq_true_eq, List.length_map] at hdecide
      exact hdecide
    refine ⟨_, rfl, ⟨hof.items, hof.bound, hof.more, fun hmore => ⟨hof.place hmore, hsent, ?_⟩,
      fun _ => hsent⟩, fun hmore => ?_⟩
    · exact .inl (hlt hmore)
    · have hmore' := hlt hmore
      have hinside : client.offset.toNat < all.length := by omega
      have hne : all ≠ [] := by
        rintro rfl
        simp at hinside
      change (respond (times step) client.offset).items ≠ []
      rw [h.items, List.drop_eq_getElem_cons hinside]
      intro hnil
      exact fill_ne_nil (hlimit hne)
        (hfits (times step) client.offset _ (List.getElem?_eq_getElem hinside))
        (List.map_eq_nil_iff.mp hnil)
  have hstart : (0 : Nat) < all.length ∨ all = [] := by
    cases all with
    | nil => exact .inr rfl
    | cons a all => exact .inl (Nat.succ_pos _)
  obtain ⟨pages, client, hread, hitems, hdone⟩ := @readOut_complete _ _ _ _ _ _ hpage
    ((all.map item).length + 1) 0 0 ⟨0, true⟩ (Nat.zero_le _) ⟨rfl, rfl, hstart⟩ (by omega)
  exact ⟨_, pages, client, hread, hitems, hdone⟩

theorem FillsFrom.eq_of_readsOut (h : FillsFrom w respond all item limit base cost)
    {items : List ReadItem} (hreads : ReadsOut w respond items) : items = all.map item := by
  obtain ⟨fuel, pages, client, hread, hitems, -⟩ := hreads fun _ => 0
  rw [← hitems]
  exact @readOut_items _ _ _ (fun first client => client.offset.toNat = first) (fun _ => True) _
    (fun _ _ _ _ => h.pageOf) _ _ 0 _ _ _ (Nat.zero_le _) rfl hread

theorem FillsFrom.empty_of_readsOut (h : FillsFrom w respond all item limit base cost)
    {items : List ReadItem} (hreads : ReadsOut w respond items) (hall : all = []) (now : UInt32) :
    base now 0 ≤ kMaxPayloadSize := by
  obtain ⟨fuel, pages, client, hread, -, hfits⟩ := hreads fun _ => now
  have hnone : (respond now 0).items.length = 0 := by
    have hbound := (@FillsFrom.next _ _ _ _ _ _ _ _ h now 0 (Nat.zero_le _)).2
    rw [hall, List.length_nil] at hbound
    omega
  have hmore : (respond now 0).hasMore = false := by
    rw [h.more, hnone, hall]
    rfl
  rw [← h.empty hall]
  exact @readOut_induction _ _ _ (fun client => client.offset = 0)
    (fun client => client.fits = true → measureJson w (respond now 0).doc ≤ kMaxPayloadSize)
    (fun _ client page hoffset hpage hmore' => by
      cases hpage
      rw [hoffset] at hmore'
      exact absurd (hmore'.symm.trans hmore) (by decide))
    (fun _ client page hoffset hpage _ hsent => by
      cases hpage
      rw [hoffset, Bool.and_eq_true, decide_eq_true_eq] at hsent
      exact hsent.2)
    _ _ _ _ _ rfl hread hfits

theorem FillsFrom.not_readsOut (h : FillsFrom w respond all item limit base cost) (now : UInt32)
    {i : Nat} (hi : i < all.length) (hblocked : ∀ offset : UInt32, offset.toNat ≤ i →
      measureJson w (respond now offset).doc ≤ kMaxPayloadSize →
      offset.toNat + (respond now offset).items.length ≤ i) (items : List ReadItem) :
    ¬ ReadsOut w respond items := by
  intro hreads
  obtain ⟨fuel, pages, client, hread, -, hfits⟩ := hreads fun _ => now
  have hfew := h.few
  have hstep : ∀ (client : PageClient) page,
      (client.fits = true → client.offset.toNat ≤ i) →
      pagedRequest w respond (fun _ => now) 0 client = some page →
      page.client.fits = true → page.client.offset.toNat ≤ i ∧ page.more = true := by
    rintro ⟨offset, fits⟩ page hinv hpage hnew
    cases hpage
    simp only [Bool.and_eq_true, decide_eq_true_eq] at hnew
    have hle := hinv hnew.1
    have hsum := hblocked offset hle hnew.2
    obtain ⟨hplace, hmore⟩ := moreAfter_eq hfew (Nat.le_trans hsum (Nat.le_of_lt hi))
    refine ⟨hplace ▸ hsum, ?_⟩
    change (respond now offset).hasMore = true
    rw [h.more, hmore, decide_eq_true_eq]
    omega
  have hend := @readOut_induction _ _ _ (fun client => client.fits = true → client.offset.toNat ≤ i)
    (fun client => client.fits = false)
    (fun _ client page hinv hpage _ hnew => (hstep client page hinv hpage hnew).1)
    (fun _ client page hinv hpage hlast => by
      cases hnew : page.client.fits with
      | false => rfl
      | true =>
        have hmore := (hstep client page hinv hpage hnew).2
        rw [hlast] at hmore
        cases hmore)
    _ _ _ _ _ (fun _ => Nat.zero_le _) hread
  rw [hfits] at hend
  cases hend

theorem FillsFrom.sent_of_readsOut (h : FillsFrom w respond all item limit base cost)
    {items : List ReadItem} (hreads : ReadsOut w respond items) (now : UInt32) {i : Nat}
    (hi : i < all.length) : ∃ offset : UInt32, offset.toNat ≤ i ∧
      measureJson w (respond now offset).doc ≤ kMaxPayloadSize ∧
      i < offset.toNat + (respond now offset).items.length := by
  refine Classical.byContradiction fun hnone => ?_
  refine h.not_readsOut now hi (fun offset hoffset hsmall => ?_) items hreads
  exact Nat.not_lt.mp fun hreached => hnone ⟨offset, hoffset, hsmall, hreached⟩

theorem FillsFrom.limit_of_readsOut (h : FillsFrom w respond all item limit base cost)
    {items : List ReadItem} (hreads : ReadsOut w respond items) (hall : all ≠ []) : 0 < limit := by
  obtain ⟨offset, hoffset, -, hreached⟩ :=
    h.sent_of_readsOut hreads 0 (List.length_pos_iff.mpr hall)
  refine Nat.lt_of_not_le fun hzero => ?_
  rw [h.items, fill_full (Nat.le_trans hzero (Nat.zero_le _))] at hreached
  simp only [List.map_nil, List.length_nil] at hreached
  omega

theorem FillsFrom.room_of_reached (h : FillsFrom w respond all item limit base cost) {now : UInt32}
    {offset : UInt32} {i : Nat} {a : α} (ha : all[i]? = some a) (hoffset : offset.toNat ≤ i)
    (hreached : i < offset.toNat + (respond now offset).items.length) :
    base now offset +
      costFrom (cost now) 0 ((all.drop offset.toNat).take (i - offset.toNat)) +
      cost now (i - offset.toNat) a ≤ pageRoom := by
  rw [h.items, List.length_map] at hreached
  have ha' : (all.drop offset.toNat)[i - offset.toNat]? = some a := by
    rw [List.getElem?_drop, ← ha]
    congr 1
    omega
  have hroom := fill_reached ha' (by omega :
    i - offset.toNat < (fill limit pageRoom (cost now) 0 (base now offset)
      (all.drop offset.toNat)).length)
  rwa [Nat.zero_add] at hroom

theorem FillsFrom.mem_of_reached (h : FillsFrom w respond all item limit base cost) {now : UInt32}
    {offset : UInt32} {i : Nat} {a : α} (ha : all[i]? = some a) (hoffset : offset.toNat ≤ i)
    (hreached : i < offset.toNat + (respond now offset).items.length) :
    a ∈ fill limit pageRoom (cost now) 0 (base now offset) (all.drop offset.toNat) := by
  rw [h.items, List.length_map] at hreached
  have hget := @List.getElem?_take_of_lt _ (all.drop offset.toNat) _ _ (by omega :
    i - offset.toNat < (fill limit pageRoom (cost now) 0 (base now offset)
      (all.drop offset.toNat)).length)
  have hplace : offset.toNat + (i - offset.toNat) = i := by omega
  rw [← fill_eq_take, List.getElem?_drop, hplace, ha] at hget
  exact List.mem_of_getElem? hget

/-- An item on a page would fit the page that begins with it as well, if an item before it takes
more than the larger offset. -/
theorem FillsFrom.fits_of_reached (h : FillsFrom w respond all item limit base cost) {now : UInt32}
    (hgrow : ∀ offset offset' : UInt32, offset'.toNat < all.length →
      base now offset' ≤ base now offset + 3)
    (hexchange : ∀ a ∈ all, ∀ x ∈ all, ∀ emitted,
      cost now 0 a + 3 ≤ cost now 0 x + cost now (emitted + 1) a)
    {offset place : UInt32} {a : α} (ha : all[place.toNat]? = some a)
    (hoffset : offset.toNat ≤ place.toNat)
    (hreached : place.toNat < offset.toNat + (respond now offset).items.length) :
    base now place + cost now 0 a ≤ pageRoom := by
  have hroom := h.room_of_reached ha hoffset hreached
  obtain ⟨hplace, hget⟩ := List.getElem?_eq_some_iff.mp ha
  cases hbefore : place.toNat - offset.toNat with
  | zero =>
    have hsame : offset = place := by
      rw [← UInt32.toNat_inj]
      omega
    rw [hbefore, List.take_zero, costFrom, hsame] at hroom
    exact hroom
  | succ emitted =>
    have hlt : offset.toNat < all.length := by omega
    rw [hbefore, List.drop_eq_getElem_cons hlt, List.take_succ_cons, costFrom] at hroom
    have hlarger := hgrow offset place hplace
    have hother := hexchange a (List.mem_of_getElem? ha) _ (List.getElem_mem hlt) emitted
    omega

end

/-! How large the documents of the pages are, and what the sizes of their items say about that. -/

section
variable {w : Writer}

section
variable (header : List (Text × Value)) (path kind arrayKey : Text)

/-- The document before its items and the two numbers are known. -/
def emptySize (w : Writer) (listing : PointListing) (offset : UInt32) : Nat :=
  measureJson w (responseDoc header listing path offset 0 0 false kind arrayKey [])

variable {header path kind arrayKey}

theorem responseDoc_le (listing : PointListing) (offset : UInt32) {count total cost : Nat}
    {items : List Value} (hcount : count ≤ kMaxPoints) (htotal : total ≤ kMaxPoints)
    (hitems : measureJson w (.array items) ≤ 2 + cost) (hasMore : Bool) :
    measureJson w (responseDoc header listing path offset count total hasMore kind arrayKey items) ≤
      emptySize header path kind arrayKey w listing offset + 6 + cost := by
  have hmax : kMaxPoints = 1024 := rfl
  obtain ⟨fixed, hsize⟩ := responseDoc_size w header listing.cmd path kind arrayKey
  have hnone : measureJson w (.array []) = 2 := by simp [measure_array, measureItems]
  rw [emptySize, hsize listing offset count total hasMore items rfl,
    hsize listing offset 0 0 false [] rfl, hnone]
  have hzero : decimalSize 0 = 1 := rfl
  have hcount' := decimalSize_le_four (by omega : count < 10000)
  have htotal' := decimalSize_le_four (by omega : total < 10000)
  have hflag : (if hasMore = true then 4 else 5) ≤ 5 := by
    split <;> omega
  rw [hzero, if_neg Bool.false_ne_true]
  omega

theorem responseDoc_small (listing : PointListing) (offset : UInt32) {count total cost : Nat}
    {items : List Value} (hcount : count ≤ kMaxPoints) (htotal : total ≤ kMaxPoints)
    (hitems : measureJson w (.array items) ≤ 2 + cost) (hasMore : Bool)
    (hroom : emptySize header path kind arrayKey w listing offset + cost ≤ pageRoom) :
    measureJson w (responseDoc header listing path offset count total hasMore kind arrayKey items) ≤
      kMaxPayloadSize := by
  have hmax : kMaxPayloadSize = 2048 := rfl
  have hpage : pageRoom = 1984 := rfl
  have hdoc := @responseDoc_le w header path kind arrayKey listing offset _ _ _ _ hcount htotal
    hitems hasMore
  omega

theorem array_le_responseDoc (listing : PointListing) (offset : UInt32) (count total : Nat)
    (hasMore : Bool) (items : List Value) : measureJson w (.array items) ≤
      measureJson w (responseDoc header listing path offset count total hasMore kind arrayKey
        items) := by
  obtain ⟨fixed, hsize⟩ := responseDoc_size w header listing.cmd path kind arrayKey
  rw [hsize listing offset count total hasMore items rfl]
  exact Nat.le_add_left _ _

theorem emptySize_le (listing : PointListing) (offset : UInt32) {offset' : UInt32}
    (h : offset'.toNat < kMaxPoints) : emptySize header path kind arrayKey w listing offset' ≤
      emptySize header path kind arrayKey w listing offset + 3 := by
  have hmax : kMaxPoints = 1024 := rfl
  obtain ⟨fixed, hsize⟩ := responseDoc_size w header listing.cmd path kind arrayKey
  rw [emptySize, emptySize, hsize listing offset' 0 0 false [] rfl,
    hsize listing offset 0 0 false [] rfl]
  have hpos := decimalSize_pos offset.toNat
  have hfour := decimalSize_le_four (by omega : offset'.toNat < 10000)
  omega

end

theorem measureItems_mem (w : Writer) {v : Value} {items : List Value} (h : v ∈ items) :
    measureJson w v ≤ measureItems w items - 1 := by
  induction items with
  | nil => cases h
  | cons first rest ih =>
    rw [measureItems]
    cases h with
    | head => omega
    | tail _ h =>
      have hrest := ih h
      omega

theorem item_le_array {v : Value} {items : List Value} (h : v ∈ items) :
    measureJson w v ≤ measureJson w (.array items) := by
  have hitem := measureItems_mem w h
  rw [measure_array]
  omega

def deviceEntrySize (deviceId : Text) (features : List Text) : Nat :=
  2 + jsonStringFieldSize (ascii "deviceId") deviceId +
    (1 + jsonFieldPrefixSize (ascii "features") + 2 + encodedSize features)

theorem measureDeviceBrowseEntry_eq {m : BrowseDeviceMeta} {features : List Text}
    (h : m.encodedFeaturesSize = .ofNat (encodedSize features))
    (hsize : encodedSize features < 65536) (deviceId : Text) :
    measureDeviceBrowseEntry m deviceId = deviceEntrySize deviceId features := by
  rw [measureDeviceBrowseEntry, h, UInt16.toNat_ofNat_of_lt' hsize]
  rfl

theorem two_le_measureDeviceBrowseEntry (m : BrowseDeviceMeta) (deviceId : Text) :
    2 ≤ measureDeviceBrowseEntry m deviceId := by
  rw [measureDeviceBrowseEntry]
  omega

theorem measureNames_le (hw : Reckoned w) (names : List Text) :
    measureItems w (names.map .text) ≤ listedSize names := by
  induction names with
  | nil => simp [measureItems, listedSize]
  | cons name names ih =>
    have hname := measure_text_le hw name
    rw [List.map_cons, measureItems, listedSize, escapedJsonStringLength_local]
    omega

theorem deviceValue_le (hw : Reckoned w) (deviceId : Text) (features : List Text) :
    measureJson w (deviceValue deviceId features) ≤ deviceEntrySize deviceId features := by
  have hnames := measureNames_le hw features
  have hfeatures : measureJson w (.array (features.map .text)) ≤ 2 + encodedSize features := by
    rw [measure_array, encodedSize]
    omega
  have h := members_le hw (ascii "deviceId") (by decide) (measure_text_le hw deviceId) <|
    members_le hw (ascii "features") (by decide) hfeatures (measureMembers_nil w)
  rw [deviceValue, measure_object, deviceEntrySize, jsonStringFieldSize]
  omega

theorem listedSize_le (hw : Reckoned w) (names : List Text) :
    listedSize names ≤ 6 * measureItems w (names.map .text) := by
  induction names with
  | nil => exact Nat.zero_le _
  | cons name names ih =>
    have hlong := hw.long name
    have hescaped := escapedJsonStringLength_le name
    rw [List.map_cons, measureItems, listedSize, escapedJsonStringLength_local,
      jsonStringValueSize, measureJson]
    omega

theorem encodedSize_le (hw : Reckoned w) (deviceId : Text) (features : List Text) :
    encodedSize features ≤ 6 * measureJson w (deviceValue deviceId features) := by
  have hnames := listedSize_le hw features
  rw [encodedSize, deviceValue, measure_object]
  simp only [measureMembers, measure_array]
  omega

theorem deviceItems_le {size : BrowseDeviceMeta → Nat} {value : BrowseDeviceMeta → Value}
    {page : List BrowseDeviceMeta} (h : ∀ m ∈ page, measureJson w (value m) ≤ size m) :
    measureJson w (.array (page.map value)) ≤ 2 + costFrom (deviceCost size) 0 page := by
  have hstep : ∀ emitted, measureItems w (page.map value) ≤
      (if emitted = 0 then 1 else 0) + costFrom (deviceCost size) emitted page := by
    induction page with
    | nil => exact fun emitted => Nat.zero_le _
    | cons m page ih =>
      intro emitted
      have hm := h m (.head _)
      have hrest := ih (fun m' hm' => h m' (.tail _ hm')) (emitted + 1)
      rw [if_neg (Nat.succ_ne_zero emitted)] at hrest
      rw [List.map_cons, measureItems, costFrom, deviceCost]
      split <;> omega
  have hitems := hstep 0
  rw [if_pos rfl] at hitems
  rw [measure_array]
  omega

theorem pointItems_le {listing : PointListing} {emitted : Nat} {page : List (Entry × Nat)}
    (h : ∀ p ∈ page, measureJson w (listing.serialize p.2 p.1) ≤ listing.measure p.2 p.1) :
    measureItems w (page.map fun p => listing.serialize p.2 p.1) ≤
      costFrom (pointExtraSize listing) (emitted + 1) page := by
  induction page generalizing emitted with
  | nil => exact Nat.zero_le _
  | cons p page ih =>
    have hp := h p (.head _)
    have hrest := @ih (emitted + 1) fun p' hp' => h p' (.tail _ hp')
    rw [List.map_cons, measureItems, costFrom, pointExtraSize, if_neg (Nat.succ_ne_zero _)]
    omega

theorem pointGroup_le (hw : Reckoned w) {listing : PointListing} (hkey : PlainKey listing.pointsKey)
    {page : List (Entry × Nat)}
    (h : ∀ p ∈ page, measureJson w (listing.serialize p.2 p.1) ≤ listing.measure p.2 p.1) :
    measureJson w (.array (pointGroup listing page)) ≤
      2 + costFrom (pointExtraSize listing) 0 page := by
  cases page with
  | nil => simp [pointGroup, measure_array, measureItems]
  | cons p page =>
    have hp := h p (.head _)
    have hrest := @pointItems_le w listing 0 page fun p' hp' => h p' (.tail _ hp')
    rw [Nat.zero_add] at hrest
    have hpoints : measureJson w (.array ((p :: page).map fun p => listing.serialize p.2 p.1)) ≤
        2 + listing.measure p.2 p.1 + costFrom (pointExtraSize listing) 1 page := by
      rw [measure_array, List.map_cons, measureItems]
      omega
    have hgroup := members_le hw (ascii "feature") (by decide)
      (measure_text_le hw p.1.definition.id.feature) <|
      members_le hw listing.pointsKey hkey hpoints (measureMembers_nil w)
    rw [pointGroup, measure_array, measureItems, measure_object, costFrom, pointExtraSize,
      if_pos rfl, measureFeaturePointsGroupEntry, jsonStringFieldSize, Nat.zero_add, measureItems]
    omega

end

/-! The two kinds of responses fill their pages from a list of devices or of points. -/

def askedDevices (entries : List Entry) (path : Text) : List Text :=
  if path = [] then catalogDevices entries else [path]

variable {entries : List Entry} {b : BrowseIndex} {path : Text}

theorem findBrowseDeviceIndex_get (h : BrowseOk entries entries b) (hpath : path ≠ [])
    (hmem : path ∈ catalogDevices entries) :
    ∃ m, b.devices[findBrowseDeviceIndex entries b path]? = some m ∧ deviceIdOf entries m = path := by
  have hids : ∀ m ∈ b.devices, (identityAt entries m.catalogIndex).map (·.deviceId) =
      some (deviceIdOf entries m) := by
    intro m hm
    rw [deviceIdOf, identityAt_eq (h.listed m hm).inside]
    rfl
  rw [findBrowseDeviceIndex, if_neg hpath]
  cases hfound : b.devices.findIdx? (fun m => decide
      ((identityAt entries m.catalogIndex).map (·.deviceId) = some path)) with
  | some device =>
    obtain ⟨hlt, hmatch, -⟩ := List.findIdx?_eq_some_iff_getElem.mp hfound
    have hid := of_decide_eq_true hmatch
    rw [hids _ (List.getElem_mem hlt), Option.some.injEq] at hid
    exact ⟨_, List.getElem?_eq_getElem hlt, hid⟩
  | none =>
    rw [← h.devices] at hmem
    obtain ⟨m, hm, hid⟩ := List.mem_map.mp hmem
    have hnot := List.findIdx?_eq_none_iff.mp hfound m hm
    rw [hids m hm, hid] at hnot
    simp at hnot

theorem listedDevices_ids (h : BrowseOk entries entries b)
    (hkind : path = [] ∨ classifyPointCatalogPath path (entries.map (·.definition)) = .Device) :
    (listedDevices entries b path).map (deviceIdOf entries) = askedDevices entries path := by
  rw [listedDevices, askedDevices]
  by_cases hpath : path = []
  · rw [if_pos hpath, if_pos hpath]
    exact h.devices
  · rw [if_neg hpath, if_neg hpath]
    obtain ⟨d, hd, hid⟩ := classify_device hpath (hkind.resolve_left hpath)
    have hmem : path ∈ catalogDevices entries := by
      obtain ⟨e, he, rfl⟩ := List.mem_map.mp hd
      rw [catalogDevices, mem_firstSeen, ← hid]
      exact List.mem_map_of_mem he
    obtain ⟨m, hget, hname⟩ := findBrowseDeviceIndex_get h hpath hmem
    obtain ⟨hlt, hvalue⟩ := List.getElem?_eq_some_iff.mp hget
    rw [List.drop_eq_getElem_cons hlt, List.take_succ_cons, List.take_zero, hvalue,
      List.map_singleton, hname]

theorem listedDevices_sub {m : BrowseDeviceMeta} (hm : m ∈ listedDevices entries b path) :
    m ∈ b.devices := by
  rw [listedDevices] at hm
  split at hm
  · exact hm
  · exact List.mem_of_mem_drop (List.mem_of_mem_take hm)

theorem listedDevices_few (h : BrowseOk entries entries b) :
    (listedDevices entries b path).length ≤ entries.length := by
  have hdevices := congrArg List.length h.devices
  have hfew := firstSeen_length_le (entries.map (·.definition.id.deviceId))
  rw [List.length_map] at hdevices hfew
  rw [catalogDevices] at hdevices
  rw [listedDevices]
  split
  · omega
  · rw [List.length_take, List.length_drop]
    omega

variable (w : Writer) (header : List (Text × Value)) (listing : UInt32 → PointListing)
  (limit : UInt32)

def deviceItem (entries : List Entry) (b : BrowseIndex) (m : BrowseDeviceMeta) : ReadItem :=
  .device (deviceIdOf entries m) (appendDeviceFeatures entries b m)

def deviceSize (entries : List Entry) (m : BrowseDeviceMeta) : Nat :=
  measureDeviceBrowseEntry m (deviceIdOf entries m)

def devicesBase (path : Text) (now offset : UInt32) : Nat :=
  emptySize header path (ascii "devices") (ascii "devices") w (listing now) offset

def pointsBase (path : Text) (now offset : UInt32) : Nat :=
  emptySize header path (ascii "points") (ascii "pointFeatures") w (listing now) offset

variable {w header listing limit}

theorem devices_fill (h : BrowseOk entries entries b) (hsize : entries.length ≤ kMaxPoints) :
    FillsFrom w (fun now offset =>
        deviceResponse w header entries b (listing now) path offset limit)
      (listedDevices entries b path) (deviceItem entries b) limit.toNat
      (devicesBase w header listing path) (fun _ => deviceCost (deviceSize entries)) where
  few := Nat.le_trans (listedDevices_few h) hsize
  items now offset := by
    rw [deviceResponse, devicePage_eq]
    rfl
  more now offset := by
    rw [deviceResponse, List.length_map]
  empty hall now := by
    rw [deviceResponse, hall, List.drop_nil]
    rfl

theorem deviceResponse_small (h : BrowseOk entries entries b) (hsize : entries.length ≤ kMaxPoints)
    (hvalues : ∀ m ∈ listedDevices entries b path, measureJson w (deviceValue (deviceIdOf entries m)
      (appendDeviceFeatures entries b m)) ≤ deviceSize entries m)
    {now offset : UInt32} (hbase : devicesBase w header listing path now offset ≤ pageRoom) :
    measureJson w (deviceResponse w header entries b (listing now) path offset limit).doc ≤
      kMaxPayloadSize := by
  have hcost := @fill_cost _ limit.toNat _ (deviceCost (deviceSize entries)) 0 _
    ((listedDevices entries b path).drop offset.toNat) hbase
  have hlength := @fill_length_le _ limit.toNat pageRoom (deviceCost (deviceSize entries)) 0
    (devicesBase w header listing path now offset)
    ((listedDevices entries b path).drop offset.toNat)
  have hmem := @mem_of_mem_fill _ limit.toNat pageRoom (deviceCost (deviceSize entries)) 0
    (devicesBase w header listing path now offset)
    ((listedDevices entries b path).drop offset.toNat)
  have hfew := @listedDevices_few entries b path h
  rw [deviceResponse, devicePage_eq]
  change measureJson w (responseDoc _ _ _ _ (fill limit.toNat pageRoom
    (deviceCost (deviceSize entries)) 0 (devicesBase w header listing path now offset) _).length
    _ _ _ _ (List.map _ (fill limit.toNat pageRoom (deviceCost (deviceSize entries)) 0
      (devicesBase w header listing path now offset) _))) ≤ _
  generalize fill limit.toNat pageRoom (deviceCost (deviceSize entries)) 0
    (devicesBase w header listing path now offset)
    ((listedDevices entries b path).drop offset.toNat) = page at hcost hlength hmem ⊢
  rw [List.length_drop] at hlength
  exact responseDoc_small _ _ (by omega) (Nat.le_trans hfew hsize)
    (deviceItems_le fun m hm => hvalues m (List.mem_of_mem_drop (hmem hm))) _ hcost

theorem listedPoints_length (isListed : PointDefinition → Bool) (entries : List Entry) (k : Nat) :
    (listedPoints isListed (entries.zipIdx k)).length =
      (entries.filter fun e => isListed e.definition).length := by
  induction entries generalizing k with
  | nil => rfl
  | cons e entries ih =>
    rw [List.zipIdx_cons, listedPoints, List.filter_cons, List.filter_cons]
    have hrest := ih (k + 1)
    rw [listedPoints] at hrest
    cases isListed e.definition with
    | false => exact hrest
    | true => exact congrArg Nat.succ hrest

theorem points_fill (hsize : entries.length ≤ kMaxPoints) (kind : PointPathMatchKind) :
    FillsFrom w (fun now offset =>
        pointResponse w header entries (listing now) path offset limit kind)
      (listedPoints (listsPoint path kind) entries.zipIdx) (fun p => .point p.2) limit.toNat
      (pointsBase w header listing path) (fun now => pointExtraSize (listing now)) where
  few := by
    rw [listedPoints_length]
    exact Nat.le_trans (List.length_filter_le _ _) hsize
  items now offset := by
    rw [pointResponse, pointPage_eq]
    rfl
  more now offset := by
    rw [pointResponse, List.length_map, listedPoints_length]
  empty hall now := by
    have hcount := listedPoints_length (listsPoint path kind) entries 0
    rw [hall, List.length_nil] at hcount
    rw [pointResponse, pointPage_eq, hall, List.drop_nil, ← hcount]
    rfl

theorem pointResponse_small (hw : Reckoned w) (hsize : entries.length ≤ kMaxPoints)
    (kind : PointPathMatchKind) {now offset : UInt32} (hkey : PlainKey (listing now).pointsKey)
    (hvalues : ∀ p : Entry × Nat,
      measureJson w ((listing now).serialize p.2 p.1) ≤ (listing now).measure p.2 p.1)
    (hbase : pointsBase w header listing path now offset ≤ pageRoom) :
    measureJson w (pointResponse w header entries (listing now) path offset limit kind).doc ≤
      kMaxPayloadSize := by
  have hcost := @fill_cost _ limit.toNat _ (pointExtraSize (listing now)) 0 _
    ((listedPoints (listsPoint path kind) entries.zipIdx).drop offset.toNat) hbase
  have hlength := @fill_length_le _ limit.toNat pageRoom (pointExtraSize (listing now)) 0
    (pointsBase w header listing path now offset)
    ((listedPoints (listsPoint path kind) entries.zipIdx).drop offset.toNat)
  have htotal := List.length_filter_le (fun e => listsPoint path kind e.definition) entries
  rw [List.length_drop, listedPoints_length] at hlength
  rw [pointResponse, pointPage_eq]
  change measureJson w (responseDoc _ _ _ _ (fill limit.toNat pageRoom
    (pointExtraSize (listing now)) 0 (pointsBase w header listing path now offset) _).length
    _ _ _ _ (pointGroup _ (fill limit.toNat pageRoom (pointExtraSize (listing now)) 0
      (pointsBase w header listing path now offset) _))) ≤ _
  rw [Nat.sub_zero]
  generalize fill limit.toNat pageRoom (pointExtraSize (listing now)) 0
    (pointsBase w header listing path now offset)
    ((listedPoints (listsPoint path kind) entries.zipIdx).drop offset.toNat) = page
    at hcost hlength ⊢
  exact responseDoc_small _ _ (by omega) (Nat.le_trans htotal hsize)
    (pointGroup_le hw hkey fun p _ => hvalues p) _ hcost

end NodeNet.Core
