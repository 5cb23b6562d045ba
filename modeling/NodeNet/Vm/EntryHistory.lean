import NodeNet.Vm.EntryProgress

/-! Histories of the instructions on one entry of one slot, with what the machine does in
between. -/
namespace NodeNet.Vm
open NodeNet.Bitmap NodeNet.Machine

/-- The memory and the address register `timer_entry_base_addr` as the machine has them, and the
events so far, the latest first. -/
structure EntryHistory (α : Type) where
  memory : Words
  prepared : UInt32
  events : List α

/-- An instruction on the entry; or what the machine does in between, for other entries and other
slots, which leaves a memory and an address. -/
inductive EntryAct where
  | own (e : EntryEvaluation)
  | between (memory : Words) (prepared : UInt32)

def EntryEvaluation.writing (f : EntryFamily) (e : EntryEvaluation) (m : Words) : WbPlc :=
  e.latched f m (e.result f m).readTime

def EntryEvaluation.input (e : EntryEvaluation) : Bool := e.vm.data.stack.top.value32 &&& 1 ≠ 0

namespace EntryHistory
variable {α : Type}

/-- The instruction is carried out; its event, if it is one, is noted. -/
def evaluate (f : EntryFamily) (event : EntryEvaluation → EntryRun → Option α) (p : EntryHistory α)
    (e : EntryEvaluation) : EntryHistory α :=
  let r := e.result f p.memory
  ⟨r.memory, r.vm.data.timerEntryBaseAddr, (event e r).toList ++ p.events⟩

def next (f : EntryFamily) (event : EntryEvaluation → EntryRun → Option α) (p : EntryHistory α) :
    EntryAct → EntryHistory α
  | .own e => evaluate f event p e
  | .between memory prepared => ⟨memory, prepared, p.events⟩

/-- The entry that the instructions are about. -/
structure Site where
  timerBase : UInt32
  index : UInt16

def Site.addr (site : Site) : UInt32 := timerEntryAddr site.timerBase site.index

def Site.place0 (site : Site) : Nat := wordAddr site.addr

def Site.place1 (site : Site) : Nat := wordAddr (site.addr + 4)

def Site.place2 (site : Site) : Nat := wordAddr (site.addr + 8)

/-- The three words of the entry are the same. -/
structure Spares (site : Site) (m m' : Words) : Prop where
  word0 : m' site.place0 = m site.place0
  word1 : m' site.place1 = m site.place1
  word2 : m' site.place2 = m site.place2

/-- The next instruction on the entry; one that does not prepare the address has the register as
it stands, and the first instruction is one that does. -/
structure OnEntry (f : EntryFamily) (prepares : UInt8 → Bool) (site : Site) (p : EntryHistory α)
    (e : EntryEvaluation) : Prop where
  accepted : e.Accepted f p.memory
  timerBase : e.vm.cb.timerBase = site.timerBase
  index : e.vm.currentRuntimeIndex = site.index
  state : e.vm.state = if prepares e.vm.currentOpcode then f.prepStart else f.readWord0
  kept : prepares e.vm.currentOpcode = false → e.vm.data.timerEntryBaseAddr = p.prepared
  first : p.events = [] → prepares e.vm.currentOpcode = true

/-- The address register holds the entry's address when an instruction comes that does not prepare
it. -/
def AtEntry (prepares : UInt8 → Bool) (site : Site) (p : EntryHistory α) (e : EntryEvaluation) :
    Prop :=
  prepares e.vm.currentOpcode = false → p.prepared = site.addr

instance (prepares : UInt8 → Bool) (site : Site) (p : EntryHistory α) (e : EntryEvaluation) :
    Decidable (AtEntry prepares site p e) :=
  inferInstanceAs (Decidable (_ → _))

/-- An instruction on the entry meets the rule, and nothing else writes the entry. -/
def Each (site : Site) (rule : EntryHistory α → EntryEvaluation → Prop) (p : EntryHistory α) :
    EntryAct → Prop
  | .own e => rule p e
  | .between memory _ => Spares site p.memory memory

/-- The instructions on the entry do what follows. -/
def Shown (follows : EntryHistory α → EntryEvaluation → Prop) (p : EntryHistory α) :
    EntryAct → Prop
  | .own e => follows p e
  | .between _ _ => True

theorem shown_of_each {f : EntryFamily} {event : EntryEvaluation → EntryRun → Option α}
    {site : Site} {rule follows : EntryHistory α → EntryEvaluation → Prop}
    (Inv : EntryHistory α → Prop) (hown : ∀ p e, Inv p → rule p e → Inv (evaluate f event p e))
    (hbetween : ∀ p memory prepared, Inv p → Spares site p.memory memory →
      Inv ⟨memory, prepared, p.events⟩)
    (hfollows : ∀ p e, Inv p → rule p e → follows p e) {p : EntryHistory α} {acts : List EntryAct}
    (hp : Inv p) (h : Along (next f event) (Each site rule) p acts) :
    Along (next f event) (Shown follows) p acts := by
  refine along_of_inv Inv ?_ ?_ hp h
  · intro p act hinv hact
    cases act with
    | own e => exact hown p e hinv hact
    | between memory prepared => exact hbetween p memory prepared hinv hact
  · intro p act hinv hact
    cases act with
    | own e => exact hfollows p e hinv hact
    | between memory prepared => trivial

variable {f : EntryFamily} {prepares : UInt8 → Bool} {site : Site} {p : EntryHistory α}
  {e : EntryEvaluation}

theorem OnEntry.entered_of_prepares (h : OnEntry f prepares site p e)
    (hprepares : prepares e.vm.currentOpcode = true) :
    (e.entered f).pendingStackValue = e.vm.data.stack.top.value32 ∧
      (e.entered f).stack = e.vm.data.stack.drop1 := by
  have hstate := h.state
  rw [if_pos hprepares] at hstate
  simp [EntryEvaluation.entered, hstate]

theorem OnEntry.entered_of_not (hf : f.Executes) (h : OnEntry f prepares site p e)
    (hprepares : prepares e.vm.currentOpcode = false) : e.entered f = e.vm.data := by
  have hne : f.readWord0 ≠ f.prepStart := by
    have hnodup := hf.nodup
    simp only [EntryFamily.states, List.nodup_cons, List.mem_cons, not_or] at hnodup
    exact fun h => hnodup.1.1 h.symm
  have hstate := h.state
  rw [if_neg (Bool.eq_false_iff.mp hprepares)] at hstate
  simp [EntryEvaluation.entered, hstate, hne]

theorem OnEntry.addr (hf : f.Executes) (h : OnEntry f prepares site p e)
    (hp : AtEntry prepares site p e) : e.addr f = site.addr := by
  cases hprepares : prepares e.vm.currentOpcode with
  | true =>
    have hstate := h.state
    rw [if_pos hprepares] at hstate
    simp [EntryEvaluation.addr, EntryEvaluation.entered, hstate, h.timerBase, h.index, Site.addr]
  | false =>
    rw [EntryEvaluation.addr, h.entered_of_not hf hprepares, h.kept hprepares, hp hprepares]

theorem OnEntry.places (hf : f.Executes) (h : OnEntry f prepares site p e)
    (hp : AtEntry prepares site p e) :
    e.place0 f = site.place0 ∧ e.place1 f = site.place1 ∧ e.place2 f = site.place2 := by
  simp only [EntryEvaluation.place0, EntryEvaluation.place1, EntryEvaluation.place2,
    h.addr hf hp]
  exact ⟨rfl, rfl, rfl⟩

theorem OnEntry.loaded (hf : f.Executes) (h : OnEntry f prepares site p e)
    (hp : AtEntry prepares site p e) :
    e.loaded f p.memory =
      { e.vm with
        data := { e.entered f with
          valueWord0 := p.memory site.place0
          valueWord1 := p.memory site.place1 } } := by
  obtain ⟨h0, h1, -⟩ := h.places hf hp
  rw [EntryEvaluation.loaded, h0, h1]

theorem OnEntry.writing_data (hf : f.Executes) (h : OnEntry f prepares site p e)
    (hp : AtEntry prepares site p e) :
    (e.writing f p.memory).data =
      f.latch (UInt32.ofNat (e.result f p.memory).readTime)
        { e.vm with
          data := { e.entered f with
            valueWord0 := p.memory site.place0
            valueWord1 := p.memory site.place1 } }
        (p.memory site.place2) := by
  rw [← h.loaded hf hp, ← (h.places hf hp).2.2]
  rfl

theorem OnEntry.pushed (hf : f.Executes) (h : OnEntry f prepares site p e) {o : Operand}
    (hreading : e.reading f p.memory (e.result f p.memory).readTime = some o) :
    (e.result f p.memory).memory = p.memory ∧
      (e.result f p.memory).vm.data.stack = (e.entered f).stack.push o.value32 o.type := by
  obtain ⟨o', ho, hmem, hstack⟩ | ⟨hnone, -⟩ := (h.accepted.completed hf).outcome
  · obtain rfl := Option.some.inj (ho.symm.trans hreading)
    exact ⟨hmem, hstack⟩
  · cases hnone.symm.trans hreading

theorem OnEntry.wrote (hf : f.Executes) (h : OnEntry f prepares site p e)
    (hp : AtEntry prepares site p e)
    (hreading : e.reading f p.memory (e.result f p.memory).readTime = none) :
    (e.result f p.memory).memory site.place0 =
        f.word0 (UInt32.ofNat (e.result f p.memory).latchTime) (e.writing f p.memory) ∧
      (e.result f p.memory).memory site.place1 = f.word1 (e.writing f p.memory) ∧
      (e.result f p.memory).memory site.place2 = f.flags (e.writing f p.memory) := by
  obtain ⟨h0, h1, h2⟩ := h.places hf hp
  obtain ⟨o', ho, -⟩ | ⟨-, hmem, -⟩ := (h.accepted.completed hf).outcome
  · cases hreading.symm.trans ho
  · rw [hmem, ← h0, ← h1, ← h2]
    exact EntryEvaluation.written_words f e p.memory _ _

end EntryHistory

/-- An instruction on an entry of a table of two at 16 that the bus answers at once, at the time. -/
def promptEntry (state : State) (index : UInt16) (opcode : UInt8) (immediate : UInt32)
    (stack : Stack) (time : Nat) : EntryEvaluation where
  vm :=
    { WbPlc.reset 0 0 with
      state := state
      cb := ⟨0, 0, 0, 0, 0, 0, 16, 2, 0, 0⟩
      currentRuntimeIndex := index
      currentOpcode := opcode
      currentImmediateU32 := immediate
      data := { (WbPlc.reset 0 0).data with timerEntryBaseAddr := 16, stack := stack } }
  ticks := List.replicate 13 (time, { quietIn with ack := true })

def firstSite : EntryHistory.Site := ⟨16, 0⟩

def EntryHistory.other {α : Type} (f : EntryFamily) (p : EntryHistory α) (e : EntryEvaluation) :
    EntryAct :=
  .between (e.result f p.memory).memory (e.result f p.memory).vm.data.timerEntryBaseAddr

/-- The same instruction with the address in the register. -/
def EntryEvaluation.addressed (e : EntryEvaluation) (addr : UInt32) : EntryEvaluation :=
  { e with vm := { e.vm with data := { e.vm.data with timerEntryBaseAddr := addr } } }

end NodeNet.Vm
