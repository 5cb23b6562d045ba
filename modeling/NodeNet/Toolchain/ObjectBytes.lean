import NodeNet.Lib.Checks
import NodeNet.ObjectFile
import NodeNet.Toolchain.Assembler

/-! What the assembler's symbol table holds after any source it accepts. -/
namespace NodeNet.Toolchain
open NodeNet.Bytes NodeNet.Chars NodeNet.Checks NodeNet.ObjectFile

theorem map_eq_ok {ε α β : Type} {x : Except ε α} {f : α → β} {r : β} (h : x.map f = .ok r) :
    ∃ a, x = .ok a ∧ f a = r := by
  cases x with
  | error e => cases h
  | ok a => exact ⟨a, rfl, Except.ok.inj h⟩

theorem bind_ok {ε α β : Type} {x : Except ε α} {f : α → Except ε β} {r : β}
    (h : x.bind f = .ok r) : ∃ a, x = .ok a ∧ f a = .ok r := bind_eq_ok.mp h

theorem eq_ok_of_toOption {ε α : Type} {x : Except ε α} {a : α} (h : x.toOption = some a) :
    x = .ok a := by
  cases x with
  | error e => cases h
  | ok b => exact congrArg _ (Option.some.inj h)

/-- A slot variable has a type and a name that is not reserved. -/
def VariableOk (s : PlcAssemblySymbol) : Prop :=
  s.kind = .SlotVar → s.name ∉ reservedSlotVariableNames ∧ s.expectedType.isSome = true

/-- The symbols of an assembly: each name once, and each variable declared as it may be. -/
structure SymbolsOk (symbols : List PlcAssemblySymbol) : Prop where
  distinct : (symbols.map (·.name)).Nodup
  declared : ∀ s ∈ symbols, VariableOk s
  count : symbols.length ≤ 65535

variable {a a' : Assembly} {lineNumber : Nat} {s : PlcAssemblySymbol}

theorem addSymbol_cases (h : addSymbol a lineNumber s = .ok a') :
    a' = { a with symbols := a.symbols ++ [s] } ∧ s.name ∉ a.symbols.map (·.name) ∧
      a.symbols.length < 65535 := by
  unfold addSymbol at h
  obtain ⟨-, h⟩ := ite_error_eq_ok.mp h
  obtain ⟨hnew, h⟩ := ite_error_eq_ok.mp h
  obtain ⟨hcount, h⟩ := ite_error_eq_ok.mp h
  refine ⟨(Except.ok.inj h).symm, ?_, by omega⟩
  intro hmem
  obtain ⟨t, ht, hname⟩ := List.mem_map.mp hmem
  refine hnew ?_
  rw [Assembly.symbolIndex, List.findIdx?_isSome, List.any_eq_true]
  exact ⟨t, ht, by simpa using hname⟩

theorem addSymbol_ok (h : addSymbol a lineNumber s = .ok a') (hs : VariableOk s)
    (ha : SymbolsOk a.symbols) : SymbolsOk a'.symbols := by
  obtain ⟨rfl, hnew, hcount⟩ := addSymbol_cases h
  refine ⟨?_, ?_, ?_⟩
  · rw [List.map_append, List.nodup_append]
    refine ⟨ha.distinct, by simp, ?_⟩
    intro n hn m hm
    rw [List.map_singleton, List.mem_singleton] at hm
    subst hm
    exact fun heq => hnew (heq ▸ hn)
  · intro t ht
    cases List.mem_append.mp ht with
    | inl ht => exact ha.declared t ht
    | inr ht => exact List.mem_singleton.mp ht ▸ hs
  · rw [List.length_append, List.length_singleton]
    omega

theorem applySymbolUsageType_cases {used : PlcAssemblySymbol} {t : PlcValueType}
    (h : applySymbolUsageType s t lineNumber = .ok used) :
    (s.expectedType = none ∨ s.expectedType = some t) ∧
      used = { s with expectedType := some t } := by
  unfold applySymbolUsageType at h
  cases htype : s.expectedType with
  | none =>
    rw [htype] at h
    exact ⟨.inl rfl, (Except.ok.inj h).symm⟩
  | some declared =>
    rw [htype] at h
    by_cases hsame : declared = t
    · subst hsame
      refine ⟨.inr rfl, ?_⟩
      rw [← htype]
      exact (Except.ok.inj ((if_pos rfl).symm.trans h)).symm
    · simp [hsame, fail] at h

theorem findSymbol_cases {name : CodeUnits} {i : Nat} (h : a.findSymbol name = some (i, s)) :
    a.symbols[i]? = some s ∧ s.name = name := by
  unfold Assembly.findSymbol at h
  cases hi : a.symbolIndex name with
  | none =>
    rw [hi] at h
    cases h
  | some j =>
    rw [hi] at h
    obtain ⟨t, ht, hpair⟩ := Option.map_eq_some_iff.mp h
    cases hpair
    obtain ⟨hlt, hname, -⟩ := List.findIdx?_eq_some_iff_getElem.mp hi
    rw [List.getElem?_eq_getElem hlt] at ht
    cases ht
    exact ⟨List.getElem?_eq_getElem hlt, by simpa using hname⟩

theorem writeRelocatedSymbol_cases {name : CodeUnits} {t : PlcValueType}
    {access : PlcRuntimeLinkAccess}
    {kind : PlcObjectRelocationKind}
    (h : writeRelocatedSymbol a lineNumber name t access kind = .ok a') :
    ∃ i s, a.findSymbol name = some (i, s) ∧
      (s.expectedType = none ∨ s.expectedType = some t) ∧
      a' = Assembly.write { a with
        symbols := a.symbols.set i
          { s with expectedType := some t, access := mergeAccess s.access access }
        relocations := a.relocations ++ [⟨a.codeBytes.length, i, kind⟩] } kind.operand := by
  unfold writeRelocatedSymbol at h
  cases hfind : a.findSymbol name with
  | none =>
    rw [hfind] at h
    cases h
  | some found =>
    rw [hfind] at h
    obtain ⟨used, hused, ha⟩ := map_eq_ok h
    obtain ⟨htype, rfl⟩ := applySymbolUsageType_cases hused
    exact ⟨found.1, found.2, rfl, htype, ha.symm⟩

theorem set_ok {symbols : List PlcAssemblySymbol} (h : SymbolsOk symbols) {i : Nat}
    {s' : PlcAssemblySymbol} (hi : symbols[i]? = some s) (hname : s'.name = s.name)
    (hok : VariableOk s') : SymbolsOk (symbols.set i s') := by
  have hnames : (symbols.set i s').map (·.name) = symbols.map (·.name) := by
    obtain ⟨hlt, rfl⟩ := List.getElem?_eq_some_iff.mp hi
    have hself := @List.set_getElem_self _ (symbols.map (·.name)) i (by simpa using hlt)
    rw [List.getElem_map] at hself
    rw [List.map_set, hname, hself]
  refine ⟨hnames ▸ h.distinct, ?_, by rw [List.length_set]; exact h.count⟩
  intro t ht
  cases List.mem_or_eq_of_mem_set ht with
  | inl ht => exact h.declared t ht
  | inr ht => exact ht ▸ hok

theorem writeRelocatedSymbol_ok {name : CodeUnits} {t : PlcValueType}
    {access : PlcRuntimeLinkAccess}
    {kind : PlcObjectRelocationKind}
    (h : writeRelocatedSymbol a lineNumber name t access kind = .ok a') (ha : SymbolsOk a.symbols) :
    SymbolsOk a'.symbols := by
  obtain ⟨i, s, hfind, -, rfl⟩ := writeRelocatedSymbol_cases h
  obtain ⟨hi, -⟩ := findSymbol_cases hfind
  refine set_ok ha hi rfl ?_
  intro hkind
  exact ⟨(ha.declared s (List.mem_of_getElem? hi) hkind).1, rfl⟩

theorem declareVariable_ok {priv : Bool} {typeToken name : CodeUnits}
    (h : declareVariable a lineNumber priv typeToken name = .ok a') (ha : SymbolsOk a.symbols) :
    SymbolsOk a'.symbols := by
  obtain ⟨valueType, -, h⟩ := bind_ok h
  obtain ⟨hname, h⟩ := ite_error_eq_ok.mp h
  refine addSymbol_ok h ?_ ha
  intro _
  exact ⟨by simpa using hname, rfl⟩

theorem pointSymbol_ok (name path : CodeUnits) {kind : PlcObjectSymbolKind}
    (hkind : kind ≠ .SlotVar) :
    VariableOk (pointSymbol name path kind) := fun h => absurd h hkind

variable {operands : List CodeUnits}

theorem parseConstPointDeclaration_ok
    (h : parseConstPointDeclaration a lineNumber operands = .ok a') (ha : SymbolsOk a.symbols) :
    SymbolsOk a'.symbols := by
  unfold parseConstPointDeclaration at h
  split at h
  · split at h
    · exact addSymbol_ok h (pointSymbol_ok _ _ (by decide)) ha
    · cases h
  · cases h

variable {options : PlcObjectFileOptions}

theorem parseParamPointDeclaration_ok
    (h : parseParamPointDeclaration options a lineNumber operands = .ok a')
    (ha : SymbolsOk a.symbols) : SymbolsOk a'.symbols := by
  unfold parseParamPointDeclaration at h
  split at h
  · split at h
    · split at h
      · cases h
      · exact addSymbol_ok h (pointSymbol_ok _ _ (by decide)) ha
    · cases h
  · cases h

theorem parseVarDeclaration_ok (h : parseVarDeclaration a lineNumber operands = .ok a')
    (ha : SymbolsOk a.symbols) : SymbolsOk a'.symbols := by
  unfold parseVarDeclaration at h
  split at h
  · exact declareVariable_ok h ha
  · split at h
    · exact declareVariable_ok h ha
    · split at h
      · exact declareVariable_ok h ha
      · cases h
  · cases h

variable {platform : Platform} {labels : Labels}

theorem writeOperands_cases {operands : Operands} {first second : CodeUnits}
    (h : writeOperands platform labels a lineNumber operands first second = .ok a') :
    (∃ bytes, a' = a.write bytes) ∨
      ∃ t access kind, writeRelocatedSymbol a lineNumber first t access kind = .ok a' := by
  cases operands with
  | none =>
    cases h
    exact .inl ⟨[], by simp [Assembly.write]⟩
  | symbol t access kind => exact .inr ⟨t, access, kind, h⟩
  | int16 | uint32 | int32 | float32 | branch | index =>
    obtain ⟨v, -, rfl⟩ := map_eq_ok h
    exact .inl ⟨_, rfl⟩
  | timerStart | counterCount =>
    obtain ⟨v, -, h⟩ := bind_ok h
    obtain ⟨w, -, rfl⟩ := map_eq_ok h
    exact .inl ⟨_, rfl⟩

theorem emitInstruction_ok {mnemonic : CodeUnits}
    (h : emitInstruction platform labels a lineNumber mnemonic operands = .ok a')
    (ha : SymbolsOk a.symbols) : SymbolsOk a'.symbols := by
  unfold emitInstruction at h
  split at h
  · obtain ⟨-, h⟩ := ite_error_eq_ok.mp h
    obtain ⟨bytes, rfl⟩ | ⟨t, access, kind, h⟩ := writeOperands_cases h
    · exact ha
    · exact writeRelocatedSymbol_ok h ha
  · cases h

theorem emitLine_ok {line : ParsedSourceLine} (h : emitLine platform options labels a line = .ok a')
    (ha : SymbolsOk a.symbols) : SymbolsOk a'.symbols := by
  unfold emitLine at h
  split at h
  · cases h
    exact ha
  · simp only at h
    split at h
    · exact parseConstPointDeclaration_ok h ha
    split at h
    · exact parseParamPointDeclaration_ok h ha
    split at h
    · exact parseVarDeclaration_ok h ha
    split at h
    · obtain ⟨-, h⟩ := ite_error_eq_ok.mp h
      obtain ⟨bytes, -, rfl⟩ := map_eq_ok h
      exact ha
    · exact emitInstruction_ok h ha

theorem emitLines_ok {lines : List ParsedSourceLine}
    (h : emitLines platform options labels a lines = .ok a') (ha : SymbolsOk a.symbols) :
    SymbolsOk a'.symbols := by
  induction lines generalizing a with
  | nil =>
    cases h
    exact ha
  | cons line lines ih =>
    obtain ⟨next, hline, hrest⟩ := bind_ok h
    exact ih hrest (emitLine_ok hline ha)

theorem assemble_symbolsOk {source : CodeUnits} {result : PlcAssemblyResult}
    (h : assemble platform source options = .ok result) : SymbolsOk result.symbols := by
  obtain ⟨lines, -, h⟩ := bind_ok h
  obtain ⟨labels, -, h⟩ := bind_ok h
  exact emitLines_ok h ⟨by simp, by simp, by simp⟩

/-! The firmware's reading of the symbol records that the toolchain wrote. -/

theorem bytesAt_part {m : Memory} {before part after : List UInt8}
    (h : bytesAt m 0 (before ++ (part ++ after)).length = before ++ (part ++ after)) :
    bytesAt m (UInt32.ofNat before.length) part.length = part := by
  rw [List.length_append, bytesAt_append, List.length_append, bytesAt_append,
    UInt32.zero_add] at h
  obtain ⟨-, h⟩ := List.append_inj h (bytesAt_length ..)
  exact (List.append_inj h (bytesAt_length ..)).1

theorem bytesAt_ofBytes {bytes : List UInt8} (h : bytes.length < 4294967296) :
    bytesAt (ofBytes bytes) 0 bytes.length = bytes := by
  refine List.ext_getElem? fun k => ?_
  by_cases hk : k < bytes.length
  · rw [bytesAt_getElem? _ _ _ _ hk, ofBytes, UInt32.zero_add, UInt32.toNat_ofNat',
      Nat.mod_eq_of_lt (by omega), List.getD_eq_getElem?_getD, List.getElem?_eq_getElem hk]
    rfl
  · rw [List.getElem?_eq_none (by simpa using hk), List.getElem?_eq_none (by omega)]

variable {assembly : PlcAssemblyResult}

theorem build_cases {file : List UInt8} (h : build assembly options = .ok file) :
    ∃ records, writeSymbols assembly.symbols = .ok records ∧
      totalSize assembly < 2147483648 ∧
      file = headerOf assembly options (Fnv.hash (payloadOf assembly records)) ++
        payloadOf assembly records := by
  unfold build at h
  obtain ⟨-, h⟩ := ite_error_eq_ok.mp h
  obtain ⟨hsize, h⟩ := ite_error_eq_ok.mp h
  obtain ⟨records, hrecords, rfl⟩ := map_eq_ok h
  exact ⟨records, hrecords, by omega, rfl⟩

theorem headerOf_length (assembly : PlcAssemblyResult) (options : PlcObjectFileOptions)
    (checksum : UInt32) : (headerOf assembly options checksum).length = objectFileHeaderSize := by
  simp [headerOf, le16, le32, objectFileHeaderSize]

theorem writeFixedAscii_cases {value : CodeUnits} {capacity : Nat} {field : List UInt8}
    (h : writeFixedAscii value capacity = .ok field) :
    value.length < capacity ∧
      field = asciiBytes value ++ List.replicate (capacity - value.length) 0 := by
  unfold writeFixedAscii at h
  obtain ⟨hlen, h⟩ := ite_error_eq_ok.mp h
  have hlength : (asciiBytes value).length = value.length := by simp [asciiBytes]
  rw [hlength] at hlen
  rw [← hlength]
  exact ⟨by omega, (Except.ok.inj h).symm⟩

theorem writeFixedAscii_length {value : CodeUnits} {capacity : Nat} {field : List UInt8}
    (h : writeFixedAscii value capacity = .ok field) : field.length = capacity := by
  obtain ⟨hlen, rfl⟩ := writeFixedAscii_cases h
  simp [asciiBytes]
  omega

variable {symbol : PlcAssemblySymbol}

theorem writeSymbol_cases {record : List UInt8} (h : writeSymbol symbol = .ok record) :
    ∃ name identity : List UInt8, writeFixedAscii symbol.name symbolNameSize = .ok name ∧
      identity.length = 80 ∧
      record = name ++ ([symbol.kind.toByte, if symbol.slotVarPrivate then 1 else 0] ++
        (identity ++ ([expectedTypeByte symbol.expectedType, symbol.access.toByte] ++ le16 0))) := by
  obtain ⟨name, hname, h⟩ := bind_ok h
  obtain ⟨parts, -, h⟩ := bind_ok h
  obtain ⟨deviceId, hdevice, h⟩ := bind_ok h
  obtain ⟨feature, hfeature, h⟩ := bind_ok h
  obtain ⟨pointId, hpoint, rfl⟩ := map_eq_ok h
  refine ⟨name, deviceId ++ feature ++ pointId, hname, ?_, by simp⟩
  rw [List.length_append, List.length_append, writeFixedAscii_length hdevice,
    writeFixedAscii_length hfeature, writeFixedAscii_length hpoint]
  rfl

theorem writeSymbol_length {record : List UInt8} (h : writeSymbol symbol = .ok record) :
    record.length = symbolRecordSize := by
  obtain ⟨name, identity, hname, hidentity, rfl⟩ := writeSymbol_cases h
  simp only [List.length_append, writeFixedAscii_length hname, hidentity]
  rfl

theorem writeSymbols_record {symbols : List PlcAssemblySymbol} {records : List UInt8}
    (h : writeSymbols symbols = .ok records) {i : Nat} (hi : symbols[i]? = some symbol) :
    ∃ before record after, writeSymbol symbol = .ok record ∧
      records = before ++ (record ++ after) ∧ before.length = i * symbolRecordSize := by
  induction symbols generalizing records i with
  | nil => simp at hi
  | cons first symbols ih =>
    obtain ⟨record, hrecord, h⟩ := bind_ok h
    obtain ⟨rest, hrest, rfl⟩ := map_eq_ok h
    cases i with
    | zero =>
      cases hi
      exact ⟨[], record, rest, hrecord, rfl, by simp⟩
    | succ i =>
      obtain ⟨before, own, after, hown, rfl, hlen⟩ := ih hrest hi
      refine ⟨record ++ before, own, after, hown, by simp, ?_⟩
      rw [List.length_append, writeSymbol_length hrecord, hlen, Nat.succ_mul, Nat.add_comm]

/-- What a C string function reads of a name: its bytes up to the first zero. -/
def nameText (name : CodeUnits) : List UInt8 := (asciiBytes name).takeWhile (· != 0)

/-- The firmware reads a symbol's record as the toolchain wrote it. -/
structure ReadsAs (r : PlcObjectSymbolRecordV1) (symbol : PlcAssemblySymbol) : Prop where
  name : r.symbolName = nameText symbol.name
  kind : r.symbolKind = symbol.kind.toByte
  flags : r.reserved1 = if symbol.slotVarPrivate then 1 else 0
  expectedType : r.expectedType = expectedTypeByte symbol.expectedType
  access : r.access = symbol.access.toByte

theorem takeWhile_padded (bytes : List UInt8) (n : Nat) (hn : 0 < n) (rest : List UInt8) :
    (bytes ++ List.replicate n 0 ++ rest).takeWhile (· != 0) = bytes.takeWhile (· != 0) := by
  induction bytes with
  | nil =>
    cases n with
    | zero => omega
    | succ n => rfl
  | cons b bytes ih =>
    simp only [List.cons_append, List.takeWhile_cons]
    rw [ih]

theorem readSymbol_record {m : Memory} {addr : UInt32} {record : List UInt8}
    (h : writeSymbol symbol = .ok record) (hm : bytesAt m addr symbolRecordSize = record) :
    ReadsAs (readSymbol m addr) symbol := by
  obtain ⟨name, identity, hname, hidentity, rfl⟩ := writeSymbol_cases h
  have hnameLen := writeFixedAscii_length hname
  obtain ⟨hcap, hfield⟩ := writeFixedAscii_cases hname
  have hat : ∀ k b, k < symbolRecordSize →
      (name ++ ([symbol.kind.toByte, if symbol.slotVarPrivate then 1 else 0] ++
        (identity ++ ([expectedTypeByte symbol.expectedType, symbol.access.toByte] ++
          le16 0))))[k]? = some b → m (addr + UInt32.ofNat k) = b := by
    intro k b hk hb
    rw [← hm, bytesAt_getElem? m addr _ _ hk] at hb
    exact Option.some.inj hb
  have hsixteen : name.length = 16 := hnameLen
  constructor
  · change (bytesAt m addr 102).takeWhile (· != 0) = _
    rw [show (102 : Nat) = symbolRecordSize from rfl, hm, hfield,
      takeWhile_padded _ _ (by omega)]
    rfl
  · exact hat 16 _ (by decide) (by rw [List.getElem?_append_right (by omega), hsixteen]; rfl)
  · exact hat 17 _ (by decide) (by rw [List.getElem?_append_right (by omega), hsixteen]; rfl)
  · refine hat 98 _ (by decide) ?_
    rw [List.getElem?_append_right (by omega), List.getElem?_append_right (by simp; omega),
      List.getElem?_append_right (by simp; omega), hsixteen, hidentity]
    rfl
  · refine hat 99 _ (by decide) ?_
    rw [List.getElem?_append_right (by omega), List.getElem?_append_right (by simp; omega),
      List.getElem?_append_right (by simp; omega), hsixteen, hidentity]
    rfl

theorem readHeader_symbolTable {checksum : UInt32} {payload : List UInt8} {m : Memory}
    (hm : bytesAt m 0 (headerOf assembly options checksum ++ payload).length =
      headerOf assembly options checksum ++ payload) :
    (readHeader m).symbolCount = UInt16.ofNat assembly.symbols.length ∧
      (readHeader m).symbolTableOffset = UInt32.ofNat (symbolTableOffset assembly) := by
  have hcount : headerOf assembly options checksum ++ payload =
      (le32 objectFileMagic ++ le16 objectFileVersion ++ le16 options.abiVersion ++
        le32 options.flags ++ le32 (UInt32.ofNat (totalSize assembly)) ++
        le32 (UInt32.ofNat assembly.codeBytes.length) ++ le32 options.entryOffset) ++
      (le16 (UInt16.ofNat assembly.symbols.length) ++
        (le16 (UInt16.ofNat assembly.relocations.length) ++
        le32 (UInt32.ofNat (symbolTableOffset assembly)) ++
        le32 (UInt32.ofNat (relocationTableOffset assembly)) ++
        le32 options.maxInstructionsPerScan ++ le32 options.maxScanTimeUs ++
        le32 options.runtimeHeaderAddress ++ le32 checksum ++ payload)) := by
    simp only [headerOf, List.append_assoc]
  have hoffset : headerOf assembly options checksum ++ payload =
      (le32 objectFileMagic ++ le16 objectFileVersion ++ le16 options.abiVersion ++
        le32 options.flags ++ le32 (UInt32.ofNat (totalSize assembly)) ++
        le32 (UInt32.ofNat assembly.codeBytes.length) ++ le32 options.entryOffset ++
        le16 (UInt16.ofNat assembly.symbols.length) ++
        le16 (UInt16.ofNat assembly.relocations.length)) ++
      (le32 (UInt32.ofNat (symbolTableOffset assembly)) ++
        (le32 (UInt32.ofNat (relocationTableOffset assembly)) ++
        le32 options.maxInstructionsPerScan ++ le32 options.maxScanTimeUs ++
        le32 options.runtimeHeaderAddress ++ le32 checksum ++ payload)) := by
    simp only [headerOf, List.append_assoc]
  refine ⟨word16_of_le16 ?_, word32_of_le32 ?_⟩
  · rw [hcount] at hm
    have hpart := bytesAt_part hm
    simp only [List.length_append, le16, le32, List.length_cons, List.length_nil] at hpart
    exact hpart
  · rw [hoffset] at hm
    have hpart := bytesAt_part hm
    simp only [List.length_append, le16, le32, List.length_cons, List.length_nil] at hpart
    exact hpart

theorem build_symbols {file : List UInt8} {m : Memory} (hbuild : build assembly options = .ok file)
    (hm : bytesAt m 0 file.length = file) (hcount : assembly.symbols.length ≤ 65535) :
    (readHeader m).symbolCount.toNat = assembly.symbols.length ∧
      ∀ i symbol, assembly.symbols[i]? = some symbol →
        ReadsAs ((imageOf m (readHeader m)).symbols (UInt16.ofNat i)) symbol := by
  obtain ⟨records, hrecords, hsize, rfl⟩ := build_cases hbuild
  obtain ⟨hsymbols, htable⟩ := readHeader_symbolTable hm
  refine ⟨?_, ?_⟩
  · rw [hsymbols, UInt16.toNat_ofNat', Nat.mod_eq_of_lt (by omega)]
  · intro i symbol hi
    obtain ⟨before, record, after, hrecord, rfl, hbefore⟩ := writeSymbols_record hrecords hi
    have hlt : i < assembly.symbols.length := (List.getElem?_eq_some_iff.mp hi).1
    refine readSymbol_record hrecord ?_
    have hfile : headerOf assembly options
          (Fnv.hash (payloadOf assembly (before ++ (record ++ after)))) ++
        payloadOf assembly (before ++ (record ++ after)) =
        (headerOf assembly options
          (Fnv.hash (payloadOf assembly (before ++ (record ++ after)))) ++
          assembly.codeBytes ++ before) ++
        (record ++ (after ++ assembly.relocations.flatMap writeRelocation)) := by
      simp only [payloadOf, List.append_assoc]
    rw [hfile] at hm
    have hpart := bytesAt_part hm
    have hword : (UInt16.ofNat i).toUInt32 = UInt32.ofNat i := by
      rw [← UInt32.toNat_inj, UInt16.toNat_toUInt32, UInt16.toNat_ofNat', UInt32.toNat_ofNat',
        Nat.mod_eq_of_lt (by omega), Nat.mod_eq_of_lt (by omega)]
    have haddr : symbolAddr (readHeader m) (UInt16.ofNat i) =
        UInt32.ofNat (headerOf assembly options
          (Fnv.hash (payloadOf assembly (before ++ (record ++ after)))) ++
          assembly.codeBytes ++ before).length := by
      rw [symbolAddr, htable, List.length_append, List.length_append, headerOf_length, hbefore,
        symbolTableOffset, hword, UInt32.ofNat_add (objectFileHeaderSize + _), UInt32.ofNat_mul]
      rfl
    rw [writeSymbol_length hrecord] at hpart
    rw [haddr]
    exact hpart

end NodeNet.Toolchain
