import NodeNet.Lib.Chars
import NodeNet.Lib.Fnv
import NodeNet.Lib.LittleEndian

/-! The assembler of the desktop toolchain: a source text to code, symbols and relocations. -/
namespace NodeNet.Toolchain
open NodeNet.Chars NodeNet.Bytes

/-- What the assembler takes from the platform: the letters outside ASCII, and single precision
numbers as texts. -/
structure Platform where
  isOtherLetterOrDigit : UInt16 → Bool
  parseFloat32 : CodeUnits → Option UInt32
  formatFloat32 : UInt32 → CodeUnits

/-- A platform without letters outside ASCII, which reads no single precision numbers. -/
def plainPlatform : Platform := ⟨fun _ => false, fun _ => none, fun _ => []⟩

inductive PlcObjectSymbolKind where
  | ConstPointId | ParamPointId | SlotVar
  deriving DecidableEq

inductive PlcValueType where
  | Bool | Uint16 | Int16 | Uint32 | Int32 | Float | Enum | String
  deriving DecidableEq

inductive PlcRuntimeLinkAccess where
  | Read | Write | ReadWrite
  deriving DecidableEq

inductive PlcObjectRelocationKind where
  | PointStateIndexU16Le | PointStateValueOffsetU32Le
  deriving DecidableEq

def PlcObjectSymbolKind.toByte : PlcObjectSymbolKind → UInt8
  | ConstPointId => 0
  | ParamPointId => 1
  | SlotVar => 2

def PlcValueType.toByte : PlcValueType → UInt8
  | Bool => 0
  | Uint16 => 1
  | Int16 => 2
  | Uint32 => 3
  | Int32 => 4
  | Float => 5
  | Enum => 6
  | String => 7

def PlcRuntimeLinkAccess.toByte : PlcRuntimeLinkAccess → UInt8
  | Read => 0
  | Write => 1
  | ReadWrite => 2

def PlcObjectRelocationKind.toByte : PlcObjectRelocationKind → UInt8
  | PointStateIndexU16Le => 0
  | PointStateValueOffsetU32Le => 1

structure PlcObjectFileOptions where
  abiVersion : UInt16
  flags : UInt32
  entryOffset : UInt32
  maxInstructionsPerScan : UInt32
  maxScanTimeUs : UInt32
  runtimeHeaderAddress : UInt32
  pointBindings : CodeUnits → Option CodeUnits

def PlcObjectFileOptions.default : PlcObjectFileOptions where
  abiVersion := 1
  flags := 0
  entryOffset := 0
  maxInstructionsPerScan := 200
  maxScanTimeUs := 10000
  runtimeHeaderAddress := 0
  pointBindings := fun _ => none

structure PlcAssemblySymbol where
  name : CodeUnits
  kind : PlcObjectSymbolKind
  pointPath : CodeUnits
  /-- `none` where the source has `byte.MaxValue`. -/
  expectedType : Option PlcValueType
  access : PlcRuntimeLinkAccess
  slotVarPrivate : Bool
  deriving DecidableEq

structure PlcAssemblyRelocation where
  codeOffset : Nat
  symbolIndex : Nat
  relocationKind : PlcObjectRelocationKind
  deriving DecidableEq

structure PlcAssemblyResult where
  codeBytes : List UInt8
  symbols : List PlcAssemblySymbol
  relocations : List PlcAssemblyRelocation
  deriving DecidableEq

inductive CompileMessage where
  | labelDeclared (label : CodeUnits) | labelRequired | invalidLabel (label : CodeUnits)
  | unsupportedInstruction (mnemonic : CodeUnits)
  | operandCount (expected : Nat) (mnemonic : CodeUnits)
  | dbOperand | constSyntax | paramSyntax | missingBinding (name : CodeUnits)
  | varSyntax | varVisibility | varReserved (name : CodeUnits)
  | symbolRequired | symbolDeclared (name : CodeUnits) | tooManySymbols
  | unknownSymbol (name : CodeUnits)
  | symbolType (name : CodeUnits) (declared used : PlcValueType)
  | typeRequired | unsupportedType (token : CodeUnits)
  | byteRange (text : CodeUnits) | invalidByte (text : CodeUnits)
  | int16HexRange (text : CodeUnits) | int16Range (text : CodeUnits)
  | invalidInt16 (text : CodeUnits)
  | uint16Range (text description : CodeUnits) | invalidNumber (text description : CodeUnits)
  | invalidInt32 (text : CodeUnits) | invalidFloat (text : CodeUnits)
  | unknownLabel (operand : CodeUnits) | branchRange (operand : CodeUnits)
  deriving DecidableEq

inductive CompileError where
  | compile (message : CompileMessage) (lineNumber : Nat)
  /-- Exceptions of the platform that nothing turns into a message. -/
  | overflow | argument
  deriving DecidableEq

def fail {α : Type} (message : CompileMessage) (lineNumber : Nat) : Except CompileError α :=
  .error (.compile message lineNumber)

structure ParsedSourceLine where
  lineNumber : Nat
  label : CodeUnits
  tokens : List CodeUnits
  deriving DecidableEq

def stripComment (line : CodeUnits) : CodeUnits := line.takeWhile fun c => c ≠ ch ';' && c ≠ ch '#'

def tokenize (line : CodeUnits) : List CodeUnits :=
  (split (fun c => c = ch ' ' || c = ch '\t' || c = ch ',') line).map trim

def isLetterOrDigit (platform : Platform) (c : UInt16) : Bool :=
  if c < 0x80 then isDigit c || (0x41 ≤ c && c ≤ 0x5A) || (0x61 ≤ c && c ≤ 0x7A)
  else platform.isOtherLetterOrDigit c

def isLabelName (platform : Platform) (label : CodeUnits) : Bool :=
  label.all fun c => isLetterOrDigit platform c || c = ch '_'

def parseSourceLine (platform : Platform) (line : CodeUnits) (lineNumber : Nat) :
    Except CompileError (Option ParsedSourceLine) :=
  if isNullOrWhiteSpace line then .ok none
  else if line.contains (ch ':') then
    let label := trim (line.takeWhile (· ≠ ch ':'))
    if label = [] then fail .labelRequired lineNumber
    else if !isLabelName platform label then fail (.invalidLabel label) lineNumber
    else
      let workingLine := trim ((line.dropWhile (· ≠ ch ':')).drop 1)
      .ok (some ⟨lineNumber, label, tokenize workingLine⟩)
  else
    let tokens := tokenize line
    .ok (if tokens = [] then none else some ⟨lineNumber, [], tokens⟩)

/-- The lines that hold something, with their numbers. -/
def parseLines (platform : Platform) :
    Nat → List CodeUnits → Except CompileError (List ParsedSourceLine)
  | _, [] => .ok []
  | lineNumber, line :: lines =>
    (parseSourceLine platform (trim (stripComment line)) lineNumber).bind fun parsed =>
    (parseLines platform (lineNumber + 1) lines).map fun rest => parsed.toList ++ rest

/-- What follows the opcode of an instruction. -/
inductive Operands where
  | none | int16 | uint32 | int32 | float32
  | symbol (expectedType : PlcValueType) (access : PlcRuntimeLinkAccess)
      (relocationKind : PlcObjectRelocationKind)
  | branch
  | index (description : String)
  | timerStart | counterCount
  deriving DecidableEq

def loadPoint (expectedType : PlcValueType) : Operands :=
  .symbol expectedType .Read .PointStateValueOffsetU32Le

def storePoint (expectedType : PlcValueType) : Operands :=
  .symbol expectedType .Write .PointStateValueOffsetU32Le

def updatePoint : Operands := .symbol .Int16 .ReadWrite .PointStateValueOffsetU32Le

def edgeTrigger : Operands := .symbol .Bool .Read .PointStateIndexU16Le

def timerIndex : Operands := .index "timer index"

def counterIndex : Operands := .index "counter index"

/-- The cases of the assembler's switch, without the declarations and the data bytes. -/
def instructionCases : List (String × UInt8 × Operands) :=
  [("NOP", 0x01, .none), ("HALT", 0x00, .none), ("PUSH_TRUE", 0x02, .none),
    ("PUSH_FALSE", 0x03, .none), ("DUP", 0x04, .none), ("DROP", 0x05, .none),
    ("SWAP", 0x06, .none), ("AND", 0x07, .none), ("OR", 0x08, .none), ("XOR", 0x09, .none),
    ("NOT", 0x0A, .none), ("EQ", 0x0B, .none), ("NE", 0x0C, .none), ("FEQ", 0x44, .none),
    ("FNE", 0x45, .none), ("FLT", 0x46, .none), ("FLE", 0x47, .none), ("FGT", 0x48, .none),
    ("FGE", 0x49, .none), ("FADD", 0x50, .none), ("FSUB", 0x51, .none), ("FMUL", 0x52, .none),
    ("FDIV", 0x53, .none), ("PUSH_I16", 0x14, .int16), ("PUSH_U32", 0x1B, .uint32),
    ("PUSH_I32", 0x1C, .int32), ("PUSH_F32", 0x1D, .float32),
    ("LOAD_BOOL", 0x10, loadPoint .Bool), ("LOAD_POINT_BOOL", 0x10, loadPoint .Bool),
    ("LB", 0x10, loadPoint .Bool), ("STORE_BOOL", 0x11, storePoint .Bool),
    ("STORE_POINT_BOOL", 0x11, storePoint .Bool), ("SB", 0x11, storePoint .Bool),
    ("LOAD_I16", 0x12, loadPoint .Int16), ("LOAD_U32", 0x15, loadPoint .Uint32),
    ("LOAD_I32", 0x17, loadPoint .Int32), ("LOAD_F32", 0x19, loadPoint .Float),
    ("STORE_I16", 0x13, storePoint .Int16), ("STORE_U32", 0x16, storePoint .Uint32),
    ("STORE_I32", 0x18, storePoint .Int32), ("STORE_F32", 0x1A, storePoint .Float),
    ("ADD", 0x22, .none), ("SUB", 0x23, .none), ("LT", 0x24, .none), ("LE", 0x25, .none),
    ("GT", 0x26, .none), ("GE", 0x27, .none), ("MIN", 0x28, .none), ("MAX", 0x29, .none),
    ("CLAMP", 0x2A, .none), ("SEL", 0x2B, .none), ("SX_I16_TO_I32", 0x4A, .none),
    ("TRUNC_I32_TO_I16", 0x4B, .none), ("BOOL_TO_U32", 0x4C, .none),
    ("BOOL_TO_I32", 0x4D, .none), ("U32_TO_BOOL", 0x4E, .none), ("I32_TO_BOOL", 0x4F, .none),
    ("JMP", 0x2C, .branch), ("JZ", 0x2D, .branch), ("JNZ", 0x2E, .branch),
    ("R_TRIG", 0x2F, edgeTrigger), ("F_TRIG", 0x30, edgeTrigger),
    ("TON_START", 0x31, .timerStart), ("TON_DONE", 0x32, timerIndex),
    ("TON_RESET", 0x33, timerIndex), ("TON_ELAPSED", 0x34, timerIndex),
    ("TON_REMAINING", 0x35, timerIndex), ("TOF_START", 0x36, .timerStart),
    ("TOF_DONE", 0x37, timerIndex), ("TOF_RESET", 0x38, timerIndex),
    ("TP_START", 0x39, .timerStart), ("TP_DONE", 0x3A, timerIndex),
    ("TP_RESET", 0x3B, timerIndex), ("CTU_COUNT", 0x3C, .counterCount),
    ("CTU_DONE", 0x3D, counterIndex), ("CTU_VALUE", 0x3E, counterIndex),
    ("CTU_RESET", 0x3F, counterIndex), ("CTD_COUNT", 0x40, .counterCount),
    ("CTD_DONE", 0x41, counterIndex), ("CTD_VALUE", 0x42, counterIndex),
    ("CTD_RESET", 0x43, counterIndex), ("INC_INT", 0x20, updatePoint),
    ("INC", 0x20, updatePoint), ("DEC_INT", 0x21, updatePoint), ("DEC", 0x21, updatePoint)]

def instructionCase (mnemonic : CodeUnits) : Option (UInt8 × Operands) :=
  (instructionCases.find? fun c => lit c.1 = mnemonic).map (·.2)

def sizeCases : List (List String × Nat) :=
  [(["CONST", "PARAM", "VAR"], 0),
    (["PUSH_I16", "JMP", "JZ", "JNZ", "R_TRIG", "F_TRIG", "TON_DONE", "TON_RESET", "TON_ELAPSED",
      "TON_REMAINING", "TOF_DONE", "TOF_RESET", "TP_DONE", "TP_RESET", "CTU_DONE", "CTU_VALUE",
      "CTU_RESET", "CTD_DONE", "CTD_VALUE", "CTD_RESET"], 3),
    (["LOAD_U32", "STORE_U32", "LOAD_I32", "STORE_I32", "LOAD_F32", "STORE_F32", "LOAD_BOOL",
      "LOAD_POINT_BOOL", "LB", "STORE_BOOL", "STORE_POINT_BOOL", "SB", "LOAD_I16", "STORE_I16",
      "INC_INT", "INC", "DEC_INT", "DEC"], 5),
    (["PUSH_U32", "PUSH_I32", "PUSH_F32"], 5), (["CTU_COUNT", "CTD_COUNT"], 5),
    (["TON_START", "TOF_START", "TP_START"], 7)]

def getEncodedInstructionSize (tokens : List CodeUnits) (lineNumber : Nat) :
    Except CompileError Nat :=
  match tokens with
  | [] => .ok 0
  | token :: operands =>
    let mnemonic := toUpper token
    match sizeCases.find? fun c => c.1.any fun name => lit name = mnemonic with
    | some c => .ok c.2
    | none =>
      if mnemonic = lit "DB" then .ok operands.length
      else if operands = [] then .ok 1
      else fail (.unsupportedInstruction token) lineNumber

abbrev Labels := List (CodeUnits × Nat)

def Labels.find (labels : Labels) (name : CodeUnits) : Option Nat :=
  (labels.find? fun l => l.1 = name).map (·.2)

def declareLabel (labels : Labels) (codeOffset : Nat) (line : ParsedSourceLine) :
    Except CompileError Labels :=
  if line.label = [] then .ok labels
  else if (labels.find line.label).isSome then fail (.labelDeclared line.label) line.lineNumber
  else if codeOffset < 65536 then .ok (labels ++ [(line.label, codeOffset)])
  else .error .overflow

/-- The size pass. -/
def collectLabels (labels : Labels) (codeOffset : Nat) :
    List ParsedSourceLine → Except CompileError Labels
  | [] => .ok labels
  | line :: lines =>
    (declareLabel labels codeOffset line).bind fun labels =>
    (getEncodedInstructionSize line.tokens line.lineNumber).bind fun size =>
    collectLabels labels (codeOffset + size) lines

/-! The emit pass of the assembler: declarations, operands and the code. -/

/-- The exceptions of a literal that the assembler turns into its own message. -/
def orMessage {α : Type} (parsed : Except NumberError α) (message : CompileMessage)
    (lineNumber : Nat) : Except CompileError α :=
  match parsed with
  | .ok v => .ok v
  | .error .argument => .error .argument
  | .error .format => fail message lineNumber
  | .error .overflow => fail message lineNumber

def parseUnsigned (text : CodeUnits) : Except NumberError UInt32 :=
  if startsWith0x text then toUInt32Hex (text.drop 2) else toUInt32 text

def parseByte (text : CodeUnits) (lineNumber : Nat) : Except CompileError UInt8 :=
  (orMessage (parseUnsigned text) (.invalidByte text) lineNumber).bind fun value =>
  if value ≤ 0xFF then .ok value.toUInt8 else fail (.byteRange text) lineNumber

def parseInt16Literal (text : CodeUnits) (lineNumber : Nat) : Except CompileError UInt16 :=
  if startsWith0x text then
    (orMessage (toUInt32Hex (text.drop 2)) (.invalidInt16 text) lineNumber).bind fun hexValue =>
    if hexValue ≤ 0xFFFF then .ok hexValue.toUInt16 else fail (.int16HexRange text) lineNumber
  else
    (orMessage (toInt32 text) (.invalidInt16 text) lineNumber).bind fun signedValue =>
    if signedValue < -32768 ∨ 32767 < signedValue then fail (.int16Range text) lineNumber
    else .ok (UInt16.ofInt signedValue)

def parseUInt16Literal (text : CodeUnits) (lineNumber : Nat) (description : String) :
    Except CompileError UInt16 :=
  (orMessage (parseUnsigned text) (.invalidNumber text (lit description)) lineNumber).bind
    fun value =>
  if value ≤ 0xFFFF then .ok value.toUInt16
  else fail (.uint16Range text (lit description)) lineNumber

def parseUInt32Literal (text : CodeUnits) (lineNumber : Nat) (description : String) :
    Except CompileError UInt32 :=
  orMessage (parseUnsigned text) (.invalidNumber text (lit description)) lineNumber

def parseInt32Literal (text : CodeUnits) (lineNumber : Nat) : Except CompileError UInt32 :=
  if startsWith0x text then
    orMessage (toUInt32Hex (text.drop 2)) (.invalidInt32 text) lineNumber
  else (orMessage (toInt32 text) (.invalidInt32 text) lineNumber).map UInt32.ofInt

def parseFloat32Literal (platform : Platform) (text : CodeUnits) (lineNumber : Nat) :
    Except CompileError UInt32 :=
  match platform.parseFloat32 text with
  | some bits => .ok bits
  | none => fail (.invalidFloat text) lineNumber

/-- A label or a signed distance, behind `currentOutputOffset` bytes of code. -/
def resolveBranchOffset (labels : Labels) (operand : CodeUnits)
    (lineNumber currentOutputOffset : Nat) :
    Except CompileError UInt16 :=
  match parseInt16Literal operand 0 with
  | .ok signedOffset => .ok signedOffset
  | .error _ =>
    match labels.find operand with
    | none => fail (.unknownLabel operand) lineNumber
    | some targetOffset =>
      let signedOffset : Int := targetOffset - (currentOutputOffset + 2 : Nat)
      if signedOffset < -32768 ∨ 32767 < signedOffset then fail (.branchRange operand) lineNumber
      else .ok (UInt16.ofInt signedOffset)

def reservedSlotVariableNames : List CodeUnits :=
  ["loaded", "state", "runEnabled", "status", "cycleCounter", "faultCode", "faultInfo",
    "bytecodeSize", "source", "programType", "paramsSummary", "inputChannel", "outputChannel",
    "runtimeMapOk", "start", "stop", "reset", "clearFault"].map lit

/-- The assembler's result while it emits. -/
abbrev Assembly := PlcAssemblyResult

-- The dictionary of the symbols' indices is the symbol list itself, which has each name once.
def Assembly.symbolIndex (a : Assembly) (name : CodeUnits) : Option Nat :=
  a.symbols.findIdx? fun s => s.name = name

def Assembly.findSymbol (a : Assembly) (name : CodeUnits) : Option (Nat × PlcAssemblySymbol) :=
  match a.symbolIndex name with
  | none => none
  | some i => (a.symbols[i]?).map fun s => (i, s)

def addSymbol (a : Assembly) (lineNumber : Nat) (symbol : PlcAssemblySymbol) :
    Except CompileError Assembly :=
  if isNullOrWhiteSpace symbol.name then fail .symbolRequired lineNumber
  else if (a.symbolIndex symbol.name).isSome then fail (.symbolDeclared symbol.name) lineNumber
  else if 65535 ≤ a.symbols.length then fail .tooManySymbols lineNumber
  else .ok { a with symbols := a.symbols ++ [symbol] }

def isPointId (token : CodeUnits) : Bool := toUpper token = lit "POINT_ID"

def pointSymbol (name pointPath : CodeUnits) (kind : PlcObjectSymbolKind) : PlcAssemblySymbol where
  name := name
  kind := kind
  pointPath := pointPath
  expectedType := none
  access := .Read
  slotVarPrivate := false

def parseConstPointDeclaration (a : Assembly) (lineNumber : Nat) (operands : List CodeUnits) :
    Except CompileError Assembly :=
  match operands with
  | [keyword, name, pointPath] =>
    if isPointId keyword then addSymbol a lineNumber (pointSymbol name pointPath .ConstPointId)
    else fail .constSyntax lineNumber
  | _ => fail .constSyntax lineNumber

def parseParamPointDeclaration (options : PlcObjectFileOptions) (a : Assembly) (lineNumber : Nat)
    (operands : List CodeUnits) : Except CompileError Assembly :=
  match operands with
  | [keyword, name] =>
    if isPointId keyword then
      match options.pointBindings name with
      | none => fail (.missingBinding name) lineNumber
      | some pointPath => addSymbol a lineNumber (pointSymbol name pointPath .ParamPointId)
    else fail .paramSyntax lineNumber
  | _ => fail .paramSyntax lineNumber

def valueTypeCases : List (List String × PlcValueType) :=
  [(["BOOL"], .Bool), (["UINT16", "WORD"], .Uint16), (["INT", "INT16"], .Int16),
    (["UINT32", "DWORD"], .Uint32), (["DINT", "INT32"], .Int32), (["FLOAT", "REAL"], .Float),
    (["ENUM"], .Enum), (["STRING"], .String)]

def parseValueType (token : CodeUnits) (lineNumber : Nat) : Except CompileError PlcValueType :=
  if isNullOrWhiteSpace token then fail .typeRequired lineNumber
  else
    match valueTypeCases.find? fun c => c.1.any fun name => lit name = toUpper (trim token) with
    | some c => .ok c.2
    | none => fail (.unsupportedType token) lineNumber

def declareVariable (a : Assembly) (lineNumber : Nat) (slotVarPrivate : Bool)
    (typeToken name : CodeUnits) : Except CompileError Assembly :=
  (parseValueType typeToken lineNumber).bind fun valueType =>
  if reservedSlotVariableNames.contains name then fail (.varReserved name) lineNumber
  else addSymbol a lineNumber {
    name := name
    kind := .SlotVar
    pointPath := []
    expectedType := some valueType
    access := .ReadWrite
    slotVarPrivate := slotVarPrivate }

def parseVarDeclaration (a : Assembly) (lineNumber : Nat) (operands : List CodeUnits) :
    Except CompileError Assembly :=
  match operands with
  | [typeToken, name] => declareVariable a lineNumber false typeToken name
  | [visibility, typeToken, name] =>
    if toUpper visibility = lit "PRIVATE" then declareVariable a lineNumber true typeToken name
    else if toUpper visibility = lit "PUBLIC" then
      declareVariable a lineNumber false typeToken name
    else fail .varVisibility lineNumber
  | _ => fail .varSyntax lineNumber

def applySymbolUsageType (symbol : PlcAssemblySymbol) (expectedType : PlcValueType)
    (lineNumber : Nat) : Except CompileError PlcAssemblySymbol :=
  match symbol.expectedType with
  | none => .ok { symbol with expectedType := some expectedType }
  | some declared =>
    if declared = expectedType then .ok symbol
    else fail (.symbolType symbol.name declared expectedType) lineNumber

def mergeAccess (current next : PlcRuntimeLinkAccess) : PlcRuntimeLinkAccess :=
  if current = .ReadWrite ∨ next = .ReadWrite then .ReadWrite
  else if current = next then current
  else .ReadWrite

def PlcObjectRelocationKind.operand : PlcObjectRelocationKind → List UInt8
  | PointStateIndexU16Le => le16 0
  | PointStateValueOffsetU32Le => le32 0

def Assembly.write (a : Assembly) (bytes : List UInt8) : Assembly :=
  { a with codeBytes := a.codeBytes ++ bytes }

def writeRelocatedSymbol (a : Assembly) (lineNumber : Nat) (name : CodeUnits)
    (expectedType : PlcValueType) (access : PlcRuntimeLinkAccess)
    (relocationKind : PlcObjectRelocationKind) : Except CompileError Assembly :=
  match a.findSymbol name with
  | some (symbolIndex, symbol) =>
    (applySymbolUsageType symbol expectedType lineNumber).map fun used =>
    Assembly.write { a with
      symbols := a.symbols.set symbolIndex { used with access := mergeAccess used.access access }
      relocations := a.relocations ++ [⟨a.codeBytes.length, symbolIndex, relocationKind⟩] }
      relocationKind.operand
  | none => fail (.unknownSymbol name) lineNumber

/-- The tokens an instruction has, its mnemonic included. -/
def Operands.tokenCount : Operands → Nat
  | none => 1
  | timerStart | counterCount => 3
  | _ => 2

/-- The operands of an instruction, behind its opcode. -/
def writeOperands (platform : Platform) (labels : Labels) (a : Assembly) (lineNumber : Nat)
    (operands : Operands) (first second : CodeUnits) : Except CompileError Assembly :=
  match operands with
  | .none => .ok a
  | .int16 => (parseInt16Literal first lineNumber).map fun v => a.write (le16 v)
  | .uint32 => (parseUInt32Literal first lineNumber "imm32").map fun v => a.write (le32 v)
  | .int32 => (parseInt32Literal first lineNumber).map fun v => a.write (le32 v)
  | .float32 => (parseFloat32Literal platform first lineNumber).map fun v => a.write (le32 v)
  | .symbol expectedType access relocationKind =>
    writeRelocatedSymbol a lineNumber first expectedType access relocationKind
  | .branch =>
    (resolveBranchOffset labels first lineNumber a.codeBytes.length).map fun v => a.write (le16 v)
  | .index description =>
    (parseUInt16Literal first lineNumber description).map fun v => a.write (le16 v)
  | .timerStart =>
    (parseUInt16Literal first lineNumber "timer index").bind fun timer =>
    (parseUInt32Literal second lineNumber "preset_ms32").map fun preset =>
    a.write (le16 timer ++ le32 preset)
  | .counterCount =>
    (parseUInt16Literal first lineNumber "counter index").bind fun counter =>
    (parseInt16Literal second lineNumber).map fun preset => a.write (le16 counter ++ le16 preset)

def parseBytes (lineNumber : Nat) : List CodeUnits → Except CompileError (List UInt8)
  | [] => .ok []
  | text :: texts =>
    (parseByte text lineNumber).bind fun b => (parseBytes lineNumber texts).map fun bs => b :: bs

def emitInstruction (platform : Platform) (labels : Labels) (a : Assembly) (lineNumber : Nat)
    (mnemonic : CodeUnits) (operands : List CodeUnits) : Except CompileError Assembly :=
  match instructionCase (toUpper mnemonic) with
  | some (opcode, shape) =>
    if operands.length + 1 ≠ shape.tokenCount then
      fail (.operandCount (shape.tokenCount - 1) mnemonic) lineNumber
    else
      writeOperands platform labels (a.write [opcode]) lineNumber shape (operands.headD [])
        ((operands.drop 1).headD [])
  | none => fail (.unsupportedInstruction mnemonic) lineNumber

def emitLine (platform : Platform) (options : PlcObjectFileOptions) (labels : Labels)
    (a : Assembly) (line : ParsedSourceLine) : Except CompileError Assembly :=
  match line.tokens with
  | [] => .ok a
  | mnemonic :: operands =>
    let name := toUpper mnemonic
    if name = lit "CONST" then parseConstPointDeclaration a line.lineNumber operands
    else if name = lit "PARAM" then parseParamPointDeclaration options a line.lineNumber operands
    else if name = lit "VAR" then parseVarDeclaration a line.lineNumber operands
    else if name = lit "DB" then
      if operands = [] then fail .dbOperand line.lineNumber
      else (parseBytes line.lineNumber operands).map a.write
    else emitInstruction platform labels a line.lineNumber mnemonic operands

def emitLines (platform : Platform) (options : PlcObjectFileOptions) (labels : Labels) :
    Assembly → List ParsedSourceLine → Except CompileError Assembly
  | a, [] => .ok a
  | a, line :: lines =>
    (emitLine platform options labels a line).bind fun a =>
    emitLines platform options labels a lines

def assemble (platform : Platform) (source : CodeUnits) (options : PlcObjectFileOptions) :
    Except CompileError PlcAssemblyResult :=
  (parseLines platform 1 (readLines source)).bind fun lines =>
  (collectLabels [] 0 lines).bind fun labels =>
  emitLines platform options labels ⟨[], [], []⟩ lines

/-! The object file of an assembled program, as the desktop toolchain writes it. -/

def objectFileMagic : UInt32 := 0x314A424F

def objectFileVersion : UInt16 := 1

def objectFileHeaderSize : Nat := 52

def symbolNameSize : Nat := 16

def deviceIdSize : Nat := 16

def featureSize : Nat := 32

def pointIdSize : Nat := 32

def symbolRecordSize : Nat := 102

def relocationRecordSize : Nat := 8

inductive BuildError where
  | entryOffset | size | fieldSize (value : CodeUnits) (capacity : Nat) | pointPathRequired
  | pointPath (path : CodeUnits)
  deriving DecidableEq

/-- A character outside ASCII becomes a question mark. -/
def asciiByte (c : UInt16) : UInt8 := if c < 0x80 then c.toUInt8 else 0x3F

def asciiBytes (value : CodeUnits) : List UInt8 := value.map asciiByte

def writeFixedAscii (value : CodeUnits) (capacity : Nat) : Except BuildError (List UInt8) :=
  let encoded := asciiBytes value
  if capacity ≤ encoded.length then .error (.fieldSize value capacity)
  else .ok (encoded ++ List.replicate (capacity - encoded.length) 0)

structure PlcPointIdentityParts where
  deviceId : CodeUnits
  feature : CodeUnits
  pointId : CodeUnits
  deriving DecidableEq

def parsePointPath (path : CodeUnits) : Except BuildError PlcPointIdentityParts :=
  if isNullOrWhiteSpace path then .error .pointPathRequired
  else
    let deviceId := path.takeWhile (· ≠ ch '.')
    let pointId := (path.reverse.takeWhile (· ≠ ch '.')).reverse
    if !path.contains (ch '.') ∨ deviceId = [] ∨
        path.length ≤ deviceId.length + pointId.length + 2 ∨ pointId = [] then
      .error (.pointPath path)
    else
      .ok ⟨deviceId,
        (path.drop (deviceId.length + 1)).take
          (path.length - deviceId.length - pointId.length - 2), pointId⟩

/-- The identity in a symbol's record, which a slot variable leaves empty. -/
def symbolIdentity (symbol : PlcAssemblySymbol) : Except BuildError PlcPointIdentityParts :=
  if symbol.kind = .SlotVar then .ok ⟨[], [], []⟩ else parsePointPath symbol.pointPath

def expectedTypeByte : Option PlcValueType → UInt8
  | none => 0xFF
  | some valueType => valueType.toByte

def writeSymbol (symbol : PlcAssemblySymbol) : Except BuildError (List UInt8) :=
  (writeFixedAscii symbol.name symbolNameSize).bind fun name =>
  (symbolIdentity symbol).bind fun identity =>
  (writeFixedAscii identity.deviceId deviceIdSize).bind fun deviceId =>
  (writeFixedAscii identity.feature featureSize).bind fun feature =>
  (writeFixedAscii identity.pointId pointIdSize).map fun pointId =>
  name ++ [symbol.kind.toByte, if symbol.slotVarPrivate then 1 else 0] ++ deviceId ++ feature ++
    pointId ++ [expectedTypeByte symbol.expectedType, symbol.access.toByte] ++ le16 0

def writeSymbols : List PlcAssemblySymbol → Except BuildError (List UInt8)
  | [] => .ok []
  | symbol :: symbols =>
    (writeSymbol symbol).bind fun record => (writeSymbols symbols).map fun rest => record ++ rest

def writeRelocation (relocation : PlcAssemblyRelocation) : List UInt8 :=
  le32 (UInt32.ofNat relocation.codeOffset) ++ le16 (UInt16.ofNat relocation.symbolIndex) ++
    [relocation.relocationKind.toByte, 0]

/-- The bytes behind the header. -/
def payloadOf (assembly : PlcAssemblyResult) (symbolRecords : List UInt8) : List UInt8 :=
  assembly.codeBytes ++ symbolRecords ++ assembly.relocations.flatMap writeRelocation

def symbolTableOffset (assembly : PlcAssemblyResult) : Nat :=
  objectFileHeaderSize + assembly.codeBytes.length

def relocationTableOffset (assembly : PlcAssemblyResult) : Nat :=
  symbolTableOffset assembly + assembly.symbols.length * symbolRecordSize

def totalSize (assembly : PlcAssemblyResult) : Nat :=
  relocationTableOffset assembly + assembly.relocations.length * relocationRecordSize

def headerOf (assembly : PlcAssemblyResult) (options : PlcObjectFileOptions)
    (checksum : UInt32) : List UInt8 :=
  le32 objectFileMagic ++ le16 objectFileVersion ++ le16 options.abiVersion ++
    le32 options.flags ++ le32 (UInt32.ofNat (totalSize assembly)) ++
    le32 (UInt32.ofNat assembly.codeBytes.length) ++ le32 options.entryOffset ++
    le16 (UInt16.ofNat assembly.symbols.length) ++
    le16 (UInt16.ofNat assembly.relocations.length) ++
    le32 (UInt32.ofNat (symbolTableOffset assembly)) ++
    le32 (UInt32.ofNat (relocationTableOffset assembly)) ++
    le32 options.maxInstructionsPerScan ++ le32 options.maxScanTimeUs ++
    le32 options.runtimeHeaderAddress ++ le32 checksum

/-- A stream of more than 31 bits of bytes cannot be made. -/
def build (assembly : PlcAssemblyResult) (options : PlcObjectFileOptions) :
    Except BuildError (List UInt8) :=
  if assembly.codeBytes.length < options.entryOffset.toNat then .error .entryOffset
  else if 2147483648 ≤ totalSize assembly then .error .size
  else
    (writeSymbols assembly.symbols).map fun symbolRecords =>
    let payload := payloadOf assembly symbolRecords
    headerOf assembly options (Fnv.hash payload) ++ payload

end NodeNet.Toolchain
