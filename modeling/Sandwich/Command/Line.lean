import Sandwich.Command.Basic
import Sandwich.Command.Words

/-! The command line: how each command is written, and what the values given
on it make of the command. -/

namespace Sandwich.Command

/-! ### How commands are written -/

namespace Line

/-- A level with what may be given at every level. -/
def level (options : List Argument) (flags : List Flag) (operands : List Argument)
    (commands : List (String × Grammar)) : Grammar where
  options := options ++ [
    { name := "log.file", kind := .path, spellings := ["log.file", "log-file"] }]
  flags := flags ++ [
    { name := "help", effect := .help, letter := some 'h' },
    { name := "verbosity", effect := .count, spellings := [], letter := some 'v' },
    { name := "log.no-color", effect := .raise, spellings := ["log.no-color", "log-no-color"] }]
  operands := operands
  commands := commands

def feeOptions : List Argument := [
  { name := "gas-price", kind := .text, spellings := ["gas-price", "price"] },
  { name := "priority-fee", kind := .text, spellings := ["priority-fee", "tip"] },
  { name := "max-fee", kind := .text, spellings := ["max-fee", "max-fee-per-gas"] },
  { name := "gas-limit", kind := .uint64, spellings := ["gas-limit", "gas"] }]

def feeFlags : List Flag := [{ name := "legacy", effect := .raise }]

def senderOptions : List Argument := [
  { name := "rpc", kind := .text, spellings := ["rpc", "rpc-url"], fallback := some "RPC_URL" },
  { name := "private-key", kind := .text, spellings := ["private-key", "key"],
    fallback := some "DEPLOY_KEY", required := true },
  { name := "chain-id", kind := .uint64, fallback := some "CHAIN_ID" },
  { name := "poll-interval", kind := .uint64 },
  { name := "max-poll-errors", kind := .uint32 }]

def wrapped : Argument :=
  { name := "weth", kind := .address, fallback := some "WETH_ADDRESS" }

def salt : Argument :=
  { name := "salt", kind := .word, fallback := some "DEPLOY_SALT", required := true }

def factory : Argument :=
  { name := "factory", kind := .address, fallback := some "FACTORY_ADDRESS" }

def contract : Argument :=
  { name := "contract", kind := .address, fallback := some "SANDWICH_CONTRACT", required := true }

def amount : Argument := { name := "AMOUNT", kind := .text, required := true }

def opcode : Argument := { name := "opcode", kind := .byte }

def frontrunOptions : List Argument := [
  { name := "target", kind := .address, required := true },
  { name := "sub-op", kind := .byte, required := true },
  { name := "param1", kind := .uint32, required := true },
  { name := "sub-op2", kind := .byte, required := true },
  { name := "param2", kind := .uint32, required := true },
  opcode]

def swapOptions : List Argument := [
  { name := "pool", kind := .address, required := true },
  { name := "token", kind := .address, required := true },
  { name := "amount-in", kind := .text, required := true },
  wrapped]

def amountOut : Argument := { name := "amount-out", kind := .text, required := true }

def poolFee : Argument := { name := "fee", kind := .uint32 }

/-- A command that sends transactions to a deployed contract. -/
def flow (options operands : List Argument) : Grammar :=
  level (options ++ wrapped :: senderOptions ++ feeOptions) feeFlags operands []

def payloads : List (String × Grammar) := [
  ("frontrun", level frontrunOptions [] [] []),
  ("recover", level [opcode] [] [amount] []),
  ("destroy", level [opcode] [] [] []),
  ("v2-frontrun", level (swapOptions ++ [amountOut]) [] [] []),
  ("v2-backrun", level (swapOptions ++ [amountOut]) [] [] []),
  ("v3-frontrun", level (swapOptions ++ [poolFee]) [] [] []),
  ("v3-backrun", level (swapOptions ++ [poolFee]) [] [] [])]

def deployOptions : List Argument := [
  { name := "source", kind := .path, conflicts := ["bytecode", "bytecode-file"] },
  { name := "bytecode", kind := .text, spellings := ["bytecode", "code"],
    conflicts := ["bytecode-file"] },
  { name := "bytecode-file", kind := .text,
    spellings := ["bytecode-file", "codefile", "code-file"] },
  salt,
  factory,
  { name := "init-data", kind := .text, spellings := ["init-data", "init"] },
  { name := "huffc", kind := .path }]

def grammar : Grammar :=
  level [] [{ name := "version", effect := .version, letter := some 'V' }] [] [
    ("deploy", level (deployOptions ++ senderOptions ++ feeOptions) feeFlags [] []),
    ("predict", level [salt, factory] [] [] []),
    ("encode", level [] [] [] payloads),
    ("decode", level
      [{ name := "datafile", kind := .text, spellings := ["datafile", "data-file"] }] []
      [{ name := "DATA", kind := .text, required := true, standIns := ["datafile"] }] []),
    ("frontrun", flow (contract :: frontrunOptions) []),
    ("fund", flow [contract] [amount]),
    ("recover", flow [contract] []),
    ("destroy", flow [contract] []),
    ("top-up", flow [] [{ name := "RECIPIENT", kind := .address, required := true }, amount])]

end Line

/-! ### What is made of the values -/

namespace Grammar.Match

variable (m : Match)

def byte? (name : String) : Option UInt8 := (m.number? name).map UInt8.ofNat

def uint32? (name : String) : Option UInt32 := (m.number? name).map UInt32.ofNat

def uint64? (name : String) : Option UInt64 := (m.number? name).map UInt64.ofNat

def fees : FeeOptions where
  legacy := m.has "legacy"
  gasPrice := m.text? "gas-price"
  priorityFee := m.text? "priority-fee"
  maxFee := m.text? "max-fee"
  gasLimit := m.uint64? "gas-limit"

def connection : Connection :=
  let usual : Connection := {}
  { url := (m.text? "rpc").getD usual.url
    pollInterval := (m.uint64? "poll-interval").getD usual.pollInterval
    maxPollErrors := (m.uint32? "max-poll-errors").getD usual.maxPollErrors }

def sender? : Option SenderOptions := do
  return {
    connection := m.connection
    key := ← m.text? "private-key"
    chainId := m.uint64? "chain-id" }

def flow? : Option FlowOptions := do
  return {
    wrapped := (m.address? "weth").getD mainnetWrapped
    sender := ← m.sender?
    fees := m.fees }

def frontrun? : Option Frontrun := do
  return {
    target := ← m.address? "target"
    subOp := ← m.byte? "sub-op"
    param1 := ← m.uint32? "param1"
    subOp2 := ← m.byte? "sub-op2"
    param2 := ← m.uint32? "param2" }

def swap? : Option SwapOptions := do
  return {
    pool := ← m.address? "pool"
    token := ← m.address? "token"
    amountIn := ← m.text? "amount-in"
    wrapped := (m.address? "weth").getD mainnetWrapped }

def opcode (usual : UInt8) : UInt8 := (m.byte? "opcode").getD usual

/-- The fee of a pool, in hundredths of a basis point. -/
def poolFee : UInt32 := (m.uint32? "fee").getD 3000

def deploy? : Option DeployOptions := do
  return {
    source := m.text? "source"
    bytecode := m.text? "bytecode"
    bytecodeFile := m.text? "bytecode-file"
    salt := ← m.word? "salt"
    factory := (m.address? "factory").getD mainnetFactory
    initData := m.text? "init-data"
    compiler := (m.text? "huffc").getD "huffc"
    sender := ← m.sender?
    fees := m.fees }

def payload? : List String → Option PayloadOptions
  | ["frontrun"] => return .frontrun (← m.frontrun?) (m.opcode Opcode.frontrun)
  | ["recover"] => return .recover (← m.text? "AMOUNT") (m.opcode Opcode.recover)
  | ["destroy"] => return .destroy (m.opcode Opcode.destroy)
  | ["v2-frontrun"] => return .v2Frontrun (← m.swap?) (← m.text? "amount-out")
  | ["v2-backrun"] => return .v2Backrun (← m.swap?) (← m.text? "amount-out")
  | ["v3-frontrun"] => return .v3Frontrun (← m.swap?) m.poolFee
  | ["v3-backrun"] => return .v3Backrun (← m.swap?) m.poolFee
  | _ => none

/-- The command; nothing if a value that it requires is missing. -/
def command? : Option Command :=
  match m.path with
  | ["deploy"] => return .deploy (← m.deploy?)
  | ["predict"] =>
    return .predict (← m.word? "salt") ((m.address? "factory").getD mainnetFactory)
  | "encode" :: path => return .encode (← m.payload? path)
  | ["decode"] => return .decode (m.text? "DATA") (m.text? "datafile")
  | ["frontrun"] =>
    return .frontrun (← m.address? "contract") (← m.frontrun?) (m.opcode Opcode.frontrun)
      (← m.flow?)
  | ["fund"] => return .fund (← m.address? "contract") (← m.text? "AMOUNT") (← m.flow?)
  | ["recover"] => return .recover (← m.address? "contract") (← m.flow?)
  | ["destroy"] => return .destroy (← m.address? "contract") (← m.flow?)
  | ["top-up"] => return .topUp (← m.address? "RECIPIENT") (← m.text? "AMOUNT") (← m.flow?)
  | _ => none

/-- The command and how it is logged. -/
def invocation? : Option Invocation := do
  return {
    verbosity := (m.number? "verbosity").getD 0
    logFile := m.text? "log.file"
    command := ← m.command? }

end Grammar.Match

end Command

/-- Reads the words of a command line. -/
def Invocation.parse (vars : Command.Variables) (words : List String) :
    Except Command.UsageError Invocation := do
  let m ← Command.Line.grammar.read vars {} words
  match m.invocation? with
  | some invocation => return invocation
  | none => throw .noCommand

end Sandwich
