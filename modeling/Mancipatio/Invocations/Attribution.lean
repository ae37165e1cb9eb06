import Mancipatio.Library.Checked
import Mancipatio.Library.Numerals
import Mancipatio.Texts

/-!
# The invocations of a transaction and what they logged

Detection never depends on the logs; events only add detail. The invocations come from the instructions, and the
`Program data:` lines of a log go to the frame on top of the invoke stack that the log spells out.
-/

namespace Mancipatio.Invocations
open Checked

/-! ## Instructions -/

structure CompiledIx where
  programIdIndex : Int
  accounts : List Int
  data : Text
  deriving DecidableEq, Repr

structure LoadedAddresses where
  writable : List Text
  readonly : List Text
  deriving DecidableEq, Repr

structure InnerInstructions where
  index : Nat
  instructions : List CompiledIx
  deriving DecidableEq, Repr

structure TransactionMeta where
  loadedAddresses : Option LoadedAddresses
  innerInstructions : Option (List InnerInstructions)
  logMessages : Option (List Text)
  deriving DecidableEq, Repr

structure InvocationTx where
  accountKeys : List Text
  instructions : List CompiledIx
  details : Option TransactionMeta
  deriving DecidableEq, Repr

structure Invocation where
  ordinal : Nat
  programId : Text
  accounts : List Text
  data : List UInt8
  inner : Bool
  topIndex : Nat
  deriving DecidableEq, Repr

def resolveAccountKeys (tx : InvocationTx) : List Text :=
  let loaded := tx.details.bind TransactionMeta.loadedAddresses
  tx.accountKeys ++ (loaded.map LoadedAddresses.writable).getD [] ++ (loaded.map LoadedAddresses.readonly).getD []

def keyAt (keys : List Text) (value : Int) : Except String Text :=
  okOr (if value < 0 then none else keys[value.toNat]?) "Invalid transaction account index"

/-- The inner instructions under a top-level one. A later group replaces an earlier one with its index. -/
def innerOf (tx : InvocationTx) (topIndex : Nat) : List CompiledIx :=
  let groups := (tx.details.bind TransactionMeta.innerInstructions).getD []
  ((groups.reverse.find? fun group => group.index = topIndex).map InnerInstructions.instructions).getD []

section flattening
variable (encode : Text → Except String (List UInt8)) (keys : List Text)

def invocation (ordinal : Nat) (ix : CompiledIx) (inner : Bool) (topIndex : Nat) : Except String Invocation := do
  let programId ← keyAt keys ix.programIdIndex
  let accounts ← ix.accounts.mapM (keyAt keys)
  let data ← encode ix.data
  return { ordinal, programId, accounts, data, inner, topIndex }

def executionOrder (tx : InvocationTx) : List (CompiledIx × Bool × Nat) :=
  tx.instructions.zipIdx.flatMap fun (ix, i) => (ix, false, i) :: (innerOf tx i).map (·, true, i)

def flattenInvocations (tx : InvocationTx) : Except String (List Invocation) :=
  (executionOrder tx).zipIdx.mapM fun ((ix, inner, topIndex), ordinal) =>
    invocation encode (resolveAccountKeys tx) ordinal ix inner topIndex

end flattening

/-! ## Lines -/

-- what `.` does not match
def isLineTerminator (c : Char) : Bool :=
  c.toNat ∈ [0x0a, 0x0d, 0x2028, 0x2029]

def isWord (text : Text) : Bool :=
  !text.isEmpty && text.all fun c => !isSpace c

-- the fixed words of a log
def programStart : Text := ['P', 'r', 'o', 'g', 'r', 'a', 'm', ' ']
def invokeStart : Text := ['i', 'n', 'v', 'o', 'k', 'e', ' ', '[']
def successText : Text := ['s', 'u', 'c', 'c', 'e', 's', 's']
def failedStart : Text := ['f', 'a', 'i', 'l', 'e', 'd', ':', ' ']
def dataWord : Text := ['d', 'a', 't', 'a', ':']
def truncationStart : Text := ['L', 'o', 'g', ' ', 't', 'r', 'u', 'n', 'c', 'a', 't', 'e', 'd']

/-- `^Program (\S+) ` and the rest of the line, with which each of the three patterns begins. -/
def headed (line : Text) : Option (Text × Text) := do
  let rest ← programStart.isPrefixOf? line
  let name := rest.takeWhile fun c => !isSpace c
  let text ← [' '].isPrefixOf? (rest.dropWhile fun c => !isSpace c)
  if name = [] then none else some (name, text)

/-- `invoke \[(\d+)\]$` -/
def invokeDepth (text : Text) : Option Nat := do
  let rest ← invokeStart.isPrefixOf? text
  let digits := rest.takeWhile Char.isDigit
  if digits ≠ [] ∧ rest.dropWhile Char.isDigit = [']'] then some (Nat.ofDigitChars 10 digits 0) else none

/-- `(success|failed: .*)$` -/
def isOutcome (text : Text) : Bool :=
  text = successText || ((failedStart.isPrefixOf? text).map fun why => why.all fun c => !isLineTerminator c).getD false

-- `/^Program (\S+) invoke \[(\d+)\]$/`
def invoke (line : Text) : Option (Text × Nat) := do
  let (name, text) ← headed line
  return (name, ← invokeDepth text)

-- `/^Program (\S+) (success|failed: .*)$/`
def exit (line : Text) : Option Text := do
  let (name, text) ← headed line
  if isOutcome text = true then some name else none

-- `/^Program data: (\S+)$/`
def data (line : Text) : Option Text := do
  let (name, text) ← headed line
  if name = dataWord ∧ isWord text = true then some text else none

/-! ## Frames -/

structure OpenFrame where
  program : Text
  frame : Option Nat
  deriving DecidableEq, Repr

structure Reading where
  stack : List OpenFrame
  frames : List (List Text)
  closed : List Bool
  consistent : Bool
  deriving DecidableEq, Repr

structure ProgramFrames where
  frames : List (List Text)
  closed : List Bool
  truncated : Bool
  consistent : Bool
  deriving DecidableEq, Repr

section reading
variable (program : Text)

def Reading.enter (s : Reading) (name : Text) (depth : Nat) : Reading :=
  let consistent := s.consistent && depth = s.stack.length + 1
  if name = program then
    { stack := { program := name, frame := some s.frames.length } :: s.stack, frames := s.frames ++ [[]],
      closed := s.closed ++ [false], consistent }
  else
    { s with stack := { program := name, frame := none } :: s.stack, consistent }

def Reading.leave (s : Reading) (name : Text) : Reading :=
  match s.stack with
  | [] => { s with consistent := false }
  | top :: stack =>
      if top.program = name then
        match top.frame with
        | some frame => { s with stack, closed := s.closed.set frame true }
        | none => { s with stack }
      else { s with stack, consistent := false }

def Reading.note (s : Reading) (field : Text) : Reading :=
  match s.stack with
  | { program := running, frame := some frame } :: _ =>
      if running = program then { s with frames := s.frames.modify frame (· ++ [field]) } else s
  | _ => s

def Reading.next (s : Reading) (line : Text) : Reading :=
  match invoke line with
  | some (name, depth) => s.enter program name depth
  | none =>
      match exit line with
      | some name => s.leave name
      | none =>
          match data line with
          | some field => s.note program field
          | none => s

def isTruncation (line : Text) : Bool :=
  truncationStart.isPrefixOf line

def readFrom (s : Reading) : List Text → ProgramFrames
  | [] =>
      { frames := s.frames, closed := s.closed, truncated := false, consistent := s.consistent && s.stack.isEmpty }
  | line :: logs =>
      if isTruncation line = true then
        { frames := s.frames, closed := s.closed, truncated := true, consistent := s.consistent }
      else
        readFrom (s.next program line) logs

def nothingRead : Reading where
  stack := []
  frames := []
  closed := []
  consistent := true

def attributeProgramData (logs : List Text) : ProgramFrames :=
  readFrom program nothingRead logs

end reading

/-! ## Events -/

def base64Digit (c : Char) : Option Nat :=
  if 65 ≤ c.toNat ∧ c.toNat ≤ 90 then some (c.toNat - 65)
  else if 97 ≤ c.toNat ∧ c.toNat ≤ 122 then some (c.toNat - 71)
  else if 48 ≤ c.toNat ∧ c.toNat ≤ 57 then some (c.toNat + 4)
  else if c = '+' then some 62
  else if c = '/' then some 63
  else none

def base64Groups : List Nat → List UInt8
  | a :: b :: c :: d :: rest =>
      UInt8.ofNat (a * 4 + b / 16) :: UInt8.ofNat (b % 16 * 16 + c / 4) :: UInt8.ofNat (c % 4 * 64 + d) :: base64Groups rest
  | [a, b, c] => [UInt8.ofNat (a * 4 + b / 16), UInt8.ofNat (b % 16 * 16 + c / 4)]
  | [a, b] => [UInt8.ofNat (a * 4 + b / 16)]
  | _ => []

-- `/^[A-Za-z0-9+/]*={0,2}$/` of a length divisible by 4
def base64Bytes (value : Text) : Option (List UInt8) :=
  let digits := value.takeWhile fun c => (base64Digit c).isSome
  let padding := value.dropWhile fun c => (base64Digit c).isSome
  if padding.length ≤ 2 ∧ padding.all (· = '=') = true ∧ value.length % 4 = 0 then
    some (base64Groups (digits.filterMap base64Digit))
  else none

inductive EventState where
  | complete
  | truncated
  | missing
  | mismatch
  deriving DecidableEq, Repr

structure AttributedInvocation extends Invocation where
  events : List (List UInt8)
  eventState : EventState
  deriving DecidableEq, Repr

def eventsOf (attributed : Option ProgramFrames) (ours index : Nat) : List (List UInt8) × EventState :=
  match attributed with
  | none => ([], .missing)
  | some attributed =>
      let countsMatch := !attributed.truncated && attributed.frames.length = ours
      let frame := attributed.frames[index]?
      if !attributed.consistent || (!attributed.truncated && !countsMatch) then ([], .mismatch)
      else if attributed.truncated && (frame.isNone || !attributed.closed.getD index false) then
        ((frame.getD []).filterMap base64Bytes, .truncated)
      else
        match (frame.getD []).mapM base64Bytes with
        | some events => (events, .complete)
        | none => ([], .mismatch)

def attributeFrom (program : Text) (attributed : Option ProgramFrames) (ours : Nat) : Nat → List Invocation →
    List AttributedInvocation
  | _, [] => []
  | k, inv :: rest =>
      if inv.programId = program then
        let (events, eventState) := eventsOf attributed ours k
        { inv with events, eventState } :: attributeFrom program attributed ours (k + 1) rest
      else
        { inv with events := [], eventState := .complete } :: attributeFrom program attributed ours k rest

def transactionInvocations (encode : Text → Except String (List UInt8)) (tx : InvocationTx) (program : Text) :
    Except String (List AttributedInvocation) := do
  let invocations ← flattenInvocations encode tx
  let attributed := (tx.details.bind TransactionMeta.logMessages).map (attributeProgramData program)
  let ours := invocations.countP fun inv => inv.programId = program
  return attributeFrom program attributed ours 0 invocations

end Mancipatio.Invocations
