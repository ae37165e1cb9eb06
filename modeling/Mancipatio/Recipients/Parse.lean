import Mancipatio.Texts
import Mancipatio.Library.Checked

/-!
# The list of recipients

One wallet and one amount on each line of the box, or a pasted table. Each line is split on its own delimiter; an
amount may carry thousands separators.
-/

namespace Mancipatio.Recipients
open Checked

def maxDistributionRows : Nat := 200
def u64Max : Nat := 18446744073709551615

structure RecipientRow where
  wallet : Text
  amount : Nat
  lines : List Nat
  deriving DecidableEq, Repr

structure ParseIssue where
  line : Nat
  text : String
  deriving DecidableEq, Repr

structure ParsedRecipients where
  rows : List RecipientRow
  errors : List ParseIssue
  merged : List RecipientRow
  header : Bool
  total : Nat
  deriving DecidableEq, Repr

/-! ## Addresses -/

def base58Alphabet : Text :=
  ['1', '2', '3', '4', '5', '6', '7', '8', '9', 'A', 'B', 'C', 'D', 'E', 'F', 'G', 'H', 'J', 'K', 'L', 'M', 'N', 'P', 'Q', 'R',
    'S', 'T', 'U', 'V', 'W', 'X', 'Y', 'Z', 'a', 'b', 'c', 'd', 'e', 'f', 'g', 'h', 'i', 'j', 'k', 'm', 'n', 'o', 'p', 'q', 'r',
    's', 't', 'u', 'v', 'w', 'x', 'y', 'z']

/-- Every leading `1` is a zero byte; the rest is the number in as many bytes as it takes. -/
def base58Size (text : Text) : Nat :=
  let zeros := (text.takeWhile (· = '1')).length
  let number := text.foldl (fun n c => 58 * n + base58Alphabet.idxOf c) 0
  zeros + (Nat.digits 256 number).length

def isAddress (text : Text) : Bool :=
  32 ≤ text.length ∧ text.length ≤ 44 ∧ text.all isBase58Char = true ∧ base58Size text = 32

/-! ## Cells -/

inductive Delimiter where
  | tab
  | semicolon
  | comma
  | space
  deriving DecidableEq, Repr

structure Cell where
  text : Text
  quoted : Bool
  deriving DecidableEq, Repr

def delimiters : List Delimiter := [.tab, .semicolon, .comma, .space]

def doubleQuote : Char := Char.ofNat 34
def apostrophe : Char := Char.ofNat 39

def closingQuote (c : Char) : Option Char :=
  if c = doubleQuote then some doubleQuote
  else if c = apostrophe then some apostrophe
  else if c = '“' then some '”'
  else if c = '”' then some '”'
  else if c = '‘' then some '’'
  else none

def Delimiter.separates : Delimiter → Char → Bool
  | .tab, c => c = Char.ofNat 9
  | .semicolon, c => c = ';'
  | .comma, c => c = ','
  | .space, c => isSpace c

def pushCell (delimiter : Delimiter) (text : Text) (quoted : Bool) : List Cell :=
  if delimiter ≠ .space ∨ trim text ≠ [] ∨ quoted = true then [{ text := trim text, quoted }] else []

/-- What follows of the cells, in or out of quotes and with the text of the current cell so far. The second of two
double quotes is skipped. -/
def splitFrom (delimiter : Delimiter) : Bool → Option Char → Text → Bool → Text → List Cell
  | _, _, text, quoted, [] => pushCell delimiter text quoted
  | true, closing, text, quoted, _ :: rest => splitFrom delimiter false closing text quoted rest
  | false, some closing, text, quoted, c :: rest =>
      if c = closing then
        if c = doubleQuote ∧ rest.head? = some doubleQuote then
          splitFrom delimiter true (some closing) (text ++ [doubleQuote]) quoted rest
        else splitFrom delimiter false none text quoted rest
      else splitFrom delimiter false (some closing) (text ++ [c]) quoted rest
  | false, none, text, quoted, c :: rest =>
      if (closingQuote c).isSome = true ∧ quoted = false ∧ trim text = [] then
        splitFrom delimiter false (closingQuote c) [] true rest
      else if delimiter.separates c = true then pushCell delimiter text quoted ++ splitFrom delimiter false none [] false rest
      else splitFrom delimiter false none (text ++ [c]) quoted rest

def splitLine (line : Text) (delimiter : Delimiter) : List Cell :=
  splitFrom delimiter false none [] false line

def filledCells (cells : List Cell) : List Cell :=
  cells.filter fun cell => cell.text ≠ []

/-- The first delimiter that splits off an address, else the first that splits at all. -/
def splitBestOf (line : Text) : Option (List Cell × Delimiter) → List Delimiter → List Cell × Delimiter
  | fallback, [] => fallback.getD (splitLine line .space, .space)
  | fallback, delimiter :: rest =>
      let cells := splitLine line delimiter
      let filled := filledCells cells
      if filled.length < 2 then splitBestOf line fallback rest
      else if filled.any (fun cell => isAddress cell.text) = true then (cells, delimiter)
      else splitBestOf line (fallback <|> some (cells, delimiter)) rest

def splitBest (line : Text) : List Cell × Delimiter :=
  splitBestOf line none delimiters

/-! ## Amounts -/

-- `/^\d+$/`
def isDigits (text : Text) : Bool :=
  !text.isEmpty && text.all Char.isDigit

def digitsValue (text : Text) : Nat :=
  Nat.ofDigitChars 10 text 0

def wholeTokens (cell : Text) : Option Nat :=
  if isDigits cell = true ∧ digitsValue cell ≤ u64Max then some (digitsValue cell) else none

-- the comma, two apostrophes, the no-break space, the narrow one and the blank
def thousandsSeparators : List Char :=
  [',', apostrophe, '’', Char.ofNat 0xa0, Char.ofNat 0x202f, ' ']

def isThousandsSeparator (c : Char) : Bool :=
  c ∈ thousandsSeparators

/-- `^[-+]?\d[\d.,'’   ]*$`, with the three blanks of the separators -/
def numberLike (text : Text) : Bool :=
  let unsigned := if text.head? = some '-' ∨ text.head? = some '+' then text.tail else text
  (unsigned.head?.map Char.isDigit).getD false && unsigned.tail.all fun c => c.isDigit || c = '.' || isThousandsSeparator c

-- `([,'’   ]\d{3})+$`, or nothing
def isGroups : Text → Bool
  | [] => true
  | c :: a :: b :: d :: rest => isThousandsSeparator c && a.isDigit && b.isDigit && d.isDigit && isGroups rest
  | _ => false

/-- `^\d{1,3}([,'’   ]\d{3})+$` -/
def isThousands (text : Text) : Bool :=
  let first := text.takeWhile Char.isDigit
  let groups := text.dropWhile Char.isDigit
  1 ≤ first.length && first.length ≤ 3 && !groups.isEmpty && isGroups groups

def withoutThousands (text : Text) : Text :=
  if isThousands text = true then text.filter fun c => !isThousandsSeparator c else text

-- `/^\d+[.,]\d+$/`
def isDecimal (text : Text) : Bool :=
  match text.dropWhile Char.isDigit with
  | mark :: decimals => isDigits (text.takeWhile Char.isDigit) && (mark = '.' || mark = ',') && isDigits decimals
  | [] => false

def readAmount (text : Text) : Except String Nat := do
  let t := withoutThousands (trim text)
  require (isDecimal t = false) "Share tokens are whole: use a whole number of tokens."
  let amount ← okOr (wholeTokens t) "The amount must be a whole number of tokens (digits only)."
  require (1 ≤ amount) "Send at least 1 token, or remove the line."
  return amount

def ambiguousAmount : String :=
  "Is this one number with a thousands separator, or two columns? Write it without the separator (1000), in quotes (\"1,000\"), or add a header row naming the columns."

/-! ## Header -/

def walletHeaders : List String :=
  ["wallet", "wallets", "address", "wallet address", "solana address", "recipient", "recipient wallet", "recipient address",
    "holder", "owner", "pubkey", "public key", "account"]

def amountHeaders : List String :=
  ["amount", "amounts", "tokens", "token amount", "number of tokens", "quantity", "qty", "shares", "units", "count"]

def isHeaderName (names : List String) (text : Text) : Bool :=
  names.contains (String.ofList (text.map Char.toLower))

structure Columns where
  wallet : Nat
  amount : Nat
  width : Nat
  delimiter : Delimiter
  deriving DecidableEq, Repr

def looksLikeHeader (cells : List Cell) : Bool :=
  let filled := filledCells cells
  !filled.isEmpty && filled.all (fun cell => !isAddress cell.text && !numberLike cell.text) &&
    filled.any fun cell => cell.text.any Char.isAlpha

def headerColumns (cells : List Cell) (delimiter : Delimiter) : Option Columns := do
  let wallet ← cells.findIdx? fun cell => isHeaderName walletHeaders cell.text
  let amount ← cells.findIdx? fun cell => isHeaderName amountHeaders cell.text
  if wallet = amount then none else some { wallet, amount, width := cells.length, delimiter }

/-! ## One line -/

structure Payment where
  wallet : Text
  amount : Nat
  deriving DecidableEq, Repr

def onOneLine : String := "Write the wallet address and the number of tokens on the same line."

/-- The first number after the wallet; else the last one before it. -/
def amountIndex (filled : List Cell) (at' : Nat) : Option Nat :=
  let numbers := (List.range filled.length).filter fun i => (filled[i]?.map fun cell => numberLike cell.text).getD false
  (numbers.find? fun i => at' < i) <|> (numbers.filter fun i => i < at').getLast?

/-- `wallet,1,000` or `wallet 1 000` -/
def isAmbiguous (delimiter : Delimiter) (amount : Cell) (next : Option Cell) : Bool :=
  (delimiter = .comma || delimiter = .space) && !amount.quoted && isDigits amount.text &&
    (next.map fun next => !next.quoted && isDigits next.text).getD false

def readPositional (line : Text) : Except String Payment := do
  let (cells, delimiter) := splitBest line
  let filled := filledCells cells
  let at' ← okOr (filled.findIdx? fun cell => isAddress cell.text)
    (if filled.length < 2 then onOneLine else "Not a valid Solana wallet address.")
  let wallet := (filled[at']?.map Cell.text).getD []
  require (filled.all (fun cell => !isAddress cell.text || cell.text = wallet) = true)
    "Two different wallet addresses on one line: keep only the recipient's column, or add a header row naming it \"wallet\"."
  let k ← okOr (amountIndex filled at') onOneLine
  let amount := filled[k]?.getD { text := [], quoted := false }
  require (isAmbiguous delimiter amount filled[k + 1]? = false) ambiguousAmount
  return { wallet, amount := ← readAmount amount.text }

def readMapped (line : Text) (columns : Columns) : Except String Payment :=
  let cells := splitLine line columns.delimiter
  if (filledCells cells).length < 2 then readPositional line
  else do
    require (¬(columns.delimiter = .comma ∧ columns.width < cells.length))
      "This line has more columns than the header row: put an amount with a thousands separator in quotes (\"1,000\")."
    let wallet := (cells[columns.wallet]?.map Cell.text).getD []
    let amount := (cells[columns.amount]?.map Cell.text).getD []
    require (wallet ≠ [] ∧ amount ≠ []) onOneLine
    require (isAddress wallet = true) "Not a valid Solana wallet address."
    return { wallet, amount := ← readAmount amount }

/-! ## The list -/

/-- `/\r?\n/` -/
def splitLines : Text → List Text
  | [] => [[]]
  | '\n' :: rest => [] :: splitLines rest
  | c :: rest =>
      match c, rest with
      | '\r', '\n' :: after => [] :: splitLines after
      | c, rest =>
          match splitLines rest with
          | line :: lines => (c :: line) :: lines
          | [] => [[c]]

/-- The content lines, trimmed and with their numbers: neither blank nor a comment. -/
def contentLines (text : Text) : List (Nat × Text) :=
  ((splitLines text).zipIdx 1).filterMap fun (line, lineNo) =>
    if trim line = [] ∨ (trim line).head? = some '#' then none else some (lineNo, trim line)

def headerOf (content : List (Nat × Text)) : Option (Option Columns) :=
  match content with
  | [] => none
  | (_, line) :: _ =>
      let (cells, delimiter) := splitBest line
      if looksLikeHeader cells = true then some (headerColumns cells delimiter) else none

def readLine (columns : Option Columns) (line : Text) : Except String Payment :=
  match columns with
  | some columns => readMapped line columns
  | none => readPositional line

structure Collected where
  rows : List RecipientRow
  errors : List ParseIssue
  deriving DecidableEq, Repr

def Collected.fail (s : Collected) (line : Nat) (text : String) : Collected :=
  { s with errors := s.errors ++ [{ line, text }] }

def Collected.add (s : Collected) (lineNo : Nat) (payment : Payment) : Collected :=
  match s.rows.find? fun row => row.wallet = payment.wallet with
  | some existing =>
      let amount := existing.amount + payment.amount
      let merged := { s with rows := s.rows.map fun row =>
        if row.wallet = payment.wallet then { row with amount, lines := row.lines ++ [lineNo] } else row }
      if u64Max < amount then merged.fail lineNo "The merged amount is too large." else merged
  | none => { s with rows := s.rows ++ [{ wallet := payment.wallet, amount := payment.amount, lines := [lineNo] }] }

def Collected.read (columns : Option Columns) (s : Collected) (line : Nat × Text) : Collected :=
  match readLine columns line.2 with
  | .ok payment => s.add line.1 payment
  | .error text => s.fail line.1 text

def tooManyRows (n : Nat) : String :=
  s!"At most {maxDistributionRows} wallets per run; split the list ({n} wallets now)."

def parseRecipients (text : Text) : ParsedRecipients :=
  let content := contentLines text
  let header := headerOf content
  let lines := if header.isSome = true then content.tail else content
  let collected := lines.foldl (Collected.read (header.getD none)) { rows := [], errors := [] }
  let rows := collected.rows
  { rows
    errors := collected.errors ++
      if maxDistributionRows < rows.length then [{ line := 0, text := tooManyRows rows.length }] else []
    merged := rows.filter fun row => 1 < row.lines.length
    header := header.isSome
    total := (rows.map RecipientRow.amount).sum }

def normalizedRows (rows : List Payment) : Text :=
  let lines := rows.map fun row => row.wallet ++ ',' :: Nat.toDigits 10 row.amount
  ['\n'].intercalate (lines.insertionSort (· ≤ ·))

end Mancipatio.Recipients
