import Mancipatio.Invocations.Attribution

/-!
# Call trees, their instructions and their logs

What the programs of a transaction do is a forest of frames. The instructions of the transaction are one walk over it
and its log is another.
-/

namespace Mancipatio.Invocations
open Checked

inductive Tag where
  | log
  | returned
  deriving DecidableEq, Repr

def Tag.word : Tag → Text
  | .log => ['l', 'o', 'g', ':']
  | .returned => ['r', 'e', 't', 'u', 'r', 'n', ':']

inductive Activity where
  | done
  | emit (field : Text) (rest : Activity)
  | say (tag : Tag) (text : Text) (rest : Activity)
  | call (ix : CompiledIx) (program : Text) (inner : Activity) (failure : Option Text) (rest : Activity)
  deriving DecidableEq, Repr

structure Frame where
  ix : CompiledIx
  program : Text
  inner : Activity
  failure : Option Text
  deriving DecidableEq, Repr

def activity (frames : List Frame) : Activity :=
  frames.foldr (fun frame => .call frame.ix frame.program frame.inner frame.failure) .done

/-! ## The log -/

def lineOf (name text : Text) : Text :=
  programStart ++ (name ++ ' ' :: text)

def invokeText (depth : Nat) : Text :=
  invokeStart ++ (Nat.toDigits 10 depth ++ [']'])

def outcomeText : Option Text → Text
  | none => successText
  | some why => failedStart ++ why

def Activity.lines (depth : Nat) : Activity → List Text
  | .done => []
  | .emit field rest => lineOf dataWord field :: rest.lines depth
  | .say tag text rest => lineOf tag.word text :: rest.lines depth
  | .call _ program inner failure rest =>
      lineOf program (invokeText (depth + 1)) ::
        (inner.lines (depth + 1) ++ lineOf program (outcomeText failure) :: rest.lines depth)

def transactionLog (frames : List Frame) : List Text :=
  (activity frames).lines 0

/-- The log up to some line, and whatever stands after the truncation. -/
def truncatedLog (frames : List Frame) (kept : Nat) (notice : Text) (after : List Text) : List Text :=
  (transactionLog frames).take kept ++ (truncationStart ++ notice) :: after

/-! ## The instructions -/

def Activity.ixs : Activity → List CompiledIx
  | .done => []
  | .emit _ rest | .say _ _ rest => rest.ixs
  | .call ix _ inner _ rest => ix :: (inner.ixs ++ rest.ixs)

def Activity.frames : Activity → List (Text × Activity)
  | .done => []
  | .emit _ rest | .say _ _ rest => rest.frames
  | .call _ program inner _ rest => (program, inner) :: (inner.frames ++ rest.frames)

def Activity.own : Activity → List Text
  | .done => []
  | .emit field rest => field :: rest.own
  | .say _ _ rest | .call _ _ _ _ rest => rest.own

structure Names (encode : Text → Except String (List UInt8)) (keys : List Text) (ix : CompiledIx) (program : Text) : Prop where
  program : keyAt keys ix.programIdIndex = .ok program
  accounts : ∃ accounts, ix.accounts.mapM (keyAt keys) = .ok accounts
  data : ∃ bytes, encode ix.data = .ok bytes

def Activity.Named (encode : Text → Except String (List UInt8)) (keys : List Text) : Activity → Prop
  | .done => True
  | .emit _ rest | .say _ _ rest => rest.Named encode keys
  | .call ix program inner _ rest => Names encode keys ix program ∧ inner.Named encode keys ∧ rest.Named encode keys

structure Encodes (encode : Text → Except String (List UInt8)) (tx : InvocationTx) (frames : List Frame) : Prop where
  top : tx.instructions = frames.map Frame.ix
  inner : ∀ i frame, frames[i]? = some frame → innerOf tx i = frame.inner.ixs
  named : (activity frames).Named encode (resolveAccountKeys tx)

def IsAddress (program : Text) : Prop :=
  program ≠ [] ∧ ∀ c ∈ program, isBase58Char c = true
  deriving Decidable

/-- The runtime writes the addresses of programs, base64 texts and outcomes of one line. -/
def Activity.WellFormed : Activity → Prop
  | .done => True
  | .emit field rest => field ≠ [] ∧ (base64Bytes field).isSome ∧ rest.WellFormed
  | .say _ _ rest => rest.WellFormed
  | .call _ program inner failure rest =>
      IsAddress program ∧ (∀ why ∈ failure, ∀ c ∈ why, isLineTerminator c = false) ∧ inner.WellFormed ∧ rest.WellFormed

/-! ## How the lines are read -/

theorem isPrefixOf?_append (start rest : Text) : start.isPrefixOf? (start ++ rest) = some rest :=
  List.isPrefixOf?_eq_some_iff_append_eq.mpr rfl

def IsName (name : Text) : Prop :=
  name ≠ [] ∧ ∀ c ∈ name, isSpace c = false

theorem headed_lineOf {name : Text} (named : IsName name) (text : Text) : headed (lineOf name text) = some (name, text) := by
  have word : ∀ c ∈ name, (fun c => !isSpace c) c = true := by
    intro c member
    simp only [named.2 c member, Bool.not_false]
  have blank : (!isSpace ' ') = false := by decide
  have name' : (name ++ ' ' :: text).takeWhile (fun c => !isSpace c) = name := by
    rw [List.takeWhile_append_of_pos word, List.takeWhile_cons_of_neg (by simp [blank]), List.append_nil]
  have rest : (name ++ ' ' :: text).dropWhile (fun c => !isSpace c) = ' ' :: text := by
    rw [List.dropWhile_append_of_pos word, List.dropWhile_cons_of_neg (by simp [blank])]
  have start : [' '].isPrefixOf? (' ' :: text) = some text := isPrefixOf?_append [' '] text
  simp only [headed, lineOf, isPrefixOf?_append, name', rest, start, named.1, if_false, Option.bind_eq_bind, Option.bind_some]

theorem address_solid {program : Text} (address : IsAddress program) {c : Char} (member : c ∈ program) :
    isSpace c = false ∧ c ≠ ':' := by
  have alphanum := base58_alphanum (address.2 c member)
  refine ⟨alphanum_solid alphanum, ?_⟩
  rintro rfl
  exact absurd alphanum (by decide)

theorem isName_address {program : Text} (address : IsAddress program) : IsName program :=
  ⟨address.1, fun _ member => (address_solid address member).1⟩

theorem isName_data : IsName dataWord := by
  constructor <;> simp [dataWord, isSpace]

theorem isName_tag (tag : Tag) : IsName tag.word := by
  cases tag <;> constructor <;> simp [Tag.word, isSpace]

theorem address_ne {program name : Text} (address : IsAddress program) (colon : ':' ∈ name) : program ≠ name := by
  rintro rfl
  exact (address_solid address colon).2 rfl

theorem colon_tag (tag : Tag) : ':' ∈ tag.word := by
  cases tag <;> decide

theorem invoke_lineOf {name : Text} (named : IsName name) (text : Text) :
    invoke (lineOf name text) = (invokeDepth text).map (name, ·) := by
  simp only [invoke, headed_lineOf named, Option.bind_eq_bind, Option.bind_some]
  cases invokeDepth text <;> rfl

theorem exit_lineOf {name : Text} (named : IsName name) (text : Text) :
    exit (lineOf name text) = if isOutcome text = true then some name else none := by
  rw [exit, headed_lineOf named]
  rfl

theorem data_lineOf {name : Text} (named : IsName name) (text : Text) :
    data (lineOf name text) = if name = dataWord ∧ isWord text = true then some text else none := by
  rw [data, headed_lineOf named]
  rfl

theorem invokeDepth_invokeText (depth : Nat) : invokeDepth (invokeText depth) = some depth := by
  have digits : ∀ c ∈ Nat.toDigits 10 depth, Char.isDigit c = true := fun c member => Nat.isDigit_of_mem_toDigits (by decide) (by decide) member
  have bracket : Char.isDigit ']' = false := by decide
  have some' : Nat.toDigits 10 depth ≠ [] := by simp
  have taken : (Nat.toDigits 10 depth ++ [']']).takeWhile Char.isDigit = Nat.toDigits 10 depth := by
    rw [List.takeWhile_append_of_pos digits, List.takeWhile_cons_of_neg (by simp [bracket]), List.append_nil]
  have left : (Nat.toDigits 10 depth ++ [']']).dropWhile Char.isDigit = [']'] := by
    rw [List.dropWhile_append_of_pos digits, List.dropWhile_cons_of_neg (by simp [bracket])]
  simp only [invokeDepth, invokeText, isPrefixOf?_append, taken, left, Option.bind_eq_bind, Option.bind_some, some', ne_eq,
    not_false_eq_true, and_self, if_true, Nat.ofDigitChars_ten_toDigits]

theorem invokeDepth_outcomeText (failure : Option Text) : invokeDepth (outcomeText failure) = none := by
  cases failure with
  | none => decide
  | some why => rfl

theorem isOutcome_outcomeText {failure : Option Text} (line : ∀ why ∈ failure, ∀ c ∈ why, isLineTerminator c = false) :
    isOutcome (outcomeText failure) = true := by
  cases failure with
  | none => decide
  | some why =>
      have shown : (why.all fun c => !isLineTerminator c) = true := by
        rw [List.all_eq_true]
        intro c member
        rw [line why rfl c member, Bool.not_false]
      rw [isOutcome, outcomeText, isPrefixOf?_append, Option.map_some, Option.getD_some, shown, Bool.or_true]

end Mancipatio.Invocations
