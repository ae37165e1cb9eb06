import Mancipatio.Invocations.Spoofing

/-!
# Every invocation gets the events of its own frame
-/

namespace Mancipatio.Invocations
open Checked

/-! ## The program's frames in a log -/

theorem readFrom_lines {program : Text} {s : Reading} {lines : List Text} (kept : ∀ line ∈ lines, isTruncation line = false)
    (rest : List Text) : readFrom program s (lines ++ rest) = readFrom program (lines.foldl (Reading.next program) s) rest := by
  induction lines generalizing s with
  | nil => rfl
  | cons line lines ih =>
      obtain ⟨first, others⟩ := List.forall_mem_cons.mp kept
      rw [List.cons_append, readFrom, first, if_neg Bool.false_ne_true, ih others, List.foldl_cons]

theorem lines_kept (a : Activity) (depth : Nat) : ∀ line ∈ a.lines depth, isTruncation line = false := by
  induction a generalizing depth with
  | done => exact List.forall_mem_nil _
  | emit field rest ih => exact List.forall_mem_cons.mpr ⟨isTruncation_lineOf _ _, ih depth⟩
  | say tag text rest ih => exact List.forall_mem_cons.mpr ⟨isTruncation_lineOf _ _, ih depth⟩
  | call ix program inner failure rest ihInner ih =>
      refine List.forall_mem_cons.mpr ⟨isTruncation_lineOf _ _, List.forall_mem_append.mpr ⟨ihInner _, ?_⟩⟩
      exact List.forall_mem_cons.mpr ⟨isTruncation_lineOf _ _, ih depth⟩

section log
variable {program : Text} {frames : List Frame}

theorem keeps_nothing (frames : List (List Text)) : Keeps program [] frames := by
  intro top head
  cases head

theorem transactionLog_settled (address : IsAddress program) (wellFormed : (activity frames).WellFormed) {left : List Tag}
    (settles : (activity frames).settle 0 [] = some left) :
    (transactionLog frames).foldl (Reading.next program) nothingRead =
      { stack := left.map pretend, frames := (framesOf program (activity frames)).map fun inner => inner.shown [],
        closed := List.replicate (framesOf program (activity frames)).length true, consistent := true } := by
  have read := @settled_lines program address (activity frames) wellFormed [] [] left [] [] (keeps_nothing []) rfl settles
  simpa [grow, transactionLog, nothingRead] using read

theorem attribute_whole (program : Text) (frames : List Frame) :
    attributeProgramData program (transactionLog frames) =
      readFrom program ((transactionLog frames).foldl (Reading.next program) nothingRead) [] := by
  have read := @readFrom_lines program nothingRead _ (lines_kept (activity frames) 0) []
  rwa [List.append_nil] at read

theorem attribute_settled (address : IsAddress program) (wellFormed : (activity frames).WellFormed)
    (settles : (activity frames).settle 0 [] = some []) :
    attributeProgramData program (transactionLog frames) =
      { frames := (framesOf program (activity frames)).map fun inner => inner.shown [],
        closed := List.replicate (framesOf program (activity frames)).length true, truncated := false, consistent := true } := by
  rw [attribute_whole, transactionLog_settled address wellFormed settles]
  rfl

theorem attribute_unsettled (address : IsAddress program) (wellFormed : (activity frames).WellFormed)
    (unsettled : (activity frames).settle 0 [] ≠ some []) :
    (attributeProgramData program (transactionLog frames)).consistent = false := by
  rw [attribute_whole, readFrom]
  cases settled : (activity frames).settle 0 [] with
  | none =>
      have read := @unsettled_lines program address (activity frames) wellFormed [] (List.forall_mem_nil _) [] [] []
        (keeps_nothing []) rfl settled
      have read' : ((transactionLog frames).foldl (Reading.next program) nothingRead).consistent = false := read
      simp only [read', Bool.false_and]
  | some left =>
      rw [transactionLog_settled address wellFormed settled]
      cases left with
      | nil => exact absurd settled unsettled
      | cons tag left => rfl

theorem attribute_truncated (program : Text) (frames : List Frame) (kept : Nat) (notice : Text) (after : List Text) :
    attributeProgramData program (truncatedLog frames kept notice after) =
      let s := ((transactionLog frames).take kept).foldl (Reading.next program) nothingRead
      { frames := s.frames, closed := s.closed, truncated := true, consistent := s.consistent } := by
  have lines : ∀ line ∈ (transactionLog frames).take kept, isTruncation line = false :=
    fun line member => lines_kept (activity frames) 0 line (List.mem_of_mem_take member)
  rw [attributeProgramData, truncatedLog, readFrom_lines lines, readFrom, if_pos]
  rw [isTruncation, List.isPrefixOf_iff_prefix]
  exact List.prefix_append _ _

theorem shown_before (address : IsAddress program) (wellFormed : (activity frames).WellFormed)
    (settles : (activity frames).settle 0 [] = some []) (kept : Nat) {k : Nat} {inner : Activity}
    (found : (framesOf program (activity frames))[k]? = some inner) {fields : List Text}
    (shown : (((transactionLog frames).take kept).foldl (Reading.next program) nothingRead).frames[k]? = some fields) :
    fields <+: inner.shown [] ∧
      ((((transactionLog frames).take kept).foldl (Reading.next program) nothingRead).closed[k]? = some true →
        fields = inner.shown []) := by
  have whole := transactionLog_settled address wellFormed settles
  rw [← List.take_append_drop kept (transactionLog frames), List.foldl_append] at whole
  obtain ⟨sound, -⟩ := @later_lines program _ sound_nothingRead ((transactionLog frames).take kept)
  obtain ⟨more, found', kept'⟩ := (@later_lines program _ sound ((transactionLog frames).drop kept)).2.grown k fields shown
  rw [whole, List.getElem?_map, found, Option.map_some, Option.some.injEq] at found'
  refine ⟨⟨more, found'.symm⟩, fun closed => ?_⟩
  rw [found', (kept' closed).1, List.append_nil]

end log

/-! ## The invocations -/

section invocations
variable {encode : Text → Except String (List UInt8)} {tx : InvocationTx} {frames : List Frame}

theorem named_frames {keys : List Text} {a : Activity} (named : a.Named encode keys) :
    List.Forall₂ (fun ix frame => Names encode keys ix frame.1) a.ixs a.frames := by
  induction a with
  | done => exact .nil
  | emit field rest ih => exact ih named
  | say tag text rest ih => exact ih named
  | call ix program inner failure rest ihInner ih =>
      exact .cons named.1 (List.rel_append (ihInner named.2.1) (ih named.2.2))

theorem executionOrder_from {tops : List Frame} {n : Nat} (inner : ∀ i frame, tops[i]? = some frame → innerOf tx (n + i) = frame.inner.ixs) :
    (((tops.map Frame.ix).zipIdx n).flatMap fun (ix, i) => (ix, false, i) :: (innerOf tx i).map (·, true, i)).map Prod.fst =
      (activity tops).ixs := by
  induction tops generalizing n with
  | nil => rfl
  | cons frame tops ih =>
      have first := inner 0 frame rfl
      have later := @ih (n + 1) fun i frame found => by
        rw [Nat.add_assoc, Nat.add_comm 1 i]
        exact inner (i + 1) frame found
      rw [Nat.add_zero] at first
      rw [List.map_cons, List.zipIdx_cons, List.flatMap_cons, List.map_append, later]
      dsimp only
      rw [first]
      simp [activity, Activity.ixs, List.map_map, Function.comp_def]

theorem executionOrder_ixs (encodes : Encodes encode tx frames) : (executionOrder tx).map Prod.fst = (activity frames).ixs := by
  rw [executionOrder, encodes.top]
  apply executionOrder_from
  intro i frame found
  rw [Nat.zero_add]
  exact encodes.inner i frame found

theorem invocation_named {keys : List Text} {ix : CompiledIx} {program : Text} (names : Names encode keys ix program)
    (ordinal : Nat) (inner : Bool) (topIndex : Nat) :
    ∃ inv, invocation encode keys ordinal ix inner topIndex = .ok inv ∧ inv.programId = program := by
  obtain ⟨named, ⟨accounts, keyed⟩, data, encoded⟩ := names
  refine ⟨{ ordinal, programId := program, accounts, data, inner, topIndex }, ?_, rfl⟩
  simp only [invocation, bind_eq_ok, pure_eq_ok]
  exact ⟨program, named, accounts, keyed, data, encoded, rfl⟩

theorem flattenInvocations_frames (encodes : Encodes encode tx frames) :
    ∃ invocations, flattenInvocations encode tx = .ok invocations ∧
      List.Forall₂ (fun inv frame => inv.programId = frame.1) invocations (activity frames).frames := by
  have named := named_frames encodes.named
  rw [← executionOrder_ixs encodes, List.forall₂_map_left_iff, ← List.zipIdx_map_fst 0 (executionOrder tx),
    List.forall₂_map_left_iff] at named
  rw [flattenInvocations]
  generalize (executionOrder tx).zipIdx = numbered at named
  generalize (activity frames).frames = nodes at named
  induction named with
  | nil => exact ⟨[], rfl, .nil⟩
  | @cons entry frame numbered nodes names _ ih =>
      obtain ⟨⟨ix, inner, topIndex⟩, ordinal⟩ := entry
      obtain ⟨inv, made, named⟩ := invocation_named names ordinal inner topIndex
      obtain ⟨invocations, rest, programs⟩ := ih
      refine ⟨inv :: invocations, ?_, .cons named programs⟩
      simp only [List.mapM_cons, bind_eq_ok, pure_eq_ok]
      exact ⟨inv, made, invocations, rest, rfl⟩

end invocations

/-! ## The events of each invocation -/

def framesAmong (program : Text) (nodes : List (Text × Activity)) : List Activity :=
  (nodes.filter fun frame => frame.1 = program).map Prod.snd

/-- The invocations of the program are reported as the relation says of their frames, in order. -/
theorem attributeFrom_iff {program : Text} {attributed : Option ProgramFrames} {ours : Nat}
    {R : Activity → List (List UInt8) × EventState → Prop} {invocations : List Invocation} {nodes : List (Text × Activity)}
    (programs : List.Forall₂ (fun inv frame => inv.programId = frame.1) invocations nodes) (k : Nat) :
    List.Forall₂ (fun inv frame => inv.programId = frame.1 ∧ (frame.1 = program → R frame.2 (inv.events, inv.eventState)))
        (attributeFrom program attributed ours k invocations) nodes ↔
      ∀ j inner, (framesAmong program nodes)[j]? = some inner → R inner (eventsOf attributed ours (k + j)) := by
  induction programs generalizing k with
  | nil => simp [attributeFrom, framesAmong]
  | @cons inv frame invocations nodes named programs ih =>
      obtain ⟨name, inner⟩ := frame
      rw [attributeFrom]
      by_cases mine : name = program
      · have among : framesAmong program ((name, inner) :: nodes) = inner :: framesAmong program nodes := by
          simp [framesAmong, mine]
        rw [if_pos (named.trans mine), List.forall₂_cons, ih (k + 1), among]
        constructor
        · rintro ⟨⟨-, first⟩, later⟩ j other found
          cases j with
          | zero =>
              obtain rfl := Option.some.inj found
              exact first mine
          | succ j =>
              rw [Nat.add_comm j 1, ← Nat.add_assoc]
              exact later j other found
        · intro all
          refine ⟨⟨named, fun _ => all 0 inner rfl⟩, fun j other found => ?_⟩
          have next := all (j + 1) other found
          rwa [Nat.add_comm j 1, ← Nat.add_assoc] at next
      · have among : framesAmong program ((name, inner) :: nodes) = framesAmong program nodes := by
          simp [framesAmong, mine]
        have other : ¬inv.programId = program := fun same => mine (named.symm.trans same)
        rw [if_neg other, List.forall₂_cons, ih k, among]
        exact ⟨fun both => both.2, fun all => ⟨⟨named, fun same => absurd same mine⟩, all⟩⟩

theorem count_ours {program : Text} {invocations : List Invocation} {nodes : List (Text × Activity)}
    (programs : List.Forall₂ (fun inv frame => inv.programId = frame.1) invocations nodes) :
    (invocations.countP fun inv => inv.programId = program) = (framesAmong program nodes).length := by
  induction programs with
  | nil => rfl
  | @cons inv frame invocations nodes named programs ih =>
      rw [List.countP_cons, ih]
      by_cases mine : frame.1 = program <;> simp [framesAmong, named, mine]

theorem mapM_decodes {fields : List Text} (decode : ∀ field ∈ fields, (base64Bytes field).isSome = true) :
    fields.mapM base64Bytes = some (fields.filterMap base64Bytes) := by
  induction fields with
  | nil => rfl
  | cons field fields ih =>
      obtain ⟨first, others⟩ := List.forall_mem_cons.mp decode
      obtain ⟨bytes, decoded⟩ := Option.isSome_iff_exists.mp first
      rw [List.mapM_cons, ih others, decoded, List.filterMap_cons_some decoded]
      rfl

theorem filterMap_length {fields : List Text} (decode : ∀ field ∈ fields, (base64Bytes field).isSome = true) :
    (fields.filterMap base64Bytes).length = fields.length := by
  rw [List.filterMap_length_eq_length]
  exact decode

theorem own_decodes {a : Activity} (wellFormed : a.WellFormed) : ∀ field ∈ a.own, (base64Bytes field).isSome = true := by
  induction a with
  | done => exact List.forall_mem_nil _
  | emit field rest ih => exact List.forall_mem_cons.mpr ⟨wellFormed.2.1, ih wellFormed.2.2⟩
  | say tag text rest ih => exact ih wellFormed
  | call ix program inner failure rest _ ih => exact ih wellFormed.2.2.2

theorem frames_wellFormed {a : Activity} (wellFormed : a.WellFormed) : ∀ frame ∈ a.frames, frame.2.WellFormed := by
  induction a with
  | done => exact List.forall_mem_nil _
  | emit field rest ih => exact ih wellFormed.2.2
  | say tag text rest ih => exact ih wellFormed
  | call ix program inner failure rest ihInner ih =>
      obtain ⟨-, -, inside, wellFormed⟩ := wellFormed
      exact List.forall_mem_cons.mpr ⟨inside, List.forall_mem_append.mpr ⟨ihInner inside, ih wellFormed⟩⟩

theorem framesOf_wellFormed {program : Text} {a : Activity} (wellFormed : a.WellFormed) :
    ∀ inner ∈ framesOf program a, inner.WellFormed := by
  intro inner member
  obtain ⟨frame, found, rfl⟩ := List.mem_map.mp member
  exact frames_wellFormed wellFormed frame (List.mem_of_mem_filter found)

/-! ## Attribution -/

def Activity.events (inner : Activity) : List (List UInt8) :=
  inner.own.filterMap base64Bytes

def InvocationTx.withLog (tx : InvocationTx) (logs : List Text) : InvocationTx :=
  let details := tx.details.getD { loadedAddresses := none, innerInstructions := none, logMessages := none }
  { tx with details := some { details with logMessages := some logs } }

def Reported (R : Activity → List (List UInt8) × EventState → Prop) (program : Text) (frames : List Frame)
    (reported : Except String (List AttributedInvocation)) : Prop :=
  ∃ result, reported = .ok result ∧
    List.Forall₂ (fun inv frame => inv.programId = frame.1 ∧ (frame.1 = program → R frame.2 (inv.events, inv.eventState)))
      result (activity frames).frames

def Whole (inner : Activity) (reported : List (List UInt8) × EventState) : Prop :=
  reported = (inner.events, .complete)

structure Honest (inner : Activity) (reported : List (List UInt8) × EventState) : Prop where
  complete : reported.2 = .complete → reported.1 = inner.events
  truncated : reported.2 = .truncated → reported.1 <+: inner.events

def Refused (_ : Activity) (reported : List (List UInt8) × EventState) : Prop :=
  reported = ([], .mismatch)

structure Attributed (encode : Text → Except String (List UInt8)) (tx : InvocationTx) (frames : List Frame) (program : Text) :
    Prop where
  whole : Reported Whole program frames (transactionInvocations encode (tx.withLog (transactionLog frames)) program)
  cut : ∀ kept notice after,
    Reported Honest program frames (transactionInvocations encode (tx.withLog (truncatedLog frames kept notice after)) program)

section attribution
variable {encode : Text → Except String (List UInt8)} {tx : InvocationTx} {frames : List Frame} {program : Text}

theorem Encodes.withLog (encodes : Encodes encode tx frames) (logs : List Text) : Encodes encode (tx.withLog logs) frames := by
  obtain ⟨top, inner, named⟩ := encodes
  refine ⟨top, fun i frame found => ?_, ?_⟩
  · rw [← inner i frame found]
    cases details : tx.details <;> simp [innerOf, InvocationTx.withLog, details]
  · have keys : resolveAccountKeys (tx.withLog logs) = resolveAccountKeys tx := by
      cases details : tx.details <;> simp [resolveAccountKeys, InvocationTx.withLog, details]
    rw [keys]
    exact named

theorem reported_iff (encodes : Encodes encode tx frames) (logs : List Text) (R : Activity → List (List UInt8) × EventState → Prop) :
    Reported R program frames (transactionInvocations encode (tx.withLog logs) program) ↔
      ∀ k inner, (framesOf program (activity frames))[k]? = some inner →
        R inner (eventsOf (some (attributeProgramData program logs)) (framesOf program (activity frames)).length k) := by
  obtain ⟨invocations, flat, programs⟩ := flattenInvocations_frames (encodes.withLog logs)
  have ran : transactionInvocations encode (tx.withLog logs) program =
      .ok (attributeFrom program (some (attributeProgramData program logs)) (framesOf program (activity frames)).length 0
        invocations) := by
    rw [transactionInvocations, flat]
    show Except.ok (attributeFrom program (some (attributeProgramData program logs)) _ 0 invocations) = _
    rw [count_ours programs]
    rfl
  have each := @attributeFrom_iff program (some (attributeProgramData program logs))
    (framesOf program (activity frames)).length R _ _ programs 0
  simp only [Nat.zero_add] at each
  rw [Reported, ran]
  constructor
  · rintro ⟨result, same, all⟩
    obtain rfl := Except.ok.inj same
    exact each.mp all
  · intro all
    exact ⟨_, rfl, each.mpr all⟩

/-- A log of all frames: every invocation of the program is complete unless texts pretend. -/
theorem whole_iff (address : IsAddress program) (wellFormed : (activity frames).WellFormed) (encodes : Encodes encode tx frames) :
    Reported Whole program frames (transactionInvocations encode (tx.withLog (transactionLog frames)) program) ↔
      (framesOf program (activity frames) ≠ [] → Unspoofed program frames) := by
  rw [reported_iff encodes]
  have decodes : ∀ inner ∈ framesOf program (activity frames), ∀ field ∈ inner.own, (base64Bytes field).isSome = true :=
    fun inner member => own_decodes (framesOf_wellFormed wellFormed inner member)
  by_cases settles : (activity frames).settle 0 [] = some []
  · rw [attribute_settled address wellFormed settles]
    have each : ∀ k inner, (framesOf program (activity frames))[k]? = some inner →
        eventsOf
          (some
            { frames := (framesOf program (activity frames)).map fun inner => inner.shown [],
              closed := List.replicate (framesOf program (activity frames)).length true, truncated := false, consistent := true })
          (framesOf program (activity frames)).length k = ((inner.shown []).filterMap base64Bytes, .complete) := by
      intro k inner found
      have shown : ∀ field ∈ inner.shown [], (base64Bytes field).isSome = true := fun field member =>
        decodes inner (List.mem_of_getElem? found) field ((shown_sublist inner []).subset member)
      simp [eventsOf, found, mapM_decodes shown]
    constructor
    · intro all _
      refine ⟨settles, fun inner member => ?_⟩
      obtain ⟨k, found⟩ := List.mem_iff_getElem?.mp member
      have reported := all k inner found
      rw [each k inner found, Whole, Prod.mk.injEq] at reported
      have length := congrArg List.length reported.1
      have shown : ∀ field ∈ inner.shown [], (base64Bytes field).isSome = true := fun field inside =>
        decodes inner member field ((shown_sublist inner []).subset inside)
      rw [Activity.events, filterMap_length shown, filterMap_length (decodes inner member)] at length
      exact (shown_sublist inner []).eq_of_length length
    · intro unspoofed k inner found
      have member := List.mem_of_getElem? found
      rw [each k inner found, (unspoofed (List.ne_nil_of_mem member)).shown inner member]
      rfl
  · have broken := attribute_unsettled address wellFormed settles
    constructor
    · intro all nonempty
      obtain ⟨inner, rest, frames'⟩ := List.exists_cons_of_ne_nil nonempty
      have reported := all 0 inner (by rw [frames']; rfl)
      simp [eventsOf, broken, Whole] at reported
    · intro unspoofed k inner found
      exact absurd (unspoofed (List.ne_nil_of_mem (List.mem_of_getElem? found))).settles settles

theorem cut_honest (address : IsAddress program) (wellFormed : (activity frames).WellFormed) (encodes : Encodes encode tx frames)
    (unspoofed : framesOf program (activity frames) ≠ [] → Unspoofed program frames) (kept : Nat) (notice : Text)
    (after : List Text) :
    Reported Honest program frames (transactionInvocations encode (tx.withLog (truncatedLog frames kept notice after)) program) := by
  rw [reported_iff encodes, attribute_truncated]
  intro k inner found
  have member := List.mem_of_getElem? found
  obtain ⟨settles, shown⟩ := unspoofed (List.ne_nil_of_mem member)
  have decodes := own_decodes (framesOf_wellFormed wellFormed inner member)
  have before := @shown_before program frames address wellFormed settles kept k inner found
  rw [shown inner member] at before
  generalize ((transactionLog frames).take kept).foldl (Reading.next program) nothingRead = s at before
  obtain ⟨stack, seen, closed, consistent⟩ := s
  dsimp only at before ⊢
  cases consistent with
  | false => constructor <;> simp [eventsOf]
  | true =>
      cases seenHere : seen[k]? with
      | none => constructor <;> simp [eventsOf, seenHere]
      | some fields =>
          obtain ⟨start, exact'⟩ := before seenHere
          by_cases ended : closed[k]? = some true
          · have whole := exact' ended
            subst whole
            constructor <;> simp [eventsOf, seenHere, ended, mapM_decodes decodes, Activity.events]
          · have opened : closed[k]?.getD false = false := by
              cases held : closed[k]? with
              | none => rfl
              | some b =>
                  cases b with
                  | false => rfl
                  | true => exact absurd held ended
            constructor
            · simp [eventsOf, seenHere, opened]
            · simpa [eventsOf, seenHere, opened, Activity.events] using start.filterMap base64Bytes

theorem foreign_refused (address : IsAddress program) (encodes : Encodes encode tx frames) {others : List Frame}
    (wellFormed : (activity others).WellFormed)
    (different : (framesOf program (activity others)).length ≠ (framesOf program (activity frames)).length) :
    Reported Refused program frames (transactionInvocations encode (tx.withLog (transactionLog others)) program) := by
  rw [reported_iff encodes]
  intro k inner _
  by_cases settles : (activity others).settle 0 [] = some []
  · rw [attribute_settled address wellFormed settles]
    simp [eventsOf, different, Refused]
  · simp [eventsOf, attribute_unsettled address wellFormed settles, Refused]

theorem attributed_iff_unspoofed (address : IsAddress program) (wellFormed : (activity frames).WellFormed)
    (encodes : Encodes encode tx frames) :
    (Attributed encode tx frames program ↔ (framesOf program (activity frames) ≠ [] → Unspoofed program frames)) ∧
    ∀ others, (activity others).WellFormed →
      (framesOf program (activity others)).length ≠ (framesOf program (activity frames)).length →
      Reported Refused program frames (transactionInvocations encode (tx.withLog (transactionLog others)) program) := by
  have whole := whole_iff address wellFormed encodes
  refine ⟨⟨fun attributed => whole.mp attributed.whole, fun unspoofed => ⟨whole.mpr unspoofed, ?_⟩⟩, ?_⟩
  · exact cut_honest address wellFormed encodes unspoofed
  · intro others wellFormed' different
    exact foreign_refused address encodes wellFormed' different

end attribution

def squadsAddress : Text :=
  ['S', 'Q', 'D', 'S', '4', 'e', 'p', '6', '5', 'T', '8', '6', '9', 'z', 'M', 'M', 'B', 'K', 'y', 'u', 'U',
    'q', '6', 'a', 'D', '6', 'E', 'g', 'T', 'u', '8', 'p', 's', 'M', 'j', 'k', 'v', 'j', '5', '2', 'p', 'C',
    'f']

-- three bytes, and two
def threeBytes : Text :=
  ['C', 'Q', 'k', 'J']
def twoBytes : Text :=
  ['C', 'A', 'g', '=']

def emptyData (_ : Text) : Except String (List UInt8) :=
  .ok []

def registryIx : CompiledIx where
  programIdIndex := 0
  accounts := [1]
  data := []

def wrappedFrames : List Frame :=
  [{ ix := { programIdIndex := 1, accounts := [], data := [] }, program := squadsAddress
     inner := .call registryIx registryAddress
       (.emit threeBytes (.call registryIx registryAddress (.say .log (lineOf dataWord twoBytes) .done) none
         (.emit twoBytes .done))) none .done
     failure := none }]

def wrappedTx : InvocationTx where
  accountKeys := [registryAddress, squadsAddress]
  instructions := [{ programIdIndex := 1, accounts := [], data := [] }]
  details := some
    { loadedAddresses := none, logMessages := none
      innerInstructions := some [{ index := 0, instructions := [registryIx, registryIx] }] }

theorem registryIx_names {keys : List Text} (first : keys[0]? = some registryAddress) {second : Text} (more : keys[1]? = some second) :
    Names emptyData keys registryIx registryAddress := by
  refine ⟨?_, ⟨[second], ?_⟩, ⟨[], rfl⟩⟩
  · simp [keyAt, registryIx, first]
  · simp [keyAt, registryIx, more]

theorem registry_isAddress : IsAddress registryAddress := by
  simp [IsAddress, registryAddress, isBase58Char]

theorem attributed_iff_unspoofed_example : Attributed emptyData wrappedTx wrappedFrames registryAddress := by
  have squads : IsAddress squadsAddress := by simp [IsAddress, squadsAddress, isBase58Char]
  have wellFormed : (activity wrappedFrames).WellFormed := by
    refine ⟨squads, by simp, ⟨registry_isAddress, by simp, ⟨by decide, by decide, registry_isAddress, by simp, trivial, ?_⟩, trivial⟩, trivial⟩
    exact ⟨by decide, by decide, trivial⟩
  have encodes : Encodes emptyData wrappedTx wrappedFrames := by
    refine ⟨rfl, ?_, ?_⟩
    · intro i frame found
      cases i with
      | zero =>
          obtain rfl := Option.some.inj found
          rfl
      | succ i => cases found
    · refine ⟨⟨?_, ⟨[], rfl⟩, ⟨[], rfl⟩⟩, ⟨registryIx_names rfl rfl, ⟨registryIx_names rfl rfl, trivial, trivial⟩, trivial⟩, trivial⟩
      rfl
  apply (attributed_iff_unspoofed registry_isAddress wellFormed encodes).1.mpr
  intro _
  exact ⟨by decide, by decide⟩

def registryFrame (inner : Activity) : Frame where
  ix := registryIx
  program := registryAddress
  inner
  failure := none

def registryTx : InvocationTx where
  accountKeys := [registryAddress, squadsAddress]
  instructions := [registryIx]
  details := some { loadedAddresses := none, innerInstructions := some [], logMessages := none }

theorem registryTx_encodes {inner : Activity} (leaf : inner.ixs = []) (named : inner.Named emptyData registryTx.accountKeys) :
    Encodes emptyData registryTx [registryFrame inner] := by
  refine ⟨rfl, ?_, registryIx_names rfl rfl, named, trivial⟩
  intro i frame found
  cases i with
  | zero =>
      obtain rfl := Option.some.inj found
      exact leaf.symm
  | succ i => cases found

def saysSuccess : Activity :=
  .emit threeBytes (.say .log successText .done)

def pretends : Activity :=
  .say .log (invokeText 2) (.emit threeBytes (.say .log successText .done))

/-- A logged `success` loses the events of the whole log; an `invoke [2]` before a data line and a `success` after it
lose that line alone, and the invocation counts as complete. -/
theorem program_text_spoofs :
    ((activity [registryFrame saysSuccess]).WellFormed ∧ Encodes emptyData registryTx [registryFrame saysSuccess] ∧
      ¬ Attributed emptyData registryTx [registryFrame saysSuccess] registryAddress) ∧
    ((activity [registryFrame pretends]).WellFormed ∧ Encodes emptyData registryTx [registryFrame pretends] ∧
      ¬ Attributed emptyData registryTx [registryFrame pretends] registryAddress) := by
  constructor
  · have wellFormed : (activity [registryFrame saysSuccess]).WellFormed :=
      ⟨registry_isAddress, by simp [registryFrame], ⟨by decide, by decide, trivial⟩, trivial⟩
    have encodes := @registryTx_encodes saysSuccess rfl trivial
    refine ⟨wellFormed, encodes, fun attributed => ?_⟩
    have settles := ((whole_iff registry_isAddress wellFormed encodes).mp attributed.whole (by decide)).settles
    exact absurd settles (by decide)
  · have wellFormed : (activity [registryFrame pretends]).WellFormed :=
      ⟨registry_isAddress, by simp [registryFrame], ⟨by decide, by decide, trivial⟩, trivial⟩
    have encodes := @registryTx_encodes pretends rfl trivial
    refine ⟨wellFormed, encodes, fun attributed => ?_⟩
    have shown := ((whole_iff registry_isAddress wellFormed encodes).mp attributed.whole (by decide)).shown
    exact absurd shown (by decide)

end Mancipatio.Invocations
