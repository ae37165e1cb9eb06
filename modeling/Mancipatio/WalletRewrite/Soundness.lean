import Mancipatio.WalletRewrite.Reading

/-!
# What an accepted copy does

The account map of a message keeps the role of the last listing of an address, so a role that an earlier listing gives
is not compared. The Lighthouse key is checked only when no instruction names it.
-/

namespace Mancipatio.WalletRewrite

/-! ## What was reviewed -/

def Instruction.Asserts (x : Instruction) : Prop :=
  ∃ kind level, x.data[0]? = some kind ∧ 2 ≤ kind ∧ kind ≤ 15 ∧ x.data[1]? = some level ∧ level ∈ lighthouseLogLevels

structure OneBudget (xs : List Instruction) : Prop where
  accepted : none ∉ settings xs
  limits : (limits xs).length ≤ 1
  prices : (prices xs).length ≤ 1

structure WithinBounds (bounds : ComputeBudgetBounds) (before after : List Instruction) : Prop where
  one : OneBudget after
  price : ∀ price ∈ prices after, (price : Int) ≤ bounds.maxComputeUnitPrice
  least : ∀ limit ∈ limits after, ∀ least, bounds.minComputeUnitLimit = some least →
    least + (after.filter (Instruction.isGuard · true)).length * lighthouseGuardUnits ≤ limit
  carried : bounds.minComputeUnitLimit = none → OneBudget before → ∀ limit ∈ limits after, ∀ built ∈ limits before, built ≤ limit
  kept : OneBudget before → limits after = [] → limits before = []

structure Reviewed (bounds : ComputeBudgetBounds) (built signed : CompiledMessage) (before after : List Instruction) : Prop where
  version : signed.version = built.version
  lifetime : signed.lifetimeToken = built.lifetimeToken
  feePayer : signed.staticAccounts.head? = built.staticAccounts.head?
  lookups : signed.lookups = built.lookups
  instructions : after.filter (Instruction.isApp · true) = before.filter fun x => x.program ≠ computeBudgetProgramAddress
  accounts : ∀ address, address ≠ computeBudgetProgramAddress → address ≠ lighthouseProgramAddress →
    ∀ role, (address, role) ∈ signed.listings ↔ (address, role) ∈ built.listings
  guards : ∀ earlier x later, after = earlier ++ x :: later → x.program = lighthouseProgramAddress →
    x.Asserts ∧ (earlier.filter (Instruction.isApp · true) = [] ∨ later.filter (Instruction.isApp · true) = []) ∧ x.accounts ⊆ built.accounts
  guardKey : (∃ x ∈ after, x.program = lighthouseProgramAddress) → ∀ role, (lighthouseProgramAddress, role) ∈ signed.listings → role = .readonly
  budget : WithinBounds bounds before after

/-- A role of an address that its last listing does not have. -/
def CompiledMessage.Overwritten (m : CompiledMessage) (address : Pubkey) (role : Role) : Prop :=
  (address, role) ∈ m.listings ∧ lastRole address m.listings ≠ some role

/-- No listing hides behind a later one, and a Lighthouse key that an instruction names was built read-only. -/
structure Unhidden (built signed : CompiledMessage) (after : List Instruction) : Prop where
  accounts : ∀ address, address ≠ computeBudgetProgramAddress → address ≠ lighthouseProgramAddress →
    ∀ role, signed.Overwritten address role ↔ built.Overwritten address role
  guardKey : (∃ x ∈ after, x.program = lighthouseProgramAddress) →
    (∀ role, ¬signed.Overwritten lighthouseProgramAddress role) ∧
      ((∃ x ∈ after, x.names lighthouseProgramAddress = true) → lastRole lighthouseProgramAddress built.listings = some .readonly)

/-! ## What the verdict rests on -/

section texts
variable {base58 : Pubkey → String} {a b : Normalized} {bounds : ComputeBudgetBounds}

theorem accepted_cases {change : String} {units : Option Nat} {microLamports guards : Nat}
    (accepted : judge base58 a b bounds = .accepted change units microLamports guards) :
    changedParts base58 a b = [] ∧ guardProblem base58 a b = none ∧ sameAccounts a.accounts b.accounts ∧ budgetRefusal a b bounds = none := by
  unfold judge at accepted
  split at accepted
  · cases accepted
  · next parts =>
      split at accepted
      · cases accepted
      · next problem =>
          split at accepted
          · next same =>
              split at accepted
              · cases accepted
              · next refusal => exact ⟨parts, problem, same, refusal⟩
          · cases accepted

theorem ite_singleton_eq_nil {c : Prop} [Decidable c] {text : String} : (if c then [text] else []) = [] ↔ ¬c := by
  by_cases holds : c
  · simp [holds]
  · simp [holds]

theorem changedInstruction_eq_nil {budgeted : Nat} {pair : (Instruction × Instruction) × Nat} :
    changedInstruction base58 budgeted pair = [] ↔ pair.1.1.data = pair.1.2.data ∧ pair.1.1.accounts = pair.1.2.accounts := by
  rw [changedInstruction, List.append_eq_nil_iff, ite_singleton_eq_nil, ite_singleton_eq_nil, not_not, not_not]

theorem eq_of_unchanged {xs ys : List Instruction} (programs : xs.map Instruction.program = ys.map Instruction.program)
    (unchanged : ∀ pair ∈ xs.zip ys, pair.1.data = pair.2.data ∧ pair.1.accounts = pair.2.accounts) : xs = ys := by
  induction xs generalizing ys with
  | nil =>
      cases ys with
      | nil => rfl
      | cons y ys => cases programs
  | cons x xs ih =>
      cases ys with
      | nil => cases programs
      | cons y ys =>
          obtain ⟨program, programs⟩ := List.cons.inj programs
          rw [List.zip_cons_cons, List.forall_mem_cons] at unchanged
          obtain ⟨⟨data, accounts⟩, unchanged⟩ := unchanged
          rw [ih programs unchanged]
          cases x
          cases y
          cases program
          cases data
          cases accounts
          rfl

theorem changedInstructions_eq_nil (none' : changedInstructions base58 a b = []) : a.instructions = b.instructions := by
  unfold changedInstructions at none'
  split at none'
  case isTrue => cases none'
  case isFalse programs =>
    apply eq_of_unchanged (not_not.mp programs)
    intro pair member
    obtain ⟨i, inside, rfl⟩ := List.getElem_of_mem member
    rw [List.flatMap_eq_nil_iff] at none'
    exact changedInstruction_eq_nil.mp (none' (_, i) (List.mem_zipIdx_iff_getElem?.mpr (List.getElem?_eq_getElem inside)))

theorem changedParts_eq_nil (none' : changedParts base58 a b = []) :
    a.version = b.version ∧ a.lifetime = b.lifetime ∧ a.feePayer = b.feePayer ∧ a.instructions = b.instructions ∧ a.lookups = b.lookups := by
  simp only [changedParts, List.append_eq_nil_iff, ite_singleton_eq_nil, not_not] at none'
  obtain ⟨⟨⟨⟨version, lifetime⟩, feePayer⟩, instructions⟩, lookups⟩ := none'
  exact ⟨version, lifetime, feePayer, changedInstructions_eq_nil instructions, lookups⟩

theorem guardProblem_eq_none (none' : guardProblem base58 a b = none) :
    (∀ guard ∈ b.guards, guard.unaccepted = none ∧ (guard.position = 0 ∨ guard.position = b.instructions.length) ∧
      guard.accounts ⊆ a.names) ∧ ∀ role, b.guardKeyRole = some role → role = .readonly := by
  unfold guardProblem at none'
  split at none'
  · cases none'
  · next each =>
      constructor
      · intro guard member
        have fine := List.findSome?_eq_none_iff.mp each guard member
        unfold guardRefusal at fine
        split at fine
        · cases fine
        · next accepted =>
            split at fine
            · cases fine
            · next outside =>
                refine ⟨accepted, ?_, ?_⟩
                · by_contra neither
                  exact outside (not_or.mp neither)
                · intro account named
                  rw [Option.map_eq_none_iff, List.find?_eq_none] at fine
                  simpa using fine account named
      · intro role found
        rw [found] at none'
        cases role with
        | readonly => rfl
        | signerWritable => cases none'
        | signer => cases none'
        | writable => cases none'

theorem sameAccounts_lookup {xs ys : List (Pubkey × Role)} (distinct : (xs.map Prod.fst).Nodup) (same : sameAccounts xs ys)
    (address : Pubkey) : (Rows.lookup Prod.fst address xs).map Prod.snd = (Rows.lookup Prod.fst address ys).map Prod.snd := by
  obtain ⟨length, each⟩ := same
  have inside : xs.map Prod.fst ⊆ ys.map Prod.fst := by
    intro key member
    obtain ⟨entry, listed, rfl⟩ := List.mem_map.mp member
    obtain ⟨found, stored, -⟩ := Option.map_eq_some_iff.mp (each entry listed)
    obtain ⟨member', same⟩ := Rows.mem_of_lookup _ stored
    exact List.mem_map.mpr ⟨found, member', same⟩
  have perm : (xs.map Prod.fst).Perm (ys.map Prod.fst) := by
    apply (List.subperm_of_subset distinct inside).perm_of_length_le
    rw [List.length_map, List.length_map, length]
  cases found : Rows.lookup Prod.fst address xs with
  | some entry =>
      obtain ⟨member, rfl⟩ := Rows.mem_of_lookup _ found
      rw [each entry member]
      rfl
  | none =>
      cases found' : Rows.lookup Prod.fst address ys with
      | none => rfl
      | some entry =>
          obtain ⟨member, rfl⟩ := Rows.mem_of_lookup _ found'
          obtain ⟨other, stored⟩ := Rows.mem_of_key Prod.fst (perm.mem_iff.mpr (List.mem_map_of_mem (f := Prod.fst) member))
          rw [stored] at found
          cases found

theorem budgetRefusal_eq_none (none' : budgetRefusal a b bounds = none) :
    b.budget.problem = none ∧ (∀ price, b.budget.price = some price → (price : Int) ≤ bounds.maxComputeUnitPrice) ∧
      (b.budget.limit = none → a.budget.limit = none) ∧
        ∀ limit, b.budget.limit = some limit → ∀ needed, bounds.needed a b = some needed → needed ≤ limit := by
  unfold budgetRefusal at none'
  split at none'
  · cases none'
  · next noProblem =>
      split at none'
      case isTrue => cases none'
      case isFalse cheap =>
        refine ⟨noProblem, ?_, ?_, ?_⟩
        · intro price set
          rw [set] at cheap
          exact Int.not_lt.mp cheap
        · intro removed
          rw [removed] at none'
          cases built : a.budget.limit with
          | none => rfl
          | some limit => simp [built] at none'
        · intro limit set needed asked
          rw [set] at none'
          simp only [asked] at none'
          split at none'
          case isTrue =>
            split at none'
            · cases none'
            · cases none'
          case isFalse enough => exact Int.not_lt.mp enough

end texts

/-! ## What is read of the two messages -/

theorem asserts_of_accepted {x : Instruction} (accepted : unacceptedGuard x.data[0]? x.data[1]? = none) : x.Asserts := by
  unfold unacceptedGuard at accepted
  split at accepted
  case isTrue => cases accepted
  case isFalse known =>
    split at accepted
    case isFalse => cases accepted
    case isTrue logs =>
      obtain ⟨level, second, listed⟩ := (Option.any_eq_true _ _).mp logs
      cases first : x.data[0]? with
      | none => simp [first] at known
      | some kind =>
          rw [first] at known
          have small : 2 ≤ kind ∧ kind ≤ 15 := by
            by_contra outside
            apply known
            change lighthouseAssertions kind = none
            unfold lighthouseAssertions
            have apart : ∀ k : UInt8, 2 ≤ k → k ≤ 15 → kind ≠ k := by
              rintro k above below rfl
              exact outside ⟨above, below⟩
            simp [apart]
          exact ⟨kind, level, first, small.1, small.2, second, by simpa using listed⟩

theorem unproblematic (base58 : Pubkey → String) (walletCopy : Bool) {xs : List Instruction} (one : OneBudget xs) :
    (readAll base58 walletCopy xs).budget.problem = none := by
  induction xs using List.reverseRecOn with
  | nil => rfl
  | append_singleton xs x ih =>
      rw [readAll_append]
      obtain ⟨budget, -, -, -, -, label, same⟩ | ⟨other, same, -⟩ :=
        @next_cases base58 walletCopy (readAll base58 walletCopy xs) x
      · have more : settings (xs ++ [x]) = settings xs ++ [x.setting] := by simp [settings, budget]
        obtain ⟨accepted, few, few'⟩ := one
        rw [more, List.mem_append, not_or] at accepted
        simp only [limits, prices, more, List.filterMap_append, List.length_append] at few few'
        have before : (readAll base58 walletCopy xs).budget.problem = none :=
          ih ⟨accepted.1, Nat.le_trans (Nat.le_add_right _ _) few, Nat.le_trans (Nat.le_add_right _ _) few'⟩
        obtain ⟨-, limit, price⟩ := read_budget base58 walletCopy xs before
        rw [same]
        unfold BudgetSettings.add
        rw [before, Option.isSome_none, if_neg Bool.false_ne_true]
        cases setting : x.setting with
        | none => simp [setting] at accepted
        | some decoded =>
            rw [limit, setting] at few
            rw [price, setting] at few'
            cases decoded with
            | limit units =>
                cases already : (readAll base58 walletCopy xs).budget.limit with
                | none => rfl
                | some other => simp [already, DecodedComputeBudget.limit?] at few
            | price microLamports =>
                cases already : (readAll base58 walletCopy xs).budget.price with
                | none => rfl
                | some other => simp [already, DecodedComputeBudget.price?] at few'
      · have more : settings (xs ++ [x]) = settings xs := by simp [settings, other]
        obtain ⟨accepted, few, few'⟩ := one
        rw [same]
        apply ih
        constructor
        · rwa [more] at accepted
        · rwa [limits, more] at few
        · rwa [prices, more] at few'

theorem mem_limits {base58 : Pubkey → String} {walletCopy : Bool} {xs : List Instruction}
    (noProblem : (readAll base58 walletCopy xs).budget.problem = none) {limit : Nat} :
    limit ∈ limits xs ↔ (readAll base58 walletCopy xs).budget.limit = some limit := by
  rw [limits, (read_budget base58 walletCopy xs noProblem).limit, Option.mem_toList]

theorem oneBudget_of_read {base58 : Pubkey → String} {walletCopy : Bool} {xs : List Instruction}
    (noProblem : (readAll base58 walletCopy xs).budget.problem = none) : OneBudget xs := by
  obtain ⟨accepted, limit, price⟩ := read_budget base58 walletCopy xs noProblem
  constructor
  · exact accepted
  · rw [limits, limit]
    exact Option.length_toList_le
  · rw [prices, price]
    exact Option.length_toList_le

section accepted
variable {base58 : Pubkey → String} {built signed : CompiledMessage} {before after : List Instruction} {a b : Normalized}
  {bounds : ComputeBudgetBounds}

theorem withinBounds (apart : TakenApart base58 false built before a) (apart' : TakenApart base58 true signed after b)
    (none' : budgetRefusal a b bounds = none) : WithinBounds bounds before after := by
  obtain ⟨noProblem, price, kept, enough⟩ := budgetRefusal_eq_none none'
  rw [apart.budget, apart'.budget] at *
  have count : b.guards.length = (after.filter (Instruction.isGuard · true)).length := by
    rw [apart'.guards, (read_guards base58 after).1]
  constructor
  case one => exact oneBudget_of_read noProblem
  case price =>
    intro p set
    rw [prices, (read_budget base58 true after noProblem).price, Option.mem_toList] at set
    exact price p set
  case least =>
    intro limit set least asked
    have needed := enough limit ((mem_limits noProblem).mp set) (least + b.guards.length * lighthouseGuardUnits)
      (by rw [ComputeBudgetBounds.needed, asked])
    rwa [count] at needed
  case carried =>
    intro unasked one limit set l built'
    have carries := (mem_limits (unproblematic base58 false one)).mp built'
    have needed := enough limit ((mem_limits noProblem).mp set) (l : Int)
      (by rw [ComputeBudgetBounds.needed, unasked, apart.budget, carries]; rfl)
    exact Int.ofNat_le.mp needed
  case kept =>
    intro one removed
    have settled := read_budget base58 true after noProblem
    have none'' : (readAll base58 true after).budget.limit = none := by
      rw [limits, settled.limit] at removed
      exact Option.toList_eq_nil_iff.mp removed
    rw [limits, (read_budget base58 false before (unproblematic base58 false one)).limit, kept none'']
    rfl

theorem guards_of_accepted (apart : TakenApart base58 false built before a) (apart' : TakenApart base58 true signed after b)
    (none' : guardProblem base58 a b = none) {earlier later : List Instruction} {x : Instruction} (split : after = earlier ++ x :: later)
    (guard : x.program = lighthouseProgramAddress) :
    x.Asserts ∧ (earlier.filter (Instruction.isApp · true) = [] ∨ later.filter (Instruction.isApp · true) = []) ∧
      x.accounts ⊆ built.accounts := by
  have isGuard : x.isGuard true = true := decide_eq_true ⟨rfl, guard⟩
  have notApp : x.isApp true = false := decide_eq_false fun app => by rw [isGuard] at app; cases app.2
  obtain ⟨found, member, position, accounts, unaccepted⟩ := (read_guards base58 after).2 earlier x later split isGuard
  rw [← apart'.guards] at member
  obtain ⟨accepted, place, named⟩ := (guardProblem_eq_none none').1 found member
  refine ⟨asserts_of_accepted (unaccepted.symm.trans accepted), ?_, ?_⟩
  · rw [position, apart'.instructions, split, List.filter_append, List.filter_cons, notApp, if_neg Bool.false_ne_true,
      List.length_append] at place
    rcases place with first | last
    · exact .inl (List.length_eq_zero_iff.mp first)
    · exact .inr (List.length_eq_zero_iff.mp (by omega))
  · rwa [accounts, apart.names] at named

theorem setAside_of_other {budgetKeyUsedElsewhere guardKeySetApart : Bool} {address : Pubkey}
    (notBudget : address ≠ computeBudgetProgramAddress) (notGuard : address ≠ lighthouseProgramAddress) :
    setAside budgetKeyUsedElsewhere guardKeySetApart address = false :=
  decide_eq_false fun aside => aside.elim (fun same => notBudget same.1) fun same => notGuard same.1

theorem lastRole_of_accepted (apart : TakenApart base58 false built before a) (apart' : TakenApart base58 true signed after b)
    (same : sameAccounts a.accounts b.accounts) {address : Pubkey} (notBudget : address ≠ computeBudgetProgramAddress)
    (notGuard : address ≠ lighthouseProgramAddress) : lastRole address signed.listings = lastRole address built.listings := by
  have looked := sameAccounts_lookup apart.distinct same address
  rw [apart.accounts, apart'.accounts, setAside_of_other notBudget notGuard, setAside_of_other notBudget notGuard,
    if_neg Bool.false_ne_true, if_neg Bool.false_ne_true] at looked
  exact looked.symm

theorem mem_listings_iff {m : CompiledMessage} {address : Pubkey} {role : Role} :
    (address, role) ∈ m.listings ↔ lastRole address m.listings = some role ∨ m.Overwritten address role := by
  constructor
  · intro listed
    by_cases last : lastRole address m.listings = some role
    · exact .inl last
    · exact .inr ⟨listed, last⟩
  · rintro (last | overwritten)
    · exact lastRole_listed last
    · exact overwritten.1

theorem overwritten_iff {m : CompiledMessage} {address : Pubkey} {role : Role} :
    m.Overwritten address role ↔ (address, role) ∈ m.listings ∧ lastRole address m.listings ≠ some role :=
  Iff.rfl

theorem no_guards_built (base58 : Pubkey → String) (xs : List Instruction) : (readAll base58 false xs).guards = [] := by
  induction xs using List.reverseRecOn with
  | nil => rfl
  | append_singleton xs x ih =>
      rw [readAll_append]
      obtain ⟨-, -, -, -, same, -⟩ | ⟨-, -, ⟨-, guard, -⟩ | ⟨-, -, -, same⟩⟩ :=
        @next_cases base58 false (readAll base58 false xs) x
      · rw [same, ih]
      · simp [Instruction.isGuard] at guard
      · rw [same, ih]

theorem exists_read {m : CompiledMessage} {ixs : List CompiledInstruction} {xs : List Instruction}
    (each : List.Forall₂ (fun ix x => m.resolveInstruction ix = some x) ixs xs) {x : Instruction} (member : x ∈ xs) :
    ∃ ix, m.resolveInstruction ix = some x := by
  induction each with
  | nil => cases member
  | @cons ix y ixs ys first _ ih =>
      rcases List.mem_cons.mp member with rfl | later
      · exact ⟨ix, first⟩
      · exact ih later

theorem program_listed {m : CompiledMessage} {xs : List Instruction} (resolved : m.resolved = some xs) {x : Instruction} (member : x ∈ xs) :
    ∃ role, (x.program, role) ∈ m.listings := by
  obtain ⟨ix, read⟩ := exists_read (Checked.mapM_eq_some.mp resolved) member
  unfold CompiledMessage.resolveInstruction at read
  simp only [Option.bind_eq_bind, Option.bind_eq_some_iff, Option.some.injEq] at read
  obtain ⟨program, found, accounts, -, rfl⟩ := read
  exact ⟨m.staticRole ix.programAddressIndex, List.mem_map.mpr ⟨(program, ix.programAddressIndex), List.mem_zipIdx_iff_getElem?.mpr found, rfl⟩⟩

theorem guardKey_last (apart : TakenApart base58 false built before a) (apart' : TakenApart base58 true signed after b)
    (none' : guardProblem base58 a b = none) (same : sameAccounts a.accounts b.accounts)
    (guarded : ∃ x ∈ after, x.program = lighthouseProgramAddress) :
    if ∃ x ∈ after, x.names lighthouseProgramAddress = true
      then lastRole lighthouseProgramAddress signed.listings = lastRole lighthouseProgramAddress built.listings
      else lastRole lighthouseProgramAddress signed.listings = some .readonly := by
  have other : lighthouseProgramAddress ≠ computeBudgetProgramAddress := by decide
  obtain ⟨x, member, program⟩ := guarded
  have some' : (readAll base58 true after).guards.isEmpty = false := by
    have isGuard : x.isGuard true = true := decide_eq_true ⟨rfl, program⟩
    obtain ⟨earlier, later, split⟩ := List.append_of_mem member
    obtain ⟨found, listed, -⟩ := (read_guards base58 after).2 earlier x later split isGuard
    exact List.isEmpty_eq_false_iff.mpr (List.ne_nil_of_mem listed)
  cases named : (readAll base58 true after).guardKeyNamed with
  | false =>
      have unnamed : ¬∃ x ∈ after, x.names lighthouseProgramAddress = true := by
        rw [← List.any_eq_true, ← read_named base58 true, named]
        exact Bool.false_ne_true
      rw [if_neg unnamed]
      have setApart : CompiledMessage.setApart (readAll base58 true after) = true := by
        rw [CompiledMessage.setApart, some', named]
        rfl
      have key := apart'.guardKey
      rw [if_pos setApart] at key
      obtain ⟨role, listed⟩ := program_listed apart'.resolved member
      rw [program] at listed
      obtain ⟨last, found⟩ := lastRole_of_listed listed
      rw [found] at key
      rw [found, (guardProblem_eq_none none').2 last key]
  | true =>
      have names : ∃ x ∈ after, x.names lighthouseProgramAddress = true := by
        rwa [read_named, List.any_eq_true] at named
      rw [if_pos names]
      have looked := sameAccounts_lookup apart.distinct same lighthouseProgramAddress
      have kept : setAside (readAll base58 false before).budgetKeyUsedElsewhere (CompiledMessage.setApart (readAll base58 false before))
          lighthouseProgramAddress = false := by
        apply decide_eq_false
        rintro (budget | guard)
        · exact other budget.1
        · rw [CompiledMessage.setApart, no_guards_built] at guard
          cases guard.2
      have kept' : setAside (readAll base58 true after).budgetKeyUsedElsewhere (CompiledMessage.setApart (readAll base58 true after))
          lighthouseProgramAddress = false := by
        apply decide_eq_false
        rintro (budget | guard)
        · exact other budget.1
        · rw [CompiledMessage.setApart, named, Bool.not_true, Bool.and_false] at guard
          cases guard.2
      rw [apart.accounts, apart'.accounts, kept, kept', if_neg Bool.false_ne_true, if_neg Bool.false_ne_true] at looked
      exact looked.symm

theorem accounts_iff (apart : TakenApart base58 false built before a) (apart' : TakenApart base58 true signed after b)
    (same : sameAccounts a.accounts b.accounts) {address : Pubkey} (notBudget : address ≠ computeBudgetProgramAddress)
    (notGuard : address ≠ lighthouseProgramAddress) :
    (∀ role, (address, role) ∈ signed.listings ↔ (address, role) ∈ built.listings) ↔
      ∀ role, signed.Overwritten address role ↔ built.Overwritten address role := by
  have last := lastRole_of_accepted apart apart' same notBudget notGuard
  constructor
  · intro listed role
    rw [overwritten_iff, overwritten_iff, listed, last]
  · intro overwritten role
    rw [mem_listings_iff, mem_listings_iff, overwritten, last]

theorem guardKey_iff (apart : TakenApart base58 false built before a) (apart' : TakenApart base58 true signed after b)
    (none' : guardProblem base58 a b = none) (same : sameAccounts a.accounts b.accounts)
    (guarded : ∃ x ∈ after, x.program = lighthouseProgramAddress) :
    (∀ role, (lighthouseProgramAddress, role) ∈ signed.listings → role = .readonly) ↔
      (∀ role, ¬signed.Overwritten lighthouseProgramAddress role) ∧
        ((∃ x ∈ after, x.names lighthouseProgramAddress = true) → lastRole lighthouseProgramAddress built.listings = some .readonly) := by
  have last := guardKey_last apart apart' none' same guarded
  constructor
  · intro readonly
    obtain ⟨x, member, program⟩ := guarded
    obtain ⟨role, listed⟩ := program_listed apart'.resolved member
    rw [program] at listed
    obtain ⟨final, found⟩ := lastRole_of_listed listed
    have final' := readonly final (lastRole_listed found)
    rw [final'] at found
    refine ⟨?_, ?_⟩
    · rintro other ⟨listed', differs⟩
      exact differs (by rw [found, readonly other listed'])
    · intro names
      rw [if_pos names, found] at last
      exact last.symm
  · rintro ⟨hidden, named⟩ role listed
    have final : lastRole lighthouseProgramAddress signed.listings = some .readonly := by
      split at last
      case isTrue names => rw [last, named names]
      case isFalse => exact last
    rcases mem_listings_iff.mp listed with found | overwritten
    · rw [final] at found
      exact (Option.some.inj found).symm
    · exact absurd overwritten (hidden role)

/-- What the verdict on the parts taken apart says of the messages. -/
theorem reviewed_iff (apart : TakenApart base58 false built before a) (apart' : TakenApart base58 true signed after b)
    {change : String} {units : Option Nat} {microLamports guards : Nat}
    (accepted : judge base58 a b bounds = .accepted change units microLamports guards) :
    Reviewed bounds built signed before after ↔ Unhidden built signed after := by
  obtain ⟨parts, problem, same, refusal⟩ := accepted_cases accepted
  obtain ⟨version, lifetime, feePayer, instructions, lookups⟩ := changedParts_eq_nil parts
  constructor
  · intro reviewed
    constructor
    case accounts =>
      intro address notBudget notGuard
      exact (accounts_iff apart apart' same notBudget notGuard).mp (reviewed.accounts address notBudget notGuard)
    case guardKey =>
      intro guarded
      exact (guardKey_iff apart apart' problem same guarded).mp (reviewed.guardKey guarded)
  · intro unhidden
    constructor
    case version => rw [← apart'.version, ← version, apart.version]
    case lifetime => rw [← apart'.lifetime, ← lifetime, apart.lifetime]
    case feePayer => rw [apart'.feePayer, apart.feePayer, feePayer]
    case lookups => rw [← apart'.lookups, ← lookups, apart.lookups]
    case instructions =>
      rw [← apart'.instructions, ← instructions, apart.instructions]
      apply List.filter_congr
      intro x _
      simp [Instruction.isApp, Instruction.isGuard]
    case accounts =>
      intro address notBudget notGuard
      exact (accounts_iff apart apart' same notBudget notGuard).mpr (unhidden.accounts address notBudget notGuard)
    case guards =>
      intro earlier x later split guard
      exact guards_of_accepted apart apart' problem split guard
    case guardKey =>
      intro guarded
      exact (guardKey_iff apart apart' problem same guarded).mpr (unhidden.guardKey guarded)
    case budget => exact withinBounds apart apart' refusal

end accepted

/-! ## The bytes of the two messages -/

structure Rewritten (decode : List UInt8 → Option CompiledMessage) (bounds : ComputeBudgetBounds) (guards : Nat)
    (beforeBytes afterBytes : List UInt8) : Prop where
  messages : ∃ built signed before after, decode beforeBytes = some built ∧ decode afterBytes = some signed ∧
    built.resolved = some before ∧ signed.resolved = some after ∧
      guards = (after.filter (Instruction.isGuard · true)).length ∧ (Reviewed bounds built signed before after ↔ Unhidden built signed after)

theorem rewritten_of_accepted {base58 : Pubkey → String} {decode : List UInt8 → Option CompiledMessage} {bounds : ComputeBudgetBounds}
    {beforeBytes afterBytes : List UInt8} {change : String} {units : Option Nat} {microLamports guards : Nat}
    (accepted : judgeWalletRewrite base58 decode beforeBytes afterBytes bounds = .accepted change units microLamports guards) :
    Rewritten decode bounds guards beforeBytes afterBytes := by
  unfold judgeWalletRewrite at accepted
  split at accepted
  case isTrue => cases accepted
  case isFalse =>
    split at accepted
    · next a b first second =>
        obtain ⟨built, decoded, normal⟩ := Option.bind_eq_some_iff.mp first
        obtain ⟨signed, decoded', normal'⟩ := Option.bind_eq_some_iff.mp second
        obtain ⟨before, apart⟩ := takenApart normal
        obtain ⟨after, apart'⟩ := takenApart normal'
        refine ⟨built, signed, before, after, decoded, decoded', apart.resolved, apart'.resolved, ?_, reviewed_iff apart apart' accepted⟩
        have count : guards = b.guards.length := by
          unfold judge at accepted
          split at accepted
          · cases accepted
          · split at accepted
            · cases accepted
            · split at accepted
              · split at accepted
                · cases accepted
                · exact (WalletRewriteVerdict.accepted.inj accepted).2.2.2.symm
              · cases accepted
        rw [count, apart'.guards, (read_guards base58 after).1]
    · cases accepted

end Mancipatio.WalletRewrite
