import Mancipatio.WalletRewrite.Judge
import Mancipatio.Library.Checked

/-!
# What a message says
-/

namespace Mancipatio.WalletRewrite
open Checked

/-! ## Instructions -/

namespace CompiledMessage
variable (m : CompiledMessage)

def resolveInstruction (ix : CompiledInstruction) : Option Instruction := do
  let program ← m.staticAccounts[ix.programAddressIndex]?
  let accounts ← (ix.accountIndices.getD []).mapM m.resolve
  some { program, data := ix.data.getD [], accounts }

def resolved : Option (List Instruction) :=
  m.instructions.mapM m.resolveInstruction

def accounts : List Account :=
  m.writableLookups ++ m.readonlyLookups ++ m.listings.map fun listing => { name := .static listing.1, role := listing.2 }

end CompiledMessage

namespace Instruction
variable (x : Instruction)

def names (address : Pubkey) : Bool :=
  x.accounts.any fun account => account.name = .static address

def isGuard (walletCopy : Bool) : Bool :=
  walletCopy = true ∧ x.program = lighthouseProgramAddress

def isApp (walletCopy : Bool) : Bool :=
  x.program ≠ computeBudgetProgramAddress ∧ x.isGuard walletCopy = false

def setting : Option DecodedComputeBudget :=
  if 0 < x.accounts.length then none else decodeComputeBudgetInstruction (some x.data)

end Instruction

section texts
variable (base58 : Pubkey → String)

def Reading.next (walletCopy : Bool) (s : Reading) (x : Instruction) : Reading :=
  let guardKeyNamed := s.guardKeyNamed || x.names lighthouseProgramAddress
  if x.program = computeBudgetProgramAddress then
    let label := budgetLabel (decodeComputeBudgetInstruction (some x.data)) x.data[0]?
    { s with guardKeyNamed, summary := s.summary ++ [label], budget := s.budget.add label x.setting }
  else
    let budgetKeyUsedElsewhere := s.budgetKeyUsedElsewhere || x.names computeBudgetProgramAddress
    if walletCopy = true ∧ x.program = lighthouseProgramAddress then
      let found : Guard :=
        { label := guardLabel x.data[0]?, unaccepted := unacceptedGuard x.data[0]? x.data[1]?
          position := s.instructions.length, accounts := x.accounts }
      { s with guardKeyNamed, budgetKeyUsedElsewhere, summary := s.summary ++ [found.label], guards := s.guards ++ [found] }
    else
      { s with
        guardKeyNamed, budgetKeyUsedElsewhere
        summary := s.summary ++ [short (base58 x.program)]
        instructions := s.instructions ++ [x] }

def readAll (walletCopy : Bool) (xs : List Instruction) : Reading :=
  xs.foldl (Reading.next base58 walletCopy) {}

variable {base58} {m : CompiledMessage} {walletCopy : Bool}

theorem resolve_static {i : Nat} {account : Account} (resolved : m.resolve i = some account) (address : Pubkey) :
    (m.staticAccounts[i]? = some address) ↔ account.name = .static address := by
  unfold CompiledMessage.resolve at resolved
  cases found : m.staticAccounts[i]? with
  | some other =>
      rw [found] at resolved
      obtain rfl := Option.some.inj resolved
      rw [Option.some.injEq, AccountName.static.injEq]
  | none =>
      rw [found] at resolved
      have listed := List.mem_of_getElem? resolved
      constructor
      · intro same
        cases same
      · intro static
        simp only [CompiledMessage.writableLookups, CompiledMessage.readonlyLookups, List.mem_append, List.mem_flatMap,
          List.mem_map] at listed
        rcases listed with ⟨_, -, _, -, rfl⟩ | ⟨_, -, _, -, rfl⟩
        · cases static
        · cases static

theorem any_resolved {indices : List Nat} {accounts : List Account} (resolved : indices.mapM m.resolve = some accounts)
    (address : Pubkey) : (indices.any fun i => m.staticAccounts[i]? = some address) =
      accounts.any fun account => account.name = .static address := by
  have each := mapM_eq_some.mp resolved
  clear resolved
  induction each with
  | nil => rfl
  | cons first _ ih => rw [List.any_cons, List.any_cons, ih, decide_eq_decide.mpr (resolve_static first address)]

theorem decode_getD (data : Option (List UInt8)) :
    decodeComputeBudgetInstruction data = decodeComputeBudgetInstruction (some (data.getD [])) := by
  cases data with
  | none => rfl
  | some bytes => rfl

theorem byte_getD (data : Option (List UInt8)) (i : Nat) : (data.bind fun bytes => bytes[i]?) = (data.getD [])[i]? := by
  cases data with
  | none => rfl
  | some bytes => rfl

theorem read_eq (s : Reading) (ix : CompiledInstruction) :
    m.read base58 walletCopy s ix = (m.resolveInstruction ix).map (s.next base58 walletCopy) := by
  unfold CompiledMessage.read CompiledMessage.resolveInstruction
  cases m.staticAccounts[ix.programAddressIndex]? with
  | none => rfl
  | some program =>
      cases resolved : (ix.accountIndices.getD []).mapM m.resolve with
      | none => simp [resolved]
      | some accounts =>
          have length := (mapM_eq_some.mp resolved).length_eq
          simp only [Option.bind_eq_bind, Option.bind_some, resolved, any_resolved resolved, byte_getD, length, decode_getD ix.data]
          unfold Reading.next Instruction.setting Instruction.names
          by_cases budget : program = computeBudgetProgramAddress
          · simp only [if_pos budget, Option.map_some]
          · by_cases guard : walletCopy = true ∧ program = lighthouseProgramAddress
            · simp only [if_neg budget, if_pos guard, Option.map_some]
            · simp only [if_neg budget, if_neg guard, Option.map_some]

theorem foldlM_read (ixs : List CompiledInstruction) :
    ixs.foldlM (m.read base58 walletCopy) {} = (ixs.mapM m.resolveInstruction).map (readAll base58 walletCopy) := by
  have same : m.read base58 walletCopy = fun s ix => (m.resolveInstruction ix).map (s.next base58 walletCopy) := by
    funext s ix
    exact read_eq s ix
  rw [same, foldlM_eq_map]
  rfl

theorem readAll_append (xs : List Instruction) (x : Instruction) :
    readAll base58 walletCopy (xs ++ [x]) = (readAll base58 walletCopy xs).next base58 walletCopy x := by
  rw [readAll, List.foldl_append]
  rfl

/-! ## What has been read -/

theorem next_cases (s : Reading) (x : Instruction) :
    (x.program = computeBudgetProgramAddress ∧ x.isApp walletCopy = false ∧ x.isGuard walletCopy = false ∧
      (s.next base58 walletCopy x).instructions = s.instructions ∧ (s.next base58 walletCopy x).guards = s.guards ∧
      ∃ label, (s.next base58 walletCopy x).budget = s.budget.add label x.setting) ∨
    (x.program ≠ computeBudgetProgramAddress ∧ (s.next base58 walletCopy x).budget = s.budget ∧
      (x.isApp walletCopy = false ∧ x.isGuard walletCopy = true ∧ (s.next base58 walletCopy x).instructions = s.instructions ∧
        (s.next base58 walletCopy x).guards = s.guards ++ [
          { label := guardLabel x.data[0]?, unaccepted := unacceptedGuard x.data[0]? x.data[1]?
            position := s.instructions.length, accounts := x.accounts }] ∨
      x.isApp walletCopy = true ∧ x.isGuard walletCopy = false ∧
        (s.next base58 walletCopy x).instructions = s.instructions ++ [x] ∧ (s.next base58 walletCopy x).guards = s.guards)) := by
  have apart : lighthouseProgramAddress ≠ computeBudgetProgramAddress := by decide
  unfold Reading.next Instruction.isApp Instruction.isGuard
  by_cases budget : x.program = computeBudgetProgramAddress
  · left
    have app : x.program ≠ lighthouseProgramAddress := fun same => apart (same.symm.trans budget)
    rw [if_pos budget]
    exact ⟨budget, by simp [budget], by simp [app], rfl, rfl, _, rfl⟩
  · right
    rw [if_neg budget]
    split
    case isTrue guard => exact ⟨budget, rfl, .inl ⟨by simp [guard], by simp [guard], rfl, rfl⟩⟩
    case isFalse app =>
      have app' : ¬(walletCopy = true ∧ x.program = lighthouseProgramAddress) := app
      exact ⟨budget, rfl, .inr ⟨by simp [budget, app'], by simp [app'], rfl, rfl⟩⟩

theorem next_named (s : Reading) (x : Instruction) :
    (s.next base58 walletCopy x).guardKeyNamed = (s.guardKeyNamed || x.names lighthouseProgramAddress) := by
  unfold Reading.next
  split
  case isTrue => rfl
  case isFalse =>
    split
    case isTrue => rfl
    case isFalse => rfl

variable (base58 walletCopy) in
theorem read_named (xs : List Instruction) :
    (readAll base58 walletCopy xs).guardKeyNamed = xs.any (Instruction.names · lighthouseProgramAddress) := by
  induction xs using List.reverseRecOn with
  | nil => rfl
  | append_singleton xs x ih => rw [readAll_append, next_named, ih, List.any_append, List.any_cons, List.any_nil, Bool.or_false]

variable (base58 walletCopy) in
theorem read_instructions (xs : List Instruction) :
    (readAll base58 walletCopy xs).instructions = xs.filter (Instruction.isApp · walletCopy) := by
  induction xs using List.reverseRecOn with
  | nil => rfl
  | append_singleton xs x ih =>
      rw [readAll_append, List.filter_append, ← ih, List.filter_cons, List.filter_nil]
      obtain ⟨-, app, -, same, -⟩ | ⟨-, -, ⟨app, -, same, -⟩ | ⟨app, -, same, -⟩⟩ :=
        @next_cases base58 walletCopy (readAll base58 walletCopy xs) x
      · rw [same, app, if_neg Bool.false_ne_true, List.append_nil]
      · rw [same, app, if_neg Bool.false_ne_true, List.append_nil]
      · rw [same, app, if_pos rfl]

structure Found (before : List Instruction) (x : Instruction) (guard : Guard) : Prop where
  position : guard.position = (before.filter (Instruction.isApp · true)).length
  accounts : guard.accounts = x.accounts
  unaccepted : guard.unaccepted = unacceptedGuard x.data[0]? x.data[1]?

variable (base58) in
theorem read_guards (xs : List Instruction) :
    (readAll base58 true xs).guards.length = (xs.filter (Instruction.isGuard · true)).length ∧
      ∀ before x after, xs = before ++ x :: after → x.isGuard true = true →
        ∃ guard ∈ (readAll base58 true xs).guards, Found before x guard := by
  induction xs using List.reverseRecOn with
  | nil =>
      refine ⟨rfl, ?_⟩
      intro before x after split
      simp at split
  | append_singleton xs x ih =>
      have instructions := read_instructions base58 true xs
      have kept : ∀ guards, (readAll base58 true xs).guards ⊆ guards → ∀ before y after,
          xs = before ++ y :: after → y.isGuard true = true → ∃ guard ∈ guards, Found before y guard := by
        intro guards more before y after split guard
        obtain ⟨found, member, about⟩ := ih.2 before y after split guard
        exact ⟨found, more member, about⟩
      have last : ∀ before y after, xs ++ [x] = before ++ y :: after →
          xs = before ∧ x = y ∨ ∃ after', xs = before ++ y :: after' := by
        intro before y after split
        cases after using List.reverseRecOn with
        | nil =>
            left
            obtain ⟨same, last⟩ := List.append_inj' split rfl
            exact ⟨same, List.singleton_inj.mp last⟩
        | append_singleton after' z =>
            right
            rw [← List.cons_append, ← List.append_assoc] at split
            exact ⟨after', (List.append_inj' split rfl).1⟩
      rw [readAll_append]
      obtain ⟨-, -, guard, -, same, -⟩ | ⟨-, -, ⟨-, guard, -, same⟩ | ⟨-, guard, -, same⟩⟩ :=
        @next_cases base58 true (readAll base58 true xs) x
      all_goals rw [same]
      · constructor
        · rw [ih.1]
          simp [guard]
        · intro before y after split isGuard
          obtain ⟨-, rfl⟩ | ⟨after', split'⟩ := last before y after split
          · rw [guard] at isGuard
            cases isGuard
          · exact kept _ (fun _ member => member) before y after' split' isGuard
      · constructor
        · rw [List.length_append, ih.1]
          simp [guard]
        · intro before y after split isGuard
          obtain ⟨rfl, rfl⟩ | ⟨after', split'⟩ := last before y after split
          · exact ⟨_, List.mem_append_right _ (List.mem_singleton_self _), by rw [instructions], rfl, rfl⟩
          · exact kept _ (List.subset_append_left _ _) before y after' split' isGuard
      · constructor
        · rw [ih.1]
          simp [guard]
        · intro before y after split isGuard
          obtain ⟨-, rfl⟩ | ⟨after', split'⟩ := last before y after split
          · rw [guard] at isGuard
            cases isGuard
          · exact kept _ (fun _ member => member) before y after' split' isGuard

end texts

/-! ## Compute budget -/

def DecodedComputeBudget.limit? : DecodedComputeBudget → Option Nat
  | .limit units => some units
  | .price _ => none

def DecodedComputeBudget.price? : DecodedComputeBudget → Option Nat
  | .limit _ => none
  | .price microLamports => some microLamports

def settings (xs : List Instruction) : List (Option DecodedComputeBudget) :=
  (xs.filter fun x => x.program = computeBudgetProgramAddress).map Instruction.setting

def limits (xs : List Instruction) : List Nat :=
  (settings xs).filterMap fun setting => setting.bind DecodedComputeBudget.limit?

def prices (xs : List Instruction) : List Nat :=
  (settings xs).filterMap fun setting => setting.bind DecodedComputeBudget.price?

structure Settled (settings : List (Option DecodedComputeBudget)) (budget : BudgetSettings) : Prop where
  accepted : none ∉ settings
  limit : settings.filterMap (fun setting => setting.bind DecodedComputeBudget.limit?) = budget.limit.toList
  price : settings.filterMap (fun setting => setting.bind DecodedComputeBudget.price?) = budget.price.toList

theorem settled_add {settings : List (Option DecodedComputeBudget)} {budget : BudgetSettings}
    (settled : budget.problem = none → Settled settings budget) (label : String) (setting : Option DecodedComputeBudget)
    (noProblem : (budget.add label setting).problem = none) : Settled (settings ++ [setting]) (budget.add label setting) := by
  unfold BudgetSettings.add at noProblem ⊢
  cases before : budget.problem with
  | some problem =>
      rw [before] at noProblem
      cases noProblem
  | none =>
      obtain ⟨accepted, limit, price⟩ := settled before
      rw [before, Option.isSome_none, if_neg Bool.false_ne_true] at noProblem
      rw [Option.isSome_none, if_neg Bool.false_ne_true]
      cases setting with
      | none => cases noProblem
      | some decoded =>
          cases decoded with
          | limit units =>
              cases already : budget.limit with
              | some other => simp [already] at noProblem
              | none =>
                  constructor
                  · simpa using accepted
                  · simp [limit, already, DecodedComputeBudget.limit?]
                  · simp [price, DecodedComputeBudget.price?]
          | price microLamports =>
              cases already : budget.price with
              | some other => simp [already] at noProblem
              | none =>
                  constructor
                  · simpa using accepted
                  · simp [limit, DecodedComputeBudget.limit?]
                  · simp [price, already, DecodedComputeBudget.price?]

theorem read_budget (base58 : Pubkey → String) (walletCopy : Bool) (xs : List Instruction)
    (noProblem : (readAll base58 walletCopy xs).budget.problem = none) :
    Settled (settings xs) (readAll base58 walletCopy xs).budget := by
  induction xs using List.reverseRecOn with
  | nil =>
      constructor
      · exact List.not_mem_nil
      · rfl
      · rfl
  | append_singleton xs x ih =>
      rw [readAll_append] at noProblem ⊢
      obtain ⟨budget, -, -, -, -, label, same⟩ | ⟨other, same, -⟩ :=
        @next_cases base58 walletCopy (readAll base58 walletCopy xs) x
      · have more : settings (xs ++ [x]) = settings xs ++ [x.setting] := by simp [settings, budget]
        rw [same] at noProblem ⊢
        rw [more]
        exact settled_add ih label x.setting noProblem
      · have more : settings (xs ++ [x]) = settings xs := by simp [settings, other]
        rw [same] at noProblem ⊢
        rw [more]
        exact ih noProblem

/-! ## Static accounts -/

def lastRole (address : Pubkey) (listings : List (Pubkey × Role)) : Option Role :=
  (Rows.lookup Prod.fst address listings.reverse).map Prod.snd

theorem lastRole_append (address : Pubkey) (listings : List (Pubkey × Role)) (listing : Pubkey × Role) :
    lastRole address (listings ++ [listing]) = if listing.1 = address then some listing.2 else lastRole address listings := by
  unfold lastRole Rows.lookup
  rw [List.reverse_append, List.reverse_singleton, List.singleton_append, List.find?_cons]
  by_cases same : listing.1 = address
  · rw [if_pos same, decide_eq_true same]
    rfl
  · rw [if_neg same, decide_eq_false same]

theorem lastRole_listed {address : Pubkey} {listings : List (Pubkey × Role)} {role : Role}
    (last : lastRole address listings = some role) : (address, role) ∈ listings := by
  obtain ⟨listing, found, rfl⟩ := Option.map_eq_some_iff.mp last
  obtain ⟨member, rfl⟩ := Rows.mem_of_lookup _ found
  exact List.mem_reverse.mp member

theorem lastRole_of_listed {address : Pubkey} {listings : List (Pubkey × Role)} {role : Role}
    (listed : (address, role) ∈ listings) : ∃ last, lastRole address listings = some last := by
  obtain ⟨listing, found⟩ := Rows.mem_of_key Prod.fst (List.mem_map_of_mem (f := Prod.fst) (List.mem_reverse.mpr listed))
  exact ⟨listing.2, Option.map_eq_some_iff.mpr ⟨listing, found, rfl⟩⟩

def setAside (budgetKeyUsedElsewhere guardKeySetApart : Bool) (address : Pubkey) : Bool :=
  (address = computeBudgetProgramAddress ∧ budgetKeyUsedElsewhere = false) ∨
    (address = lighthouseProgramAddress ∧ guardKeySetApart = true)

structure Keyed (initial : List Account) (budgetKeyUsedElsewhere guardKeySetApart : Bool) (listings : List (Pubkey × Role)) (s : Keys) :
    Prop where
  distinct : (s.accounts.map Prod.fst).Nodup
  accounts : ∀ address, (Rows.lookup Prod.fst address s.accounts).map Prod.snd =
    if setAside budgetKeyUsedElsewhere guardKeySetApart address = true then none else lastRole address listings
  names : s.names = initial ++ listings.map fun listing => { name := .static listing.1, role := listing.2 }
  guardKey : s.guardKeyRole = if guardKeySetApart = true then lastRole lighthouseProgramAddress listings else none

theorem keyed_add {initial : List Account} {budgetKeyUsedElsewhere guardKeySetApart : Bool} {listings : List (Pubkey × Role)} {s : Keys}
    (keyed : Keyed initial budgetKeyUsedElsewhere guardKeySetApart listings s) (listing : Pubkey × Role) :
    Keyed initial budgetKeyUsedElsewhere guardKeySetApart (listings ++ [listing])
      (s.add budgetKeyUsedElsewhere guardKeySetApart listing) := by
  have apart : computeBudgetProgramAddress ≠ lighthouseProgramAddress := by decide
  obtain ⟨distinct, accounts, names, guardKey⟩ := keyed
  have aside : ∀ address, setAside budgetKeyUsedElsewhere guardKeySetApart listing.1 = true →
      (if setAside budgetKeyUsedElsewhere guardKeySetApart address = true then none else lastRole address (listings ++ [listing])) =
        if setAside budgetKeyUsedElsewhere guardKeySetApart address = true then none else lastRole address listings := by
    intro address out
    by_cases same : listing.1 = address
    · rw [← same, if_pos out, if_pos out]
    · rw [lastRole_append, if_neg same]
  unfold Keys.add
  split
  case isTrue budget =>
    have out : setAside budgetKeyUsedElsewhere guardKeySetApart listing.1 = true := decide_eq_true (.inl budget)
    have other : listing.1 ≠ lighthouseProgramAddress := fun same => apart (budget.1.symm.trans same)
    constructor
    case distinct => exact distinct
    case accounts => exact fun address => (accounts address).trans (aside address out).symm
    case names => rw [List.map_append, ← List.append_assoc, ← names]; rfl
    case guardKey => rw [lastRole_append, if_neg other]; exact guardKey
  case isFalse notBudget =>
    split
    case isTrue guard =>
      have out : setAside budgetKeyUsedElsewhere guardKeySetApart listing.1 = true := decide_eq_true (.inr guard)
      constructor
      case distinct => exact distinct
      case accounts => exact fun address => (accounts address).trans (aside address out).symm
      case names => rw [List.map_append, ← List.append_assoc, ← names]; rfl
      case guardKey => rw [lastRole_append, if_pos guard.1, if_pos guard.2]
    case isFalse notGuard =>
      have kept : setAside budgetKeyUsedElsewhere guardKeySetApart listing.1 = false :=
        decide_eq_false fun out => out.elim notBudget notGuard
      constructor
      case distinct => exact Rows.nodup_upsert _ distinct
      case accounts =>
        intro address
        rw [Rows.lookup_upsert, lastRole_append]
        by_cases same : address = listing.1
        · subst same
          rw [if_pos rfl, if_pos rfl, kept, if_neg Bool.false_ne_true]
          rfl
        · rw [if_neg same, if_neg (Ne.symm same)]
          exact accounts address
      case names => rw [List.map_append, ← List.append_assoc, ← names]; rfl
      case guardKey =>
        change s.guardKeyRole = _
        rw [guardKey, lastRole_append]
        by_cases setApart : guardKeySetApart = true
        · rw [if_pos setApart, if_pos setApart, if_neg fun same => notGuard ⟨same, setApart⟩]
        · rw [if_neg setApart, if_neg setApart]

theorem keyed_foldl (initial : List Account) (budgetKeyUsedElsewhere guardKeySetApart : Bool) (listings : List (Pubkey × Role)) :
    Keyed initial budgetKeyUsedElsewhere guardKeySetApart listings
      (listings.foldl (Keys.add budgetKeyUsedElsewhere guardKeySetApart) { names := initial }) := by
  induction listings using List.reverseRecOn with
  | nil =>
      constructor
      case distinct => exact List.nodup_nil
      case accounts => intro address; split <;> rfl
      case names => exact (List.append_nil _).symm
      case guardKey => split <;> rfl
  | append_singleton listings listing ih =>
      rw [List.foldl_append]
      exact keyed_add ih listing

/-! ## The message as a whole -/

def CompiledMessage.setApart (read : Reading) : Bool :=
  !read.guards.isEmpty && !read.guardKeyNamed

theorem keys_keyed (m : CompiledMessage) (read : Reading) :
    Keyed (m.writableLookups ++ m.readonlyLookups) read.budgetKeyUsedElsewhere (CompiledMessage.setApart read) m.listings (m.keys read) :=
  keyed_foldl _ _ _ _

structure TakenApart (base58 : Pubkey → String) (walletCopy : Bool) (m : CompiledMessage) (xs : List Instruction) (n : Normalized) : Prop where
  resolved : m.resolved = some xs
  version : n.version = m.version
  feePayer : m.staticAccounts.head? = some n.feePayer
  lifetime : n.lifetime = m.lifetimeToken
  lookups : n.lookups = m.lookups
  instructions : n.instructions = xs.filter (Instruction.isApp · walletCopy)
  budget : n.budget = (readAll base58 walletCopy xs).budget
  guards : n.guards = (readAll base58 walletCopy xs).guards
  names : n.names = m.accounts
  distinct : (n.accounts.map Prod.fst).Nodup
  accounts : ∀ address, (Rows.lookup Prod.fst address n.accounts).map Prod.snd =
    if setAside (readAll base58 walletCopy xs).budgetKeyUsedElsewhere (CompiledMessage.setApart (readAll base58 walletCopy xs)) address = true
      then none else lastRole address m.listings
  guardKey : n.guardKeyRole = if CompiledMessage.setApart (readAll base58 walletCopy xs) = true
    then lastRole lighthouseProgramAddress m.listings else none

theorem takenApart {base58 : Pubkey → String} {walletCopy : Bool} {m : CompiledMessage} {n : Normalized}
    (normal : normalize base58 m walletCopy = some n) : ∃ xs, TakenApart base58 walletCopy m xs n := by
  unfold normalize at normal
  split at normal
  case isTrue => cases normal
  case isFalse =>
    rw [foldlM_read] at normal
    simp only [Option.bind_eq_bind, Option.bind_eq_some_iff, Option.map_eq_some_iff, Option.some.injEq] at normal
    obtain ⟨feePayer, first, read, ⟨xs, resolved, rfl⟩, rfl⟩ := normal
    have keyed := keys_keyed m (readAll base58 walletCopy xs)
    refine ⟨xs, ?_⟩
    constructor
    case resolved => exact resolved
    case version => rfl
    case feePayer => exact first
    case lifetime => rfl
    case lookups => rfl
    case instructions => exact read_instructions base58 walletCopy xs
    case budget => rfl
    case guards => rfl
    case names => exact keyed.names
    case distinct => exact keyed.distinct
    case accounts => exact keyed.accounts
    case guardKey => exact keyed.guardKey

end Mancipatio.WalletRewrite
