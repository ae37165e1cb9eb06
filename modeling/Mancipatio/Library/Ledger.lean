import Mancipatio.Library.Checked

/-!
# Token accounts

A ledger gives the token account that an address holds, if any. A transfer is signed by the owner of
its source and moves units between two accounts of one mint; who owns an account, and of which mint it
is, stays.
-/

namespace Ledger
open Checked

variable {κ : Type} {ε : Type*}

structure TokenAccount (κ : Type) where
  mint : κ
  owner : κ
  amount : Nat
  frozen : Bool
  deriving DecidableEq, Repr

abbrev Accounts (κ : Type) := κ → Option (TokenAccount κ)

def TokenAccount.holder (account : TokenAccount κ) : κ × κ × Bool :=
  (account.mint, account.owner, account.frozen)

def TokenAccount.title (account : TokenAccount κ) : κ × κ :=
  (account.mint, account.owner)

def balance (accounts : Accounts κ) (address : κ) : Nat :=
  (accounts address).elim 0 TokenAccount.amount

def Kept (accounts accounts' : Accounts κ) (address : κ) : Prop :=
  (accounts' address).map TokenAccount.title = (accounts address).map TokenAccount.title ∧
    balance accounts address ≤ balance accounts' address

def paidTo [DecidableEq κ] (payments : List (κ × Nat)) (address : κ) : Nat :=
  (payments.map fun payment => if payment.1 = address then payment.2 else 0).sum

section
variable [DecidableEq κ] (refused : ε) (mint source authority : κ)

def transfer (accounts : Accounts κ) (destination : κ) (amount : Nat) : Except ε (Accounts κ) := do
  let payer ← okOr (accounts source) refused
  let payee ← okOr (accounts destination) refused
  require (payer.mint = mint ∧ payee.mint = mint ∧ payer.owner = authority) refused
  require (payer.frozen = false ∧ payee.frozen = false ∧ amount ≤ payer.amount) refused
  if source = destination then
    return accounts
  else
    let amount' ← okOr (checkedAdd 64 payee.amount amount) refused
    return Function.update (Function.update accounts source (some { payer with amount := payer.amount - amount }))
      destination (some { payee with amount := amount' })

def transferAll : Accounts κ → List (κ × Nat) → Except ε (Accounts κ)
  | accounts, [] => .ok accounts
  | accounts, payment :: rest => do
      transferAll (← transfer refused mint source authority accounts payment.1 payment.2) rest

/-- An empty account is not transferred from. -/
def sweep (accounts : Accounts κ) (destination : κ) (remainder : Nat) : Except ε (Accounts κ) :=
  if 0 < remainder then
    transfer refused mint source authority accounts destination remainder
  else
    .ok accounts

end

section effects
variable [DecidableEq κ] {refused : ε} {mint source authority destination : κ} {accounts accounts' : Accounts κ}
variable {amount : Nat} {payments : List (κ × Nat)}

theorem transfer_ok (moved : transfer refused mint source authority accounts destination amount = .ok accounts') :
    ∃ payer payee, accounts source = some payer ∧ accounts destination = some payee ∧
      (payer.mint = mint ∧ payee.mint = mint ∧ payer.owner = authority) ∧ amount ≤ payer.amount ∧
      (source = destination ∧ accounts' = accounts ∨ source ≠ destination ∧
        accounts' = Function.update (Function.update accounts source
          (some { payer with amount := payer.amount - amount })) destination
          (some { payee with amount := payee.amount + amount })) := by
  simp only [transfer, bind_eq_ok, okOr_eq_ok, require_eq_ok, exists_const] at moved
  obtain ⟨payer, sent, payee, received, own, ⟨-, -, enough⟩, moved⟩ := moved
  refine ⟨payer, payee, sent, received, own, enough, ?_⟩
  split at moved
  · next same =>
      rw [pure_eq_ok] at moved
      exact .inl ⟨same, moved.symm⟩
  · next apart =>
      simp only [bind_eq_ok, okOr_eq_ok, checkedAdd_eq_some, pure_eq_ok] at moved
      obtain ⟨_, ⟨rfl, -⟩, rfl⟩ := moved
      exact .inr ⟨apart, rfl⟩

theorem transfer_succeeds {payer payee : TokenAccount κ} (sent : accounts source = some payer)
    (received : accounts destination = some payee) (apart : source ≠ destination)
    (own : payer.mint = mint ∧ payee.mint = mint ∧ payer.owner = authority)
    (thawed : payer.frozen = false ∧ payee.frozen = false) (enough : amount ≤ payer.amount)
    (room : payee.amount + amount < 2 ^ 64) :
    ∃ accounts', transfer refused mint source authority accounts destination amount = .ok accounts' := by
  refine ⟨Function.update (Function.update accounts source (some { payer with amount := payer.amount - amount }))
    destination (some { payee with amount := payee.amount + amount }), ?_⟩
  simp only [transfer, bind_eq_ok, okOr_eq_ok, require_eq_ok, exists_const]
  refine ⟨payer, sent, payee, received, own, ⟨thawed.1, thawed.2, enough⟩, ?_⟩
  rw [if_neg apart]
  simp only [bind_eq_ok, okOr_eq_ok, checkedAdd_eq_some, pure_eq_ok]
  exact ⟨_, ⟨rfl, room⟩, rfl⟩

/-- The source gives what the destination gets, also when they are one account. -/
theorem transfer_balance (moved : transfer refused mint source authority accounts destination amount = .ok accounts')
    (address : κ) :
    balance accounts' address + (if address = source then amount else 0) =
      balance accounts address + if destination = address then amount else 0 := by
  obtain ⟨payer, payee, sent, received, -, enough, ⟨rfl, rfl⟩ | ⟨apart, rfl⟩⟩ := transfer_ok moved
  · simp only [eq_comm]
  · unfold balance
    by_cases paid : destination = address
    · subst paid
      rw [Function.update_self, if_pos rfl, if_neg (Ne.symm apart), received]
      rfl
    · rw [Function.update_of_ne (Ne.symm paid), if_neg paid]
      by_cases debited : address = source
      · subst debited
        rw [Function.update_self, if_pos rfl, sent]
        exact Nat.sub_add_cancel enough
      · rw [Function.update_of_ne debited, if_neg debited]

theorem transfer_holder (moved : transfer refused mint source authority accounts destination amount = .ok accounts')
    (address : κ) : (accounts' address).map TokenAccount.holder = (accounts address).map TokenAccount.holder := by
  obtain ⟨payer, payee, sent, received, -, -, ⟨-, rfl⟩ | ⟨apart, rfl⟩⟩ := transfer_ok moved
  · rfl
  · by_cases paid : address = destination
    · subst paid
      rw [Function.update_self, received]
      rfl
    · rw [Function.update_of_ne paid]
      by_cases debited : address = source
      · subst debited
        rw [Function.update_self, sent]
        rfl
      · rw [Function.update_of_ne debited]

theorem sweep_balance (swept : sweep refused mint source authority accounts destination amount = .ok accounts')
    (address : κ) :
    balance accounts' address + (if address = source then amount else 0) =
      balance accounts address + if destination = address then amount else 0 := by
  unfold sweep at swept
  split at swept
  · exact transfer_balance swept address
  · next empty =>
      cases swept
      rw [Nat.eq_zero_of_not_pos empty, ite_self, ite_self]

theorem sweep_holder (swept : sweep refused mint source authority accounts destination amount = .ok accounts')
    (address : κ) : (accounts' address).map TokenAccount.holder = (accounts address).map TokenAccount.holder := by
  unfold sweep at swept
  split at swept
  · exact transfer_holder swept address
  · cases swept
    rfl

theorem balance_update_self {address : κ} {account : TokenAccount κ} :
    balance (Function.update accounts address (some account)) address = account.amount := by
  rw [balance, Function.update_self]
  rfl

theorem balance_update_of_ne {address other : κ} {account : Option (TokenAccount κ)} (apart : address ≠ other) :
    balance (Function.update accounts other account) address = balance accounts address := by
  rw [balance, Function.update_of_ne apart]
  rfl

omit [DecidableEq κ] in
theorem balance_of_held {address : κ} {account : TokenAccount κ} (held : accounts address = some account) :
    balance accounts address = account.amount := by
  rw [balance, held]
  rfl

omit [DecidableEq κ] in
theorem held_of_holder {address : κ} {account : TokenAccount κ} (held : accounts address = some account)
    (same : (accounts' address).map TokenAccount.holder = (accounts address).map TokenAccount.holder) :
    accounts' address = some { account with amount := balance accounts' address } := by
  rw [held, Option.map_some] at same
  obtain ⟨account', held', kept⟩ := Option.map_eq_some_iff.mp same
  simp only [TokenAccount.holder, Prod.mk.injEq] at kept
  obtain ⟨mint, owner, frozen⟩ := kept
  rw [balance, held', ← mint, ← owner, ← frozen]
  rfl

omit [DecidableEq κ] in
theorem title_of_holder {address : κ}
    (same : (accounts' address).map TokenAccount.holder = (accounts address).map TokenAccount.holder) :
    (accounts' address).map TokenAccount.title = (accounts address).map TokenAccount.title := by
  have titles := congrArg (Option.map fun holder => (holder.1, holder.2.1)) same
  rwa [Option.map_map, Option.map_map] at titles

theorem transferAll_balance (moved : transferAll refused mint source authority accounts payments = .ok accounts')
    (address : κ) :
    balance accounts' address + (if address = source then (payments.map Prod.snd).sum else 0) =
      balance accounts address + paidTo payments address := by
  induction payments generalizing accounts with
  | nil =>
      cases moved
      simp [paidTo]
  | cons payment rest ih =>
      simp only [transferAll, bind_eq_ok] at moved
      obtain ⟨between, first, later⟩ := moved
      have one := transfer_balance first address
      have more := ih later
      simp only [paidTo, List.map_cons, List.sum_cons] at more ⊢
      by_cases debited : address = source
      · simp only [debited, if_true] at one more ⊢
        omega
      · simp only [debited, if_false] at one more ⊢
        omega

theorem paidTo_le (payments : List (κ × Nat)) (address : κ) : paidTo payments address ≤ (payments.map Prod.snd).sum := by
  apply List.sum_le_sum
  intro payment _
  split_ifs
  · exact Nat.le_refl _
  · exact Nat.zero_le _

theorem paidTo_eq_zero {address : κ} (others : ∀ payment ∈ payments, payment.1 ≠ address) : paidTo payments address = 0 := by
  rw [paidTo, List.sum_eq_zero_iff]
  intro paid member
  obtain ⟨payment, listed, rfl⟩ := List.mem_map.mp member
  rw [if_neg (others payment listed)]

/-- A thawed source with the units pays payees of its mint, whose own units and the source's fit together. -/
theorem transferAll_succeeds {payer : TokenAccount κ} (sent : accounts source = some payer)
    (own : payer.mint = mint ∧ payer.owner = authority ∧ payer.frozen = false)
    (payees : ∀ payment ∈ payments, ∃ payee, accounts payment.1 = some payee ∧ source ≠ payment.1 ∧ payee.mint = mint ∧
      payee.frozen = false ∧ payee.amount + payer.amount < 2 ^ 64)
    (enough : (payments.map Prod.snd).sum ≤ payer.amount) :
    ∃ accounts', transferAll refused mint source authority accounts payments = .ok accounts' := by
  induction payments generalizing accounts payer with
  | nil => exact ⟨accounts, rfl⟩
  | cons payment rest ih =>
      obtain ⟨payee, received, apart, minted, thawed, room⟩ := payees payment List.mem_cons_self
      rw [List.map_cons, List.sum_cons] at enough
      have first : ∃ between, transfer refused mint source authority accounts payment.1 payment.2 = .ok between :=
        transfer_succeeds sent received apart ⟨own.1, minted, own.2.1⟩ ⟨own.2.2, thawed⟩ (by omega) (by omega)
      obtain ⟨between, moved⟩ := first
      obtain ⟨payer', payee', sent', received', -, -, ⟨same, -⟩ | ⟨-, written⟩⟩ := transfer_ok moved
      · exact absurd same apart
      · obtain rfl : payer = payer' := Option.some.inj (sent.symm.trans sent')
        obtain rfl : payee = payee' := Option.some.inj (received.symm.trans received')
        have left : between source = some { payer with amount := payer.amount - payment.2 } := by
          rw [written, Function.update_of_ne apart, Function.update_self]
        have others : ∀ other ∈ rest, ∃ account, between other.1 = some account ∧ source ≠ other.1 ∧ account.mint = mint ∧
            account.frozen = false ∧ account.amount + (payer.amount - payment.2) < 2 ^ 64 := by
          intro other member
          obtain ⟨account, held, apart', minted', thawed', room'⟩ := payees other (List.mem_cons_of_mem _ member)
          by_cases same : other.1 = payment.1
          · refine ⟨{ payee with amount := payee.amount + payment.2 }, by rw [written, same, Function.update_self], apart', minted,
              thawed, ?_⟩
            dsimp only
            omega
          · refine ⟨account, ?_, apart', minted', thawed', by omega⟩
            rw [written, Function.update_of_ne same, Function.update_of_ne (Ne.symm apart'), held]
        obtain ⟨accounts', later⟩ := ih left own others (Nat.le_sub_of_add_le' enough)
        exact ⟨accounts', by rw [transferAll, moved]; exact later⟩

theorem transferAll_holder (moved : transferAll refused mint source authority accounts payments = .ok accounts')
    (address : κ) : (accounts' address).map TokenAccount.holder = (accounts address).map TokenAccount.holder := by
  induction payments generalizing accounts with
  | nil =>
      cases moved
      rfl
  | cons payment rest ih =>
      simp only [transferAll, bind_eq_ok] at moved
      obtain ⟨between, first, later⟩ := moved
      exact (ih later).trans (transfer_holder first address)

/-! ## Accounts that others cannot draw on -/

omit [DecidableEq κ] in
theorem Kept.refl (accounts : Accounts κ) (address : κ) : Kept accounts accounts address :=
  ⟨rfl, Nat.le_refl _⟩

omit [DecidableEq κ] in
theorem Kept.trans {accounts'' : Accounts κ} {address : κ} (first : Kept accounts accounts' address)
    (second : Kept accounts' accounts'' address) : Kept accounts accounts'' address :=
  ⟨second.1.trans first.1, first.2.trans second.2⟩

omit [DecidableEq κ] in
theorem Kept.held {address : κ} {account : TokenAccount κ} (kept : Kept accounts accounts' address)
    (held : accounts address = some account) :
    ∃ account', accounts' address = some account' ∧ account'.mint = account.mint ∧ account'.owner = account.owner ∧
      account.amount ≤ account'.amount := by
  obtain ⟨title, more⟩ := kept
  rw [held, Option.map_some] at title
  obtain ⟨account', held', same⟩ := Option.map_eq_some_iff.mp title
  simp only [TokenAccount.title, Prod.mk.injEq] at same
  rw [balance_of_held held, balance_of_held held'] at more
  exact ⟨account', held', same.1, same.2, more⟩

omit [DecidableEq κ] in
theorem Kept.origin {address : κ} {account' : TokenAccount κ} (kept : Kept accounts accounts' address)
    (held : accounts' address = some account') : ∃ account, accounts address = some account ∧ account.owner = account'.owner := by
  have title := kept.1
  rw [held, Option.map_some] at title
  obtain ⟨account, held', same⟩ := Option.map_eq_some_iff.mp title.symm
  simp only [TokenAccount.title, Prod.mk.injEq] at same
  exact ⟨account, held', same.2⟩

theorem kept_update_of_ne {address other : κ} {account : Option (TokenAccount κ)} (apart : address ≠ other) :
    Kept accounts (Function.update accounts other account) address := by
  constructor
  · rw [Function.update_of_ne apart]
  · rw [balance_update_of_ne apart]

theorem transfer_kept {address : κ} (apart : address ≠ source)
    (moved : transfer refused mint source authority accounts destination amount = .ok accounts') :
    Kept accounts accounts' address := by
  have balanced := transfer_balance moved address
  rw [if_neg apart, Nat.add_zero] at balanced
  exact ⟨title_of_holder (transfer_holder moved address), (Nat.le_add_right _ _).trans balanced.ge⟩

theorem sweep_kept {address : κ} (apart : address ≠ source)
    (swept : sweep refused mint source authority accounts destination amount = .ok accounts') :
    Kept accounts accounts' address := by
  unfold sweep at swept
  split at swept
  · exact transfer_kept apart swept
  · cases swept
    exact .refl _ _

end effects

end Ledger
