import Mancipatio.FxRates.Parse
import Mancipatio.FxRates.Rule

/-!
# The exchange rate that counts

The database and the server each choose between a manual and an automatic row of one payment mint. Times are
microseconds in the database and milliseconds in the server.
-/

namespace Mancipatio.FxRates
open Doubles Intervals

structure FxManualRow where
  paymentMint : String
  kind : FxKind
  eurPerToken : ℚ
  decimals : Nat
  source : String
  asOf : Int
  maxAge : Interval
  updatedBy : Option String
  updatedAt : Int
  overrideAuto : Bool
  deriving DecidableEq

structure FxAutoRow where
  paymentMint : String
  eurPerToken : ℚ
  decimals : Nat
  source : String
  asOf : Int
  maxAge : Interval
  updatedAt : Int
  deriving DecidableEq

/-! ## The database -/

def autoRow (auto : FxAutoRow) : FxManualRow :=
  { paymentMint := auto.paymentMint, kind := .rate, eurPerToken := auto.eurPerToken, decimals := auto.decimals,
    source := auto.source, asOf := auto.asOf, maxAge := auto.maxAge, updatedBy := some "fx-auto",
    updatedAt := auto.updatedAt, overrideAuto := false }

/-- `as_of >= now() - max_age` -/
def observedSince (now : Int) (row : FxManualRow) : Option Bool :=
  (subtract now row.maxAge).map fun cutoff => !cutoff.after row.asOf

def pinned (manual : FxManualRow) : Bool :=
  decide (manual.kind = .eurPeg) || manual.overrideAuto

/-- The row returned, if any; no result where the database raises an error. -/
def fxEffectiveRate (manual : Option FxManualRow) (auto : Option FxAutoRow) (now : Int) :
    Option (Option FxManualRow) :=
  effectiveRow pinned FxManualRow.asOf (observedSince now) manual (auto.map autoRow)

/-- `fx.kind = 'rate' and fx.as_of < now() - fx.max_age` -/
def rateStale (fx : FxManualRow) (now : Int) : Option Bool :=
  if fx.kind = .rate then (subtract now fx.maxAge).map fun cutoff => cutoff.after fx.asOf
  else some false

/-! ## The server -/

inductive FxOrigin where
  | auto
  | manual
  | manualOverride
  deriving DecidableEq, Repr

structure EffectiveFx where
  row : FxManualRow
  origin : FxOrigin
  fresh : Bool

/-- `Date.parse` of the text of a timestamp keeps whole milliseconds. -/
def dateParse (time : Int) : Int :=
  time / 1000

def fxRowFresh (row : FxManualRow) (now : Int) : Bool :=
  if row.kind = .eurPeg then true
  else
    match intervalSeconds (text row.maxAge) with
    | none => false
    | some maxAge => decide ((now : Double) - (dateParse row.asOf : Double) ≤ maxAge * 1000)

def autoAsManual (auto : FxAutoRow) : FxManualRow :=
  { paymentMint := auto.paymentMint, kind := .rate, eurPerToken := auto.eurPerToken, decimals := auto.decimals,
    source := auto.source, asOf := auto.asOf, maxAge := auto.maxAge, updatedBy := some "fx-auto",
    updatedAt := auto.updatedAt, overrideAuto := false }

def resolveFxRate (manual : Option FxManualRow) (auto : Option FxAutoRow) (now : Int) : Option EffectiveFx :=
  let autoRow := auto.map autoAsManual
  (manual.filter fun m => m.kind = .eurPeg).map (fun row => { row, origin := .manual, fresh := true }) <|>
  (manual.filter fun m => m.overrideAuto).map
    (fun row => { row, origin := .manualOverride, fresh := fxRowFresh row now }) <|>
  (autoRow.filter fun a => fxRowFresh a now).map (fun row => { row, origin := .auto, fresh := true }) <|>
  (manual.filter fun m => fxRowFresh m now).map (fun row => { row, origin := .manual, fresh := true }) <|>
  (autoRow.filter fun a => manual.all fun m => decide (dateParse m.asOf < dateParse a.asOf)).map
    (fun row => { row, origin := .auto, fresh := false }) <|>
  manual.map (fun row => { row, origin := .manual, fresh := false })

def fxStale (row : FxManualRow) (now : Int) : Bool :=
  if row.kind = .rate then
    match intervalSeconds (text row.maxAge) with
    | none => true
    | some maxAge => decide (maxAge * 1000 ≤ (now : Double) - (dateParse row.asOf : Double))
  else false

/-! ## Agreement -/

structure Agree (manual : Option FxManualRow) (auto : Option FxAutoRow) (now : Int) : Prop where
  picks : fxEffectiveRate manual auto now = some ((resolveFxRate manual auto (now / 1000)).map EffectiveFx.row)
  fresh : ∀ fx ∈ resolveFxRate manual auto (now / 1000), rateStale fx.row now = some (!fxRowFresh fx.row (now / 1000))
  reported : ∀ fx ∈ resolveFxRate manual auto (now / 1000), fx.fresh = fxRowFresh fx.row (now / 1000)
  stale : ∀ fx ∈ resolveFxRate manual auto (now / 1000), rateStale fx.row now = some (fxStale fx.row (now / 1000))

def countedAge (asOf now : Int) : Double :=
  ((now / 1000 : Int) : Double) - ((asOf / 1000 : Int) : Double)

def countedMaxAge (maxAge : Interval) : Option Double :=
  (parsedSeconds maxAge).map (· * 1000)

/-- The row is past both cutoffs or before both, and not exactly at the one that the server counts. -/
def OneSided (asOf : Int) (maxAge : Interval) (now : Int) : Prop :=
  ∃ cutoff, subtract now maxAge = some cutoff ∧
    (cutoff.after asOf = true ∧ (∀ millis ∈ countedMaxAge maxAge, millis < countedAge asOf now) ∨
      cutoff.after asOf = false ∧ ∃ millis ∈ countedMaxAge maxAge, countedAge asOf now < millis)

def PastCutoff (asOf : Int) (maxAge : Interval) (now : Int) : Prop :=
  ∃ cutoff, subtract now maxAge = some cutoff ∧ cutoff.after asOf = true

/-- Each row that is looked at is one-sided, and where both are old their order survives the milliseconds. -/
structure Clear (manual : Option FxManualRow) (auto : Option FxAutoRow) (now : Int) : Prop where
  pinnedRate : ∀ m ∈ manual, m.kind = .rate → m.overrideAuto = true → OneSided m.asOf m.maxAge now
  automatic : manual.any pinned = false → ∀ a ∈ auto, OneSided a.asOf a.maxAge now
  fallback : manual.any pinned = false → (∀ a ∈ auto, PastCutoff a.asOf a.maxAge now) →
    ∀ m ∈ manual, OneSided m.asOf m.maxAge now
  order : manual.any pinned = false → ∀ a ∈ auto, ∀ m ∈ manual, PastCutoff a.asOf a.maxAge now →
    PastCutoff m.asOf m.maxAge now → (m.asOf < a.asOf ↔ m.asOf / 1000 < a.asOf / 1000)

section agreement
variable {row : FxManualRow} {now : Int}

theorem fxRowFresh_rate (rate : row.kind = .rate) :
    fxRowFresh row (now / 1000) = true ↔ ∃ millis ∈ countedMaxAge row.maxAge, countedAge row.asOf now ≤ millis := by
  unfold fxRowFresh countedMaxAge
  rw [if_neg (by simp [rate]), intervalSeconds_text]
  cases parsedSeconds row.maxAge with
  | none => simp
  | some seconds =>
      simp only [Option.map_some, Option.mem_some_iff, exists_eq_left', countedAge, dateParse]
      exact decide_eq_true_iff

theorem fxStale_rate (rate : row.kind = .rate) :
    fxStale row (now / 1000) = true ↔ ∀ millis ∈ countedMaxAge row.maxAge, millis ≤ countedAge row.asOf now := by
  unfold fxStale countedMaxAge
  rw [if_pos rate, intervalSeconds_text]
  cases parsedSeconds row.maxAge with
  | none => simp
  | some seconds =>
      simp only [Option.map_some, Option.mem_some_iff, forall_eq', countedAge, dateParse]
      exact decide_eq_true_iff

theorem fxStale_of_not_fresh (rate : row.kind = .rate) (old : fxRowFresh row (now / 1000) = false) :
    fxStale row (now / 1000) = true := by
  rw [fxStale_rate rate]
  intro millis parsed
  have late : ¬ countedAge row.asOf now ≤ millis := by
    intro within
    have fresh := (fxRowFresh_rate rate).mpr ⟨millis, parsed, within⟩
    rw [old] at fresh
    cases fresh
  exact (not_le.mp late).le

theorem oneSided_iff (rate : row.kind = .rate) :
    OneSided row.asOf row.maxAge now ↔
      rateStale row now = some (!fxRowFresh row (now / 1000)) ∧ rateStale row now = some (fxStale row (now / 1000)) := by
  have fresh := @fxRowFresh_rate row now rate
  have stale := @fxStale_rate row now rate
  unfold OneSided rateStale
  rw [if_pos rate]
  cases subtract now row.maxAge with
  | none => simp
  | some cutoff =>
      generalize fxRowFresh row (now / 1000) = judged at fresh ⊢
      generalize fxStale row (now / 1000) = refused at stale ⊢
      generalize countedMaxAge row.maxAge = parsed at fresh stale ⊢
      cases parsed with
      | none =>
          simp only [Option.not_mem_none, false_and, exists_false, iff_false, false_implies, implies_true, iff_true] at fresh stale
          simp [fresh, stale]
      | some millis =>
          simp only [Option.mem_some_iff, exists_eq_left', forall_eq'] at fresh stale
          cases side : cutoff.after row.asOf <;> cases judged <;> cases refused <;> simp [side] at fresh stale ⊢ <;> order

theorem pastCutoff_iff (rate : row.kind = .rate) : PastCutoff row.asOf row.maxAge now ↔ rateStale row now = some true := by
  unfold PastCutoff rateStale
  rw [if_pos rate]
  cases subtract now row.maxAge <;> simp

theorem observedSince_rate (rate : row.kind = .rate) : observedSince now row = (rateStale row now).map not := by
  unfold rateStale
  rw [if_pos rate]
  simp only [observedSince, Option.map_map]
  rfl

end agreement

/-! ## The picks -/

section picks
variable {manual : Option FxManualRow} {m : FxManualRow} {a : FxAutoRow} {now : Int}

theorem kind_autoRow (a : FxAutoRow) : (autoRow a).kind = .rate :=
  rfl

theorem resolve_peg (auto : Option FxAutoRow) (peg : m.kind = .eurPeg) :
    resolveFxRate (some m) auto now = some { row := m, origin := .manual, fresh := true } := by
  simp [resolveFxRate, Option.filter_some, peg]

theorem resolve_override (auto : Option FxAutoRow) (rate : m.kind = .rate) (override : m.overrideAuto = true) :
    resolveFxRate (some m) auto now =
      some { row := m, origin := .manualOverride, fresh := fxRowFresh m now } := by
  simp [resolveFxRate, Option.filter_some, rate, override]

theorem resolve_manual (rate : m.kind = .rate) (free : m.overrideAuto = false) :
    resolveFxRate (some m) none now = some { row := m, origin := .manual, fresh := fxRowFresh m now } := by
  cases fresh : fxRowFresh m now <;> simp [resolveFxRate, Option.filter_some, rate, free, fresh]

theorem resolve_auto (a : FxAutoRow) :
    resolveFxRate none (some a) now =
      some { row := autoRow a, origin := .auto, fresh := fxRowFresh (autoRow a) now } := by
  have same : autoAsManual a = autoRow a := rfl
  cases fresh : fxRowFresh (autoRow a) now <;> simp [resolveFxRate, Option.filter_some, same, fresh]

theorem resolve_both (rate : m.kind = .rate) (free : m.overrideAuto = false) :
    resolveFxRate (some m) (some a) now =
      if fxRowFresh (autoRow a) now = true then some { row := autoRow a, origin := .auto, fresh := true }
      else if fxRowFresh m now = true then some { row := m, origin := .manual, fresh := true }
      else if dateParse m.asOf < dateParse a.asOf then some { row := autoRow a, origin := .auto, fresh := false }
      else some { row := m, origin := .manual, fresh := false } := by
  have same : autoAsManual a = autoRow a := rfl
  have time : (autoRow a).asOf = a.asOf := rfl
  cases new : fxRowFresh (autoRow a) now <;> cases fresh : fxRowFresh m now <;>
    by_cases later : dateParse m.asOf < dateParse a.asOf <;>
    simp [resolveFxRate, Option.filter_some, rate, free, same, time, new, fresh, later]

theorem effective_pinned (auto : Option FxAutoRow) (pin : pinned m = true) :
    fxEffectiveRate (some m) auto now = some (some m) := by
  simp [fxEffectiveRate, effectiveRow, pin]

theorem effective_manual (rate : m.kind = .rate) (free : m.overrideAuto = false) :
    fxEffectiveRate (some m) none now = (rateStale m now).map fun _ => some m := by
  have loose : pinned m = false := by simp [pinned, rate, free]
  simp only [fxEffectiveRate, effectiveRow, Option.any_some, loose, Option.map_none, Option.elim, observedSince_rate rate]
  cases rateStale m now with
  | none => rfl
  | some stale => cases stale <;> rfl

theorem effective_auto (a : FxAutoRow) :
    fxEffectiveRate none (some a) now = (rateStale (autoRow a) now).map fun _ => some (autoRow a) := by
  simp only [fxEffectiveRate, effectiveRow, Option.any_none, Option.map_some, Option.elim, observedSince_rate (kind_autoRow a)]
  cases rateStale (autoRow a) now with
  | none => rfl
  | some stale => cases stale <;> rfl

theorem effective_both (rate : m.kind = .rate) (free : m.overrideAuto = false) :
    fxEffectiveRate (some m) (some a) now = (do
      if ← rateStale (autoRow a) now then
        if ← rateStale m now then return if m.asOf < a.asOf then some (autoRow a) else some m
        else return some m
      else return some (autoRow a)) := by
  have loose : pinned m = false := by simp [pinned, rate, free]
  simp only [fxEffectiveRate, effectiveRow, Option.any_some, loose, Option.map_some, Option.elim, observedSince_rate rate,
    observedSince_rate (kind_autoRow a)]
  cases rateStale (autoRow a) now with
  | none => rfl
  | some old =>
      cases old with
      | false => rfl
      | true =>
          cases rateStale m now with
          | none => rfl
          | some stale =>
              have time : (autoRow a).asOf = a.asOf := rfl
              cases stale <;> by_cases later : m.asOf < a.asOf <;> simp [time, later]

end picks

/-! ## Where the two sides agree -/

section clear
variable {manual : Option FxManualRow} {auto : Option FxAutoRow} {m : FxManualRow} {a : FxAutoRow} {now : Int}

theorem agree_iff {fx : EffectiveFx} (resolved : resolveFxRate manual auto (now / 1000) = some fx) :
    Agree manual auto now ↔ fxEffectiveRate manual auto now = some (some fx.row) ∧
      rateStale fx.row now = some (!fxRowFresh fx.row (now / 1000)) ∧ fx.fresh = fxRowFresh fx.row (now / 1000) ∧
      rateStale fx.row now = some (fxStale fx.row (now / 1000)) := by
  constructor
  · rintro ⟨picks, fresh, reported, stale⟩
    rw [resolved] at picks fresh reported stale
    exact ⟨picks, fresh fx rfl, reported fx rfl, stale fx rfl⟩
  · rintro ⟨picks, fresh, reported, stale⟩
    constructor
    · rw [picks, resolved]
      rfl
    all_goals
      rw [resolved]
      rintro _ ⟨⟩
      assumption

theorem agree_alone {origin : FxOrigin} (rate : m.kind = .rate)
    (resolved : resolveFxRate manual auto (now / 1000) = some { row := m, origin, fresh := fxRowFresh m (now / 1000) })
    (effective : rateStale m now ≠ none → fxEffectiveRate manual auto now = some (some m)) :
    Agree manual auto now ↔ OneSided m.asOf m.maxAge now := by
  rw [agree_iff resolved, oneSided_iff rate]
  constructor
  · rintro ⟨-, fresh, -, stale⟩
    exact ⟨fresh, stale⟩
  · rintro ⟨fresh, stale⟩
    exact ⟨effective (by simp [fresh]), fresh, rfl, stale⟩

/-- Where both rows are old to the server, both are to the database, and their order is the same. -/
theorem agree_late (rate : m.kind = .rate) (free : m.overrideAuto = false) (new : fxRowFresh (autoRow a) (now / 1000) = false)
    (fresh : fxRowFresh m (now / 1000) = false) :
    Agree (some m) (some a) now ↔ rateStale (autoRow a) now = some true ∧ rateStale m now = some true ∧
      (m.asOf < a.asOf ↔ m.asOf / 1000 < a.asOf / 1000) := by
  have resolved := @resolve_both m a (now / 1000) rate free
  rw [if_neg (by simp [new]), if_neg (by simp [fresh])] at resolved
  have opposite : rateStale (autoRow a) now ≠ rateStale m now → autoRow a ≠ m := by
    rintro differ rfl
    exact differ rfl
  have autoLate := fxStale_of_not_fresh (kind_autoRow a) new
  have manualLate := fxStale_of_not_fresh rate fresh
  by_cases later : dateParse m.asOf < dateParse a.asOf
  · rw [if_pos later] at resolved
    rw [agree_iff resolved, effective_both rate free, autoLate]
    dsimp only
    rw [new]
    constructor
    · rintro ⟨picks, old, -, -⟩
      have past : rateStale m now = some true := by
        cases judged : rateStale m now with
        | none => simp [old, judged] at picks
        | some past =>
            cases past with
            | true => rfl
            | false => exact absurd (by simpa [old, judged] using picks) (Ne.symm (opposite (by simp [old, judged])))
      refine ⟨old, past, ?_⟩
      by_cases after : m.asOf < a.asOf
      · exact iff_of_true after later
      · obtain rfl : m = autoRow a := by simpa [old, past, after] using picks
        exact absurd later (lt_irrefl _)
    · rintro ⟨old, past, order⟩
      have after := order.mpr later
      exact ⟨by simp [old, past, after], old, rfl, old⟩
  · rw [if_neg later] at resolved
    rw [agree_iff resolved, effective_both rate free, manualLate]
    dsimp only
    rw [fresh]
    constructor
    · rintro ⟨picks, past, -, -⟩
      have old : rateStale (autoRow a) now = some true := by
        cases judged : rateStale (autoRow a) now with
        | none => simp [judged] at picks
        | some old =>
            cases old with
            | true => rfl
            | false => exact absurd (by simpa [judged] using picks) (opposite (by simp [past, judged]))
      refine ⟨old, past, ?_⟩
      by_cases after : m.asOf < a.asOf
      · obtain rfl : autoRow a = m := by simpa [old, past, after] using picks
        exact absurd after (lt_irrefl _)
      · exact iff_of_false after later
    · rintro ⟨old, past, order⟩
      have after : ¬m.asOf < a.asOf := fun after => later (order.mp after)
      exact ⟨by simp [old, past, after], past, rfl, past⟩

theorem agree_both (rate : m.kind = .rate) (free : m.overrideAuto = false) :
    Agree (some m) (some a) now ↔ OneSided a.asOf a.maxAge now ∧
      (PastCutoff a.asOf a.maxAge now → OneSided m.asOf m.maxAge now ∧
        (PastCutoff m.asOf m.maxAge now → (m.asOf < a.asOf ↔ m.asOf / 1000 < a.asOf / 1000))) := by
  have auto : OneSided a.asOf a.maxAge now ↔ _ := oneSided_iff (kind_autoRow a)
  have autoPast : PastCutoff a.asOf a.maxAge now ↔ _ := pastCutoff_iff (kind_autoRow a)
  have autoLate := @fxStale_of_not_fresh (autoRow a) now (kind_autoRow a)
  have manualLate := @fxStale_of_not_fresh m now rate
  have resolved := @resolve_both m a (now / 1000) rate free
  have time : (autoRow a).asOf = a.asOf := rfl
  rw [auto, autoPast, oneSided_iff rate, pastCutoff_iff rate]
  cases new : fxRowFresh (autoRow a) (now / 1000) with
  | true =>
      rw [if_pos new] at resolved
      rw [agree_iff resolved, effective_both rate free]
      dsimp only
      constructor
      · rintro ⟨-, fresh, -, stale⟩
        rw [new] at fresh
        refine ⟨⟨fresh, stale⟩, fun past => ?_⟩
        rw [past] at fresh
        cases fresh
      · rintro ⟨⟨fresh, stale⟩, -⟩
        rw [new]
        exact ⟨by rw [fresh]; rfl, fresh, rfl, stale⟩
  | false =>
      rw [if_neg (by simp [new])] at resolved
      specialize autoLate new
      cases fresh : fxRowFresh m (now / 1000) with
      | true =>
          rw [if_pos fresh] at resolved
          rw [agree_iff resolved, effective_both rate free, autoLate]
          dsimp only
          constructor
          · rintro ⟨picks, judged, -, stale⟩
            cases old : rateStale (autoRow a) now with
            | none => simp [old] at picks
            | some past =>
                cases past with
                | false =>
                    obtain rfl : autoRow a = m := by simpa [old] using picks
                    simp [new] at fresh
                | true =>
                    refine ⟨⟨rfl, rfl⟩, fun _ => ⟨⟨fresh ▸ judged, stale⟩, fun late => ?_⟩⟩
                    rw [fresh, late] at judged
                    cases judged
          · rintro ⟨⟨old, -⟩, rest⟩
            obtain ⟨⟨judged, stale⟩, -⟩ := rest old
            rw [fresh]
            exact ⟨by simp [old, judged], judged, rfl, stale⟩
      | false =>
          rw [agree_late rate free new fresh, autoLate, manualLate fresh]
          constructor
          · rintro ⟨old, past, order⟩
            exact ⟨⟨old, old⟩, fun _ => ⟨⟨past, past⟩, fun _ => order⟩⟩
          · rintro ⟨⟨old, -⟩, rest⟩
            obtain ⟨⟨past, -⟩, order⟩ := rest old
            exact ⟨old, past, order past⟩

end clear

def exampleRate (asOf : Int) (maxAge : Interval) : FxManualRow :=
  { paymentMint := "usdc", kind := .rate, eurPerToken := 9 / 10, decimals := 6, source := "bank", asOf, maxAge,
    updatedBy := none, updatedAt := asOf, overrideAuto := false }

/-- A rate of exactly its maximum age is reserved against, while the server reports it stale; in March a rate of 29 days is
refused under a maximum age of one month, while the server finds it fresh; and 1.001 seconds are less than 1001 milliseconds
in doubles, so that a rate of just this age is fresh to the database alone. -/
theorem fx_rates_disagree :
    (resolveFxRate (some (exampleRate 0 (.finite 0 7 0))) none 604800000).map EffectiveFx.row =
        some (exampleRate 0 (.finite 0 7 0)) ∧
      rateStale (exampleRate 0 (.finite 0 7 0)) 604800000000 = some false ∧
      fxStale (exampleRate 0 (.finite 0 7 0)) 604800000 = true ∧
      (resolveFxRate (some (exampleRate 1769817600000000 (.finite 1 0 0))) none 1772323200000).map EffectiveFx.row =
        some (exampleRate 1769817600000000 (.finite 1 0 0)) ∧
      rateStale (exampleRate 1769817600000000 (.finite 1 0 0)) 1772323200000000 = some true ∧
      fxRowFresh (exampleRate 1769817600000000 (.finite 1 0 0)) 1772323200000 = true ∧
      rateStale (exampleRate 0 (.finite 0 0 1001000)) 1001000 = some false ∧
      fxRowFresh (exampleRate 0 (.finite 0 0 1001000)) 1001 = false := by
  decide +kernel

theorem fx_rates_agree (manual : Option FxManualRow) (auto : Option FxAutoRow) (now : Int) :
    Agree manual auto now ↔ Clear manual auto now := by
  cases manual with
  | none =>
      cases auto with
      | none =>
          constructor
          · intro _
            constructor <;> simp
          · intro _
            constructor <;> simp [fxEffectiveRate, effectiveRow, resolveFxRate]
      | some a =>
          have alone : Agree none (some a) now ↔ OneSided a.asOf a.maxAge now := by
            apply @agree_alone none (some a) (autoRow a) now .auto (kind_autoRow a) (resolve_auto a)
            intro defined
            obtain ⟨stale, judged⟩ := Option.ne_none_iff_exists'.mp defined
            rw [effective_auto, judged]
            rfl
          rw [alone]
          constructor
          · intro sided
            constructor <;> simp [sided]
          · intro clear
            exact clear.automatic rfl a rfl
  | some m =>
      cases kind : m.kind with
      | eurPeg =>
          constructor
          · intro _
            constructor <;> simp [pinned, kind]
          · intro _
            rw [agree_iff (resolve_peg auto kind)]
            simp [effective_pinned, pinned, kind, rateStale, fxRowFresh, fxStale]
      | rate =>
          cases override : m.overrideAuto with
          | true =>
              rw [agree_alone kind (resolve_override auto kind override) (fun _ => effective_pinned auto (by simp [pinned, override]))]
              constructor
              · intro sided
                constructor <;> simp [sided, pinned, override]
              · intro clear
                exact clear.pinnedRate m rfl kind override
          | false =>
              have loose : pinned m = false := by simp [pinned, kind, override]
              cases auto with
              | none =>
                  have alone : Agree (some m) none now ↔ OneSided m.asOf m.maxAge now := by
                    apply agree_alone kind (resolve_manual kind override)
                    intro defined
                    obtain ⟨stale, judged⟩ := Option.ne_none_iff_exists'.mp defined
                    rw [effective_manual kind override, judged]
                    rfl
                  rw [alone]
                  constructor
                  · intro sided
                    constructor <;> simp [sided]
                  · intro clear
                    exact clear.fallback loose (by simp) m rfl
              | some a =>
                  rw [agree_both kind override]
                  constructor
                  · rintro ⟨sided, rest⟩
                    constructor
                    · simp [override]
                    · simp [sided]
                    · intro _ old _ member
                      obtain rfl := Option.some.inj member
                      exact (rest (old a rfl)).1
                    · intro _ _ first _ second old past
                      obtain rfl := Option.some.inj first
                      obtain rfl := Option.some.inj second
                      exact (rest old).2 past
                  · intro clear
                    refine ⟨clear.automatic loose a rfl, fun old => ⟨clear.fallback loose (by simpa using old) m rfl, fun past => ?_⟩⟩
                    exact clear.order loose a rfl m rfl old past

end Mancipatio.FxRates
