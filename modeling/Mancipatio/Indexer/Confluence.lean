import Mancipatio.Indexer.Mirror
import Mancipatio.Library.LastWriter

namespace Mancipatio.Indexer
open Checked Execution LastWriter

/-! ## What one entry of a snapshot does -/

/-- A live version has its row in the table that it names, and there is no other row. -/
structure Mirror.WellFormed (m : Mirror) : Prop where
  stored : ∀ table address row, m.tables table address = some row →
    ∃ slot, row.lastSlot = some slot ∧ row.layoutVersion = some 2 ∧
      m.versions address = some { slot := slot, table := some table, closed := false }
  known : ∀ address version, m.versions address = some version →
    version.closed = true ∧ version.table = none ∨
      version.closed = false ∧ ∃ table row, version.table = some table ∧ m.tables table address = some row

theorem emptyMirror_wellFormed : emptyMirror.WellFormed := by
  refine ⟨?_, ?_⟩
  · intro table address row stored
    cases stored
  · intro address version known
    cases known

def put (m : Mirror) (address : Address) (version : AccountVersion) (rows : MirrorTable → Option MirrorRow) : Mirror where
  versions := Function.update m.versions address (some version)
  tables := fun table => Function.update (m.tables table) address (rows table)

def only (table : MirrorTable) (row : MirrorRow) : MirrorTable → Option MirrorRow :=
  fun other => if other = table then some row else none

theorem setRow_tables (m : Mirror) (table other : MirrorTable) (address at' : Address) (row : Option MirrorRow) :
    (setRow m table address row).tables other at' = if other = table ∧ at' = address then row else m.tables other at' := by
  by_cases same : other = table
  · subst same
    by_cases here : at' = address
    · subst here
      simp [setRow]
    · simp [setRow, here]
  · simp [setRow, same]

theorem current_of_not_stale {m : Mirror} {address : Address} {slot : Int} (fresh : ¬ staleFor (m.versions address) slot) :
    ∀ version ∈ m.versions address, version.slot ≤ slot := by
  intro version known
  by_contra newer
  exact fresh ⟨version, known, .inl (Int.lt_of_not_ge newer)⟩

section wellFormed
variable {m : Mirror} (wf : m.WellFormed)
include wf

theorem Mirror.WellFormed.one_table {table other : MirrorTable} {address : Address} {row row' : MirrorRow}
    (first : m.tables table address = some row) (second : m.tables other address = some row') : table = other := by
  obtain ⟨slot, -, -, version⟩ := wf.stored table address row first
  obtain ⟨slot', -, -, version'⟩ := wf.stored other address row' second
  rw [version] at version'
  simp only [Option.some.injEq, AccountVersion.mk.injEq] at version'
  exact version'.2.1

theorem Mirror.WellFormed.not_newer {table : MirrorTable} {address : Address} {row : MirrorRow} {slot : Int}
    (stored : m.tables table address = some row) (current : ∀ version ∈ m.versions address, version.slot ≤ slot) :
    ∃ last ≤ slot, row.lastSlot = some last := by
  obtain ⟨last, written, -, version⟩ := wf.stored table address row stored
  exact ⟨last, current _ version, written⟩

theorem Mirror.WellFormed.put_live {table : MirrorTable} {address : Address} {row : MirrorRow} {slot : Int}
    (written : row.lastSlot = some slot) (layout : row.layoutVersion = some 2) :
    (put m address { slot := slot, table := some table, closed := false } (only table row)).WellFormed := by
  refine ⟨?stored, ?known⟩
  case stored =>
    intro other at' row' stored
    by_cases here : at' = address
    · subst here
      simp only [put, only, Function.update_self, Option.ite_none_right_eq_some, Option.some.injEq] at stored
      obtain ⟨rfl, rfl⟩ := stored
      exact ⟨slot, written, layout, by simp [put]⟩
    · simp only [put, Function.update_of_ne here] at stored ⊢
      exact wf.stored other at' row' stored
  case known =>
    intro at' version known
    by_cases here : at' = address
    · subst here
      simp only [put, Function.update_self, Option.some.injEq] at known
      subst known
      exact .inr ⟨rfl, table, row, rfl, by simp [put, only]⟩
    · simp only [put, Function.update_of_ne here] at known ⊢
      exact wf.known at' version known

theorem Mirror.WellFormed.put_closed (address : Address) (slot : Int) :
    (put m address { slot := slot, table := none, closed := true } fun _ => none).WellFormed := by
  refine ⟨?stored, ?known⟩
  case stored =>
    intro other at' row' stored
    by_cases here : at' = address
    · subst here
      simp [put] at stored
    · simp only [put, Function.update_of_ne here] at stored ⊢
      exact wf.stored other at' row' stored
  case known =>
    intro at' version known
    by_cases here : at' = address
    · subst here
      simp only [put, Function.update_self, Option.some.injEq] at known
      subst known
      exact .inl ⟨rfl, rfl⟩
    · simp only [put, Function.update_of_ne here] at known ⊢
      exact wf.known at' version known

theorem retireOld_tables {address : Address} {slot : Int} (fresh : ¬ staleFor (m.versions address) slot)
    (table other : MirrorTable) (at' : Address) :
    (retireOld m (m.versions address) table address slot).tables other at' =
      if other ≠ table ∧ at' = address then none else m.tables other at' := by
  have absent : ∀ other, (∀ version ∈ m.versions address, version.table ≠ some other) → m.tables other address = none := by
    intro other differs
    cases found : m.tables other address with
    | none => rfl
    | some row =>
        obtain ⟨last, -, -, version⟩ := wf.stored other address row found
        exact absurd rfl (differs _ version)
  cases known : (m.versions address).bind AccountVersion.table with
  | none =>
      have nowhere := absent other fun version found named => by
        simp [Option.mem_def.mp found, named] at known
      simp only [retireOld, known]
      split_ifs with elsewhere
      · rw [elsewhere.2, nowhere]
      · rfl
  | some old =>
      obtain ⟨version, found, named⟩ := Option.bind_eq_some_iff.mp known
      obtain ⟨row, stored⟩ : ∃ row, m.tables old address = some row := by
        rcases wf.known address version found with ⟨-, missing⟩ | ⟨-, table', row, named', stored⟩
        · rw [named] at missing
          cases missing
        · obtain rfl : old = table' := Option.some.inj (named.symm.trans named')
          exact ⟨row, stored⟩
      obtain ⟨last, older, written⟩ := wf.not_newer stored (current_of_not_stale fresh)
      have nowhere : ∀ other, other ≠ old → m.tables other address = none := by
        intro other differs
        refine absent other fun version' found' named' => differs ?_
        obtain rfl : version = version' := Option.some.inj (found.symm.trans found')
        exact Option.some.inj (named'.symm.trans named)
      simp only [retireOld, known]
      by_cases moved : old = table
      · subst moved
        rw [if_neg (fun both => both.1 rfl)]
        split_ifs with elsewhere
        · rw [elsewhere.2, nowhere other elsewhere.1]
        · rfl
      · rw [if_pos ⟨moved, row, stored, last, written, older⟩, setRow_tables]
        by_cases here : at' = address
        · subst here
          by_cases named' : other = old
          · subst named'
            simp [moved]
          · rw [if_neg (fun both => named' both.1), nowhere other named', ite_self]
        · simp [here]

end wellFormed

theorem retireOld_versions (m : Mirror) (known : Option AccountVersion) (table : MirrorTable) (address : Address) (slot : Int) :
    (retireOld m known table address slot).versions = m.versions := by
  unfold retireOld
  split
  · rfl
  · split_ifs <;> rfl

def mergedRow (old : Option MirrorRow) (row : MirrorRow) : MirrorRow :=
  match old with
  | none => row
  | some before => { row with columns := fun name => (row.columns name).or (before.columns name) }

theorem mergedRow_lastSlot (old : Option MirrorRow) (row : MirrorRow) : (mergedRow old row).lastSlot = row.lastSlot := by
  cases old <;> rfl

theorem mergedRow_layoutVersion (old : Option MirrorRow) (row : MirrorRow) :
    (mergedRow old row).layoutVersion = row.layoutVersion := by
  cases old <;> rfl

/-- At the slot of its version and over a row that is not newer, both triggers let the write through. -/
theorem storeRow_ok {m : Mirror} {table : MirrorTable} {address : Address} {row : MirrorRow} {slot : Int} {r : Mirror × Bool}
    (ok : storeRow m table address row = .ok r) (slotted : row.lastSlot = some slot) (fresh : ¬ staleFor (m.versions address) slot)
    (older : ∀ before ∈ m.tables table address, ∀ last ∈ before.lastSlot, last ≤ slot) :
    row.layoutVersion = some 2 ∧ r = (setRow m table address (some (mergedRow (m.tables table address) row)), true) := by
  obtain ⟨inserted, trigger, ok⟩ := bind_eq_ok.mp ok
  simp only [indexerRejectStaleSlot, slotted, bind_eq_ok, require_eq_ok, okOr_eq_ok, Option.some.injEq, exists_eq_left', pure_eq_ok,
    exists_and_left, exists_const, Option.not_mem_none, false_implies, implies_true, and_true, decide_eq_true fresh] at trigger
  obtain ⟨layout, rfl⟩ := trigger
  cases stored : m.tables table address with
  | none =>
      rw [stored] at ok
      exact ⟨layout, (pure_eq_ok.mp ok).symm⟩
  | some old =>
      rw [stored] at ok older
      obtain ⟨updated, trigger, ok⟩ := bind_eq_ok.mp ok
      have passes : ¬ staleFor (m.versions address) slot ∧ ∀ row ∈ some old, ∀ last ∈ row.lastSlot, last ≤ slot :=
        ⟨fresh, older⟩
      simp only [indexerRejectStaleSlot, slotted, bind_eq_ok, require_eq_ok, okOr_eq_ok, Option.some.injEq, exists_eq_left',
        pure_eq_ok, exists_and_left, exists_const, decide_eq_true passes] at trigger
      obtain ⟨-, rfl⟩ := trigger
      exact ⟨layout, (pure_eq_ok.mp ok).symm⟩

theorem clear_versions (tables : List MirrorTable) (m : Mirror) (address : Address) :
    (tables.foldl (fun m table => setRow m table address none) m).versions = m.versions := by
  induction tables generalizing m with
  | nil => rfl
  | cons table rest ih => exact ih (setRow m table address none)

theorem clear_tables (tables : List MirrorTable) (m : Mirror) (address : Address) (table : MirrorTable) (at' : Address) :
    (tables.foldl (fun m table => setRow m table address none) m).tables table at' =
      if table ∈ tables ∧ at' = address then none else m.tables table at' := by
  induction tables generalizing m with
  | nil => simp
  | cons first rest ih =>
      rw [List.foldl_cons, ih, setRow_tables]
      by_cases here : at' = address
      · by_cases same : table = first <;> simp [here, same]
      · simp [here]

section entries
variable {m m' : Mirror} {reply reply' : SnapshotReply} {call : SnapshotCall} (wf : m.WellFormed)
include wf

theorem applyRow_effect {schema : MirrorTable → List String} {item : SnapshotItem}
    (ok : applyRow schema call (m, reply) item = .ok (m', reply')) :
    ∃ table pda, item.table = some table ∧ item.text "pda" = some pda ∧
      (staleFor (m.versions (call.network, pda)) call.slot ∧ m' = m ∨
        ¬ staleFor (m.versions (call.network, pda)) call.slot ∧ call.layoutVersion = some 2 ∧
          m' = put m (call.network, pda) { slot := call.slot, table := some table, closed := false }
            (only table (mergedRow (m.tables table (call.network, pda)) (call.row item)))) := by
  simp only [applyRow, bind_eq_ok, okOr_eq_ok] at ok
  obtain ⟨table, named, pda, addressed, -, -, ok⟩ := ok
  refine ⟨table, pda, named, addressed, ?_⟩
  by_cases stale : staleFor (m.versions (call.network, pda)) call.slot
  · rw [if_pos stale] at ok
    exact .inl ⟨stale, (congrArg Prod.fst (pure_eq_ok.mp ok)).symm⟩
  · rw [if_neg stale] at ok
    simp only [bind_eq_ok] at ok
    obtain ⟨-, -, -, -, ⟨stored, changed⟩, ok, done⟩ := ok
    have rows := retireOld_tables wf stale table
    obtain ⟨layout, result⟩ := storeRow_ok ok rfl (by simp [setVersion, staleFor]) (by
      intro before kept last written
      simp only [setVersion, rows, ne_eq, not_true, false_and, if_false] at kept
      obtain ⟨last', older, written'⟩ := wf.not_newer kept (current_of_not_stale stale)
      obtain rfl : last' = last := Option.some.inj (written'.symm.trans written)
      exact older)
    obtain ⟨rfl, rfl⟩ := Prod.mk.inj result
    have moved := (Prod.mk.inj (pure_eq_ok.mp done)).1
    refine .inr ⟨stale, layout, moved.symm.trans ?_⟩
    have kept := rows table (call.network, pda)
    rw [if_neg (fun elsewhere => elsewhere.1 rfl)] at kept
    apply Mirror.ext
    · show Function.update (retireOld _ _ _ _ _).versions _ _ = _
      rw [retireOld_versions, put]
    · funext other at'
      show (setRow _ _ _ _).tables other at' = _
      rw [setRow_tables]
      show (if _ then some (mergedRow ((retireOld _ _ _ _ _).tables _ _) _) else (retireOld _ _ _ _ _).tables _ _) = _
      rw [kept, rows]
      by_cases here : at' = (call.network, pda)
      · subst here
        by_cases same : other = table <;> simp [put, only, same]
      · simp [put, here]

theorem applyClosed_effect {pda : String} (ok : applyClosed call (m, reply) pda = .ok (m', reply')) :
    (∃ version ∈ m.versions (call.network, pda), call.slot < version.slot) ∧ m' = m ∨
      (∀ version ∈ m.versions (call.network, pda), version.slot ≤ call.slot) ∧
        m' = put m (call.network, pda) { slot := call.slot, table := none, closed := true } fun _ => none := by
  simp only [applyClosed, bind_eq_ok] at ok
  obtain ⟨-, -, ok⟩ := ok
  by_cases newer : ∃ version ∈ m.versions (call.network, pda), call.slot < version.slot
  · rw [if_pos newer] at ok
    exact .inl ⟨newer, (congrArg Prod.fst (pure_eq_ok.mp ok)).symm⟩
  · rw [if_neg newer] at ok
    have current : ∀ version ∈ m.versions (call.network, pda), version.slot ≤ call.slot :=
      fun version known => Int.not_lt.mp fun later => newer ⟨version, known, later⟩
    have moved := (Prod.mk.inj (pure_eq_ok.mp ok)).1
    refine .inr ⟨current, moved.symm.trans ?_⟩
    apply Mirror.ext
    · rw [clear_versions, put]
      rfl
    · funext table at'
      rw [clear_tables]
      show (if _ then _ else m.tables table at') = _
      by_cases here : at' = (call.network, pda)
      · subst here
        simp only [put, Function.update_self, and_true]
        cases stored : m.tables table (call.network, pda) with
        | none => exact ite_self _
        | some row =>
            obtain ⟨last, older, written⟩ := wf.not_newer stored current
            rw [if_pos]
            refine List.mem_filter.mpr ⟨by cases table <;> simp [mirrorTables], ?_⟩
            simp [stored, removable, written, older]
      · simp [put, here]

end entries

/-! ## What the mirror shows -/

abbrev Content := Option (MirrorTable × (String → Option Json))

abbrev Observation := Write Address Content

def Mirror.view (m : Mirror) (address : Address) : Option (Int × Content) :=
  (m.versions address).map fun version =>
    (version.slot, version.table.bind fun table => (m.tables table address).map fun row => (table, row.columns))

def SnapshotCall.live (call : SnapshotCall) (item : SnapshotItem) : Set Observation :=
  {o | ∃ table ∈ item.table, ∃ pda ∈ item.text "pda", o = ⟨(call.network, pda), call.slot, some (table, (call.row item).columns)⟩}

def SnapshotCall.gone (call : SnapshotCall) (pda : String) : Observation :=
  ⟨(call.network, pda), call.slot, none⟩

def SnapshotCall.observations (call : SnapshotCall) : Set Observation :=
  {o | ∃ item ∈ call.rows, o ∈ call.live item} ∪ {o | ∃ pda ∈ call.closed, o = call.gone pda}

def FixedColumns (seen : Set Observation) : Prop :=
  ∀ a ∈ seen, ∀ b ∈ seen, ∀ table columns columns', a.value = some (table, columns) → b.value = some (table, columns') →
    ∀ name, (columns name).isSome = (columns' name).isSome

theorem FixedColumns.mono {seen seen' : Set Observation} (fixed : FixedColumns seen') (fewer : seen ⊆ seen') : FixedColumns seen :=
  fun a first b second => fixed a (fewer first) b (fewer second)

/-- A version keeps its slot or takes a higher one, and at one slot a closed account stays closed. -/
def Advances (m m' : Mirror) : Prop :=
  ∀ address, ∀ version ∈ m.versions address, ∃ version' ∈ m'.versions address,
    version.slot < version'.slot ∨ version.slot = version'.slot ∧ (version.closed = true → version'.closed = true)

theorem Advances.refl (m : Mirror) : Advances m m :=
  fun _ version known => ⟨version, known, .inr ⟨rfl, id⟩⟩

theorem Advances.trans {m m' m'' : Mirror} (first : Advances m m') (second : Advances m' m'') : Advances m m'' := by
  intro address version known
  obtain ⟨version', known', later⟩ := first address version known
  obtain ⟨version'', known'', later'⟩ := second address version' known'
  refine ⟨version'', known'', ?_⟩
  rcases later with later | ⟨same, closed⟩ <;> rcases later' with later' | ⟨same', closed'⟩
  · exact .inl (Int.lt_trans later later')
  · exact .inl (same' ▸ later)
  · exact .inl (same ▸ later')
  · exact .inr ⟨same.trans same', closed' ∘ closed⟩

theorem advances_put {m : Mirror} {address : Address} {next : AccountVersion} {rows : MirrorTable → Option MirrorRow}
    (later : ∀ version ∈ m.versions address,
      version.slot < next.slot ∨ version.slot = next.slot ∧ (version.closed = true → next.closed = true)) :
    Advances m (put m address next rows) := by
  intro at' version known
  by_cases here : at' = address
  · subst here
    exact ⟨next, by simp [put], later version known⟩
  · exact ⟨version, by simpa [put, here] using known, .inr ⟨rfl, id⟩⟩

theorem view_put (m : Mirror) (address at' : Address) (version : AccountVersion) (rows : MirrorTable → Option MirrorRow) :
    (put m address version rows).view at' =
      if at' = address then
        some (version.slot, version.table.bind fun table => (rows table).map fun row => (table, row.columns))
      else m.view at' := by
  by_cases here : at' = address
  · subst here
    simp [Mirror.view, put]
  · simp [Mirror.view, put, here]

theorem absorbs_put {m : Mirror} {version : AccountVersion} {rows : MirrorTable → Option MirrorRow} {w : Observation}
    (slot : version.slot = w.time) (value : (version.table.bind fun table => (rows table).map fun row => (table, row.columns)) = w.value)
    (current : ∀ before ∈ m.versions w.key, before.slot ≤ w.time) :
    Absorbs m.view w (put m w.key version rows).view := by
  refine ⟨?others, .inl ⟨?own, ?older⟩⟩
  case others =>
    intro key other
    rw [view_put, if_neg other]
  case own => rw [view_put, if_pos rfl, slot, value]
  case older =>
    intro entry shown
    obtain ⟨before, known, rfl⟩ := Option.map_eq_some_iff.mp shown
    exact current before known

theorem absorbs_stale {m : Mirror} {w : Observation} {version : AccountVersion} (known : m.versions w.key = some version)
    (older : w.time ≤ version.slot) : Absorbs m.view w m.view := by
  refine ⟨fun _ _ => rfl, .inr ⟨rfl, ?_⟩⟩
  exact ⟨_, Option.map_eq_some_iff.mpr ⟨version, known, rfl⟩, older⟩

/-! ## Whole snapshots -/

structure Takes (m : Mirror) (seen : Set Observation) (m' : Mirror) : Prop where
  wellFormed : m'.WellFormed
  advances : Advances m m'
  shows : ∀ before, Shows before m.view → FixedColumns (before ∪ seen) → Shows (before ∪ seen) m'.view

theorem Takes.refl {m : Mirror} (wf : m.WellFormed) : Takes m ∅ m where
  wellFormed := wf
  advances := Advances.refl m
  shows := fun before shown _ => by rwa [Set.union_empty]

theorem Takes.trans {m m' m'' : Mirror} {seen seen' : Set Observation} (first : Takes m seen m') (second : Takes m' seen' m'') :
    Takes m (seen ∪ seen') m'' where
  wellFormed := second.wellFormed
  advances := first.advances.trans second.advances
  shows := by
    intro before shown fixed
    rw [← Set.union_assoc] at fixed ⊢
    exact second.shows _ (first.shows before shown (fixed.mono Set.subset_union_left)) fixed

theorem takes_row {schema : MirrorTable → List String} {m m' : Mirror} {reply reply' : SnapshotReply} {call : SnapshotCall}
    {item : SnapshotItem} (wf : m.WellFormed) (ok : applyRow schema call (m, reply) item = .ok (m', reply')) :
    Takes m (call.live item) m' := by
  obtain ⟨table, pda, named, addressed, effect⟩ := applyRow_effect wf ok
  have seen : call.live item = {⟨(call.network, pda), call.slot, some (table, (call.row item).columns)⟩} := by
    ext o
    simp [SnapshotCall.live, named, addressed]
  rw [seen]
  rcases effect with ⟨⟨version, known, later⟩, rfl⟩ | ⟨fresh, layout, rfl⟩
  · refine ⟨wf, Advances.refl m', ?_⟩
    intro before shown _
    rw [Set.union_singleton]
    apply shown.absorbed
    exact absorbs_stale known (later.elim Int.le_of_lt And.right)
  · have current := current_of_not_stale fresh
    refine ⟨wf.put_live (mergedRow_lastSlot _ _) ((mergedRow_layoutVersion _ _).trans layout), ?advances, ?shows⟩
    case advances =>
      apply advances_put
      intro version known
      rcases Int.lt_or_eq_of_le (current version known) with later | same
      · exact .inl later
      · exact .inr ⟨same, fun closed => absurd ⟨version, known, .inr ⟨closed, Int.le_of_eq same.symm⟩⟩ fresh⟩
    case shows =>
      intro before shown fixed
      rw [Set.union_singleton] at fixed ⊢
      apply shown.absorbed
      refine absorbs_put rfl ?_ current
      simp only [only, if_true, Option.bind_some, Option.map_some, Option.some.injEq, Prod.mk.injEq, true_and]
      -- the old row of the table has the same columns, so that nothing of it stays
      cases stored : m.tables table (call.network, pda) with
      | none => rfl
      | some old =>
          obtain ⟨slot, -, -, version⟩ := wf.stored table _ old stored
          have shows := shown.latest (call.network, pda) slot (some (table, old.columns)) (by simp [Mirror.view, version, stored])
          have columns := fixed _ (Set.mem_insert_of_mem _ shows.1) _ (Set.mem_insert _ _) table _ _ rfl rfl
          funext name
          have same := columns name
          show ((call.row item).columns name).or (old.columns name) = (call.row item).columns name
          cases written : (call.row item).columns name with
          | some value => rfl
          | none => simpa [written] using same

theorem takes_closed {m m' : Mirror} {reply reply' : SnapshotReply} {call : SnapshotCall} {pda : String} (wf : m.WellFormed)
    (ok : applyClosed call (m, reply) pda = .ok (m', reply')) : Takes m {call.gone pda} m' := by
  rcases applyClosed_effect wf ok with ⟨⟨version, known, later⟩, rfl⟩ | ⟨current, rfl⟩
  · refine ⟨wf, Advances.refl m', ?_⟩
    intro before shown _
    rw [Set.union_singleton]
    exact shown.absorbed (absorbs_stale known (Int.le_of_lt later))
  · refine ⟨wf.put_closed _ _, ?advances, ?shows⟩
    case advances =>
      apply advances_put
      intro version known
      rcases Int.lt_or_eq_of_le (current version known) with later | same
      · exact .inl later
      · exact .inr ⟨same, fun _ => rfl⟩
    case shows =>
      intro before shown _
      rw [Set.union_singleton]
      exact shown.absorbed (absorbs_put (w := call.gone pda) rfl rfl current)

theorem takes_all {α : Type} {f : Mirror × SnapshotReply → α → Except MirrorError (Mirror × SnapshotReply)}
    (seen : α → Set Observation)
    (each : ∀ m reply a m' reply', m.WellFormed → f (m, reply) a = .ok (m', reply') → Takes m (seen a) m')
    (items : List α) {acc acc' : Mirror × SnapshotReply} (wf : acc.1.WellFormed) (ok : items.foldlM f acc = .ok acc') :
    Takes acc.1 {o | ∃ a ∈ items, o ∈ seen a} acc'.1 := by
  induction items generalizing acc with
  | nil =>
      obtain rfl := pure_eq_ok.mp ok
      simpa using Takes.refl wf
  | cons a rest ih =>
      rw [List.foldlM_cons] at ok
      obtain ⟨between, first, ok⟩ := bind_eq_ok.mp ok
      have now := each acc.1 acc.2 a between.1 between.2 wf first
      have later := now.trans (ih now.wellFormed ok)
      convert later using 1
      ext o
      simp

theorem takes_snapshot {schema : MirrorTable → List String} {m m' : Mirror} {call : SnapshotCall} (wf : m.WellFormed)
    (ok : mirrorStep schema m call = .ok m') : Takes m call.observations m' := by
  obtain ⟨acc', applied, rfl⟩ := map_eq_ok.mp ok
  simp only [applyIndexerSnapshot, bind_eq_ok, require_eq_ok, exists_and_left, exists_const] at applied
  obtain ⟨-, -, -, acc, rows, closed⟩ := applied
  have first := takes_all call.live (fun _ _ _ _ _ => takes_row) _ wf rows
  have second := takes_all (fun pda => {call.gone pda}) (fun _ _ _ _ _ => takes_closed) _ first.wellFormed closed
  convert first.trans second using 1
  ext o
  simp [SnapshotCall.observations]

/-! ## Runs -/

def observed {schema : MirrorTable → List String} {initial : Mirror} (run : Run (mirrorStep schema) initial) (n : Nat) :
    Set Observation :=
  {o | ∃ i < n, o ∈ (run.label i).observations}

structure Truthful (seen : Set Observation) : Prop where
  agree : Consistent seen
  columns : FixedColumns seen

def MirrorRow.content (row : MirrorRow) : (String → Option Json) × Option Int × Option Nat :=
  (row.columns, row.lastSlot, row.layoutVersion)

def Mirror.Holds (m : Mirror) (o : Observation) : Prop :=
  match o.value with
  | none =>
      m.versions o.key = some { slot := o.time, table := none, closed := true } ∧ ∀ table, m.tables table o.key = none
  | some (table, columns) =>
      m.versions o.key = some { slot := o.time, table := some table, closed := false } ∧
        ∀ other, (m.tables other o.key).map MirrorRow.content =
          if other = table then some (columns, some o.time, some 2) else none

theorem Mirror.WellFormed.nowhere {m : Mirror} (wf : m.WellFormed) {address : Address}
    (differs : ∀ version ∈ m.versions address, version.closed = true) (table : MirrorTable) : m.tables table address = none := by
  cases stored : m.tables table address with
  | none => rfl
  | some row =>
      obtain ⟨slot, -, -, version⟩ := wf.stored table address row stored
      cases differs _ version

theorem Mirror.WellFormed.holds {m : Mirror} (wf : m.WellFormed) {o : Observation} (shown : m.view o.key = some (o.time, o.value)) :
    m.Holds o := by
  obtain ⟨version, known, entry⟩ := Option.map_eq_some_iff.mp shown
  obtain ⟨slot, value⟩ := Prod.mk.inj entry
  obtain ⟨at', table, closed⟩ := version
  rcases wf.known o.key _ known with ⟨rfl, rfl⟩ | ⟨rfl, table, row, rfl, stored⟩
  · simp only [Mirror.Holds, ← value, ← slot]
    refine ⟨known, wf.nowhere ?_⟩
    intro version known'
    rw [Option.mem_def.mp known'] at known
    rw [Option.some.inj known]
  · simp only [Option.bind_some, stored, Option.map_some] at value
    simp only [Mirror.Holds, ← value, ← slot]
    refine ⟨known, fun other => ?_⟩
    split_ifs with same
    · subst same
      obtain ⟨slot', written, layout, known'⟩ := wf.stored other o.key row stored
      rw [known, Option.some.injEq, AccountVersion.mk.injEq] at known'
      rw [stored, Option.map_some, MirrorRow.content, written, layout, ← known'.1]
    · cases elsewhere : m.tables other o.key with
      | none => rfl
      | some row' => exact absurd (wf.one_table elsewhere stored) same

theorem Mirror.Holds.same {m m' : Mirror} {o : Observation} (first : m.Holds o) (second : m'.Holds o) :
    m.versions o.key = m'.versions o.key ∧
      ∀ table, (m.tables table o.key).map MirrorRow.content = (m'.tables table o.key).map MirrorRow.content := by
  unfold Mirror.Holds at first second
  cases value : o.value with
  | none =>
      rw [value] at first second
      exact ⟨first.1.trans second.1.symm, fun table => by rw [first.2, second.2]⟩
  | some content =>
      rw [value] at first second
      exact ⟨first.1.trans second.1.symm, fun table => (first.2 table).trans (second.2 table).symm⟩

section runs
variable {schema : MirrorTable → List String} (run : Run (mirrorStep schema) emptyMirror)

theorem takes_run : ∀ n ≤ run.length, Takes emptyMirror (observed run n) (run.state n) := by
  intro n within
  induction n with
  | zero =>
      rw [run.starts]
      convert Takes.refl emptyMirror_wellFormed using 1
      ext o
      simp [observed]
  | succ n ih =>
      have sofar := ih (Nat.le_of_succ_le within)
      have next := sofar.trans (takes_snapshot sofar.wellFormed (run.next n within))
      convert next using 1
      ext o
      simp [observed, Nat.le_iff_lt_or_eq, or_and_right, exists_or]

theorem advances_run {i j : Nat} (ordered : i ≤ j) (within : j ≤ run.length) : Advances (run.state i) (run.state j) := by
  apply run.related Advances.refl Advances.trans within ordered
  intro k inside _
  exact (takes_snapshot (takes_run run k (Nat.le_of_lt inside)).wellFormed (run.next k inside)).advances

theorem shows_run {n : Nat} (within : n ≤ run.length) (truthful : Truthful (observed run n)) :
    Shows (observed run n) (run.state n).view := by
  have shown := (takes_run run n within).shows ∅ shows_empty (by rw [Set.empty_union]; exact truthful.columns)
  rwa [Set.empty_union] at shown

end runs

/-- Two runs that have observed the same end up with the same mirror, in which each address stands as its latest
observation tells; on the way, versions only advance, and each row is the only one and at the slot of its address's
version. -/
theorem mirror_confluent {schema : MirrorTable → List String} (first second : Run (mirrorStep schema) emptyMirror) {n k : Nat}
    (within : n ≤ first.length) (within' : k ≤ second.length) (truthful : Truthful (observed first n))
    (same : observed second k = observed first n) :
    ((first.state n).versions = (second.state k).versions ∧
      ∀ table address, ((first.state n).tables table address).map MirrorRow.content =
        ((second.state k).tables table address).map MirrorRow.content) ∧
    (∀ o, Latest (observed first n) o → (first.state n).Holds o) ∧
    (∀ address, (∀ o ∈ observed first n, o.key ≠ address) →
      (first.state n).versions address = none ∧ ∀ table, (first.state n).tables table address = none) ∧
    ∀ i ≤ n,
      (∀ address table row, (first.state i).tables table address = some row →
        (∀ other row', (first.state i).tables other address = some row' → other = table) ∧
          ∃ version ∈ (first.state i).versions address, row.lastSlot = some version.slot) ∧
      ∀ j, i ≤ j → j ≤ n → Advances (first.state i) (first.state j) := by
  have wf := fun i (inside : i ≤ n) => (takes_run first i (Nat.le_trans inside within)).wellFormed
  have wf' := (takes_run second k within').wellFormed
  have shown := shows_run first within truthful
  have shown' := shows_run second within' (by rwa [same])
  rw [same] at shown'
  have views := shown.confluent truthful.agree shown'
  have unseen : ∀ m : Mirror, m.WellFormed → ∀ address, m.view address = none →
      m.versions address = none ∧ ∀ table, m.tables table address = none := by
    intro m wellFormed address missing
    have none := Option.map_eq_none_iff.mp missing
    exact ⟨none, wellFormed.nowhere (by simp [none])⟩
  have agree : ∀ address, (first.state n).versions address = (second.state k).versions address ∧
      ∀ table, ((first.state n).tables table address).map MirrorRow.content =
        ((second.state k).tables table address).map MirrorRow.content := by
    intro address
    cases entry : (first.state n).view address with
    | none =>
        obtain ⟨none, nowhere⟩ := unseen _ (wf n le_rfl) address entry
        obtain ⟨none', nowhere'⟩ := unseen _ wf' address (views ▸ entry)
        exact ⟨none.trans none'.symm, fun table => by rw [nowhere, nowhere']⟩
    | some entry' =>
        have holds := (wf n le_rfl).holds (o := ⟨address, entry'.1, entry'.2⟩) entry
        have holds' := wf'.holds (o := ⟨address, entry'.1, entry'.2⟩) (views ▸ entry)
        exact holds.same holds'
  refine ⟨⟨funext fun address => (agree address).1, fun table address => (agree address).2 table⟩, ?latest, ?absent, ?between⟩
  case latest =>
    intro o latest
    exact (wf n le_rfl).holds (shown.shown truthful.agree latest)
  case absent =>
    intro address unobserved
    apply unseen _ (wf n le_rfl)
    cases entry : (first.state n).view address with
    | none => rfl
    | some entry' => exact absurd rfl (unobserved _ (shown.latest address entry'.1 entry'.2 entry).1)
  case between =>
    intro i inside
    refine ⟨?_, fun j ordered upto => advances_run first ordered (Nat.le_trans upto within)⟩
    intro address table row stored
    refine ⟨fun other row' stored' => (wf i inside).one_table stored' stored, ?_⟩
    obtain ⟨slot, written, -, version⟩ := (wf i inside).stored table address row stored
    exact ⟨_, version, written⟩

/-! ## Two deliveries of one account -/

def platformPda : String :=
  "11111111111111111111111111111111"

def platformItem : SnapshotItem where
  table := some .platforms
  fields := [("admin", ⟨.string, platformPda⟩), ("protocol_treasury", ⟨.string, platformPda⟩),
    ("protocol_fee_bps", ⟨.number, "250"⟩), ("pause_flags", ⟨.number, "0"⟩), ("paused", ⟨.boolean, "false"⟩),
    ("issuers_count", ⟨.string, "1"⟩), ("version", ⟨.number, "1"⟩), ("pda", ⟨.string, platformPda⟩),
    ("account_version", ⟨.number, "1"⟩), ("raw", ⟨.object, "\x7b\x7d"⟩)]

def platformSchema : MirrorTable → List String
  | .platforms => platformItem.fields.map Prod.fst ++ stampColumns
  | _ => []

def liveSnapshot (signature : Option String) : SnapshotCall where
  network := "devnet"
  slot := 5
  rows := [platformItem]
  closed := []
  signature := signature
  layoutVersion := some 2
  now := 0

def closedSnapshot : SnapshotCall where
  network := "devnet"
  slot := 7
  rows := []
  closed := [platformPda]
  signature := none
  layoutVersion := some 2
  now := 0

instance : Inhabited SnapshotCall :=
  ⟨closedSnapshot⟩

theorem observed_ofLabels {schema : MirrorTable → List String} {initial : Mirror} {labels : List SnapshotCall}
    {accepted : accepts (mirrorStep schema) initial labels = true} :
    observed (Run.ofLabels _ initial labels accepted) labels.length = {o | ∃ call ∈ labels, o ∈ call.observations} := by
  ext o
  constructor
  · rintro ⟨i, inside, seen⟩
    exact ⟨_, Run.label_mem_ofLabels inside, seen⟩
  · rintro ⟨call, listed, seen⟩
    obtain ⟨i, inside, rfl⟩ := List.mem_iff_getElem.mp listed
    refine ⟨i, inside, ?_⟩
    show o ∈ (labels.getD i default).observations
    rwa [List.getD_eq_getElem _ _ inside]

def platformContent : Content :=
  some (.platforms, ((liveSnapshot none).row platformItem).columns)

theorem live_observations (signature : Option String) :
    (liveSnapshot signature).observations = {⟨("devnet", platformPda), 5, platformContent⟩} := by
  have table : platformItem.table = some .platforms := rfl
  have address : platformItem.text "pda" = some platformPda := by decide
  ext o
  simp [SnapshotCall.observations, liveSnapshot, SnapshotCall.live, table, address, platformContent, SnapshotCall.row]

theorem closed_observations : closedSnapshot.observations = {⟨("devnet", platformPda), 7, none⟩} := by
  ext o
  simp [SnapshotCall.observations, closedSnapshot, SnapshotCall.gone]

theorem truthful_live : Truthful {⟨("devnet", platformPda), 5, platformContent⟩, ⟨("devnet", platformPda), 7, none⟩} := by
  refine ⟨?agree, ?columns⟩
  case agree =>
    rintro a (rfl | rfl) b (rfl | rfl) - <;> simp
  case columns =>
    rintro a (rfl | rfl) b (rfl | rfl) table columns columns' first second name
    · have same := first.symm.trans second
      rw [Option.some.injEq, Prod.mk.injEq] at same
      rw [same.2]
    · cases second
    · cases first
    · cases first

def liveThenClosed : Run (mirrorStep platformSchema) emptyMirror :=
  Run.ofLabels _ emptyMirror [liveSnapshot none, closedSnapshot] (by decide +kernel)

def closedThenLive : Run (mirrorStep platformSchema) emptyMirror :=
  Run.ofLabels _ emptyMirror [closedSnapshot, liveSnapshot none] (by decide +kernel)

theorem observed_liveThenClosed :
    observed liveThenClosed 2 = {⟨("devnet", platformPda), 5, platformContent⟩, ⟨("devnet", platformPda), 7, none⟩} := by
  refine observed_ofLabels.trans ?_
  ext o
  simp [live_observations, closed_observations]

theorem observed_closedThenLive : observed closedThenLive 2 = observed liveThenClosed 2 := by
  rw [observed_liveThenClosed, Set.pair_comm]
  refine observed_ofLabels.trans ?_
  ext o
  simp [live_observations, closed_observations]

theorem mirror_confluent_example :
    (closedThenLive.state 2).Holds ⟨("devnet", platformPda), 7, none⟩ := by
  have truthful := truthful_live
  rw [← observed_liveThenClosed, ← observed_closedThenLive] at truthful
  have confluent := mirror_confluent (n := 2) (k := 2) closedThenLive liveThenClosed le_rfl le_rfl truthful
    observed_closedThenLive.symm
  apply confluent.2.1
  rw [observed_closedThenLive, observed_liveThenClosed]
  refine ⟨.inr rfl, ?_⟩
  rintro o (rfl | rfl) - <;> decide

/-! ## The signature of the last write -/

def signedThenBare : Run (mirrorStep platformSchema) emptyMirror :=
  Run.ofLabels _ emptyMirror [liveSnapshot (some "event"), liveSnapshot none] (by decide +kernel)

def bareThenSigned : Run (mirrorStep platformSchema) emptyMirror :=
  Run.ofLabels _ emptyMirror [liveSnapshot none, liveSnapshot (some "event")] (by decide +kernel)

/-- A webhook's job and a reconcile that observe the same account at the same slot leave the signature of whichever
came last. -/
theorem last_signature_depends_on_order :
    ¬ ∀ (schema : MirrorTable → List String) (first second : Run (mirrorStep schema) emptyMirror),
      Truthful (observed first first.length) → observed second second.length = observed first first.length →
        (first.state first.length).tables = (second.state second.length).tables := by
  intro confluent
  have seen : observed signedThenBare 2 = {⟨("devnet", platformPda), 5, platformContent⟩} := by
    refine observed_ofLabels.trans ?_
    ext o
    simp [live_observations]
  have seen' : observed bareThenSigned 2 = {⟨("devnet", platformPda), 5, platformContent⟩} := by
    refine observed_ofLabels.trans ?_
    ext o
    simp [live_observations]
  have truthful : Truthful (observed signedThenBare 2) := by
    rw [seen]
    exact ⟨truthful_live.agree.mono (by simp), truthful_live.columns.mono (by simp)⟩
  have same := confluent platformSchema signedThenBare bareThenSigned truthful (seen'.trans seen.symm)
  have signatures : ((signedThenBare.state 2).tables .platforms ("devnet", platformPda)).map MirrorRow.lastSignature =
      ((bareThenSigned.state 2).tables .platforms ("devnet", platformPda)).map MirrorRow.lastSignature := by
    show ((signedThenBare.state signedThenBare.length).tables _ _).map _ = _
    rw [same]
    rfl
  revert signatures
  decide +kernel

end Mancipatio.Indexer
