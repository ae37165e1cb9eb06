import Mancipatio.Invocations.Reading

/-!
# What a log proves about the frames of a program

A text behind `Program log:` or `Program return:` may itself read as an invoke line or an outcome. It then opens or
closes a pretended frame of a program named `log:` or `return:`.
-/

namespace Mancipatio.Invocations
open Checked

/-! ## Pretended frames -/

/-- The pretended frames that are open after an activity at a depth, unless one opens or closes out of turn. -/
def Activity.settle : Activity → Nat → List Tag → Option (List Tag)
  | .done, _, pretended => some pretended
  | .emit _ rest, depth, pretended => rest.settle depth pretended
  | .say tag text rest, depth, pretended =>
      match invokeDepth text with
      | some claimed => if claimed = depth + pretended.length + 1 then rest.settle depth (tag :: pretended) else none
      | none =>
          if isOutcome text = true then
            if pretended.head? = some tag then rest.settle depth pretended.tail else none
          else rest.settle depth pretended
  | .call _ _ inner _ rest, depth, pretended =>
      if pretended = [] ∧ inner.settle (depth + 1) [] = some [] then rest.settle depth [] else none

def Activity.shown : Activity → List Tag → List Text
  | .done, _ => []
  | .emit field rest, pretended => if pretended = [] then field :: rest.shown pretended else rest.shown pretended
  | .say tag text rest, pretended =>
      match invokeDepth text with
      | some _ => rest.shown (tag :: pretended)
      | none => if isOutcome text = true then rest.shown pretended.tail else rest.shown pretended
  | .call _ _ _ _ rest, pretended => rest.shown pretended

def framesOf (program : Text) (a : Activity) : List Activity :=
  (a.frames.filter fun frame => frame.1 = program).map Prod.snd

/-- Pretended frames open and close between two calls, and hide no data line of the program. -/
structure Unspoofed (program : Text) (frames : List Frame) : Prop where
  settles : (activity frames).settle 0 [] = some []
  shown : ∀ inner ∈ framesOf program (activity frames), inner.shown [] = inner.own

theorem framesOf_call (program : Text) (ix : CompiledIx) (name : Text) (inner : Activity) (failure : Option Text) (rest : Activity) :
    framesOf program (.call ix name inner failure rest) =
      (if name = program then [inner] else []) ++ framesOf program inner ++ framesOf program rest := by
  simp only [framesOf, Activity.frames, List.filter_cons, List.filter_append, decide_eq_true_eq]
  split <;> simp

theorem shown_sublist (a : Activity) (pretended : List Tag) : (a.shown pretended).Sublist a.own := by
  induction a generalizing pretended with
  | done => exact List.Sublist.refl _
  | emit field rest ih =>
      rw [Activity.shown, Activity.own]
      split
      · exact (ih pretended).cons_cons field
      · exact (ih pretended).cons field
  | say tag text rest ih =>
      rw [Activity.shown, Activity.own]
      split
      · exact ih _
      · split
        · exact ih _
        · exact ih _
  | call ix program inner failure rest _ ih => exact ih pretended

/-! ## What reading a log gives -/

def pretend (tag : Tag) : OpenFrame where
  program := tag.word
  frame := none

def grow (stack : List OpenFrame) (fields : List Text) (frames : List (List Text)) : List (List Text) :=
  match stack.head?.bind OpenFrame.frame with
  | some k => frames.modify k (· ++ fields)
  | none => frames

def Keeps (program : Text) (stack : List OpenFrame) (frames : List (List Text)) : Prop :=
  ∀ top ∈ stack.head?, ∀ k ∈ top.frame, top.program = program ∧ k < frames.length

theorem modify_lift (frames added : List (List Text)) {k : Nat} (inside : k < frames.length) (f : List Text → List Text) :
    (frames ++ added).modify k f = frames.modify k f ++ added := by
  induction frames generalizing k with
  | nil => cases inside
  | cons frame frames ih =>
      cases k with
      | zero => rfl
      | succ k =>
          rw [List.cons_append, List.modify_succ_cons, List.modify_succ_cons, ih (Nat.lt_of_succ_lt_succ inside),
            List.cons_append]

section reading
variable {program : Text}

theorem grow_nil (stack : List OpenFrame) (frames : List (List Text)) : grow stack [] frames = frames := by
  unfold grow
  split
  · simp only [List.append_nil]
    exact List.modify_id ..
  · rfl

theorem grow_append {stack : List OpenFrame} {frames : List (List Text)} (keeps : Keeps program stack frames)
    (fields : List Text) (added : List (List Text)) : grow stack fields (frames ++ added) = grow stack fields frames ++ added := by
  cases stack with
  | nil => rfl
  | cons top stack =>
      obtain ⟨name, frame⟩ := top
      cases frame with
      | none => rfl
      | some k => exact modify_lift frames added (keeps _ rfl k rfl).2 _

theorem grow_length (stack : List OpenFrame) (fields : List Text) (frames : List (List Text)) :
    (grow stack fields frames).length = frames.length := by
  unfold grow
  split
  · exact List.length_modify ..
  · rfl

theorem grow_grow (stack : List OpenFrame) (first second : List Text) (frames : List (List Text)) :
    grow stack second (grow stack first frames) = grow stack (first ++ second) frames := by
  unfold grow
  split
  · rw [List.modify_modify_eq]
    congr 1
    funext fields
    exact List.append_assoc ..
  · rfl

theorem Keeps.of_le {stack : List OpenFrame} {frames more : List (List Text)} (keeps : Keeps program stack frames)
    (le : frames.length ≤ more.length) : Keeps program stack more :=
  fun top head k framed => ⟨(keeps top head k framed).1, (keeps top head k framed).2.trans_le le⟩

theorem note_grow {stack : List OpenFrame} {frames : List (List Text)} (keeps : Keeps program stack frames) (closed : List Bool)
    (consistent : Bool) (field : Text) :
    Reading.note program { stack, frames, closed, consistent } field =
      { stack, frames := grow stack [field] frames, closed, consistent } := by
  cases stack with
  | nil => rfl
  | cons top stack =>
      obtain ⟨name, frame⟩ := top
      cases frame with
      | none => rfl
      | some k =>
          rw [Reading.note]
          exact if_pos (keeps _ rfl k rfl).1

theorem next_say (s : Reading) (address : IsAddress program) (tag : Tag) (text : Text) :
    s.next program (lineOf tag.word text) =
      match invokeDepth text with
      | some claimed =>
          { s with stack := pretend tag :: s.stack, consistent := s.consistent && claimed = s.stack.length + 1 }
      | none => if isOutcome text = true then s.leave tag.word else s := by
  have other : tag.word ≠ program := (address_ne address (colon_tag tag)).symm
  cases invoked : invokeDepth text with
  | some claimed =>
      rw [next_invoke s (isName_tag tag) invoked, Reading.enter]
      exact if_neg other
  | none =>
      by_cases outcome : isOutcome text = true
      · rw [next_outcome s (isName_tag tag) invoked outcome]
        exact (if_pos outcome).symm
      · rw [next_other s (isName_tag tag) invoked outcome (tag_ne_data tag)]
        exact (if_neg outcome).symm

theorem call_lines {name : Text} {inner : Activity} {base : List OpenFrame} {frames : List (List Text)} {closed : List Bool}
    (keeps : Keeps program base frames) (lengths : frames.length = closed.length)
    (ran : ∀ {base' frames' closed'}, base'.length = base.length + 1 → Keeps program base' frames' →
      frames'.length = closed'.length →
      (inner.lines (base.length + 1)).foldl (Reading.next program) { stack := base', frames := frames', closed := closed', consistent := true } =
        { stack := base', frames := grow base' (inner.shown []) frames' ++ (framesOf program inner).map fun a => a.shown [],
          closed := closed' ++ List.replicate (framesOf program inner).length true, consistent := true }) :
    Reading.leave ((inner.lines (base.length + 1)).foldl (Reading.next program)
        (Reading.enter program { stack := base, frames, closed, consistent := true } name (base.length + 1))) name =
      { stack := base,
        frames := frames ++ ((if name = program then [inner] else []) ++ framesOf program inner).map fun a => a.shown [],
        closed := closed ++ List.replicate ((if name = program then [inner] else []) ++ framesOf program inner).length true,
        consistent := true } := by
  by_cases mine : name = program
  · subst mine
    have entered : Reading.enter name { stack := base, frames, closed, consistent := true } name (base.length + 1) =
        { stack := { program := name, frame := some frames.length } :: base, frames := frames ++ [[]],
          closed := closed ++ [false], consistent := true } := by
      simp [Reading.enter]
    have keeps' : Keeps name ({ program := name, frame := some frames.length } :: base) (frames ++ [[]]) := by
      intro top head k framed
      obtain rfl := Option.some.inj head
      obtain rfl := Option.some.inj framed
      exact ⟨rfl, by simp⟩
    have grown : grow ({ program := name, frame := some frames.length } :: base) (inner.shown []) (frames ++ [[]]) =
        frames ++ [inner.shown []] := by
      simp [grow, List.modify_eq_set_getElem?]
    have set : (closed ++ [false] ++ List.replicate (framesOf name inner).length true).set frames.length true =
        closed ++ List.replicate ([inner] ++ framesOf name inner).length true := by
      rw [lengths, List.append_assoc, List.set_append_right _ _ (Nat.le_refl _), Nat.sub_self]
      simp [List.replicate_succ]
    rw [entered, ran rfl keeps' (by simp [lengths]), grown, Reading.leave]
    simp only [if_true]
    rw [set, List.append_assoc, List.map_append]
    rfl
  · have entered : Reading.enter program { stack := base, frames, closed, consistent := true } name (base.length + 1) =
        { stack := { program := name, frame := none } :: base, frames, closed, consistent := true } := by
      simp [Reading.enter, mine]
    have keeps' : Keeps program ({ program := name, frame := none } :: base) frames := by
      intro top head k framed
      obtain rfl := Option.some.inj head
      cases framed
    rw [entered, ran rfl keeps' lengths, Reading.leave]
    simp only [if_true, mine, if_false, List.nil_append]
    rfl

theorem settled_lines (address : IsAddress program) {a : Activity} (wellFormed : a.WellFormed) {base : List OpenFrame}
    {pretended left : List Tag} {frames : List (List Text)} {closed : List Bool} (keeps : Keeps program base frames)
    (lengths : frames.length = closed.length) (settles : a.settle base.length pretended = some left) :
    (a.lines base.length).foldl (Reading.next program)
        { stack := pretended.map pretend ++ base, frames, closed, consistent := true } =
      { stack := left.map pretend ++ base,
        frames := grow base (a.shown pretended) frames ++ (framesOf program a).map fun inner => inner.shown [],
        closed := closed ++ List.replicate (framesOf program a).length true, consistent := true } := by
  induction a generalizing base pretended left frames closed with
  | done =>
      cases settles
      simp [Activity.lines, Activity.shown, grow_nil, framesOf, Activity.frames]
  | emit field rest ih =>
      obtain ⟨nonempty, decodes, wellFormed⟩ := wellFormed
      rw [Activity.lines, List.foldl_cons, next_emit _ nonempty decodes]
      cases pretended with
      | nil =>
          rw [List.map_nil, List.nil_append, note_grow keeps]
          have keeps' := keeps.of_le (grow_length base [field] frames).ge
          have read := @ih wellFormed base [] left _ closed keeps' (by rw [grow_length, lengths]) settles
          rw [List.map_nil, List.nil_append, grow_grow] at read
          exact read
      | cons tag pretended => exact ih wellFormed keeps lengths settles
  | say tag text rest ih =>
      rw [Activity.lines, List.foldl_cons, next_say _ address]
      have shape : framesOf program (.say tag text rest) = framesOf program rest := rfl
      rw [Activity.settle] at settles
      rw [Activity.shown, shape]
      cases invoked : invokeDepth text with
      | some claimed =>
          simp only [invoked, Option.ite_none_right_eq_some] at settles
          obtain ⟨turn, settles⟩ := settles
          have read := @ih wellFormed base (tag :: pretended) left _ closed keeps lengths settles
          simpa [turn, Nat.add_comm, Nat.add_left_comm, Nat.add_assoc] using read
      | none =>
          simp only [invoked] at settles
          by_cases outcome : isOutcome text = true
          · simp only [outcome, if_true, Option.ite_none_right_eq_some] at settles ⊢
            obtain ⟨top, settles⟩ := settles
            obtain ⟨pretended, rfl⟩ := List.head?_eq_some_iff.mp top
            have left' : Reading.leave { stack := (tag :: pretended).map pretend ++ base, frames, closed, consistent := true } tag.word =
                { stack := pretended.map pretend ++ base, frames, closed, consistent := true } := by
              simp [Reading.leave, pretend]
            rw [left']
            exact ih wellFormed keeps lengths settles
          · simp only [outcome] at settles ⊢
            exact ih wellFormed keeps lengths settles
  | call ix name inner failure rest ihInner ih =>
      obtain ⟨named, oneLine, inside, wellFormed⟩ := wellFormed
      rw [Activity.settle, Option.ite_none_right_eq_some] at settles
      obtain ⟨⟨rfl, innerSettles⟩, settles⟩ := settles
      have name' := isName_address named
      rw [Activity.lines, List.foldl_cons, List.foldl_append, List.foldl_cons, List.map_nil, List.nil_append,
        next_invoke _ name' (invokeDepth_invokeText _),
        next_outcome _ name' (invokeDepth_outcomeText failure) (isOutcome_outcomeText oneLine),
        call_lines keeps lengths]
      · have keeps' := @Keeps.of_le program base frames (frames ++ ((if name = program then [inner] else []) ++
          framesOf program inner).map fun a => a.shown []) keeps (by simp)
        have lengths' : (frames ++ ((if name = program then [inner] else []) ++ framesOf program inner).map fun a => a.shown []).length =
            (closed ++ List.replicate ((if name = program then [inner] else []) ++ framesOf program inner).length true).length := by
          simp [lengths]
        have read := ih wellFormed keeps' lengths' settles
        rw [List.map_nil, List.nil_append] at read
        rw [read, framesOf_call, Activity.shown, grow_append keeps]
        simp [List.append_assoc, List.replicate_append_replicate, Nat.add_assoc]
      · intro base' frames' closed' deeper keeps' lengths'
        have read := @ihInner inside base' [] [] frames' closed' keeps' lengths' (by rw [deeper]; exact innerSettles)
        rw [deeper] at read
        exact read

/-! ## Frames out of turn -/

theorem consistent_lines {s : Reading} {lines : List Text} (consistent : (lines.foldl (Reading.next program) s).consistent = true) :
    s.consistent = true := by
  induction lines generalizing s with
  | nil => exact consistent
  | cons line lines ih =>
      have before := ih consistent
      unfold Reading.next at before
      split at before
      · exact (later_enter s _ _).consistent before
      · split at before
        · exact (later_leave s _).consistent before
        · split at before
          · obtain same | ⟨_, _, _, _, noted⟩ := note_cases s _
            · rwa [same] at before
            · rwa [noted] at before
          · exact before

theorem broken_lines {s : Reading} (broken : s.consistent = false) (lines : List Text) :
    (lines.foldl (Reading.next program) s).consistent = false := by
  cases later : (lines.foldl (Reading.next program) s).consistent with
  | false => rfl
  | true => rw [consistent_lines later] at broken; cases broken

theorem leave_other {top : OpenFrame} {name : Text} (other : top.program ≠ name) (stack : List OpenFrame)
    (frames : List (List Text)) (closed : List Bool) (consistent : Bool) :
    (Reading.leave { stack := top :: stack, frames, closed, consistent } name).consistent = false := by
  rw [Reading.leave]
  exact congrArg Reading.consistent (if_neg other)

theorem leave_broken {s : Reading} (broken : s.consistent = false) (name : Text) : (s.leave name).consistent = false := by
  cases left : (s.leave name).consistent with
  | false => rfl
  | true => rw [(later_leave s name).consistent left] at broken; cases broken

theorem enter_out_of_turn {s : Reading} {depth : Nat} (other : depth ≠ s.stack.length + 1) (name : Text) :
    (s.enter program name depth).consistent = false := by
  unfold Reading.enter
  dsimp only
  split <;> simp [other]

theorem entered (name : Text) {base : List OpenFrame} {frames : List (List Text)} {closed : List Bool}
    (lengths : frames.length = closed.length) : ∃ frame frames' closed',
      Reading.enter program { stack := base, frames, closed, consistent := true } name (base.length + 1) =
        { stack := { program := name, frame } :: base, frames := frames', closed := closed', consistent := true } ∧
      Keeps program ({ program := name, frame } :: base) frames' ∧ frames'.length = closed'.length := by
  by_cases mine : name = program
  · refine ⟨some frames.length, frames ++ [[]], closed ++ [false], by simp [Reading.enter, mine], ?_, by simp [lengths]⟩
    intro top head k framed
    obtain rfl := Option.some.inj head
    obtain rfl := Option.some.inj framed
    exact ⟨mine, by simp⟩
  · refine ⟨none, frames, closed, by simp [Reading.enter, mine], ?_, lengths⟩
    intro top head k framed
    obtain rfl := Option.some.inj head
    cases framed

theorem word_injective {a b : Tag} (same : a.word = b.word) : a = b := by
  cases a <;> cases b <;> first | rfl | exact absurd same (by decide)

theorem unsettled_lines (address : IsAddress program) {a : Activity} (wellFormed : a.WellFormed) {base : List OpenFrame}
    (real : ∀ frame ∈ base, IsAddress frame.program) {pretended : List Tag} {frames : List (List Text)} {closed : List Bool}
    (keeps : Keeps program base frames) (lengths : frames.length = closed.length)
    (unsettled : a.settle base.length pretended = none) :
    ((a.lines base.length).foldl (Reading.next program)
      { stack := pretended.map pretend ++ base, frames, closed, consistent := true }).consistent = false := by
  induction a generalizing base pretended frames closed with
  | done => cases unsettled
  | emit field rest ih =>
      obtain ⟨nonempty, decodes, wellFormed⟩ := wellFormed
      rw [Activity.lines, List.foldl_cons, next_emit _ nonempty decodes]
      cases pretended with
      | nil =>
          rw [List.map_nil, List.nil_append, note_grow keeps]
          have keeps' := keeps.of_le (grow_length base [field] frames).ge
          have lengths' := (grow_length base [field] frames).trans lengths
          exact ih wellFormed real keeps' lengths' unsettled
      | cons tag pretended => exact ih wellFormed real keeps lengths unsettled
  | say tag text rest ih =>
      rw [Activity.lines, List.foldl_cons, next_say _ address]
      rw [Activity.settle] at unsettled
      cases invoked : invokeDepth text with
      | some claimed =>
          simp only [invoked] at unsettled
          by_cases turn : claimed = base.length + pretended.length + 1
          · rw [if_pos turn] at unsettled
            have read := ih wellFormed real keeps lengths unsettled
            simpa [turn, Nat.add_comm, Nat.add_left_comm, Nat.add_assoc] using read
          · apply broken_lines
            have other : claimed ≠ pretended.length + base.length + 1 := by omega
            simp [other]
      | none =>
          simp only [invoked] at unsettled
          by_cases outcome : isOutcome text = true
          · simp only [outcome, if_true] at unsettled ⊢
            cases pretended with
            | nil =>
                apply broken_lines
                cases base with
                | nil => rfl
                | cons top base =>
                    exact leave_other (address_ne (real top List.mem_cons_self) (colon_tag tag)) _ _ _ _
            | cons other pretended =>
                by_cases same : other = tag
                · subst same
                  rw [List.head?_cons, if_pos rfl] at unsettled
                  have left : Reading.leave { stack := (other :: pretended).map pretend ++ base, frames, closed, consistent := true }
                      other.word = { stack := pretended.map pretend ++ base, frames, closed, consistent := true } := by
                    simp [Reading.leave, pretend]
                  rw [left]
                  exact ih wellFormed real keeps lengths unsettled
                · apply broken_lines
                  exact leave_other (fun words => same (word_injective words)) _ _ _ _
          · simp only [outcome] at unsettled ⊢
            exact ih wellFormed real keeps lengths unsettled
  | call ix name inner failure rest ihInner ih =>
      obtain ⟨named, oneLine, inside, wellFormed⟩ := wellFormed
      have name' := isName_address named
      rw [Activity.lines, List.foldl_cons, List.foldl_append, List.foldl_cons,
        next_invoke _ name' (invokeDepth_invokeText _),
        next_outcome _ name' (invokeDepth_outcomeText failure) (isOutcome_outcomeText oneLine)]
      rw [Activity.settle] at unsettled
      cases pretended with
      | cons tag pretended =>
          apply broken_lines
          apply leave_broken
          apply broken_lines
          apply enter_out_of_turn
          simp only [List.length_append, List.length_map, List.length_cons]
          omega
      | nil =>
          obtain ⟨frame, frames', closed', enters, keeps', lengths'⟩ := @entered program name base frames closed lengths
          have real' : ∀ open' ∈ { program := name, frame := frame } :: base, IsAddress open'.program := by
            intro open' member
            cases member with
            | head => exact named
            | tail _ member => exact real open' member
          rw [List.map_nil, List.nil_append]
          cases ran : inner.settle (base.length + 1) [] with
          | none =>
              have read := @ihInner inside _ real' [] frames' closed' keeps' lengths' ran
              apply broken_lines
              apply leave_broken
              rw [enters]
              exact read
          | some left =>
              cases left with
              | cons tag left =>
                  have read := settled_lines address inside keeps' lengths' ran
                  apply broken_lines
                  rw [enters]
                  rw [List.map_nil, List.nil_append, List.length_cons] at read
                  rw [read]
                  exact leave_other (address_ne named (colon_tag tag)).symm _ _ _ _
              | nil =>
                  rw [if_pos ⟨rfl, ran⟩] at unsettled
                  rw [call_lines keeps lengths]
                  · have keeps'' := @Keeps.of_le program base frames (frames ++ ((if name = program then [inner] else []) ++
                      framesOf program inner).map fun a => a.shown []) keeps (by simp)
                    apply ih wellFormed real keeps'' _ unsettled
                    simp [lengths]
                  · intro base' frames' closed' deeper keeps' lengths'
                    have settles : inner.settle base'.length [] = some [] := by rw [deeper, ran]
                    have read := settled_lines address inside keeps' lengths' settles
                    rw [deeper] at read
                    exact read

end reading

end Mancipatio.Invocations
