import Mancipatio.Invocations.CallTree

/-!
# Reading the lines of a log
-/

namespace Mancipatio.Invocations
open Checked

/-! ## One line -/

theorem isTruncation_lineOf (name text : Text) : isTruncation (lineOf name text) = false := by
  rfl

theorem isSpace_of_base64 {c : Char} (digit : (base64Digit c).isSome = true) : isSpace c = false := by
  have ranges : 65 ≤ c.toNat ∧ c.toNat ≤ 90 ∨ 97 ≤ c.toNat ∧ c.toNat ≤ 122 ∨ 48 ≤ c.toNat ∧ c.toNat ≤ 57 ∨
      c.toNat = 43 ∨ c.toNat = 47 := by
    rw [base64Digit] at digit
    split at digit
    · exact .inl ‹_›
    · split at digit
      · exact .inr (.inl ‹_›)
      · split at digit
        · exact .inr (.inr (.inl ‹_›))
        · split at digit
          case isTrue plus => exact .inr (.inr (.inr (.inl (congrArg Char.toNat plus))))
          case isFalse =>
            split at digit
            case isTrue slash => exact .inr (.inr (.inr (.inr (congrArg Char.toNat slash))))
            case isFalse => cases digit
  rw [isSpace, decide_eq_false_iff_not]
  simp only [List.mem_cons, List.not_mem_nil, or_false]
  omega

theorem base64_solid {field : Text} (decodes : (base64Bytes field).isSome = true) {c : Char} (member : c ∈ field) :
    isSpace c = false := by
  rw [base64Bytes] at decodes
  split at decodes
  case isFalse => cases decodes
  case isTrue shape =>
    rw [← @List.takeWhile_append_dropWhile _ (fun c => (base64Digit c).isSome) field, List.mem_append] at member
    rcases member with digit | padding
    · exact isSpace_of_base64 (@List.mem_takeWhile_imp _ (fun c => (base64Digit c).isSome) _ _ digit)
    · have equals := List.all_eq_true.mp shape.2.1 c padding
      rw [decide_eq_true_eq] at equals
      rw [equals]
      decide

theorem base64_plain {field : Text} (nonempty : field ≠ []) (decodes : (base64Bytes field).isSome = true) :
    invokeDepth field = none ∧ isOutcome field = false ∧ isWord field = true := by
  have blank : isSpace ' ' = true := by decide
  have apart : ∀ start rest : Text, ' ' ∈ start → field ≠ start ++ rest := by
    rintro start rest inside rfl
    have solid := base64_solid decodes (List.mem_append_left rest inside)
    rw [blank] at solid
    cases solid
  have invoked : invokeStart.isPrefixOf? field = none := by
    by_contra other
    obtain ⟨rest, found⟩ := Option.ne_none_iff_exists'.mp other
    exact apart invokeStart rest (by decide) (List.isPrefixOf?_eq_some_iff_append_eq.mp found).symm
  have failed : failedStart.isPrefixOf? field = none := by
    by_contra other
    obtain ⟨rest, found⟩ := Option.ne_none_iff_exists'.mp other
    exact apart failedStart rest (by decide) (List.isPrefixOf?_eq_some_iff_append_eq.mp found).symm
  have succeeded : field ≠ successText := by
    rintro rfl
    have refused : base64Bytes successText = none := by decide
    rw [refused] at decodes
    cases decodes
  refine ⟨?_, ?_, ?_⟩
  · rw [invokeDepth, invoked]
    rfl
  · rw [isOutcome, failed, decide_eq_false succeeded]
    rfl
  · rw [isWord, List.isEmpty_eq_false_iff.mpr nonempty, List.all_eq_true.mpr]
    · rfl
    · intro c member
      rw [base64_solid decodes member, Bool.not_false]

section lines
variable {P : Text} (s : Reading)

theorem next_invoke {name : Text} (named : IsName name) {text : Text} {depth : Nat} (invoked : invokeDepth text = some depth) :
    s.next P (lineOf name text) = s.enter P name depth := by
  rw [Reading.next, invoke_lineOf named, invoked]
  rfl

theorem next_outcome {name : Text} (named : IsName name) {text : Text} (other : invokeDepth text = none)
    (outcome : isOutcome text = true) : s.next P (lineOf name text) = s.leave name := by
  rw [Reading.next, invoke_lineOf named, other, Option.map_none, exit_lineOf named, if_pos outcome]

theorem next_other {name : Text} (named : IsName name) {text : Text} (other : invokeDepth text = none)
    (plain : isOutcome text ≠ true) (notData : name ≠ dataWord) : s.next P (lineOf name text) = s := by
  rw [Reading.next, invoke_lineOf named, other, Option.map_none, exit_lineOf named, if_neg plain, data_lineOf named,
    if_neg (fun both => notData both.1)]

theorem next_emit {field : Text} (nonempty : field ≠ []) (decodes : (base64Bytes field).isSome = true) :
    s.next P (lineOf dataWord field) = s.note P field := by
  obtain ⟨other, plain, word⟩ := base64_plain nonempty decodes
  rw [Reading.next, invoke_lineOf isName_data, other, Option.map_none, exit_lineOf isName_data, plain,
    if_neg Bool.false_ne_true, data_lineOf isName_data, if_pos ⟨rfl, word⟩]

theorem tag_ne_data (tag : Tag) : tag.word ≠ dataWord := by
  cases tag <;> decide

end lines

/-! ## Later lines -/

theorem frames_framed (program : Text) (k : Nat) (stack : List OpenFrame) :
    ({ program, frame := some k } :: stack).filterMap OpenFrame.frame = k :: stack.filterMap OpenFrame.frame :=
  rfl

structure Sound (s : Reading) : Prop where
  lengths : s.frames.length = s.closed.length
  distinct : (s.stack.filterMap OpenFrame.frame).Nodup
  live : ∀ k ∈ s.stack.filterMap OpenFrame.frame, s.closed[k]? = some false

structure Later (s t : Reading) : Prop where
  grown : ∀ (k : Nat) (frame : List Text), s.frames[k]? = some frame → ∃ more, t.frames[k]? = some (frame ++ more) ∧
    (s.closed[k]? = some true → more = [] ∧ t.closed[k]? = some true)
  consistent : t.consistent = true → s.consistent = true

theorem Later.refl (s : Reading) : Later s s := by
  constructor
  · intro k frame found
    exact ⟨[], by rw [List.append_nil, found], fun closed => ⟨rfl, closed⟩⟩
  · exact id

theorem Later.trans {s t u : Reading} (first : Later s t) (second : Later t u) : Later s u := by
  constructor
  · intro k frame found
    obtain ⟨more, found, kept⟩ := first.grown k frame found
    obtain ⟨more', found', kept'⟩ := second.grown k _ found
    refine ⟨more ++ more', by rw [found', List.append_assoc], fun closed => ?_⟩
    obtain ⟨rfl, closed⟩ := kept closed
    obtain ⟨rfl, closed⟩ := kept' closed
    exact ⟨rfl, closed⟩
  · intro consistent
    exact first.consistent (second.consistent consistent)

section growth
variable {P : Text} {s : Reading}

theorem Sound.below (sound : Sound s) {k : Nat} (live : k ∈ s.stack.filterMap OpenFrame.frame) : k < s.frames.length := by
  rw [sound.lengths]
  exact (List.getElem?_eq_some_iff.mp (sound.live k live)).1

theorem sound_enter (sound : Sound s) (name : Text) (depth : Nat) : Sound (s.enter P name depth) := by
  unfold Reading.enter
  dsimp only
  split
  case isTrue =>
    constructor
    · rw [List.length_append, List.length_append, sound.lengths]
      rfl
    · rw [frames_framed, List.nodup_cons]
      exact ⟨fun live => Nat.lt_irrefl _ (sound.below live), sound.distinct⟩
    · intro k live
      rw [frames_framed, List.mem_cons] at live
      rcases live with rfl | live
      · rw [sound.lengths, List.getElem?_append_right (Nat.le_refl _), Nat.sub_self]
        rfl
      · rw [List.getElem?_append_left (by rw [← sound.lengths]; exact sound.below live)]
        exact sound.live k live
  case isFalse =>
    constructor
    · exact sound.lengths
    · rw [List.filterMap_cons_none rfl]
      exact sound.distinct
    · rw [List.filterMap_cons_none rfl]
      exact sound.live

theorem later_enter (s : Reading) (name : Text) (depth : Nat) : Later s (s.enter P name depth) := by
  unfold Reading.enter
  dsimp only
  split
  case isTrue =>
    constructor
    · intro k frame found
      have inside := (List.getElem?_eq_some_iff.mp found).1
      refine ⟨[], ?_, fun closed => ⟨rfl, ?_⟩⟩
      · rw [List.getElem?_append_left inside, found, List.append_nil]
      · rw [List.getElem?_append_left (List.getElem?_eq_some_iff.mp closed).1, closed]
    · intro consistent
      exact (Bool.and_eq_true _ _ ▸ consistent).1
  case isFalse =>
    constructor
    · exact (Later.refl s).grown
    · intro consistent
      exact (Bool.and_eq_true _ _ ▸ consistent).1

theorem sound_tail (sound : Sound s) {top : OpenFrame} {stack : List OpenFrame} (stacked : s.stack = top :: stack) :
    (stack.filterMap OpenFrame.frame).Nodup ∧ ∀ k ∈ stack.filterMap OpenFrame.frame, s.closed[k]? = some false := by
  have inside : (stack.filterMap OpenFrame.frame).Sublist (s.stack.filterMap OpenFrame.frame) := by
    rw [stacked]
    exact (List.sublist_cons_self top stack).filterMap _
  exact ⟨sound.distinct.sublist inside, fun k live => sound.live k (inside.subset live)⟩

theorem sound_leave (sound : Sound s) (name : Text) : Sound (s.leave name) := by
  unfold Reading.leave
  split
  case h_1 => exact ⟨sound.lengths, sound.distinct, sound.live⟩
  case h_2 top stack stacked =>
    obtain ⟨distinct, live⟩ := sound_tail sound stacked
    split
    case isTrue =>
      split
      case h_1 frame framed =>
        refine ⟨?_, distinct, ?_⟩
        · rw [List.length_set]
          exact sound.lengths
        · intro k found
          have other : frame ≠ k := by
            rintro rfl
            have twice := sound.distinct
            rw [stacked, List.filterMap_cons_some framed, List.nodup_cons] at twice
            exact twice.1 found
          rw [List.getElem?_set_ne other]
          exact live k found
      case h_2 => exact ⟨sound.lengths, distinct, live⟩
    case isFalse => exact ⟨sound.lengths, distinct, live⟩

theorem later_leave (s : Reading) (name : Text) : Later s (s.leave name) := by
  unfold Reading.leave
  split
  case h_1 => exact ⟨(Later.refl s).grown, fun consistent => Bool.noConfusion consistent⟩
  case h_2 top stack stacked =>
    split
    case isTrue =>
      split
      case h_1 frame framed =>
        constructor
        · intro k fields found
          refine ⟨[], by rw [List.append_nil, found], fun closed => ⟨rfl, ?_⟩⟩
          rw [List.getElem?_set]
          split
          · rename_i same
            rw [same, if_pos (List.getElem?_eq_some_iff.mp closed).1]
          · exact closed
        · exact id
      case h_2 => exact ⟨(Later.refl s).grown, id⟩
    case isFalse => exact ⟨(Later.refl s).grown, fun consistent => Bool.noConfusion consistent⟩

theorem note_cases (s : Reading) (field : Text) : s.note P field = s ∨ ∃ running k stack,
    s.stack = { program := running, frame := some k } :: stack ∧
      s.note P field = { s with frames := s.frames.modify k (· ++ [field]) } := by
  unfold Reading.note
  split
  case h_1 running k stack stacked =>
    split
    · exact .inr ⟨running, k, stack, stacked, rfl⟩
    · exact .inl rfl
  case h_2 => exact .inl rfl

theorem sound_note (sound : Sound s) (field : Text) : Sound (s.note P field) := by
  obtain same | ⟨running, k, stack, stacked, noted⟩ := @note_cases P s field
  · rw [same]
    exact sound
  · rw [noted]
    exact ⟨(List.length_modify ..).trans sound.lengths, sound.distinct, sound.live⟩

theorem later_note (sound : Sound s) (field : Text) : Later s (s.note P field) := by
  obtain same | ⟨running, k, stack, stacked, noted⟩ := @note_cases P s field
  · rw [same]
    exact Later.refl s
  · rw [noted]
    constructor
    · intro k' frame found
      by_cases same : k = k'
      · subst same
        have live : s.closed[k]? = some false := by
          apply sound.live
          rw [stacked, frames_framed]
          exact List.mem_cons_self
        refine ⟨[field], by rw [List.getElem?_modify_eq, found]; rfl, fun closed => ?_⟩
        rw [live] at closed
        cases closed
      · refine ⟨[], ?_, fun closed => ⟨rfl, closed⟩⟩
        rw [List.getElem?_modify_ne _ _ same, found, List.append_nil]
    · exact id

theorem sound_next (sound : Sound s) (line : Text) : Sound (s.next P line) ∧ Later s (s.next P line) := by
  unfold Reading.next
  split
  · exact ⟨sound_enter sound _ _, later_enter s _ _⟩
  · split
    · exact ⟨sound_leave sound _, later_leave s _⟩
    · split
      · exact ⟨sound_note sound _, later_note sound _⟩
      · exact ⟨sound, Later.refl s⟩

theorem later_lines (sound : Sound s) (lines : List Text) :
    Sound (lines.foldl (Reading.next P) s) ∧ Later s (lines.foldl (Reading.next P) s) := by
  induction lines generalizing s with
  | nil => exact ⟨sound, Later.refl s⟩
  | cons line lines ih =>
      obtain ⟨sound', later⟩ := @sound_next P s sound line
      obtain ⟨sound'', later'⟩ := ih sound'
      exact ⟨sound'', later.trans later'⟩

theorem sound_nothingRead : Sound nothingRead := by
  refine ⟨rfl, List.nodup_nil, fun k live => ?_⟩
  cases live

end growth

end Mancipatio.Invocations
