import Mancipatio.Library.Bytes

/-!
# Records as bytes

A codec writes a value and reads it back from the front of a byte string, leaving the rest. It accepts
exactly the strings that it writes, so what is read says what the bytes are: a field of a record can be
read at its offset instead.
-/

namespace Borsh
open Bytes

structure Codec (α : Type) where
  write : α → List UInt8
  read : List UInt8 → Option (α × List UInt8)
  read_write : ∀ a rest, read (write a ++ rest) = some (a, rest)
  write_read : ∀ bytes a rest, read bytes = some (a, rest) → bytes = write a ++ rest

section integers
variable {n w : Nat}

theorem ofLittleEndian_word (width : 2 ^ w = 256 ^ n) (x : BitVec w) :
    BitVec.ofNat w (ofLittleEndian (littleEndian n x.toNat)) = x := by
  rw [ofLittleEndian_littleEndian, Nat.mod_eq_of_lt (width ▸ x.isLt)]
  exact (BitVec.ofNat_toNat w x).trans (BitVec.setWidth_eq x)

theorem ofLittleEndian_bigWord (width : 2 ^ w = 256 ^ n) (x : BitVec w) :
    BitVec.ofNat w (ofLittleEndian (bigEndian n x.toNat).reverse) = x := by
  rw [bigEndian, List.reverse_reverse]
  exact ofLittleEndian_word width x

theorem littleEndian_word {bytes : List UInt8} (width : 2 ^ w = 256 ^ n) (exact : bytes.length = n) :
    littleEndian n (BitVec.ofNat w (ofLittleEndian bytes)).toNat = bytes := by
  have small : ofLittleEndian bytes < 2 ^ w := by
    rw [width, ← exact]
    exact ofLittleEndian_lt bytes
  rw [BitVec.toNat_ofNat, Nat.mod_eq_of_lt small, ← exact]
  exact littleEndian_ofLittleEndian bytes

end integers

namespace Codec

variable {α β : Type}

def fixed (n : Nat) (encode : α → List UInt8) (decode : ∀ bytes : List UInt8, bytes.length = n → α)
    (width : ∀ a, (encode a).length = n) (decode_encode : ∀ a, decode (encode a) (width a) = a)
    (encode_decode : ∀ bytes exact, encode (decode bytes exact) = bytes) : Codec α where
  write := encode
  read bytes := if enough : n ≤ bytes.length then
      some (decode (bytes.take n) (List.length_take_of_le enough), bytes.drop n)
    else none
  read_write := by
    intro a rest
    have enough : n ≤ (encode a ++ rest).length := by
      rw [List.length_append, width]
      exact Nat.le_add_right _ _
    have taken : (encode a ++ rest).take n = encode a := List.take_left' (width a)
    rw [dif_pos enough, List.drop_left' (width a)]
    simp only [taken, decode_encode]
  write_read := by
    intro bytes a rest found
    split at found
    · cases found
      rw [encode_decode, List.take_append_drop]
    · cases found

def word (n w : Nat) (width : 2 ^ w = 256 ^ n) : Codec (BitVec w) :=
  fixed n (fun x => littleEndian n x.toNat) (fun bytes _ => BitVec.ofNat w (ofLittleEndian bytes))
    (fun _ => littleEndian_length _ _) (ofLittleEndian_word width) (fun _ exact => littleEndian_word width exact)

def bigWord (n w : Nat) (width : 2 ^ w = 256 ^ n) : Codec (BitVec w) :=
  fixed n (fun x => bigEndian n x.toNat) (fun bytes _ => BitVec.ofNat w (ofLittleEndian bytes.reverse))
    (fun _ => bigEndian_length _ _) (ofLittleEndian_bigWord width)
    (fun bytes exact => by
      rw [bigEndian, littleEndian_word width ((List.length_reverse).trans exact), List.reverse_reverse])

def array (n : Nat) : Codec (Vector UInt8 n) :=
  fixed n Vector.toList (fun bytes exact => ⟨bytes.toArray, exact⟩) (fun v => v.length_toList) (fun _ => rfl) (fun _ _ => rfl)

def tag (encode : α → UInt8) (decode : UInt8 → Option α) (decode_encode : ∀ a, decode (encode a) = some a)
    (encode_decode : ∀ b a, decode b = some a → encode a = b) : Codec α where
  write a := [encode a]
  read bytes := match bytes with
    | [] => none
    | b :: rest => (decode b).map (·, rest)
  read_write := by
    intro a rest
    show (decode (encode a)).map (·, rest) = some (a, rest)
    rw [decode_encode]
    rfl
  write_read := by
    intro bytes a rest found
    cases bytes with
    | nil => cases found
    | cons b bytes =>
        obtain ⟨a', decoded, same⟩ := Option.map_eq_some_iff.mp found
        obtain ⟨rfl, rfl⟩ := Prod.mk.inj same
        rw [encode_decode b a' decoded]
        rfl

def pair (first : Codec α) (second : Codec β) : Codec (α × β) where
  write p := first.write p.1 ++ second.write p.2
  read bytes := (first.read bytes).bind fun a => (second.read a.2).map fun b => ((a.1, b.1), b.2)
  read_write := by
    intro p rest
    rw [List.append_assoc, first.read_write, Option.bind_some, second.read_write]
    rfl
  write_read := by
    intro bytes p rest found
    obtain ⟨⟨a, between⟩, one, found⟩ := Option.bind_eq_some_iff.mp found
    obtain ⟨⟨b, rest'⟩, two, same⟩ := Option.map_eq_some_iff.mp found
    obtain ⟨rfl, rfl⟩ := Prod.mk.inj same
    have later : between = second.write b ++ rest' := second.write_read _ _ _ two
    rw [first.write_read _ _ _ one, later, List.append_assoc]

def option (codec : Codec α) : Codec (Option α) where
  write o := match o with
    | none => [0]
    | some a => 1 :: codec.write a
  read bytes := match bytes with
    | 0 :: rest => some (none, rest)
    | 1 :: rest => (codec.read rest).map fun a => (some a.1, a.2)
    | _ => none
  read_write := by
    intro o rest
    cases o with
    | none => rfl
    | some a =>
        show (codec.read (codec.write a ++ rest)).map (fun a => (some a.1, a.2)) = some (some a, rest)
        rw [codec.read_write]
        rfl
  write_read := by
    intro bytes o rest found
    split at found
    · cases found
      rfl
    · obtain ⟨⟨a, rest'⟩, read, same⟩ := Option.map_eq_some_iff.mp found
      obtain ⟨rfl, rfl⟩ := Prod.mk.inj same
      rw [codec.write_read _ _ _ read]
      rfl
    · cases found

def iso (codec : Codec α) (wrap : α → β) (unwrap : β → α) (wrap_unwrap : ∀ b, wrap (unwrap b) = b)
    (unwrap_wrap : ∀ a, unwrap (wrap a) = a) : Codec β where
  write b := codec.write (unwrap b)
  read bytes := (codec.read bytes).map fun a => (wrap a.1, a.2)
  read_write := by
    intro b rest
    rw [codec.read_write, Option.map_some, wrap_unwrap]
  write_read := by
    intro bytes b rest found
    obtain ⟨⟨a, rest'⟩, read, same⟩ := Option.map_eq_some_iff.mp found
    obtain ⟨rfl, rfl⟩ := Prod.mk.inj same
    rw [codec.write_read _ _ _ read, unwrap_wrap]

/-! ## Widths -/

section widths
variable {n w : Nat} {width : 2 ^ w = 256 ^ n}

@[simp] theorem word_length (x : BitVec w) : ((word n w width).write x).length = n :=
  littleEndian_length _ _

@[simp] theorem bigWord_length (x : BitVec w) : ((bigWord n w width).write x).length = n :=
  bigEndian_length _ _

@[simp] theorem array_length (v : Vector UInt8 n) : ((array n).write v).length = n :=
  v.length_toList

end widths

end Codec

/-! ## Fields at offsets -/

def slice (bytes : List UInt8) (offset width : Nat) : List UInt8 :=
  (bytes.drop offset).take width

theorem slice_skip {before rest : List UInt8} {n : Nat} (exact : before.length = n) (offset width : Nat) :
    slice (before ++ rest) (n + offset) width = slice rest offset width := by
  rw [slice, slice, ← List.drop_drop, List.drop_left' exact]

theorem slice_first {field rest : List UInt8} {width : Nat} (exact : field.length = width) :
    slice (field ++ rest) 0 width = field := by
  rw [slice, List.drop_zero, List.take_left' exact]

theorem getD_skip {before rest : List UInt8} {n : Nat} (exact : before.length = n) (offset : Nat) (d : UInt8) :
    (before ++ rest).getD (n + offset) d = rest.getD offset d := by
  subst exact
  rw [List.getD_append_right _ _ _ _ (Nat.le_add_right _ _), Nat.add_sub_cancel_left]

end Borsh
