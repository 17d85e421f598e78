import Mathlib.Data.List.Basic
import Mathlib.Data.Nat.Basic
import Mathlib.Tactic.Ring

/-!
# Little-endian bytes and byte buffers

A word of `w` bits is written as `w / 8` bytes, least significant first, and read back from a
slice of a buffer. The two directions are inverse when `8` divides `w`, and the slices of a
concatenation are the concatenated parts, so a message built field by field is read back field
by field.

## Main definitions

* `Bytes.Byte`: one byte.
* `Bytes.ascii`: the bytes of an ASCII string.
* `Bytes.leBytes`, `Bytes.leValue`: the digits of a natural number in base `256`.
* `Bytes.toLe`, `Bytes.ofLe`: the bytes of a word, and the word of some bytes.
* `Bytes.slice`: the part of a buffer at an offset, and `Bytes.splice`: the buffer with the part
  at an offset overwritten.
* `Bytes.wordsLe`: the bytes of a list of words.

## Main results

* `Bytes.ofLe_toLe`, `Bytes.toLe_ofLe`: the round trips of a word.
* `Bytes.slice_append_left`, `Bytes.slice_append_right`: slices of a concatenation.
* `Bytes.slice_append_slice`: adjacent slices join.
* `Bytes.splice_zeros`: filling a zeroed buffer from the left appends.
-/

namespace Bytes

/-- One byte. -/
abbrev Byte := BitVec 8

/-- The bytes of a string of ASCII characters. -/
def ascii (s : String) : List Byte := s.toList.map fun c => BitVec.ofNat 8 c.toNat

/-! ### Base 256 digits -/

/-- The `n` low base-256 digits of a natural number, least significant first. -/
def leBytes : ℕ → ℕ → List Byte
  | 0, _ => []
  | n + 1, x => BitVec.ofNat 8 x :: leBytes n (x / 256)

/-- The natural number with the given base-256 digits. -/
def leValue : List Byte → ℕ
  | [] => 0
  | b :: bs => b.toNat + 256 * leValue bs

@[simp] theorem length_leBytes (n x : ℕ) : (leBytes n x).length = n := by
  induction n generalizing x with
  | zero => rfl
  | succ n ih => rw [leBytes, List.length_cons, ih]

theorem leValue_lt (bs : List Byte) : leValue bs < 256 ^ bs.length := by
  induction bs with
  | nil => simp [leValue]
  | cons b bs ih =>
    have hb : b.toNat < 256 := b.isLt
    rw [leValue, List.length_cons, pow_succ]
    omega

theorem leValue_leBytes (n x : ℕ) : leValue (leBytes n x) = x % 256 ^ n := by
  induction n generalizing x with
  | zero => simp [leBytes, leValue, Nat.mod_one]
  | succ n ih =>
    have hstep : x % 256 ^ (n + 1) = x % 256 + 256 * (x / 256 % 256 ^ n) := by
      rw [pow_succ', Nat.mod_mul]
    rw [leBytes, leValue, ih, BitVec.toNat_ofNat, hstep]

theorem leBytes_leValue (bs : List Byte) : leBytes bs.length (leValue bs) = bs := by
  induction bs with
  | nil => rfl
  | cons b bs ih =>
    have hb : b.toNat < 256 := b.isLt
    have hlow : BitVec.ofNat 8 (b.toNat + 256 * leValue bs) = b := by
      apply BitVec.eq_of_toNat_eq
      rw [BitVec.toNat_ofNat]
      omega
    have hhigh : (b.toNat + 256 * leValue bs) / 256 = leValue bs := by omega
    rw [List.length_cons, leValue, leBytes, hlow, hhigh, ih]

/-! ### Words -/

variable {w : ℕ}

/-- The `w / 8` bytes of a word, least significant first. -/
def toLe (v : BitVec w) : List Byte := leBytes (w / 8) v.toNat

/-- The word whose bytes, least significant first, are given. -/
def ofLe (w : ℕ) (bs : List Byte) : BitVec w := BitVec.ofNat w (leValue bs)

@[simp] theorem length_toLe (v : BitVec w) : (toLe v).length = w / 8 := length_leBytes _ _

private theorem pow_bytes (hw : 8 * (w / 8) = w) : 256 ^ (w / 8) = 2 ^ w := by
  rw [show (256 : ℕ) = 2 ^ 8 from rfl, ← pow_mul, hw]

/-- Reading the bytes of a word gives the word back. -/
theorem ofLe_toLe (hw : 8 * (w / 8) = w) (v : BitVec w) : ofLe w (toLe v) = v := by
  apply BitVec.eq_of_toNat_eq
  rw [ofLe, toLe, leValue_leBytes, pow_bytes hw, BitVec.toNat_ofNat, Nat.mod_mod,
    Nat.mod_eq_of_lt v.isLt]

/-- Writing the word read from `w / 8` bytes gives the bytes back. -/
theorem toLe_ofLe (hw : 8 * (w / 8) = w) {bs : List Byte} (hbs : bs.length = w / 8) :
    toLe (ofLe w bs) = bs := by
  have hlt : leValue bs < 2 ^ w := by
    rw [← pow_bytes hw, ← hbs]
    exact leValue_lt bs
  rw [toLe, ofLe, BitVec.toNat_ofNat, Nat.mod_eq_of_lt hlt, ← hbs, leBytes_leValue]

/-! ### Slices -/

section Slice

variable {α : Type*}

/-- The `n` entries of a buffer from `offset` on; fewer when the buffer ends before that. -/
def slice (buffer : List α) (offset n : ℕ) : List α := (buffer.drop offset).take n

/-- The buffer with the entries from `offset` on overwritten by `part`. -/
def splice (buffer : List α) (offset : ℕ) (part : List α) : List α :=
  buffer.take offset ++ part ++ buffer.drop (offset + part.length)

theorem length_slice {buffer : List α} {offset n : ℕ} (h : offset + n ≤ buffer.length) :
    (slice buffer offset n).length = n := by
  rw [slice, List.length_take, List.length_drop]
  omega

/-- A slice that starts behind the first part of a concatenation. -/
theorem slice_append_right {front back : List α} {offset n : ℕ} (h : front.length ≤ offset) :
    slice (front ++ back) offset n = slice back (offset - front.length) n := by
  rw [slice, slice, List.drop_append, List.drop_of_length_le h, List.nil_append]

/-- The slice that is the first part of a concatenation. -/
theorem slice_append_left {front back : List α} {n : ℕ} (h : front.length = n) :
    slice (front ++ back) 0 n = front := by
  rw [slice, List.drop_zero, ← h, List.take_left]

/-- The slice that is the whole buffer. -/
theorem slice_self {buffer : List α} {n : ℕ} (h : buffer.length = n) :
    slice buffer 0 n = buffer := by
  rw [slice, List.drop_zero, ← h, List.take_length]

/-- Adjacent slices of a buffer join to one slice. -/
theorem slice_append_slice {buffer : List α} {offset next n m : ℕ} (h : next = offset + n) :
    slice buffer offset n ++ slice buffer next m = slice buffer offset (n + m) := by
  rw [slice, slice, slice, h, List.take_add, List.drop_drop]

/-- Overwriting one part of a concatenation by a part of the same length. -/
theorem splice_append {front old back part : List α} {offset : ℕ} (hoff : front.length = offset)
    (hlen : old.length = part.length) :
    splice (front ++ (old ++ back)) offset part = front ++ (part ++ back) := by
  subst hoff
  rw [splice, List.take_left, List.drop_append, List.drop_of_length_le (by omega),
    Nat.add_sub_cancel_left, ← hlen, List.drop_left, List.nil_append, List.append_assoc]

/-- Overwriting the zeros behind `front` with `part` appends `part` to `front`. -/
theorem splice_zeros {front part : List α} {offset k : ℕ} {z : α}
    (hoff : front.length = offset) :
    splice (front ++ List.replicate k z) offset part =
      (front ++ part) ++ List.replicate (k - part.length) z := by
  subst hoff
  rw [splice, List.take_left, List.drop_append, List.drop_of_length_le (by omega),
    List.nil_append, List.drop_replicate, Nat.add_sub_cancel_left]

end Slice

/-! ### Lists of words -/

/-- The bytes of a list of words, in order. -/
def wordsLe (vs : List (BitVec w)) : List Byte := vs.flatMap toLe

@[simp] theorem wordsLe_nil : wordsLe ([] : List (BitVec w)) = [] := rfl

@[simp] theorem wordsLe_cons (v : BitVec w) (vs : List (BitVec w)) :
    wordsLe (v :: vs) = toLe v ++ wordsLe vs := rfl

@[simp] theorem length_wordsLe (vs : List (BitVec w)) :
    (wordsLe vs).length = w / 8 * vs.length := by
  induction vs with
  | nil => rfl
  | cons v vs ih =>
    rw [wordsLe_cons, List.length_append, length_toLe, ih, List.length_cons]
    ring

/-- Appending the words one at a time appends their bytes. -/
theorem foldl_append_toLe (vs : List (BitVec w)) (output : List Byte) :
    vs.foldl (fun output v => output ++ toLe v) output = output ++ wordsLe vs := by
  induction vs generalizing output with
  | nil => rw [List.foldl_nil, wordsLe_nil, List.append_nil]
  | cons v vs ih => rw [List.foldl_cons, ih, wordsLe_cons, List.append_assoc]

/-- Bytes that fill `n` words are the bytes of `n` words. -/
theorem exists_wordsLe (hw : 8 * (w / 8) = w) {n : ℕ} {bs : List Byte}
    (h : bs.length = w / 8 * n) : ∃ vs : List (BitVec w), vs.length = n ∧ bs = wordsLe vs := by
  induction n generalizing bs with
  | zero =>
    have hnil : bs = [] := by simpa using h
    exact ⟨[], rfl, by rw [hnil, wordsLe_nil]⟩
  | succ n ih =>
    rw [Nat.mul_succ] at h
    have hrest : (bs.drop (w / 8)).length = w / 8 * n := by rw [List.length_drop]; omega
    obtain ⟨vs, hlen, hdrop⟩ := ih hrest
    have htake : (bs.take (w / 8)).length = w / 8 := by rw [List.length_take]; omega
    refine ⟨ofLe w (bs.take (w / 8)) :: vs, by rw [List.length_cons, hlen], ?_⟩
    rw [wordsLe_cons, toLe_ofLe hw htake, ← hdrop, List.take_append_drop]

end Bytes
