import CefCore.Foundations.Lockstep
import CefCore.Foundations.MachineInt
import Mathlib.Data.PNat.Basic

/-!
# Reading an array of bytes

`CefByteReadHandler` of `libcef_dll/wrapper/cef_byte_read_handler.cc` and `ByteReadHandler` of
`wrapper/byte_read_handler.rs`, and what both are for: a position in an array that never leaves it.

## Main results

* `agree_iff`: the calls on which both agree with the position.

## Implementation notes

* An operation whose result does not fit into a signed integer has no defined result in C++; in Rust it
  panics if overflows are checked, and wraps around if they are not. All other results fit.
* A `usize` has 64 bits, and an array is smaller than the largest signed integer.
* The lock of the stream is poisoned only behind a panic, where a run is over.
-/

namespace CefCore.Wrapper.ReadHandler

open MachineInt Option Int

structure Buffer where
  bytes : List UInt8
  length_lt : bytes.length < 2 ^ 63

inductive Call where
  | read (size : ℕ+) (n : Nat)
  | seek (offset : Int64) (whence : Int)
  | tell
  | eof

/-- What they return; reading also puts bytes into the buffer of its caller. -/
inductive Answer where
  | read (ret : Nat) (data : List UInt8)
  | seek (rv : Int)
  | tell (offset : Int)
  | eof (rv : Int)
  deriving DecidableEq

abbrev seekSet : Int := 0

abbrev seekCur : Int := 1

abbrev seekEnd : Int := 2

/-! ### Positions in an array -/

structure Position (b : Buffer) where
  pos : Nat
  pos_le : pos ≤ b.bytes.length

namespace Position

variable {b : Buffer}

def start (b : Buffer) : Position b := ⟨0, Nat.zero_le _⟩

section

variable (p : Position b)

/-- Where a call seeks to, unless its origin is unknown. -/
def target (offset : Int64) (whence : Int) : Option Int :=
  if whence = seekSet then some offset.toInt
  else if whence = seekCur then some (p.pos + offset.toInt)
  else if whence = seekEnd then some (b.bytes.length + offset.toInt)
  else none

def seek (offset : Int64) (whence : Int) : Int × Position b :=
  match p.target offset whence with
  | none => (-1, p)
  | some z => if h : 0 ≤ z ∧ z ≤ b.bytes.length then (0, ⟨z.toNat, toNat_le.mpr h.2⟩) else (-1, p)

def items (size : ℕ+) (n : Nat) : Nat := min n ((b.bytes.length - p.pos) / size)

lemma add_items_le (size : ℕ+) (n : Nat) : p.pos + p.items size n * size ≤ b.bytes.length := by
  have hle : p.items size n * size ≤ (b.bytes.length - p.pos) / size * size :=
    Nat.mul_le_mul_right _ (Nat.min_le_right _ _)
  have hdiv := Nat.div_mul_le_self (b.bytes.length - p.pos) size
  have hpos := p.pos_le
  omega

/-- The next whole items are read, and the position moves behind them. -/
def read (size : ℕ+) (n : Nat) : (Nat × List UInt8) × Position b :=
  ((p.items size n, (b.bytes.drop p.pos).take (p.items size n * size)),
    ⟨p.pos + p.items size n * size, p.add_items_le size n⟩)

def answer : Call → Answer × Position b
  | .read size n => (.read (p.read size n).1.1 (p.read size n).1.2, (p.read size n).2)
  | .seek offset whence => (.seek (p.seek offset whence).1, (p.seek offset whence).2)
  | .tell => (.tell p.pos, p)
  | .eof => (.eof (if b.bytes.length ≤ p.pos then 1 else 0), p)

end

end Position

/-! ### The handler in C++ -/

structure CefByteReadHandler where
  bytes : List UInt8
  size : Int
  offset : Int := 0

namespace CefByteReadHandler

def create (b : Buffer) : CefByteReadHandler where
  bytes := b.bytes
  size := b.bytes.length

section

variable (h : CefByteReadHandler)
include h

def read (size n : Nat) : (Nat × List UInt8) × CefByteReadHandler :=
  let s := toSizeT (h.size - h.offset) / size
  let ret := min n s
  ((ret, (h.bytes.drop h.offset.toNat).take (ret * size)), { h with offset := h.offset + ret * size })

def seek (offset : Int64) (whence : Int) : Option (Int × CefByteReadHandler) :=
  if whence = seekCur then
    (checked (h.offset + offset.toInt)).map fun sum =>
      if sum > h.size ∨ sum < 0 then (-1, h) else (0, { h with offset := sum })
  else if whence = seekEnd then
    (checked offset.toInt.natAbs).map fun offsetAbs =>
      if offsetAbs > h.size then (-1, h) else (0, { h with offset := h.size - offsetAbs })
  else if whence = seekSet then
    some (if offset.toInt > h.size ∨ offset.toInt < 0 then (-1, h)
      else (0, { h with offset := offset.toInt }))
  else some (-1, h)

def tell : Int := h.offset

def eof : Int := if h.offset ≥ h.size then 1 else 0

/-- A call, unless its result is not defined. -/
def step : Call → Option (Answer × CefByteReadHandler)
  | .read size n => some (.read (h.read size n).1.1 (h.read size n).1.2, (h.read size n).2)
  | .seek offset whence => (h.seek offset whence).map fun (rv, h') => (.seek rv, h')
  | .tell => some (.tell h.tell, h)
  | .eof => some (.eof h.eof, h)

end

end CefByteReadHandler

/-! ### The handler in Rust -/

structure ByteStream where
  bytes : List UInt8
  offset : Nat

namespace ByteStream

def new (b : Buffer) : ByteStream where
  bytes := b.bytes
  offset := 0

def read (s : ByteStream) (size n : Nat) : (Nat × List UInt8) × ByteStream :=
  let ret := min ((s.bytes.length - s.offset) / size) n
  ((ret, (s.bytes.drop s.offset).take (ret * size)), { s with offset := s.offset + ret * size })

/-- The negation of an `i64`, unless it panics. -/
def neg (overflowChecks : Bool) (z : Int) : Option Int :=
  if overflowChecks then checked (-z) else some (wrapped (-z))

def seek (overflowChecks : Bool) (s : ByteStream) (offset : Int64) (whence : Int) :
    Option (Int × ByteStream) :=
  if whence = seekSet then
    if offset.toInt < 0 then some (-1, s)
    else
      let offset := toSizeT offset.toInt
      some (if offset > s.bytes.length then (-1, s) else (0, { s with offset := offset }))
  else if whence = seekCur then
    if offset.toInt < 0 then
      (neg overflowChecks offset.toInt).map fun negated =>
        let offset := toSizeT negated
        if offset > s.offset then (-1, s) else (0, { s with offset := s.offset - offset })
    else
      let offset := toSizeT offset.toInt
      some (if offset + s.offset > s.bytes.length then (-1, s)
        else (0, { s with offset := s.offset + offset }))
  else if whence = seekEnd then
    if offset.toInt > 0 then some (-1, s)
    else
      (neg overflowChecks offset.toInt).map fun negated =>
        let offset := toSizeT negated
        if offset > s.bytes.length then (-1, s)
        else (0, { s with offset := s.bytes.length - offset })
  else some (-1, s)

def tell (s : ByteStream) : Int := wrapped s.offset

def eof (s : ByteStream) : Int := if s.offset ≥ s.bytes.length then 1 else 0

def step (overflowChecks : Bool) (s : ByteStream) : Call → Option (Answer × ByteStream)
  | .read size n => some (.read (s.read size n).1.1 (s.read size n).1.2, (s.read size n).2)
  | .seek offset whence => (s.seek overflowChecks offset whence).map fun (rv, s') => (.seek rv, s')
  | .tell => some (.tell s.tell, s)
  | .eof => some (.eof s.eof, s)

end ByteStream

/-! ### Agreement -/

/-- A call that the handler in C++ answers right: it does not seek so far forward from the current
position that the sum overflows, nor to a place behind the end that lies as far from it as a place of
the array, nor by the least number from the end. -/
def HarmlessInCpp {b : Buffer} (p : Position b) : Call → Prop
  | .seek offset whence =>
    (whence = seekCur → p.pos + offset.toInt < 2 ^ 63) ∧
      (whence = seekEnd → offset.toInt ≠ -2 ^ 63 ∧
        ¬ (0 < offset.toInt ∧ offset.toInt ≤ b.bytes.length))
  | _ => True

/-- A call that the handler in Rust answers right: if overflows are checked, it does not seek by the
least number from the current position or the end. -/
def HarmlessInRust {b : Buffer} (overflowChecks : Bool) (_ : Position b) : Call → Prop
  | .seek offset whence =>
    overflowChecks = true → whence = seekCur ∨ whence = seekEnd → offset.toInt ≠ -2 ^ 63
  | _ => True

def CefByteReadHandler.ofPosition {b : Buffer} (p : Position b) : CefByteReadHandler where
  bytes := b.bytes
  size := b.bytes.length
  offset := p.pos

def ByteStream.ofPosition {b : Buffer} (p : Position b) : ByteStream where
  bytes := b.bytes
  offset := p.pos

/-- Both handlers answer all calls as they should, so that they answer them in the same way, and behind
each call they are at the position at which they should be. -/
def Agree (b : Buffer) (overflowChecks : Bool) (calls : List Call) : Prop :=
  ∀ n, Lockstep.Agrees Position.answer CefByteReadHandler.step
      (fun p h => h = CefByteReadHandler.ofPosition p) (Position.start b)
      (CefByteReadHandler.create b) (calls.take n) ∧
    Lockstep.Agrees Position.answer (ByteStream.step overflowChecks)
      (fun p s => s = ByteStream.ofPosition p) (Position.start b) (ByteStream.new b) (calls.take n)

namespace Position

variable {b : Buffer} {p : Position b} {offset : Int64} {whence z : Int}

lemma seek_of_mem (htarget : p.target offset whence = some z)
    (hz : 0 ≤ z ∧ z ≤ b.bytes.length) : p.seek offset whence = (0, ⟨z.toNat, toNat_le.mpr hz.2⟩) := by
  rw [seek, htarget]
  exact dif_pos hz

lemma seek_of_not_mem (htarget : p.target offset whence = some z)
    (hz : ¬ (0 ≤ z ∧ z ≤ b.bytes.length)) : p.seek offset whence = (-1, p) := by
  rw [seek, htarget]
  exact dif_neg hz

lemma seek_of_none (htarget : p.target offset whence = none) : p.seek offset whence = (-1, p) := by
  rw [seek, htarget]

end Position

namespace CefByteReadHandler

variable {b : Buffer} {p : Position b} {offset : Int64} {whence : Int}

lemma read_ofPosition (p : Position b) (size : ℕ+) (n : Nat) :
    (ofPosition p).read size n = ((p.read size n).1, ofPosition (p.read size n).2) := by
  have hleft : toSizeT (b.bytes.length - p.pos) = b.bytes.length - p.pos := by
    have hlt := b.length_lt
    have hle := p.pos_le
    rw [← ofNat_sub hle]
    exact toSizeT_natCast (by omega)
  simp only [read, ofPosition, Position.read, Position.items, hleft, toNat_natCast]
  push_cast
  rfl

lemma size_ofPosition : (ofPosition p).size = b.bytes.length := rfl

lemma ofPosition_seek {z : Int} (htarget : p.target offset whence = some z) :
    (if z > b.bytes.length ∨ z < 0 then (-1, ofPosition p)
      else (0, { ofPosition p with offset := z })) =
      ((p.seek offset whence).1, ofPosition (p.seek offset whence).2) := by
  by_cases hz : 0 ≤ z ∧ z ≤ b.bytes.length
  · rw [Position.seek_of_mem htarget hz, if_neg (by omega)]
    simp [ofPosition, toNat_of_nonneg hz.1]
  · rw [Position.seek_of_not_mem htarget hz, if_pos (by omega)]

lemma seek_ofPosition (h : HarmlessInCpp p (.seek offset whence)) :
    (ofPosition p).seek offset whence =
      some ((p.seek offset whence).1, ofPosition (p.seek offset whence).2) := by
  obtain ⟨hmin, hmax⟩ := fitsInt64_toInt offset
  obtain ⟨hcur, hend⟩ := h
  unfold seek
  by_cases hwhence : whence = seekCur
  · subst hwhence
    have hsum : FitsInt64 (p.pos + offset.toInt) := ⟨by omega, hcur rfl⟩
    have hchecked : checked ((ofPosition p).offset + offset.toInt) = some (p.pos + offset.toInt) :=
      if_pos hsum
    rw [if_pos rfl, hchecked, map_some]
    exact congrArg some (ofPosition_seek rfl)
  · rw [if_neg hwhence]
    by_cases hwhence : whence = seekEnd
    · subst hwhence
      obtain ⟨hne, hbehind⟩ := hend rfl
      have habs : FitsInt64 offset.toInt.natAbs := ⟨by omega, by omega⟩
      rw [if_pos rfl, checked, if_pos habs, map_some, ← ofPosition_seek rfl, size_ofPosition]
      by_cases hz : offset.toInt.natAbs > (b.bytes.length : Int)
      · rw [if_pos hz, if_pos (by omega)]
      · have hoffset : (b.bytes.length : Int) - offset.toInt.natAbs =
            b.bytes.length + offset.toInt := by omega
        rw [if_neg hz, if_neg (by omega), hoffset]
        rfl
    · rw [if_neg hwhence]
      by_cases hwhence : whence = seekSet
      · subst hwhence
        rw [if_pos rfl]
        exact congrArg some (ofPosition_seek rfl)
      · rw [if_neg hwhence, Position.seek_of_none]
        unfold Position.target
        rw [if_neg hwhence, if_neg (by assumption), if_neg (by assumption)]

lemma seek_ofPosition_ne (h : ¬ HarmlessInCpp p (.seek offset whence)) (h' : CefByteReadHandler) :
    (ofPosition p).seek offset whence ≠ some ((p.seek offset whence).1, h') := by
  obtain ⟨hmin, hmax⟩ := fitsInt64_toInt offset
  unfold seek
  by_cases hcur : whence = seekCur
  · subst hcur
    have hsum : ¬ FitsInt64 (p.pos + offset.toInt) := by
      rintro ⟨_, hfits⟩
      exact h ⟨fun _ => hfits, fun hend => absurd hend (by decide)⟩
    have hchecked : checked ((ofPosition p).offset + offset.toInt) = none := if_neg hsum
    rw [if_pos rfl, hchecked, map_none]
    exact nofun
  · have hend : whence = seekEnd := by
      by_contra hend
      exact h ⟨fun hwhence => absurd hwhence hcur, fun hwhence => absurd hwhence hend⟩
    subst hend
    rw [if_neg hcur, if_pos rfl]
    by_cases hleast : offset.toInt = -2 ^ 63
    · have habs : ¬ FitsInt64 offset.toInt.natAbs := by
        rintro ⟨_, hfits⟩
        omega
      rw [checked, if_neg habs, map_none]
      exact nofun
    · -- the target is behind the end, and its distance from there is that of a place of the array
      have hbehind : 0 < offset.toInt ∧ offset.toInt ≤ b.bytes.length := by
        by_contra hbehind
        exact h ⟨fun hwhence => absurd hwhence hcur, fun _ => ⟨hleast, hbehind⟩⟩
      have habs : FitsInt64 offset.toInt.natAbs := ⟨by omega, by omega⟩
      have htarget : p.target offset seekEnd = some (b.bytes.length + offset.toInt) := rfl
      rw [checked, if_pos habs, map_some, size_ofPosition, if_neg (by omega),
        Position.seek_of_not_mem htarget (by omega)]
      intro heq
      cases heq

/-- **The handler in C++** agrees with the positions on exactly the runs of harmless calls. -/
theorem agrees_iff (calls : List Call) (p : Position b) :
    Lockstep.Agrees Position.answer step (fun p h => h = ofPosition p) p (ofPosition p) calls ↔
      Transition.Along (Lockstep.next Position.answer) HarmlessInCpp p calls := by
  refine Lockstep.agrees_iff ?_ ?_ calls p (ofPosition p) rfl
  · rintro p _ call rfl hcall
    cases call with
    | read size n =>
      refine ⟨_, ?_, rfl⟩
      simp only [step, read_ofPosition]
      rfl
    | seek offset whence =>
      refine ⟨_, ?_, rfl⟩
      rw [step, seek_ofPosition hcall]
      rfl
    | tell => exact ⟨_, rfl, rfl⟩
    | eof =>
      refine ⟨_, ?_, rfl⟩
      simp [step, eof, ofPosition, Position.answer]
  · rintro p _ call rfl hcall h' hstep
    cases call with
    | seek offset whence =>
      simp only [step, map_eq_some_iff, Prod.mk.injEq, Prod.exists] at hstep
      obtain ⟨rv, h₁, hseek, hrv, rfl⟩ := hstep
      obtain rfl : rv = (p.seek offset whence).1 := Answer.seek.inj hrv
      exact seek_ofPosition_ne hcall h₁ hseek
    | read size n => exact hcall trivial
    | tell => exact hcall trivial
    | eof => exact hcall trivial

end CefByteReadHandler

namespace ByteStream

variable {b : Buffer} {p : Position b} {offset : Int64} {whence : Int} {overflowChecks : Bool}

lemma read_ofPosition (p : Position b) (size : ℕ+) (n : Nat) :
    (ofPosition p).read size n = ((p.read size n).1, ofPosition (p.read size n).2) := by
  simp [read, ofPosition, Position.read, Position.items, min_comm]

lemma exists_neg {z : Int} (hz : z ≤ 0) (hmin : -2 ^ 63 ≤ z)
    (h : overflowChecks = true → z ≠ -2 ^ 63) :
    ∃ negated, neg overflowChecks z = some negated ∧ toSizeT negated = z.natAbs := by
  cases overflowChecks with
  | true =>
    have hne := h rfl
    have hfits : FitsInt64 (-z) := ⟨by omega, by omega⟩
    refine ⟨-z, ?_, ?_⟩
    · rw [neg, if_pos rfl, checked, if_pos hfits]
    · unfold toSizeT
      omega
  | false =>
    refine ⟨wrapped (-z), rfl, ?_⟩
    unfold toSizeT wrapped
    omega

lemma neg_least : neg true (-2 ^ 63) = none := by decide

lemma ofPosition_seek {z : Int} {n : Nat} {fails : Prop} [Decidable fails]
    (htarget : p.target offset whence = some z) (hfails : fails ↔ z < 0 ∨ b.bytes.length < z)
    (hn : ¬ fails → (n : Int) = z) :
    (if fails then (-1, ofPosition p) else (0, { ofPosition p with offset := n })) =
      ((p.seek offset whence).1, ofPosition (p.seek offset whence).2) := by
  by_cases hz : 0 ≤ z ∧ z ≤ b.bytes.length
  · have hnot : ¬ fails := fun h => by
      have := hfails.mp h
      omega
    have hnat : z.toNat = n := by
      have := hn hnot
      omega
    rw [Position.seek_of_mem htarget hz, if_neg hnot]
    simp [ofPosition, hnat]
  · rw [Position.seek_of_not_mem htarget hz, if_pos (hfails.mpr (by omega))]

lemma seek_ofPosition (h : HarmlessInRust overflowChecks p (.seek offset whence)) :
    (ofPosition p).seek overflowChecks offset whence =
      some ((p.seek offset whence).1, ofPosition (p.seek offset whence).2) := by
  have hle := p.pos_le
  obtain ⟨hmin, hmax⟩ := fitsInt64_toInt offset
  have hbytes : (ofPosition p).bytes = b.bytes := rfl
  have hoffset : (ofPosition p).offset = p.pos := rfl
  unfold seek
  by_cases hset : whence = seekSet
  · subst hset
    have htarget : p.target offset seekSet = some offset.toInt := rfl
    rw [if_pos rfl]
    by_cases hneg : offset.toInt < 0
    · rw [if_pos hneg, Position.seek_of_not_mem htarget (by omega)]
    · have hsize := toSizeT_of_nonneg (not_lt.mp hneg) (by omega)
      rw [if_neg hneg]
      exact congrArg some (ofPosition_seek htarget (by rw [hbytes]; omega) fun _ => hsize)
  · rw [if_neg hset]
    by_cases hcur : whence = seekCur
    · subst hcur
      have htarget : p.target offset seekCur = some (p.pos + offset.toInt) := rfl
      rw [if_pos rfl]
      by_cases hneg : offset.toInt < 0
      · obtain ⟨negated, hnegated, hsize⟩ := exists_neg hneg.le hmin fun hchecks =>
          h hchecks (.inl rfl)
        rw [if_pos hneg, hnegated, map_some, hsize, hoffset]
        exact congrArg some (ofPosition_seek htarget (by omega) fun _ => by omega)
      · have hsize := toSizeT_of_nonneg (not_lt.mp hneg) (by omega)
        rw [if_neg hneg, hoffset, hbytes]
        exact congrArg some (ofPosition_seek htarget (by omega) fun _ => by omega)
    · rw [if_neg hcur]
      by_cases hend : whence = seekEnd
      · subst hend
        have htarget : p.target offset seekEnd = some (b.bytes.length + offset.toInt) := rfl
        rw [if_pos rfl]
        by_cases hpos : offset.toInt > 0
        · rw [if_pos hpos, Position.seek_of_not_mem htarget (by omega)]
        · obtain ⟨negated, hnegated, hsize⟩ := exists_neg (not_lt.mp hpos) hmin fun hchecks =>
            h hchecks (.inr rfl)
          rw [if_neg hpos, hnegated, map_some, hsize, hbytes]
          exact congrArg some (ofPosition_seek htarget (by omega) fun _ => by omega)
      · rw [if_neg hend, Position.seek_of_none]
        unfold Position.target
        rw [if_neg hset, if_neg hcur, if_neg hend]

lemma seek_ofPosition_eq_none (h : ¬ HarmlessInRust overflowChecks p (.seek offset whence)) :
    (ofPosition p).seek overflowChecks offset whence = none := by
  unfold HarmlessInRust at h
  push Not at h
  obtain ⟨rfl, hwhence, hleast⟩ := h
  unfold seek
  rw [hleast, neg_least]
  rcases hwhence with rfl | rfl
  · rfl
  · rfl

/-- **The handler in Rust** agrees with the positions on exactly the runs of harmless calls. -/
theorem agrees_iff (overflowChecks : Bool) (calls : List Call) (p : Position b) :
    Lockstep.Agrees Position.answer (step overflowChecks) (fun p s => s = ofPosition p) p
        (ofPosition p) calls ↔
      Transition.Along (Lockstep.next Position.answer) (HarmlessInRust overflowChecks) p calls := by
  refine Lockstep.agrees_iff ?_ ?_ calls p (ofPosition p) rfl
  · rintro p _ call rfl hcall
    cases call with
    | read size n =>
      refine ⟨_, ?_, rfl⟩
      simp only [step, read_ofPosition]
      rfl
    | seek offset whence =>
      refine ⟨_, ?_, rfl⟩
      rw [step, seek_ofPosition hcall]
      rfl
    | tell =>
      have hlt := b.length_lt
      have hle := p.pos_le
      have hfits : FitsInt64 p.pos := ⟨by omega, by omega⟩
      refine ⟨_, ?_, rfl⟩
      simp [step, tell, ofPosition, wrapped_eq_self hfits, Position.answer]
    | eof => exact ⟨_, rfl, rfl⟩
  · rintro p _ call rfl hcall h' hstep
    cases call with
    | seek offset whence =>
      rw [step, seek_ofPosition_eq_none hcall] at hstep
      cases hstep
    | read size n => exact hcall trivial
    | tell => exact hcall trivial
    | eof => exact hcall trivial

end ByteStream

/-- **When the handlers agree**: on exactly the runs whose calls are harmless for both. -/
theorem agree_iff (b : Buffer) (overflowChecks : Bool) (calls : List Call) :
    Agree b overflowChecks calls ↔
      Transition.Along (Lockstep.next Position.answer)
        (fun p c => HarmlessInCpp p c ∧ HarmlessInRust overflowChecks p c) (Position.start b)
        calls := by
  have hcpp (n : Nat) := CefByteReadHandler.agrees_iff (calls.take n) (Position.start b)
  have hrust (n : Nat) :=
    ByteStream.agrees_iff overflowChecks (calls.take n) (Position.start b)
  constructor
  · intro h
    obtain ⟨hcpp', hrust'⟩ := h calls.length
    have hall := ((hcpp calls.length).mp hcpp').and ((hrust calls.length).mp hrust')
    rwa [List.take_length] at hall
  · intro h n
    rw [← List.take_append_drop n calls] at h
    exact ⟨(hcpp n).mpr (h.left.imp fun _ _ => And.left),
      (hrust n).mpr (h.left.imp fun _ _ => And.right)⟩

def sampleBuffer : Buffer := ⟨[10, 20, 30], by decide⟩

/-- The handlers do not agree on seeking to a place behind the end. -/
theorem not_agree_behind_end : ¬ Agree sampleBuffer false [.seek 1 seekEnd] := by
  intro hagree
  obtain ⟨⟨h, hrun, _⟩, _⟩ := hagree 1
  have hanswers : (Lockstep.run CefByteReadHandler.step (CefByteReadHandler.create sampleBuffer)
      ([.seek 1 seekEnd].take 1)).map Prod.fst = some (Lockstep.answers Position.answer
        (Position.start sampleBuffer) ([.seek 1 seekEnd].take 1)).1 :=
    congrArg (Option.map Prod.fst) hrun
  exact absurd hanswers (by decide)

end CefCore.Wrapper.ReadHandler
