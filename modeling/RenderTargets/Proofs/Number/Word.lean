import Mathlib.Data.Nat.Digits.Defs
import RenderTargets.Number.Word
/-!
# Words that hold their results

A checked operation answers the exact integer if the word holds it. So where bounds on the operands
are known, the result exists and is known as an integer, and the word needs no look any more. A list
of results exists if each of them does.

A word and its four bytes are the same: the bytes are the digits of the word
(`Word.ofBytes_bytes`, `Word.bytes_ofBytes`).
-/

namespace RenderTargets.Word

variable {a b : UInt32}

/-! ### Unsigned words -/

theorem unsigned?_eq_some_iff {n : Nat} {w : UInt32} : unsigned? n = some w ↔ w.toNat = n := by
  rw [unsigned?]
  split
  · next hn =>
    rw [Option.some_inj, ← UInt32.toNat_inj, UInt32.toNat_ofNat_of_lt' hn]
    exact eq_comm
  · next hn => exact iff_of_false nofun fun hw ↦ hn (hw ▸ w.toNat_lt_size)

/-- A number below the size of the unsigned words is one of them. -/
theorem exists_unsigned? {n : Nat} (h : n < UInt32.size) :
    ∃ w, unsigned? n = some w ∧ w.toNat = n :=
  ⟨.ofNat n, unsigned?_eq_some_iff.2 (UInt32.toNat_ofNat_of_lt' h), UInt32.toNat_ofNat_of_lt' h⟩

theorem exists_add? (h : a.toNat + b.toNat < UInt32.size) :
    ∃ w, add? a b = some w ∧ w.toNat = a.toNat + b.toNat :=
  exists_unsigned? h

theorem exists_mul? (h : a.toNat * b.toNat < UInt32.size) :
    ∃ w, mul? a b = some w ∧ w.toNat = a.toNat * b.toNat :=
  exists_unsigned? h

theorem add?_eq_some_iff {w : UInt32} : add? a b = some w ↔ w.toNat = a.toNat + b.toNat :=
  unsigned?_eq_some_iff

theorem mul?_eq_some_iff {w : UInt32} : mul? a b = some w ↔ w.toNat = a.toNat * b.toNat :=
  unsigned?_eq_some_iff

theorem exists_sub? (h : b.toNat ≤ a.toNat) :
    ∃ w, sub? a b = some w ∧ w.toNat = a.toNat - b.toNat :=
  ⟨a - b, if_pos (UInt32.le_iff_toNat_le.2 h), UInt32.toNat_sub_of_le _ _
    (UInt32.le_iff_toNat_le.2 h)⟩

theorem toNat_monus : (monus a b).toNat = a.toNat - b.toNat := by
  rw [monus]
  split
  · next h => rw [UInt32.toNat_sub_of_le _ _ h]
  · next h =>
    rw [UInt32.le_iff_toNat_le] at h
    rw [UInt32.toNat_zero]
    omega

/-! ### Signed words -/

/-- An integer that a signed word holds is that word. -/
theorem exists_signed? {z : Int} (hmin : -0x80000000 ≤ z) (hmax : z < 0x80000000) :
    ∃ w, signed? z = some w ∧ w.toInt = z :=
  ⟨.ofInt z, if_pos ⟨hmin, hmax⟩, Int32.toInt_ofInt_of_le (by omega) (by omega)⟩

/-- An unsigned word below half its range is the same as a signed word. -/
theorem toInt_toInt32 {w : UInt32} (h : w.toNat < 0x80000000) : w.toInt32.toInt = w.toNat :=
  BitVec.toInt_eq_toNat_of_lt (x := w.toBitVec) (by
    have hw : w.toBitVec.toNat = w.toNat := rfl
    omega)

/-- As a signed word an unsigned one is never more than it is. -/
theorem toInt_toInt32_le (w : UInt32) : w.toInt32.toInt ≤ w.toNat := by
  have h : w.toInt32.toInt = (w.toNat : Int).bmod (2 ^ 32) := BitVec.toInt_eq_toNat_bmod w.toBitVec
  rw [h, Int.bmod_def]
  omega

theorem toInt_max {a b : Int32} : (max a b).toInt = max a.toInt b.toInt := by
  show (if a ≤ b then b else a).toInt = _
  split <;> simp_all only [Int32.le_iff_toInt_le] <;> omega

theorem toInt_min {a b : Int32} : (min a b).toInt = min a.toInt b.toInt := by
  show (if a ≤ b then a else b).toInt = _
  split <;> simp_all only [Int32.le_iff_toInt_le] <;> omega

/-- The length between two positions, of which the first is not negative. -/
theorem toNat_toUInt32_sub {a b : Int32} (ha : 0 ≤ a.toInt) (hab : a.toInt ≤ b.toInt) :
    ((b - a).toUInt32.toNat : Int) = b.toInt - a.toInt := by
  have hsub : (b - a).toInt = b.toInt - a.toInt :=
    Int32.toInt_sub_of_le b a (Int32.le_iff_toInt_le.2 ha) (Int32.le_iff_toInt_le.2 hab)
  have hpos : 0 ≤ b - a := Int32.le_iff_toInt_le.2 (by rw [hsub]; exact Int.sub_nonneg_of_le hab)
  rw [Int32.toNat_toUInt32_of_le hpos, ← hsub]
  exact Int.toNat_of_nonneg (Int32.le_iff_toInt_le.1 hpos)

/-! ### Bytes -/

/-- Four bytes, read as digits, are the word. -/
theorem ofDigits_bytes (w : UInt32) :
    Nat.ofDigits 256 ((bytes w).map (·.toNat)) = w.toNat := by
  have hw := w.toNat_lt
  simp only [bytes, List.map_cons, List.map_nil, Nat.ofDigits_cons, Nat.ofDigits_nil,
    UInt32.toNat_toUInt8, UInt32.toNat_shiftRight, Nat.shiftRight_eq_div_pow,
    UInt32.reduceToNat, Nat.reduceMod, Nat.reducePow]
  omega

/-- Bits above all bits of a number are added to it. -/
theorem or_shiftLeft {i x y : Nat} (h : x < 2 ^ i) : x ||| y <<< i = x + 2 ^ i * y := by
  rw [Nat.or_comm, ← Nat.shiftLeft_add_eq_or_of_lt h, Nat.shiftLeft_eq, Nat.mul_comm, Nat.add_comm]

/-- The word of four bytes is what they are as digits. -/
theorem toNat_ofBytes (a b c d : UInt8) :
    (ofBytes a b c d).toNat = Nat.ofDigits 256 ([a, b, c, d].map (·.toNat)) := by
  have ha := a.toNat_lt
  have hb := b.toNat_lt
  have hc := c.toNat_lt
  -- No byte is moved beyond the word.
  have hshift {y : UInt8} {i : Nat} (hi : i ≤ 24) : y.toNat <<< i % 2 ^ 32 = y.toNat <<< i := by
    rw [Nat.shiftLeft_eq]
    refine Nat.mod_eq_of_lt ?_
    calc y.toNat * 2 ^ i < 2 ^ 8 * 2 ^ i :=
          Nat.mul_lt_mul_of_pos_right y.toNat_lt (Nat.two_pow_pos i)
      _ = 2 ^ (8 + i) := (Nat.pow_add ..).symm
      _ ≤ 2 ^ 32 := Nat.pow_le_pow_right (by omega) (by omega)
  simp only [ofBytes, UInt32.toNat_or, UInt32.toNat_shiftLeft, UInt8.toNat_toUInt32,
    UInt32.reduceToNat, Nat.reduceMod]
  rw [hshift (by omega), hshift (by omega), hshift (by omega),
    or_shiftLeft (x := a.toNat) (by omega), or_shiftLeft (x := a.toNat + _) (by omega),
    or_shiftLeft (by omega)]
  simp only [List.map_cons, List.map_nil, Nat.ofDigits_cons, Nat.ofDigits_nil]
  omega

theorem ofBytes_bytes (w : UInt32) :
    ofBytes w.toUInt8 (w >>> 8).toUInt8 (w >>> 16).toUInt8 (w >>> 24).toUInt8 = w :=
  UInt32.toNat_inj.1 ((toNat_ofBytes ..).trans (ofDigits_bytes w))

theorem bytes_ofBytes (a b c d : UInt8) : bytes (ofBytes a b c d) = [a, b, c, d] := by
  have hlt (l : List UInt8) : ∀ x ∈ l.map (·.toNat), x < 256 :=
    List.forall_mem_map.2 fun y _ ↦ y.toNat_lt
  exact (List.map_inj_right fun _ _ ↦ UInt8.toNat_inj.1).1
    (Nat.ofDigits_inj_of_len_eq (by omega) rfl (hlt _) (hlt _)
      ((ofDigits_bytes _).trans (toNat_ofBytes a b c d)))

/-! ### Lists of results -/

theorem isSome_mapM {α β : Type} {f : α → Option β} {l : List α} (h : ∀ a ∈ l, (f a).isSome) :
    (l.mapM f).isSome := by
  induction l with
  | nil => rfl
  | cons a rest ih =>
    obtain ⟨b, hb⟩ := Option.isSome_iff_exists.1 (h a List.mem_cons_self)
    obtain ⟨bs, hbs⟩ :=
      Option.isSome_iff_exists.1 (ih fun c hc ↦ h c (List.mem_cons_of_mem a hc))
    simp [hb, hbs]

end RenderTargets.Word
