/-
  File:      Rk3588Chassis/Library/Bytes.lean
  Subject:   Big-endian words: joining bytes and taking them apart again.

  The shifts and masks are written as a C program writes them, over machine words; each has its
  reading as a number (`joinU32_toNat`, `highU16_toNat`, ..), and all laws of words are
  arithmetic on these.

  * `joinU16_bytes`, `highU16_join`, `lowU16_join`, `joinU32_bytes`, `readU32_inj` -- split and
    join are inverse to each other, in both directions;
  * `Buffer` -- byte memory, read and written at an offset;
  * `AgreeBelow` -- two memories with the same first bytes. A packet is written from front to
    back: later writes keep what stands before them, and writing back what was read extends the
    agreement (`AgreeBelow.copyU16`, `AgreeBelow.copyU32`).
-/
import Mathlib.Data.List.GetD
import Mathlib.Tactic.Positivity

namespace Bytes

/-! ## 1. Words -/

/-- `(high << 8) | low`. -/
def joinU16 (high low : UInt8) : UInt16 := high.toUInt16 <<< 8 ||| low.toUInt16

/-- `value >> 8`, as a byte. -/
def highU16 (value : UInt16) : UInt8 := (value >>> 8).toUInt8

/-- `value & 0xFF`, as a byte. -/
def lowU16 (value : UInt16) : UInt8 := (value &&& 0xFF).toUInt8

/-- `(b3 << 24) | (b2 << 16) | (b1 << 8) | b0`. -/
def joinU32 (b3 b2 b1 b0 : UInt8) : UInt32 :=
  b3.toUInt32 <<< 24 ||| b2.toUInt32 <<< 16 ||| b1.toUInt32 <<< 8 ||| b0.toUInt32

/-- A join as a number. -/
theorem joinU16_toNat (h l : UInt8) : (joinU16 h l).toNat = 256 * h.toNat + l.toNat := by
  have hh := h.toNat_lt
  have hl := l.toNat_lt
  have hshift : h.toNat <<< 8 % 2 ^ 16 = h.toNat <<< 8 := by
    rw [Nat.shiftLeft_eq]
    omega
  simp only [joinU16, UInt16.toNat_or, UInt16.toNat_shiftLeft, UInt8.toNat_toUInt16]
  rw [show (8 : UInt16).toNat % 16 = 8 from rfl, hshift, ← Nat.shiftLeft_add_eq_or_of_lt hl,
    Nat.shiftLeft_eq]
  omega

theorem highU16_toNat (v : UInt16) : (highU16 v).toNat = v.toNat / 256 % 256 := by
  have h8 : (8 : UInt16).toNat % 16 = 8 := rfl
  rw [highU16, UInt16.toNat_toUInt8, UInt16.toNat_shiftRight, h8, Nat.shiftRight_eq_div_pow]

theorem lowU16_toNat (v : UInt16) : (lowU16 v).toNat = v.toNat % 256 := by
  have hmask : (0xFF : UInt16).toNat = 2 ^ 8 - 1 := rfl
  rw [lowU16, UInt16.toNat_toUInt8, UInt16.toNat_and, hmask, Nat.and_two_pow_sub_one_eq_mod]
  omega

/-- **A word is the join of its two bytes.** -/
theorem joinU16_bytes (v : UInt16) : joinU16 (highU16 v) (lowU16 v) = v := by
  have hv := v.toNat_lt
  apply UInt16.toNat_inj.mp
  rw [joinU16_toNat, highU16_toNat, lowU16_toNat]
  omega

/-- **The high byte of a join is the byte that was put there.** -/
theorem highU16_join (h l : UInt8) : highU16 (joinU16 h l) = h := by
  have hh := h.toNat_lt
  have hl := l.toNat_lt
  apply UInt8.toNat_inj.mp
  rw [highU16_toNat, joinU16_toNat]
  omega

/-- **So is the low byte.** -/
theorem lowU16_join (h l : UInt8) : lowU16 (joinU16 h l) = l := by
  have hl := l.toNat_lt
  apply UInt8.toNat_inj.mp
  rw [lowU16_toNat, joinU16_toNat]
  omega

/-- A byte shifted by at most three places fits a word. -/
theorem byte_shiftLeft_fits (b : UInt8) {k : Nat} (hk : k ≤ 24) :
    b.toNat <<< k % 2 ^ 32 = b.toNat <<< k := by
  apply Nat.mod_eq_of_lt
  rw [Nat.shiftLeft_eq]
  calc b.toNat * 2 ^ k < 2 ^ 8 * 2 ^ k := Nat.mul_lt_mul_of_pos_right b.toNat_lt (by positivity)
    _ ≤ 2 ^ 8 * 2 ^ 24 := Nat.mul_le_mul_left _ (Nat.pow_le_pow_right (by decide) hk)
    _ = 2 ^ 32 := rfl

theorem joinU32_toNat (b3 b2 b1 b0 : UInt8) : (joinU32 b3 b2 b1 b0).toNat =
    2 ^ 24 * b3.toNat + 2 ^ 16 * b2.toNat + 2 ^ 8 * b1.toNat + b0.toNat := by
  have h2 := b2.toNat_lt
  have h1 := b1.toNat_lt
  have h0 := b0.toNat_lt
  simp only [joinU32, UInt32.toNat_or, UInt32.toNat_shiftLeft, UInt8.toNat_toUInt32]
  rw [show (8 : UInt32).toNat % 32 = 8 from rfl, show (16 : UInt32).toNat % 32 = 16 from rfl,
    show (24 : UInt32).toNat % 32 = 24 from rfl, byte_shiftLeft_fits b3 (by decide),
    byte_shiftLeft_fits b2 (by decide), byte_shiftLeft_fits b1 (by decide)]
  -- from the low end: every byte lies below the shift of the next one
  rw [Nat.or_assoc, Nat.or_assoc, ← Nat.shiftLeft_add_eq_or_of_lt h0,
    ← Nat.shiftLeft_add_eq_or_of_lt (a := b2.toNat) (i := 16), ← Nat.shiftLeft_add_eq_or_of_lt]
  all_goals simp only [Nat.shiftLeft_eq]
  all_goals omega

/-- The first byte of a word, as `write_u32` takes it. -/
theorem topU32_toNat (v : UInt32) : (v >>> 24).toUInt8.toNat = v.toNat / 2 ^ 24 % 256 := by
  have h24 : (24 : UInt32).toNat % 32 = 24 := rfl
  rw [UInt32.toNat_toUInt8, UInt32.toNat_shiftRight, h24, Nat.shiftRight_eq_div_pow]

/-- A masked byte. -/
theorem maskU32_toNat (v : UInt32) : (v &&& 0xFF).toUInt8.toNat = v.toNat % 256 := by
  have hmask : (0xFF : UInt32).toNat = 2 ^ 8 - 1 := rfl
  rw [UInt32.toNat_toUInt8, UInt32.toNat_and, hmask, Nat.and_two_pow_sub_one_eq_mod]
  omega

/-- The two bytes in the middle. -/
theorem middleU32_toNat (v : UInt32) :
    ((v >>> 16) &&& 0xFF).toUInt8.toNat = v.toNat / 2 ^ 16 % 256 ∧
      ((v >>> 8) &&& 0xFF).toUInt8.toNat = v.toNat / 2 ^ 8 % 256 := by
  have h16 : (16 : UInt32).toNat % 32 = 16 := rfl
  have h8 : (8 : UInt32).toNat % 32 = 8 := rfl
  rw [maskU32_toNat, maskU32_toNat, UInt32.toNat_shiftRight, UInt32.toNat_shiftRight, h16, h8,
    Nat.shiftRight_eq_div_pow, Nat.shiftRight_eq_div_pow]
  exact ⟨rfl, rfl⟩

/-- **A word is the join of its four bytes.** -/
theorem joinU32_bytes (v : UInt32) : joinU32 (v >>> 24).toUInt8 ((v >>> 16) &&& 0xFF).toUInt8
    ((v >>> 8) &&& 0xFF).toUInt8 (v &&& 0xFF).toUInt8 = v := by
  have hv := v.toNat_lt
  apply UInt32.toNat_inj.mp
  rw [joinU32_toNat, topU32_toNat, (middleU32_toNat v).1, (middleU32_toNat v).2, maskU32_toNat]
  omega

/-- **The bytes of a join are the bytes that were put there.** -/
theorem bytes_joinU32 (b3 b2 b1 b0 : UInt8) :
    (joinU32 b3 b2 b1 b0 >>> 24).toUInt8 = b3 ∧
      ((joinU32 b3 b2 b1 b0 >>> 16) &&& 0xFF).toUInt8 = b2 ∧
      ((joinU32 b3 b2 b1 b0 >>> 8) &&& 0xFF).toUInt8 = b1 ∧
      (joinU32 b3 b2 b1 b0 &&& 0xFF).toUInt8 = b0 := by
  have h3 := b3.toNat_lt
  have h2 := b2.toNat_lt
  have h1 := b1.toNat_lt
  have h0 := b0.toNat_lt
  refine ⟨?_, ?_, ?_, ?_⟩ <;> apply UInt8.toNat_inj.mp
  · rw [topU32_toNat, joinU32_toNat]
    omega
  · rw [(middleU32_toNat _).1, joinU32_toNat]
    omega
  · rw [(middleU32_toNat _).2, joinU32_toNat]
    omega
  · rw [maskU32_toNat, joinU32_toNat]
    omega

theorem and_or_distrib (x y z : UInt32) : x &&& (y ||| z) = x &&& y ||| x &&& z := by
  apply UInt32.eq_of_toBitVec_eq
  simp only [UInt32.toBitVec_and, UInt32.toBitVec_or, BitVec.and_or_distrib_left]

/-! ## 2. Buffers -/

/-- Byte memory from some address on; only the offsets that were filled are ever read. -/
abbrev Buffer := Nat → UInt8

/-- The memory a list of bytes is copied into. -/
def Buffer.ofList (bytes : List UInt8) : Buffer := fun i => bytes.getD i 0

/-- `(uint16_t)((buffer[offset] << 8) | buffer[offset + 1])`. -/
def readU16 (buffer : Buffer) (offset : Nat) : UInt16 :=
  joinU16 (buffer offset) (buffer (offset + 1))

/-- The four-byte read. -/
def readU32 (buffer : Buffer) (offset : Nat) : UInt32 :=
  joinU32 (buffer offset) (buffer (offset + 1)) (buffer (offset + 2)) (buffer (offset + 3))

/-- `(int16_t)read_u16(buffer, offset)`. -/
def readI16 (buffer : Buffer) (offset : Nat) : Int16 := (readU16 buffer offset).toInt16

/-- `write_u16`. -/
def writeU16 (buffer : Buffer) (offset : Nat) (value : UInt16) : Buffer := fun i =>
  if i = offset then highU16 value else if i = offset + 1 then lowU16 value else buffer i

/-- `write_i16`. -/
def writeI16 (buffer : Buffer) (offset : Nat) (value : Int16) : Buffer :=
  writeU16 buffer offset value.toUInt16

/-- `write_u32`. -/
def writeU32 (buffer : Buffer) (offset : Nat) (value : UInt32) : Buffer := fun i =>
  if i = offset then (value >>> 24).toUInt8
  else if i = offset + 1 then ((value >>> 16) &&& 0xFF).toUInt8
  else if i = offset + 2 then ((value >>> 8) &&& 0xFF).toUInt8
  else if i = offset + 3 then (value &&& 0xFF).toUInt8
  else buffer i

/-- **What was written is read.** -/
@[simp] theorem readU16_writeU16 (buffer : Buffer) (o : Nat) (v : UInt16) :
    readU16 (writeU16 buffer o v) o = v := by
  have hnext : o + 1 ≠ o := by omega
  simp only [readU16, writeU16, if_pos, if_neg hnext]
  exact joinU16_bytes v

@[simp] theorem readU32_writeU32 (buffer : Buffer) (o : Nat) (v : UInt32) :
    readU32 (writeU32 buffer o v) o = v := by
  have h1 : o + 1 ≠ o := by omega
  have h2 : o + 2 ≠ o ∧ o + 2 ≠ o + 1 := by omega
  have h3 : o + 3 ≠ o ∧ o + 3 ≠ o + 1 ∧ o + 3 ≠ o + 2 := by omega
  simp only [readU32, writeU32, if_pos, if_neg h1, if_neg h2.1, if_neg h2.2, if_neg h3.1,
    if_neg h3.2.1, if_neg h3.2.2]
  exact joinU32_bytes v

@[simp] theorem readI16_writeI16 (buffer : Buffer) (o : Nat) (v : Int16) :
    readI16 (writeI16 buffer o v) o = v := by
  rw [readI16, writeI16, readU16_writeU16]
  rfl

/-- **A word read tells its bytes.** -/
theorem readU16_inj {b b' : Buffer} {o : Nat} (h : readU16 b o = readU16 b' o) :
    b o = b' o ∧ b (o + 1) = b' (o + 1) := by
  constructor
  · rw [← highU16_join (b o) (b (o + 1)), ← highU16_join (b' o) (b' (o + 1))]
    exact congrArg highU16 h
  · rw [← lowU16_join (b o) (b (o + 1)), ← lowU16_join (b' o) (b' (o + 1))]
    exact congrArg lowU16 h

theorem readU32_inj {b b' : Buffer} {o : Nat} (h : readU32 b o = readU32 b' o) :
    b o = b' o ∧ b (o + 1) = b' (o + 1) ∧ b (o + 2) = b' (o + 2) ∧ b (o + 3) = b' (o + 3) := by
  obtain ⟨h3, h2, h1, h0⟩ := bytes_joinU32 (b o) (b (o + 1)) (b (o + 2)) (b (o + 3))
  obtain ⟨h3', h2', h1', h0'⟩ := bytes_joinU32 (b' o) (b' (o + 1)) (b' (o + 2)) (b' (o + 3))
  have hword : joinU32 (b o) (b (o + 1)) (b (o + 2)) (b (o + 3)) =
      joinU32 (b' o) (b' (o + 1)) (b' (o + 2)) (b' (o + 3)) := h
  rw [hword] at h3 h2 h1 h0
  exact ⟨h3.symm.trans h3', h2.symm.trans h2', h1.symm.trans h1', h0.symm.trans h0'⟩

/-! ## 3. Agreement -/

/-- The first `n` bytes are the same. -/
def AgreeBelow (n : Nat) (b b' : Buffer) : Prop := ∀ i, i < n → b' i = b i

theorem AgreeBelow.refl (n : Nat) (b : Buffer) : AgreeBelow n b b := fun _ _ => rfl

theorem AgreeBelow.trans {n m : Nat} {b b' b'' : Buffer} (h : AgreeBelow n b b')
    (h' : AgreeBelow m b' b'') (hnm : n ≤ m) : AgreeBelow n b b'' := fun i hi =>
  (h' i (Nat.lt_of_lt_of_le hi hnm)).trans (h i hi)

/-- A later write keeps what stands before it. -/
theorem AgreeBelow.writeU16 {n o : Nat} {b b' : Buffer} (h : AgreeBelow n b b') (ho : n ≤ o)
    (v : UInt16) : AgreeBelow n b (writeU16 b' o v) := by
  intro i hi
  have h0 : i ≠ o := by omega
  have h1 : i ≠ o + 1 := by omega
  rw [Bytes.writeU16, if_neg h0, if_neg h1]
  exact h i hi

theorem AgreeBelow.writeU32 {n o : Nat} {b b' : Buffer} (h : AgreeBelow n b b') (ho : n ≤ o)
    (v : UInt32) : AgreeBelow n b (writeU32 b' o v) := by
  intro i hi
  have h0 : i ≠ o := by omega
  have h1 : i ≠ o + 1 := by omega
  have h2 : i ≠ o + 2 := by omega
  have h3 : i ≠ o + 3 := by omega
  rw [Bytes.writeU32, if_neg h0, if_neg h1, if_neg h2, if_neg h3]
  exact h i hi

theorem AgreeBelow.readU16 {n o : Nat} {b b' : Buffer} (h : AgreeBelow n b b') (ho : o + 2 ≤ n) :
    readU16 b' o = readU16 b o := by
  rw [Bytes.readU16, Bytes.readU16, h o (by omega), h (o + 1) (by omega)]

theorem AgreeBelow.readU32 {n o : Nat} {b b' : Buffer} (h : AgreeBelow n b b') (ho : o + 4 ≤ n) :
    readU32 b' o = readU32 b o := by
  rw [Bytes.readU32, Bytes.readU32, h o (by omega), h (o + 1) (by omega), h (o + 2) (by omega),
    h (o + 3) (by omega)]

/-- Writing the word that stands at the end of the agreement extends it. -/
theorem AgreeBelow.copyU16 {o : Nat} {b b' : Buffer} (h : AgreeBelow o b b') :
    AgreeBelow (o + 2) b (Bytes.writeU16 b' o (Bytes.readU16 b o)) := by
  intro i hi
  unfold Bytes.writeU16 Bytes.readU16
  split_ifs with h0 h1
  · rw [h0, highU16_join]
  · rw [h1, lowU16_join]
  · exact h i (by omega)

theorem AgreeBelow.copyU32 {o : Nat} {b b' : Buffer} (h : AgreeBelow o b b') :
    AgreeBelow (o + 4) b (Bytes.writeU32 b' o (Bytes.readU32 b o)) := by
  intro i hi
  obtain ⟨hb3, hb2, hb1, hb0⟩ := bytes_joinU32 (b o) (b (o + 1)) (b (o + 2)) (b (o + 3))
  unfold Bytes.writeU32 Bytes.readU32
  split_ifs with h0 h1 h2 h3
  · rw [h0, hb3]
  · rw [h1, hb2]
  · rw [h2, hb1]
  · rw [h3, hb0]
  · exact h i (by omega)

/-- A list that starts with the first `n` bytes of a memory agrees with it there. -/
theorem agreeBelow_ofList (n : Nat) (b : Buffer) (rest : List UInt8) :
    AgreeBelow n b (Buffer.ofList ((List.range n).map b ++ rest)) := by
  intro i hi
  have hlen : i < ((List.range n).map b).length := by simpa using hi
  rw [Buffer.ofList, List.getD_append _ _ _ _ hlen, List.getD_eq_getElem _ _ hlen,
    List.getElem_map, List.getElem_range]

/-- What agrees with a list holds its first bytes. -/
theorem AgreeBelow.take {n : Nat} {bytes : List UInt8} {b : Buffer}
    (h : AgreeBelow n (Buffer.ofList bytes) b) (hn : n ≤ bytes.length) :
    (List.range n).map b = bytes.take n := by
  apply List.ext_getElem
  · simpa using hn
  · intro i hi _
    have hin : i < n := by simpa using hi
    have hib : i < bytes.length := by omega
    rw [List.getElem_map, List.getElem_range, List.getElem_take, h i hin]
    exact List.getD_eq_getElem _ _ hib

/-- The bytes from `lo` to `hi` are the same. -/
def AgreeOn (lo hi : Nat) (b b' : Buffer) : Prop := ∀ i, lo ≤ i → i < hi → b i = b' i

/-- A word read pins its two bytes down. -/
theorem agreeOn_of_readU16 {b b' : Buffer} {o : Nat} (h : readU16 b o = readU16 b' o) :
    AgreeOn o (o + 2) b b' := by
  intro i hlo hhi
  obtain ⟨h0, h1⟩ := readU16_inj h
  obtain rfl | rfl : i = o ∨ i = o + 1 := by omega
  · exact h0
  · exact h1

theorem agreeOn_of_readU32 {b b' : Buffer} {o : Nat} (h : readU32 b o = readU32 b' o) :
    AgreeOn o (o + 4) b b' := by
  intro i hlo hhi
  obtain ⟨h0, h1, h2, h3⟩ := readU32_inj h
  obtain rfl | rfl | rfl | rfl : i = o ∨ i = o + 1 ∨ i = o + 2 ∨ i = o + 3 := by omega
  · exact h0
  · exact h1
  · exact h2
  · exact h3

/-- A row of words pins all its bytes down. -/
theorem agreeOn_of_row {b b' : Buffer} {o n : Nat}
    (h : ∀ k : Fin n, readI16 b (o + 2 * k) = readI16 b' (o + 2 * k)) :
    AgreeOn o (o + 2 * n) b b' := by
  intro i hlo hhi
  have hk : (i - o) / 2 < n := by omega
  have hword : AgreeOn (o + 2 * ((i - o) / 2)) (o + 2 * ((i - o) / 2) + 2) b b' :=
    agreeOn_of_readU16 (congrArg Int16.toUInt16 (h ⟨(i - o) / 2, hk⟩))
  exact hword i (by omega) (by omega)

/-! The four cases of a read before a write. -/

@[simp] theorem readU16_writeU16_later {o p : Nat} (buffer : Buffer) (v : UInt16)
    (h : o + 2 ≤ p) : readU16 (writeU16 buffer p v) o = readU16 buffer o :=
  ((AgreeBelow.refl (o + 2) buffer).writeU16 h v).readU16 (Nat.le_refl _)

@[simp] theorem readU16_writeU32_later {o p : Nat} (buffer : Buffer) (v : UInt32)
    (h : o + 2 ≤ p) : readU16 (writeU32 buffer p v) o = readU16 buffer o :=
  ((AgreeBelow.refl (o + 2) buffer).writeU32 h v).readU16 (Nat.le_refl _)

@[simp] theorem readU32_writeU16_later {o p : Nat} (buffer : Buffer) (v : UInt16)
    (h : o + 4 ≤ p) : readU32 (writeU16 buffer p v) o = readU32 buffer o :=
  ((AgreeBelow.refl (o + 4) buffer).writeU16 h v).readU32 (Nat.le_refl _)

@[simp] theorem readU32_writeU32_later {o p : Nat} (buffer : Buffer) (v : UInt32)
    (h : o + 4 ≤ p) : readU32 (writeU32 buffer p v) o = readU32 buffer o :=
  ((AgreeBelow.refl (o + 4) buffer).writeU32 h v).readU32 (Nat.le_refl _)

/-! ## 4. Rows of words -/

/-- Signed words one behind the other, as a loop with a running offset writes them. -/
def writeWords : Buffer → Nat → List Int16 → Buffer
  | buffer, _, [] => buffer
  | buffer, offset, word :: words => writeWords (writeI16 buffer offset word) (offset + 2) words

theorem AgreeBelow.writeWords {n : Nat} : ∀ {o : Nat} {b b' : Buffer} (_ : AgreeBelow n b b')
    (_ : n ≤ o) (words : List Int16), AgreeBelow n b (Bytes.writeWords b' o words)
  | _, _, _, h, _, [] => h
  | _, _, _, h, ho, w :: ws => (h.writeU16 ho w.toUInt16).writeWords (Nat.le_add_right_of_le ho) ws

/-- **Each word of a row is read at its place.** -/
theorem readI16_writeWords : ∀ (words : List Int16) (b : Buffer) (o k : Nat)
    (hk : k < words.length), readI16 (writeWords b o words) (o + 2 * k) = words[k]
  | w :: ws, b, o, 0, _ => by
    have hkeep : AgreeBelow (o + 2) (writeI16 b o w) (writeWords (writeI16 b o w) (o + 2) ws) :=
      (AgreeBelow.refl _ _).writeWords (Nat.le_refl _) ws
    exact (congrArg UInt16.toInt16 (hkeep.readU16 (Nat.le_refl _))).trans (readI16_writeI16 b o w)
  | w :: ws, b, o, k + 1, hk => by
    have ih := readI16_writeWords ws (writeI16 b o w) (o + 2) k (Nat.lt_of_succ_lt_succ hk)
    have hplace : o + 2 * (k + 1) = o + 2 + 2 * k := by omega
    rw [hplace]
    exact ih

theorem readI16_ofFn {n : Nat} (row : Fin n → Int16) (b : Buffer) (o : Nat) (k : Fin n) :
    readI16 (writeWords b o (List.ofFn row)) (o + 2 * k) = row k := by
  have hk : k.val < (List.ofFn row).length := by
    rw [List.length_ofFn]
    exact k.isLt
  rw [readI16_writeWords _ b o k.val hk, List.getElem_ofFn]

theorem AgreeBelow.readI16 {n o : Nat} {b b' : Buffer} (h : AgreeBelow n b b') (ho : o + 2 ≤ n) :
    readI16 b' o = readI16 b o :=
  congrArg UInt16.toInt16 (h.readU16 ho)

end Bytes
