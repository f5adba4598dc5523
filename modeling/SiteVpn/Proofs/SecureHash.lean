import Mathlib.Algebra.Group.Pi.Basic
import Mathlib.Analysis.SpecialFunctions.Pow.NthRootLemmas
import Mathlib.Data.Fin.VecNotation
import Mathlib.Data.Nat.Find
import Mathlib.Data.Nat.Prime.Basic
import Mathlib.Data.Fintype.Basic
import Mathlib.Tactic.FinCases
import Mathlib.Tactic.Ring
import SiteVpn.Digest.Salt

/-!
# The digest is the standard hash

The standard describes its hash by the bits of a message. They are padded to blocks of 512,
the sixteen words of a block are expanded by a recurrence on their index, and 64 rounds make
of the chaining value what is added to it. The constants are the leading bits of the
fractional parts of roots of the first primes.

## Implementation notes

A digest is computed over bytes, on a window that slides along the schedule, and with its
constants in tables. Both go by blocks, and the chaining values agree after every one.
-/

namespace SiteVpn

namespace SecureHash

abbrev Word := BitVec 32

/-- The working variables, from the first to the eighth. -/
abbrev Registers := Fin 8 → Word

def bigSigma0 (x : Word) : Word := x.rotateRight 2 ^^^ x.rotateRight 13 ^^^ x.rotateRight 22

def bigSigma1 (x : Word) : Word := x.rotateRight 6 ^^^ x.rotateRight 11 ^^^ x.rotateRight 25

def smallSigma0 (x : Word) : Word := x.rotateRight 7 ^^^ x.rotateRight 18 ^^^ x >>> 3

def smallSigma1 (x : Word) : Word := x.rotateRight 17 ^^^ x.rotateRight 19 ^^^ x >>> 10

def choose (x y z : Word) : Word := (x &&& y) ^^^ (~~~x &&& z)

def majority (x y z : Word) : Word := (x &&& y) ^^^ (x &&& z) ^^^ (y &&& z)

/-- The first 64 primes. -/
def primes : List Nat := (List.range 312).filter Nat.Prime

/-- The first 32 bits of the fractional part of a root of a prime, given by its place. -/
def rootBits (degree i : Nat) : Word :=
  BitVec.ofNat 32 (Nat.nthRoot degree (primes.getD i 0 * 2 ^ (32 * degree)))

/-- The last bits of a number, the most significant first. -/
def bits : Nat → Nat → List Bool
  | 0, _ => []
  | n + 1, x => bits n (x / 2) ++ [x % 2 == 1]

/-- The number that some bits write. -/
def ofBits (bs : List Bool) : Nat := bs.foldl (fun x b => 2 * x + b.toNat) 0

theorem exists_zeros (length : Nat) : ∃ k, (length + 1 + k) % 512 = 448 :=
  ⟨959 - (length + 1) % 512 + 1, by omega⟩

/-- How many zeros stand between the one that ends a message and its length. -/
def zeros (length : Nat) : Nat := Nat.find (exists_zeros length)

/-- A message that is filled up to blocks. -/
def padded (message : List Bool) : List Bool :=
  message ++ true :: List.replicate (zeros message.length) false ++ bits 64 message.length

/-- A word of a message, by its place. -/
def wordAt (message : List Bool) (j : Nat) : Word :=
  BitVec.ofNat 32 (ofBits ((message.drop (32 * j)).take 32))

/-- The schedule of a block of words. -/
def schedule (block : Nat → Word) (t : Nat) : Word :=
  if t < 16 then block t
  else
    smallSigma1 (schedule block (t - 2)) + schedule block (t - 7) +
      smallSigma0 (schedule block (t - 15)) + schedule block (t - 16)
termination_by t
decreasing_by all_goals omega

/-- One round, for a round constant and a word of the schedule. -/
def round (r : Registers) (k w : Word) : Registers :=
  let t₁ := r 7 + bigSigma1 (r 4) + choose (r 4) (r 5) (r 6) + k + w
  let t₂ := bigSigma0 (r 0) + majority (r 0) (r 1) (r 2)
  ![t₁ + t₂, r 0, r 1, r 2, r 3 + t₁, r 4, r 5, r 6]

/-- So many rounds on a schedule. -/
def rounds (w : Nat → Word) (r : Registers) : Nat → Registers
  | 0 => r
  | t + 1 => round (rounds w r t) (rootBits 3 t) (w t)

/-- The chaining value after so many blocks of a message. -/
def chained (message : List Bool) : Nat → Registers
  | 0 => fun j => rootBits 2 j
  | i + 1 =>
    chained message i +
      rounds (schedule fun t => wordAt message (16 * i + t)) (chained message i) 64

/-- The bits of some bytes. -/
def messageBits (bytes : List UInt8) : List Bool := bytes.flatMap fun b => bits 8 b.toNat

/-- The hash of some bytes. -/
def hash (bytes : List UInt8) : Registers :=
  chained (padded (messageBits bytes)) ((padded (messageBits bytes)).length / 512)

/-- The hexadecimal digits of a word, in lower case. -/
def hexWord (w : Word) : List Char :=
  (List.range 8).map fun i => Nat.digitChar (w.toNat / 16 ^ (7 - i) % 16)

/-- The hash of some bytes in hexadecimal digits. -/
def hexHash (bytes : List UInt8) : String :=
  String.ofList ((List.ofFn (hash bytes)).flatMap hexWord)

/-! ## Bits and bytes -/

theorem length_bits (n x : Nat) : (bits n x).length = n := by
  induction n generalizing x with
  | zero => rfl
  | succ n ih => simp [bits, ih]

theorem bits_append (m n x : Nat) : bits (m + n) x = bits m (x / 2 ^ n) ++ bits n x := by
  induction n generalizing x with
  | zero => simp [bits]
  | succ n ih =>
      have hdiv : x / 2 / 2 ^ n = x / 2 ^ (n + 1) := by
        rw [Nat.div_div_eq_div_mul, Nat.pow_succ, Nat.mul_comm]
      rw [← Nat.add_assoc, bits, bits, ih, hdiv, List.append_assoc]

theorem bits_mod (n x : Nat) : bits n (x % 2 ^ n) = bits n x := by
  induction n generalizing x with
  | zero => rfl
  | succ n ih =>
      have hdiv : x % 2 ^ (n + 1) / 2 = x / 2 % 2 ^ n := by
        rw [Nat.pow_succ, Nat.mul_comm, Nat.mod_mul_right_div_self]
      have hmod : x % 2 ^ (n + 1) % 2 = x % 2 :=
        Nat.mod_mod_of_dvd x ⟨2 ^ n, by rw [Nat.pow_succ, Nat.mul_comm]⟩
      rw [bits, bits, hdiv, hmod, ih]

theorem ofBits_append (bs : List Bool) (n x : Nat) :
    ofBits (bs ++ bits n x) = ofBits bs * 2 ^ n + x % 2 ^ n := by
  induction n generalizing x with
  | zero => simp [bits, Nat.mod_one]
  | succ n ih =>
      have hlast : ofBits (bs ++ bits n (x / 2) ++ [x % 2 == 1]) =
          2 * ofBits (bs ++ bits n (x / 2)) + (x % 2 == 1).toNat := by
        simp [ofBits, List.foldl_append]
      have hbit : (x % 2 == 1).toNat = x % 2 := by
        rcases Nat.mod_two_eq_zero_or_one x with h | h <;> simp [h]
      have hmod : x % 2 ^ (n + 1) = 2 * (x / 2 % 2 ^ n) + x % 2 := by
        rw [Nat.pow_succ, Nat.mul_comm (2 ^ n) 2, Nat.mod_mul, Nat.add_comm]
      rw [bits, ← List.append_assoc, hlast, hbit, ih, hmod, Nat.pow_succ]
      ring

theorem length_messageBits (bytes : List UInt8) :
    (messageBits bytes).length = 8 * bytes.length := by
  induction bytes with
  | nil => rfl
  | cons b bytes ih =>
      rw [messageBits, List.flatMap_cons, List.length_append, length_bits, ← messageBits, ih,
        List.length_cons]
      omega

theorem messageBits_append (xs ys : List UInt8) :
    messageBits (xs ++ ys) = messageBits xs ++ messageBits ys :=
  List.flatMap_append

theorem messageBits_replicate_zero (n : Nat) :
    messageBits (List.replicate n 0) = List.replicate (8 * n) false := by
  induction n with
  | zero => rfl
  | succ n ih =>
      rw [List.replicate_succ, messageBits, List.flatMap_cons, ← messageBits, ih,
        show bits 8 (0 : UInt8).toNat = List.replicate 8 false from rfl,
        List.replicate_append_replicate, Nat.mul_succ, Nat.add_comm]

/-- The big-endian bytes of a number have its bits. -/
theorem messageBits_bigEndian (n x : Nat) :
    messageBits (Sha256.bigEndian n x) = bits (8 * n) x := by
  induction n generalizing x with
  | zero => rfl
  | succ n ih =>
      have hbyte : messageBits [UInt8.ofNat x] = bits 8 x := by
        rw [messageBits, List.flatMap_singleton, UInt8.toNat_ofNat']
        exact bits_mod 8 x
      rw [Sha256.bigEndian, messageBits_append, ih, hbyte, Nat.mul_succ, bits_append]
      rfl

/-! ## Padding -/

theorem zeros_bytes (n : Nat) : zeros (8 * n) = 7 + 8 * ((119 - n % 64) % 64) := by
  rw [zeros, Nat.find_eq_iff]
  constructor
  · omega
  · intro k hk
    omega

/-- The bytes that fill up a message are the bits that do. -/
theorem messageBits_pad (bytes : List UInt8) :
    messageBits (Sha256.pad bytes) = padded (messageBits bytes) := by
  have hone (rest : List UInt8) :
      messageBits (0x80 :: rest) = true :: (List.replicate 7 false ++ messageBits rest) := rfl
  simp only [Sha256.pad, padded, length_messageBits, zeros_bytes, messageBits_append,
    messageBits_bigEndian, hone, messageBits_replicate_zero, List.replicate_append_replicate,
    Nat.reduceMul]

theorem length_pad (bytes : List UInt8) : (Sha256.pad bytes).length % 64 = 0 := by
  simp [Sha256.pad, Sha256.length_bigEndian]
  omega

/-! ## Words -/

theorem ofBits_messageBits_concat (bytes : List UInt8) (b : UInt8) :
    ofBits (messageBits (bytes ++ [b])) = ofBits (messageBits bytes) * 256 + b.toNat := by
  have hlast : messageBits [b] = bits 8 b.toNat := List.flatMap_singleton _ b
  have hb : b.toNat % 2 ^ 8 = b.toNat := Nat.mod_eq_of_lt b.toNat_lt
  rw [messageBits_append, hlast, ofBits_append, hb]
  rfl

theorem wordAt_append (xs ys : List Bool) (hxs : xs.length = 32) (j : Nat) :
    wordAt (xs ++ ys) (j + 1) = wordAt ys j := by
  have hdrop : (xs ++ ys).drop (32 * (j + 1)) = ys.drop (32 * j) := by
    rw [Nat.mul_succ, Nat.add_comm, ← hxs, List.drop_length_add_append]
  rw [wordAt, wordAt, hdrop]

theorem wordAt_four (a b c d : UInt8) (ys : List Bool) :
    wordAt (messageBits [a, b, c, d] ++ ys) 0 =
      (a.toUInt32 * 0x1000000 + b.toUInt32 * 0x10000 + c.toUInt32 * 0x100 +
        d.toUInt32).toBitVec := by
  have htake : (messageBits [a, b, c, d] ++ ys).take 32 = messageBits [a, b, c, d] :=
    List.take_left' (length_messageBits [a, b, c, d])
  have hvalue : ofBits (messageBits [a, b, c, d]) =
      ((a.toNat * 256 + b.toNat) * 256 + c.toNat) * 256 + d.toNat := by
    rw [show [a, b, c, d] = [] ++ [a] ++ [b] ++ [c] ++ [d] from rfl]
    simp only [ofBits_messageBits_concat]
    simp [messageBits, ofBits]
  rw [wordAt, Nat.mul_zero, List.drop_zero, htake, hvalue]
  apply BitVec.eq_of_toNat_eq
  simp only [BitVec.toNat_ofNat, UInt32.toNat_toBitVec, UInt32.toNat_add, UInt32.toNat_mul,
    UInt8.toNat_toUInt32, UInt32.reduceToNat]
  omega

/-- The words of some bytes are those of their bits. -/
theorem words_eq_map {bytes : List UInt8} {n : Nat} (h : bytes.length = 4 * n) :
    (Sha256.words bytes).map (·.toBitVec) =
      (List.range n).map (wordAt (messageBits bytes)) := by
  induction n generalizing bytes with
  | zero =>
      obtain rfl := List.length_eq_zero_iff.mp h
      rfl
  | succ n ih =>
      match bytes, h with
      | a :: b :: c :: d :: rest, h =>
          have hrest : rest.length = 4 * n := by
            simp only [List.length_cons] at h
            omega
          have hbits : messageBits (a :: b :: c :: d :: rest) =
              messageBits [a, b, c, d] ++ messageBits rest :=
            messageBits_append [a, b, c, d] rest
          rw [Sha256.words, List.map_cons, ih hrest, List.range_succ_eq_map, List.map_cons,
            List.map_map, hbits, wordAt_four]
          simp [Function.comp_def, wordAt_append, length_messageBits]

/-! ## Schedule -/

theorem toBitVec_bigSigma0 (x : UInt32) :
    (Sha256.bigSigma0 x).toBitVec = bigSigma0 x.toBitVec := by
  simp [Sha256.bigSigma0, bigSigma0, Sha256.rotateRight, BitVec.rotateRight_def]

theorem toBitVec_bigSigma1 (x : UInt32) :
    (Sha256.bigSigma1 x).toBitVec = bigSigma1 x.toBitVec := by
  simp [Sha256.bigSigma1, bigSigma1, Sha256.rotateRight, BitVec.rotateRight_def]

theorem toBitVec_smallSigma0 (x : UInt32) :
    (Sha256.smallSigma0 x).toBitVec = smallSigma0 x.toBitVec := by
  simp [Sha256.smallSigma0, smallSigma0, Sha256.rotateRight, BitVec.rotateRight_def]

theorem toBitVec_smallSigma1 (x : UInt32) :
    (Sha256.smallSigma1 x).toBitVec = smallSigma1 x.toBitVec := by
  simp [Sha256.smallSigma1, smallSigma1, Sha256.rotateRight, BitVec.rotateRight_def]

theorem schedule_of_lt (block : Nat → Word) {t : Nat} (h : t < 16) :
    schedule block t = block t := by
  rw [schedule, if_pos h]

theorem schedule_add_sixteen (block : Nat → Word) (t : Nat) :
    schedule block (t + 16) =
      smallSigma1 (schedule block (t + 14)) + schedule block (t + 9) +
        smallSigma0 (schedule block (t + 1)) + schedule block t := by
  rw [schedule, if_neg (by omega)]
  rfl

/-- So many words of a sequence from a place on, for the machine. -/
def wordsFrom (w : Nat → Word) (start count : Nat) : List UInt32 :=
  (List.range' start count).map fun t => UInt32.ofBitVec (w t)

theorem length_wordsFrom (w : Nat → Word) (start count : Nat) :
    (wordsFrom w start count).length = count := by
  simp [wordsFrom]

theorem wordsFrom_append (w : Nat → Word) (start m n : Nat) :
    wordsFrom w start m ++ wordsFrom w (start + m) n = wordsFrom w start (m + n) := by
  rw [wordsFrom, wordsFrom, wordsFrom, ← List.map_append, List.range'_append_1]

theorem wordsFrom_succ (w : Nat → Word) (start n : Nat) :
    wordsFrom w start (n + 1) = UInt32.ofBitVec (w start) :: wordsFrom w (start + 1) n := by
  rw [wordsFrom, List.range'_succ, List.map_cons, ← wordsFrom]

theorem wordsFrom_eq_map_range (w : Nat → Word) (start n : Nat) :
    wordsFrom w start n = (List.range n).map fun t => UInt32.ofBitVec (w (start + t)) := by
  rw [wordsFrom, List.range'_eq_map_range, List.map_map]
  rfl

theorem wordsFrom_shift (w : Nat → Word) (start n : Nat) :
    wordsFrom (fun t => w (start + t)) 0 n = wordsFrom w start n := by
  rw [wordsFrom_eq_map_range, wordsFrom_eq_map_range]
  simp only [Nat.zero_add]

/-- The word that a window of a schedule is followed by. -/
theorem nextWord_schedule (block : Nat → Word) (t : Nat) :
    Sha256.nextWord (wordsFrom (schedule block) t 16) =
      UInt32.ofBitVec (schedule block (t + 16)) := by
  apply UInt32.toBitVec_inj.mp
  rw [schedule_add_sixteen]
  simp only [Sha256.nextWord, UInt32.toBitVec_add, toBitVec_smallSigma0, toBitVec_smallSigma1]
  rfl

/-- A window that slides along a schedule leaves the words of the schedule behind. -/
theorem schedule_wordsFrom (block : Nat → Word) (n t : Nat) :
    Sha256.schedule n (wordsFrom (schedule block) t 16) =
      wordsFrom (schedule block) t (n + 16) := by
  induction n generalizing t with
  | zero => rw [Sha256.schedule, Nat.zero_add]
  | succ n ih =>
      have hwindow := wordsFrom_succ (schedule block) t 15
      have hnext := nextWord_schedule block t
      have hslide : wordsFrom (schedule block) (t + 1) 15 ++
          [UInt32.ofBitVec (schedule block (t + 16))] = wordsFrom (schedule block) (t + 1) 16 :=
        wordsFrom_append (schedule block) (t + 1) 15 1
      rw [hwindow] at hnext ⊢
      rw [Sha256.schedule, hnext, hslide, ih, Nat.add_right_comm,
        wordsFrom_succ (schedule block) t]

/-! ## Rounds and blocks -/

/-- The working variables of a state. -/
def registers (s : Sha256.State) : Registers :=
  ![s.a.toBitVec, s.b.toBitVec, s.c.toBitVec, s.d.toBitVec, s.e.toBitVec, s.f.toBitVec,
    s.g.toBitVec, s.h.toBitVec]

/-- Trial division finds the primes, up to the square root of a number. -/
theorem primes_eq_filter :
    primes = (List.range 312).filter fun n =>
      decide (2 ≤ n) && (List.range' 2 (Nat.sqrt n - 1)).all fun d => n % d != 0 := by
  apply List.filter_congr
  intro n _
  have hmem (d : Nat) : d ∈ List.range' 2 (Nat.sqrt n - 1) ↔ 2 ≤ d ∧ d ≤ Nat.sqrt n := by
    rw [List.mem_range'_1]
    omega
  rw [Bool.eq_iff_iff, decide_eq_true_iff, Nat.prime_def_le_sqrt, Bool.and_eq_true,
    decide_eq_true_iff, List.all_eq_true]
  simp only [hmem, and_imp, bne_iff_ne, ne_eq, Nat.dvd_iff_mod_eq_zero]

theorem primes_eq :
    primes =
      [2, 3, 5, 7, 11, 13, 17, 19, 23, 29, 31, 37, 41, 43, 47, 53, 59, 61, 67, 71, 73, 79, 83,
        89, 97, 101, 103, 107, 109, 113, 127, 131, 137, 139, 149, 151, 157, 163, 167, 173, 179,
        181, 191, 193, 197, 199, 211, 223, 227, 229, 233, 239, 241, 251, 257, 263, 269, 271,
        277, 281, 283, 293, 307, 311] := by
  rw [primes_eq_filter]
  decide +kernel

/-- Whether a word follows a whole part below 8 of the root of a number, by bounds for the
root. -/
def IsRootFraction (degree x : Nat) (w : Word) : Prop :=
  ∃ q < 8, (2 ^ 32 * q + w.toNat) ^ degree ≤ x * 2 ^ (32 * degree) ∧
    x * 2 ^ (32 * degree) < (2 ^ 32 * q + w.toNat + 1) ^ degree

instance (degree x : Nat) (w : Word) : Decidable (IsRootFraction degree x w) :=
  inferInstanceAs (Decidable (∃ q < 8, _))

theorem rootBits_eq {degree i : Nat} {w : Word}
    (h : IsRootFraction degree (primes.getD i 0) w) : rootBits degree i = w := by
  obtain ⟨q, -, hlow, hhigh⟩ := h
  rw [rootBits, Nat.nthRoot_eq_of_le_of_lt hlow hhigh]
  apply BitVec.eq_of_toNat_eq
  rw [BitVec.toNat_ofNat, Nat.mul_add_mod, Nat.mod_eq_of_lt w.isLt]

theorem roundConstants_eq : Sha256.roundConstants = wordsFrom (rootBits 3) 0 64 := by
  -- bounds are compared, since it takes long to approach the roots from the numbers
  have hroot : ∀ i < 64, IsRootFraction 3 (primes.getD i 0)
      (Sha256.roundConstants.getD i 0).toBitVec := by
    rw [primes_eq]
    decide +kernel
  have hlength : Sha256.roundConstants.length = 64 := rfl
  apply List.ext_getElem
  · rw [hlength, length_wordsFrom]
  · intro i hi _
    simp only [wordsFrom_eq_map_range, List.getElem_map, List.getElem_range]
    rw [Nat.zero_add, rootBits_eq (hroot i (hlength ▸ hi)), List.getD_eq_getElem?_getD,
      List.getElem?_eq_getElem hi]
    rfl

theorem registers_initial (j : Fin 8) : registers Sha256.initial j = rootBits 2 j := by
  simp only [rootBits, primes_eq]
  revert j
  decide +kernel

theorem registers_round (s : Sha256.State) (k w : UInt32) :
    registers (Sha256.round s k w) = round (registers s) k.toBitVec w.toBitVec := by
  simp [Sha256.round, round, registers, Sha256.choose, choose, Sha256.majority, majority,
    toBitVec_bigSigma0, toBitVec_bigSigma1]

theorem registers_rounds (w : Nat → Word) (s : Sha256.State) (n : Nat) :
    registers (((wordsFrom (rootBits 3) 0 n).zip (wordsFrom w 0 n)).foldl
      (fun s p => Sha256.round s p.1 p.2) s) = rounds w (registers s) n := by
  induction n with
  | zero => rfl
  | succ n ih =>
      have hconstants := wordsFrom_append (rootBits 3) 0 n 1
      have hwords := wordsFrom_append w 0 n 1
      rw [← hconstants, ← hwords, List.zip_append (by simp only [length_wordsFrom]),
        List.foldl_append]
      change registers (Sha256.round _ _ _) = _
      rw [registers_round, ih, Nat.zero_add]
      rfl

/-- A block of words is compressed as the standard compresses it. -/
theorem registers_compress (s : Sha256.State) (block : Nat → Word) :
    registers (Sha256.compress s (wordsFrom block 0 16)) =
      registers s + rounds (schedule block) (registers s) 64 := by
  have hblock : wordsFrom block 0 16 = wordsFrom (schedule block) 0 16 := by
    rw [wordsFrom_eq_map_range, wordsFrom_eq_map_range]
    apply List.map_congr_left
    intro t ht
    rw [Nat.zero_add, schedule_of_lt block (List.mem_range.mp ht)]
  rw [← registers_rounds, Sha256.compress, hblock, schedule_wordsFrom, roundConstants_eq]
  funext j
  fin_cases j <;> rfl

/-- The blocks that follow are chained as the standard chains them. -/
theorem registers_fold (message : List Bool) (n i : Nat) (s : Sha256.State)
    (hs : registers s = chained message i) :
    registers (Sha256.fold s (wordsFrom (wordAt message) (16 * i) (16 * n))) =
      chained message (i + n) := by
  induction n generalizing i s with
  | zero =>
      rw [Sha256.fold, length_wordsFrom, if_neg (by omega)]
      exact hs
  | succ n ih =>
      have hsplit := wordsFrom_append (wordAt message) (16 * i) 16 (16 * n)
      have hlength := length_wordsFrom (wordAt message) (16 * i) 16
      have hnext : registers (Sha256.compress s (wordsFrom (wordAt message) (16 * i) 16)) =
          chained message (i + 1) := by
        rw [← wordsFrom_shift, registers_compress, hs, chained]
      have hrest := ih (i + 1) _ hnext
      rw [Nat.mul_succ 16 i, Nat.add_assoc i, Nat.add_comm 1 n] at hrest
      rw [Nat.mul_succ 16 n, Nat.add_comm (16 * n), ← hsplit, Sha256.fold, List.length_append,
        hlength, if_pos (Nat.le_add_right 16 _), List.take_left' hlength,
        List.drop_left' hlength]
      exact hrest

/-- The words of the state after a message are the registers of its hash. -/
theorem registers_hash (bytes : List UInt8) :
    registers (Sha256.fold Sha256.initial (Sha256.words (Sha256.pad bytes))) = hash bytes := by
  obtain ⟨n, hn⟩ : ∃ n, (Sha256.pad bytes).length = 64 * n :=
    ⟨_, (Nat.mul_div_cancel' (Nat.dvd_of_mod_eq_zero (length_pad bytes))).symm⟩
  have hwords : Sha256.words (Sha256.pad bytes) =
      wordsFrom (wordAt (padded (messageBits bytes))) (16 * 0) (16 * n) := by
    apply List.map_injective_iff.mpr (fun x y => UInt32.toBitVec_inj.mp)
    rw [words_eq_map (n := 16 * n) (by omega), messageBits_pad, wordsFrom_eq_map_range,
      List.map_map]
    simp [Function.comp_def]
  have hblocks : (padded (messageBits bytes)).length / 512 = n := by
    rw [← messageBits_pad, length_messageBits, hn]
    omega
  rw [hash, hblocks, hwords, registers_fold _ n 0 _ (funext registers_initial), Nat.zero_add]

/-! ## Digits -/

theorem hexDigit_eq_digitChar {n : Nat} (h : n < 16) : hexDigit n = Nat.digitChar n := by
  have hall : ∀ m < 16, hexDigit m = Nat.digitChar m := by decide
  exact hall n h

theorem hexDigits_bigEndian (w : UInt32) :
    hexDigits (Sha256.bigEndian 4 w.toNat) = hexWord w.toBitVec := by
  have hdigit (n : Nat) : hexDigit (n % 16) = Nat.digitChar (n % 16) :=
    hexDigit_eq_digitChar (Nat.mod_lt n (by omega))
  have hhigh (x : Nat) : hexDigit ((UInt8.ofNat x).toNat / 16) = Nat.digitChar (x / 16 % 16) := by
    rw [← hdigit, UInt8.toNat_ofNat']
    congr 1
    omega
  have hlow (x : Nat) : hexDigit ((UInt8.ofNat x).toNat % 16) = Nat.digitChar (x % 16) := by
    rw [← hdigit, UInt8.toNat_ofNat']
    congr 1
    omega
  simp only [Sha256.bigEndian, hexDigits, List.nil_append, List.cons_append, List.flatMap_cons,
    List.flatMap_nil, List.append_nil, hhigh, hlow, Nat.div_div_eq_div_mul]
  simp [hexWord, List.range_succ]

theorem hexDigits_flatMap (ws : List UInt32) :
    hexDigits (ws.flatMap fun w => Sha256.bigEndian 4 w.toNat) =
      (ws.map (·.toBitVec)).flatMap hexWord := by
  rw [hexDigits, List.flatMap_assoc, List.flatMap_map]
  exact congrArg (ws.flatMap ·) (funext hexDigits_bigEndian)

end SecureHash

/-- A digest has the hexadecimal digits of the standard hash of the key and the salt. -/
theorem Salt.digest_eq_hexHash (salt : Salt) (key : String) :
    salt.digest key = SecureHash.hexHash (utf8 key ++ utf8 salt.text) := by
  rw [digest, Sha256.hash, SecureHash.hexDigits_flatMap, SecureHash.hexHash,
    ← SecureHash.registers_hash]
  rfl

end SiteVpn
