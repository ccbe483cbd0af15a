import EspHosted.Numerals
import Mathlib.Algebra.Group.Nat.Defs
import Mathlib.Data.List.TakeWhile

/-!
`ipv4_addr_aton` on any string. `Address` is the grammar its comment gives: numbers as in C
between dots. The scanner takes the longest run of digits for a number, which may be empty, may
hold an 8 or 9 behind a leading 0, and is summed up in 32 bits. `u_long` is 32 bits wide, and
behind the end of a string there is a NUL.
-/

namespace EspHosted.Ipv4Parser
open Numerals

def isascii (c : UInt8) : Bool := c < 128
def isdigit (c : UInt8) : Bool := '0'.toUInt8 ≤ c && c ≤ '9'.toUInt8
def islower (c : UInt8) : Bool := 'a'.toUInt8 ≤ c && c ≤ 'z'.toUInt8
def isspace (c : UInt8) : Bool := c = ' '.toUInt8 || (9 ≤ c && c ≤ 13)

def isxdigit (c : UInt8) : Bool :=
  isdigit c || ('A'.toUInt8 ≤ c && c ≤ 'F'.toUInt8) || ('a'.toUInt8 ≤ c && c ≤ 'f'.toUInt8)

/-- `*cp`. -/
def deref (cp : List UInt8) : UInt8 := cp.headD 0

def htonLong (x : UInt32) : UInt32 :=
  (x &&& 0xFF000000) >>> 24 ||| (x &&& 0x00FF0000) >>> 8 ||| (x &&& 0x0000FF00) <<< 8 |||
    (x &&& 0x000000FF) <<< 24

/-- The base of a number, and where its digits begin. -/
def scanBase (cp : List UInt8) : UInt32 × List UInt8 :=
  if deref cp = '0'.toUInt8 then
    let cp := cp.tail
    if deref cp = 'x'.toUInt8 ∨ deref cp = 'X'.toUInt8 then (16, cp.tail) else (8, cp)
  else (10, cp)

def scanDigits (base : UInt32) : UInt32 → List UInt8 → UInt32 × List UInt8
  | val, [] => (val, [])
  | val, c :: cp =>
      if isascii c && isdigit c then
        scanDigits base (val * base + (c - '0'.toUInt8).toUInt32) cp
      else if base = 16 && isascii c && isxdigit c then
        scanDigits base
          ((val <<< 4) + (c + 10 - (if islower c then 'a'.toUInt8 else 'A'.toUInt8)).toUInt32) cp
      else (val, c :: cp)

/-- A round of the loop, up to what is behind the number. -/
def scanNumber (cp : List UInt8) : UInt32 × List UInt8 :=
  scanDigits (scanBase cp).1 0 (scanBase cp).2

/-- The loop: `parts`, the last `val` and the rest of the string. `left` is `parts + 3 - pp`. -/
def scanParts : Nat → List UInt32 → List UInt8 → Option (List UInt32 × UInt32 × List UInt8)
  | left, parts, cp =>
      let (val, cp) := scanNumber cp
      if deref cp = '.'.toUInt8 then
        match left with
        | 0 => none
        | left + 1 => if val > 0xff then none else scanParts left (parts ++ [val]) cp.tail
      else some (parts, val, cp)

/-- The `switch` on the number of parts. -/
def concoct : List UInt32 → UInt32 → Option UInt32
  | [], val => some val
  | [a], val => if val > 0xffffff then none else some (val ||| a <<< 24)
  | [a, b], val => if val > 0xffff then none else some (val ||| (a <<< 24 ||| b <<< 16))
  | [a, b, c], val =>
      if val > 0xff then none else some (val ||| (a <<< 24 ||| b <<< 16 ||| c <<< 8))
  | _ :: _ :: _ :: _ :: _, val => some val

/-- What is stored, when 1 is returned. -/
def ipv4AddrAton (cp : List UInt8) : Option UInt32 :=
  (scanParts 3 [] cp).bind fun (parts, val, cp) =>
    if deref cp ≠ 0 ∧ (!isascii (deref cp) ∨ !isspace (deref cp)) then none
    else (concoct parts val).map htonLong

/-! The grammar, in numbers of any size. -/

def digitValue (c : UInt8) : Nat :=
  if isdigit c then c.toNat - '0'.toNat
  else if islower c then c.toNat - 'a'.toNat + 10 else c.toNat - 'A'.toNat + 10

/-- A number as in C. -/
inductive Numeral : List UInt8 → Nat → Prop where
  | decimal (digits : List UInt8) (some_digits : digits ≠ []) (leading : deref digits ≠ '0'.toUInt8)
      (all : ∀ c ∈ digits, isdigit c = true) : Numeral digits (value digitValue 10 digits)
  | octal (digits : List UInt8) (all : ∀ c ∈ digits, isdigit c = true ∧ c < '8'.toUInt8) :
      Numeral ('0'.toUInt8 :: digits) (value digitValue 8 digits)
  | hex (x : UInt8) (digits : List UInt8) (mark : x = 'x'.toUInt8 ∨ x = 'X'.toUInt8)
      (some_digits : digits ≠ []) (all : ∀ c ∈ digits, isxdigit c = true) :
      Numeral ('0'.toUInt8 :: x :: digits) (value digitValue 16 digits)

inductive Dotted : List UInt8 → List Nat → Prop where
  | one {text : List UInt8} {val : Nat} (number : Numeral text val) : Dotted text [val]
  | more {text tail : List UInt8} {val : Nat} {vals : List Nat} (number : Numeral text val)
      (others : Dotted tail vals) : Dotted (text ++ '.'.toUInt8 :: tail) (val :: vals)

/-- The 32-bit number that one to four parts stand for, if they are small enough. -/
def places : List Nat → Option Nat
  | [a] => if a < 2 ^ 32 then some a else none
  | [a, b] => if a < 256 ∧ b < 2 ^ 24 then some (a * 2 ^ 24 + b) else none
  | [a, b, c] =>
      if a < 256 ∧ b < 256 ∧ c < 2 ^ 16 then some (a * 2 ^ 24 + b * 2 ^ 16 + c) else none
  | [a, b, c, d] =>
      if a < 256 ∧ b < 256 ∧ c < 256 ∧ d < 256 then
        some (a * 2 ^ 24 + b * 2 ^ 16 + c * 2 ^ 8 + d)
      else none
  | [] | _ :: _ :: _ :: _ :: _ :: _ => none

/-- The end of the string, or white space. -/
def Ends (rest : List UInt8) : Prop := deref rest = 0 ∨ isspace (deref rest) = true

instance (rest : List UInt8) : Decidable (Ends rest) :=
  inferInstanceAs (Decidable (deref rest = 0 ∨ isspace (deref rest) = true))

/-- The string begins with an address and ends behind it or goes on with white space. -/
def Address (cp : List UInt8) (address : Nat) : Prop :=
  ∃ text rest vals, cp = text ++ rest ∧ Ends rest ∧ Dotted text vals ∧ places vals = some address

/-- The parser accepts the addresses and stores their numbers in network order. -/
def Agrees (cp : List UInt8) : Prop :=
  ∀ stored, ipv4AddrAton cp = some stored ↔
    ∃ address, Address cp address ∧ stored = htonLong (UInt32.ofNat address)

/-! How a string falls into numbers. -/

/-- A digit as the scanner takes it. -/
def ofBase (base : UInt32) (c : UInt8) : Bool :=
  isascii c && isdigit c || base = 16 && isascii c && isxdigit c

structure Piece where
  base : UInt32
  digits : List UInt8
  rest : List UInt8

def piece (cp : List UInt8) : Piece where
  base := (scanBase cp).1
  digits := (scanBase cp).2.takeWhile (ofBase (scanBase cp).1)
  rest := (scanBase cp).2.dropWhile (ofBase (scanBase cp).1)

def Piece.number (piece : Piece) : Nat := value digitValue piece.base.toNat piece.digits

/-- The piece is a number that fits 32 bits. -/
structure Piece.Sound (piece : Piece) : Prop where
  someDigits : piece.base ≠ 8 → piece.digits ≠ []
  octal : piece.base = 8 → ∀ c ∈ piece.digits, c < '8'.toUInt8
  small : piece.number < 2 ^ 32

/-- The pieces before and behind up to three dots. -/
def pieces : Nat → List UInt8 → Option (List Piece × Piece)
  | left, cp =>
      if deref (piece cp).rest = '.'.toUInt8 then
        match left with
        | 0 => none
        | left + 1 =>
            (pieces left (piece cp).rest.tail).map fun split => (piece cp :: split.1, split.2)
      else some ([], piece cp)

/-- Cut to 32 bits, the pieces are in their places, and the string ends there. -/
def Fits (split : List Piece × Piece) : Prop :=
  Ends split.2.rest ∧
    (places ((split.1 ++ [split.2]).map fun piece => piece.number % 2 ^ 32)).isSome

/-- No piece is empty, has an 8 or 9 in base 8 or is too large, unless the string is refused
for another reason. -/
def WellRead (cp : List UInt8) : Prop :=
  ∀ split, pieces 3 cp = some split → Fits split → ∀ piece ∈ split.1 ++ [split.2], piece.Sound

/-! The scanner takes the pieces. -/

theorem digit_taken (c : UInt8) (digit : isdigit c = true) :
    (c - '0'.toUInt8).toUInt32.toNat = digitValue c := by
  have known := digit
  simp only [isdigit, Bool.and_eq_true, decide_eq_true_eq] at digit
  have least : '0'.toUInt8 ≤ c := digit.1
  rw [UInt8.toNat_toUInt32, UInt8.toNat_sub_of_le c _ least, digitValue, if_pos known]
  rfl

theorem letter_taken (c : UInt8) (letter : isxdigit c = true) (other : isdigit c = false) :
    (c + 10 - (if islower c then 'a'.toUInt8 else 'A'.toUInt8)).toUInt32.toNat = digitValue c := by
  have range : ('A'.toNat ≤ c.toNat ∧ c.toNat ≤ 'F'.toNat) ∨
      ('a'.toNat ≤ c.toNat ∧ c.toNat ≤ 'f'.toNat) := by
    simp only [isxdigit, other, Bool.false_or, Bool.or_eq_true, Bool.and_eq_true,
      decide_eq_true_eq, UInt8.le_iff_toNat_le] at letter
    exact letter
  have lower : islower c = true ↔ 'a'.toNat ≤ c.toNat := by
    simp only [islower, Bool.and_eq_true, decide_eq_true_eq, UInt8.le_iff_toNat_le]
    show 97 ≤ c.toNat ∧ c.toNat ≤ 122 ↔ 97 ≤ c.toNat
    have top : 'f'.toNat = 102 := rfl
    have capital : 'F'.toNat = 70 := rfl
    omega
  have values : 'A'.toNat = 65 ∧ 'F'.toNat = 70 ∧ 'a'.toNat = 97 ∧ 'f'.toNat = 102 :=
    ⟨rfl, rfl, rfl, rfl⟩
  have ten : (c + 10).toNat = c.toNat + 10 := by
    rw [UInt8.toNat_add]
    show (c.toNat + 10) % 256 = _
    omega
  have counted (first : UInt8) (least : first.toNat ≤ c.toNat) :
      (c + 10 - first).toNat = c.toNat - first.toNat + 10 := by
    have fits : first ≤ c + 10 := by
      rw [UInt8.le_iff_toNat_le, ten]
      exact Nat.le_add_right_of_le least
    rw [UInt8.toNat_sub_of_le _ _ fits, ten, Nat.sub_add_comm least]
  rw [UInt8.toNat_toUInt32, digitValue, other]
  by_cases small : islower c = true
  · rw [if_pos small, if_pos small]
    exact counted _ (lower.mp small)
  · have below := mt lower.mpr small
    rw [if_neg small, if_neg small]
    exact counted _ (by
      show 65 ≤ c.toNat
      omega)

/-- One digit more, in 32 bits. -/
theorem ofNat_next (base val : UInt32) (value : Nat) (rest : List UInt8)
    (next : val.toNat = value % 2 ^ 32) :
    UInt32.ofNat (valueFrom digitValue base.toNat val.toNat rest) =
      UInt32.ofNat (valueFrom digitValue base.toNat value rest) := by
  apply UInt32.toNat_inj.mp
  rw [UInt32.toNat_ofNat', UInt32.toNat_ofNat', next, valueFrom_mod]

theorem scanDigits_eq (base val : UInt32) (cp : List UInt8) :
    scanDigits base val cp =
      (UInt32.ofNat (valueFrom digitValue base.toNat val.toNat (cp.takeWhile (ofBase base))),
        cp.dropWhile (ofBase base)) := by
  induction cp generalizing val with
  | nil =>
      simp only [scanDigits, List.takeWhile_nil, List.dropWhile_nil, valueFrom, List.foldl_nil,
        UInt32.ofNat_toNat]
  | cons c cp ih =>
      rw [scanDigits, List.takeWhile_cons, List.dropWhile_cons]
      by_cases digit : (isascii c && isdigit c) = true
      · have taken : ofBase base c = true := by rw [ofBase, digit, Bool.true_or]
        have value := digit_taken c (Bool.and_eq_true_iff.mp digit).2
        have next : (val * base + (c - '0'.toUInt8).toUInt32).toNat =
            (val.toNat * base.toNat + digitValue c) % 2 ^ 32 := by
          rw [UInt32.toNat_add, UInt32.toNat_mul, value, Nat.mod_add_mod]
        rw [if_pos digit, if_pos taken, if_pos taken, ih, valueFrom_cons,
          ofNat_next _ _ _ _ next]
      · by_cases letter : (base = 16 && isascii c && isxdigit c) = true
        · have taken : ofBase base c = true := by
            rw [ofBase, letter, Bool.or_true]
          have parts : (base = 16 ∧ isascii c = true) ∧ isxdigit c = true := by
            simpa only [Bool.and_eq_true, decide_eq_true_eq] using letter
          have other : isdigit c = false := by
            cases known : isdigit c with
            | false => rfl
            | true => exact absurd (Bool.and_eq_true_iff.mpr ⟨parts.1.2, known⟩) digit
          have value := letter_taken c parts.2 other
          have next : ((val <<< 4) +
              (c + 10 - (if islower c then 'a'.toUInt8 else 'A'.toUInt8)).toUInt32).toNat =
              (val.toNat * base.toNat + digitValue c) % 2 ^ 32 := by
            rw [parts.1.1, UInt32.toNat_add, value, UInt32.toNat_shiftLeft, Nat.shiftLeft_eq,
              Nat.mod_add_mod]
            rfl
          rw [if_neg digit, if_pos letter, if_pos taken, if_pos taken, ih, valueFrom_cons,
            ofNat_next _ _ _ _ next]
        · have untaken : ¬ ofBase base c = true := by
            rw [ofBase, Bool.or_eq_true]
            exact fun either => either.elim digit letter
          rw [if_neg digit, if_neg letter, if_neg untaken, if_neg untaken]
          simp only [valueFrom, List.foldl_nil, UInt32.ofNat_toNat]

theorem scanNumber_eq (cp : List UInt8) :
    scanNumber cp = (UInt32.ofNat (piece cp).number, (piece cp).rest) :=
  scanDigits_eq _ _ _

theorem scanParts_eq (left : Nat) (parts : List UInt32) (cp : List UInt8) :
    scanParts left parts cp = (pieces left cp).bind fun split =>
      if ∀ piece ∈ split.1, piece.number % 2 ^ 32 ≤ 255 then
        some (parts ++ split.1.map fun piece => UInt32.ofNat piece.number,
          UInt32.ofNat split.2.number, split.2.rest)
      else none := by
  induction left generalizing parts cp with
  | zero =>
      rw [scanParts, pieces, scanNumber_eq]
      by_cases dot : deref (piece cp).rest = '.'.toUInt8
      · simp only [dot, if_true, Option.bind_none]
      · simp [dot]
  | succ left ih =>
      rw [scanParts, pieces, scanNumber_eq]
      by_cases dot : deref (piece cp).rest = '.'.toUInt8
      · have large : UInt32.ofNat (piece cp).number > 0xff ↔
            ¬ (piece cp).number % 2 ^ 32 ≤ 255 := by
          rw [gt_iff_lt, UInt32.lt_iff_toNat_lt, UInt32.toNat_ofNat', Nat.not_le]
          rfl
        simp only [dot, if_true, ih, large]
        cases others : pieces left (piece cp).rest.tail with
        | none => simp
        | some split =>
            simp only [Option.bind_some, Option.map_some, List.forall_mem_cons, List.map_cons]
            by_cases small : (piece cp).number % 2 ^ 32 ≤ 255
            · rw [if_neg (not_not_intro small)]
              simp only [small, true_and, List.append_assoc, List.singleton_append]
            · rw [if_pos small, if_neg fun both => small both.1]
      · simp [dot]

/-- The last piece, or one with a dot and others behind it. -/
theorem pieces_cases {left : Nat} {cp : List UInt8} {split : List Piece × Piece}
    (cut : pieces left cp = some split) :
    split = ([], piece cp) ∨ ∃ less others, left = less + 1 ∧
      deref (piece cp).rest = '.'.toUInt8 ∧ pieces less (piece cp).rest.tail = some others ∧
      split = (piece cp :: others.1, others.2) := by
  rw [pieces.eq_def] at cut
  dsimp only at cut
  by_cases dot : deref (piece cp).rest = '.'.toUInt8
  · rw [if_pos dot] at cut
    cases left with
    | zero => cases cut
    | succ less =>
        obtain ⟨others, later, rfl⟩ := Option.map_eq_some_iff.mp cut
        exact .inr ⟨less, others, rfl, dot, later, rfl⟩
  · rw [if_neg dot] at cut
    exact .inl (Option.some.inj cut).symm

theorem pieces_length {left : Nat} {cp : List UInt8} {split : List Piece × Piece}
    (cut : pieces left cp = some split) : split.1.length ≤ left := by
  induction left generalizing cp split with
  | zero =>
      rcases pieces_cases cut with rfl | ⟨_, _, more, _⟩
      · exact Nat.le_refl 0
      · cases more
  | succ left ih =>
      rcases pieces_cases cut with rfl | ⟨_, others, more, _, cut, rfl⟩
      · exact Nat.zero_le _
      · cases more
        exact Nat.succ_le_succ (ih cut)

/-- A byte in its place above what lies in the lower ones, and the place above it is free. -/
theorem placed {low byte shift : UInt32} (place : shift.toNat ≤ 24) (small : byte.toNat ≤ 255)
    (below : low.toNat < 2 ^ shift.toNat) :
    (low ||| byte <<< shift).toNat = byte.toNat * 2 ^ shift.toNat + low.toNat ∧
      (low ||| byte <<< shift).toNat < 2 ^ (shift.toNat + 8) := by
  have within : byte.toNat * 2 ^ shift.toNat + low.toNat < 2 ^ (shift.toNat + 8) :=
    calc byte.toNat * 2 ^ shift.toNat + low.toNat
        < byte.toNat * 2 ^ shift.toNat + 2 ^ shift.toNat := Nat.add_lt_add_left below _
      _ = (byte.toNat + 1) * 2 ^ shift.toNat := (Nat.succ_mul _ _).symm
      _ ≤ 2 ^ 8 * 2 ^ shift.toNat := Nat.mul_le_mul_right _ (Nat.succ_le_succ small)
      _ = 2 ^ (shift.toNat + 8) := by rw [← Nat.pow_add, Nat.add_comm]
  have word : 2 ^ (shift.toNat + 8) ≤ 2 ^ 32 :=
    Nat.pow_le_pow_right (Nat.succ_pos 1) (Nat.add_le_add_right place 8)
  have fits : byte.toNat * 2 ^ shift.toNat < 2 ^ 32 := by omega
  have sum : (low ||| byte <<< shift).toNat = byte.toNat * 2 ^ shift.toNat + low.toNat := by
    have inside : shift.toNat < 32 := by omega
    rw [UInt32.toNat_or, UInt32.toNat_shiftLeft, Nat.mod_eq_of_lt inside, Nat.shiftLeft_eq,
      Nat.mod_eq_of_lt fits, Nat.or_comm, ← Nat.shiftLeft_eq, Nat.shiftLeft_add_eq_or_of_lt below]
  exact ⟨sum, sum ▸ within⟩

/-- The parts, which were found small, and the last value in their places. -/
theorem concoct_eq (parts : List UInt32) (val : UInt32) (few : parts.length ≤ 3)
    (bytes : ∀ part ∈ parts, part.toNat ≤ 255) :
    concoct parts val = (places (parts.map UInt32.toNat ++ [val.toNat])).map UInt32.ofNat := by
  have beyond (bound : UInt32) : val > bound ↔ ¬ val.toNat ≤ bound.toNat := by
    rw [gt_iff_lt, UInt32.lt_iff_toNat_lt, Nat.not_le]
  have stored (word : UInt32) (number : Nat) (same : word.toNat = number) :
      some word = (some number).map UInt32.ofNat := by
    rw [← same, Option.map_some, UInt32.ofNat_toNat]
  match parts, few with
  | [], _ =>
      have fits : val.toNat < 2 ^ 32 := val.toNat_lt
      simp only [concoct, places, List.map_nil, List.nil_append, if_pos fits]
      exact stored _ _ rfl
  | [a], _ =>
      have first := bytes a (by simp)
      simp only [concoct, places, List.map_cons, List.map_nil, List.cons_append, List.nil_append,
        beyond]
      show (if ¬ val.toNat ≤ 16777215 then _ else _) = _
      by_cases fits : val.toNat < 2 ^ 24
      · rw [if_neg (by omega), if_pos ⟨by omega, fits⟩]
        exact stored _ _ (@placed val a 24 (by decide) first fits).1
      · rw [if_pos (by omega), if_neg (by omega)]
        rfl
  | [a, b], _ =>
      have first := bytes a (by simp)
      have second := bytes b (by simp)
      simp only [concoct, places, List.map_cons, List.map_nil, List.cons_append, List.nil_append,
        beyond]
      show (if ¬ val.toNat ≤ 65535 then _ else _) = _
      by_cases fits : val.toNat < 2 ^ 16
      · obtain ⟨low, below⟩ := @placed val b 16 (by decide) second fits
        obtain ⟨sum, _⟩ := @placed _ a 24 (by decide) first below
        rw [if_neg (by omega), if_pos ⟨by omega, by omega, fits⟩]
        apply stored
        rw [UInt32.or_comm (a <<< 24), ← UInt32.or_assoc, sum, low]
        exact (Nat.add_assoc _ _ _).symm
      · rw [if_pos (by omega), if_neg (by omega)]
        rfl
  | [a, b, c], _ =>
      have first := bytes a (by simp)
      have second := bytes b (by simp)
      have third := bytes c (by simp)
      simp only [concoct, places, List.map_cons, List.map_nil, List.cons_append, List.nil_append,
        beyond]
      show (if ¬ val.toNat ≤ 255 then _ else _) = _
      by_cases fits : val.toNat < 2 ^ 8
      · obtain ⟨least, small⟩ := @placed val c 8 (by decide) third fits
        obtain ⟨low, below⟩ := @placed _ b 16 (by decide) second small
        obtain ⟨sum, _⟩ := @placed _ a 24 (by decide) first below
        rw [if_neg (by omega), if_pos ⟨by omega, by omega, by omega, fits⟩]
        apply stored
        rw [UInt32.or_comm _ (c <<< 8), UInt32.or_comm (a <<< 24), ← UInt32.or_assoc,
          ← UInt32.or_assoc, sum, low, least]
        show a.toNat * 2 ^ 24 + (b.toNat * 2 ^ 16 + (c.toNat * 2 ^ 8 + val.toNat)) = _
        omega
      · rw [if_pos (by omega), if_neg (by omega)]
        rfl

/-- One part that is not small, and there are no places for it. -/
theorem places_large {parts : List Nat} (few : parts.length ≤ 3)
    (large : ¬ ∀ part ∈ parts, part ≤ 255) (last : Nat) : places (parts ++ [last]) = none := by
  match parts, few with
  | [], _ => exact absurd (fun _ inside => absurd inside List.not_mem_nil) large
  | [a], _ =>
      have first : 255 < a := by simpa using large
      exact if_neg (by omega)
  | [a, b], _ =>
      have either : a ≤ 255 → 255 < b := by simpa using large
      exact if_neg (by omega)
  | [a, b, c], _ =>
      have either : a ≤ 255 → b ≤ 255 → 255 < c := by simpa using large
      exact if_neg (by omega)

theorem trailing_iff (c : UInt8) :
    (c ≠ 0 ∧ (!isascii c ∨ !isspace c)) ↔ ¬ (c = 0 ∨ isspace c = true) := by
  have ascii : isspace c = true → isascii c = true := by
    simp only [isspace, isascii, Bool.or_eq_true, Bool.and_eq_true, decide_eq_true_eq,
      UInt8.le_iff_toNat_le, UInt8.lt_iff_toNat_lt]
    rintro (rfl | ⟨_, below⟩)
    · decide
    · exact Nat.lt_of_le_of_lt below (by decide)
  cases space : isspace c with
  | false => simp
  | true => simp [ascii space]

/-- A string is accepted if its pieces, cut to 32 bits, are in their places. -/
theorem aton_eq (cp : List UInt8) :
    ipv4AddrAton cp = (pieces 3 cp).bind fun split =>
      if Ends split.2.rest then
        (places ((split.1 ++ [split.2]).map fun piece => piece.number % 2 ^ 32)).map fun address =>
          htonLong (UInt32.ofNat address)
      else none := by
  rw [ipv4AddrAton, scanParts_eq]
  cases cut : pieces 3 cp with
  | none => rfl
  | some split =>
      have few := pieces_length cut
      have trailing := trailing_iff (deref split.2.rest)
      have numbers : (split.1 ++ [split.2]).map (fun piece => piece.number % 2 ^ 32) =
          split.1.map (fun piece => piece.number % 2 ^ 32) ++ [split.2.number % 2 ^ 32] :=
        List.map_append
      rw [Option.bind_some, Option.bind_some, numbers]
      by_cases small : ∀ piece ∈ split.1, piece.number % 2 ^ 32 ≤ 255
      · rw [if_pos small, Option.bind_some]
        dsimp only
        by_cases ends : Ends split.2.rest
        · have bytes : ∀ part ∈ split.1.map fun piece => UInt32.ofNat piece.number,
              part.toNat ≤ 255 := by
            intro part inside
            obtain ⟨piece, among, rfl⟩ := List.mem_map.mp inside
            rw [UInt32.toNat_ofNat']
            exact small piece among
          have few : (split.1.map fun piece => UInt32.ofNat piece.number).length ≤ 3 := by
            rw [List.length_map]
            exact few
          have values : (split.1.map fun piece => UInt32.ofNat piece.number).map UInt32.toNat =
              split.1.map fun piece => piece.number % 2 ^ 32 := by
            rw [List.map_map]
            exact List.map_congr_left fun piece _ => UInt32.toNat_ofNat'
          rw [if_neg (fun refused => trailing.mp refused ends), if_pos ends, List.nil_append,
            concoct_eq _ _ few bytes, values, UInt32.toNat_ofNat', Option.map_map]
          rfl
        · rw [if_pos (trailing.mpr ends), if_neg ends]
      · have large : ¬ ∀ part ∈ split.1.map fun piece => piece.number % 2 ^ 32, part ≤ 255 := by
          rw [List.forall_mem_map]
          exact small
        have few : (split.1.map fun piece => piece.number % 2 ^ 32).length ≤ 3 := by
          rw [List.length_map]
          exact few
        rw [if_neg small, Option.bind_none, places_large few large, Option.map_none, ite_self]

theorem aton_some_iff (cp : List UInt8) (stored : UInt32) :
    ipv4AddrAton cp = some stored ↔ ∃ split address, pieces 3 cp = some split ∧
      Ends split.2.rest ∧
      places ((split.1 ++ [split.2]).map fun piece => piece.number % 2 ^ 32) = some address ∧
      stored = htonLong (UInt32.ofNat address) := by
  rw [aton_eq, Option.bind_eq_some_iff]
  constructor
  · rintro ⟨split, cut, accepted⟩
    by_cases ends : Ends split.2.rest
    · rw [if_pos ends, Option.map_eq_some_iff] at accepted
      obtain ⟨address, placed, same⟩ := accepted
      exact ⟨split, address, cut, ends, placed, same.symm⟩
    · rw [if_neg ends] at accepted
      exact absurd accepted (by simp)
  · rintro ⟨split, address, cut, ends, placed, same⟩
    refine ⟨split, cut, ?_⟩
    rw [if_pos ends, placed, same]
    rfl

/-! Numbers and pieces. -/

/-- What can stand behind a number: no digit of any base and no `x`. -/
structure Stops (rest : List UInt8) : Prop where
  digit : isxdigit (deref rest) = false
  mark : deref rest ≠ 'x'.toUInt8 ∧ deref rest ≠ 'X'.toUInt8

theorem stops_dot (rest : List UInt8) : Stops ('.'.toUInt8 :: rest) :=
  ⟨rfl, fun same => absurd same (by decide : '.'.toUInt8 ≠ 'x'.toUInt8),
    fun same => absurd same (by decide : '.'.toUInt8 ≠ 'X'.toUInt8)⟩

theorem stops_of_ends {rest : List UInt8} (ends : Ends rest) : Stops rest := by
  have small : (deref rest).toNat ≤ 32 := by
    rcases ends with nul | space
    · rw [nul]
      decide
    · simp only [isspace, Bool.or_eq_true, Bool.and_eq_true, decide_eq_true_eq,
        UInt8.le_iff_toNat_le] at space
      rcases space with blank | ⟨_, below⟩
      · rw [blank]
        decide
      · exact Nat.le_trans below (by decide)
  have before (c : UInt8) (above : 32 < c.toNat) : ¬ c ≤ deref rest := by
    rw [UInt8.le_iff_toNat_le]
    omega
  refine ⟨?_, ?_, ?_⟩
  · simp only [isxdigit, isdigit, decide_eq_false (before _ (by decide : 32 < '0'.toUInt8.toNat)),
      decide_eq_false (before _ (by decide : 32 < 'A'.toUInt8.toNat)),
      decide_eq_false (before _ (by decide : 32 < 'a'.toUInt8.toNat)), Bool.false_and,
      Bool.or_false]
  · exact fun same => before _ (by decide : 32 < 'x'.toUInt8.toNat) (same ▸ UInt8.le_refl _)
  · exact fun same => before _ (by decide : 32 < 'X'.toUInt8.toNat) (same ▸ UInt8.le_refl _)

theorem isxdigit_of_digit {c : UInt8} (digit : isdigit c = true) : isxdigit c = true := by
  rw [isxdigit, digit, Bool.true_or, Bool.true_or]

theorem not_digit {c : UInt8} (other : isxdigit c = false) : isdigit c = false := by
  simp only [isxdigit, Bool.or_eq_false_iff] at other
  exact other.1.1

theorem ascii_of_xdigit {c : UInt8} (digit : isxdigit c = true) : isascii c = true := by
  have below (top : UInt8) (small : top.toNat < 128) (under : c ≤ top) : isascii c = true :=
    decide_eq_true (UInt8.lt_iff_toNat_lt.mpr
      (Nat.lt_of_le_of_lt (UInt8.le_iff_toNat_le.mp under) small))
  simp only [isxdigit, isdigit, Bool.or_eq_true, Bool.and_eq_true, decide_eq_true_eq] at digit
  rcases digit with (⟨_, under⟩ | ⟨_, under⟩) | ⟨_, under⟩
  · exact below _ (by decide) under
  · exact below _ (by decide) under
  · exact below _ (by decide) under

theorem ofBase_hex (c : UInt8) : ofBase 16 c = isxdigit c := by
  have sixteen : decide ((16 : UInt32) = 16) = true := rfl
  rw [ofBase, sixteen, Bool.true_and]
  cases hex : isxdigit c with
  | true => rw [ascii_of_xdigit hex, Bool.true_and, Bool.true_and, Bool.or_true]
  | false =>
      rw [not_digit hex, Bool.and_false, Bool.or_self]

theorem ofBase_other {base : UInt32} (other : base ≠ 16) (c : UInt8) :
    ofBase base c = isdigit c := by
  rw [ofBase, decide_eq_false other, Bool.false_and, Bool.false_and, Bool.or_false]
  cases digit : isdigit c with
  | true => rw [ascii_of_xdigit (isxdigit_of_digit digit), Bool.true_and]
  | false => exact Bool.and_false _

/-- Behind a number every base stops. -/
theorem stops_taken {rest : List UInt8} (stops : Stops rest) (base : UInt32) :
    ∀ c ∈ rest.head?, ofBase base c = false := by
  intro c first
  have same : deref rest = c := by
    rw [deref, List.headD_eq_head?_getD, Option.mem_def.mp first]
    rfl
  have hex := same ▸ stops.digit
  by_cases sixteen : base = 16
  · rw [sixteen, ofBase_hex, hex]
  · rw [ofBase_other sixteen, not_digit hex]

/-- The digits behind the base are the piece. -/
theorem piece_of_base {cp digits rest : List UInt8} {base : UInt32}
    (start : scanBase cp = (base, digits ++ rest)) (all : ∀ c ∈ digits, ofBase base c = true)
    (stops : Stops rest) : piece cp = ⟨base, digits, rest⟩ := by
  have taken := munch all (stops_taken stops base)
  rw [piece, start, taken.1, taken.2]

theorem deref_append {digits : List UInt8} (some_digits : digits ≠ []) (rest : List UInt8) :
    deref (digits ++ rest) = deref digits := by
  cases digits with
  | nil => exact absurd rfl some_digits
  | cons c digits => rfl

theorem deref_mem {digits : List UInt8} (some_digits : digits ≠ []) : deref digits ∈ digits := by
  cases digits with
  | nil => exact absurd rfl some_digits
  | cons c digits => exact List.mem_cons_self

theorem digit_unmarked {c : UInt8} (digit : isdigit c = true) :
    ¬ (c = 'x'.toUInt8 ∨ c = 'X'.toUInt8) := by
  rintro (rfl | rfl)
  · exact absurd digit (by decide)
  · exact absurd digit (by decide)

theorem scanBase_decimal {cp : List UInt8} (leading : deref cp ≠ '0'.toUInt8) :
    scanBase cp = (10, cp) := if_neg leading

theorem scanBase_octal {cp : List UInt8}
    (unmarked : ¬ (deref cp = 'x'.toUInt8 ∨ deref cp = 'X'.toUInt8)) :
    scanBase ('0'.toUInt8 :: cp) = (8, cp) := if_neg unmarked

theorem scanBase_hex {x : UInt8} (cp : List UInt8) (mark : x = 'x'.toUInt8 ∨ x = 'X'.toUInt8) :
    scanBase ('0'.toUInt8 :: x :: cp) = (16, cp) := if_pos mark

theorem numeral_piece {text rest : List UInt8} {val : Nat} (number : Numeral text val)
    (stops : Stops rest) :
    (piece (text ++ rest)).rest = rest ∧ (piece (text ++ rest)).number = val ∧
      (val < 2 ^ 32 → (piece (text ++ rest)).Sound) := by
  cases number with
  | decimal _ some_digits leading all =>
      have start := scanBase_decimal ((deref_append some_digits rest).symm ▸ leading)
      have decimal : ∀ c ∈ text, ofBase 10 c = true := by
        intro c inside
        rw [ofBase_other (by decide), all c inside]
      rw [piece_of_base start decimal stops]
      have ten_ne : (10 : UInt32) ≠ 8 := by decide
      exact ⟨rfl, rfl, fun small =>
        ⟨fun _ => some_digits, fun eight => absurd eight ten_ne, small⟩⟩
  | octal digits all =>
      have unmarked : ¬ (deref (digits ++ rest) = 'x'.toUInt8 ∨
          deref (digits ++ rest) = 'X'.toUInt8) := by
        by_cases none : digits = []
        · rw [none]
          exact fun either => either.elim stops.mark.1 stops.mark.2
        · rw [deref_append none]
          exact digit_unmarked (all _ (deref_mem none)).1
      have octal : ∀ c ∈ digits, ofBase 8 c = true := by
        intro c inside
        rw [ofBase_other (by decide), (all c inside).1]
      rw [List.cons_append, piece_of_base (scanBase_octal unmarked) octal stops]
      exact ⟨rfl, rfl, fun small =>
        ⟨fun other => absurd rfl other, fun _ c inside => (all c inside).2, small⟩⟩
  | hex x digits mark some_digits all =>
      have hex : ∀ c ∈ digits, ofBase 16 c = true := by
        intro c inside
        rw [ofBase_hex, all c inside]
      rw [List.cons_append, List.cons_append, piece_of_base (scanBase_hex _ mark) hex stops]
      have sixteen_ne : (16 : UInt32) ≠ 8 := by decide
      exact ⟨rfl, rfl, fun small =>
        ⟨fun _ => some_digits, fun eight => absurd eight sixteen_ne, small⟩⟩

/-- A string is the base mark, the digits of the piece and what is behind it. -/
theorem piece_cut (cp : List UInt8) :
    (scanBase cp).2 = (piece cp).digits ++ (piece cp).rest :=
  (List.takeWhile_append_dropWhile).symm

theorem piece_digits (cp : List UInt8) :
    ∀ c ∈ (piece cp).digits, ofBase (piece cp).base c = true :=
  fun _ inside => List.mem_takeWhile_imp inside

theorem scanBase_cases (cp : List UInt8) :
    (deref cp ≠ '0'.toUInt8 ∧ scanBase cp = (10, cp)) ∨
      (∃ tail, cp = '0'.toUInt8 :: tail ∧ scanBase cp = (8, tail)) ∨
        ∃ x tail, (x = 'x'.toUInt8 ∨ x = 'X'.toUInt8) ∧ cp = '0'.toUInt8 :: x :: tail ∧
          scanBase cp = (16, tail) := by
  by_cases leading : deref cp = '0'.toUInt8
  · cases cp with
    | nil => exact absurd leading (by decide)
    | cons c tail =>
        have zero : c = '0'.toUInt8 := leading
        subst zero
        by_cases mark : deref tail = 'x'.toUInt8 ∨ deref tail = 'X'.toUInt8
        · cases tail with
          | nil => exact absurd mark (by decide)
          | cons x tail => exact .inr (.inr ⟨x, tail, mark, rfl, scanBase_hex tail mark⟩)
        · exact .inr (.inl ⟨tail, rfl, scanBase_octal mark⟩)
  · exact .inl ⟨leading, scanBase_decimal leading⟩

theorem sound_numeral {cp : List UInt8} (sound : (piece cp).Sound) :
    ∃ text, cp = text ++ (piece cp).rest ∧ Numeral text (piece cp).number := by
  have cut := piece_cut cp
  have all := piece_digits cp
  rcases scanBase_cases cp with ⟨leading, start⟩ | ⟨tail, whole, start⟩ | ⟨x, tail, mark, whole, start⟩
  · have base : (piece cp).base = 10 := congrArg Prod.fst start
    have nonempty := sound.someDigits (by rw [base]; decide)
    rw [start] at cut
    rw [base] at all
    refine ⟨(piece cp).digits, cut, ?_⟩
    rw [Piece.number, base]
    refine .decimal _ nonempty ?_ fun c inside => ?_
    · rw [← deref_append nonempty (piece cp).rest, ← cut]
      exact leading
    · rw [← ofBase_other (by decide : (10 : UInt32) ≠ 16), all c inside]
  · have base : (piece cp).base = 8 := congrArg Prod.fst start
    rw [start] at cut
    rw [base] at all
    refine ⟨'0'.toUInt8 :: (piece cp).digits, ?_, ?_⟩
    · rw [List.cons_append, ← cut, whole]
    · rw [Piece.number, base]
      refine .octal _ fun c inside => ⟨?_, sound.octal base c inside⟩
      rw [← ofBase_other (by decide : (8 : UInt32) ≠ 16), all c inside]
  · have base : (piece cp).base = 16 := congrArg Prod.fst start
    have nonempty := sound.someDigits (by rw [base]; decide)
    rw [start] at cut
    rw [base] at all
    refine ⟨'0'.toUInt8 :: x :: (piece cp).digits, ?_, ?_⟩
    · rw [List.cons_append, List.cons_append, ← cut, whole]
    · rw [Piece.number, base]
      refine .hex x _ mark nonempty fun c inside => ?_
      rw [← ofBase_hex, all c inside]

/-- The pieces of a string that begins with dotted numbers are these numbers. -/
theorem dotted_pieces {text rest : List UInt8} {vals : List Nat} (dotted : Dotted text vals)
    (ends : Ends rest) (left : Nat) (few : vals.length ≤ left + 1) :
    ∃ split, pieces left (text ++ rest) = some split ∧ split.2.rest = rest ∧
      (split.1 ++ [split.2]).map Piece.number = vals ∧
      ∀ piece ∈ split.1 ++ [split.2], piece.number < 2 ^ 32 → piece.Sound := by
  have undotted : deref rest ≠ '.'.toUInt8 := by
    rcases ends with nul | space
    · rw [nul]
      decide
    · intro dot
      rw [dot] at space
      exact absurd space (by decide)
  induction dotted generalizing left with
  | @one text val number =>
      obtain ⟨behind, same, sound⟩ := numeral_piece number (stops_of_ends ends)
      have single : pieces left (text ++ rest) = some ([], piece (text ++ rest)) := by
        rw [pieces.eq_def]
        exact if_neg (behind.symm ▸ undotted)
      refine ⟨_, single, behind, congrArg (fun val => [val]) same, ?_⟩
      intro piece inside small
      rw [List.mem_singleton.mp inside] at small ⊢
      exact sound (same ▸ small)
  | @more text tail val vals number others ih =>
      cases left with
      | zero =>
          have nonempty : vals ≠ [] := by
            cases others with
            | one number => exact List.cons_ne_nil _ _
            | more number others => exact List.cons_ne_nil _ _
          exact absurd (List.length_eq_zero_iff.mp (Nat.le_zero.mp (Nat.le_of_succ_le_succ few)))
            nonempty
      | succ left =>
          obtain ⟨behind, same, sound⟩ := numeral_piece number (stops_dot (tail ++ rest))
          obtain ⟨split, cut, last, numbers, sounds⟩ := ih left (Nat.le_of_succ_le_succ few)
          have whole : text ++ '.'.toUInt8 :: tail ++ rest =
              text ++ '.'.toUInt8 :: (tail ++ rest) := List.append_assoc _ _ _
          have dot : deref (piece (text ++ '.'.toUInt8 :: (tail ++ rest))).rest = '.'.toUInt8 := by
            rw [behind]
            rfl
          have next : pieces (left + 1) (text ++ '.'.toUInt8 :: tail ++ rest) =
              some (piece (text ++ '.'.toUInt8 :: (tail ++ rest)) :: split.1, split.2) := by
            rw [whole, pieces, if_pos dot, behind, List.tail_cons, cut]
            rfl
          refine ⟨_, next, last, ?_, ?_⟩
          · rw [List.cons_append, List.map_cons, same, numbers]
          · intro piece inside small
            rcases List.mem_cons.mp inside with rfl | inside
            · exact sound (same ▸ small)
            · exact sounds piece inside small

theorem pieces_dotted {left : Nat} {cp : List UInt8} {split : List Piece × Piece}
    (cut : pieces left cp = some split) (sound : ∀ piece ∈ split.1 ++ [split.2], piece.Sound) :
    ∃ text, cp = text ++ split.2.rest ∧
      Dotted text ((split.1 ++ [split.2]).map Piece.number) := by
  induction left generalizing cp split with
  | zero =>
      rcases pieces_cases cut with rfl | ⟨_, _, more, _⟩
      · obtain ⟨text, whole, number⟩ := sound_numeral (sound _ List.mem_cons_self)
        exact ⟨text, whole, .one number⟩
      · cases more
  | succ left ih =>
      rcases pieces_cases cut with rfl | ⟨_, others, more, dot, cut, rfl⟩
      · obtain ⟨text, whole, number⟩ := sound_numeral (sound _ List.mem_cons_self)
        exact ⟨text, whole, .one number⟩
      · cases more
        obtain ⟨text, whole, number⟩ := sound_numeral (sound _ List.mem_cons_self)
        obtain ⟨tail, behind, dotted⟩ :=
          ih cut fun piece inside => sound piece (List.mem_cons_of_mem _ inside)
        refine ⟨text ++ '.'.toUInt8 :: tail, ?_, .more number dotted⟩
        cases after : (piece cp).rest with
        | nil =>
            rw [after] at dot
            exact absurd dot (by decide)
        | cons c rest =>
            rw [after] at dot behind whole
            have first : c = '.'.toUInt8 := dot
            rw [List.tail_cons] at behind
            rw [List.append_assoc, List.cons_append, ← behind, ← first, ← whole]

theorem places_small {vals : List Nat} {address : Nat} (placed : places vals = some address) :
    vals.length ≤ 4 ∧ ∀ val ∈ vals, val < 2 ^ 32 := by
  match vals with
  | [] => exact absurd placed (by simp [places])
  | [a] =>
      simp only [places, Option.ite_none_right_eq_some] at placed
      refine ⟨by simp, ?_⟩
      simp only [List.mem_singleton, forall_eq]
      exact placed.1
  | [a, b] =>
      simp only [places, Option.ite_none_right_eq_some] at placed
      refine ⟨by simp, ?_⟩
      simp only [List.forall_mem_cons, List.mem_singleton, forall_eq]
      omega
  | [a, b, c] =>
      simp only [places, Option.ite_none_right_eq_some] at placed
      refine ⟨by simp, ?_⟩
      simp only [List.forall_mem_cons, List.mem_singleton, forall_eq]
      omega
  | [a, b, c, d] =>
      simp only [places, Option.ite_none_right_eq_some] at placed
      refine ⟨by simp, ?_⟩
      simp only [List.forall_mem_cons, List.mem_singleton, forall_eq]
      omega
  | _ :: _ :: _ :: _ :: _ :: _ => exact absurd placed (by simp [places])

/-- An address falls into sound pieces in their places. -/
theorem address_pieces {cp : List UInt8} {address : Nat} (addressed : Address cp address) :
    ∃ split, pieces 3 cp = some split ∧ Ends split.2.rest ∧
      places ((split.1 ++ [split.2]).map Piece.number) = some address ∧
      ∀ piece ∈ split.1 ++ [split.2], piece.Sound := by
  obtain ⟨text, rest, vals, rfl, ends, dotted, placed⟩ := addressed
  obtain ⟨few, small⟩ := places_small placed
  obtain ⟨split, cut, last, numbers, sounds⟩ := dotted_pieces dotted ends 3 few
  refine ⟨split, cut, last ▸ ends, numbers ▸ placed, fun piece inside => ?_⟩
  exact sounds piece inside (small _ (numbers ▸ List.mem_map_of_mem inside))

/-- Sound pieces are not cut. -/
theorem uncut {split : List Piece} (sounds : ∀ piece ∈ split, piece.Sound) :
    split.map (fun piece => piece.number % 2 ^ 32) = split.map Piece.number :=
  List.map_congr_left fun piece inside => Nat.mod_eq_of_lt (sounds piece inside).small

theorem pieces_address {cp : List UInt8} {split : List Piece × Piece} {address : Nat}
    (cut : pieces 3 cp = some split) (ends : Ends split.2.rest)
    (placed : places ((split.1 ++ [split.2]).map Piece.number) = some address)
    (sounds : ∀ piece ∈ split.1 ++ [split.2], piece.Sound) : Address cp address := by
  obtain ⟨text, whole, dotted⟩ := pieces_dotted cut sounds
  exact ⟨text, split.2.rest, _, whole, ends, dotted, placed⟩

theorem address_accepted {cp : List UInt8} {address : Nat} (addressed : Address cp address) :
    ipv4AddrAton cp = some (htonLong (UInt32.ofNat address)) := by
  obtain ⟨split, cut, ends, placed, sounds⟩ := address_pieces addressed
  rw [← uncut sounds] at placed
  exact (aton_some_iff cp _).mpr ⟨split, address, cut, ends, placed, rfl⟩

theorem agrees_wellRead {cp : List UInt8} (agrees : Agrees cp) : WellRead cp := by
  rintro split cut ⟨ends, fits⟩
  obtain ⟨address, placed⟩ := Option.isSome_iff_exists.mp fits
  have accepted := (aton_some_iff cp _).mpr ⟨split, address, cut, ends, placed, rfl⟩
  obtain ⟨named, addressed, _⟩ := (agrees _).mp accepted
  obtain ⟨same, again, _, _, sounds⟩ := address_pieces addressed
  rw [cut, Option.some.injEq] at again
  exact again ▸ sounds

theorem wellRead_agrees {cp : List UInt8} (wellRead : WellRead cp) : Agrees cp := by
  intro stored
  constructor
  · intro accepted
    obtain ⟨split, address, cut, ends, placed, rfl⟩ := (aton_some_iff cp stored).mp accepted
    have sounds := wellRead split cut ⟨ends, Option.isSome_iff_exists.mpr ⟨address, placed⟩⟩
    rw [uncut sounds] at placed
    exact ⟨address, pieces_address cut ends placed sounds, rfl⟩
  · rintro ⟨address, addressed, rfl⟩
    exact address_accepted addressed

/-- The parser takes its grammar exactly on the strings that are well read. -/
theorem aton_grammar_iff (cp : List UInt8) : Agrees cp ↔ WellRead cp :=
  ⟨agrees_wellRead, wellRead_agrees⟩

/-- The empty string, `1..2`, `08` and `4294967296` are accepted and are no addresses. -/
theorem aton_takes_others :
    ((ipv4AddrAton []).isSome = true ∧ ¬ Agrees []) ∧
    ((ipv4AddrAton [0x31, 0x2E, 0x2E, 0x32]).isSome = true ∧ ¬ Agrees [0x31, 0x2E, 0x2E, 0x32]) ∧
    ((ipv4AddrAton [0x30, 0x38]).isSome = true ∧ ¬ Agrees [0x30, 0x38]) ∧
    ((ipv4AddrAton [0x34, 0x32, 0x39, 0x34, 0x39, 0x36, 0x37, 0x32, 0x39, 0x36]).isSome = true ∧
      ¬ Agrees [0x34, 0x32, 0x39, 0x34, 0x39, 0x36, 0x37, 0x32, 0x39, 0x36]) := by
  refine ⟨?_, ?_, ?_, ?_⟩
  · refine ⟨by decide, fun agrees => ?_⟩
    have sound := agrees_wellRead agrees ([], piece []) rfl ⟨by decide, by decide⟩ (piece []) (by simp)
    exact sound.someDigits (by decide) rfl
  · refine ⟨by decide, fun agrees => ?_⟩
    have sound := agrees_wellRead agrees
      ([piece [0x31, 0x2E, 0x2E, 0x32], piece [0x2E, 0x32]], piece [0x32]) rfl
      ⟨by decide, by decide⟩ (piece [0x2E, 0x32]) (by simp)
    exact sound.someDigits (by decide) rfl
  · refine ⟨by decide, fun agrees => ?_⟩
    have sound := agrees_wellRead agrees ([], piece [0x30, 0x38]) rfl ⟨by decide, by decide⟩
      (piece [0x30, 0x38]) (by simp)
    exact absurd (sound.octal rfl 0x38 List.mem_cons_self) (by decide)
  · refine ⟨by decide, fun agrees => ?_⟩
    have sound := agrees_wellRead agrees
      ([], piece [0x34, 0x32, 0x39, 0x34, 0x39, 0x36, 0x37, 0x32, 0x39, 0x36]) rfl
      ⟨by decide, by decide⟩ _ List.mem_cons_self
    exact absurd sound.small (by decide)

end EspHosted.Ipv4Parser
