import EspHosted.Ipv4Parser
import Mathlib.Tactic.IntervalCases

/-!
`ipv4_addr_ntoa` on a little-endian host, and what `ipv4_addr_aton` makes of its text. Every
character is checked against `buflen` before it is written, the last dot becomes the NUL. The
bytes of the swapped word are walked from its low address on, so the text begins with the high
byte of the address; an address in network order has its first byte there last.
-/

namespace EspHosted.Ipv4Text
open Ipv4Parser Numerals

/-- The buffer, and where it was written; `stopped` when NULL is returned. -/
structure Text where
  buf : List UInt8
  rp : Nat := 0
  len : Int := 0
  writes : List Int := []
  stopped : Bool := false

/-- The test of `len++` and `*rp++ = c`. -/
def put (buflen : Int) (text : Text) (c : UInt8) : Text :=
  if text.stopped then text
  else if text.len ≥ buflen then { text with len := text.len + 1, stopped := true }
  else
    { text with
      buf := text.buf.set text.rp c, rp := text.rp + 1, len := text.len + 1,
      writes := text.writes ++ [(text.rp : Int)] }

/-- What the `do` loop leaves in `inv`, which has room for three. -/
def invDigits : Nat → UInt8 → List UInt8
  | 0, _ => []
  | room + 1, ap =>
      ('0'.toUInt8 + ap % 10) :: if ap / 10 ≠ 0 then invDigits room (ap / 10) else []

/-- A round of the loop over the bytes. -/
def putByte (buflen : Int) (text : Text) (ap : UInt8) : Text :=
  put buflen ((invDigits 3 ap).reverse.foldl (put buflen) text) '.'.toUInt8

/-- The bytes of a word from its low address on. -/
def bytesOf (x : UInt32) : List UInt8 :=
  [x.toUInt8, (x >>> 8).toUInt8, (x >>> 16).toUInt8, (x >>> 24).toUInt8]

/-- `*--rp = 0`. -/
def terminate (text : Text) : Text :=
  if text.stopped then text
  else
    { text with
      buf := text.buf.set (text.rp - 1) 0, rp := text.rp - 1,
      writes := text.writes ++ [(text.rp : Int) - 1] }

def ipv4AddrNtoa (addr : UInt32) (buf : List UInt8) (buflen : Int) : Text :=
  terminate ((bytesOf (htonLong addr)).foldl (putByte buflen) { buf := buf })

/-- The text reads back as the address. -/
def RoundTrips (x : UInt32) (buf : List UInt8) (buflen : Int) : Prop :=
  (ipv4AddrNtoa x buf buflen).stopped = false ∧
    ipv4AddrAton (ipv4AddrNtoa x buf buflen).buf = some x

/-! The characters. -/

/-- All characters of the text, with the dot that becomes the NUL. -/
def dotted (bytes : List UInt8) : List UInt8 :=
  bytes.flatMap fun ap => (invDigits 3 ap).reverse ++ ['.'.toUInt8]

theorem ntoa_eq (addr : UInt32) (buf : List UInt8) (buflen : Int) :
    ipv4AddrNtoa addr buf buflen =
      terminate ((dotted (bytesOf (htonLong addr))).foldl (put buflen) { buf := buf }) := by
  have rounds (bytes : List UInt8) (text : Text) :
      bytes.foldl (putByte buflen) text = (dotted bytes).foldl (put buflen) text := by
    induction bytes generalizing text with
    | nil => rfl
    | cons ap bytes ih =>
        have next : dotted (ap :: bytes) =
            ((invDigits 3 ap).reverse ++ ['.'.toUInt8]) ++ dotted bytes := List.flatMap_cons
        rw [List.foldl_cons, ih, next, List.foldl_append, List.foldl_append]
        rfl
  rw [ipv4AddrNtoa, rounds]

/-- The bytes come in the other order. -/
theorem bytesOf_htonLong (x : UInt32) : bytesOf (htonLong x) = (bytesOf x).reverse := by
  have swapped (byte other : UInt32)
      (bits : ∀ i, (h : i < 8) → byte.toUInt8.toBitVec.getLsbD i = other.toUInt8.toBitVec.getLsbD i) :
      byte.toUInt8 = other.toUInt8 :=
    UInt8.toBitVec_inj.mp (BitVec.eq_of_getLsbD_eq bits)
  have first : (htonLong x).toUInt8 = (x >>> 24).toUInt8 := by
    refine swapped _ _ fun i inside => ?_
    interval_cases i <;> simp [htonLong]
  have second : (htonLong x >>> 8).toUInt8 = (x >>> 16).toUInt8 := by
    refine swapped _ _ fun i inside => ?_
    interval_cases i <;> simp [htonLong]
  have third : (htonLong x >>> 16).toUInt8 = (x >>> 8).toUInt8 := by
    refine swapped _ _ fun i inside => ?_
    interval_cases i <;> simp [htonLong]
  have fourth : (htonLong x >>> 24).toUInt8 = x.toUInt8 := by
    refine swapped _ _ fun i inside => ?_
    interval_cases i <;> simp [htonLong]
  rw [bytesOf, bytesOf, first, second, third, fourth]
  rfl

theorem digit_char (d : UInt8) (small : d.toNat < 10) :
    isdigit ('0'.toUInt8 + d) = true ∧ digitValue ('0'.toUInt8 + d) = d.toNat := by
  have sum : ('0'.toUInt8 + d).toNat = 48 + d.toNat := by
    rw [UInt8.toNat_add]
    show (48 + d.toNat) % 256 = _
    omega
  have digit : isdigit ('0'.toUInt8 + d) = true := by
    simp only [isdigit, Bool.and_eq_true, decide_eq_true_eq, UInt8.le_iff_toNat_le, sum]
    show 48 ≤ 48 + d.toNat ∧ 48 + d.toNat ≤ 57
    omega
  refine ⟨digit, ?_⟩
  rw [digitValue, if_pos digit, sum]
  show 48 + d.toNat - 48 = _
  omega

/-- The digits are those of the number, without a leading zero. -/
structure Written (digits : List UInt8) (number : Nat) : Prop where
  digit : ∀ c ∈ digits, isdigit c = true
  nonempty : digits ≠ []
  leading : 0 < number → deref digits ≠ '0'.toUInt8
  same : value digitValue 10 digits = number

theorem invDigits_written (room : Nat) (ap : UInt8) (fits : ap.toNat < 10 ^ (room + 1)) :
    Written (invDigits (room + 1) ap).reverse ap.toNat := by
  have rem : (ap % 10).toNat = ap.toNat % 10 := UInt8.toNat_mod ap 10
  have quotient : (ap / 10).toNat = ap.toNat / 10 := UInt8.toNat_div ap 10
  obtain ⟨digit, value⟩ := digit_char (ap % 10) (rem ▸ Nat.mod_lt _ (by decide))
  rw [rem] at value
  by_cases more : ap / 10 ≠ 0
  · have positive : 0 < ap.toNat / 10 := by
      rw [← quotient]
      exact Nat.pos_of_ne_zero fun none => more (UInt8.toNat_inj.mp none)
    cases room with
    | zero => omega
    | succ room =>
        have front := invDigits_written room (ap / 10) (by
          rw [quotient, Nat.div_lt_iff_lt_mul (by decide)]
          exact fits)
        rw [quotient] at front
        rw [invDigits, if_pos more, List.reverse_cons]
        refine ⟨?_, by simp, fun _ => ?_, ?_⟩
        · intro c inside
          rcases List.mem_append.mp inside with inside | last
          · exact front.digit c inside
          · exact List.mem_singleton.mp last ▸ digit
        · rw [deref_append front.nonempty]
          exact front.leading positive
        · rw [value_concat, front.same, value, Nat.div_add_mod']
  · have single : ap.toNat < 10 := by
      have none : (ap / 10).toNat = 0 := by
        rw [not_not.mp more]
        rfl
      omega
    rw [invDigits, if_neg more]
    refine ⟨?_, List.cons_ne_nil _ _, fun positive zero => ?_, ?_⟩
    · intro c inside
      exact List.mem_singleton.mp inside ▸ digit
    · have none : '0'.toUInt8 + ap % 10 = '0'.toUInt8 := zero
      rw [none] at value
      have zero_digit : digitValue '0'.toUInt8 = 0 := rfl
      omega
    · show 0 * 10 + digitValue ('0'.toUInt8 + ap % 10) = ap.toNat
      omega

theorem invDigits_length (room : Nat) (ap : UInt8) : (invDigits room ap).length ≤ room := by
  induction room generalizing ap with
  | zero => exact Nat.le_refl 0
  | succ room ih =>
      rw [invDigits]
      by_cases more : ap / 10 ≠ 0
      · rw [if_pos more, List.length_cons]
        exact Nat.succ_le_succ (ih (ap / 10))
      · rw [if_neg more, List.length_cons]
        exact Nat.succ_le_succ (Nat.zero_le room)

theorem written_numeral {digits : List UInt8} {number : Nat} (written : Written digits number)
    (single : number = 0 → digits = ['0'.toUInt8]) : Numeral digits number := by
  by_cases positive : 0 < number
  · rw [← written.same]
    exact .decimal digits written.nonempty (written.leading positive) written.digit
  · have none : number = 0 := by omega
    rw [single none, none]
    exact .octal [] fun c inside => absurd inside List.not_mem_nil

theorem byte_numeral (ap : UInt8) : Numeral (invDigits 3 ap).reverse ap.toNat := by
  have below := ap.toNat_lt
  refine written_numeral (invDigits_written 2 ap (by omega)) fun none => ?_
  rw [show ap = 0 from UInt8.toNat_inj.mp none]
  rfl

theorem dotted_length (bytes : List UInt8) : (dotted bytes).length ≤ 4 * bytes.length := by
  induction bytes with
  | nil => exact Nat.le_refl 0
  | cons ap bytes ih =>
      have next : dotted (ap :: bytes) =
          ((invDigits 3 ap).reverse ++ ['.'.toUInt8]) ++ dotted bytes := List.flatMap_cons
      have digits := invDigits_length 3 ap
      rw [next, List.length_append, List.length_append, List.length_reverse, List.length_cons,
        List.length_cons, List.length_nil]
      omega

/-! The writing. -/

/-- What is written lies below `buflen`; `len` counts it until the text is stopped. -/
structure Inside (buflen : Int) (text : Text) : Prop where
  writes : ∀ index ∈ text.writes, 0 ≤ index ∧ index < buflen
  counted : text.stopped = false → text.len = text.rp
  below : (text.rp : Int) ≤ max buflen 0

theorem put_cases (buflen : Int) (text : Text) (c : UInt8) :
    (text.stopped = true ∧ put buflen text c = text) ∨
      (text.stopped = false ∧ buflen ≤ text.len ∧
        put buflen text c = { text with len := text.len + 1, stopped := true }) ∨
      (text.stopped = false ∧ text.len < buflen ∧
        put buflen text c =
          { text with
            buf := text.buf.set text.rp c, rp := text.rp + 1, len := text.len + 1,
            writes := text.writes ++ [(text.rp : Int)] }) := by
  cases stopped : text.stopped with
  | true => exact .inl ⟨rfl, by rw [put, stopped, if_pos rfl]⟩
  | false =>
      by_cases full : text.len ≥ buflen
      · refine .inr (.inl ⟨rfl, full, ?_⟩)
        rw [put, stopped, if_neg Bool.false_ne_true, if_pos full]
      · refine .inr (.inr ⟨rfl, by omega, ?_⟩)
        rw [put, stopped, if_neg Bool.false_ne_true, if_neg full]

theorem inside_put {buflen : Int} {text : Text} (inside : Inside buflen text) (c : UInt8) :
    Inside buflen (put buflen text c) := by
  rcases put_cases buflen text c with ⟨_, same⟩ | ⟨_, _, same⟩ | ⟨going, room, same⟩
  · rw [same]
    exact inside
  · rw [same]
    exact ⟨inside.writes, fun going => absurd going (by simp), inside.below⟩
  · have counted := inside.counted going
    rw [same]
    refine ⟨?_, fun _ => ?_, ?_⟩
    · intro index among
      rcases List.mem_append.mp among with old | new
      · exact inside.writes index old
      · rw [List.mem_singleton.mp new]
        omega
    · exact congrArg (· + 1) counted
    · show (text.rp : Int) + 1 ≤ max buflen 0
      omega

theorem inside_puts {buflen : Int} {text : Text} (inside : Inside buflen text)
    (cs : List UInt8) : Inside buflen (cs.foldl (put buflen) text) := by
  induction cs generalizing text with
  | nil => exact inside
  | cons c cs ih => exact ih (inside_put inside c)

theorem stopped_puts {buflen : Int} (cs : List UInt8) {text : Text} (stopped : text.stopped = true) :
    cs.foldl (put buflen) text = text := by
  induction cs with
  | nil => rfl
  | cons c cs ih =>
      have same : put buflen text c = text := by rw [put, stopped, if_pos rfl]
      rw [List.foldl_cons, same, ih]

/-- What was not stopped has written every character. -/
theorem puts_count {buflen : Int} (cs : List UInt8) (text : Text)
    (going : (cs.foldl (put buflen) text).stopped = false) :
    (cs.foldl (put buflen) text).rp = text.rp + cs.length := by
  induction cs generalizing text with
  | nil => rfl
  | cons c cs ih =>
      rw [List.foldl_cons] at going ⊢
      rw [ih _ going, List.length_cons]
      rcases put_cases buflen text c with ⟨stopped, same⟩ | ⟨_, _, same⟩ | ⟨_, _, same⟩
      · rw [same, stopped_puts cs stopped, stopped] at going
        exact absurd going (by decide)
      · rw [same, stopped_puts cs rfl] at going
        exact absurd going (by simp)
      · rw [same]
        show text.rp + 1 + cs.length = _
        omega

/-- With room for them all, the characters are written one behind the other. -/
theorem puts_whole {buflen : Int} (cs : List UInt8) (text : Text) (going : text.stopped = false)
    (counted : text.len = text.rp) (room : (text.rp : Int) + cs.length ≤ buflen)
    (whole : buflen ≤ text.buf.length) :
    (cs.foldl (put buflen) text).stopped = false ∧
      (cs.foldl (put buflen) text).buf =
        text.buf.take text.rp ++ cs ++ text.buf.drop (text.rp + cs.length) := by
  induction cs generalizing text with
  | nil => exact ⟨going, by simp⟩
  | cons c cs ih =>
      rw [List.length_cons, Nat.cast_add, Nat.cast_one] at room
      rcases put_cases buflen text c with ⟨stopped, _⟩ | ⟨_, full, _⟩ | ⟨_, _, same⟩
      · rw [going] at stopped
        exact absurd stopped (by decide)
      · omega
      · have inside : text.rp < text.buf.length := by omega
        rw [List.foldl_cons, same]
        obtain ⟨still, written⟩ := ih { text with
            buf := text.buf.set text.rp c, rp := text.rp + 1, len := text.len + 1,
            writes := text.writes ++ [(text.rp : Int)] } going (congrArg (· + 1) counted) (by
          show ((text.rp + 1 : Nat) : Int) + cs.length ≤ buflen
          omega) (by
          rw [List.length_set]
          exact whole)
        refine ⟨still, written.trans ?_⟩
        have front : (text.buf.set text.rp c).take (text.rp + 1) = text.buf.take text.rp ++ [c] := by
          rw [List.take_add_one, List.getElem?_set_self inside]
          rw [List.take_set_of_le (Nat.le_refl _)]
          rfl
        have behind : (text.buf.set text.rp c).drop (text.rp + 1 + cs.length) =
            text.buf.drop (text.rp + 1 + cs.length) :=
          List.drop_set_of_lt (by omega)
        rw [front, behind, List.length_cons]
        simp [Nat.add_assoc, Nat.add_comm 1]

theorem inside_terminate {buflen : Int} {text : Text} (inside : Inside buflen text)
    (some_written : text.stopped = false → 0 < text.rp) :
    ∀ index ∈ (terminate text).writes, 0 ≤ index ∧ index < buflen := by
  intro index among
  cases stopped : text.stopped with
  | true =>
      rw [terminate, if_pos stopped] at among
      exact inside.writes index among
  | false =>
      have below := inside.below
      have positive := some_written stopped
      rw [terminate, if_neg (by simp [stopped])] at among
      rcases List.mem_append.mp among with old | new
      · exact inside.writes index old
      · rw [List.mem_singleton.mp new]
        omega

theorem terminate_last {text : Text} {front rest : List UInt8} {c : UInt8}
    (going : text.stopped = false) (written : text.buf = front ++ c :: rest)
    (count : text.rp = front.length + 1) :
    (terminate text).stopped = false ∧ (terminate text).buf = front ++ 0 :: rest := by
  have last : text.rp - 1 = front.length := by omega
  rw [terminate, if_neg (by rw [going]; decide)]
  refine ⟨going, ?_⟩
  show text.buf.set (text.rp - 1) 0 = _
  rw [written, last, List.set_append_right _ _ (Nat.le_refl _), Nat.sub_self, List.set_cons_zero]

/-! The four bytes. -/

/-- The text of four bytes, without the last dot. -/
def fourBytes (a b c d : UInt8) : List UInt8 :=
  (invDigits 3 a).reverse ++ '.'.toUInt8 :: ((invDigits 3 b).reverse ++ '.'.toUInt8 ::
    ((invDigits 3 c).reverse ++ '.'.toUInt8 :: (invDigits 3 d).reverse))

theorem dotted_four (a b c d : UInt8) : dotted [a, b, c, d] = fourBytes a b c d ++ ['.'.toUInt8] := by
  simp [dotted, fourBytes]

theorem fourBytes_address (a b c d : UInt8) (rest : List UInt8) :
    Address (fourBytes a b c d ++ 0 :: rest)
      (a.toNat * 2 ^ 24 + b.toNat * 2 ^ 16 + c.toNat * 2 ^ 8 + d.toNat) :=
  ⟨fourBytes a b c d, 0 :: rest, [a.toNat, b.toNat, c.toNat, d.toNat], rfl, .inl rfl,
    .more (byte_numeral a) (.more (byte_numeral b) (.more (byte_numeral c) (.one (byte_numeral d)))),
    if_pos ⟨a.toNat_lt, b.toNat_lt, c.toNat_lt, d.toNat_lt⟩⟩

theorem bytesOf_sum (x : UInt32) :
    (x >>> 24).toUInt8.toNat * 2 ^ 24 + (x >>> 16).toUInt8.toNat * 2 ^ 16 +
      (x >>> 8).toUInt8.toNat * 2 ^ 8 + x.toUInt8.toNat = x.toNat := by
  have below : x.toNat < 2 ^ 32 := x.toNat_lt
  have shifted (shift : UInt32) (small : shift.toNat < 32) :
      (x >>> shift).toUInt8.toNat = x.toNat / 2 ^ shift.toNat % 256 := by
    rw [UInt32.toNat_toUInt8, UInt32.toNat_shiftRight, Nat.mod_eq_of_lt small,
      Nat.shiftRight_eq_div_pow]
  have high : (x >>> 24).toUInt8.toNat = x.toNat / 2 ^ 24 % 256 := shifted 24 (by decide)
  have upper : (x >>> 16).toUInt8.toNat = x.toNat / 2 ^ 16 % 256 := shifted 16 (by decide)
  have lower : (x >>> 8).toUInt8.toNat = x.toNat / 2 ^ 8 % 256 := shifted 8 (by decide)
  have low : x.toUInt8.toNat = x.toNat % 256 := UInt32.toNat_toUInt8 x
  rw [high, upper, lower, low]
  omega

theorem ntoa_inside (x : UInt32) (buf : List UInt8) (buflen : Int) :
    ∀ index ∈ (ipv4AddrNtoa x buf buflen).writes, 0 ≤ index ∧ index < buflen := by
  have start : Inside buflen { buf := buf } :=
    ⟨fun _ none => absurd none List.not_mem_nil, fun _ => rfl, Int.le_max_right _ _⟩
  rw [ntoa_eq]
  refine inside_terminate (inside_puts start _) fun going => ?_
  rw [puts_count _ _ going, bytesOf, dotted_four, List.length_append, List.length_singleton]
  exact Nat.succ_pos _

/-- With room for 16 the bytes are written, the high one of the address first. -/
theorem ntoa_text (x : UInt32) (buf : List UInt8) (buflen : Int) (room : 16 ≤ buflen)
    (whole : buflen ≤ buf.length) :
    (ipv4AddrNtoa x buf buflen).stopped = false ∧
      ∃ rest, (ipv4AddrNtoa x buf buflen).buf =
        fourBytes (x >>> 24).toUInt8 (x >>> 16).toUInt8 (x >>> 8).toUInt8 x.toUInt8 ++ 0 :: rest := by
  have bytes : bytesOf (htonLong x) =
      [(x >>> 24).toUInt8, (x >>> 16).toUInt8, (x >>> 8).toUInt8, x.toUInt8] :=
    bytesOf_htonLong x
  have length := dotted_length (bytesOf (htonLong x))
  have four : (bytesOf (htonLong x)).length = 4 := rfl
  obtain ⟨going, written⟩ := puts_whole (dotted (bytesOf (htonLong x))) { buf := buf } rfl rfl
    (by
      show ((0 : Nat) : Int) + _ ≤ buflen
      omega) whole
  have count := puts_count _ _ going
  have text : dotted (bytesOf (htonLong x)) =
      fourBytes (x >>> 24).toUInt8 (x >>> 16).toUInt8 (x >>> 8).toUInt8 x.toUInt8 ++
        ['.'.toUInt8] := by
    rw [bytes, dotted_four]
  rw [ntoa_eq]
  obtain ⟨still, ended⟩ := terminate_last going (written.trans (by
    rw [List.take_zero, List.nil_append, text, List.append_assoc, List.singleton_append]))
    (count.trans (by
      rw [text, List.length_append, List.length_singleton]
      exact Nat.zero_add _))
  exact ⟨still, _, ended⟩

/-- The text of an address reads back as the address in the other byte order. -/
theorem ntoa_aton (x : UInt32) (buf : List UInt8) (buflen : Int) (room : 16 ≤ buflen)
    (whole : buflen ≤ buf.length) :
    (ipv4AddrNtoa x buf buflen).stopped = false ∧
      ipv4AddrAton (ipv4AddrNtoa x buf buflen).buf = some (htonLong x) := by
  obtain ⟨going, rest, text⟩ := ntoa_text x buf buflen room whole
  refine ⟨going, ?_⟩
  rw [text, address_accepted (fourBytes_address _ _ _ _ rest), bytesOf_sum, UInt32.ofNat_toNat]

/-- Nothing is written outside; the round trip is kept by the addresses that are the same in
both byte orders. -/
theorem ntoa_round_trip_iff (x : UInt32) (buf : List UInt8) (buflen : Int)
    (whole : buflen ≤ buf.length) :
    ((∀ index ∈ (ipv4AddrNtoa x buf buflen).writes, 0 ≤ index ∧ index < buflen) ∧
      (16 ≤ buflen → RoundTrips x buf buflen)) ↔ (16 ≤ buflen → htonLong x = x) := by
  constructor
  · rintro ⟨_, trips⟩ room
    have stored := (ntoa_aton x buf buflen room whole).2
    rw [(trips room).2, Option.some.injEq] at stored
    exact stored.symm
  · intro same
    refine ⟨ntoa_inside x buf buflen, fun room => ?_⟩
    obtain ⟨going, stored⟩ := ntoa_aton x buf buflen room whole
    exact ⟨going, stored.trans (congrArg some (same room))⟩

theorem ntoa_round_trip_iff_symmetric :
    (∀ index ∈ (ipv4AddrNtoa 0x0A01010A (List.replicate 16 0) 16).writes,
        0 ≤ index ∧ index < 16) ∧
      RoundTrips 0x0A01010A (List.replicate 16 0) 16 := by
  have kept := (ntoa_round_trip_iff 0x0A01010A (List.replicate 16 0) 16 (by decide)).mpr
    fun _ => by decide
  exact ⟨kept.1, kept.2 (by decide)⟩

/-- 192.168.1.2 in network order is written as `2.1.168.192`, which reads back as another
address. -/
theorem ntoa_swaps :
    (ipv4AddrNtoa 0x0201A8C0 (List.replicate 16 0) 16).buf =
        [0x32, 0x2E, 0x31, 0x2E, 0x31, 0x36, 0x38, 0x2E, 0x31, 0x39, 0x32, 0, 0, 0, 0, 0] ∧
      ipv4AddrAton (ipv4AddrNtoa 0x0201A8C0 (List.replicate 16 0) 16).buf = some 0xC0A80102 ∧
      ¬ RoundTrips 0x0201A8C0 (List.replicate 16 0) 16 := by
  have text : (ipv4AddrNtoa 0x0201A8C0 (List.replicate 16 0) 16).buf =
      [0x32, 0x2E, 0x31, 0x2E, 0x31, 0x36, 0x38, 0x2E, 0x31, 0x39, 0x32, 0, 0, 0, 0, 0] := by
    decide
  have stored : ipv4AddrAton (ipv4AddrNtoa 0x0201A8C0 (List.replicate 16 0) 16).buf =
      some 0xC0A80102 := by
    rw [text]
    decide
  refine ⟨text, stored, fun trips => ?_⟩
  rw [trips.2, Option.some.injEq] at stored
  exact absurd stored (by decide)

end EspHosted.Ipv4Text
