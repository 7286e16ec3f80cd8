import Mathlib.Algebra.Order.Floor.Semifield
import Mathlib.Data.List.DropRight
import Mathlib.Data.Rat.Floor
import MonitoringConfig.Proofs.Number.Text
/-!
# Numbers written without a power of ten

* `Decimal.read?` reads a number as it is shown: a sign, digits, a fraction and a power of ten,
  the last two of which may be missing. The zeros at the end of the digits count.
* `Decimal.plain` writes a decimal with all its digits and takes away what is needless: where the
  text has a point the zeros at its end, and the point if nothing stays behind it.
* `Promql.formatNumber_exact` : a finite number other than zero is written in an expression as the
  plain text of the decimal that is shown for it. The plain text of a decimal denotes the same
  value, has no needless zero, and belongs to that value alone.

The shortest decimal of a number does not end in a zero (`Binary64.shortest_ends`), so nothing has
to be taken away from its text.
-/

namespace MonitoringConfig

namespace Decimal

/-! ### Reading what is shown -/

/-- Reads the power of ten at the end of a number. -/
def readPower? : List Char → Option Int
  | [] => some 0
  | 'e' :: '-' :: ds =>
    if !ds.isEmpty && ds.all Char.isDigit then some (-(Nat.ofDigitChars 10 ds 0 : Int)) else none
  | 'e' :: '+' :: ds =>
    if !ds.isEmpty && ds.all Char.isDigit then some (Nat.ofDigitChars 10 ds 0) else none
  | _ => none

/-- Reads a number without its sign. -/
def readUnsigned? (negative : Bool) (cs : List Char) : Option Decimal :=
  let whole := cs.takeWhile Char.isDigit
  let (fraction, power) := match cs.dropWhile Char.isDigit with
    | '.' :: rest => (rest.takeWhile Char.isDigit, rest.dropWhile Char.isDigit)
    | rest => ([], rest)
  if whole.isEmpty then none
  else (readPower? power).map fun power =>
    ⟨negative, Nat.ofDigitChars 10 (whole ++ fraction) 0, power - fraction.length⟩

/-- Reads a number: a sign, digits, a fraction and a power of ten, of which only the digits have to
be there. -/
def read? : List Char → Option Decimal
  | '-' :: cs => readUnsigned? true cs
  | cs => readUnsigned? false cs

/-- Digits, a fraction and a power of ten are read as what they say. -/
theorem readUnsigned?_digits {whole fraction rest : List Char} {power : Int} (hne : whole ≠ [])
    (hwhole : ∀ c ∈ whole, c.isDigit = true) (hfraction : ∀ c ∈ fraction, c.isDigit = true)
    (hrest : rest = [] ∨ ∃ cs, rest = 'e' :: cs) (hpower : readPower? rest = some power)
    (negative : Bool) :
    readUnsigned? negative (whole ++ (pointed fraction ++ rest)) =
      some ⟨negative, Nat.ofDigitChars 10 (whole ++ fraction) 0, power - fraction.length⟩ := by
  have hstop : rest.takeWhile Char.isDigit = [] ∧ rest.dropWhile Char.isDigit = rest := by
    obtain rfl | ⟨cs, rfl⟩ := hrest
    · exact ⟨rfl, rfl⟩
    · exact ⟨rfl, rfl⟩
  have hempty : whole.isEmpty = false := by simpa using hne
  cases fraction with
  | nil =>
    simp only [readUnsigned?, pointed, List.isEmpty_nil, if_true, List.nil_append,
      List.takeWhile_append_of_pos hwhole, List.dropWhile_append_of_pos hwhole, hstop,
      List.append_nil, hempty, Bool.false_eq_true, if_false]
    obtain rfl | ⟨cs, rfl⟩ := hrest
    · simp [hpower]
    · simp [hpower]
  | cons c cs =>
    have hcut : ('.' :: c :: cs ++ rest).takeWhile Char.isDigit = [] ∧
        ('.' :: c :: cs ++ rest).dropWhile Char.isDigit = '.' :: (c :: cs ++ rest) := ⟨rfl, rfl⟩
    simp only [readUnsigned?, pointed, List.isEmpty_cons, Bool.false_eq_true, if_false,
      List.takeWhile_append_of_pos hwhole, List.dropWhile_append_of_pos hwhole, hcut,
      List.takeWhile_append_of_pos hfraction, List.dropWhile_append_of_pos hfraction, hstop,
      List.append_nil, hempty, hpower, Option.map_some]

/-- Digits, a fraction and a power of ten behind a sign are read as what they say. -/
theorem read?_digits (d : Decimal) {whole fraction rest : List Char} {power : Int}
    (hne : whole ≠ []) (hwhole : ∀ c ∈ whole, c.isDigit = true)
    (hfraction : ∀ c ∈ fraction, c.isDigit = true)
    (hrest : rest = [] ∨ ∃ cs, rest = 'e' :: cs) (hpower : readPower? rest = some power) :
    read? (d.signText ++ (whole ++ (pointed fraction ++ rest))) =
      some ⟨d.negative, Nat.ofDigitChars 10 (whole ++ fraction) 0, power - fraction.length⟩ := by
  rw [← readUnsigned?_digits hne hwhole hfraction hrest hpower, signText]
  cases d.negative with
  | true => rfl
  | false =>
    obtain ⟨c, cs, rfl⟩ := List.exists_cons_of_ne_nil hne
    have hc : c ≠ '-' := by
      rintro rfl
      exact absurd (hwhole '-' List.mem_cons_self) (by decide)
    simp only [Bool.false_eq_true, if_false, List.nil_append, List.cons_append]
    exact read?.eq_2 _ fun _ h => hc (List.cons.inj h).1

theorem readPower?_powerText (power : Int) : readPower? (powerText power) = some power := by
  have hdigits : ∀ c ∈ List.replicate (2 - (digitsText power.natAbs).length) '0' ++
      digitsText power.natAbs, c.isDigit = true := fun c hc => by
    obtain hc | hc := List.mem_append.1 hc
    · rw [List.eq_of_mem_replicate hc]
      rfl
    · exact isDigit_digitsText hc
  have hne : digitsText power.natAbs ≠ [] := Nat.toDigits_ne_nil
  have hall : (!(List.replicate (2 - (digitsText power.natAbs).length) '0' ++
      digitsText power.natAbs).isEmpty && (List.replicate (2 - (digitsText power.natAbs).length) '0'
        ++ digitsText power.natAbs).all Char.isDigit) = true := by
    rw [List.all_eq_true.2 hdigits]
    simp [hne]
  have hvalue : Nat.ofDigitChars 10 (List.replicate (2 - (digitsText power.natAbs).length) '0' ++
      digitsText power.natAbs) 0 = power.natAbs := by
    rw [Nat.ofDigitChars_append, Nat.ofDigitChars_replicate_zero, Nat.mul_zero,
      ofDigitChars_digitsText]
  simp only [powerText, List.cons_append]
  split
  · next hneg =>
    rw [readPower?, if_pos hall, hvalue]
    congr 1
    omega
  · next hpos =>
    rw [readPower?, if_pos hall, hvalue]
    congr 1
    omega

/-- Digits and a fraction are read as a decimal with as many places. -/
theorem magnitude_places (negative : Bool) (n k : Nat) :
    magnitude ⟨negative, n, 0 - (k : Int)⟩ = (n : ℚ) / 10 ^ k := by
  rw [magnitude, zero_sub, zpow_neg, zpow_natCast, div_eq_mul_inv]

theorem value_congr {d d' : Decimal} (hsign : d.negative = d'.negative)
    (hmagnitude : d.magnitude = d'.magnitude) : d.value = d'.value := by
  rw [value, value, hsign, hmagnitude]

/-- **What is shown for a decimal is read as a decimal of the same value.** -/
theorem read?_shown (d : Decimal) : ∃ d', read? d.shown.toList = some d' ∧ d'.value = d.value := by
  obtain ⟨hne, hwhole, hfraction⟩ := d.isDigit_parts
  rw [shown]
  split
  · split
    · -- A whole number is shown with one zero behind the point.
      next hexp =>
      have hnone : d.parts.2 = [] := by simp [parts, hexp]
      have htext : (d.positional ++ ".0").toList =
          d.signText ++ (d.parts.1 ++ (pointed ['0'] ++ [])) := by
        simp [positional_toList, hnone, pointed]
      have hten : Nat.ofDigitChars 10 (d.parts.1 ++ ['0']) 0 =
          10 * Nat.ofDigitChars 10 d.parts.1 0 := by
        rw [Nat.ofDigitChars_append]
        exact Nat.ofDigitChars_replicate_zero (n := 1)
      rw [htext]
      refine ⟨_, read?_digits d hne hwhole (by simp) (.inl rfl) rfl, value_congr rfl ?_⟩
      rw [magnitude_places, ← parts_value, hnone, hten]
      simp
    · -- Any other is shown with its places.
      have htext : d.positional.toList = d.signText ++ (d.parts.1 ++ (pointed d.parts.2 ++ [])) := by
        rw [positional_toList, List.append_nil]
      rw [htext]
      refine ⟨_, read?_digits d hne hwhole hfraction (.inl rfl) rfl, value_congr rfl ?_⟩
      rw [magnitude_places, parts_value]
  · -- What is far from one is shown with one digit, a fraction and a power of ten.
    obtain ⟨c, cs, hdigits⟩ : ∃ c cs, digitsText d.digits = c :: cs :=
      List.exists_cons_of_ne_nil Nat.toDigits_ne_nil
    have hdigit : ∀ c' ∈ c :: cs, c'.isDigit = true := fun c' hc' =>
      isDigit_digitsText (hdigits ▸ hc')
    have htext : d.scientific.toList =
        d.signText ++ ([c] ++ (pointed cs ++ powerText (d.exponent + cs.length))) := by
      have hpower : d.exponent + (c :: cs).length - 1 = d.exponent + cs.length := by
        rw [List.length_cons]
        omega
      simp [scientific, hdigits, pointed, -List.length_cons, hpower]
    have hread := read?_digits d (List.cons_ne_nil c [])
      (by simpa using hdigit c List.mem_cons_self)
      (fun c' hc' => hdigit c' (List.mem_cons_of_mem _ hc')) (.inr ⟨_, rfl⟩)
      (readPower?_powerText (d.exponent + cs.length))
    rw [htext]
    refine ⟨_, hread, value_congr rfl ?_⟩
    rw [List.singleton_append, ← hdigits, ofDigitChars_digitsText, Int.add_sub_cancel]

/-! ### Plain texts -/

/-- The text of a decimal without needless zeros: where it has a point, the zeros at its end go,
and the point as well if it is last then. -/
def plain (d : Decimal) : List Char :=
  if d.positional.toList.contains '.' then
    (d.positional.toList.rdropWhile (· == '0')).rdropWhile (· == '.')
  else d.positional.toList

/-- The last `places` digits of a number, with zeros in front of them if it has fewer. -/
def lastDigits : Nat → Nat → List Char
  | 0, _ => []
  | places + 1, n => lastDigits places (n / 10) ++ [(n % 10).digitChar]

@[simp]
theorem length_lastDigits (places n : Nat) : (lastDigits places n).length = places := by
  induction places generalizing n with
  | zero => rfl
  | succ places ih => rw [lastDigits, List.length_append, ih, List.length_singleton]

theorem digitsText_succ {n : Nat} (h : 10 ≤ n) :
    digitsText n = digitsText (n / 10) ++ [(n % 10).digitChar] :=
  Nat.toDigits_of_base_le (by decide) h

/-- Digits that are filled up with zeros in front are those of the whole part and as many behind
it as there are places. -/
theorem padded_eq (places n : Nat) :
    List.replicate (places + 1 - (digitsText n).length) '0' ++ digitsText n =
      digitsText (n / 10 ^ places) ++ lastDigits places n := by
  induction places generalizing n with
  | zero =>
    have hpos : 0 < (digitsText n).length := Nat.length_toDigits_pos
    have hnone : 0 + 1 - (digitsText n).length = 0 := by omega
    simp [hnone, lastDigits]
  | succ places ih =>
    have hstep : List.replicate (places + 1 + 1 - (digitsText n).length) '0' ++ digitsText n =
        List.replicate (places + 1 - (digitsText (n / 10)).length) '0' ++ digitsText (n / 10) ++
          [(n % 10).digitChar] := by
      obtain hlt | hge := Nat.lt_or_ge n 10
      · have hone : digitsText n = [(n % 10).digitChar] := by
          rw [Nat.mod_eq_of_lt hlt]
          exact Nat.toDigits_of_lt_base hlt
        have hzero : digitsText (n / 10) = ['0'] := by
          rw [Nat.div_eq_of_lt hlt]
          rfl
        rw [hone, hzero]
        simp [List.replicate_succ']
      · rw [digitsText_succ hge]
        simp
    rw [hstep, ih, lastDigits, Nat.div_div_eq_div_mul, Nat.pow_succ', List.append_assoc]

/-- The digits on both sides of the point. -/
theorem parts_eq (d : Decimal) (hd : d.digits ≠ 0) :
    d.parts = (digitsText (d.digits * 10 ^ d.exponent.toNat / 10 ^ (-d.exponent).toNat),
      lastDigits (-d.exponent).toNat d.digits) := by
  have hpos : 0 < d.digits := Nat.pos_of_ne_zero hd
  have hshift : ∀ n, digitsText (d.digits * 10 ^ n) = digitsText d.digits ++ List.replicate n '0' := by
    intro n
    induction n with
    | zero => simp
    | succ n ih =>
      have hten := Nat.toDigits_append_toDigits (b := 10) (n := d.digits * 10 ^ n) (d := 0)
        (by decide) (by positivity) (by decide)
      rw [List.replicate_succ', ← List.append_assoc, ← ih, Nat.pow_succ', Nat.mul_left_comm]
      exact hten.symm
  simp only [parts]
  split
  · next h =>
    have hplaces : (-d.exponent).toNat = 0 := by omega
    rw [hplaces, pow_zero, Nat.div_one, hshift, lastDigits]
  · next h =>
    have hzero : d.exponent.toNat = 0 := by omega
    rw [padded_eq, hzero, pow_zero, Nat.mul_one]
    simp

/-- The zeros at the end of a text with a point are those at the end of its fraction. -/
theorem rdropWhile_point (cs fraction : List Char) :
    (cs ++ '.' :: fraction).rdropWhile (· == '0') =
      cs ++ '.' :: fraction.rdropWhile (· == '0') := by
  induction fraction using List.reverseRecOn with
  | nil => simp [List.rdropWhile_concat_neg]
  | append_singleton fraction c ih =>
    rw [← List.cons_append, ← List.append_assoc]
    by_cases hc : c = '0'
    · rw [List.rdropWhile_concat_pos _ _ _ (by simpa using hc),
        List.rdropWhile_concat_pos _ _ _ (by simpa using hc), ih]
    · rw [List.rdropWhile_concat_neg _ _ _ (by simpa using hc),
        List.rdropWhile_concat_neg _ _ _ (by simpa using hc), List.append_assoc, List.cons_append]

/-- Nothing is taken away behind a digit but zeros. -/
theorem rdropWhile_point_of_digits {cs ds : List Char} (hne : ds ≠ [])
    (hds : ∀ c ∈ ds, c.isDigit = true) : (cs ++ ds).rdropWhile (· == '.') = cs ++ ds := by
  rw [List.rdropWhile_eq_self_iff]
  intro _ hpoint
  rw [List.getLast_append_of_ne_nil _ hne, beq_iff_eq] at hpoint
  exact absurd (hds _ (List.getLast_mem hne)) (by rw [hpoint]; decide)

/-- A text without needless zeros keeps the whole part and loses the zeros at the end of the
fraction. -/
theorem plain_eq (d : Decimal) :
    d.plain = d.signText ++ (d.parts.1 ++ pointed (d.parts.2.rdropWhile (· == '0'))) := by
  obtain ⟨hne, hwhole, hfraction⟩ := d.isDigit_parts
  rw [plain, positional_toList]
  cases hf : d.parts.2 with
  | nil =>
    have hsign : '.' ∉ d.signText := by
      rw [signText]
      split <;> simp
    have hnone : '.' ∉ d.parts.1 := fun hmem => absurd (hwhole '.' hmem) (by decide)
    simp [pointed, hsign, hnone]
  | cons c cs =>
    have htext : d.signText ++ (d.parts.1 ++ pointed (c :: cs)) =
        (d.signText ++ d.parts.1) ++ '.' :: (c :: cs) := by
      simp [pointed]
    rw [htext, if_pos (by simp), rdropWhile_point, ← List.append_assoc]
    cases hkept : (c :: cs).rdropWhile (· == '0') with
    | nil =>
      rw [List.rdropWhile_concat_pos _ _ _ (by simp), rdropWhile_point_of_digits hne hwhole]
      simp [pointed]
    | cons c' cs' =>
      have hdigits : ∀ c'' ∈ c' :: cs', c''.isDigit = true := fun c'' h =>
        hfraction c'' (hf ▸ (List.rdropWhile_prefix (· == '0') _).subset (hkept ▸ h))
      rw [List.append_cons, rdropWhile_point_of_digits (by simp) hdigits]
      simp [pointed]

/-- The zeros at the end of a fraction do not count. -/
theorem ofDigitChars_rdropWhile (whole fraction : List Char) :
    (Nat.ofDigitChars 10 (whole ++ fraction.rdropWhile (· == '0')) 0 : ℚ) /
        10 ^ (fraction.rdropWhile (· == '0')).length =
      Nat.ofDigitChars 10 (whole ++ fraction) 0 / 10 ^ fraction.length := by
  induction fraction using List.reverseRecOn with
  | nil => simp
  | append_singleton fraction c ih =>
    by_cases hc : c = '0'
    · have hten : Nat.ofDigitChars 10 (whole ++ (fraction ++ [c])) 0 =
          10 * Nat.ofDigitChars 10 (whole ++ fraction) 0 := by
        rw [← List.append_assoc, Nat.ofDigitChars_append, hc]
        exact Nat.ofDigitChars_replicate_zero (n := 1)
      rw [List.rdropWhile_concat_pos _ _ _ (by simpa using hc), ih, hten, List.length_append,
        List.length_singleton, pow_succ']
      push_cast
      rw [mul_div_mul_left _ _ (by norm_num)]
    · rw [List.rdropWhile_concat_neg _ _ _ (by simpa using hc)]

/-- **The text without needless zeros denotes the value of the decimal.** -/
theorem denoted_plain (d : Decimal) : denoted d.plain = d.value := by
  obtain ⟨hne, hwhole, -⟩ := d.isDigit_parts
  rw [plain_eq, denoted_signText d hne hwhole, denotedUnsigned_pointed hwhole,
    ofDigitChars_rdropWhile, parts_value, value]

/-! ### The shape of plain texts -/

/-- Whether a text is a number without a power of ten and without needless zeros: a sign or none, an
integer part that starts with a zero only if it is one, and behind a point, if there is one, a
fraction that does not end in a zero. -/
def IsPlain (text : List Char) : Prop :=
  ∃ (negative : Bool) (whole fraction : List Char),
    text = (if negative then ['-'] else []) ++ (whole ++ pointed fraction) ∧
      whole ≠ [] ∧ (∀ c ∈ whole, c.isDigit = true) ∧
      (whole.head? = some '0' → whole = ['0']) ∧
      (∀ c ∈ fraction, c.isDigit = true) ∧ fraction.getLast? ≠ some '0'

/-- A number starts with a zero only if it is zero. -/
theorem digitsText_head (n : Nat) (h : (digitsText n).head? = some '0') : n = 0 := by
  induction n using Nat.strongRecOn with
  | _ n ih =>
    obtain hlt | hge := Nat.lt_or_ge n 10
    · have hone : digitsText n = [n.digitChar] := Nat.toDigits_of_lt_base hlt
      have hchar : n.digitChar = '0' := by simpa [hone] using h
      have hvalue := ofDigitChars_digitsText n
      rw [hone, hchar] at hvalue
      exact hvalue.symm
    · obtain ⟨c, cs, hfront⟩ : ∃ c cs, digitsText (n / 10) = c :: cs :=
        List.exists_cons_of_ne_nil Nat.toDigits_ne_nil
      have hzero : n / 10 = 0 := ih (n / 10) (by omega) (by
        rw [digitsText_succ hge, hfront] at h
        rw [hfront]
        exact h)
      omega

/-- The integer part of a decimal. -/
theorem floor_magnitude (d : Decimal) :
    ⌊d.magnitude⌋₊ = d.digits * 10 ^ d.exponent.toNat / 10 ^ (-d.exponent).toNat := by
  have hvalue : d.magnitude =
      ((d.digits * 10 ^ d.exponent.toNat : Nat) : ℚ) / ((10 ^ (-d.exponent).toNat : Nat) : ℚ) := by
    rw [magnitude]
    obtain h | h := Int.le_total 0 d.exponent
    · obtain ⟨n, hn⟩ := Int.eq_ofNat_of_zero_le h
      simp [hn]
    · obtain ⟨n, hn⟩ := Int.eq_ofNat_of_zero_le (Int.neg_nonneg_of_nonpos h)
      have hneg : d.exponent = -(n : Int) := by omega
      simp [hneg, div_eq_mul_inv]
  rw [hvalue, Nat.floor_div_eq_div]

/-- Before the point stand all digits of the integer part. -/
theorem parts_whole {d : Decimal} (hd : d.digits ≠ 0) : d.parts.1 = digitsText ⌊d.magnitude⌋₊ := by
  rw [parts_eq d hd, floor_magnitude]

/-- **A plain text has no needless zero.** -/
theorem isPlain_plain {d : Decimal} (hd : d.digits ≠ 0) : IsPlain d.plain := by
  obtain ⟨hne, hwhole, hfraction⟩ := d.isDigit_parts
  refine ⟨d.negative, d.parts.1, _, plain_eq d, hne, hwhole, fun h => ?_, fun c hc =>
    hfraction c ((List.rdropWhile_prefix _ _).subset hc), fun h => ?_⟩
  · rw [parts_whole hd] at h ⊢
    rw [digitsText_head _ h]
    rfl
  · obtain ⟨hkept, hlast⟩ := List.mem_getLast?_eq_getLast h
    exact List.rdropWhile_last_not _ _ hkept (by rw [← hlast]; rfl)

/-! ### Plain texts of equal decimals -/

/-- A zero at the end of the digits does not count. -/
theorem plain_ten (negative : Bool) {n : Nat} (hn : n ≠ 0) (exponent : Int) :
    plain ⟨negative, 10 * n, exponent⟩ = plain ⟨negative, n, exponent + 1⟩ := by
  have hvalue : magnitude ⟨negative, 10 * n, exponent⟩ = magnitude ⟨negative, n, exponent + 1⟩ := by
    simp only [magnitude]
    rw [zpow_add_one₀ (by norm_num)]
    push_cast
    ring
  have hten : 10 * n ≠ 0 := by omega
  rw [plain_eq, plain_eq, parts_whole hten, parts_whole hn, hvalue, parts_eq _ hten, parts_eq _ hn]
  simp only
  obtain h | ⟨p, hp⟩ : 0 ≤ exponent ∨ ∃ p : Nat, exponent = -(p + 1 : Nat) := by
    by_cases h : 0 ≤ exponent
    · exact .inl h
    · exact .inr ⟨(-exponent - 1).toNat, by omega⟩
  · have hplaces : (-exponent).toNat = 0 ∧ (-(exponent + 1)).toNat = 0 := by omega
    rw [hplaces.1, hplaces.2]
    rfl
  · have hplaces : (-exponent).toNat = p + 1 ∧ (-(exponent + 1)).toNat = p := by omega
    have hdigit : (10 * n % 10).digitChar = '0' := by
      rw [Nat.mul_mod_right]
      rfl
    rw [hplaces.1, hplaces.2, lastDigits, hdigit, Nat.mul_div_cancel_left _ (by decide),
      List.rdropWhile_concat_pos _ _ _ (by simp)]
    rfl

theorem plain_pow (negative : Bool) {n : Nat} (hn : n ≠ 0) (exponent : Int) (k : Nat) :
    plain ⟨negative, n * 10 ^ k, exponent⟩ = plain ⟨negative, n, exponent + k⟩ := by
  induction k generalizing exponent with
  | zero => simp
  | succ k ih =>
    have hne : n * 10 ^ k ≠ 0 := by positivity
    rw [Nat.pow_succ', Nat.mul_left_comm, plain_ten negative hne, ih]
    congr 2
    push_cast
    ring

theorem magnitude_pos {d : Decimal} (hd : d.digits ≠ 0) : 0 < d.magnitude := by
  have : (0 : ℚ) < d.digits := by exact_mod_cast Nat.pos_of_ne_zero hd
  rw [magnitude]
  positivity

theorem value_eq_zero_iff (d : Decimal) : d.value = 0 ↔ d.digits = 0 := by
  constructor
  · intro h
    by_contra hd
    have hpos := magnitude_pos hd
    rw [value] at h
    split at h <;> linarith
  · intro h
    simp [value, magnitude, h]

/-- Two decimals of the same value have the same plain text. -/
theorem plain_congr {d d' : Decimal} (hd : d.digits ≠ 0) (hd' : d'.digits ≠ 0)
    (h : d.value = d'.value) : d.plain = d'.plain := by
  obtain ⟨hsign, hmagnitude⟩ := value_inj (magnitude_pos hd) (magnitude_pos hd') h
  wlog hle : d.exponent ≤ d'.exponent generalizing d d'
  · exact (this hd' hd h.symm hsign.symm hmagnitude.symm (Int.le_of_not_le hle)).symm
  obtain ⟨k, hk⟩ := Int.eq_ofNat_of_zero_le (Int.sub_nonneg.2 hle)
  have hexponent : d'.exponent = d.exponent + k := by omega
  have hdigits : d.digits = d'.digits * 10 ^ k := by
    rw [magnitude, magnitude, hexponent, zpow_add₀ (by norm_num), zpow_natCast, mul_left_comm,
      mul_comm] at hmagnitude
    have := mul_left_cancel₀ (zpow_ne_zero _ (by norm_num)) hmagnitude
    exact_mod_cast this
  obtain ⟨negative, digits, exponent⟩ := d
  obtain ⟨negative', digits', exponent'⟩ := d'
  obtain rfl : negative = negative' := hsign
  obtain rfl : exponent' = exponent + k := hexponent
  obtain rfl : digits = digits' * 10 ^ k := hdigits
  exact plain_pow negative hd' exponent k

/-- **A plain text belongs to one value.** -/
theorem plain_eq_iff {d d' : Decimal} (hd : d.digits ≠ 0) (hd' : d'.digits ≠ 0) :
    d.plain = d'.plain ↔ d.value = d'.value :=
  ⟨fun h => by rw [← denoted_plain, h, denoted_plain], plain_congr hd hd'⟩

/-- Before the point stand the sign and all digits of the integer part. -/
theorem takeWhile_plain {d : Decimal} (hd : d.digits ≠ 0) :
    d.plain.takeWhile (· != '.') = d.signText ++ digitsText ⌊d.magnitude⌋₊ := by
  have hsign : ∀ c ∈ d.signText, (c != '.') = true := by
    rw [signText]
    split <;> simp
  have hwhole : ∀ c ∈ digitsText ⌊d.magnitude⌋₊, (c != '.') = true := fun c hc => by
    have := isDigit_digitsText hc
    simp only [bne_iff_ne, ne_eq]
    rintro rfl
    exact absurd this (by decide)
  have hstop : ∀ fraction, (pointed fraction).takeWhile (· != '.') = [] := fun fraction => by
    rw [pointed]
    split <;> simp
  rw [plain_eq, parts_whole hd, List.takeWhile_append_of_pos hsign,
    List.takeWhile_append_of_pos hwhole, hstop, List.append_nil]

/-- Nothing is needless in the text of a decimal whose digits do not end in a zero. -/
theorem plain_of_ends {d : Decimal} (hd : d.digits % 10 ≠ 0) : d.plain = d.positional.toList := by
  have hne : d.digits ≠ 0 := fun h => hd (by rw [h])
  have hchar : ∀ n < 10, n ≠ 0 → n.digitChar ≠ '0' := by decide
  rw [plain_eq, positional_toList, parts_eq d hne]
  cases (-d.exponent).toNat with
  | zero => rfl
  | succ places =>
    simp only [lastDigits]
    rw [List.rdropWhile_concat_neg _ _ _
      (by simpa using hchar _ (Nat.mod_lt _ (by decide)) hd)]

end Decimal

/-! ### The end of the shortest decimal -/

namespace Shortest

/-- The first digit of a fraction stands no further to the front than its magnitude says. -/
theorem lt_magnitude (num : Nat) {den : Nat} (hden : 0 < den) :
    (num : ℚ) / den < (10 : ℚ) ^ magnitude num den := by
  obtain rfl | hnum := Nat.eq_zero_or_pos num
  · rw [Nat.cast_zero, zero_div]
    positivity
  have hd : (0 : ℚ) < den := by exact_mod_cast hden
  rw [div_lt_iff₀ hd]
  simp only [magnitude]
  split
  · next h =>
    have hlt := (Nat.length_toDigits_le_iff (by decide) Nat.length_toDigits_pos).1
      (le_refl (Nat.toDigits 10 (num / den)).length)
    rw [zpow_natCast]
    exact_mod_cast (Nat.div_lt_iff_lt_mul hden).1 hlt
  · next h =>
    obtain ⟨k, hk⟩ := exists_length_toDigits (den / num)
    have hquot : 0 < den / num := Nat.div_pos (by omega) hnum
    have hpow : num * 10 ^ k ≤ den := by
      rw [Nat.mul_comm]
      exact (Nat.le_div_iff_mul_le hnum).1 (pow_le_of_length hquot hk)
    simp only [hk, Nat.add_sub_cancel, Nat.pow_eq]
    split
    · have hexp : (2 : Int) - (k + 1 : Nat) = 1 - (k : Int) := by push_cast; ring
      rw [hexp, zpow_sub₀ (by norm_num), zpow_one, zpow_natCast, div_mul_eq_mul_div,
        lt_div_iff₀ (by positivity)]
      exact_mod_cast (show num * 10 ^ k < 10 * den by omega)
    · have hexp : (1 : Int) - (k + 1 : Nat) = -(k : Int) := by push_cast; ring
      rw [hexp, zpow_neg, zpow_natCast, lt_inv_mul_iff₀ (by positivity), mul_comm]
      exact_mod_cast (show num * 10 ^ k < den by omega)

/-- The search ends on one of the grids. -/
theorem search_exponent {r : Rounding} {exponent : Int} (count : Nat)
    (h : ∃ k < count, (onGrid? r (exponent - k)).isSome = true) :
    exponent - count < (search r exponent count).2 := by
  induction count generalizing exponent with
  | zero => obtain ⟨k, hk, -⟩ := h; exact absurd hk (Nat.not_lt_zero k)
  | succ count ih =>
    rw [search]
    cases hgrid : onGrid? r exponent with
    | some digits => simp only; omega
    | none =>
      obtain ⟨k, hk, hsome⟩ := h
      cases k with
      | zero => simp [hgrid] at hsome
      | succ k =>
        have hk' : exponent - 1 - k = exponent - (k + 1 : Nat) := by push_cast; ring
        have := @ih (exponent - 1) ⟨k, Nat.lt_of_succ_lt_succ hk, by rwa [hk']⟩
        simp only
        omega

/-- Digits fewer than the steps that are allowed have no zero at their end afterwards. -/
theorem stripZeros_ends (digits : Nat) (exponent : Int) (fuel : Nat) (hne : digits ≠ 0)
    (hlt : digits < 10 ^ fuel) : (stripZeros digits exponent fuel).1 % 10 ≠ 0 := by
  induction fuel generalizing digits exponent with
  | zero => omega
  | succ fuel ih =>
    rw [stripZeros]
    split
    · next h =>
      simp only [bne_iff_ne, ne_eq, Bool.and_eq_true, beq_iff_eq] at h
      exact ih _ _ (by omega) (by rw [Nat.pow_succ] at hlt; omega)
    · next h =>
      simp only [bne_iff_ne, ne_eq, Bool.and_eq_true, beq_iff_eq, not_and] at h
      exact h hne

/-- What reads back as a number is at most half as much again. -/
theorem le_of_contains {m : Nat} {e : Int} {q : ℚ} (hm : 0 < m) (h : (Rounding.of m e).Contains q) :
    2 * q ≤ 3 * ((Rounding.of m e).value * (Rounding.of m e).step) := by
  have hstep : 0 < (Rounding.of m e).step := by rw [Rounding.step_of]; positivity
  have hupper : 2 * ((Rounding.of m e).upper : ℚ) ≤ 3 * (Rounding.of m e).value := by
    exact_mod_cast (show 2 * (4 * m + 2) ≤ 3 * (4 * m) by omega)
  have hq : q ≤ (Rounding.of m e).upper * (Rounding.of m e).step := h.bounds.2.1
  calc 2 * q ≤ 2 * (Rounding.of m e).upper * (Rounding.of m e).step := by linarith
    _ ≤ 3 * (Rounding.of m e).value * (Rounding.of m e).step :=
      mul_le_mul_of_nonneg_right hupper hstep.le
    _ = 3 * ((Rounding.of m e).value * (Rounding.of m e).step) := mul_assoc _ _ _

theorem Rounding.exact_value (r : Rounding) :
    (r.exact.1 : ℚ) / r.exact.2 = r.value * r.step := by
  simp only [Rounding.exact, Rounding.step]
  push_cast
  ring

/-- What reads back as a number has few digits on a grid that is not too fine. -/
theorem digits_lt {m : Nat} {e : Int} {n : Nat} {k : Int} (hm : 0 < m)
    (hreads : (Rounding.of m e).Contains (n * (10 : ℚ) ^ k))
    (hk : magnitude (Rounding.of m e).exact.1 (Rounding.of m e).exact.2 - 18 ≤ k) :
    n < 10 ^ 20 := by
  have hbound := le_of_contains hm hreads
  have hmagnitude := lt_magnitude (Rounding.of m e).exact.1 (Rounding.unit_pos m e)
  rw [← Rounding.exact_value] at hbound
  simp only [Rounding.exact] at hbound hmagnitude hk
  generalize magnitude _ _ = position at hk hmagnitude
  have hgrid : (10 : ℚ) ^ (position - 18) ≤ (10 : ℚ) ^ k :=
    zpow_le_zpow_right₀ (by norm_num) hk
  have hscale : (10 : ℚ) ^ position = 10 ^ 18 * (10 : ℚ) ^ (position - 18) := by
    rw [← zpow_natCast, ← zpow_add₀ (by norm_num)]
    congr 1
    omega
  have hunit : (0 : ℚ) < (10 : ℚ) ^ (position - 18) := by positivity
  have hdigits : (n : ℚ) < 10 ^ 20 := by
    refine lt_of_mul_lt_mul_right ?_ hunit.le
    have := mul_le_mul_of_nonneg_left hgrid (Nat.cast_nonneg (α := ℚ) n)
    linarith
  exact_mod_cast hdigits

end Shortest

/-- **The shortest decimal of a number does not end in a zero**: it is found on one of eighteen
grids, so it has few enough digits for all the zeros at their end to be taken away. -/
theorem Binary64.shortest_ends (negative : Bool) {mantissa : Nat} (exponent : Int)
    (hpos : 0 < mantissa) (hlt : mantissa < 2 ^ 53) {d : Decimal}
    (hd : (finite negative mantissa exponent).shortest? = some d) : d.digits % 10 ≠ 0 := by
  have hzero : (mantissa == 0) = false := by simpa using hpos.ne'
  have hr := Shortest.Rounding.unit_pos mantissa exponent
  have hgrid : ∃ k < 18, (Shortest.onGrid? (Shortest.Rounding.of mantissa exponent)
      (Shortest.magnitude (Shortest.Rounding.of mantissa exponent).exact.1
        (Shortest.Rounding.of mantissa exponent).exact.2 - 1 - (k : Nat))).isSome = true :=
    ⟨17, by decide, Shortest.onGrid_isSome hr (Shortest.Rounding.lower_le mantissa exponent)
      (Shortest.grid_fine hpos hlt exponent)⟩
  have hreads := (Shortest.Rounding.holds_iff hr _ _).1 (Shortest.search_holds 18 hgrid)
  have hexponent := Shortest.search_exponent 18 hgrid
  simp only [shortest?, hzero, Bool.false_eq_true, if_false, Option.some.injEq] at hd
  rw [← hd]
  refine Shortest.stripZeros_ends _ _ 20 (fun h => ?_)
    (Shortest.digits_lt hpos hreads (by omega))
  have hpositive := Promql.contains_pos hpos hreads
  simp [h] at hpositive

namespace Promql

/-- A finite number is written in an expression as the plain text of what is shown for it. -/
theorem formatNumber_plain {x : Binary64} (hx : x.isCanonical = true) (hfinite : x.isFinite = true)
    (hzero : x.isZero = false) :
    ∃ d, Decimal.read? x.text.toList = some d ∧ d.digits ≠ 0 ∧
      (formatNumber x).toList = d.plain := by
  cases x with
  | nan => cases hfinite
  | infinite negative => cases hfinite
  | finite negative mantissa exponent =>
    have hpos : 0 < mantissa := Nat.pos_of_ne_zero (by simpa [Binary64.isZero] using hzero)
    have hlt : mantissa < 2 ^ 53 := by
      simp only [Binary64.isCanonical, Bool.and_eq_true, decide_eq_true_eq] at hx
      exact hx.1.2
    obtain ⟨d, hd, -, hreads⟩ := Binary64.shortest_reads negative exponent hpos hlt
    obtain ⟨d', hread, hvalue⟩ := d.read?_shown
    have hends := Binary64.shortest_ends negative exponent hpos hlt hd
    have hne : d.digits ≠ 0 := fun h => hends (by rw [h])
    have hne' : d'.digits ≠ 0 := fun h => hne (d.value_eq_zero_iff.1 (by
      rw [← hvalue, Decimal.value_eq_zero_iff, h]))
    refine ⟨d', ?_, hne', ?_⟩
    · simpa [Binary64.text, hd] using hread
    · rw [Decimal.plain_congr hne' hne hvalue, Decimal.plain_of_ends hends]
      simp [formatNumber, hzero, hd]

/-- **The numbers of expressions are exact**: a finite number other than zero is written as the
plain text of what is shown for it. The plain text of a number in any notation denotes the very
value, has no power of ten and no needless zero, keeps all digits of the integer part, and is that of
no other value. -/
theorem formatNumber_exact :
    (∀ x : Binary64, x.isCanonical = true → x.isFinite = true → x.isZero = false →
      ∃ d, Decimal.read? x.text.toList = some d ∧ d.digits ≠ 0 ∧
        (formatNumber x).toList = d.plain) ∧
    ∀ text d, Decimal.read? text = some d → d.digits ≠ 0 →
      Decimal.denoted d.plain = d.value ∧ Decimal.IsPlain d.plain ∧
        d.plain.takeWhile (· != '.') = d.signText ++ digitsText ⌊d.magnitude⌋₊ ∧
        ∀ text' d', Decimal.read? text' = some d' → d'.digits ≠ 0 →
          (d.value = d'.value ↔ d.plain = d'.plain) := by
  refine ⟨fun x => formatNumber_plain, fun _ d _ hd => ⟨d.denoted_plain, Decimal.isPlain_plain hd,
    Decimal.takeWhile_plain hd, fun _ d' _ hd' => (Decimal.plain_eq_iff hd hd').symm⟩⟩

/-- Ten to the power of twenty-two is shown with a power of ten and written with all its zeros, and a
small negative number with the zeros behind the point; what is written with a zero more is the
same. -/
theorem formatNumber_exact_powers :
    (∃ d, Decimal.read? (Binary64.finite false 4768371582031250 21).text.toList = some d ∧
        d.digits ≠ 0 ∧
        (formatNumber (.finite false 4768371582031250 21)).toList = d.plain) ∧
      formatNumber (.finite false 4768371582031250 21) = "10000000000000000000000" ∧
      Decimal.denoted (Decimal.plain ⟨true, 25, -7⟩) = Decimal.value ⟨true, 25, -7⟩ ∧
      (Decimal.value ⟨true, 25, -7⟩ = Decimal.value ⟨true, 250, -8⟩ ↔
        Decimal.plain ⟨true, 25, -7⟩ = Decimal.plain ⟨true, 250, -8⟩) ∧
      Decimal.plain ⟨true, 250, -8⟩ = "-0.0000025".toList :=
  have small := formatNumber_exact.2 "-2.5e-06".toList ⟨true, 25, -7⟩ (by decide) (by decide)
  ⟨formatNumber_exact.1 _ (by decide) (by decide) (by decide), by decide +kernel, small.1,
    small.2.2.2 "-2.50e-06".toList ⟨true, 250, -8⟩ (by decide) (by decide), by decide +kernel⟩

end Promql

end MonitoringConfig
