/-!
# Base 64

Bytes are written in base 64, three bytes as four letters; equals signs fill up the last four. What
is read may hold anything between the letters, which is passed over.

* `base64` writes bytes, `ofBase64?` reads them.
-/

namespace MonitoringConfig.Text

/-- The letters of the base-64 alphabet. -/
def base64Letters : Array Char :=
  "ABCDEFGHIJKLMNOPQRSTUVWXYZabcdefghijklmnopqrstuvwxyz0123456789+/".toList.toArray

/-- Bytes in base 64. -/
def base64 : List UInt8 → List Char
  | [] => []
  | [a] =>
    let n := a.toNat <<< 16
    [letter n 18, letter n 12, '=', '=']
  | [a, b] =>
    let n := a.toNat <<< 16 ||| b.toNat <<< 8
    [letter n 18, letter n 12, letter n 6, '=']
  | a :: b :: c :: rest =>
    let n := a.toNat <<< 16 ||| b.toNat <<< 8 ||| c.toNat
    letter n 18 :: letter n 12 :: letter n 6 :: letter n 0 :: base64 rest
where
  /-- The letter of the six bits of a number from a bit on. -/
  letter (n bit : Nat) : Char :=
    base64Letters[(n >>> bit) % 64]?.getD '='

/-- The six bits that a letter stands for. -/
def base64Value? (c : Char) : Option Nat :=
  base64Letters.findIdx? (· == c)

/-- What was read of four letters: how many, how many equals signs behind them, and their bits. -/
structure Quartet where
  letters : Nat := 0
  fills : Nat := 0
  bits : Nat := 0

/-- Reads bytes behind the letters of an unfinished four. A letter gives a byte as soon as its bits
are complete, and what stands behind a filled-up four is not read. -/
def ofBase64From (q : Quartet) : List Char → Option (List UInt8)
  | [] => if q.letters == 0 then some [] else none
  | c :: cs =>
    if c == '=' then
      if q.letters < 2 then ofBase64From q cs
      else if q.letters + q.fills + 1 ≥ 4 then some []
      else ofBase64From { q with fills := q.fills + 1 } cs
    else match base64Value? c with
      | none => ofBase64From q cs
      | some v =>
        let bits := q.bits * 64 + v
        match q.letters with
        | 0 => ofBase64From ⟨1, 0, bits⟩ cs
        | 1 => (ofBase64From ⟨2, 0, bits % 16⟩ cs).map ((bits / 16).toUInt8 :: ·)
        | 2 => (ofBase64From ⟨3, 0, bits % 4⟩ cs).map ((bits / 4).toUInt8 :: ·)
        | _ => (ofBase64From {} cs).map (bits.toUInt8 :: ·)

/-- Reads bytes, unless the last four letters are incomplete. -/
def ofBase64? (cs : List Char) : Option (List UInt8) :=
  ofBase64From {} cs

end MonitoringConfig.Text
