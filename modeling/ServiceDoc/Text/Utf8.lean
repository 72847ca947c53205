/-!
# UTF-8

Texts as bytes, and back. Bytes that encode no character are read in maximal parts: each part is the
longest beginning of a character that is there, or a single byte, and the caller says what to put in
its place.
-/

namespace ServiceDoc.Text

def utf8 (cs : List Char) : List UInt8 := cs.flatMap String.utf8EncodeChar

/-- The least and the greatest byte that may follow the first byte of a character. -/
def secondByteRange (a : UInt8) : UInt8 × UInt8 :=
  if a = 0xE0 then (0xA0, 0xBF)
  else if a = 0xED then (0x80, 0x9F)
  else if a = 0xF0 then (0x90, 0xBF)
  else if a = 0xF4 then (0x80, 0x8F)
  else (0x80, 0xBF)

/-- Whether a byte may follow the first byte of a character. -/
def follows (a b : UInt8) : Bool := (secondByteRange a).1 ≤ b && b ≤ (secondByteRange a).2

/-- Whether a byte may follow the second byte of a character. -/
def continues (b : UInt8) : Bool := 0x80 ≤ b && b ≤ 0xBF

/-- The number that bytes carry, six bits each behind the first one. -/
def sixBits (n : Nat) (bs : List UInt8) : Nat := bs.foldl (fun n b => n * 64 + b.toNat % 64) n

/-- The character at the beginning of some bytes, if there is one, with the number of bytes behind
the first one that belong to it or to the beginning of a character. -/
def firstChar (a : UInt8) (r : List UInt8) : Option Char × Nat :=
  if a < 0x80 then (some (Char.ofNat a.toNat), 0)
  else if 0xC2 ≤ a ∧ a ≤ 0xDF then
    match r with
    | b :: _ =>
      if follows a b then (some (Char.ofNat (sixBits (a.toNat % 32) [b])), 1) else (none, 0)
    | [] => (none, 0)
  else if 0xE0 ≤ a ∧ a ≤ 0xEF then
    match r with
    | b :: r =>
      if follows a b then
        match r with
        | c :: _ =>
          if continues c then (some (Char.ofNat (sixBits (a.toNat % 16) [b, c])), 2)
          else (none, 1)
        | [] => (none, 1)
      else (none, 0)
    | [] => (none, 0)
  else if 0xF0 ≤ a ∧ a ≤ 0xF4 then
    match r with
    | b :: r =>
      if follows a b then
        match r with
        | c :: r =>
          if continues c then
            match r with
            | d :: _ =>
              if continues d then (some (Char.ofNat (sixBits (a.toNat % 8) [b, c, d])), 3)
              else (none, 2)
            | [] => (none, 2)
          else (none, 1)
        | [] => (none, 1)
      else (none, 0)
    | [] => (none, 0)
  else (none, 0)

/-- The text of some bytes, with `bad` in place of what encodes no character. -/
def readUtf8 (bad : List UInt8 → List Char) : List UInt8 → List Char
  | [] => []
  | a :: r =>
    match firstChar a r with
    | (some c, n) => c :: readUtf8 bad (r.drop n)
    | (none, n) => bad (a :: r.take n) ++ readUtf8 bad (r.drop n)
termination_by s => s.length
decreasing_by
  all_goals
    simp only [List.length_cons, List.length_drop]
    omega

/-- The text of some bytes, with one replacement character for each part that encodes none. -/
def replaceInvalid (bytes : List UInt8) : List Char := readUtf8 (fun _ => ['\ufffd']) bytes

end ServiceDoc.Text
