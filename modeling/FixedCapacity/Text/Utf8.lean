/-
  FixedCapacity.Text.Utf8 — bytes read as UTF-8.

  `segments` cuts every byte sequence into encoded characters and invalid chunks.
  A chunk is the longest run of bytes that begins some encoded character and
  continues into none, or else a single byte. Nothing is skipped.

  Two readings of the same segments: `decode?` accepts a sequence only when no
  segment is invalid; `lossy` puts U+FFFD for each invalid chunk. `runs` is the
  lossy text cut after every replacement, the way it reaches a writer.

  Overlong forms, surrogates and values above U+10FFFF begin no character: the
  byte after the lead is held to the range `Lead.low` to `Lead.high`.
-/

namespace FixedCapacity.Text

/-- The UTF-8 bytes of a sequence of characters. -/
def encode (cs : List Char) : List UInt8 := cs.flatMap String.utf8EncodeChar

/-- The UTF-8 bytes of a string. -/
def bytes (s : String) : List UInt8 := encode s.toList

/-- What a first byte promises: how many bytes follow, and the range of the next one. -/
structure Lead where
  following : Nat
  low : UInt8
  high : UInt8
  deriving DecidableEq, Repr

/-- The lead bytes of the multi-byte forms. -/
def Lead.ofByte? (b : UInt8) : Option Lead :=
  if 0xC2 ≤ b ∧ b ≤ 0xDF then some ⟨1, 0x80, 0xBF⟩
  else if b = 0xE0 then some ⟨2, 0xA0, 0xBF⟩
  else if b = 0xED then some ⟨2, 0x80, 0x9F⟩
  else if 0xE1 ≤ b ∧ b ≤ 0xEF then some ⟨2, 0x80, 0xBF⟩
  else if b = 0xF0 then some ⟨3, 0x90, 0xBF⟩
  else if 0xF1 ≤ b ∧ b ≤ 0xF3 then some ⟨3, 0x80, 0xBF⟩
  else if b = 0xF4 then some ⟨3, 0x80, 0x8F⟩
  else none

def isContinuation (b : UInt8) : Bool := 0x80 ≤ b && b ≤ 0xBF

/-- The part of a byte that carries the character's bits, when `keep` values fit. -/
def payload (b : UInt8) (keep : Nat) : Nat := b.toNat % keep

/-- A piece of a byte sequence: one encoded character or one invalid chunk. -/
inductive Segment where
  | char (c : Char)
  | invalid (chunk : List UInt8)
  deriving DecidableEq, Repr

/-- Reads one segment that starts with `b`: the segment and how many bytes of `rest` it takes. -/
def Segment.read (b : UInt8) (rest : List UInt8) : Segment × Nat :=
  if b < 0x80 then (.char (Char.ofNat b.toNat), 0)
  else
    match Lead.ofByte? b with
    | none => (.invalid [b], 0)
    | some lead =>
      match rest with
      | [] => (.invalid [b], 0)
      | c :: rest =>
        if c < lead.low ∨ lead.high < c then (.invalid [b], 0)
        else if lead.following = 1 then
          (.char (Char.ofNat (payload b 32 * 64 + payload c 64)), 1)
        else
          match rest with
          | [] => (.invalid [b, c], 1)
          | d :: rest =>
            if !isContinuation d then (.invalid [b, c], 1)
            else if lead.following = 2 then
              (.char (Char.ofNat ((payload b 16 * 64 + payload c 64) * 64 + payload d 64)), 2)
            else
              match rest with
              | [] => (.invalid [b, c, d], 2)
              | e :: _ =>
                if !isContinuation e then (.invalid [b, c, d], 2)
                else
                  (.char (Char.ofNat
                    (((payload b 8 * 64 + payload c 64) * 64 + payload d 64) * 64
                      + payload e 64)), 3)

/-- The whole sequence as segments, in order. -/
def segments : List UInt8 → List Segment
  | [] => []
  | b :: rest =>
    let (segment, taken) := Segment.read b rest
    segment :: segments (rest.drop taken)
  termination_by bs => bs.length
  decreasing_by simp only [List.length_drop, List.length_cons]; omega

/-- The character of a segment, if it is one. -/
def Segment.char? : Segment → Option Char
  | .char c => some c
  | .invalid _ => none

/-- The characters of a byte sequence that is UTF-8 throughout. -/
def decode? (bs : List UInt8) : Option (List Char) := (segments bs).mapM Segment.char?

/-- The character that stands in for an invalid chunk. -/
def replacement : Char := Char.ofNat 0xFFFD

/-- The text of any byte sequence: one U+FFFD for each invalid chunk. -/
def lossy (bs : List UInt8) : List Char :=
  (segments bs).map fun segment => segment.char?.getD replacement

/-- Collects segments into written pieces: `run` is the valid text gathered so far. -/
def runsFrom (run : List Char) : List Segment → List (List Char)
  | [] => [run]
  | .char c :: rest => runsFrom (run ++ [c]) rest
  | .invalid _ :: rest => run :: [replacement] :: runsFrom [] rest

/-- The lossy text as a writer receives it: each valid run, then each replacement, apart. -/
def runs (bs : List UInt8) : List (List Char) := runsFrom [] (segments bs)

end FixedCapacity.Text
