import PropForge.Number.Digits

/-!
Texts as bytes. Bytes that spell no text are reported with the place and the kind of the first
sequence that is not well formed.
-/

namespace PropForge.Text

/-- What is wrong with a byte sequence. -/
inductive ByteCause where
  | badStart | badContinuation | cutShort
  deriving DecidableEq, Repr

def ByteCause.message : ByteCause → String
  | badStart => "invalid start byte"
  | badContinuation => "invalid continuation byte"
  | cutShort => "unexpected end of data"

/-- A malformed sequence: where it stands and its bytes. -/
structure ByteFault where
  cause : ByteCause
  position : Nat
  bytes : List UInt8
  deriving DecidableEq, Repr

def ByteFault.message (f : ByteFault) : String :=
  let reason := f.cause.message
  match f.bytes with
  | [b] =>
    let hex := String.ofList (Number.hexDigits 2 b.toNat)
    s!"'utf-8' codec can't decode byte 0x{hex} in position {f.position}: {reason}"
  | bs =>
    let last := f.position + bs.length - 1
    s!"'utf-8' codec can't decode bytes in position {f.position}-{last}: {reason}"

/-- The bounds of the second byte of a longer sequence. They leave out overlong forms, surrogates
and what lies beyond the last code point. -/
def secondBounds (first : UInt8) : UInt8 × UInt8 :=
  if first = 0xe0 then (0xa0, 0xbf)
  else if first = 0xed then (0x80, 0x9f)
  else if first = 0xf0 then (0x90, 0xbf)
  else if first = 0xf4 then (0x80, 0x8f)
  else (0x80, 0xbf)

/-- The number of bytes in the sequence that a byte starts, zero if it starts none. -/
def sequenceLength (first : UInt8) : Nat :=
  if first < 0x80 then 1
  else if first < 0xc2 then 0
  else if first < 0xe0 then 2
  else if first < 0xf0 then 3
  else if first < 0xf5 then 4
  else 0

/-- How many bytes of a sequence are as they must be. -/
def wellFormed (first : UInt8) (rest : List UInt8) : Nat :=
  let (low, high) := secondBounds first
  match rest with
  | [] => 1
  | second :: more =>
    if low ≤ second && second ≤ high then
      2 + (more.takeWhile fun b => 0x80 ≤ b && b ≤ 0xbf).length
    else 1

/-- The code point of a well-formed sequence. -/
def codePoint (first : UInt8) (rest : List UInt8) : Nat :=
  let lead := match rest.length with
    | 0 => first.toNat
    | 1 => first.toNat % 0x20
    | 2 => first.toNat % 0x10
    | _ => first.toNat % 0x08
  rest.foldl (fun n b => n * 0x40 + b.toNat % 0x40) lead

/-- The characters that bytes spell; `done` is latest first. -/
def decodeFrom (done : List Char) (position : Nat) : Nat → List UInt8 → Except ByteFault String
  | 0, _ => .ok (String.ofList done.reverse)
  | _ + 1, [] => .ok (String.ofList done.reverse)
  | fuel + 1, first :: rest =>
    match sequenceLength first with
    | 0 => .error ⟨.badStart, position, [first]⟩
    | n + 1 =>
      let more := rest.take n
      let good := wellFormed first more
      if good = n + 1 || n = 0 then
        decodeFrom (Char.ofNat (codePoint first more) :: done) (position + n + 1) fuel
          (rest.drop n)
      else if good = more.length + 1 then .error ⟨.cutShort, position, first :: more⟩
      else .error ⟨.badContinuation, position, (first :: more).take good⟩

/-- The text that bytes spell. -/
def decode (bytes : List UInt8) : Except ByteFault String :=
  decodeFrom [] 0 bytes.length bytes

end PropForge.Text
