import NodeHeap.Word

/-!
# UTF-8

Bytes are read as characters from the left. Where they cannot be, the longest run of bytes that
starts some character is dropped, one byte at least, and reading goes on after it. `decode?` is the
text of bytes that read through without such a fault; `lossy` writes U+FFFD for each fault.
-/

namespace NodeHeap.Text.Utf8

/-- Whether a byte continues a character. -/
def isTail (b : UInt8) : Bool := 0x80 ≤ b && b ≤ 0xBF

/-- The six bits a continuation byte carries. -/
def tailBits (b : UInt8) : Nat := b.toNat % 64

/-- Whether `b` may follow the first byte `a` of a character of three bytes. -/
def follows3 (a b : UInt8) : Bool :=
  if a = 0xE0 then 0xA0 ≤ b && b ≤ 0xBF
  else if a = 0xED then 0x80 ≤ b && b ≤ 0x9F
  else 0xE1 ≤ a && a ≤ 0xEF && isTail b

/-- Whether `b` may follow the first byte `a` of a character of four bytes. -/
def follows4 (a b : UInt8) : Bool :=
  if a = 0xF0 then 0x90 ≤ b && b ≤ 0xBF
  else if a = 0xF4 then 0x80 ≤ b && b ≤ 0x8F
  else 0xF1 ≤ a && a ≤ 0xF3 && isTail b

/-- What the bytes after the first byte `a` come to: the character read, or nothing where they are
no character, and how many of them are used up. -/
def continue? (a : UInt8) (rest : Bytes) : Option Char × Nat :=
  if a < 0x80 then (some (Char.ofNat a.toNat), 0)
  else if 0xC2 ≤ a && a ≤ 0xDF then
    match rest with
    | b :: _ => if isTail b then (some (Char.ofNat (a.toNat % 32 * 64 + tailBits b)), 1) else (none, 0)
    | [] => (none, 0)
  else if 0xE0 ≤ a && a ≤ 0xEF then
    match rest with
    | b :: more =>
      if follows3 a b then
        match more with
        | c :: _ =>
          if isTail c then
            (some (Char.ofNat (a.toNat % 16 * 4096 + tailBits b * 64 + tailBits c)), 2)
          else (none, 1)
        | [] => (none, 1)
      else (none, 0)
    | [] => (none, 0)
  else if 0xF0 ≤ a && a ≤ 0xF4 then
    match rest with
    | b :: more =>
      if follows4 a b then
        match more with
        | c :: last =>
          if isTail c then
            match last with
            | d :: _ =>
              if isTail d then
                (some (Char.ofNat
                  (a.toNat % 8 * 262144 + tailBits b * 4096 + tailBits c * 64 + tailBits d)), 3)
              else (none, 2)
            | [] => (none, 2)
          else (none, 1)
        | [] => (none, 1)
      else (none, 0)
    | [] => (none, 0)
  else (none, 0)

/-- The characters of the bytes, with `none` for each fault. -/
def read : Bytes → List (Option Char)
  | [] => []
  | a :: rest => (continue? a rest).1 :: read (rest.drop (continue? a rest).2)
  termination_by bytes => bytes.length
  decreasing_by simp only [List.length_drop, List.length_cons]; omega

/-- The text of the bytes, if they read through without a fault. -/
def decode? (bytes : Bytes) : Option String :=
  if (read bytes).all Option.isSome then some (String.ofList ((read bytes).filterMap id)) else none

/-- The text of the bytes, with U+FFFD for each fault. -/
def lossy (bytes : Bytes) : String :=
  String.ofList ((read bytes).map fun c => c.getD '\uFFFD')

/-- The bytes of a text. -/
def encode (text : String) : Bytes := text.toUTF8.toList

end NodeHeap.Text.Utf8
