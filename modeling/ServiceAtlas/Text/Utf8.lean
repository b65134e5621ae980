/-!
Reading bytes as UTF-8. Bytes that do not belong to a character are replaced: by `lossy`, each longest
run that could begin a character becomes one U+FFFD; by `marked`, each such byte becomes a mark. In
a source text that mark occurs nowhere else, so that a piece of the source that holds such bytes can be
told; it then reads as nothing.
-/

namespace ServiceAtlas.Text

private def isTail (b : Nat) : Bool := 0x80 ≤ b && b ≤ 0xBF

/-- The bytes that may stand second after the given first byte, and how many follow the first. -/
private def sequenceOf? (b : Nat) : Option (Nat × Nat × Nat) :=
  if 0xC2 ≤ b && b ≤ 0xDF then some (1, 0x80, 0xBF)
  else if b == 0xE0 then some (2, 0xA0, 0xBF)
  else if b == 0xED then some (2, 0x80, 0x9F)
  else if 0xE1 ≤ b && b ≤ 0xEF then some (2, 0x80, 0xBF)
  else if b == 0xF0 then some (3, 0x90, 0xBF)
  else if 0xF1 ≤ b && b ≤ 0xF3 then some (3, 0x80, 0xBF)
  else if b == 0xF4 then some (3, 0x80, 0x8F)
  else none

/-- The character that begins with byte `b`, if there is one, and how many of the following bytes were
taken for it. -/
def character? (b : Nat) (rest : List Nat) : Option Char × Nat :=
  if b < 0x80 then (some (Char.ofNat b), 0)
  else
    match sequenceOf? b with
    | none => (none, 0)
    | some (follow, lo, hi) =>
      match rest with
      | [] => (none, 0)
      | c :: more =>
        if c < lo || hi < c then (none, 0)
        else
          let tail := (more.take (follow - 1)).takeWhile isTail
          if tail.length + 1 = follow then
            let lead := b % Nat.pow 2 (6 - follow)
            (some (Char.ofNat ((c :: tail).foldl (fun n t => n * 64 + t % 64) lead)), follow)
          else (none, tail.length + 1)

/-- Reads bytes with replacement of each longest piece of a broken character. -/
def lossy (bytes : List Nat) : List Char :=
  match bytes with
  | [] => []
  | b :: rest =>
    match character? b rest with
    | (some c, n) => c :: lossy (rest.drop n)
    | (none, n) => '\uFFFD' :: lossy (rest.drop n)
termination_by bytes.length

/-- Reads bytes with a mark for each byte that belongs to no character. -/
def marked (mark : Char) (bytes : List Nat) : List Char :=
  match bytes with
  | [] => []
  | b :: rest =>
    match character? b rest with
    | (some c, n) => c :: marked mark (rest.drop n)
    | (none, _) => mark :: marked mark rest
termination_by bytes.length

/-- The text of the bytes, if all of them belong to characters. -/
def decode? (bytes : List Nat) : Option (List Char) :=
  match bytes with
  | [] => some []
  | b :: rest =>
    match character? b rest with
    | (some c, n) => (decode? (rest.drop n)).map (c :: ·)
    | (none, _) => none
termination_by bytes.length

end ServiceAtlas.Text

namespace ServiceAtlas

structure SourceText where
  chars : List Char
  mark : Option Char

namespace SourceText

def ofString (s : String) : SourceText := ⟨s.toList, none⟩

/-- Characters set apart from all text, any of which may serve as the mark. -/
private def marks : List Char := (List.range 32).map fun i => Char.ofNat (0xFDD0 + i)

def ofBytes (bytes : List Nat) : SourceText :=
  match Text.decode? bytes with
  | some chars => ⟨chars, none⟩
  | none =>
    let present := Text.lossy bytes
    let mark := (marks.find? fun c => !present.contains c).getD '\uFFFE'
    ⟨Text.marked mark bytes, some mark⟩

/-- A piece of the source, or nothing if it holds bytes that are no characters. -/
def piece (t : SourceText) (s : String) : String :=
  match t.mark with
  | some m => if s.toList.contains m then "" else s
  | none => s

end SourceText

end ServiceAtlas
