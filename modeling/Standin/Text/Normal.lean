/-
Compatibility normalization: characters that are the same letter for a reader
become the same character.

A text is decomposed completely, each run of combining characters is put into
the order of their classes, and then characters are composed again, each with
the last starter before it that no character of its class or a higher one
separates from it.  Syllables of Hangul are decomposed and composed by
arithmetic.
-/
import Standin.Text.CharTable
import Standin.Text.Normal.Table

set_option autoImplicit false

namespace Standin.Text.Normal

/-- The complete compatibility decompositions, by code point. -/
def decompositions : Array (Nat × List Nat) :=
  ((tableEntries decompositionText).map fun entry =>
    match splitChars ':' entry with
    | [c, parts] => (hexValue c, (splitChars '.' parts).map hexValue)
    | _ => (0, [])).toArray

/-- The combining classes that are not zero, by range of code points. -/
def combiningClasses : Array ((Nat × Nat) × Nat) :=
  ((tableEntries combiningClassText).map fun entry =>
    match splitChars ':' entry with
    | [r, k] => (parseRange r, hexValue k)
    | _ => ((0, 0), 0)).toArray

/-- The compositions, by the first and the second code point. -/
def compositions : Array ((Nat × Nat) × Nat) :=
  ((tableEntries compositionText).map fun entry =>
    match splitChars ':' entry with
    | [ab, c] =>
      match splitChars '.' ab with
      | [a, b] => ((hexValue a, hexValue b), hexValue c)
      | _ => ((0, 0), 0)
    | _ => ((0, 0), 0)).toArray

/-- The first syllable of Hangul. -/
def hangulBase : Nat := 0xac00

/-- The complete compatibility decomposition of one code point. -/
def decompose (n : Nat) : List Nat :=
  if hangulBase ≤ n ∧ n < hangulBase + 11172 then
    -- Of the syllables 588 have one lead in common, and 28 of these one vowel.
    let s := n - hangulBase
    let lead := 0x1100 + s / 588
    let vowel := 0x1161 + s % 588 / 28
    if s % 28 = 0 then [lead, vowel] else [lead, vowel, 0x11a7 + s % 28]
  else
    match searchSorted decompositions (fun e => compare n e.1) with
    | some (_, parts) => parts
    | none => [n]

/-- The combining class of a code point. -/
def combiningClass (n : Nat) : Nat :=
  match searchSorted combiningClasses (fun e => sideOfRange n e.1) with
  | some (_, k) => k
  | none => 0

/-- Where a pair lies as seen from another one, by the first and then the second part. -/
def sideOfPair (a b : Nat) (p : Nat × Nat) : Ordering :=
  (compare a p.1).then (compare b p.2)

/-- The code point that two code points compose to. -/
def compose? (a b : Nat) : Option Nat :=
  if 0x1100 ≤ a ∧ a < 0x1113 ∧ 0x1161 ≤ b ∧ b < 0x1176 then
    some (hangulBase + ((a - 0x1100) * 21 + (b - 0x1161)) * 28)
  else if hangulBase ≤ a ∧ a < hangulBase + 11172 ∧ (a - hangulBase) % 28 = 0 ∧
      0x11a8 ≤ b ∧ b < 0x11c3 then
    some (a + (b - 0x11a7))
  else (searchSorted compositions (fun e => sideOfPair a b e.1)).map (·.2)

/-- Puts a code point of a class other than zero behind those of its run that may stay before it:
`run` is the text so far, in reverse. -/
def insertByClass (n k : Nat) : List (Nat × Nat) → List (Nat × Nat)
  | [] => [(n, k)]
  | (m, j) :: rest =>
    if k < j then (m, j) :: insertByClass n k rest else (n, k) :: (m, j) :: rest

/-- The canonical order of a decomposed text, in reverse, each code point with its class. -/
def orderReversed (ns : List Nat) : List (Nat × Nat) :=
  ns.foldl (fun run n =>
    let k := combiningClass n
    if k = 0 then (n, 0) :: run else insertByClass n k run) []

/-- The state of composing: the text before the last starter, in reverse; that starter; and the
characters after it that stayed separate, in reverse, each with its class. -/
structure Composing where
  before : List Nat
  starter : Option Nat
  pending : List (Nat × Nat)

/-- The text of a state of composing, in reverse. -/
def Composing.flush (s : Composing) : List Nat :=
  s.pending.map (·.1) ++ s.starter.toList ++ s.before

/-- Takes the next character: it joins the last starter if nothing stands between that blocks it
and the two compose; otherwise it stays, and becomes the last starter if it is one. -/
def Composing.step (s : Composing) (e : Nat × Nat) : Composing :=
  let (n, k) := e
  let stays : Composing :=
    if k = 0 then ⟨s.flush, some n, []⟩ else { s with pending := (n, k) :: s.pending }
  match s.starter with
  | none => stays
  | some a =>
    let blocked := match s.pending with
      | [] => false
      | (_, j) :: _ => k ≤ j
    if blocked then stays
    else match compose? a n with
      | some c => { s with starter := some c }
      | none => stays

/-- The compatibility normal form of a text. -/
def normalize (cs : List Char) : List Char :=
  let ordered := (orderReversed (cs.flatMap fun c => decompose c.toNat)).reverse
  (ordered.foldl Composing.step ⟨[], none, []⟩).flush.reverse.map Char.ofNat

end Standin.Text.Normal
