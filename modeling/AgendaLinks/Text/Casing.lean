import AgendaLinks.Text.Basic
import AgendaLinks.Text.Spans

/-!
Small letters. Below code point 128 the capitals `A` to `Z` have small forms; above it the forms come
from tables of Unicode 14. A capital sigma becomes a final sigma at the end of a word.
-/

namespace AgendaLinks.Text

/-- Characters from `first` on, `step` apart, whose small forms lie `shift` code points further. -/
private structure CaseRun where
  first : Nat
  count : Nat
  step : Nat
  shift : Int

private def caseRuns : List CaseRun :=
  [⟨65, 26, 1, 32⟩, ⟨192, 23, 1, 32⟩, ⟨216, 7, 1, 32⟩, ⟨256, 24, 2, 1⟩, ⟨306, 3, 2, 1⟩,
    ⟨313, 8, 2, 1⟩, ⟨330, 23, 2, 1⟩, ⟨376, 1, 1, -121⟩, ⟨377, 3, 2, 1⟩, ⟨385, 1, 1, 210⟩,
    ⟨386, 2, 2, 1⟩, ⟨390, 1, 1, 206⟩, ⟨391, 1, 1, 1⟩, ⟨393, 2, 1, 205⟩, ⟨395, 1, 1, 1⟩,
    ⟨398, 1, 1, 79⟩, ⟨399, 1, 1, 202⟩, ⟨400, 1, 1, 203⟩, ⟨401, 1, 1, 1⟩, ⟨403, 1, 1, 205⟩,
    ⟨404, 1, 1, 207⟩, ⟨406, 1, 1, 211⟩, ⟨407, 1, 1, 209⟩, ⟨408, 1, 1, 1⟩, ⟨412, 1, 1, 211⟩,
    ⟨413, 1, 1, 213⟩, ⟨415, 1, 1, 214⟩, ⟨416, 3, 2, 1⟩, ⟨422, 1, 1, 218⟩, ⟨423, 1, 1, 1⟩,
    ⟨425, 1, 1, 218⟩, ⟨428, 1, 1, 1⟩, ⟨430, 1, 1, 218⟩, ⟨431, 1, 1, 1⟩, ⟨433, 2, 1, 217⟩,
    ⟨435, 2, 2, 1⟩, ⟨439, 1, 1, 219⟩, ⟨440, 1, 1, 1⟩, ⟨444, 1, 1, 1⟩, ⟨452, 1, 1, 2⟩,
    ⟨453, 1, 1, 1⟩, ⟨455, 1, 1, 2⟩, ⟨456, 1, 1, 1⟩, ⟨458, 1, 1, 2⟩, ⟨459, 9, 2, 1⟩, ⟨478, 9, 2, 1⟩,
    ⟨497, 1, 1, 2⟩, ⟨498, 2, 2, 1⟩, ⟨502, 1, 1, -97⟩, ⟨503, 1, 1, -56⟩, ⟨504, 20, 2, 1⟩,
    ⟨544, 1, 1, -130⟩, ⟨546, 9, 2, 1⟩, ⟨570, 1, 1, 10795⟩, ⟨571, 1, 1, 1⟩, ⟨573, 1, 1, -163⟩,
    ⟨574, 1, 1, 10792⟩, ⟨577, 1, 1, 1⟩, ⟨579, 1, 1, -195⟩, ⟨580, 1, 1, 69⟩, ⟨581, 1, 1, 71⟩,
    ⟨582, 5, 2, 1⟩, ⟨880, 2, 2, 1⟩, ⟨886, 1, 1, 1⟩, ⟨895, 1, 1, 116⟩, ⟨902, 1, 1, 38⟩,
    ⟨904, 3, 1, 37⟩, ⟨908, 1, 1, 64⟩, ⟨910, 2, 1, 63⟩, ⟨913, 17, 1, 32⟩, ⟨931, 9, 1, 32⟩,
    ⟨975, 1, 1, 8⟩, ⟨984, 12, 2, 1⟩, ⟨1012, 1, 1, -60⟩, ⟨1015, 1, 1, 1⟩, ⟨1017, 1, 1, -7⟩,
    ⟨1018, 1, 1, 1⟩, ⟨1021, 3, 1, -130⟩, ⟨1024, 16, 1, 80⟩, ⟨1040, 32, 1, 32⟩, ⟨1120, 17, 2, 1⟩,
    ⟨1162, 27, 2, 1⟩, ⟨1216, 1, 1, 15⟩, ⟨1217, 7, 2, 1⟩, ⟨1232, 48, 2, 1⟩, ⟨1329, 38, 1, 48⟩,
    ⟨4256, 38, 1, 7264⟩, ⟨4295, 1, 1, 7264⟩, ⟨4301, 1, 1, 7264⟩, ⟨5024, 80, 1, 38864⟩,
    ⟨5104, 6, 1, 8⟩, ⟨7312, 43, 1, -3008⟩, ⟨7357, 3, 1, -3008⟩, ⟨7680, 75, 2, 1⟩,
    ⟨7838, 1, 1, -7615⟩, ⟨7840, 48, 2, 1⟩, ⟨7944, 8, 1, -8⟩, ⟨7960, 6, 1, -8⟩, ⟨7976, 8, 1, -8⟩,
    ⟨7992, 8, 1, -8⟩, ⟨8008, 6, 1, -8⟩, ⟨8025, 4, 2, -8⟩, ⟨8040, 8, 1, -8⟩, ⟨8072, 8, 1, -8⟩,
    ⟨8088, 8, 1, -8⟩, ⟨8104, 8, 1, -8⟩, ⟨8120, 2, 1, -8⟩, ⟨8122, 2, 1, -74⟩, ⟨8124, 1, 1, -9⟩,
    ⟨8136, 4, 1, -86⟩, ⟨8140, 1, 1, -9⟩, ⟨8152, 2, 1, -8⟩, ⟨8154, 2, 1, -100⟩, ⟨8168, 2, 1, -8⟩,
    ⟨8170, 2, 1, -112⟩, ⟨8172, 1, 1, -7⟩, ⟨8184, 2, 1, -128⟩, ⟨8186, 2, 1, -126⟩, ⟨8188, 1, 1, -9⟩,
    ⟨8486, 1, 1, -7517⟩, ⟨8490, 1, 1, -8383⟩, ⟨8491, 1, 1, -8262⟩, ⟨8498, 1, 1, 28⟩,
    ⟨8544, 16, 1, 16⟩, ⟨8579, 1, 1, 1⟩, ⟨9398, 26, 1, 26⟩, ⟨11264, 48, 1, 48⟩, ⟨11360, 1, 1, 1⟩,
    ⟨11362, 1, 1, -10743⟩, ⟨11363, 1, 1, -3814⟩, ⟨11364, 1, 1, -10727⟩, ⟨11367, 3, 2, 1⟩,
    ⟨11373, 1, 1, -10780⟩, ⟨11374, 1, 1, -10749⟩, ⟨11375, 1, 1, -10783⟩, ⟨11376, 1, 1, -10782⟩,
    ⟨11378, 1, 1, 1⟩, ⟨11381, 1, 1, 1⟩, ⟨11390, 2, 1, -10815⟩, ⟨11392, 50, 2, 1⟩, ⟨11499, 2, 2, 1⟩,
    ⟨11506, 1, 1, 1⟩, ⟨42560, 23, 2, 1⟩, ⟨42624, 14, 2, 1⟩, ⟨42786, 7, 2, 1⟩, ⟨42802, 31, 2, 1⟩,
    ⟨42873, 2, 2, 1⟩, ⟨42877, 1, 1, -35332⟩, ⟨42878, 5, 2, 1⟩, ⟨42891, 1, 1, 1⟩,
    ⟨42893, 1, 1, -42280⟩, ⟨42896, 2, 2, 1⟩, ⟨42902, 10, 2, 1⟩, ⟨42922, 1, 1, -42308⟩,
    ⟨42923, 1, 1, -42319⟩, ⟨42924, 1, 1, -42315⟩, ⟨42925, 1, 1, -42305⟩, ⟨42926, 1, 1, -42308⟩,
    ⟨42928, 1, 1, -42258⟩, ⟨42929, 1, 1, -42282⟩, ⟨42930, 1, 1, -42261⟩, ⟨42931, 1, 1, 928⟩,
    ⟨42932, 8, 2, 1⟩, ⟨42948, 1, 1, -48⟩, ⟨42949, 1, 1, -42307⟩, ⟨42950, 1, 1, -35384⟩,
    ⟨42951, 2, 2, 1⟩, ⟨42960, 1, 1, 1⟩, ⟨42966, 2, 2, 1⟩, ⟨42997, 1, 1, 1⟩, ⟨65313, 26, 1, 32⟩,
    ⟨66560, 40, 1, 40⟩, ⟨66736, 36, 1, 40⟩, ⟨66928, 19, 2, 39⟩, ⟨66929, 10, 1, 39⟩,
    ⟨66941, 14, 1, 39⟩, ⟨66957, 6, 1, 39⟩, ⟨66965, 1, 1, 39⟩, ⟨68736, 51, 1, 64⟩,
    ⟨71840, 32, 1, 32⟩, ⟨93760, 32, 1, 32⟩, ⟨125184, 34, 1, 34⟩]

/-- The character whose code point is the one small letter that a character has, if it has one. -/
private def smallForm? (n : Nat) : Option Nat :=
  (caseRuns.find? fun run =>
    run.first ≤ n && n < run.first + run.count * run.step && (n - run.first) % run.step == 0).map
    fun run => ((n : Int) + run.shift).toNat

/-- The single small letter of a character, or the character itself. -/
def smallChar (c : Char) : Char :=
  let n := c.toNat
  if n < 128 then if 65 ≤ n && n ≤ 90 then Char.ofNat (n + 32) else c
  else if n = 0x130 then 'i'
  else ((smallForm? n).map Char.ofNat).getD c

private theorem bounds_of_mem_caseRuns : ∀ run ∈ caseRuns,
    run.first + run.count * run.step ≤ 128 ∨ run.first = 0x212a ∧ run.count * run.step = 1 ∨
      (128 ≤ run.first + run.shift ∧ run.first + (run.count * run.step : Nat) + run.shift ≤ 0xd800) ∨
      0xe000 ≤ run.first + run.shift ∧
        run.first + (run.count * run.step : Nat) + run.shift ≤ 0x110000 := by
  decide +kernel

private theorem of_smallForm? {n m : Nat} (hn : 128 ≤ n) (h : smallForm? n = some m) :
    n = 0x212a ∨ 128 ≤ m ∧ m.isValidChar := by
  obtain ⟨run, hfind, rfl⟩ := Option.map_eq_some_iff.1 h
  have hrun := List.find?_some hfind
  simp only [Bool.and_eq_true, decide_eq_true_eq] at hrun
  obtain ⟨⟨hfirst, hlast⟩, -⟩ := hrun
  have hbounds := bounds_of_mem_caseRuns run (List.mem_of_find?_eq_some hfind)
  unfold Nat.isValidChar
  omega

/-- Of all characters from code point 128 on, only the capital I with a dot and the sign for kelvin have a
small letter before it. -/
theorem of_smallChar_lt {c : Char} (h : (smallChar c).toNat < 128) :
    c.toNat < 128 ∨ c.toNat = 0x130 ∨ c.toNat = 0x212a := by
  rw [smallChar] at h
  split at h
  · exact Or.inl ‹_›
  · split at h
    · exact Or.inr (Or.inl ‹_›)
    · cases hform : smallForm? c.toNat with
      | none =>
          rw [hform] at h
          exact Or.inl h
      | some m =>
          rw [hform, Option.map_some, Option.getD_some] at h
          rcases of_smallForm? (by omega) hform with hkelvin | ⟨hm, hvalid⟩
          · exact Or.inr (Or.inr hkelvin)
          · rw [Char.ofNat, dif_pos hvalid] at h
            change m < 128 at h
            omega

/-- The code points, other than its own, whose single small letter has a given code point. -/
def capitalsOf (n : Nat) : List Nat :=
  let runs := caseRuns.filterMap fun run =>
    let m := (n : Int) - run.shift
    let offset := m - run.first
    if 0 ≤ offset ∧ offset < run.count * run.step ∧ offset % run.step = 0 then some m.toNat else none
  if n = 0x69 then 0x130 :: runs else runs

private def casedSpans : Spans := Spans.ofTable
  "1t p 6 p 1b 0 a 0 4 0 5 m 1 u 1 5e 1 3 4 5r 1 q 5c 3 2 1 3 2 1 0 6 0 1 2 1 0 1 j 1 2a 1 3u
    8 4l 1 11 9 14 26v 11 1 0 5 0 2 16 2 2 io 2d 2 5 1oi 8 7 16 2 2 1s 17 1r c 1 x 2t 7p 2 5 2
    11 2 5 2 7 1 0 1 0 1 0 1 u 2 1g 1 6 1 0 3 2 1 6 3 3 2 5 4 c 5 2 1 6 79 0 4 0 2 9 1 0 3 4 6
    0 1 0 1 0 1 3 1 5 4 0 2 3 5 4 4 0 h v 3 1 mp 1f 1ee 3f 2 2u 6 3 3 1 c 11 1 0 5 0 nwy 19 i
    r 3q 25 1 m 3 3 1 1m 5 1 1 0 1 4 r 1 3 0 mt 16 5 8 7 27 fnk 6 c 4 sp p 6 p x1 27 2o z 4 z
    38 a 1 e 1 6 1 1 1 a 1 e 1 6 1 1 1c3 1e d 1e 2b1 1r gv4 1r k1s 2c 1 1y 1 1 2 0 2 1 2 3 1 b
    1 0 1 6 1 1s 1 3 2 7 1 6 1 r 1 3 1 4 1 0 3 6 1 9f 2 o 1 o 1 u 1 o 1 u 1 o 1 u 1 o 1 u 1 o
    1 7 1f8 9 1 j 1y9 1v 1kc p 6 p 6 p"

/-- Letters that take part in the difference of case. -/
private def isCased (c : Char) : Bool :=
  if c.toNat < 128 then c.isAlpha else casedSpans.contains c.toNat

private def passedOverSpans : Spans := Spans.ofTable
  "13 0 6 0 b 0 z 0 1 0 1z 0 4 0 1 0 4 0 2 1 dz 5b 4 1 4 0 9 1 1 0 6z 6 5r 0 5 0 1d 18 1 0 1
    1 1 1 1 0 18 0 b 5 a a 1 0 z 0 a k g 0 2t 7 1 9 1 3 x 0 1 0 u q 2j a 1m a 4 0 2 0 o n 17 2
    18 0 7 1 6 7 15 1l 1j 0 1 0 4 7 4 0 3 6 a 1 d 0 f 0 1m 0 4 3 8 0 k 1 q 0 2 1 1l 0 4 1 4 1
    2 2 3 0 u 1 3 0 b 1 1l 0 4 4 1 1 4 0 k 1 m 5 1 0 1m 0 2 0 1 3 8 0 7 1 b 1 u 0 1p 0 c 0 1e
    0 3 0 1j 0 1 2 5 2 1 3 7 1 b 1 t 0 1m 0 2 0 6 0 5 1 k 1 s 1 1l 1 4 3 8 0 k 1 t 0 20 0 7 2
    1 0 2i 0 2 6 b 8 2q 0 2 8 9 0 1 5 22 1 r 0 1 0 1 0 1j d 1 4 1 1 5 a 1 z 9 0 2u 3 1 5 1 1 2
    1 p 1 4 2 g 3 d 0 2 1 6 0 f 0 2m 0 gw 2 qa 2 t 1 u 1 u 1 1s 1 1 6 8 0 2 a 3 0 5 0 19 4 1f
    0 1t 1 y 0 3a 2 4 1 9 0 6 2 63 1 2 0 1m 0 1 6 1 0 1 0 2 7 6 9 2 0 13 0 8 u 1d 3 1c 0 1 4 1
    0 5 0 14 8 c 1 w 3 2 1 1 2 1k 0 1 1 3 0 1 2 1m 7 2 1 1s 5 2a 2 1 c 1 6 4 0 6 0 3 1 1e 1q d
    0 y 2s cd 0 1 2 b 2 d 2 d 2 d 1 c 4 8 1 a 0 2 0 2 4 1d 4 1 9 1 0 d 0 g c 1f w 2a3 1 35 2
    3h 0 f 0 2o v 1b 0 d1 0 10 3 3 4 5 0 2l 5 2l 2 lxy 0 yq 5 7i 0 2q 3 1 9 1 0 s 3 28 1 e x
    26 0 n 2 2v 2 3 1 8 0 3 0 4 0 p 1 5 0 47 1 q h d 0 12 7 p a 1a 2 1c 0 2 3 2 1 h 0 l 1 1u 5
    2 1 2 1 c 0 8 0 z 0 b 0 1f 0 1 2 2 1 5 1 1 0 r 0 e 1 5 1 1 0 2s 4 9 2 3d 0 2 0 4 0 fn4 0
    43 g fx f 3 0 c f y 0 2 0 4p 0 7 0 6 0 b 0 z 0 1 0 1b 0 19 1 1v 0 l 2 e9 0 6a 0 45 4 sl 5
    1 15 1 8 g6 2 1 1 5 3 14 2 4 0 4l 1 fx 3 ar 1 49 a 1d 3 3f 0 1i e 15 0 2 1 a 2 1d 3 2 1 2
    0 4 0 a 0 1e 2 10 4 1 7 1q 0 c 1 1g 8 a 3 2 0 2n 2 2 0 1 1 6 0 4g 0 3 7 l 1 1l 1 3 0 11 6
    3 4 5f 7 2 2 1 0 n 0 2c 5 1 0 4 1 1 1 6m 3 6 1 1 1 r 1 2d 7 2 0 1 1 2y 0 1 0 2 5 1 0 2t 2
    2 3 1 4 77 8 1 1 74 1 1 0 4 0 40 3 2 1 4 0 w 9 14 5 2 3 8 0 9 5 2 2 1a c 1 1 ba 6 1 5 1 0
    2a l 2 6 1 1 1 1 3e 5 3 0 1 1 1 6 1 0 20 1 3 0 1 0 9n 1 46z 8 at3 4 1n 6 9 3 sr 0 1r g 1s
    1 1 1 cnf 3 1 6 1 1 2hq 1 1 3 3mk 19 2 m f4 2 9 f 2 6 u 3 44 2 1iz 1i 4 1d 8 0 e 0 m 4 1 e
    11s 6 1 g 2 6 1 1 1 4 79 d a8 0 1p 3 15s 6 31 7 23z 4 gx6p 0 u 2n 3k 6n"

/-- Characters inside a word that are passed over in the search for its last letter. -/
private def isPassedOver (c : Char) : Bool := passedOverSpans.contains c.toNat

/-- Whether the next character that is not passed over is a letter with case. -/
private def meetsCased (t : Text) : Bool :=
  match t.dropWhile isPassedOver with
  | [] => false
  | c :: _ => isCased c

/-- The small form of a character between the text before it, reversed, and the text after it. -/
def smallAt (before : Text) (c : Char) (after : Text) : Text :=
  if c = 'Σ' then
    if meetsCased before && !meetsCased after then ['ς'] else ['σ']
  else if c = 'İ' then ['i', '\u0307']
  else [smallChar c]

/-- The small forms of a text after the text before it, which is reversed. -/
def lowerAfter (before : Text) : Text → Text
  | [] => []
  | c :: cs => smallAt before c cs ++ lowerAfter (c :: before) cs

/-- A text in small letters. -/
def lower (t : Text) : Text := lowerAfter [] t

/-- What of the Latin alphabet without marks stands for a character in a text in capitals. -/
private def latinCapital (c : Char) : Text :=
  if c = 'ı' then ['I']
  else if c = 'ſ' then ['S']
  else if c = '\uFB05' ∨ c = '\uFB06' then ['S', 'T']
  else [c.toUpper]

/-- A text in capitals, as far as the capitals are of the Latin alphabet without marks; every other
character stays, and so do the joined letters of which `S` and `T` are not the last ones. -/
def latinUpper (t : Text) : Text := t.flatMap latinCapital

end AgendaLinks.Text
