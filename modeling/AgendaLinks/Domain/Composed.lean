import AgendaLinks.Text.Basic
import AgendaLinks.Text.Spans

/-!
Composed form: marks stand in the order of their classes, and a character with a mark is written as one
character where there is one. The tables hold the characters that may stand in the names of domains;
syllables of jamo are not among their parts.
-/

namespace AgendaLinks.Domain

/-- Threes of numbers of a table, the first of each counted from the first before it. -/
private def triplesFrom (start : Nat) : List Nat → List (Nat × Nat × Nat)
  | gap :: a :: b :: rest => (start + gap, a, b) :: triplesFrom (start + gap) rest
  | _ => []

/-- Characters with the two that they are composed of. -/
private def compositions : List (Nat × Nat × Nat) := triplesFrom 0 <| Text.readNumbers
  "68 2p lc 1 2p ld 1 2p le 1 2p lf 1 2p lk 1 2p lm 2 2r mf 1 2t lc 1 2t ld 1 2t le 1 2t lk 1 2x
    lc 1 2x ld 1 2x le 1 2x lk 2 32 lf 1 33 lc 1 33 ld 1 33 le 1 33 lf 1 33 lk 3 39 lc 1 39 ld 1
    39 le 1 39 lk 1 3d ld 2 3d lk 2 2p lg 2 2p li 2 2p mg 2 2r ld 2 2r le 2 2r lj 2 2r lo 2 2s
    lo 4 2t lg 2 2t li 2 2t lj 2 2t mg 2 2t lo 2 2v le 2 2v li 2 2v lj 2 2v mf 2 2w le 4 2x lf 2
    2x lg 2 2x li 2 2x mg 6 2y le 2 2z mf 3 30 ld 2 30 mf 2 30 lo 6 32 ld 2 32 mf 2 32 lo 5 33
    lg 2 33 li 2 33 ln 4 36 ld 2 36 mf 2 36 lo 2 37 ld 2 37 le 2 37 mf 2 37 lo 2 38 mf 2 38 lo 4
    39 lf 2 39 lg 2 39 li 2 39 lm 2 39 ln 2 39 mg 2 3b le 2 3d le 3 3e ld 2 3e lj 2 3e lo z 33
    m3 f 39 m3 u 2p lo 2 2x lo 2 33 lo 2 39 lo 2 70 lg 2 70 ld 2 70 lo 2 70 lc 3 6c lg 2 fb lg 2
    6e lg 4 2v lo 2 2z lo 2 33 mg 2 dn lg 2 ia lo 1 2y lo 5 2v ld 4 32 lc 2 6d ld 2 6e ld 2 6w
    ld 2 2p lr 2 2p lt 2 2t lr 2 2t lt 2 2x lr 2 2x lt 2 33 lr 2 33 lt 2 36 lr 2 36 lt 2 39 lr 2
    39 lt 2 37 me 2 38 me 4 2w lo 8 2p lj 2 2t mf 2 6u lg 2 6t lg 2 33 lj 2 fj lg 2 3d lg 9p qy
    ld s q9 ld 1 qd ld 1 qf ld 1 qh ld 1 qz ld q qh lk 1 qt lk 1 qn ld 1 qt ld 1 qx ld 2z u0 li
    n tx lc 1 tx lk 2 tv ld 4 uu lk 5 u2 ld 1 u0 lc 1 ub li p vp lr 23 ty li f ts li 2 ts lk 4
    tx li 4 yh lk 2 ty lk 2 tz lk 4 u0 lg 2 u0 lk 2 u6 lk 4 yx lk 2 ul lk 2 ub lg 2 ub lk 2 ub
    ln 2 uf lk 4 uj lk 89 17r 18z 1 17r 190 1 18o 190 1 17r 191 1 18q 190 4a 1cl 190 2 1c1 190 h
    1ci 190 gm 1t4 1to 8 1tc 1to 3 1tf 1to 47 1xj 1xa 1 1xj 1xz ak 287 28m 3 287 27y 1 287 28n
    20 2aa 2c7 1i 2bq 2bi 1 2br 2bi 1 2bq 2c7 3g 2fa 2fq 3c 2in 2j9 7 2iu 2j9 1 2iu 2ja 2 2iu
    2iq 1 2iy 2j9 3j 2me 2m6 1 2mf 2m6 1 2me 2mv 3y 2qh 2q2 2 2qh 2q7 1 2qk 2q2 1 2qh 2qn g8 36t
    372 25c 5c5 5dh 2 5c7 5dh 2 5c9 5dh 2 5cb 5dh 2 5cd 5dh 4 5ch 5dh 15 5dm 5dh 2 5do 5dh 3 5dq
    5dh 1 5dr 5dh 2 5du 5dh ji 2p md 2 2q lj 2 2q mb 2 2q mp 2 6f ld 2 2s lj 2 2s mb 2 2s mp 2
    2s mf 2 2s ml 2 7n lc 2 7n ld 2 2t ml 2 2t mo 2 fd li 2 2u lj 2 2v lg 2 2w lj 2 2w mb 2 2w
    lk 2 2w mf 2 2w mm 2 2x mo 2 6n ld 2 2z ld 2 2z mb 2 2z mp 2 30 mb 2 5yv lg 2 30 mp 2 30 ml
    2 31 ld 2 31 lj 2 31 mb 2 32 lj 2 32 mb 2 32 mp 2 32 ml 2 6t ld 2 6t lk 2 99 lc 2 99 ld 2 34
    ld 2 34 lj 2 36 lj 2 36 mb 2 5zv lg 2 36 mp 2 37 lj 2 37 mb 2 9n lj 2 9t lj 2 603 lj 2 38 lj
    2 38 mb 2 38 mp 2 38 ml 2 39 mc 2 39 mo 2 39 ml 2 a1 ld 2 a3 lk 2 3a lf 2 3a mb 2 3b lc 2 3b
    ld 2 3b lk 2 3b lj 2 3b mb 2 3c lj 2 3c lk 2 3d lj 2 3e le 2 3e mb 2 3e mp 1 2w mp 1 38 lk 1
    3b lm 1 3d lm 8 2p mb 2 2p ll 2 6a ld 2 6a lc 2 6a ll 2 6a lf 2 61t le 2 77 ld 2 77 lc 2 77
    ll 2 77 lf 2 61t li 2 2t mb 2 2t ll 2 2t lf 2 6i ld 2 6i lc 2 6i ll 2 6i lf 2 62h le 2 2x ll
    2 2x mb 2 33 mb 2 33 ll 2 6s ld 2 6s lc 2 6s ll 2 6s lf 2 631 le 2 bl ld 2 bl lc 2 bl ll 2
    bl lf 2 bl mb 2 39 mb 2 39 ll 2 c0 ld 2 c0 lc 2 c0 ll 2 c0 lf 2 c0 mb 2 3d lc 2 3d mb 2 3d
    ll 2 3d lf 7 q9 lv 1 q9 lw 1 64g lc 1 64h lc 1 64g ld 1 64h ld 1 64g n6 1 64h n6 9 qd lv 1
    qd lw 1 64w lc 1 64x lc 1 64w ld 1 64x ld b qf lv 1 qf lw 1 65c lc 1 65d lc 1 65c ld 1 65d
    ld 1 65c n6 1 65d n6 9 qh lv 1 qh lw 1 65s lc 1 65t lc 1 65s ld 1 65t ld 1 65s n6 1 65t n6 9
    qn lv 1 qn lw 1 668 lc 1 669 lc 1 668 ld 1 669 ld b qt lv 1 qt lw 1 66o lc 1 66p lc 1 66o ld
    1 66p ld 1 66o n6 1 66p n6 9 qx lv 1 qx lw 1 674 lc 1 675 lc 1 674 ld 1 675 ld 1 674 n6 1
    675 n6 9 q9 lc 2 qd lc 2 qf lc 2 qh lc 2 qn lc 2 qt lc 2 qx lc 1g q9 li 1 q9 lg 5 q9 n6 g qf
    n6 a qh li 1 qh lg 1 qy lc 4 qh n6 1 qy n6 9 qt li 1 qt lg 1 qz lc 2 qp lv 1 qp lw 1 qt n6 1
    qz n6 f qx n6 386 9jf 9ll 2 9jh 9ll 2 9jj 9ll 2 9jl 9ll 2 9jn 9ll 2 9jp 9ll 2 9jr 9ll 2 9jt
    9ll 2 9jv 9ll 2 9jx 9ll 2 9jz 9ll 2 9k1 9ll 3 9k4 9ll 2 9k6 9ll 2 9k8 9ll 7 9kf 9ll 1 9kf
    9lm 2 9ki 9ll 1 9ki 9lm 2 9kl 9ll 1 9kl 9lm 2 9ko 9ll 1 9ko 9lm 2 9kr 9ll 1 9kr 9lm n 9ja
    9ll a 9lp 9ll e 9m3 9ll 2 9m5 9ll 2 9m7 9ll 2 9m9 9ll 2 9mb 9ll 2 9md 9ll 2 9mf 9ll 2 9mh
    9ll 2 9mj 9ll 2 9ml 9ll 2 9mn 9ll 2 9mp 9ll 3 9ms 9ll 2 9mu 9ll 2 9mw 9ll 7 9n3 9ll 1 9n3
    9lm 2 9n6 9ll 1 9n6 9lm 2 9n9 9ll 1 9n9 9lm 2 9nc 9ll 1 9nc 9lm 2 9nf 9ll 1 9nf 9lm n 9ly
    9ll 3 9nz 9ll 1 9o0 9ll 1 9o1 9ll 1 9o2 9ll 4 9od 9ll 1864 1huh 1hve 2 1huj 1hve f 1hut 1hve
    3n 1hyp 1hyf 1 1hyq 1hyf f0 1idj 1ida 1 1idj 1idz a7 1int 1inu 1 1int 1ink 2 1int 1inx 70
    1iuw 1iun 1 1iux 1iun ot 1jjp 1jjk"

/-- Ranges of characters with the class of the marks in them. -/
private def markRangesFrom (start : Nat) : List Nat → List (Nat × Nat × Nat)
  | gap :: extra :: k :: rest =>
    (start + gap, start + gap + extra, k) :: markRangesFrom (start + gap + extra + 1) rest
  | _ => []

private def markRanges : List (Nat × Nat × Nat) := markRangesFrom 0 <| Text.readNumbers
  "lc k 6e 0 0 6g 0 3 64 0 0 6g 0 0 60 0 4 64 0 1 5m 0 3 64 0 1 5m 0 a 64 0 4 1 0 3 64 0 2 6e 2
    0 6e 3 0 6e 0 2 64 0 2 6e 0 1 64 1 2 6e 0 3 64 0 0 6e 0 0 6g 0 1 64 0 0 6e 0 0 6h 0 1 6i 0 0
    6h 0 1 6i 0 0 6h 0 c 6e 7n 4 6e 7d 0 64 0 3 6e 0 0 64 0 2 6e 0 0 66 0 0 64 0 5 6e 0 5 64 0 1
    6e 0 0 64 0 1 6e 0 0 66 0 0 6c 0 0 6e 0 0 a 0 0 b 0 0 c 0 0 d 0 0 e 0 0 f 0 0 g 0 0 h 0 0 i
    0 1 j 0 0 k 0 0 l 0 0 m 1 0 n 1 0 o 0 0 p 1 0 6e 0 0 64 1 0 i 20 7 6e 0 0 u 0 0 v 0 0 w 1c 0
    r 0 0 s 0 0 t 0 0 u 0 0 v 0 0 w 0 0 x 0 0 y 0 1 6e 0 1 64 0 4 6e 0 0 64 0 1 6e 0 0 64 g 0 z
    2t 6 6e 2 3 6e 0 0 64 0 0 6e 2 1 6e 1 0 64 0 1 6e 0 0 64 z 0 10 u 0 6e 0 0 64 0 1 6e 0 0 64
    0 1 6e 0 2 64 0 0 6e 0 1 64 0 0 6e 0 0 64 0 2 6e 0 0 64 0 0 6e 0 0 64 0 0 6e 0 0 64 0 0 6e 0
    0 64 0 1 6e 4g 6 6e 0 0 64 0 0 6e 9 0 64 o 3 6e 1 8 6e 1 2 6e 1 4 6e 17 2 64 1o 0 6e 0 2 64
    0 3 6e 16 4 6e 0 4 64 0 d 6e 1 0 64 0 1 6e 0 0 64 0 1 6e 0 0 64 0 2 6e 0 2 64 0 0 r 0 0 s 0
    0 t 0 2 6e 0 0 64 0 1 6e 0 1 64 0 4 6e 1o 0 7 g 0 9 3 0 6e 0 0 64 0 1 6e 2v 0 7 g 0 9 1c 0
    6e 1p 0 7 g 0 9 32 0 7 g 0 9 32 0 7 g 0 9 3j 0 9 32 0 7 g 0 9 7 0 2c 0 0 2j 2t 0 7 g 0 9 31
    1 9 g 0 9 3g 0 9 31 1 2v 0 0 9 d 3 2z 30 1 3a 0 0 9 d 3 3e 24 1 64 r 0 64 1 0 64 1 0 60 1j 0
    3l 0 0 3m 1 0 3o 5 3 3m 2 0 3m 1 1 6e 0 0 9 1 1 6e 1q 0 64 34 0 7 1 1 9 2a 0 64 jz 2 6e qc 1
    9 u 0 9 4d 0 9 a 0 6e 5n 0 6c 3z 0 66 0 0 6e 0 0 64 63 0 6e 0 0 64 1z 0 9 k 7 6e 2 0 64 1c 4
    6e 0 5 64 0 1 6e 0 0 64 1 1 64 0 1 6e 0 1 64 0 4 6e 0 0 64 0 3 6e 2t 0 7 f 0 9 12 0 6e 0 0
    64 0 6 6e 1i 1 9 1m 0 7 b 1 9 1v 0 7 48 2 6e 1 0 1 0 4 64 0 1 6e 0 3 64 0 0 6e 1 6 1 4 0 64
    6 0 6e 3 1 6e 5i 1 6e 0 0 64 0 6 6e 0 0 64 0 1 6e 0 0 6i 0 0 5y 0 0 64 0 0 5m 0 10 6e 0 0 6g
    0 1 6c 0 0 64 0 0 62 0 0 6e 0 0 6h 0 0 64 0 0 6e 0 0 64 2y7 2 6e 3x 0 9 2o v 6e fe 0 62 0 0
    6c 0 0 6g 0 0 66 2z 1 8 n9w 0 6e 4 9 6e w 1 6e 28 1 6e 7o 0 9 11 0 9 47 0 9 r h 6e 1l 2 64
    11 0 9 2n 0 7 c 0 9 6n 0 6e 1 1 6e 0 0 64 2 1 6e 5 1 6e 1 0 6e 1g 0 9 6u 0 9 fn4 0 q ld 6 6e
    0 6 64 0 1 6e r1 0 64 6a 0 64 45 4 6e 1aq 0 64 1 0 6e 14 0 6e 0 0 1 0 0 64 4 0 9 4l 0 6e 0 0
    64 fx 3 6e ar 1 6e 49 1 64 0 2 6e 0 0 64 0 0 6e 0 3 64 1d 0 6e 0 0 64 0 0 6e 0 0 64 5c 0 9
    15 0 9 e 0 9 1l 0 9 0 0 7 1x 2 6e 1c 1 9 1q 0 7 24 0 9 9 0 7 2y 0 9 0 0 7 4y 0 7 0 0 9 28 1
    7 g 0 9 o 6 6e 3 4 6e 5p 0 9 3 0 7 n 0 6e 2r 0 9 0 0 7 6z 0 9 0 0 7 3i 0 9 3a 0 9 0 0 7 37 0
    9 7h 0 9 0 0 7 76 1 9 4 0 7 4c 0 9 2b 0 9 i 0 9 29 0 9 bp 0 9 76 0 7 1 1 9 29 0 9 fa0 4 1 1n
    6 6e xl 1 6 f58 0 1 6zl 6 6e 1 g 6e 2 6 6e 1 1 6e 1 4 6e 79 6 6e af 0 6e 1p 3 6e 15s 6 64 31
    5 6e 0 0 7"

/-- The class of a mark; characters that are no marks have the class 0. -/
def markClass (c : Char) : Nat :=
  ((markRanges.find? fun r => r.1 ≤ c.toNat && c.toNat ≤ r.2.1).map (·.2.2)).getD 0

/-- The two characters that a character is composed of. -/
private def parts? (c : Char) : Option (Char × Char) :=
  (compositions.lookup c.toNat).map fun p => (Char.ofNat p.1, Char.ofNat p.2)

/-- The character that is composed of two. -/
private def whole? (a b : Char) : Option Char :=
  (compositions.find? fun r => r.2.1 = a.toNat && r.2.2 = b.toNat).map fun r => Char.ofNat r.1

/-- A character as a character and its marks; a part has parts itself at most twice. -/
private def decomposed : Nat → Char → Text
  | 0, c => [c]
  | n + 1, c =>
    match parts? c with
    | some (a, b) => decomposed n a ++ [b]
    | none => [c]

/-- A character put before a reversed text, behind the marks of higher classes. -/
private def insertMark (c : Char) : Text → Text
  | [] => [c]
  | d :: rest =>
    if markClass c ≠ 0 ∧ markClass c < markClass d then d :: insertMark c rest else c :: d :: rest

/-- A text with all its marks apart, in the order of their classes. -/
private def ordered (t : Text) : Text :=
  ((t.flatMap (decomposed 4)).foldl (fun done c => insertMark c done) []).reverse

/-- A text in the middle of being composed: what is done, the character that takes marks, and the marks
after it that it did not take, reversed. -/
private structure Composing where
  done : Text := []
  base : Option Char := none
  marks : Text := []

private def Composing.finished (s : Composing) : Text := s.done ++ s.base.toList ++ s.marks.reverse

private def Composing.push (s : Composing) (c : Char) : Composing :=
  let k := markClass c
  let taken := match s.base, s.marks with
    | some b, [] => whole? b c
    | some b, m :: _ => if markClass m < k then whole? b c else none
    | none, _ => none
  match taken with
  | some whole => { s with base := some whole }
  | none =>
    if k = 0 then { done := s.finished, base := some c } else { s with marks := c :: s.marks }

/-- A text in composed form. -/
def composed (t : Text) : Text := ((ordered t).foldl Composing.push {}).finished

end AgendaLinks.Domain
