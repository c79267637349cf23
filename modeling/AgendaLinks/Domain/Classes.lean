import AgendaLinks.Text.Spans

/-!
Classes of the characters that may stand in the names of domains. A few characters may stand only next
to certain others or together with certain others; for them the scripts and the ways of joining are
told here. The tables hold assigned characters of Unicode 14.
-/

namespace AgendaLinks.Domain.Classes

/-- Characters that may stand anywhere in a label. -/
def permitted : Spans := Spans.ofTable
  "19 0 2 9 13 p 2s n 1 7 1 0 1 0 1 0 1 0 1 0 1 0 1 0 1 0 1 0 1 0 1 0 1 0 1 0 1 0 1 0 1 0 1 0 1
    0 1 0 1 0 1 0 1 0 1 0 1 0 1 0 3 0 1 1 1 0 1 0 1 0 3 0 1 0 1 0 1 0 2 0 1 0 1 0 1 0 1 0 1 0 1
    0 1 0 1 0 1 0 1 0 1 0 1 0 1 0 1 0 1 0 1 0 1 0 1 0 1 0 1 0 1 0 1 0 2 0 1 0 1 0 1 0 2 0 1 0 2
    0 3 1 4 0 2 0 3 2 2 0 2 0 1 0 1 0 2 0 1 1 1 0 2 0 3 0 1 0 2 2 1 6 a 0 1 0 1 0 1 0 1 0 1 0 1
    0 1 1 1 0 1 0 1 0 1 0 1 0 1 0 1 0 1 0 1 1 4 0 3 0 1 0 1 0 1 0 1 0 1 0 1 0 1 0 1 0 1 0 1 0 1
    0 1 0 1 0 1 0 1 0 1 0 1 0 1 0 1 0 1 0 1 0 1 0 1 0 1 0 1 0 1 0 1 0 1 0 1 6 2 0 2 1 1 0 4 0 1
    0 1 0 1 0 1 2o 9 8 4 b q 0 1 0 h 1r 2 0 3 8 1 v 1 0 1 0 3 0 3 2 i 0 r y 8 0 1 0 1 0 1 0 1 0
    1 0 1 0 1 0 1 0 1 0 1 0 1 0 1 0 3 0 4 0 2 1 1f 1b 1 0 1 0 1 0 1 0 1 0 1 0 1 0 1 0 1 0 1 0 1
    0 1 0 1 0 1 0 1 0 1 0 1 0 1 4 3 0 1 0 1 0 1 0 1 0 1 0 1 0 1 0 1 0 1 0 1 0 1 0 1 0 1 0 1 0 1
    0 1 0 1 0 1 0 1 0 1 0 1 0 1 0 1 0 1 0 1 0 1 0 2 0 1 0 1 0 1 0 1 0 1 0 1 1 1 0 1 0 1 0 1 0 1
    0 1 0 1 0 1 0 1 0 1 0 1 0 1 0 1 0 1 0 1 0 1 0 1 0 1 0 1 0 1 0 1 0 1 0 1 0 1 0 1 0 1 0 1 0 1
    0 1 0 1 0 1 0 1 0 1 0 1 0 1 0 1 0 1 0 1 0 1 0 1 0 1 0 1 0 1 0 1 0 1 0 1 0 1 0 1 0 15 0 6 12
    1 0 8 18 1 0 1 1 1 1 1 0 8 q 4 3 t a 5 v 1 u e 6 4 2i 1 7 2 9 1 5 a 5 g 1m 2 2s e 1h 7 0 2
    19 i r 4 a 5 n 1 5 9 21 1 38 8 3 2 9 1 i 1 7 2 1 2 l 1 6 1 0 3 3 2 8 2 1 2 3 8 0 8 3 2 b a 0
    1 0 2 2 1 5 4 1 2 l 1 6 1 0 2 0 2 1 2 0 1 4 4 1 2 2 3 0 a 0 9 f b 2 1 8 1 2 1 l 1 6 1 1 1 4
    2 9 1 2 1 2 2 0 f 3 2 9 9 6 1 2 1 7 2 1 2 l 1 6 1 1 1 4 2 8 2 1 2 2 7 2 7 4 2 9 1 0 g 1 1 5
    3 2 1 3 3 1 1 0 1 1 3 1 3 2 3 b 4 4 3 2 1 3 2 0 6 0 e 9 g c 1 2 1 m 1 f 2 8 1 2 1 3 7 1 1 2
    2 0 2 3 2 9 g 3 1 7 1 2 1 m 1 9 1 4 2 8 1 2 1 3 7 1 6 1 1 3 2 9 1 1 d c 1 2 1 1e 1 2 1 4 5 3
    7 4 2 9 a 5 1 2 1 h 3 n 1 8 1 0 2 6 3 0 4 5 1 0 1 7 6 9 2 1 d 1d 1 6 5 e 1 9 13 1 1 0 1 4 1
    n 1 0 1 b 1 9 2 4 1 0 1 5 2 9 4 1 w 0 a 0 c 1 6 9 b 0 1 0 1 0 4 4 1 3 1 3 1 3 1 3 1 3 1 b 1
    2 4 1 1 0 5 6 1 2 1 c 1 3 1 3 1 3 1 3 1 3 1 b 1 2 9 0 1l 21 6 25 1e 16 2 2 74 20 1 3 2 6 1 0
    1 3 2 14 1 3 2 w 1 3 2 6 1 0 1 3 2 e 1 1k 1 3 2 1u 2 2 w f g 2d b h7 2 g 1 p 5 22 6 7 7 l 9
    l b j c c 1 2 1 1 c 1f 2 t 3 0 4 1 2 9 12 9 6 2g 7 16 5 1x a u 1 b 4 b a 13 2 4 b 17 4 p 6 9
    12 r 4 1q 1 s 2 a 6 9 d 0 8 d 1 f 1d 24 3 9 h 8 c 37 c 1j 8 9 3 1c 2a 2 1 12 5 17 3 0 b 0 i
    0 s c 1 x 11 1r 1 0 1 0 1 0 1 0 1 0 1 0 1 0 1 0 1 0 1 0 1 0 1 0 1 0 1 0 1 0 1 0 1 0 1 0 1 0
    1 0 1 0 1 0 1 0 1 0 1 0 1 0 1 0 1 0 1 0 1 0 1 0 1 0 1 0 1 0 1 0 1 0 1 0 1 0 1 0 1 0 1 0 1 0
    1 0 1 0 1 0 1 0 1 0 1 0 1 0 1 0 1 0 1 0 1 0 1 0 1 0 1 0 1 0 1 0 1 0 1 0 1 0 1 0 1 0 1 0 1 0
    1 0 1 0 1 0 1 0 1 0 1 0 1 0 1 0 1 0 1 4 2 1 1 0 1 0 1 0 1 0 1 0 1 0 1 0 1 0 1 0 1 0 1 0 1 0
    1 0 1 0 1 0 1 0 1 0 1 0 1 0 1 0 1 0 1 0 1 0 1 0 1 0 1 0 1 0 1 0 1 0 1 0 1 0 1 0 1 0 1 0 1 0
    1 0 1 0 1 0 1 0 1 0 1 0 1 0 1 0 1 0 1 0 1 0 1 0 1 0 1 8 8 5 a 7 8 7 8 5 a 7 8 7 8 0 1 0 1 0
    1 0 1 0 1 0 1 0 1f 1 4 0 f 0 9 2 3 1 8 2 1 3 e 0 9j 0 1h 0 23v 1b 1 0 3 1 1 0 1 0 1 0 4 0 1
    1 1 5 5 0 1 0 1 0 1 0 1 0 1 0 1 0 1 0 1 0 1 0 1 0 1 0 1 0 1 0 1 0 1 0 1 0 1 0 1 0 1 0 1 0 1
    0 1 0 1 0 1 0 1 0 1 0 1 0 1 0 1 0 1 0 1 0 1 0 1 0 1 0 1 0 1 0 1 0 1 0 1 0 1 0 1 0 1 0 1 0 1
    0 1 0 1 0 1 0 1 0 1 1 7 0 1 3 1 0 c 11 1 0 5 0 2 1j n n 9 6 1 6 1 6 1 6 1 6 1 6 1 6 1 6 1 v
    1b 0 d1 2 y 3 e 0 4 2d 2 1 2 1 2 2h 1 2 6 16 34 v 1c f e8 533 1s h3g 1v 19 2 7g 3 r l 0 1 0
    1 0 1 0 1 0 1 0 1 0 1 0 1 0 1 0 1 0 1 0 1 0 1 0 1 0 1 0 1 0 1 0 1 0 1 0 1 0 1 0 1 2 4 9 1 0
    1 0 1 0 1 0 1 0 1 0 1 0 1 0 1 0 1 0 1 0 1 0 1 0 1 0 1 0 2 1z a 1 11 8 3 0 1 0 1 0 1 0 1 0 1
    0 1 2 1 0 1 0 1 0 1 0 1 0 1 0 1 0 1 0 1 0 1 0 1 0 1 0 1 0 1 0 1 0 1 0 1 0 1 0 1 0 1 0 1 0 1
    0 1 0 1 0 1 0 1 0 1 0 1 0 1 0 1 0 1 0 1 7 1 0 1 0 2 0 1 0 1 0 1 0 1 1 3 0 1 1 1 0 1 2 1 0 1
    0 1 0 1 0 1 0 1 0 1 0 1 0 1 0 1 0 5 0 5 0 1 0 1 0 1 0 1 0 1 0 1 0 1 0 4 0 1 0 6 0 1 0 1 0 1
    0 1 0 s 1 2 19 4 0 j 1f c 1x a 9 6 n 3 0 1 1c 2 z 18 1s e a 6 u 1 1i 9 d 2 9 6 m 3 20 o 2 2
    f 2 4 a 5 2 5 2 5 9 6 1 6 1 16 5 8 2f 16 1 1 2 9 6 8mb 6sq 1 1 0 1 1 a 0 1 0 1 1 2 2 6s 0 ld
    f 1v 0 b0 b 1 p 1 i 1 1 1 e 2 d y 3e 76 0 3m s 3 1c f 0 v v d j 1 7 6 16 5 t 2 z 4 7 2g 39 2
    9 1a z 4 13 8 1f 1f a 1 e 1 6 1 1 1v 8m 9 l a 7 o 0 3j 5 2 0 1 17 1 1 3 0 2 m a m 9 u 1t i 1
    1 a l a p 1y 1j 6 1 1s 3 1 1 5 7 1 2 1 s 2 2 4 0 w s 3 s z 7 1 t p 1h a l a i d h 32 20 3b
    1e d 13 8 9 92 15 1 1 3 1 26 s a 0 8 w v l 16 k r m 9 1y v f 9 1n 7 0 d o 7 9 6 1g 1 9 4 3 8
    z 2 0 9 1w 4 3 1 c 1 0 z h 1 10 6 0 1t 6 1 0 1 3 1 e 1 9 7 1m 5 9 6 3 1 7 2 1 2 l 1 6 1 1 1
    4 1 9 2 1 2 2 2 0 6 0 5 6 2 6 3 4 3v 22 5 9 4 3 u 1x 1 0 8 9 4m 1h 2 8 n 5 y 1s 3 0 b 9 12
    1k 7 9 1i q 2 e 4 9 6 6 55 1m 3p 15 l 7 2 0 2 7 1 1 1 t 1 1 2 8 c 9 1y 7 2 19 2 7 1 1 r 1q 8
    0 8 21 3 0 i 20 7b 8 1 18 1 8 f 9 o t 2 l 1 d 21 6 1 1 1 17 3 0 1 1 1 8 8 9 6 5 1 1 1 10 1 1
    1 5 7 9 8m m 55 0 27 pl 6e 5f 218 2o f tq 34h g6 6nt fs 7 u 1 9 6 26 1 9 6 t 2 4 b 1i 9 3 c
    9 9 k 5 i k0 v 3k 22 4 1k 7 g 1s 1 1 1 b 1 e 4qf 8 yd 16 8 6w7 3 1 6 1 1 1 82 19 2 h 3 8 az
    1s4 2y 5 c 3 8 7 9 3 1 3mp 19 2 m 249 1i 4 1d 8 0 e 0 m 4 1 e uo u 69 6 1 g 2 6 1 1 1 4 5x
    18 3 d 2 9 4 0 8x u h 1l yu 6 1 3 1 1 1 e 1 5g b 6 23 15 4 9 4h2 wyn w 37c 7 65 2 4g1 e 5rk
    3z3 3t6"

/-- Marks that need a character before them. -/
def marks : Spans := Spans.ofTable
  "lc 1r 2 0 3 8 1 v 7n 4 7d 18 1 0 1 1 1 1 1 0 20 a 1c k g 0 2t 6 2 5 2 1 1 3 z 0 u q 2j a 1m 8
    9 0 o 3 1 8 1 2 1 4 17 2 1o 7 16 n 1 w 1i 2 1 h 1 6 a 1 t 2 1k 0 1 6 2 1 2 2 9 0 a 1 q 0 2 2
    1k 0 1 4 4 1 2 2 3 0 u 1 3 0 b 2 1k 0 1 7 1 2 1 2 k 1 m 5 1 2 1k 0 1 6 2 1 2 2 7 2 a 1 u 0
    1n 4 3 2 1 3 9 0 14 4 1j 0 1 6 1 2 1 3 7 1 b 1 t 2 1k 0 1 6 1 2 1 3 7 1 b 1 s 3 1j 1 1 6 1 2
    1 3 9 0 a 1 t 2 1y 0 4 5 1 0 1 7 i 1 1p 0 2 6 c 7 2q 0 2 8 b 5 22 1 r 0 1 0 1 0 4 1 1d 1 1 0
    5 6 1 2 1 1 5 5 1 3 1 3 1 3 1 3 1 3 1 b 1 2 9 0 2s j n 3 4 2 1 2 2 6 3 3 d b 1 0 a 3 jj 2 qa
    3 s 2 t 1 u 1 1u t 9 0 4n 1 y 0 3a b 4 b 63 4 1l 9 1 s 2 0 1c d 1 f 1d 4 1b g 12 8 c 2 u c
    1k d 1c j 48 2 1 k 4 0 6 0 2 2 5i 1r 2y7 2 3x 0 2o v fe 3 2z 1 n9w 0 4 9 w 1 28 1 7k 0 3 0 4
    0 n 4 4 0 2b 1 1e h q h d 0 12 7 p c 18 3 1b d 10 0 1v d c 0 8 1 19 2 1e 0 1 2 2 1 5 1 1 0
    15 4 5 1 6k 7 1 1 fn4 0 ld f r1 0 6a 0 45 4 1ae 2 1 1 5 3 14 2 4 0 4l 1 fx 3 ar 1 49 a 1d 3
    3e 2 1h e 15 0 2 1 a 3 19 a 7 0 1p 2 10 d g 1 18 0 c 2 1c d 8 3 1 1 2k b 6 0 4g b l 3 1j 1 1
    6 2 1 2 2 9 0 a 1 2 6 3 4 5c h n 0 29 j 6j 6 2 8 r 1 2a g 2y c 2t e 74 e 6t 5 1 1 2 3 1 0 1
    1 3x 6 2 6 3 0 s 9 14 6 1 3 8 0 9 a 1a f b9 7 1 7 2a l 1 d 3e 5 3 0 1 1 1 6 1 0 1u 4 1 1 1 4
    9n 3 f09 4 1n 6 t4 0 1 1i 7 3 29 0 b 1 f57 1 3mp 19 2 m 249 1i 4 1d 8 0 e 0 m 4 1 e 11s 6 1
    g 2 6 1 1 1 4 79 6 af 0 1p 3 15s 6 31 6"

/-- Characters written from right to left. -/
def rightward : Spans := Spans.ofTable
  "15c q 4 5 17 v 1 9 z 1 1 3 4 2i 1 0 f 1 7 1 a 5 g 0 1 t t 2g b 0 e 16 9 1 a l 4 0 9 0 3 0 n o
    7 a 5 n 1 5 h 15 1cix 0 1vw 5 2 0 1 17 1 1 3 0 2 m a m 9 u 1t i 1 1 a l a p 1y 1j 6 1 1s 0 f
    3 1 2 1 s 16 s 3 s z 7 1 r r 1h a l a i d h 32 20 3b 1e d z 9o 15 6 1 26 s a 0 8 l 16 h 1a k
    r m 16o9 5g 2l x 7 0 4 9"

/-- Marks that take the direction of what they stand on. -/
def directionless : Spans := Spans.ofTable
  "lc 1r 2 0 3 8 1 v 7n 4 7d 18 1 0 1 1 1 1 1 0 20 a 1c k g 0 2t 6 2 5 2 1 1 3 z 0 u q 2j a 1m 8
    9 0 o 3 1 8 1 2 1 4 17 2 1o 7 16 n 1 v 1j 0 1 0 4 7 4 0 3 6 a 1 t 0 1m 0 4 3 8 0 k 1 q 0 2 1
    1l 0 4 1 4 1 2 2 3 0 u 1 3 0 b 1 1l 0 4 4 1 1 4 0 k 1 m 5 1 0 1m 0 2 0 1 3 8 0 7 1 b 1 u 0
    1p 0 c 0 1e 0 3 0 1j 0 1 2 5 2 1 3 7 1 b 1 t 0 1m 0 f 1 k 1 s 1 1l 1 4 3 8 0 k 1 t 0 20 0 7
    2 1 0 2i 0 2 6 c 7 2q 0 2 8 b 5 22 1 r 0 1 0 1 0 1j 1 1 0 5 4 1 0 1 2 1 1 5 5 1 3 1 3 1 3 1
    3 1 3 1 b 1 2 9 0 2u 3 1 5 1 1 2 1 p 1 4 2 g 3 d 0 2 1 6 0 f 0 jj 2 qa 2 t 1 u 1 u 1 1v 6 8
    0 2 a 9 0 4n 1 y 0 3a 2 4 1 9 0 6 2 63 1 2 0 1m 0 1 6 1 0 1 0 2 7 6 9 2 0 1c d 1 f 1d 3 1c 0
    1 4 1 0 5 0 14 8 c 1 w 3 2 1 1 2 1k 0 1 1 3 0 1 2 1m 7 2 1 48 2 1 c 1 6 4 0 6 0 3 1 5i 1r
    2y7 2 3x 0 2o v fe 3 2z 1 n9w 0 4 9 w 1 28 1 7k 0 3 0 4 0 p 1 5 0 47 1 q h d 0 12 7 p a 1a 2
    1c 0 2 3 2 1 13 0 1v 5 2 1 2 1 c 0 8 0 1b 0 1f 0 1 2 2 1 5 1 1 0 16 1 8 0 6m 0 2 0 4 0 fn4 0
    ld f r1 0 6a 0 45 4 1ae 2 1 1 5 3 14 2 4 0 4l 1 fx 3 ar 1 49 a 1d 3 3f 0 1i e 15 0 2 1 a 2
    1d 3 2 1 7 0 1p 2 10 4 1 7 1q 0 c 1 1g 8 a 3 2 0 2n 2 2 0 1 1 6 0 4g 0 3 7 l 1 1l 1 3 0 11 6
    3 4 5f 7 2 2 1 0 n 0 2c 5 1 0 4 1 1 1 6m 3 6 1 1 1 r 1 2d 7 2 0 1 1 2y 0 1 0 2 5 1 0 2t 2 2
    3 1 4 77 8 1 1 74 1 1 0 4 0 40 3 2 1 4 0 w 5 2 1 14 5 2 3 8 0 9 5 2 2 1a c 1 1 ba 6 1 5 2c l
    2 6 1 1 1 1 3e 5 3 0 1 1 1 6 1 0 20 1 3 0 1 0 9n 1 f0b 4 1n 6 t4 0 1r 3 29 0 f5k 1 3mp 19 2
    m 249 1i 4 1d 8 0 e 0 m 4 1 e 11s 6 1 g 2 6 1 1 1 4 79 6 af 0 1p 3 15s 6 31 6"

/-- Characters that join with the characters on both sides. -/
def joinsBoth : Spans := Spans.ofTable
  "17k 0 5 0 1 0 1 4 4 c 1 6 1 1 z 1 9 e i 11 1 1 9 0 1 0 1 1 14 2 2 0 i 2 5 3 1 8 1 0 1 0 1 1 v
    a 3 e 2 3 1 0 2 2 2 5 22 w 2e 4 2 0 1 9 1 0 a 0 1 3 2 0 t 0 2 4 i 9 5 1 2 5 1 e 313 2g e x 1
    0 sd1 1d jf2 4 e 3 1 4 1 2 4f 0 1 0 3 2 1 1 1 0 2 0 a8 w 1 0 ek 2 1 g 17 3 2 b 1a 0 1 1 4 0
    2 1 1 1 1 0 2 0 16xp x"

/-- Characters that join with the character after them in writing. -/
def joinsNext : Spans := Spans.ofTable
  "x9u 0 jfe 0 9 0 fc 0"

/-- Characters that join with the character before them in writing. -/
def joinsFormer : Spans := Spans.ofTable
  "17m 3 1 0 1 0 5 3 l 0 14 2 k h 12 0 2 8 1 0 1 0 2 1 1 0 o 1 w 0 4 4 4 0 9 0 1 0 1 0 2 0 t 0 b
    2 f 1 4 0 1 1 3 1 5i 0 5 1 1 0 a 0 1 2 e 0 1 1 5 i b 0 r 2 1 0 2 1 6 0 1eyz 0 1 0 1 1 3 4 a
    0 3 0 2 0 4c 0 1 2 3 0 2 0 1 1 1 0 b4 0 eo 0 1s 1 1q 2 2 1 2 0 4 1"

/-- Characters that joining passes over. -/
def joinsThrough : Spans := Spans.ofTable
  "lc 1r 2 0 3 8 1 v 7n 4 7d 18 1 0 1 1 1 1 1 0 20 a 1c k g 0 2t 6 2 5 2 1 1 3 z 0 u q 2j a 1m 8
    9 0 o 3 1 8 1 2 1 4 17 2 1o 7 16 n 1 v 1j 0 1 0 4 7 4 0 3 6 a 1 t 0 1m 0 4 3 8 0 k 1 q 0 2 1
    1l 0 4 1 4 1 2 2 3 0 u 1 3 0 b 1 1l 0 4 4 1 1 4 0 k 1 m 5 1 0 1m 0 2 0 1 3 8 0 7 1 b 1 u 0
    1p 0 c 0 1e 0 3 0 1j 0 1 2 5 2 1 3 7 1 b 1 t 0 1m 0 2 0 6 0 5 1 k 1 s 1 1l 1 4 3 8 0 k 1 t 0
    20 0 7 2 1 0 2i 0 2 6 c 7 2q 0 2 8 b 5 22 1 r 0 1 0 1 0 1j 1 1 0 5 4 1 0 1 2 1 1 5 5 1 3 1 3
    1 3 1 3 1 3 1 b 1 2 9 0 2u 3 1 5 1 1 2 1 p 1 4 2 g 3 d 0 2 1 6 0 f 0 jj 2 qa 2 t 1 u 1 u 1
    1v 6 8 0 2 a 9 0 4n 1 y 0 3a 2 4 1 9 0 6 2 63 1 2 0 1m 0 1 6 1 0 1 0 2 7 6 9 2 0 1c d 1 f 1d
    3 1c 0 1 4 1 0 5 0 14 8 c 1 w 3 2 1 1 2 1k 0 1 1 3 0 1 2 1m 7 2 1 48 2 1 c 1 6 4 0 6 0 3 1
    5i 1r 2y7 2 3x 0 2o v fe 3 2z 1 n9w 0 4 9 w 1 28 1 7k 0 3 0 4 0 p 1 5 0 47 1 q h d 0 12 7 p
    a 1a 2 1c 0 2 3 2 1 13 0 1v 5 2 1 2 1 c 0 8 0 1b 0 1f 0 1 2 2 1 5 1 1 0 16 1 8 0 6m 0 2 0 4
    0 fn4 0 ld f r1 0 6a 0 45 4 1ae 2 1 1 5 3 14 2 4 0 4l 1 fx 3 ar 1 49 a 1d 3 3f 0 1i e 15 0 2
    1 a 2 1d 3 2 1 7 0 1p 2 10 4 1 7 1q 0 c 1 1g 8 a 3 2 0 2n 2 2 0 1 1 6 0 4g 0 3 7 l 1 1l 1 3
    0 11 6 3 4 5f 7 2 2 1 0 n 0 2c 5 1 0 4 1 1 1 6m 3 6 1 1 1 r 1 2d 7 2 0 1 1 2y 0 1 0 2 5 1 0
    2t 0 1 0 2 3 1 4 77 8 1 1 74 1 1 0 4 0 40 3 2 1 4 0 w 9 14 5 2 3 8 0 9 5 2 2 1a c 1 1 ba 6 1
    5 1 0 2a l 2 6 1 1 1 1 3e 5 3 0 1 1 1 6 1 0 20 1 3 0 1 0 9n 1 f0b 4 1n 6 t4 0 1r 3 29 0 f5k
    1 3mp 19 2 m 249 1i 4 1d 8 0 e 0 m 4 1 e 11s 6 1 g 2 6 1 1 1 4 79 6 af 0 1p 3 15s 6 31 7"

/-- Greek characters. -/
def greek : Spans := Spans.ofTable
  "oh 0 1 0 1 0 1 0 3 2 i 0 r y 8 0 1 0 1 0 1 0 1 0 1 0 h 0 4 0 2 1 4yx 4 d1 7 8 5 a 7 8 7 8 5 a
    7 8 7 8 0 1 0 1 0 1 0 1 0 1 0 1 0 1f 1 4 0 f 0 9 2 3 1 8 2 1 3 e 0 rji 0"

/-- Hebrew characters. -/
def hebrew : Spans := Spans.ofTable
  "13l 18 1 0 1 1 1 1 1 0 8 q 4 5 1cfd 0"

/-- Japanese and Chinese characters. -/
def eastern : Spans := Spans.ofTable
  "9hh 0 1 0 1l 2d 6 1 2 2h 2 1 6p f e8 533 1s g73 hse 1 1 0 1 1 a 0 1 0 1 1 2 2 n95 0 c 1 cn2 3
    1 6 1 1 1 82 19 2 h 3 fiw wyn w 37c 7 65 2 4g1 e 5rk 3z3 3t6"

end AgendaLinks.Domain.Classes
