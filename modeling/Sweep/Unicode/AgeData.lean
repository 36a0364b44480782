/-!
The version of the standard that assigned each code point; a dash where none did.

Each entry is the length of a run of code points, in hexadecimal, and the value they share.
-/

namespace Sweep.Unicode

def ageRuns : String :=
  "1f6,1.1 4,3.0 1e,1.1 8,3.0 1,3.2 1,4.0 12,3.0 3,4.0 b,4.1 e,5.0 59,1.1 5,3.0 2,4.0 2f,1.1 1,3.0
  a,1.1 5,3.0 11,4.0 46,1.1 9,3.0 1,3.2 8,4.0 5,4.1 3,4.0 2,1.1 1,3.0 d,3.2 4,5.1 2,1.1 2,5.1 2,-
  1,1.1 3,5.0 1,1.1 1,7.0 4,- 7,1.1 1,- 1,1.1 1,- 14,1.1 1,- 2c,1.1 1,5.1 7,1.1 1,3.0 2,3.2 1,1.1
  1,3.0 1,1.1 1,3.0 1,1.1 1,3.0 1,1.1 1,3.0 12,1.1 2,3.1 1,3.2 5,4.0 4,4.1 1,3.0 c,1.1 1,3.0
  42,1.1 1,3.0 c,1.1 1,3.0 29,1.1 1,5.1 2,3.0 2,3.2 4,3.0 35,1.1 2,3.2 2,1.1 2,3.2 2,1.1 2,3.2
  1,5.0 1c,1.1 2,3.0 8,1.1 2,4.1 2,1.1 6,5.0 10,3.2 4,5.0 10,5.1 2,5.2 2,6.0 8,7.0 1,- 26,1.1 2,-
  7,1.1 1,11.0 27,1.1 1,11.0 1,1.1 1,3.0 2,- 2,7.0 1,6.1 1,- 11,2.0 1,4.1 d,2.0 a,1.1 1,5.0 9,1.1
  1,2.0 3,4.1 8,- 1b,1.1 4,- 1,11.0 5,1.1 b,- 4,4.0 1,6.1 1,7.0 5,5.1 1,4.1 1,1.1 9,4.0 5,5.1
  1,1.1 1,6.3 1,14.0 1,4.1 1,1.1 1,6.0 1a,1.1 5,5.1 13,1.1 3,3.0 3,4.0 6,4.1 1,6.0 e,1.1 2,3.2
  48,1.1 2,3.0 5,1.1 1,3.0 f,1.1 1,3.0 1e,1.1 2,4.0 a,1.1 5,3.0 1,4.0 e,3.0 1,- 1e,3.0 3,4.0
  1b,3.0 2,- 3,4.0 1e,4.1 12,5.1 31,3.0 1,3.2 e,- 3b,5.0 2,- 3,11.0 2e,5.2 2,- f,5.2 1,- 1c,6.0
  2,- 1,6.0 1,- b,10.0 5,- 1f,14.0 1,- 2,14.0 5,- 1,16.0 8,14.0 1,6.1 1,7.0 b,6.1 6,7.0 2,8.0
  1,14.0 8,9.0 a,13.0 b,14.0 1,11.0 f,9.0 1,8.0 1b,6.1 1,7.0 1,5.2 3,1.1 1,4.0 35,1.1 2,6.0
  12,1.1 1,5.2 1,6.0 5,1.1 1,5.2 2,6.0 19,1.1 2,5.1 5,6.0 1,7.0 2,5.2 2,5.0 1,4.1 2,5.0 1,7.0
  3,1.1 1,- 8,1.1 2,- 2,1.1 2,- 16,1.1 1,- 7,1.1 1,- 1,1.1 3,- 4,1.1 2,- 1,1.1 1,4.0 7,1.1 2,-
  2,1.1 2,- 3,1.1 1,4.1 8,- 1,1.1 4,- 2,1.1 1,- 5,1.1 2,- 15,1.1 1,5.2 2,10.0 1,11.0 2,- 1,4.0
  1,1.1 1,4.0 1,- 6,1.1 4,- 2,1.1 2,- 16,1.1 1,- 7,1.1 1,- 2,1.1 1,- 2,1.1 1,- 2,1.1 2,- 1,1.1
  1,- 5,1.1 4,- 2,1.1 2,- 3,1.1 3,- 1,5.1 7,- 4,1.1 1,- 1,1.1 7,- f,1.1 1,5.1 1,11.0 a,- 3,1.1
  1,- 7,1.1 1,4.0 1,1.1 1,- 3,1.1 1,- 16,1.1 1,- 7,1.1 1,- 2,1.1 1,- 5,1.1 2,- a,1.1 1,- 3,1.1
  1,- 3,1.1 2,- 1,1.1 f,- 1,1.1 3,4.0 2,- a,1.1 1,6.1 1,4.0 7,- 1,8.0 6,10.0 1,- 3,1.1 1,- 8,1.1
  2,- 2,1.1 2,- 16,1.1 1,- 7,1.1 1,- 2,1.1 1,- 1,4.0 4,1.1 2,- 8,1.1 1,5.1 2,- 2,1.1 2,- 3,1.1
  7,- 1,13.0 2,1.1 4,- 2,1.1 1,- 3,1.1 2,5.1 2,- b,1.1 1,4.0 6,6.0 a,- 2,1.1 1,- 6,1.1 3,- 3,1.1
  1,- 4,1.1 3,- 2,1.1 1,- 1,1.1 1,- 2,1.1 3,- 2,1.1 3,- 3,1.1 3,- 8,1.1 1,4.1 3,1.1 4,- 5,1.1 3,-
  3,1.1 1,- 4,1.1 2,- 1,5.1 6,- 1,1.1 e,- 1,4.1 c,1.1 8,4.0 5,- 1,7.0 3,1.1 1,11.0 8,1.1 1,-
  3,1.1 1,- 17,1.1 1,- a,1.1 1,7.0 5,1.1 2,- 1,14.0 1,5.1 7,1.1 1,- 3,1.1 1,- 4,1.1 7,- 2,1.1 1,-
  2,5.1 1,8.0 2,- 1,14.0 2,- 2,1.1 2,5.1 2,- a,1.1 7,- 1,12.0 8,5.1 1,9.0 1,7.0 2,1.1 1,11.0
  8,1.1 1,- 3,1.1 1,- 17,1.1 1,- a,1.1 1,- 5,1.1 2,- 2,4.0 7,1.1 1,- 3,1.1 1,- 4,1.1 7,- 2,1.1
  6,- 1,14.0 1,1.1 1,- 2,1.1 2,5.0 2,- a,1.1 1,- 2,5.0 1,15.0 c,- 1,10.0 1,7.0 2,1.1 1,13.0 8,1.1
  1,- 3,1.1 1,- 17,1.1 1,6.0 10,1.1 1,6.0 2,10.0 1,5.1 6,1.1 1,5.1 1,- 3,1.1 1,- 4,1.1 1,6.0
  1,9.0 4,- 3,9.0 1,1.1 7,9.0 1,8.0 2,1.1 2,5.1 2,- a,1.1 6,5.1 3,9.0 7,5.1 1,- 1,13.0 2,3.0 1,-
  12,3.0 3,- 18,3.0 1,- 9,3.0 1,- 1,3.0 2,- 7,3.0 3,- 1,3.0 4,- 6,3.0 1,- 1,3.0 1,- 8,3.0 6,-
  a,7.0 2,- 3,3.0 c,- 3a,1.1 4,- 1d,1.1 25,- 2,1.1 1,- 1,1.1 1,- 1,12.0 2,1.1 1,12.0 1,1.1 1,-
  1,12.0 1,1.1 6,12.0 4,1.1 1,12.0 7,1.1 1,12.0 3,1.1 1,- 1,1.1 1,- 1,1.1 2,12.0 2,1.1 1,12.0
  d,1.1 1,12.0 3,1.1 2,- 5,1.1 1,- 1,1.1 1,- 6,1.1 1,15.0 1,- a,1.1 2,- 2,1.1 2,6.1 20,- 48,2.0
  1,- 21,2.0 1,3.0 2,5.1 4,- 1b,2.0 4,6.0 6,2.0 1,3.0 1,2.0 1,- 15,2.0 3,3.0 7,2.0 1,3.0 1,2.0
  3,3.0 1,- f,3.0 1,- 1,5.1 1,3.0 2,4.1 3,5.1 4,5.2 2,6.0 25,- 22,3.0 1,5.1 5,3.0 1,5.1 2,3.0
  1,5.1 7,3.0 3,5.1 4,3.0 6,5.1 1a,3.0 40,5.1 4,5.2 2,5.1 26,1.1 1,- 1,6.1 5,- 1,6.1 2,- 27,1.1
  2,3.2 2,4.1 1,1.1 1,4.1 3,6.1 5a,1.1 5,5.2 44,1.1 5,5.2 52,1.1 6,5.2 7,3.0 1,4.1 3f,3.0 1,4.1
  1,3.0 1,- 4,3.0 2,- 7,3.0 1,- 1,3.0 1,- 4,3.0 2,- 27,3.0 1,4.1 1,3.0 1,- 4,3.0 2,- 1f,3.0 1,4.1
  1,3.0 1,- 4,3.0 2,- 7,3.0 1,- 1,3.0 1,- 4,3.0 2,- 7,3.0 1,4.1 7,3.0 1,- 17,3.0 1,4.1 1f,3.0
  1,4.1 1,3.0 1,- 4,3.0 2,- 7,3.0 1,4.1 27,3.0 1,4.1 13,3.0 2,- 2,6.0 2,4.1 1c,3.0 3,- 1a,4.1 6,-
  55,3.0 1,8.0 2,- 6,8.0 2,- 1,5.2 276,3.0 9,5.2 1d,3.0 3,- 51,3.0 8,7.0 7,- d,3.2 1,14.0 7,3.2
  1,14.0 9,- 1,14.0 17,3.2 9,- 14,3.2 c,- d,3.2 1,- 3,3.2 1,- 2,3.2 c,- 5d,3.0 1,4.0 2,- a,3.0
  6,- a,4.0 6,- f,3.0 1,14.0 a,3.0 6,- 58,3.0 1,11.0 7,- 2a,3.0 1,5.1 5,- 46,5.2 a,- 1d,4.0 2,7.0
  1,- c,4.0 4,- c,4.0 4,- 1,4.0 3,- 2a,4.0 2,- 5,4.0 b,- 2a,4.1 2,5.2 4,- 1a,4.1 6,- a,4.1 1,5.2
  3,- 2,4.1 20,4.0 1c,4.1 2,- 2,4.1 3f,5.2 1,- 1d,5.2 2,- b,5.2 6,- a,5.2 6,- e,5.2 2,- f,7.0
  2,13.0 e,14.0 31,- 4c,5.0 1,14.0 1,- 2,16.0 2d,5.0 2,14.0 1,16.0 2b,5.1 3,6.1 c,5.1 6,6.1
  34,6.0 8,- 4,6.0 38,5.1 3,- f,5.1 3,- 33,5.1 9,9.0 2,16.0 5,- 2b,11.0 2,- 3,11.0 8,6.1 8,-
  23,5.2 4,6.1 1,10.0 2,7.0 1,12.0 5,- 6c,4.0 58,4.1 7,5.0 1c,5.1 f,7.0 4,10.0 1,14.0 1,9.0 1,6.0
  1,5.2 2,5.0 9b,1.1 1,2.0 4,5.1 5a,1.1 6,5.1 16,1.1 2,- 6,1.1 2,- 26,1.1 2,- 6,1.1 2,- 8,1.1 1,-
  1,1.1 1,- 1,1.1 1,- 1,1.1 1,- 1f,1.1 2,- 35,1.1 1,- f,1.1 1,- e,1.1 2,- 6,1.1 1,- 13,1.1 2,-
  3,1.1 1,- 9,1.1 1,- 2f,1.1 1,3.0 17,1.1 1,3.2 6,3.0 5,3.2 2,4.0 2,4.1 1,3.2 7,4.1 5,3.2 1,5.1
  1,- 4,6.3 7,1.1 1,3.2 2,- 1b,1.1 1,- 5,4.1 8,6.0 3,- b,1.1 1,2.0 1,2.1 3,3.0 2,3.2 4,4.1 3,5.2
  1,6.0 1,6.2 3,7.0 1,8.0 1,10.0 1,14.0 f,- 12,1.1 2,3.0 7,3.2 1,4.1 4,5.0 1,5.1 f,- 39,1.1 2,3.0
  1,4.0 1,4.1 f,3.2 1,4.1 2,5.0 1,5.1 3,5.2 30,1.1 1,3.0 1,5.0 4,5.1 1,5.2 2,8.0 4,- 5b,1.1 9,3.0
  c,3.2 f2,1.1 e,3.2 1,1.1 1,3.0 79,1.1 1,3.0 1,3.2 1e,3.0 34,3.2 2,4.0 b,4.1 c,5.0 1,5.2 b,6.0
  7,7.0 4,9.0 1,10.0 25,1.1 2,3.0 3,16.0 16,- b,1.1 15,- 8b,1.1 14,3.2 1,4.0 96,1.1 a,3.2 50,1.1
  8,3.0 8,3.2 14,1.1 2,4.0 2,3.2 1,4.1 1,3.0 56,1.1 2,3.0 c,3.2 2,4.1 a,3.2 8,4.0 b,4.1 1,5.1
  2,5.2 2,4.0 10,4.1 1,5.0 a,5.1 3,5.2 4,5.1 a,5.2 1,6.0 13,5.2 1,6.0 1,5.2 4,6.0 18,5.2 1,7.0
  4,1.1 1,6.0 4,1.1 2,6.0 1c,1.1 1,6.0 23,1.1 1,6.0 1,1.1 1,6.0 4,1.1 3,6.0 1,1.1 1,5.2 7,1.1
  2,6.0 7,1.1 e,3.2 1f,1.1 3,6.0 18,1.1 1,6.0 e,1.1 1,6.0 7,4.1 4,5.0 1,6.1 1,5.1 1,6.1 2,6.0
  1c,3.2 4,5.1 10,3.2 100,3.0 200,3.2 e,4.0 6,4.1 7,5.0 5,5.1 4,5.0 29,5.1 3,7.0 5,5.1 5,5.2
  1a,7.0 2,- 20,7.0 1,- 1,13.0 22,7.0 3,11.0 c,7.0 1,12.0 8,7.0 1,10.0 19,11.0 4,8.0 f,11.0
  1,12.0 2f,4.1 1,14.0 2f,4.1 1,14.0 d,5.0 3,5.1 1,5.2 3,5.1 4,5.0 6,5.1 2,5.2 6b,4.1 7,5.2 2,6.1
  5,- 2d,4.1 1,- 1,6.1 5,- 1,6.1 2,- 36,4.1 2,6.1 7,- 1,4.1 1,6.0 e,- 1,6.0 17,4.1 9,- 7,4.1 1,-
  7,4.1 1,- 7,4.1 1,- 7,4.1 1,- 7,4.1 1,- 7,4.1 1,- 7,4.1 1,- 7,4.1 1,- 20,5.1 18,4.1 4,5.1 2,4.1
  13,5.1 1,5.2 a,6.1 7,7.0 2,9.0 5,10.0 5,11.0 1,12.0 3,13.0 b,14.0 22,- 1a,3.0 1,- 59,3.0 c,-
  d6,3.0 1a,- c,3.0 4,15.1 38,1.1 3,3.0 3,3.2 1,3.0 1,1.1 1,- 54,1.1 2,3.2 2,- 6,1.1 2,3.2 5e,1.1
  1,3.2 5,- 28,1.1 1,5.1 1,10.0 1,11.0 1,- 5e,1.1 1,- 10,1.1 18,3.0 3,6.0 5,13.0 10,4.1 14,5.1
  2,16.0 9,- 1,15.1 10,3.2 1d,1.1 2,4.0 1,- 24,1.1 c,5.2 1,4.0 f,3.2 1c,1.1 2,4.0 1,4.1 32,1.1
  f,3.2 c,1.1 4,4.0 2f,1.1 1,12.1 77,1.1 4,4.0 63,1.1 2,4.0 1f,1.1 1,4.0 19b6,3.0 a,13.0 40,4.0
  51a6,1.1 16,4.1 8,5.1 8,5.2 1,6.1 9,8.0 15,10.0 5,11.0 d,13.0 3,14.0 48d,3.0 3,- 12,3.0 2,3.2
  10,3.0 1,3.2 c,3.0 1,3.2 3,3.0 1,3.2 1,3.0 9,- 30,5.2 12c,5.1 14,- 20,5.1 2,6.0 12,5.1 8,6.1
  1c,5.1 6,7.0 1,8.0 1,6.1 58,5.2 8,- 17,4.1 4,5.0 5,5.1 2,5.0 6b,5.1 2,6.0 1,8.0 2,6.0 2,6.1
  c,7.0 a,6.0 1,6.1 3,7.0 1,9.0 1,11.0 2,7.0 6,8.0 2,11.0 6,12.0 2,14.0 5,12.0 4,13.0 3,16.0 2,-
  2,14.0 1,- 1,14.0 1,- 5,14.0 3,16.0 15,- 3,14.0 2,13.0 1,7.0 2,6.1 1,6.0 5,5.1 2c,4.1 1,13.0
  3,- a,5.2 6,- 38,5.0 8,- 45,5.1 1,9.0 8,- c,5.1 6,- 1c,5.2 2,8.0 2,11.0 54,5.1 b,- 1,5.1 1d,5.2
  3,- 4e,5.2 1,- b,5.2 4,- 2,5.2 1f,7.0 1,- 37,5.1 9,- e,5.1 2,- a,5.1 2,- 4,5.1 1c,5.2 4,7.0
  43,5.2 18,- 5,5.2 17,6.1 a,- 6,6.0 2,- 6,6.0 2,- 6,6.0 9,- 7,6.0 1,- 7,6.0 1,- 30,7.0 4,8.0
  2,7.0 2,12.0 4,13.0 4,- 50,8.0 2e,5.2 2,- a,5.2 6,- 2ba4,2.0 c,- 17,5.2 4,- 31,5.2 4,- 800,2.0
  1a2e,1.1 2,6.1 3b,3.2 3,5.2 2,- 6a,4.1 26,- 7,1.1 c,- 5,1.1 5,- 1,3.0 19,1.1 1,- 5,1.1 1,-
  1,1.1 1,- 2,1.1 1,- 2,1.1 1,- 6c,1.1 10,6.0 1,14.0 10,- 16d,1.1 10,14.0 40,1.1 2,- 36,1.1 7,-
  1,14.0 20,3.1 c,1.1 1,3.2 1,4.0 2,14.0 10,3.2 a,4.1 6,- 4,1.1 3,5.1 7,7.0 2,8.0 15,1.1 2,3.2
  2,4.0 a,1.1 1,- 13,1.1 1,- 4,1.1 4,- 3,1.1 1,3.2 1,1.1 1,- 87,1.1 2,- 1,1.1 1,- 5e,1.1 2,3.2
  5e,1.1 3,- 6,1.1 2,- 6,1.1 2,- 6,1.1 2,- 3,1.1 3,- 7,1.1 1,- 7,1.1 a,- 3,3.0 1,2.1 3,1.1 c,4.0
  1,- 1a,4.0 1,- 13,4.0 1,- 2,4.0 1,- f,4.0 2,- e,4.0 22,- 7b,4.0 5,- 3,4.0 4,- 2d,4.0 3,- 9,4.0
  4b,4.1 2,7.0 2,9.0 1,- c,5.1 1,13.0 3,- 1,7.0 2f,- 2e,5.1 82,- 1d,5.1 3,- 31,5.1 f,- 1c,7.0 4,-
  1f,3.1 1,7.0 4,3.1 9,- 3,10.0 1b,3.1 5,- 2b,7.0 5,- 1e,4.0 1,- 1,4.0 24,4.1 4,- e,4.1 2a,-
  26,3.1 2,4.0 26,3.1 50,4.0 2,- a,4.0 6,- 24,9.0 4,- 24,9.0 4,- 28,7.0 8,- 34,7.0 b,- 1,7.0
  b,14.0 1,- f,14.0 1,- 7,14.0 1,- 2,14.0 1,- b,14.0 1,- f,14.0 1,- 7,14.0 1,- 2,14.0 3,- 34,16.0
  c,- 137,7.0 9,- 16,7.0 a,- 8,7.0 18,- 6,14.0 1,- 2a,14.0 1,- 9,14.0 45,- 6,4.0 2,- 1,4.0 1,-
  2c,4.0 1,- 2,4.0 3,- 1,4.0 2,- 1,4.0 16,5.2 1,- 9,5.2 3f,7.0 8,- 9,7.0 30,- 13,8.0 1,- 2,8.0
  5,- 5,8.0 1a,5.0 2,5.2 3,- 1,5.0 1a,5.1 5,- 1,5.1 40,- 38,6.1 4,- 2,8.0 2,6.1 10,8.0 2,- 2e,8.0
  4,4.1 1,- 2,4.1 5,- 8,4.1 1,- 3,4.1 1,- 1b,4.1 2,11.0 2,- 3,4.1 4,- 9,4.1 1,11.0 7,- 9,4.1 7,-
  20,5.2 20,7.0 20,- 27,7.0 4,- c,7.0 9,- 36,5.2 3,- 1d,5.2 2,- 1b,5.2 5,- 8,5.2 12,7.0 7,- 4,7.0
  c,- 7,7.0 50,- 49,5.2 37,- 33,8.0 d,- 33,8.0 7,- 6,8.0 28,11.0 8,- a,11.0 6,- 26,16.0 3,-
  1d,16.0 8,- 2,16.0 d0,- 1f,5.2 1,- 2a,13.0 1,- 3,13.0 2,- 2,13.0 10,- 3,16.0 37,- 1,16.0 3,15.0
  28,11.0 8,- 2a,11.0 16,- 1a,14.0 26,- 1c,13.0 14,- 17,12.0 9,- 4e,6.0 4,- 1e,6.0 6,14.0 9,-
  1,7.0 42,5.2 1,14.0 a,- 1,11.0 2,- 19,6.1 7,- a,6.1 6,- 35,6.1 1,- e,6.1 3,11.0 1,13.0 8,-
  27,7.0 9,- 49,6.1 4,8.0 1,7.0 2,13.0 a,6.1 1,7.0 5,8.0 1,- 14,7.0 b,- 12,7.0 1,- 2b,7.0 1,9.0
  3,15.0 3e,- 7,8.0 1,- 1,8.0 1,- 4,8.0 1,- f,8.0 1,- b,8.0 6,- 3b,7.0 5,- a,7.0 6,- 1,8.0 3,7.0
  1,- 8,7.0 2,- 2,7.0 2,- 16,7.0 1,- 7,7.0 1,- 2,7.0 1,- 5,7.0 1,- 1,11.0 9,7.0 2,- 2,7.0 2,-
  3,7.0 2,- 1,8.0 6,- 1,7.0 5,- 7,7.0 2,- 7,7.0 3,- 5,7.0 b,- a,16.0 1,- 1,16.0 2,- 1,16.0 1,-
  26,16.0 1,- a,16.0 1,- 1,16.0 2,- 1,16.0 1,- 4,16.0 1,- a,16.0 1,- 2,16.0 8,- 2,16.0 1d,-
  5a,9.0 1,13.0 1,9.0 1,- 1,9.0 1,11.0 1,12.0 2,13.0 1e,- 48,7.0 8,- a,7.0 a6,- 36,7.0 2,- 12,7.0
  14,8.0 22,- 45,7.0 b,- a,7.0 6,- d,9.0 13,- 38,6.1 1,12.0 1,14.0 6,- a,6.1 6,- 14,16.0 1c,-
  1a,8.0 1,11.0 2,- f,8.0 4,- 10,8.0 7,14.0 b9,- 3c,11.0 64,- 53,7.0 c,- 1,7.0 7,13.0 2,- 1,13.0
  2,- 8,13.0 1,- 2,13.0 1,- 1e,13.0 1,- 2,13.0 2,- c,13.0 9,- a,13.0 46,- 8,12.0 2,- 2e,12.0 2,-
  b,12.0 1b,- 48,10.0 8,- 34,10.0 2,12.0 17,10.0 1,11.0 5,10.0 d,- 10,14.0 39,7.0 7,- a,15.0 b6,-
  22,16.0 e,- a,16.0 6,- 9,9.0 1,- 2d,9.0 1,- e,9.0 a,- 1d,9.0 3,- 20,9.0 2,- 16,9.0 1,- e,9.0
  49,- 7,10.0 1,- 2,10.0 1,- 2c,10.0 3,- 1,10.0 1,- 2,10.0 1,- 9,10.0 8,- a,10.0 6,- 6,11.0 1,-
  2,11.0 1,- 25,11.0 1,- 2,11.0 1,- 6,11.0 7,- a,11.0 136,- 19,11.0 7,- 11,15.0 1,- 29,15.0 3,-
  1c,15.0 1,16.0 55,- 1,13.0 f,- 32,12.0 d,- 1,12.0 36f,5.0 2a,7.0 1,8.0 66,- 63,5.0 c,7.0 1,-
  4,5.0 1,7.0 b,- c4,8.0 a4c,- 63,14.0 d,- 42f,5.2 1,15.0 9,12.0 1d,15.0 a,- f9b,16.0 5,- 247,8.0
  1ab9,- 3a,16.0 6c6,- 239,6.0 7,- 1f,7.0 1,- a,7.0 4,- 2,7.0 4f,14.0 1,- a,14.0 6,- 1e,7.0 2,-
  6,7.0 a,- 46,7.0 a,- a,7.0 1,- 7,7.0 1,- 15,7.0 5,- 13,7.0 1b0,- 3a,16.0 c6,- 5b,11.0 65,-
  45,6.1 6,12.0 4,- 1,12.0 2f,6.1 9,12.0 7,- 11,6.1 40,- 1,9.0 1,10.0 2,12.0 1,13.0 b,- 2,13.0
  e,- 17ed,9.0 5,11.0 6,12.0 8,- 2f3,9.0 1e3,13.0 29,- 1,16.0 9,13.0 22e7,- 4,14.0 1,- 7,14.0 1,-
  2,14.0 1,- 2,6.0 11d,10.0 4,14.0 f,- 1,15.0 1d,- 3,12.0 2,- 1,15.0 e,- 4,12.0 8,- 18c,10.0
  904,- 6b,7.0 5,- d,7.0 3,- 9,7.0 7,- a,7.0 2,- 8,7.0 f5c,- fa,16.0 6,- 1b4,16.0 4c,- 2e,14.0
  2,- 17,14.0 9,- 74,14.0 3c,- f6,3.1 a,- 27,3.1 2,- 1,5.1 b4,3.1 b,8.0 2,14.0 15,- 46,4.1 7a,-
  14,15.0 c,- 14,11.0 c,- 57,4.0 9,- 12,5.0 7,11.0 87,- 55,3.1 1,- 47,3.1 1,- 2,3.1 2,- 1,3.1 2,-
  2,3.1 2,- 4,3.1 1,- c,3.1 1,- 1,3.1 1,- 4,3.1 1,4.0 2,3.1 1,- 41,3.1 1,- 4,3.1 2,- 8,3.1 1,-
  7,3.1 1,- 1c,3.1 1,- 4,3.1 1,- 5,3.1 1,- 1,3.1 3,- 7,3.1 1,- 152,3.1 2,4.1 2,- 122,3.1 2,5.0
  2,- 32,3.1 28c,8.0 f,- 5,8.0 1,- f,8.0 450,- 1f,14.0 6,- 6,15.0 d5,- 7,9.0 1,- 11,9.0 2,- 7,9.0
  1,- 2,9.0 1,- 5,9.0 5,- 3e,15.0 21,- 1,15.0 70,- 2d,12.0 3,- e,12.0 2,- a,12.0 4,- 2,12.0 140,-
  1f,14.0 11,- 3a,12.0 5,- 1,12.0 1d0,- 2a,15.0 d6,- 2b,16.0 4,- 1,16.0 1e0,- 7,14.0 1,- 4,14.0
  1,- 2,14.0 1,- f,14.0 1,- c5,7.0 2,- 10,7.0 29,- 4b,9.0 1,12.0 4,- a,9.0 4,- 2,9.0 311,-
  44,11.0 4c,- 3d,12.0 c2,- 4,6.1 1,- 1b,6.1 1,- 2,6.1 1,- 1,6.1 2,- 1,6.1 1,- a,6.1 1,- 4,6.1
  1,- 1,6.1 1,- 1,6.1 6,- 1,6.1 4,- 1,6.1 1,- 1,6.1 1,- 1,6.1 1,- 3,6.1 1,- 2,6.1 1,- 1,6.1 2,-
  1,6.1 1,- 1,6.1 1,- 1,6.1 1,- 1,6.1 1,- 1,6.1 1,- 2,6.1 1,- 1,6.1 2,- 4,6.1 1,- 7,6.1 1,- 4,6.1
  1,- 4,6.1 1,- 1,6.1 1,- a,6.1 1,- 11,6.1 5,- 3,6.1 1,- 5,6.1 1,- 11,6.1 34,- 2,6.1 10e,- 2c,5.1
  4,- 64,5.1 c,- f,6.0 2,- e,6.0 1,7.0 1,- f,6.0 1,- f,6.0 16,7.0 a,- b,5.2 2,7.0 3,13.0 1f,5.2
  1,11.0 1,6.0 1,5.2 b,6.0 1,5.2 1,6.0 1,5.2 2,6.0 1,5.2 3,6.0 1,5.2 3,6.0 5,5.2 8,6.0 1,5.2
  7,6.0 1,5.2 a,6.0 2,6.1 1,12.0 3,13.0 9,6.0 1,5.2 1,6.0 2,5.2 2,6.0 1,5.2 a,6.0 4,5.2 2,6.0
  1,5.2 a,6.0 12,9.0 1,13.0 38,- 1a,6.0 1,5.2 2,6.0 d,- 22,5.2 9,6.0 1,9.0 4,- 9,5.2 7,- 2,6.0
  e,- 6,10.0 9a,- 21,6.0 c,7.0 3,8.0 6,6.0 1,7.0 46,6.0 1,7.0 2,8.0 14,6.0 c,7.0 25,6.0 1,7.0
  5,6.0 4,7.0 5,8.0 c,7.0 11,6.0 7,7.0 8,8.0 3f,6.0 1,7.0 1,6.0 1,7.0 b6,6.0 1,7.0 4,6.0 2,7.0
  1,8.0 3e,6.0 2,7.0 4,6.1 7,7.0 5,8.0 18,6.0 12,7.0 1,9.0 29,7.0 1,9.0 56,7.0 5,6.0 1,6.1 10,6.0
  1,6.1 3,6.0 1,6.1 1,6.0 1,6.1 1,6.0 1,6.1 1,6.0 1,6.1 3,6.0 1,6.1 6,6.0 2,6.1 4,6.0 1,6.1 1,6.0
  2,6.1 4,6.0 1,6.1 c,6.0 2,7.0 2,8.0 b,6.0 30,7.0 46,6.0 a,7.0 1,8.0 2,9.0 2,10.0 1,12.0 2,13.0
  4,- 1,15.0 3,14.0 d,7.0 3,- 4,7.0 3,9.0 2,10.0 1,11.0 1,12.0 2,13.0 3,- 74,6.0 3,15.0 4,-
  5,15.0 55,7.0 4,11.0 1,15.0 6,- c,12.0 4,- 1,14.0 f,- c,7.0 4,- 38,7.0 8,- a,7.0 6,- 28,7.0 8,-
  1e,7.0 2,- 2,13.0 a,16.0 4,- 2,16.0 3e,- c,10.0 1,13.0 3,12.0 9,8.0 6,9.0 1,10.0 8,9.0 8,10.0
  1,9.0 2,10.0 c,9.0 1,12.0 c,9.0 1,10.0 3,11.0 f,9.0 d,10.0 5,11.0 1,12.0 1,13.0 4,11.0 2,13.0
  1,14.0 1,11.0 1,12.0 4,11.0 5,8.0 d,9.0 6,10.0 b,11.0 2,13.0 6,12.0 3,13.0 2,12.0 a,11.0 6,12.0
  1,8.0 2,11.0 8,12.0 1,13.0 1,14.0 3,12.0 17,10.0 19,11.0 54,12.0 c,- e,11.0 2,- 4,12.0 1,13.0
  3,15.0 3,12.0 2,14.0 3,- 3,12.0 4,13.0 2,15.0 1,16.0 5,- 1,16.0 6,12.0 13,13.0 4,14.0 3,15.0
  7,13.0 4,14.0 3,15.0 1,16.0 1,15.0 3,13.0 3,14.0 1,16.0 7,- 2,15.0 7,13.0 3,14.0 2,15.0 1,16.0
  2,- 1,16.0 8,14.0 1,15.0 1,16.0 6,- 7,14.0 2,15.0 7,- 93,13.0 1,- 37,13.0 25,16.0 a,13.0 404,-
  2,2.0 a6d7,3.1 7,13.0 2,14.0 20,- 1035,5.2 4,14.0 1,15.0 6,- de,6.0 2,- 1682,8.0 e,- 1d31,10.0
  f,- 26e,15.1 9a2,- 21e,3.1 5e0,- 2,2.0 134b,13.0 5,- 1060,15.0 dc4e,- 2,2.0 fffe,- 2,2.0 fffe,-
  2,2.0 fffe,- 2,2.0 fffe,- 2,2.0 fffe,- 2,2.0 fffe,- 2,2.0 fffe,- 2,2.0 fffe,- 2,2.0 fffe,-
  2,2.0 fffe,- 2,2.0 1,- 1,3.1 1e,- 60,3.1 80,- f0,4.0 fe0e,- 20002,2.0"

end Sweep.Unicode
